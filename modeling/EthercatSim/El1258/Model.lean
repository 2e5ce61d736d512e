import EthercatSim.VirtualSlave.Model

/-!
# `El1258Slave`

The model of `apps/slaves/sim/el1258_subs.h`, a digital input terminal with
eight channels.  `El1258` holds the members that the subclass adds; the object
itself is a `VirtualSlave El1258`, and the instance below is its table of
overridden functions.

The constants are those of `el1258_constants.h`.  `setChannelState` takes the
reading of `steady_clock` as an argument, in nanoseconds.
-/

namespace EthercatSim

open Kickcat

namespace El1258

/-! ## Constants -/

abbrev CHANNEL_COUNT : Nat := 8
abbrev CHANNEL_COUNT_U8 : UInt8 := 8
abbrev CHANNEL_MAX : Int := 8

def VENDOR_ID : UInt32 := 0x00000002
def PRODUCT_CODE : UInt32 := 0x04EA3052
def REVISION : UInt32 := 0x00110000
def DEVICE_TYPE_CODE : UInt32 := 0x00000000
def HARDWARE_VERSION_VALUE : UInt32 := 0x00000001
def SOFTWARE_VERSION_VALUE : UInt32 := 0x00000001
def SERIAL_NUMBER_PLACEHOLDER : UInt32 := 0x00000000
def IDENTITY_ENTRY_COUNT : UInt32 := 4

abbrev OBJ_DEVICE_TYPE : UInt16 := 0x1000
abbrev OBJ_DEVICE_NAME : UInt16 := 0x1008
abbrev OBJ_HARDWARE_VERSION : UInt16 := 0x1009
abbrev OBJ_SOFTWARE_VERSION : UInt16 := 0x100A
abbrev OBJ_IDENTITY : UInt16 := 0x1018
abbrev OBJ_DIGITAL_INPUT : UInt16 := 0x6000
abbrev OBJ_DIGITAL_STATUS : UInt16 := 0x6001
abbrev OBJ_DIGITAL_AGGREGATE : UInt16 := 0x6002
abbrev OBJ_INVERT_MASK : UInt16 := 0x8000
abbrev OBJ_DEBOUNCE_TIME : UInt16 := 0x8001
abbrev OBJ_ERROR_REGISTER : UInt16 := 0x8002
abbrev OBJ_MANUFACTURER_STATUS : UInt16 := 0x8003
abbrev OBJ_ERROR_HISTORY : UInt16 := 0x8004

abbrev PDO_MAPPING_BASE : UInt16 := 0x1A00
abbrev PDO_MAPPING_STRIDE : UInt16 := 0x0004
abbrev PDO_ENTRY_BIT_LENGTH : UInt8 := 1
abbrev PDO_ASSIGN_TX : UInt16 := 0x1C13

def CHANNEL_MASK : UInt32 := 0xFF
def STATUS_INPUT_HIGH : UInt32 := 0x01
def DEBOUNCE_FILTER_MS : Int := 3
def BYTE_MASK : UInt32 := 0xFF
def WORD_MASK : UInt32 := 0xFFFF

/-- `makeChannelMapping` -/
def makeChannelMapping (subindex : UInt8) : UInt32 :=
  (OBJ_DIGITAL_INPUT.toUInt32 <<< 16) ||| (subindex.toUInt32 <<< 8) |||
    PDO_ENTRY_BIT_LENGTH.toUInt32

/-- `channelFromMapping`, computed in `int`. -/
def channelFromMapping (mappingIndex : UInt16) : Int :=
  ((mappingIndex.toNat : Int) - PDO_MAPPING_BASE.toNat).tdiv PDO_MAPPING_STRIDE.toNat + 1

/-- The case labels of the mapping objects, one for each channel. -/
def pdoMappingObjects : List UInt16 :=
  [PDO_MAPPING_BASE + 0 * PDO_MAPPING_STRIDE, PDO_MAPPING_BASE + 1 * PDO_MAPPING_STRIDE,
    PDO_MAPPING_BASE + 2 * PDO_MAPPING_STRIDE, PDO_MAPPING_BASE + 3 * PDO_MAPPING_STRIDE,
    PDO_MAPPING_BASE + 4 * PDO_MAPPING_STRIDE, PDO_MAPPING_BASE + 5 * PDO_MAPPING_STRIDE,
    PDO_MAPPING_BASE + 6 * PDO_MAPPING_STRIDE, PDO_MAPPING_BASE + 7 * PDO_MAPPING_STRIDE]

/-- `ChannelFilter`: the debounce filter of one channel. -/
structure ChannelFilter where
  rawState : Bool
  debounceActive : Bool
  debounceStart : Int
  deriving DecidableEq, Repr, Inhabited

end El1258

open El1258

/-- The members that `El1258Slave` adds. -/
structure El1258 where
  channels : Cells Bool CHANNEL_COUNT
  channelFilters : Cells ChannelFilter CHANNEL_COUNT
  invertMask : UInt32
  debounceMs : UInt32
  errorRegister : UInt32
  manufacturerStatus : UInt32
  errorCount : UInt32
  mapCount : UInt8
  mappings : Cells UInt32 CHANNEL_COUNT
  assignCount : UInt8
  assigned : Bool

namespace El1258

/-- The default member initialisers. -/
def initial : El1258 where
  channels := Cells.fill false
  channelFilters := Cells.fill ⟨false, false, 0⟩
  invertMask := 0
  debounceMs := 0
  errorRegister := 0
  manufacturerStatus := 0
  errorCount := 0
  mapCount := 0
  mappings := Cells.fill 0
  assignCount := 0
  assigned := false

/-! ## Inputs -/

/-- `currentAggregate_`: the channels as a bit field, inverted by the mask. -/
def currentAggregate (d : El1258) : UInt32 :=
  let raw := (List.range CHANNEL_COUNT).foldl
    (fun raw i => raw ||| (if d.channels.get i then (1 : UInt32) <<< i.toUInt32 else 0)) 0
  (raw ^^^ d.invertMask) &&& CHANNEL_MASK

/-- `setChannelState`: a new raw state starts the debounce timer, and the
channel follows once the timer has run. -/
def setChannelState (d : El1258) (channel : Int) (state : Bool) (now : Int) : El1258 :=
  if 1 ≤ channel ∧ channel ≤ CHANNEL_MAX then
    let i := (channel - 1).toNat
    let old := d.channelFilters.get i
    let filter : ChannelFilter := if old.rawState ≠ state then
        { rawState := state, debounceStart := now, debounceActive := true }
      else old
    let elapsedMs := (now - filter.debounceStart).tdiv 1000000
    if filter.debounceActive = true ∧ DEBOUNCE_FILTER_MS ≤ elapsedMs then
      { d with
        channelFilters := d.channelFilters.set i { filter with debounceActive := false }
        channels := d.channels.set i filter.rawState }
    else { d with channelFilters := d.channelFilters.set i filter }
  else d

/-- `getChannelState` -/
def getChannelState (d : El1258) (channel : Int) : Bool :=
  if 1 ≤ channel ∧ channel ≤ CHANNEL_MAX then d.channels.get (channel - 1).toNat else false

/-! ## The object dictionary -/

/-- `onSdoUpload`; `none` is the answer `false`. -/
def onSdoUpload (d : El1258) (index : UInt16) (subindex : UInt8) : Option UInt32 :=
  if index = OBJ_DEVICE_TYPE then some DEVICE_TYPE_CODE
  else if index = OBJ_DEVICE_NAME then some 0
  else if index = OBJ_HARDWARE_VERSION then some HARDWARE_VERSION_VALUE
  else if index = OBJ_SOFTWARE_VERSION then some SOFTWARE_VERSION_VALUE
  else if index = OBJ_IDENTITY then
    if subindex = 0 then some IDENTITY_ENTRY_COUNT
    else if subindex = 1 then some VENDOR_ID
    else if subindex = 2 then some PRODUCT_CODE
    else if subindex = 3 then some REVISION
    else if subindex = 4 then some SERIAL_NUMBER_PLACEHOLDER
    else none
  else if index = OBJ_DIGITAL_INPUT then
    if subindex = 0 then some 8
    else if 1 ≤ subindex ∧ subindex ≤ CHANNEL_COUNT_U8 then
      some (if d.channels.get (subindex.toNat - 1) then 1 else 0)
    else none
  else if index = OBJ_DIGITAL_STATUS then
    if subindex = 0 then some 8
    else if 1 ≤ subindex ∧ subindex ≤ CHANNEL_COUNT_U8 then
      some (if d.channels.get (subindex.toNat - 1) then STATUS_INPUT_HIGH else 0)
    else none
  else if index = OBJ_DIGITAL_AGGREGATE then some d.currentAggregate
  else if index = OBJ_INVERT_MASK then some d.invertMask
  else if index = OBJ_DEBOUNCE_TIME then some d.debounceMs
  else if index = OBJ_ERROR_REGISTER then some d.errorRegister
  else if index = OBJ_MANUFACTURER_STATUS then some d.manufacturerStatus
  else if index = OBJ_ERROR_HISTORY then
    if subindex = 0 then some d.errorCount else none
  else none

/-- `onSdoDownload`.  `mapped` is the flag that `setInputPDOMapped` sets.  The
argument `nbytes` is ignored. -/
def onSdoDownload (d : El1258) (mapped : Bool) (index : UInt16) (subindex : UInt8)
    (value : UInt32) : Bool × Bool × El1258 :=
  if index = OBJ_INVERT_MASK then (true, mapped, { d with invertMask := value &&& BYTE_MASK })
  else if index = OBJ_DEBOUNCE_TIME then (true, mapped, { d with debounceMs := value })
  else if index ∈ pdoMappingObjects then
    let channel := channelFromMapping index
    if subindex = 0 then
      if 1 ≤ channel ∧ channel ≤ CHANNEL_MAX then
        (true, mapped, { d with mapCount := (value &&& BYTE_MASK).toUInt8 })
      else (true, mapped, d)
    else if 1 ≤ subindex ∧ subindex ≤ CHANNEL_COUNT_U8 then
      if 1 ≤ channel ∧ channel ≤ CHANNEL_MAX then
        (true, mapped, { d with mappings := d.mappings.set (channel - 1).toNat value })
      else (true, mapped, d)
    else (false, mapped, d)
  else if index = PDO_ASSIGN_TX then
    if subindex = 0 then (true, mapped, { d with assignCount := (value &&& BYTE_MASK).toUInt8 })
    else if subindex = 1 then
      let assigned : Bool := value &&& WORD_MASK = PDO_MAPPING_BASE.toUInt32
      (true, assigned && 0 < d.mapCount, { d with assigned })
    else (false, mapped, d)
  else (false, mapped, d)

end El1258

instance : SlaveDevice El1258 where
  onSdoUpload d index subindex := (d.onSdoUpload index subindex, d)
  onSdoDownload d mapped index subindex value _ := d.onSdoDownload mapped index subindex value
  readDigitalInputsBitfield d := (some d.currentAggregate, d)

/-! ## The object -/

/-- An `El1258Slave` object: the base class with the members above. -/
abbrev El1258Slave := VirtualSlave El1258

namespace El1258Slave

/-- `applyDefaultTxPdoMapping` -/
def applyDefaultTxPdoMapping (s : El1258Slave) : El1258Slave :=
  let mappings := (List.range CHANNEL_COUNT).foldl
    (fun m i => m.set i (makeChannelMapping (i + 1).toUInt8)) s.device.mappings
  VirtualSlave.setInputPDOMapped
    { s with
      device :=
        { s.device with
          mapCount := CHANNEL_COUNT_U8
          mappings
          assignCount := 1
          assigned := true } } true

/-- The constructor. -/
def new (stationAddr : UInt16) (vendorId productCode : UInt32) : El1258Slave :=
  applyDefaultTxPdoMapping (VirtualSlave.new stationAddr vendorId productCode El1258.initial)

end El1258Slave

end EthercatSim

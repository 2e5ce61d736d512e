import EthercatSim.El1258.Model

/-!
# `EL1258Slave`

The model of `include/ethercat_sim/simulation/slaves/el1258.h`, the digital input
terminal of the core library.  It is another class than `El1258Slave`, with the same
constants.  `EL1258` holds the members that the subclass adds, and the object itself
is a `VirtualSlave EL1258`.

A function that asks `steady_clock` takes the readings as an argument, in
nanoseconds: `now i` is the one that is taken for channel `i`.  The functions that
override a virtual one have no such argument.  There the readings come from the
object: `clock` is all the readings that it ever takes and `readings` how many of
them are used up.
-/

namespace EthercatSim

open Kickcat Bytes El1258

/-- The members that `EL1258Slave` adds, and the clock. -/
structure EL1258 where
  power : Bool
  powerButton : Bool
  rawDi : Cells Bool CHANNEL_COUNT
  effDi : Cells Bool CHANNEL_COUNT
  invertMask : UInt8
  debounceMs : UInt16
  lastChange : Cells Int CHANNEL_COUNT
  txpdoCount : UInt8
  txpdoEntries : Cells UInt32 CHANNEL_COUNT
  assignCount : UInt8
  assignEntries : Cells UInt16 4
  clock : Nat → Int
  readings : Nat

namespace EL1258

/-- The default member initialisers. -/
def initial (clock : Nat → Int) : EL1258 where
  power := false
  powerButton := false
  rawDi := Cells.fill false
  effDi := Cells.fill false
  invertMask := 0
  debounceMs := 0
  lastChange := ⟨fun i => clock i⟩
  txpdoCount := 0
  txpdoEntries := Cells.fill 0
  assignCount := 0
  assignEntries := Cells.fill 0
  clock := clock
  readings := CHANNEL_COUNT

/-! ## Inputs -/

/-- `setRawInput_` -/
def setRawInput (d : EL1258) (ch : Int) (v : Bool) (now : Nat → Int) : EL1258 :=
  if ch < 0 ∨ CHANNEL_MAX ≤ ch then d
  else if d.rawDi.get ch.toNat ≠ v then
    { d with
      rawDi := d.rawDi.set ch.toNat v
      lastChange := d.lastChange.set ch.toNat (now ch.toNat) }
  else d

/-- `updateDerivedInputs_`: channel 1 mirrors the power, channel 0 the button. -/
def updateDerivedInputs (d : EL1258) (now : Nat → Int) : EL1258 :=
  (d.setRawInput 1 d.power now).setRawInput 0 d.powerButton now

def setPower (d : EL1258) (on : Bool) (now : Nat → Int) : EL1258 :=
  updateDerivedInputs { d with power := on } now

def setPowerButton (d : EL1258) (pressed : Bool) (now : Nat → Int) : EL1258 :=
  setRawInput { d with powerButton := pressed } 0 pressed now

def setInput (d : EL1258) (channel : Int) (value : Bool) (now : Nat → Int) : EL1258 :=
  if 0 ≤ channel ∧ channel < CHANNEL_MAX then
    let d := d.setRawInput channel value now
    if channel = 1 then { d with power := value } else d
  else d

/-- Bit `ch` of `invert_mask_`. -/
def invertBit (d : EL1258) (ch : Nat) : Bool := (d.invertMask >>> ch.toUInt8) &&& 1 ≠ 0

/-- `effectiveBit_`: the debounced channel takes over the raw one when that is old
enough. -/
def effectiveBit (d : EL1258) (ch : Int) (now : Nat → Int) : Bool × EL1258 :=
  if ch < 0 ∨ CHANNEL_MAX ≤ ch then (false, d)
  else
    let i := ch.toNat
    if d.debounceMs = 0 then (d.rawDi.get i ^^ d.invertBit i, d)
    else
      let elapsed := (now i - d.lastChange.get i).tdiv 1000000
      let d := if d.effDi.get i ≠ d.rawDi.get i ∧ d.debounceMs.toNat ≤ elapsed then
          { d with effDi := d.effDi.set i (d.rawDi.get i) }
        else d
      (d.effDi.get i ^^ d.invertBit i, d)

/-- `input` -/
def input (d : EL1258) (channel : Int) (now : Nat → Int) : Bool × EL1258 :=
  if 0 ≤ channel ∧ channel < CHANNEL_MAX then d.effectiveBit channel now else (false, d)

/-- The body of the loop of `aggregateBits_`. -/
def aggregateStep (now : Nat → Int) (acc : UInt32 × EL1258) (i : Nat) : UInt32 × EL1258 :=
  let (on, d) := acc.2.effectiveBit i now
  (acc.1 ||| (if on then (1 : UInt32) <<< i.toUInt32 else 0), d)

/-- `aggregateBits_` -/
def aggregateBits (d : EL1258) (now : Nat → Int) : UInt32 × EL1258 :=
  (List.range CHANNEL_COUNT).foldl (aggregateStep now) (0, d)

/-! ## The object dictionary -/

/-- `pack4_`: the first four characters in the memory order of the host. -/
def pack4 (s : String) : UInt32 :=
  let buf : List UInt8 := s.toList.map fun c => c.toNat.toUInt8
  le32 (le16 (buf.getD 0 0) (buf.getD 1 0)) (le16 (buf.getD 2 0) (buf.getD 3 0))

/-- `onSdoUpload`; `none` is the answer `false`. -/
def onSdoUpload (d : EL1258) (index : UInt16) (subindex : UInt8) (now : Nat → Int) :
    Option UInt32 × EL1258 :=
  let si := subindex - 1
  if index = OBJ_DEVICE_TYPE ∧ subindex = 0 then (some 0x00000000, d)
  else if index = OBJ_DEVICE_NAME ∧ subindex = 0 then (some (pack4 "EL1258"), d)
  else if index = OBJ_HARDWARE_VERSION ∧ subindex = 0 then (some (pack4 "HW10"), d)
  else if index = OBJ_SOFTWARE_VERSION ∧ subindex = 0 then (some (pack4 "SW10"), d)
  else if index = OBJ_DIGITAL_INPUT ∧ 1 ≤ subindex ∧ subindex ≤ CHANNEL_COUNT_U8 then
    let (on, d) := d.effectiveBit si.toNat now
    (some (if on then 1 else 0), d)
  else if index = OBJ_DIGITAL_AGGREGATE ∧ subindex = 0 then
    let (bits, d) := d.aggregateBits now
    (some bits, d)
  else if index = OBJ_INVERT_MASK ∧ subindex = 0 then (some d.invertMask.toUInt32, d)
  else if index = OBJ_DEBOUNCE_TIME ∧ subindex = 0 then (some d.debounceMs.toUInt32, d)
  else if index = PDO_MAPPING_BASE ∧ subindex = 0 then (some d.txpdoCount.toUInt32, d)
  else if index = PDO_MAPPING_BASE ∧ 1 ≤ subindex ∧ si.toNat < CHANNEL_COUNT then
    (some (d.txpdoEntries.get si.toNat), d)
  else if index = PDO_ASSIGN_TX ∧ subindex = 0 then (some d.assignCount.toUInt32, d)
  else if index = PDO_ASSIGN_TX ∧ 1 ≤ subindex ∧ si < 4 then
    (some (d.assignEntries.get si.toNat).toUInt32, d)
  else (none, d)

/-- The count that a download to subindex 0 stores: one byte of the value, at most
`bound`. -/
def clampCount (value : UInt32) (bound : UInt8) : UInt8 :=
  let count := (value &&& BYTE_MASK).toUInt8
  if bound < count then bound else count

/-- The loop that clears the entries from `count` on. -/
def clearEntries {α : Type} [Inhabited α] {n : Nat} (m : Cells α n) (count : Nat) (zero : α) :
    Cells α n :=
  (List.range n).foldl (fun m i => if count ≤ i then m.set i zero else m) m

/-- The tests of `onSdoDownload` and what each stores.  The flag is `changed`. -/
def storeObject (d : EL1258) (index : UInt16) (subindex : UInt8) (value : UInt32) :
    Bool × EL1258 :=
  if index = OBJ_INVERT_MASK ∧ subindex = 0 then
    (true, { d with invertMask := (value &&& BYTE_MASK).toUInt8 })
  else if index = OBJ_DEBOUNCE_TIME ∧ subindex = 0 then
    (true, { d with debounceMs := (value &&& WORD_MASK).toUInt16 })
  else if index = PDO_MAPPING_BASE then
    if subindex = 0 then
      let count := clampCount value CHANNEL_COUNT_U8
      (true,
        { d with txpdoCount := count, txpdoEntries := clearEntries d.txpdoEntries count.toNat 0 })
    else if 1 ≤ subindex ∧ subindex ≤ CHANNEL_COUNT_U8 then
      (true, { d with txpdoEntries := d.txpdoEntries.set (subindex.toNat - 1) value })
    else (false, d)
  else if index = PDO_ASSIGN_TX then
    if subindex = 0 then
      let count := clampCount value 4
      (true,
        { d with
          assignCount := count, assignEntries := clearEntries d.assignEntries count.toNat 0 })
    else if 1 ≤ subindex ∧ subindex ≤ 4 then
      (true,
        { d with
          assignEntries :=
            d.assignEntries.set (subindex.toNat - 1) (value &&& WORD_MASK).toUInt16 })
    else (false, d)
  else (false, d)

/-- A TxPDO is assigned and has an entry. -/
def mappingValid (d : EL1258) : Bool :=
  let assigned := (List.range d.assignCount.toNat).any fun i =>
    d.assignEntries.get i = PDO_MAPPING_BASE
  let hasEntries : Bool := 0 < d.txpdoCount
  assigned && hasEntries

/-- `onSdoDownload`.  Every download that stores something sets the mapping flag
anew. -/
def onSdoDownload (d : EL1258) (mapped : Bool) (index : UInt16) (subindex : UInt8)
    (value : UInt32) : Bool × Bool × EL1258 :=
  let (changed, d) := d.storeObject index subindex value
  (changed, if changed then d.mappingValid else mapped, d)

/-- The readings for the next call. -/
def now (d : EL1258) (ch : Nat) : Int := d.clock (d.readings + ch)

/-- The call has used up its readings. -/
def advance (d : EL1258) : EL1258 := { d with readings := d.readings + CHANNEL_COUNT }

end EL1258

instance : SlaveDevice EL1258 where
  onSdoUpload d index subindex :=
    ((d.onSdoUpload index subindex d.now).1, (d.onSdoUpload index subindex d.now).2.advance)
  onSdoDownload d mapped index subindex value _ := d.onSdoDownload mapped index subindex value
  readDigitalInputsBitfield d :=
    (some (d.aggregateBits d.now).1, (d.aggregateBits d.now).2.advance)

/-! ## The object -/

/-- An `EL1258Slave` object: the base class with the members above. -/
abbrev EL1258Slave := VirtualSlave EL1258

namespace EL1258Slave

/-- `applyDefaultTxPdoMapping`: one entry, the eight channels together. -/
def applyDefaultTxPdoMapping (s : EL1258Slave) : EL1258Slave :=
  let entry : UInt32 := (OBJ_DIGITAL_AGGREGATE.toUInt32 <<< 16) ||| ((0x00 : UInt32) <<< 8) |||
    CHANNEL_COUNT_U8.toUInt32
  VirtualSlave.setInputPDOMapped
    { s with
      device :=
        { s.device with
          txpdoCount := 1
          txpdoEntries := s.device.txpdoEntries.set 0 entry
          assignCount := 1
          assignEntries := s.device.assignEntries.set 0 PDO_MAPPING_BASE } } true

/-- The constructor. -/
def new (address : UInt16) (vendorId productCode : UInt32) (clock : Nat → Int) : EL1258Slave :=
  VirtualSlave.new address vendorId productCode
    ((EL1258.initial clock).updateDerivedInputs (EL1258.initial clock).now)

end EL1258Slave

end EthercatSim

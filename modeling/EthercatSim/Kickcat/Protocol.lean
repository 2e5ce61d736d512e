import EthercatSim.Lib.Bytes

/-!
# The part of `kickcat/protocol.h` that the simulator uses

Register addresses, AL states, datagram commands, EEPROM word addresses and
the packed mailbox headers.  The names are those of the header file.

The packed structs have no padding, and on the little-endian target a
bit-field starts at the low bit of its byte.  So a struct is read here from
the bytes at its fixed offsets: the mailbox header takes bytes 0 to 5, the CoE
header bytes 6 and 7, the SDO service data bytes 8 to 11, and the expedited
payload bytes 12 to 15.
-/

namespace EthercatSim.Kickcat

open Bytes

/-! ## Registers -/

namespace Reg

@[simp] abbrev STATION_ADDR : Nat := 0x0010
@[simp] abbrev ESC_DL_STATUS : Nat := 0x0110
@[simp] abbrev AL_CONTROL : Nat := 0x0120
@[simp] abbrev AL_STATUS : Nat := 0x0130
@[simp] abbrev AL_STATUS_CODE : Nat := 0x0134
@[simp] abbrev EEPROM_CONTROL : Nat := 0x0502
@[simp] abbrev EEPROM_DATA : Nat := 0x0508
@[simp] abbrev SYNC_MANAGER : Nat := 0x0800
@[simp] abbrev SYNC_MANAGER_0 : Nat := SYNC_MANAGER + 8 * 0
@[simp] abbrev SYNC_MANAGER_1 : Nat := SYNC_MANAGER + 8 * 1
@[simp] abbrev SM_STATS : Nat := 5

end Reg

/-- `MAILBOX_STATUS`, the bit of a sync manager status byte that says the
mailbox is full. -/
def MAILBOX_STATUS : UInt8 := 0x08

/-! ## AL states -/

/-- `enum State`.  `ACK` is the acknowledge flag, not a state of its own. -/
inductive State where
  | INVALID
  | INIT
  | PRE_OP
  | BOOT
  | SAFE_OP
  | OPERATIONAL
  | ACK
  deriving DecidableEq, Repr

/-- The value of the enumerator. -/
def State.toByte : State → UInt8
  | .INVALID => 0x00
  | .INIT => 0x01
  | .PRE_OP => 0x02
  | .BOOT => 0x03
  | .SAFE_OP => 0x04
  | .OPERATIONAL => 0x08
  | .ACK => 0x10

/-! ## Datagram commands -/

/-- `enum class Command : uint8_t`.  A byte that names no enumerator is kept
as `OTHER`: the enumeration has a fixed underlying type, so the code can hold
it. -/
inductive Command where
  | NOP
  | APRD
  | APWR
  | APRW
  | FPRD
  | FPWR
  | FPRW
  | BRD
  | BWR
  | BRW
  | LRD
  | LWR
  | LRW
  | ARMW
  | FRMW
  | OTHER (code : UInt8)
  deriving DecidableEq, Repr

/-- The command that the byte on the wire names. -/
def Command.ofByte (b : UInt8) : Command :=
  if b = 0 then .NOP
  else if b = 1 then .APRD
  else if b = 2 then .APWR
  else if b = 3 then .APRW
  else if b = 4 then .FPRD
  else if b = 5 then .FPWR
  else if b = 6 then .FPRW
  else if b = 7 then .BRD
  else if b = 8 then .BWR
  else if b = 9 then .BRW
  else if b = 10 then .LRD
  else if b = 11 then .LWR
  else if b = 12 then .LRW
  else if b = 13 then .ARMW
  else if b = 14 then .FRMW
  else .OTHER b

/-- `extractAddress`: the position in the low half, the register offset in the
high half. -/
def extractAddress (address : UInt32) : UInt16 × UInt16 := (loWord address, hiWord address)

/-! ## EEPROM word addresses -/

namespace Eeprom

@[simp] abbrev VENDOR_ID : Nat := 0x8
@[simp] abbrev PRODUCT_CODE : Nat := 0xA
@[simp] abbrev STANDARD_MAILBOX : Nat := 0x18
@[simp] abbrev RECV_MBO_OFFSET : Nat := 0
@[simp] abbrev RECV_MBO_SIZE : Nat := 1
@[simp] abbrev SEND_MBO_OFFSET : Nat := 2
@[simp] abbrev SEND_MBO_SIZE : Nat := 3
@[simp] abbrev MAILBOX_PROTOCOL : Nat := 0x1C

/-- `MailboxProtocol::CoE` -/
def CoE : UInt16 := 0x04

/-- `Command::READ` of the EEPROM interface -/
def READ : UInt16 := 0x0100

end Eeprom

/-! ## Mailbox messages -/

/-- `mailbox::Type::CoE` -/
def mailboxCoE : UInt8 := 0x03

namespace CoE

/-- `Service::SDO_REQUEST` -/
def SDO_REQUEST : UInt8 := 0x02

/-- `Service::SDO_RESPONSE` -/
def SDO_RESPONSE : UInt8 := 0x03

/-- `SDO::request::DOWNLOAD` -/
def REQUEST_DOWNLOAD : UInt8 := 0x01

/-- `SDO::request::UPLOAD` -/
def REQUEST_UPLOAD : UInt8 := 0x02

/-- `SDO::response::UPLOAD` -/
def RESPONSE_UPLOAD : UInt8 := 0x02

/-- `SDO::response::DOWNLOAD` -/
def RESPONSE_DOWNLOAD : UInt8 := 0x03

end CoE

/-- The fields of a CoE SDO message that the slave reads and writes. -/
structure SdoMessage where
  len : UInt16
  type : UInt8
  count : UInt8
  service : UInt8
  sizeIndicator : UInt8
  transferType : UInt8
  blockSize : UInt8
  command : UInt8
  index : UInt16
  subindex : UInt8
  payload : UInt32
  deriving DecidableEq, Repr

/-- Read the packed headers at the start of a mailbox. -/
def SdoMessage.decode (msg : List UInt8) : SdoMessage where
  len := le16 (msg.getD 0 0) (msg.getD 1 0)
  type := msg.getD 5 0 &&& 0x0F
  count := (msg.getD 5 0 >>> 4) &&& 0x07
  service := msg.getD 7 0 >>> 4
  sizeIndicator := msg.getD 8 0 &&& 0x01
  transferType := (msg.getD 8 0 >>> 1) &&& 0x01
  blockSize := (msg.getD 8 0 >>> 2) &&& 0x03
  command := msg.getD 8 0 >>> 5
  index := le16 (msg.getD 9 0) (msg.getD 10 0)
  subindex := msg.getD 11 0
  payload := le32 (le16 (msg.getD 12 0) (msg.getD 13 0)) (le16 (msg.getD 14 0) (msg.getD 15 0))

/-- Write the packed headers and the payload.  The fields that the slave
leaves alone (address, channel, priority, CoE number, complete access) are
zero. -/
def SdoMessage.encode (m : SdoMessage) : List UInt8 :=
  [loByte m.len, hiByte m.len, 0, 0, 0, m.type ||| (m.count <<< 4), 0, m.service <<< 4,
    m.sizeIndicator ||| (m.transferType <<< 1) ||| (m.blockSize <<< 2) ||| (m.command <<< 5),
    loByte m.index, hiByte m.index, m.subindex] ++ bytes32 m.payload

@[simp] theorem SdoMessage.length_encode (m : SdoMessage) : m.encode.length = 16 := rfl

/-- Only the first 16 bytes of a mailbox are decoded. -/
theorem SdoMessage.decode_congr {a b : List UInt8} (h : ∀ i, i < 16 → a.getD i 0 = b.getD i 0) :
    SdoMessage.decode a = SdoMessage.decode b := by
  unfold SdoMessage.decode
  rw [h 0 (by decide), h 1 (by decide), h 5 (by decide), h 7 (by decide), h 8 (by decide),
    h 9 (by decide), h 10 (by decide), h 11 (by decide), h 12 (by decide), h 13 (by decide),
    h 14 (by decide), h 15 (by decide)]

/-- The headers ask for a download. -/
def SdoMessage.IsDownload (m : SdoMessage) : Prop :=
  m.service = CoE.SDO_REQUEST ∧ m.command = CoE.REQUEST_DOWNLOAD

instance (m : SdoMessage) : Decidable m.IsDownload := inferInstanceAs (Decidable (_ ∧ _))

/-! ## A message on the wire and back -/

/-- Every field fits into its bit-field. -/
structure SdoMessage.WellFormed (m : SdoMessage) : Prop where
  type : m.type < 16
  count : m.count < 8
  service : m.service < 16
  sizeIndicator : m.sizeIndicator < 2
  transferType : m.transferType < 2
  blockSize : m.blockSize < 4
  command : m.command < 8

/-- The byte that the mailbox type shares with the session handle. -/
theorem typeByte_fields {type count : UInt8} (htype : type < 16) (hcount : count < 8) :
    (type ||| count <<< 4) &&& 0x0F = type ∧ ((type ||| count <<< 4) >>> 4) &&& 0x07 = count := by
  have hall : ∀ t, t < 16 → ∀ c, c < 8 →
      (UInt8.ofNat t ||| UInt8.ofNat c <<< 4) &&& 0x0F = UInt8.ofNat t ∧
        ((UInt8.ofNat t ||| UInt8.ofNat c <<< 4) >>> 4) &&& 0x07 = UInt8.ofNat c := by
    decide +kernel
  have hbyte := hall type.toNat (UInt8.lt_iff_toNat_lt.mp htype) count.toNat
    (UInt8.lt_iff_toNat_lt.mp hcount)
  rw [UInt8.ofNat_toNat, UInt8.ofNat_toNat] at hbyte
  exact hbyte

theorem serviceByte_field {service : UInt8} (h : service < 16) :
    (service <<< 4) >>> 4 = service := by
  have hall : ∀ n, n < 16 → (UInt8.ofNat n <<< 4) >>> 4 = UInt8.ofNat n := by
    decide +kernel
  have hbyte := hall service.toNat (UInt8.lt_iff_toNat_lt.mp h)
  rw [UInt8.ofNat_toNat] at hbyte
  exact hbyte

/-- The first byte of the SDO service data holds four fields. -/
theorem sdoByte_fields {size transfer block command : UInt8} (hsize : size < 2)
    (htransfer : transfer < 2) (hblock : block < 4) (hcommand : command < 8) :
    (size ||| (transfer <<< 1) ||| (block <<< 2) ||| (command <<< 5)) &&& 0x01 = size ∧
      ((size ||| (transfer <<< 1) ||| (block <<< 2) ||| (command <<< 5)) >>> 1) &&& 0x01 =
        transfer ∧
      ((size ||| (transfer <<< 1) ||| (block <<< 2) ||| (command <<< 5)) >>> 2) &&& 0x03 =
        block ∧
      (size ||| (transfer <<< 1) ||| (block <<< 2) ||| (command <<< 5)) >>> 5 = command := by
  have hall : ∀ s, s < 2 → ∀ t, t < 2 → ∀ b, b < 4 → ∀ c, c < 8 →
      let byte := UInt8.ofNat s ||| (UInt8.ofNat t <<< 1) ||| (UInt8.ofNat b <<< 2) |||
        (UInt8.ofNat c <<< 5)
      byte &&& 0x01 = UInt8.ofNat s ∧ (byte >>> 1) &&& 0x01 = UInt8.ofNat t ∧
        (byte >>> 2) &&& 0x03 = UInt8.ofNat b ∧ byte >>> 5 = UInt8.ofNat c := by
    decide +kernel
  have hbyte := hall size.toNat (UInt8.lt_iff_toNat_lt.mp hsize) transfer.toNat
    (UInt8.lt_iff_toNat_lt.mp htransfer) block.toNat (UInt8.lt_iff_toNat_lt.mp hblock)
    command.toNat (UInt8.lt_iff_toNat_lt.mp hcommand)
  simp only [UInt8.ofNat_toNat] at hbyte
  exact hbyte

/-- A message whose fields fit is read back from the front of any buffer. -/
theorem SdoMessage.decode_encode {m : SdoMessage} (h : m.WellFormed) (rest : List UInt8) :
    SdoMessage.decode (m.encode ++ rest) = m := by
  obtain ⟨htype, hcount⟩ := typeByte_fields h.type h.count
  obtain ⟨hsize, htransfer, hblock, hcommand⟩ :=
    sdoByte_fields h.sizeIndicator h.transferType h.blockSize h.command
  cases m
  simp only [SdoMessage.decode, SdoMessage.encode, bytes32, List.cons_append, List.nil_append,
    List.getD_cons_zero, List.getD_cons_succ, SdoMessage.mk.injEq]
  refine ⟨le16_loByte_hiByte _, htype, hcount, serviceByte_field h.service, hsize, htransfer,
    hblock, hcommand, le16_loByte_hiByte _, trivial, ?_⟩
  rw [le16_loByte_hiByte, le16_loByte_hiByte, le32_loWord_hiWord]

/-- What was read from a buffer fits into the bit-fields that it was read from. -/
theorem SdoMessage.decode_wellFormed (msg : List UInt8) : (SdoMessage.decode msg).WellFormed := by
  have hmask : ∀ b m : UInt8, b &&& m ≤ m := by
    intro b m
    rw [UInt8.le_iff_toNat_le, UInt8.toNat_and]
    exact Nat.and_le_right
  have hshift : ∀ n, n < 256 → UInt8.ofNat n >>> 4 < 16 ∧ UInt8.ofNat n >>> 5 < 8 := by
    decide +kernel
  have hfield : ∀ b : UInt8, b >>> 4 < 16 ∧ b >>> 5 < 8 := by
    intro b
    have hb := hshift b.toNat b.toNat_lt
    rw [UInt8.ofNat_toNat] at hb
    exact hb
  exact
    { type := UInt8.lt_of_le_of_lt (hmask _ 0x0F) (by decide)
      count := UInt8.lt_of_le_of_lt (hmask _ 0x07) (by decide)
      service := (hfield _).1
      sizeIndicator := UInt8.lt_of_le_of_lt (hmask _ 0x01) (by decide)
      transferType := UInt8.lt_of_le_of_lt (hmask _ 0x01) (by decide)
      blockSize := UInt8.lt_of_le_of_lt (hmask _ 0x03) (by decide)
      command := (hfield _).2 }

end EthercatSim.Kickcat

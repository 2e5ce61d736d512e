import EthercatSim.VirtualSlave.SyncManager

/-!
# The SII image against the device

A master reads the EEPROM of a slave by a request at EEPROM_CONTROL and reads
at EEPROM_DATA, each of which returns two words and moves the word address on.
It then decodes the image at the word addresses of the KickCAT header.

* `siiWords_eq`: the protocol returns the words of the image, however many
  reads follow one request.
* `initializeEeprom` puts the identity where the master looks for it.  It puts
  the mailbox description one block too high: the words of STANDARD_MAILBOX
  are the second half of what the code calls the bootstrap description, and
  the word MAILBOX_PROTOCOL is the first word of the standard one.
* `sii_not_describes`: so the decoded description is that of no mailbox the
  slave has.  This holds in every state that accesses reach which leave the
  mailbox where it is.
-/

namespace EthercatSim.VirtualSlave

open Kickcat Bytes StepRun

variable {σ : Type}

/-! ## Reading the EEPROM over the bus -/

/-- The request for the word address `addr`: the command READ and the two halves
of the address. -/
def eepromRequest [SlaveDevice σ] (s : VirtualSlave σ) (addr : UInt16) : VirtualSlave σ :=
  (s.write 0x0502 [loByte Eeprom.READ, hiByte Eeprom.READ, loByte addr, hiByte addr, 0, 0]).2

/-- `n` reads of four bytes at EEPROM_DATA, as the words they return. -/
def eepromWords (s : VirtualSlave σ) : Nat → List UInt16
  | 0 => []
  | n + 1 =>
    let (_, bytes, s') := s.read 0x0508 [0, 0, 0, 0]
    le16 (bytes.getD 0 0) (bytes.getD 1 0) :: le16 (bytes.getD 2 0) (bytes.getD 3 0) ::
      eepromWords s' n

/-- The words from `addr` on, by one request and `n` reads. -/
def siiWords [SlaveDevice σ] (s : VirtualSlave σ) (addr : UInt16) (n : Nat) : List UInt16 :=
  (s.eepromRequest addr).eepromWords n

theorem eepromRequest_eq [SlaveDevice σ] (s : VirtualSlave σ) (addr : UInt16) :
    s.eepromRequest addr = { s with eepromAddr := le32 addr 0 } := by
  have hreq : (0x0502 : UInt16).toNat = Reg.EEPROM_CONTROL ∧
      6 ≤ [loByte Eeprom.READ, hiByte Eeprom.READ, loByte addr, hiByte addr, 0, 0].length := by
    constructor <;> simp
  rw [eepromRequest, write, if_pos hreq]
  show { s with eepromAddr := le32 (le16 (loByte addr) (hiByte addr)) (le16 0 0) } = _
  rw [le16_loByte_hiByte]
  rfl

/-- One read inside the image returns two words and moves on by two. -/
theorem eepromWords_succ {s : VirtualSlave σ} (h : s.eepromAddr.toNat + 1 < 128) (n : Nat) :
    s.eepromWords (n + 1) =
      s.eeprom.get s.eepromAddr.toNat :: s.eeprom.get (s.eepromAddr.toNat + 1) ::
        eepromWords { s with eepromAddr := s.eepromAddr + 2 } n := by
  have hdata : (0x0508 : UInt16).toNat = Reg.EEPROM_DATA ∧
      4 ≤ ([0, 0, 0, 0] : List UInt8).length := by
    constructor <;> simp
  have hnext : (s.eepromAddr + 1).toNat = s.eepromAddr.toNat + 1 := by
    rw [UInt32.toNat_add, show (1 : UInt32).toNat = 1 from rfl]
    omega
  have hlo : s.eepromAddr.toNat < 128 := by omega
  rw [eepromWords, read, if_pos hdata]
  simp only [hnext, if_pos hlo, if_pos h]
  generalize s.eeprom.get s.eepromAddr.toNat = lo
  generalize s.eeprom.get (s.eepromAddr.toNat + 1) = hi
  simp [overwrite, bytes32]

theorem eepromWords_eq {s : VirtualSlave σ} {n : Nat} (h : s.eepromAddr.toNat + 2 * n ≤ 128) :
    s.eepromWords n = s.eeprom.load s.eepromAddr.toNat (2 * n) := by
  induction n generalizing s with
  | zero => rfl
  | succ n ih =>
    have hnext : (s.eepromAddr + 2).toNat = s.eepromAddr.toNat + 2 := by
      rw [UInt32.toNat_add, show (2 : UInt32).toNat = 2 from rfl]
      omega
    have hrest := ih (s := { s with eepromAddr := s.eepromAddr + 2 }) (by
      show (s.eepromAddr + 2).toNat + 2 * n ≤ 128
      omega)
    rw [eepromWords_succ (by omega), hrest, show 2 * (n + 1) = 2 * n + 1 + 1 from rfl,
      Cells.load_succ, Cells.load_succ]
    show _ :: _ :: s.eeprom.load (s.eepromAddr + 2).toNat (2 * n) = _
    rw [hnext]

/-- The protocol returns the words of the image. -/
theorem siiWords_eq [SlaveDevice σ] (s : VirtualSlave σ) {addr : UInt16} {n : Nat}
    (h : addr.toNat + 2 * n ≤ 128) :
    s.siiWords addr n = s.eeprom.load addr.toNat (2 * n) := by
  have haddr : (le32 addr 0).toNat = addr.toNat := by
    rw [le32_toNat, show (0 : UInt16).toNat = 0 from rfl]
    omega
  rw [siiWords, eepromRequest_eq, eepromWords_eq]
  · show s.eeprom.load (le32 addr 0).toNat (2 * n) = _
    rw [haddr]
  · show (le32 addr 0).toNat + 2 * n ≤ 128
    omega

/-! ## What the master decodes -/

/-- The part of the image that the master uses to set up the mailbox. -/
structure SiiDescription where
  vendorId : UInt32
  productCode : UInt32
  recvOffset : UInt16
  recvSize : UInt16
  sendOffset : UInt16
  sendSize : UInt16
  mailboxProtocol : UInt16
  deriving DecidableEq, Repr

/-- The image decoded at the word addresses of `kickcat::eeprom`. -/
def decodeSii (image : List UInt16) : SiiDescription where
  vendorId := le32 (image.getD Eeprom.VENDOR_ID 0) (image.getD (Eeprom.VENDOR_ID + 1) 0)
  productCode := le32 (image.getD Eeprom.PRODUCT_CODE 0) (image.getD (Eeprom.PRODUCT_CODE + 1) 0)
  recvOffset := image.getD (Eeprom.STANDARD_MAILBOX + Eeprom.RECV_MBO_OFFSET) 0
  recvSize := image.getD (Eeprom.STANDARD_MAILBOX + Eeprom.RECV_MBO_SIZE) 0
  sendOffset := image.getD (Eeprom.STANDARD_MAILBOX + Eeprom.SEND_MBO_OFFSET) 0
  sendSize := image.getD (Eeprom.STANDARD_MAILBOX + Eeprom.SEND_MBO_SIZE) 0
  mailboxProtocol := image.getD Eeprom.MAILBOX_PROTOCOL 0

/-- The description that a master obtains from the slave, by reading the whole
image. -/
def siiDescription [SlaveDevice σ] (s : VirtualSlave σ) : SiiDescription :=
  decodeSii (s.siiWords 0 64)

/-- The image names the device. -/
def SiiIdentity [SlaveDevice σ] (s : VirtualSlave σ) : Prop :=
  s.siiDescription.vendorId = s.vendorId ∧ s.siiDescription.productCode = s.productCode

/-- The image describes the windows that the slave serves. -/
def SiiMailbox [SlaveDevice σ] (s : VirtualSlave σ) : Prop :=
  s.siiDescription.recvOffset = s.mbRecvOffset ∧ s.siiDescription.recvSize = s.mbRecvSize ∧
    s.siiDescription.sendOffset = s.mbSendOffset ∧ s.siiDescription.sendSize = s.mbSendSize

/-- The image announces CoE. -/
def SiiCoE [SlaveDevice σ] (s : VirtualSlave σ) : Prop :=
  s.siiDescription.mailboxProtocol &&& Eeprom.CoE ≠ 0

/-- The image describes the device that is served. -/
def SiiDescribes [SlaveDevice σ] (s : VirtualSlave σ) : Prop :=
  s.SiiIdentity ∧ s.SiiMailbox ∧ s.SiiCoE

/-- What a master decodes from the image that `initializeEeprom` builds. -/
theorem siiDescription_eq [SlaveDevice σ] {s : VirtualSlave σ} {vendorId productCode : UInt32}
    (h : s.eeprom = initializeEeprom vendorId productCode) :
    s.siiDescription =
      { vendorId, productCode, recvOffset := 0x0000, recvSize := 0x0012
        sendOffset := 0x0200, sendSize := 0x0000, mailboxProtocol := 0x0000 } := by
  have hget : ∀ i, i < 128 → (s.siiWords 0 64).getD i 0 = s.eeprom.get i := by
    intro i hi
    rw [siiWords_eq s (by decide), Cells.getD_load _ hi]
    exact congrArg _ (Nat.zero_add i)
  rw [siiDescription, decodeSii]
  simp only [Eeprom.VENDOR_ID, Eeprom.PRODUCT_CODE, Eeprom.STANDARD_MAILBOX,
    Eeprom.RECV_MBO_OFFSET, Eeprom.RECV_MBO_SIZE, Eeprom.SEND_MBO_OFFSET, Eeprom.SEND_MBO_SIZE,
    Eeprom.MAILBOX_PROTOCOL]
  simp (disch := decide) only [hget, h, initializeEeprom]
  simp [Cells.get_set]

/-! ## What accesses keep -/

/-- The image and the identity that it was made from. -/
def identity (s : VirtualSlave σ) : UInt32 × UInt32 × Cells UInt16 128 :=
  (s.vendorId, s.productCode, s.eeprom)

theorem AlStep.identity_eq {s s' : VirtualSlave σ} (h : AlStep s s') :
    s'.identity = s.identity := by
  have hframe := congrArg identity h.frame
  exact hframe

theorem MailboxStep.identity_eq {s s' : VirtualSlave σ} (h : MailboxStep s s') :
    s'.identity = s.identity := by
  have hframe := congrArg identity (h.frame s.device)
  exact hframe

/-- An ESC write changes neither the image nor the windows. -/
theorem escWriteHooks_identity (s : VirtualSlave σ) (reg : UInt16) (len : Nat) :
    (escWriteHooks s reg len).identity = s.identity := by
  rcases escWriteHooks_branch s reg len with hstep | ⟨address, hset⟩
  · exact hstep.identity_eq
  · rw [hset]
    rfl

/-- An access that does not reconfigure the mailbox keeps the image, the
identity and the windows. -/
theorem step_identity_windows [SlaveDevice σ] {s : VirtualSlave σ} {op : SlaveOp}
    (hop : op.IsAccess) (hkeep : ¬s.ReconfiguresMailbox op) :
    (s.step op).identity = s.identity ∧ (s.step op).windows = s.windows := by
  cases op with
  | read reg dst =>
    show (s.read reg dst).2.2.identity = _ ∧ (s.read reg dst).2.2.windows = _
    cases hout : s.read reg dst with
    | mk ok out =>
      have hbranch := s.read_branch reg dst
      rw [hout] at hbranch
      cases hbranch <;> exact ⟨rfl, rfl⟩
  | write reg src =>
    show (s.write reg src).2.identity = _ ∧ (s.write reg src).2.windows = _
    cases hout : s.write reg src with
    | mk ok s' =>
      have hbranch := s.write_branch reg src
      rw [hout] at hbranch
      cases hbranch with
      | eeprom addr hreg hlen => exact ⟨rfl, rfl⟩
      | esc hesc =>
        exact ⟨escWriteHooks_identity _ _ _, (escWriteHooks_windows _ _ _).1⟩
      | mailbox hreg hsize hwin =>
        have hstep := handleMailboxWrite_mailboxStep
          { s with
            mbIn := overwrite s.mbIn (reg.toNat - s.mbRecvOffset.toNat)
              (src.take (min src.length (s.mbIn.length - (reg.toNat - s.mbRecvOffset.toNat)))) }
        exact ⟨hstep.identity_eq, hstep.windows_eq⟩
      | syncManager hreg hsize hwin hsm => exact absurd ⟨hsize, hwin, hsm⟩ hkeep
      | rejected hreg hsize hwin hsm => exact ⟨rfl, rfl⟩
  | setOnline on => exact absurd hop id
  | setALState st => exact absurd hop id
  | setInputPDOMapped v => exact absurd hop id
  | start => exact absurd hop id
  | routine => exact absurd hop id

/-! ## Whole runs -/

/-- The image describes the device in no state that accesses reach which do not
reconfigure the mailbox.  The identity is right; the mailbox description and
the CoE bit are both wrong, in each of these states. -/
theorem sii_not_describes [SlaveDevice σ] (address : UInt16) (vendorId productCode : UInt32)
    (device : σ) (ops : List SlaveOp)
    (hops : StepsOk step (fun s op => op.IsAccess ∧ ¬s.ReconfiguresMailbox op)
      (new address vendorId productCode device) ops) :
    let s := run step (new address vendorId productCode device) ops
    ¬s.SiiDescribes ∧ s.SiiIdentity ∧ ¬s.SiiMailbox ∧ ¬s.SiiCoE := by
  intro s
  have hkeep : s.identity = (vendorId, productCode, initializeEeprom vendorId productCode) ∧
      s.windows = (0x1000, 512, 0x1200, 512) := by
    have halways := always_of_step
      (P := fun s : VirtualSlave σ =>
        s.identity = (vendorId, productCode, initializeEeprom vendorId productCode) ∧
          s.windows = (0x1000, 512, 0x1200, 512))
      (fun s op hs hok => ?_) ⟨rfl, rfl⟩ hops
    · exact halways.last
    · obtain ⟨hid, hwin⟩ := step_identity_windows hok.1 hok.2
      exact ⟨hid.trans hs.1, hwin.trans hs.2⟩
  obtain ⟨hid, hwin⟩ := hkeep
  simp only [identity, windows, Prod.mk.injEq] at hid hwin
  have hdesc := siiDescription_eq hid.2.2
  have hmailbox : ¬s.SiiMailbox := by
    rw [SiiMailbox, hdesc, hwin.1]
    intro h
    exact absurd (show (0x0000 : UInt16) = 0x1000 from h.1) (by decide)
  have hcoe : ¬s.SiiCoE := by
    rw [SiiCoE, hdesc]
    show ¬(0x0000 &&& Eeprom.CoE ≠ 0)
    decide
  refine ⟨fun h => hcoe h.2.2, ?_, hmailbox, hcoe⟩
  rw [SiiIdentity, hdesc, hid.1, hid.2.1]
  exact ⟨rfl, rfl⟩

/-- A new station address and a read of the empty send window leave the image
as wrong as it was. -/
theorem sii_not_describes_after_readdress :
    ¬(run step (new 1 2 3 () : VirtualSlave Unit)
      [.write 0x0010 [5, 0], .read 0x1200 [0, 0, 0, 0]]).SiiDescribes := by
  have hops : StepsOk step (fun s op => op.IsAccess ∧ ¬s.ReconfiguresMailbox op)
      (new 1 2 3 () : VirtualSlave Unit) [.write 0x0010 [5, 0], .read 0x1200 [0, 0, 0, 0]] := by
    refine ⟨⟨trivial, ?_⟩, ⟨trivial, id⟩, trivial⟩
    intro h
    exact absurd h.1 (by decide)
  exact (sii_not_describes 1 2 3 () _ hops).1

/-- A fresh slave serves its mailbox at 0x1000 and 0x1200, announces a receive
window of 0x12 bytes at 0, a send window of no bytes at 0x200, and no CoE. -/
theorem sii_describes_false :
    let s : VirtualSlave Unit := new 1 2 3 ()
    s.windows = (0x1000, 512, 0x1200, 512) ∧
      s.siiDescription =
        { vendorId := 2, productCode := 3, recvOffset := 0x0000, recvSize := 0x0012
          sendOffset := 0x0200, sendSize := 0x0000, mailboxProtocol := 0x0000 } ∧
      ¬s.SiiDescribes := by
  intro s
  have hdesc : s.siiDescription = _ := siiDescription_eq rfl
  refine ⟨rfl, hdesc, ?_⟩
  rw [SiiDescribes, SiiCoE, hdesc]
  exact fun h => absurd rfl h.2.2

end EthercatSim.VirtualSlave

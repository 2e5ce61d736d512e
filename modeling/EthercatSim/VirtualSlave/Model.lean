import EthercatSim.Kickcat.Protocol
import EthercatSim.Lib.Cells
import EthercatSim.Lib.Loop

/-!
# `VirtualSlave`

The model of `include/ethercat_sim/simulation/virtual_slave.h`, function by
function.  A member function that changes the object takes the slave and
returns the new one; a `const` function that changes a `mutable` member does
the same.

* The register file `regs_` and the EEPROM image `eeprom_` are vectors that
  nothing resizes, so they are `Cells` of a fixed size.  The mailbox buffers
  `mb_in_` and `mb_out_` are lists, because a sync manager write resizes them.
* A subclass overrides `onSdoUpload`, `onSdoDownload` and
  `readDigitalInputsBitfield`.  `SlaveDevice σ` is that table of virtual
  functions for a subclass with own data `σ`.  The only member of the base
  class that an override changes is the PDO mapping flag, through
  `setInputPDOMapped`.
* `handleMailboxWrite_` casts the mailbox buffers to header structs without a
  size check.  A buffer that is shorter than the headers makes that undefined
  in C++.  The model reads zero bytes and drops stores there, so that every
  run has a successor state.

`name_` and the log output are left out: no function reads them.
-/

namespace EthercatSim

open Kickcat Bytes

/-- The virtual functions of a subclass of `VirtualSlave` with own data `σ`.
A hook that is `const` in C++ still returns the data, because an override may
change it through a `const_cast`.  `onSdoDownload` also takes and returns the
mapping flag of the base class. -/
class SlaveDevice (σ : Type) where
  onSdoUpload : σ → (index : UInt16) → (subindex : UInt8) → Option UInt32 × σ
  onSdoDownload :
    σ → (mapped : Bool) → (index : UInt16) → (subindex : UInt8) → (value : UInt32) →
      (nbytes : UInt8) → Bool × Bool × σ
  readDigitalInputsBitfield : σ → Option UInt32 × σ

/-- The base class itself: every hook answers `false` and changes nothing. -/
instance : SlaveDevice Unit where
  onSdoUpload _ _ _ := (none, ())
  onSdoDownload _ mapped _ _ _ _ := (false, mapped, ())
  readDigitalInputsBitfield _ := (none, ())

/-- The data of a slave.  `device` holds the data of the subclass. -/
structure VirtualSlave (σ : Type) where
  address : UInt16
  vendorId : UInt32
  productCode : UInt32
  online : Bool
  alState : State
  alStatusCode : UInt16
  regs : Cells UInt8 4096
  inputPdoMapped : Bool
  ackRequested : Bool
  started : Bool
  mbRecvOffset : UInt16
  mbRecvSize : UInt16
  mbSendOffset : UInt16
  mbSendSize : UInt16
  mbHaveReply : Bool
  mbOut : List UInt8
  mbIn : List UInt8
  eepromAddr : UInt32
  eeprom : Cells UInt16 128
  device : σ

namespace VirtualSlave

variable {σ : Type}

/-! ## Register shadows -/

/-- `syncCoreRegisters_`: DL_STATUS, AL_STATUS and AL_STATUS_CODE follow the
fields. -/
def syncCoreRegisters (s : VirtualSlave σ) : VirtualSlave σ :=
  -- PDI_op (bit 0), PL_port0 (bit 4) and COM_port0 (bit 9)
  let dl : UInt16 := if s.online then 0x0001 ||| 0x0010 ||| 0x0200 else 0
  let status : UInt8 :=
    if s.ackRequested then s.alState.toByte ||| State.ACK.toByte else s.alState.toByte
  { s with
    regs := (((s.regs.setWord Reg.ESC_DL_STATUS dl).set Reg.AL_STATUS status).set
      (Reg.AL_STATUS + 1) 0).setWord Reg.AL_STATUS_CODE s.alStatusCode }

/-- `syncSMStatus_`: SM0 always reads as not full, and the mailbox bit of SM1
says whether a reply is ready. -/
def syncSMStatus (s : VirtualSlave σ) : VirtualSlave σ :=
  let st1 : UInt8 := if s.mbHaveReply then MAILBOX_STATUS else 0x00
  { s with
    regs := (s.regs.set (Reg.SYNC_MANAGER_0 + Reg.SM_STATS) 0x00).set
      (Reg.SYNC_MANAGER_1 + Reg.SM_STATS) st1 }

/-- `syncSMRegisters_`: the SM0 and SM1 entries follow the mailbox windows. -/
def syncSMRegisters (s : VirtualSlave σ) : VirtualSlave σ :=
  syncSMStatus
    { s with
      regs := (((s.regs.setWord Reg.SYNC_MANAGER_0 s.mbRecvOffset).setWord
        (Reg.SYNC_MANAGER_0 + 2) s.mbRecvSize).setWord
        Reg.SYNC_MANAGER_1 s.mbSendOffset).setWord
        (Reg.SYNC_MANAGER_1 + 2) s.mbSendSize }

/-! ## The SII image -/

/-- `initializeEeprom_` on the zeroed image, word by word. -/
def initializeEeprom (vendorId productCode : UInt32) : Cells UInt16 128 :=
  let image : List (Nat × UInt16) :=
    [(0, 0x0180), (1, 0x0000), (4, 0x0000), (5, 0x0000), (7, 0x0000),
     (8, loWord vendorId), (9, hiWord vendorId),
     (10, loWord productCode), (11, hiWord productCode),
     (12, 0x0001), (13, 0x0000), (14, 0x0001), (15, 0x0000),
     (0x14, 0x0000), (0x15, 0x0010), (0x16, 0x0200), (0x17, 0x0000),
     (0x18, 0x0000), (0x19, 0x0012), (0x1A, 0x0200), (0x1B, 0x0000),
     (0x1C, 0x0000), (0x1D, 0x0010), (0x1E, 0x0200), (0x1F, 0x0000),
     (0x20, 0x0000), (0x21, 0x0012), (0x22, 0x0200), (0x23, 0x0000),
     (0x24, 0x0004), (0x2E, 0x0001), (0x2F, 0x0000), (0x30, 0x0001),
     (0x60, 0xFFFF), (0x61, 0xFFFF)]
  image.foldl (fun m e => m.set e.1 e.2) (Cells.fill 0)

/-! ## Construction and plain setters -/

/-- The constructor. -/
def new (address : UInt16) (vendorId productCode : UInt32) (device : σ) : VirtualSlave σ :=
  syncSMRegisters (syncCoreRegisters
    { address, vendorId, productCode, device
      online := true
      alState := .INIT
      alStatusCode := 0
      regs := (Cells.fill 0).setWord Reg.STATION_ADDR address
      inputPdoMapped := false
      ackRequested := false
      started := false
      mbRecvOffset := 0x1000
      mbRecvSize := 512
      mbSendOffset := 0x1200
      mbSendSize := 512
      mbHaveReply := false
      mbOut := List.replicate 512 0
      mbIn := List.replicate 512 0
      eepromAddr := 0
      eeprom := initializeEeprom vendorId productCode })

def setOnline (s : VirtualSlave σ) (on : Bool) : VirtualSlave σ :=
  syncCoreRegisters { s with online := on }

def setALState (s : VirtualSlave σ) (st : State) : VirtualSlave σ :=
  syncCoreRegisters { s with alState := st }

def setInputPDOMapped (s : VirtualSlave σ) (v : Bool) : VirtualSlave σ :=
  { s with inputPdoMapped := v }

def start (s : VirtualSlave σ) : VirtualSlave σ :=
  { s with started := true }

def routine (s : VirtualSlave σ) : VirtualSlave σ :=
  if !s.started then s else syncCoreRegisters s

/-! ## The AL state machine -/

/-- `stateRank_` -/
def stateRank : State → Nat
  | .INIT => 1
  | .PRE_OP => 2
  | .SAFE_OP => 3
  | .OPERATIONAL => 4
  | _ => 0

/-- `decodeControlState_` on the four state bits of AL_CONTROL. -/
def decodeControlState (ctrl : UInt16) : State :=
  let bits := ctrl &&& 0x000F
  if bits = 0 then .INVALID
  else if bits = 1 then .INIT
  else if bits = 2 then .PRE_OP
  else if bits = 3 then .BOOT
  else if bits = 4 then .SAFE_OP
  else if bits = 8 then .OPERATIONAL
  -- a mixed pattern names its highest state
  else if bits &&& 8 ≠ 0 then .OPERATIONAL
  else if bits &&& 4 ≠ 0 then .SAFE_OP
  else if bits &&& 2 ≠ 0 then .PRE_OP
  else if bits &&& 1 ≠ 0 then .INIT
  else .INVALID

/-- `nextStateUp_` -/
def nextStateUp : State → State
  | .INIT => .PRE_OP
  | .PRE_OP => .SAFE_OP
  | .SAFE_OP => .OPERATIONAL
  | st => st

/-- `applyStateTransition_` with the four `enter*_` functions. -/
def applyStateTransition (s : VirtualSlave σ) (target : State) : VirtualSlave σ :=
  match target with
  | .INIT => { s with alState := .INIT, ackRequested := false, mbHaveReply := false }
  | .PRE_OP => { s with alState := .PRE_OP }
  | .SAFE_OP => { s with alState := .SAFE_OP }
  | .OPERATIONAL => { s with alState := .OPERATIONAL }
  | _ => s

/-- `signalError_` -/
def signalError (s : VirtualSlave σ) (code : UInt16) : VirtualSlave σ :=
  syncCoreRegisters { s with alStatusCode := code, ackRequested := true }

/-- `stateChangeNeeded_` -/
def stateChangeNeeded (s : VirtualSlave σ) (requested : State) : Bool :=
  requested ≠ .INVALID && requested ≠ s.alState

/-- `isTransitionAllowed_` -/
def isTransitionAllowed (src dst : State) : Bool :=
  match src with
  | .INIT => dst = .PRE_OP || dst = .INIT
  | .PRE_OP => dst = .INIT || dst = .PRE_OP || dst = .SAFE_OP
  | .SAFE_OP => dst = .PRE_OP || dst = .SAFE_OP || dst = .OPERATIONAL || dst = .INIT
  | .OPERATIONAL => dst = .SAFE_OP || dst = .OPERATIONAL || dst = .INIT
  | .BOOT => dst = .INIT
  | _ => false

/-- `preconditionsMet_` -/
def preconditionsMet (s : VirtualSlave σ) (target : State) : Bool :=
  if target = .BOOT then false
  else if target = .SAFE_OP ∨ target = .OPERATIONAL then s.inputPdoMapped
  else true

/-- The state that the next iteration of the transition loop heads for. -/
def nextState (s : VirtualSlave σ) (requested : State) : State :=
  if stateRank requested > stateRank s.alState then nextStateUp s.alState else requested

/-- One iteration of the transition loop of `handleAlControlWrite_`, the test
of the loop condition included.  The second component is the value of
`success` when the loop ends here, and `none` when it goes on. -/
def transitionStep (s : VirtualSlave σ) (requested : State) : VirtualSlave σ × Option Bool :=
  if !s.stateChangeNeeded requested then (s, some true)
  else if !isTransitionAllowed s.alState (s.nextState requested) then
    (s.signalError 0x0011, some false)
  else if !s.preconditionsMet (s.nextState requested) then
    (s.signalError 0x0011, some false)
  else (s.applyStateTransition (s.nextState requested), none)

/-- The transition loop, with a bound on the number of iterations. -/
def transitionLoop (fuel : Nat) (s : VirtualSlave σ) (requested : State) :
    Option (VirtualSlave σ × Bool) :=
  FuelLoop.loop (fun s => s.transitionStep requested) fuel s

/-! ### Termination of the transition loop -/

/-- A bound on the number of transitions that are left.  Climbing takes one
transition for each rung, and a descent is one transition. -/
def transitionsLeft (s : VirtualSlave σ) (requested : State) : Nat :=
  if s.alState = requested then 0
  else if stateRank requested > stateRank s.alState then
    stateRank requested - stateRank s.alState
  else 1

theorem transitionsLeft_le (s : VirtualSlave σ) (requested : State) :
    s.transitionsLeft requested ≤ 4 := by
  have hrank : stateRank requested ≤ 4 := by cases requested <;> decide
  unfold transitionsLeft
  split
  · omega
  · split <;> omega

/-- The ways in which an iteration goes: at the target, refused, or on. -/
theorem transitionStep_branch (s : VirtualSlave σ) (requested : State) :
    (s.stateChangeNeeded requested = false ∧ s.transitionStep requested = (s, some true)) ∨
      (s.stateChangeNeeded requested = true ∧
        (isTransitionAllowed s.alState (s.nextState requested) = false ∨
          s.preconditionsMet (s.nextState requested) = false) ∧
        s.transitionStep requested = (s.signalError 0x0011, some false)) ∨
      (s.stateChangeNeeded requested = true ∧
        isTransitionAllowed s.alState (s.nextState requested) = true ∧
        s.preconditionsMet (s.nextState requested) = true ∧
        s.transitionStep requested = (s.applyStateTransition (s.nextState requested), none)) := by
  rw [transitionStep]
  cases hneed : s.stateChangeNeeded requested with
  | false => exact .inl ⟨rfl, rfl⟩
  | true =>
    right
    cases hallowed : isTransitionAllowed s.alState (s.nextState requested) with
    | false => exact .inl ⟨rfl, .inl rfl, rfl⟩
    | true =>
      cases hpre : s.preconditionsMet (s.nextState requested) with
      | false => exact .inl ⟨rfl, .inr rfl, rfl⟩
      | true => exact .inr ⟨rfl, rfl, rfl, rfl⟩

/-- What an iteration that goes on has done: it has made the transition to
`nextState`, which the transition table and the preconditions allow. -/
theorem transitionStep_none {s s' : VirtualSlave σ} {requested : State}
    (h : s.transitionStep requested = (s', none)) :
    s.stateChangeNeeded requested = true ∧
      isTransitionAllowed s.alState (s.nextState requested) = true ∧
      s.preconditionsMet (s.nextState requested) = true ∧
      s' = s.applyStateTransition (s.nextState requested) := by
  rcases s.transitionStep_branch requested with
    ⟨-, hb⟩ | ⟨-, -, hb⟩ | ⟨hneed, hallowed, hpre, hb⟩
  · simp [hb] at h
  · simp [hb] at h
  · rw [hb, Prod.mk.injEq] at h
    exact ⟨hneed, hallowed, hpre, h.1.symm⟩

/-- A transition that the table allows enters its target. -/
theorem applyStateTransition_alState (s : VirtualSlave σ) {src target : State}
    (h : isTransitionAllowed src target = true) :
    (s.applyStateTransition target).alState = target := by
  cases target <;> first | rfl | (cases src <;> simp [isTransitionAllowed] at h)

theorem transitionsLeft_lt {s s' : VirtualSlave σ} {requested : State}
    (h : s.transitionStep requested = (s', none)) :
    s'.transitionsLeft requested < s.transitionsLeft requested := by
  obtain ⟨hneed, hallowed, -, rfl⟩ := transitionStep_none h
  have hstate := applyStateTransition_alState s hallowed
  have hne : s.alState ≠ requested := by
    simp [stateChangeNeeded] at hneed
    exact fun he => hneed.2 he.symm
  unfold transitionsLeft
  rw [hstate, if_neg hne]
  by_cases hup : stateRank requested > stateRank s.alState
  · rw [if_pos hup]
    simp only [nextState, if_pos hup] at hallowed ⊢
    cases hs : s.alState <;> rw [hs] at hallowed hup hne <;>
      simp [isTransitionAllowed, nextStateUp] at hallowed <;>
      cases requested <;> simp_all [stateRank, nextStateUp]
  · simp [nextState, if_neg hup]

/-- The transition loop ends after at most five tests of its condition, from
every state and for every target. -/
theorem transitionLoop_isSome (s : VirtualSlave σ) (requested : State) :
    (transitionLoop 5 s requested).isSome := by
  apply FuelLoop.loop_isSome (fun s => s.transitionsLeft requested)
  · intro s s' hstep
    exact transitionsLeft_lt hstep
  · have hle := s.transitionsLeft_le requested
    show s.transitionsLeft requested < 5
    omega

/-- The two assignments by which `handleAlControlWrite_` drops an error. -/
def clearError (s : VirtualSlave σ) : VirtualSlave σ :=
  { s with ackRequested := false, alStatusCode := 0 }

/-- The end of `handleAlControlWrite_`: the transition loop, and the cleared
error when it succeeds. -/
def changeState (s : VirtualSlave σ) (requested : State) : VirtualSlave σ :=
  let out := (s.transitionLoop 5 requested).get (s.transitionLoop_isSome requested)
  if !out.2 then out.1
  else out.1.clearError.syncCoreRegisters

/-- The part of `handleAlControlWrite_` behind the acknowledgement. -/
def requestState (s : VirtualSlave σ) (requested : State) : VirtualSlave σ :=
  if requested = .INVALID then s.syncCoreRegisters
  else if requested = .BOOT then s.signalError 0x0043
  else if !s.stateChangeNeeded requested then s.syncCoreRegisters
  else s.changeState requested

/-- `handleAlControlWrite_`.  Its callers drop the returned `true`. -/
def handleAlControlWrite (s : VirtualSlave σ) (ctrl : UInt16) : VirtualSlave σ :=
  let requested := decodeControlState ctrl
  let ackBit : Bool := ctrl &&& 0x0010 ≠ 0
  let wantsProgress : Bool :=
    requested ≠ .INVALID && decide (stateRank requested > stateRank s.alState)
  if ackBit then
    -- an ACK without a higher target is a pure acknowledgement
    if !wantsProgress then s.clearError.syncCoreRegisters
    else s.clearError.requestState requested
  else s.requestState requested

/-! ## The mailbox -/

section Mailbox

variable [SlaveDevice σ]

/-- The lookup of an SDO upload: the identity object is answered here, every
other one by the subclass.  `none` is an object that nobody handles. -/
def sdoUpload (s : VirtualSlave σ) (index : UInt16) (subindex : UInt8) :
    Option UInt32 × VirtualSlave σ :=
  if index = 0x1018 ∧ subindex = 1 then (some s.vendorId, s)
  else if index = 0x1018 ∧ subindex = 2 then (some s.productCode, s)
  else if index = 0x1018 ∧ subindex = 3 then (some 0, s)
  else if index = 0x1018 ∧ subindex = 4 then (some 0, s)
  else
    let (v, device) := SlaveDevice.onSdoUpload s.device index subindex
    (v, { s with device })

/-- The call of `onSdoDownload`, with the answer of the hook. -/
def sdoDownload (s : VirtualSlave σ) (index : UInt16) (subindex : UInt8) (value : UInt32)
    (nbytes : UInt8) : Bool × VirtualSlave σ :=
  let (ok, mapped, device) :=
    SlaveDevice.onSdoDownload s.device s.inputPdoMapped index subindex value nbytes
  (ok, { s with inputPdoMapped := mapped, device })

/-- The reply to the request in `mb_in_`, and the slave after the object
dictionary access that the request asks for. -/
def sdoReply (s : VirtualSlave σ) : SdoMessage × VirtualSlave σ :=
  let req := SdoMessage.decode s.mbIn
  let reply : SdoMessage :=
    { len := 10, type := mailboxCoE, count := req.count, service := CoE.SDO_RESPONSE
      sizeIndicator := 1, transferType := 1, blockSize := 0
      command := CoE.RESPONSE_UPLOAD, index := req.index, subindex := req.subindex, payload := 0 }
  if req.service = CoE.SDO_REQUEST ∧ req.command = CoE.REQUEST_UPLOAD then
    let (v, s) := s.sdoUpload req.index req.subindex
    ({ reply with payload := v.getD 0 }, s)
  else if req.service = CoE.SDO_REQUEST ∧ req.command = CoE.REQUEST_DOWNLOAD then
    let (_, s) := s.sdoDownload req.index req.subindex req.payload 4
    ({ reply with command := CoE.RESPONSE_DOWNLOAD }, s)
  else
    -- an unknown request is answered like an upload of zero
    (reply, s)

/-- `handleMailboxWrite_`.  It ignores its two arguments. -/
def handleMailboxWrite (s : VirtualSlave σ) : VirtualSlave σ :=
  let (reply, s) := s.sdoReply
  syncSMStatus
    { s with
      mbOut := overwrite (List.replicate s.mbOut.length 0) 0 reply.encode
      mbHaveReply := true }

end Mailbox

/-! ## Sync manager configuration -/

/-- What one 8-byte entry does: entry 0 moves the receive window, entry 1 the
send window.  A buffer whose size changes is cleared. -/
def setSyncManager (s : VirtualSlave σ) (smIndex : Nat) (start length : UInt16) :
    VirtualSlave σ :=
  if smIndex = 0 then
    { s with
      mbRecvOffset := start
      mbRecvSize := length
      mbIn := if s.mbIn.length ≠ length.toNat then List.replicate length.toNat 0 else s.mbIn }
  else if smIndex = 1 then
    { s with
      mbSendOffset := start
      mbSendSize := length
      mbOut := if s.mbOut.length ≠ length.toNat then List.replicate length.toNat 0 else s.mbOut }
  else s

/-- The loop over the entries of a sync manager write that starts at `reg`.
`rest` is the part of the data from `pos` on; fewer than eight bytes end the
loop. -/
def parseSyncManagers (s : VirtualSlave σ) (reg pos : Nat) : List UInt8 → VirtualSlave σ
  | b0 :: b1 :: b2 :: b3 :: _ :: _ :: _ :: _ :: rest =>
    let s := s.setSyncManager ((reg + pos - Reg.SYNC_MANAGER) / 8) (le16 b0 b1) (le16 b2 b3)
    parseSyncManagers s reg (pos + 8) rest
  | _ => s

/-! ## The register interface -/

/-- `read(reg, dst, len)` with `len = dst.length`: the returned flag, the bytes
of `dst` afterwards, and the slave. -/
def read (s : VirtualSlave σ) (reg : UInt16) (dst : List UInt8) :
    Bool × List UInt8 × VirtualSlave σ :=
  if reg.toNat = Reg.EEPROM_DATA ∧ 4 ≤ dst.length then
    let lo := if s.eepromAddr.toNat < 128 then s.eeprom.get s.eepromAddr.toNat else 0
    -- the sum is a 32-bit one and wraps
    let hi := if (s.eepromAddr + 1).toNat < 128 then s.eeprom.get (s.eepromAddr + 1).toNat else 0
    (true, overwrite dst 0 (bytes32 (le32 lo hi)), { s with eepromAddr := s.eepromAddr + 2 })
  else if reg.toNat + dst.length ≤ 4096 then
    (true, s.regs.load reg.toNat dst.length, s)
  else if s.mbSendOffset.toNat ≤ reg.toNat ∧
      reg.toNat + dst.length ≤ s.mbSendOffset.toNat + s.mbSendSize.toNat then
    let off := reg.toNat - s.mbSendOffset.toNat
    let n := min dst.length (s.mbOut.length - off)
    (true, overwrite dst 0 ((s.mbOut.drop off).take n),
      syncSMStatus { s with mbHaveReply := false })
  else (false, dst, s)

/-- The two hooks behind a write to ESC space: a new station address, and a new
AL control word. -/
def escWriteHooks (s : VirtualSlave σ) (reg : UInt16) (len : Nat) : VirtualSlave σ :=
  let s := if reg.toNat = Reg.STATION_ADDR ∧ 2 ≤ len then
      { s with address := s.regs.word Reg.STATION_ADDR } else s
  if reg.toNat = Reg.AL_CONTROL ∧ 1 ≤ len then
    s.handleAlControlWrite (s.regs.word Reg.AL_CONTROL)
  else s

/-- `write(reg, src, len)` with `len = src.length`: the returned flag and the
slave. -/
def write [SlaveDevice σ] (s : VirtualSlave σ) (reg : UInt16) (src : List UInt8) :
    Bool × VirtualSlave σ :=
  if reg.toNat = Reg.EEPROM_CONTROL ∧ 6 ≤ src.length then
    let addressLow := le16 (src.getD 2 0) (src.getD 3 0)
    let addressHigh := le16 (src.getD 4 0) (src.getD 5 0)
    (true, { s with eepromAddr := le32 addressLow addressHigh })
  else if reg.toNat + src.length ≤ 4096 then
    (true, escWriteHooks { s with regs := s.regs.store reg.toNat src } reg src.length)
  else if s.mbRecvOffset.toNat ≤ reg.toNat ∧
      reg.toNat + src.length ≤ s.mbRecvOffset.toNat + s.mbRecvSize.toNat then
    let off := reg.toNat - s.mbRecvOffset.toNat
    let n := min src.length (s.mbIn.length - off)
    (true, handleMailboxWrite { s with mbIn := overwrite s.mbIn off (src.take n) })
  else if Reg.SYNC_MANAGER ≤ reg.toNat ∧ reg.toNat < Reg.SYNC_MANAGER + 16 then
    (true, syncSMRegisters (s.parseSyncManagers reg.toNat 0 src))
  else (false, s)

end VirtualSlave

end EthercatSim

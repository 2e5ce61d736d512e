import EthercatSim.VirtualSlave.Model
import EthercatSim.Lib.Run

/-!
# Steps of a slave and what each of them leaves alone

`SlaveOp` lists the public calls that change a slave, and `step` makes one.
`StepRun.run step` is then a run of a slave.

The rest of the file says once what each function of the model can change:

* `ReadBranch` and `WriteBranch` are the branches of `read` and `write` with
  their guards.  `read_branch` and `write_branch` split the two functions.
* `AlStep` is the frame of the AL state machine, `MailboxStep` that of a
  mailbox request, `parseSyncManagers_outsideWindows` that of a sync manager
  write.  Each compares the two states after the members that the function owns
  have been erased, so a frame gives every other member by one `congrArg`.
* `KeptOffEsc` is a property that all of these functions keep.  Only a write
  into ESC space can then change it, and `KeptOffEsc.step_iff` reduces a call to
  that case.
-/

namespace EthercatSim

open Kickcat Bytes

/-! ## Runs -/

/-- The calls that change a slave. -/
inductive SlaveOp where
  | read (reg : UInt16) (dst : List UInt8)
  | write (reg : UInt16) (src : List UInt8)
  | setOnline (on : Bool)
  | setALState (st : State)
  | setInputPDOMapped (v : Bool)
  | start
  | routine
  deriving DecidableEq, Repr

/-- A bus access: a `read` or a `write`. -/
def SlaveOp.IsAccess : SlaveOp → Prop
  | .read _ _ => True
  | .write _ _ => True
  | _ => False

/-- Every call but `setALState`. -/
def SlaveOp.IsGuarded : SlaveOp → Prop
  | .setALState _ => False
  | _ => True

namespace VirtualSlave

variable {σ : Type}

/-- The slave after one call. -/
def step [SlaveDevice σ] (s : VirtualSlave σ) : SlaveOp → VirtualSlave σ
  | .read reg dst => (s.read reg dst).2.2
  | .write reg src => (s.write reg src).2
  | .setOnline on => s.setOnline on
  | .setALState st => s.setALState st
  | .setInputPDOMapped v => s.setInputPDOMapped v
  | .start => s.start
  | .routine => s.routine

/-! ## The branches of a read and of a write -/

/-- A write that reaches the register file. -/
def EscWrite (reg : UInt16) (src : List UInt8) : Prop :=
  ¬(reg.toNat = Reg.EEPROM_CONTROL ∧ 6 ≤ src.length) ∧ reg.toNat + src.length ≤ 4096

instance (reg : UInt16) (src : List UInt8) : Decidable (EscWrite reg src) :=
  inferInstanceAs (Decidable (_ ∧ _))

/-- The call is a write that reaches the register file. -/
def IsEscWrite : SlaveOp → Prop
  | .write reg src => EscWrite reg src
  | _ => False

/-- The range `[reg, reg + len)` lies in the window of `size` bytes at
`offset`. -/
def InWindow (offset size reg : UInt16) (len : Nat) : Prop :=
  offset.toNat ≤ reg.toNat ∧ reg.toNat + len ≤ offset.toNat + size.toNat

instance (offset size reg : UInt16) (len : Nat) : Decidable (InWindow offset size reg len) :=
  inferInstanceAs (Decidable (_ ∧ _))

/-- The branches of `read`, with what each returns. -/
inductive ReadBranch (s : VirtualSlave σ) (reg : UInt16) (dst : List UInt8) :
    Bool × List UInt8 × VirtualSlave σ → Prop
  | eeprom (bytes : List UInt8) (hreg : reg.toNat = Reg.EEPROM_DATA) (hlen : 4 ≤ dst.length) :
      ReadBranch s reg dst (true, bytes, { s with eepromAddr := s.eepromAddr + 2 })
  | esc (hsize : reg.toNat + dst.length ≤ 4096) :
      ReadBranch s reg dst (true, s.regs.load reg.toNat dst.length, s)
  | mailbox (hreg : ¬(reg.toNat = Reg.EEPROM_DATA ∧ 4 ≤ dst.length))
      (hsize : 4096 < reg.toNat + dst.length)
      (hwin : InWindow s.mbSendOffset s.mbSendSize reg dst.length) :
      ReadBranch s reg dst
        (true,
          overwrite dst 0 ((s.mbOut.drop (reg.toNat - s.mbSendOffset.toNat)).take
            (min dst.length (s.mbOut.length - (reg.toNat - s.mbSendOffset.toNat)))),
          syncSMStatus { s with mbHaveReply := false })
  | rejected (hsize : 4096 < reg.toNat + dst.length)
      (hwin : ¬InWindow s.mbSendOffset s.mbSendSize reg dst.length) :
      ReadBranch s reg dst (false, dst, s)

theorem read_branch (s : VirtualSlave σ) (reg : UInt16) (dst : List UInt8) :
    ReadBranch s reg dst (s.read reg dst) := by
  unfold read
  split
  · rename_i h
    exact .eeprom _ h.1 h.2
  · rename_i hreg
    split
    · rename_i h
      exact .esc h
    · rename_i hsize
      split
      · rename_i h
        exact .mailbox hreg (by omega) h
      · rename_i h
        exact .rejected (by omega) h

/-- The branches of `write`, with what each returns. -/
inductive WriteBranch [SlaveDevice σ] (s : VirtualSlave σ) (reg : UInt16) (src : List UInt8) :
    Bool × VirtualSlave σ → Prop
  | eeprom (addr : UInt32) (hreg : reg.toNat = Reg.EEPROM_CONTROL) (hlen : 6 ≤ src.length) :
      WriteBranch s reg src (true, { s with eepromAddr := addr })
  | esc (h : EscWrite reg src) :
      WriteBranch s reg src
        (true, escWriteHooks { s with regs := s.regs.store reg.toNat src } reg src.length)
  | mailbox (hreg : ¬(reg.toNat = Reg.EEPROM_CONTROL ∧ 6 ≤ src.length))
      (hsize : 4096 < reg.toNat + src.length)
      (hwin : InWindow s.mbRecvOffset s.mbRecvSize reg src.length) :
      WriteBranch s reg src
        (true, handleMailboxWrite
          { s with
            mbIn := overwrite s.mbIn (reg.toNat - s.mbRecvOffset.toNat)
              (src.take (min src.length (s.mbIn.length - (reg.toNat - s.mbRecvOffset.toNat)))) })
  | syncManager (hreg : ¬(reg.toNat = Reg.EEPROM_CONTROL ∧ 6 ≤ src.length))
      (hsize : 4096 < reg.toNat + src.length)
      (hwin : ¬InWindow s.mbRecvOffset s.mbRecvSize reg src.length)
      (hsm : Reg.SYNC_MANAGER ≤ reg.toNat ∧ reg.toNat < Reg.SYNC_MANAGER + 16) :
      WriteBranch s reg src (true, syncSMRegisters (s.parseSyncManagers reg.toNat 0 src))
  | rejected (hreg : ¬(reg.toNat = Reg.EEPROM_CONTROL ∧ 6 ≤ src.length))
      (hsize : 4096 < reg.toNat + src.length)
      (hwin : ¬InWindow s.mbRecvOffset s.mbRecvSize reg src.length)
      (hsm : ¬(Reg.SYNC_MANAGER ≤ reg.toNat ∧ reg.toNat < Reg.SYNC_MANAGER + 16)) :
      WriteBranch s reg src (false, s)

theorem write_branch [SlaveDevice σ] (s : VirtualSlave σ) (reg : UInt16) (src : List UInt8) :
    WriteBranch s reg src (s.write reg src) := by
  unfold write
  split
  · rename_i h
    exact .eeprom _ h.1 h.2
  · rename_i hreg
    split
    · rename_i h
      exact .esc ⟨hreg, h⟩
    · rename_i hsize
      split
      · rename_i h
        exact .mailbox hreg (by omega) h
      · rename_i hwin
        split
        · rename_i h
          exact .syncManager hreg (by omega) hwin h
        · rename_i h
          exact .rejected hreg (by omega) hwin h

/-- A write to ESC space that does not start at AL_CONTROL changes the register
file and, at STATION_ADDR, the address. -/
theorem escWriteHooks_of_ne (s : VirtualSlave σ) {reg : UInt16} {len : Nat}
    (h : ¬(reg.toNat = Reg.AL_CONTROL ∧ 1 ≤ len)) :
    escWriteHooks s reg len =
      { s with
        address := if reg.toNat = Reg.STATION_ADDR ∧ 2 ≤ len then s.regs.word Reg.STATION_ADDR
          else s.address } := by
  unfold escWriteHooks
  rw [if_neg h]
  split <;> rfl

/-- A write to ESC space at AL_CONTROL runs the AL state machine. -/
theorem escWriteHooks_alControl (s : VirtualSlave σ) {reg : UInt16} {len : Nat}
    (hreg : reg.toNat = Reg.AL_CONTROL) (hlen : 1 ≤ len) :
    escWriteHooks s reg len = s.handleAlControlWrite (s.regs.word Reg.AL_CONTROL) := by
  have hstation : ¬(reg.toNat = Reg.STATION_ADDR ∧ 2 ≤ len) := by
    intro h
    have hne := h.1
    rw [hreg] at hne
    exact absurd hne (by decide)
  unfold escWriteHooks
  rw [if_neg hstation, if_pos ⟨hreg, hlen⟩]

/-- A write to ESC space copies the data and runs the hooks. -/
theorem write_of_esc [SlaveDevice σ] (s : VirtualSlave σ) {reg : UInt16} {src : List UInt8}
    (hesc : EscWrite reg src) :
    s.write reg src =
      (true, escWriteHooks { s with regs := s.regs.store reg.toNat src } reg src.length) := by
  unfold write
  rw [if_neg hesc.1, if_pos hesc.2]

/-- A write to ESC space that is not for AL_CONTROL or the EEPROM is in the register
file afterwards. -/
theorem write_load [SlaveDevice σ] (s : VirtualSlave σ) {reg : UInt16} {src : List UInt8}
    (hesc : EscWrite reg src) (hal : reg.toNat ≠ Reg.AL_CONTROL) :
    (s.write reg src).2.regs.load reg.toNat src.length = src := by
  rw [write_of_esc s hesc, escWriteHooks_of_ne _ (fun h => hal h.1)]
  exact Cells.load_store s.regs hesc.2

/-! ## A write that reaches the mailbox -/

/-- A write that reaches the mailbox. -/
def WritesMailbox (s : VirtualSlave σ) (reg : UInt16) (src : List UInt8) : Prop :=
  ¬(reg.toNat = Reg.EEPROM_CONTROL ∧ 6 ≤ src.length) ∧ 4096 < reg.toNat + src.length ∧
    InWindow s.mbRecvOffset s.mbRecvSize reg src.length

instance (s : VirtualSlave σ) (reg : UInt16) (src : List UInt8) :
    Decidable (s.WritesMailbox reg src) := inferInstanceAs (Decidable (_ ∧ _))

/-- The slave with the message in its receive buffer. -/
def incoming (s : VirtualSlave σ) (reg : UInt16) (src : List UInt8) : VirtualSlave σ :=
  { s with
    mbIn := overwrite s.mbIn (reg.toNat - s.mbRecvOffset.toNat)
      (src.take (min src.length (s.mbIn.length - (reg.toNat - s.mbRecvOffset.toNat)))) }

/-- The message that the slave reads. -/
def received (s : VirtualSlave σ) (reg : UInt16) (src : List UInt8) : SdoMessage :=
  SdoMessage.decode (s.incoming reg src).mbIn

theorem write_mailbox [SlaveDevice σ] {s : VirtualSlave σ} {reg : UInt16} {src : List UInt8}
    (h : s.WritesMailbox reg src) :
    s.write reg src = (true, (s.incoming reg src).handleMailboxWrite) := by
  obtain ⟨hctrl, hsize, hwin⟩ := h
  unfold InWindow at hwin
  rw [write, if_neg hctrl, if_neg (by omega), if_pos hwin]
  rfl

/-! ## The frame of the AL state machine -/

/-- The registers that `syncCoreRegisters` writes. -/
def coreRegisters : List Nat :=
  [Reg.ESC_DL_STATUS, Reg.ESC_DL_STATUS + 1, Reg.AL_STATUS, Reg.AL_STATUS + 1,
    Reg.AL_STATUS_CODE, Reg.AL_STATUS_CODE + 1]

/-- The slave with the members of the AL state machine erased. -/
def outsideAl (s : VirtualSlave σ) : VirtualSlave σ :=
  { s with
    regs := Cells.fill 0
    alState := .INIT
    alStatusCode := 0
    ackRequested := false
    mbHaveReply := false }

/-- What a function of the AL state machine leaves alone: every member that it
does not own, and every register that is not a core register. -/
structure AlStep (s s' : VirtualSlave σ) : Prop where
  frame : s'.outsideAl = s.outsideAl
  regs : ∀ i, i ∉ coreRegisters → s'.regs.get i = s.regs.get i

theorem AlStep.refl (s : VirtualSlave σ) : AlStep s s := ⟨rfl, fun _ _ => rfl⟩

theorem AlStep.trans {s s' s'' : VirtualSlave σ} (h : AlStep s s') (h' : AlStep s' s'') :
    AlStep s s'' :=
  ⟨h'.frame.trans h.frame, fun i hi => (h'.regs i hi).trans (h.regs i hi)⟩

theorem syncCoreRegisters_alStep (s : VirtualSlave σ) : AlStep s s.syncCoreRegisters := by
  refine ⟨rfl, ?_⟩
  intro i hi
  simp [coreRegisters] at hi
  simp [syncCoreRegisters, Cells.get_setWord, Cells.get_set, hi]

theorem signalError_alStep (s : VirtualSlave σ) (code : UInt16) :
    AlStep s (s.signalError code) := by
  have hcode : AlStep s { s with alStatusCode := code, ackRequested := true } :=
    ⟨rfl, fun _ _ => rfl⟩
  exact hcode.trans (syncCoreRegisters_alStep _)

theorem applyStateTransition_alStep (s : VirtualSlave σ) (target : State) :
    AlStep s (s.applyStateTransition target) := by
  cases target <;> exact ⟨rfl, fun _ _ => rfl⟩

theorem clearError_alStep (s : VirtualSlave σ) : AlStep s s.clearError :=
  ⟨rfl, fun _ _ => rfl⟩

theorem transitionStep_alStep (s : VirtualSlave σ) (requested : State) :
    AlStep s (s.transitionStep requested).1 := by
  rcases s.transitionStep_branch requested with ⟨-, hb⟩ | ⟨-, -, hb⟩ | ⟨-, -, -, hb⟩ <;> rw [hb]
  · exact .refl s
  · exact signalError_alStep s _
  · exact applyStateTransition_alStep s _

theorem transitionLoop_alStep {fuel : Nat} {s : VirtualSlave σ} {requested : State}
    {out : VirtualSlave σ × Bool} (h : transitionLoop fuel s requested = some out) :
    AlStep s out.1 :=
  FuelLoop.loop_rel AlStep.refl (fun _ _ _ => AlStep.trans)
    (fun s => transitionStep_alStep s requested) h

theorem changeState_alStep (s : VirtualSlave σ) (requested : State) :
    AlStep s (s.changeState requested) := by
  have hloop := transitionLoop_alStep (Option.some_get (s.transitionLoop_isSome requested)).symm
  unfold changeState
  simp only
  split
  · exact hloop
  · exact (hloop.trans (clearError_alStep _)).trans (syncCoreRegisters_alStep _)

/-- The ways in which a request goes: nothing to do, refused, or handed to the
transition loop. -/
theorem requestState_branch (s : VirtualSlave σ) (requested : State) :
    s.requestState requested = s.syncCoreRegisters ∨
      (requested = .BOOT ∧ s.requestState requested = s.signalError 0x0043) ∨
      (s.stateChangeNeeded requested = true ∧
        s.requestState requested = s.changeState requested) := by
  unfold requestState
  split
  · exact .inl rfl
  · split
    · rename_i hboot
      exact .inr (.inl ⟨hboot, rfl⟩)
    · cases hneed : s.stateChangeNeeded requested with
      | false => exact .inl rfl
      | true => exact .inr (.inr ⟨rfl, rfl⟩)

theorem requestState_alStep (s : VirtualSlave σ) (requested : State) :
    AlStep s (s.requestState requested) := by
  rcases s.requestState_branch requested with hb | ⟨-, hb⟩ | ⟨-, hb⟩ <;> rw [hb]
  · exact syncCoreRegisters_alStep s
  · exact signalError_alStep s _
  · exact changeState_alStep s requested

/-- The ways in which a control word is handled: a pure acknowledgement, an
acknowledgement with a higher target, or a request. -/
theorem handleAlControlWrite_branch (s : VirtualSlave σ) (ctrl : UInt16) :
    (ctrl &&& 0x0010 ≠ 0 ∧
        ¬(decodeControlState ctrl ≠ .INVALID ∧
          stateRank s.alState < stateRank (decodeControlState ctrl)) ∧
        s.handleAlControlWrite ctrl = s.clearError.syncCoreRegisters) ∨
      (ctrl &&& 0x0010 ≠ 0 ∧ stateRank s.alState < stateRank (decodeControlState ctrl) ∧
        s.handleAlControlWrite ctrl = s.clearError.requestState (decodeControlState ctrl)) ∨
      (¬(ctrl &&& 0x0010 ≠ 0) ∧
        s.handleAlControlWrite ctrl = s.requestState (decodeControlState ctrl)) := by
  unfold handleAlControlWrite
  by_cases hack : ctrl &&& 0x0010 ≠ 0
  · by_cases hprogress : decodeControlState ctrl ≠ .INVALID ∧
        stateRank s.alState < stateRank (decodeControlState ctrl)
    · refine .inr (.inl ⟨hack, hprogress.2, ?_⟩)
      simp [hack, hprogress.1, hprogress.2]
    · refine .inl ⟨hack, hprogress, ?_⟩
      have hno : (decide (decodeControlState ctrl ≠ .INVALID) &&
          decide (stateRank (decodeControlState ctrl) > stateRank s.alState)) = false := by
        rw [← Bool.decide_and]
        exact decide_eq_false hprogress
      simp only [hno, decide_eq_true hack]
      rfl
  · refine .inr (.inr ⟨hack, ?_⟩)
    simp only [decide_eq_false hack]
    rfl

theorem handleAlControlWrite_alStep (s : VirtualSlave σ) (ctrl : UInt16) :
    AlStep s (s.handleAlControlWrite ctrl) := by
  rcases s.handleAlControlWrite_branch ctrl with ⟨-, -, hb⟩ | ⟨-, -, hb⟩ | ⟨-, hb⟩ <;> rw [hb]
  · exact (clearError_alStep s).trans (syncCoreRegisters_alStep _)
  · exact (clearError_alStep s).trans (requestState_alStep _ _)
  · exact requestState_alStep s _

/-- The hooks of an ESC write run the AL state machine or set the address. -/
theorem escWriteHooks_branch (s : VirtualSlave σ) (reg : UInt16) (len : Nat) :
    AlStep s (escWriteHooks s reg len) ∨
      ∃ address, escWriteHooks s reg len = { s with address } := by
  by_cases hreg : reg.toNat = Reg.AL_CONTROL ∧ 1 ≤ len
  · rw [escWriteHooks_alControl s hreg.1 hreg.2]
    exact .inl (handleAlControlWrite_alStep s _)
  · exact .inr ⟨_, escWriteHooks_of_ne s hreg⟩

/-! ## The frame of a mailbox request -/

/-- The two sync manager status registers. -/
def statusRegisters : List Nat :=
  [Reg.SYNC_MANAGER_0 + Reg.SM_STATS, Reg.SYNC_MANAGER_1 + Reg.SM_STATS]

/-- The slave with the members of the mailbox and the object dictionary
erased. -/
def outsideMailbox (s : VirtualSlave σ) (d : σ) : VirtualSlave σ :=
  { s with
    regs := Cells.fill 0
    inputPdoMapped := false
    mbHaveReply := false
    mbOut := []
    mbIn := []
    device := d }

/-- What a mailbox request leaves alone. -/
structure MailboxStep (s s' : VirtualSlave σ) : Prop where
  frame : ∀ d, s'.outsideMailbox d = s.outsideMailbox d
  regs : ∀ i, i ∉ statusRegisters → s'.regs.get i = s.regs.get i

theorem MailboxStep.trans {s s' s'' : VirtualSlave σ} (h : MailboxStep s s')
    (h' : MailboxStep s' s'') : MailboxStep s s'' :=
  ⟨fun d => (h'.frame d).trans (h.frame d), fun i hi => (h'.regs i hi).trans (h.regs i hi)⟩

theorem syncSMStatus_mailboxStep (s : VirtualSlave σ) : MailboxStep s s.syncSMStatus := by
  refine ⟨fun _ => rfl, ?_⟩
  intro i hi
  simp [statusRegisters] at hi
  simp [syncSMStatus, Cells.get_set, hi]

section Device

variable [SlaveDevice σ]

/-- An object dictionary access changes at most the mapping flag and the data of
the subclass. -/
theorem sdoReply_eq (s : VirtualSlave σ) :
    s.sdoReply.2 =
      { s with inputPdoMapped := s.sdoReply.2.inputPdoMapped, device := s.sdoReply.2.device } := by
  unfold sdoReply sdoUpload sdoDownload
  simp only
  split
  · repeat' split
    all_goals rfl
  · split <;> rfl

theorem sdoReply_mbOut (s : VirtualSlave σ) : s.sdoReply.2.mbOut = s.mbOut := by
  rw [sdoReply_eq]

theorem sdoReply_mbIn (s : VirtualSlave σ) : s.sdoReply.2.mbIn = s.mbIn := by
  rw [sdoReply_eq]

theorem sdoReply_mailboxStep (s : VirtualSlave σ) : MailboxStep s s.sdoReply.2 := by
  rw [sdoReply_eq]
  exact ⟨fun _ => rfl, fun _ _ => rfl⟩

theorem handleMailboxWrite_mailboxStep (s : VirtualSlave σ) :
    MailboxStep s s.handleMailboxWrite := by
  unfold handleMailboxWrite
  refine (sdoReply_mailboxStep s).trans (.trans ?_ (syncSMStatus_mailboxStep _))
  exact ⟨fun _ => rfl, fun _ _ => rfl⟩

end Device

/-! ## The frame of a sync manager write -/

/-- The slave with the mailbox windows and buffers erased. -/
def outsideWindows (s : VirtualSlave σ) : VirtualSlave σ :=
  { s with
    regs := Cells.fill 0
    mbRecvOffset := 0
    mbRecvSize := 0
    mbSendOffset := 0
    mbSendSize := 0
    mbOut := []
    mbIn := [] }

theorem setSyncManager_outsideWindows (s : VirtualSlave σ) (i : Nat) (start length : UInt16) :
    (s.setSyncManager i start length).outsideWindows = s.outsideWindows := by
  unfold setSyncManager
  split
  · rfl
  · split <;> rfl

theorem parseSyncManagers_outsideWindows (s : VirtualSlave σ) (reg pos : Nat)
    (rest : List UInt8) :
    (s.parseSyncManagers reg pos rest).outsideWindows = s.outsideWindows := by
  fun_induction parseSyncManagers s reg pos rest with
  | case1 s pos b0 b1 b2 b3 b4 b5 b6 b7 rest s' ih =>
    exact ih.trans (setSyncManager_outsideWindows _ _ _ _)
  | case2 => rfl

theorem parseSyncManagers_regs (s : VirtualSlave σ) (reg pos : Nat) (rest : List UInt8) :
    (s.parseSyncManagers reg pos rest).regs = s.regs := by
  fun_induction parseSyncManagers s reg pos rest with
  | case1 s pos b0 b1 b2 b3 b4 b5 b6 b7 rest s' ih =>
    refine ih.trans ?_
    show (s.setSyncManager _ _ _).regs = s.regs
    unfold setSyncManager
    split
    · rfl
    · split <;> rfl
  | case2 => rfl

/-- `syncSMRegisters` leaves the registers below the sync manager entries
alone. -/
theorem syncSMRegisters_get_of_lt (s : VirtualSlave σ) {i : Nat} (hi : i < Reg.SYNC_MANAGER) :
    s.syncSMRegisters.regs.get i = s.regs.get i := by
  have hne : ∀ k, i ≠ Reg.SYNC_MANAGER + k := by
    intro k
    omega
  have h0 := hne 0
  have h1 := hne 1
  have h2 := hne 2
  have h3 := hne 3
  have h5 := hne 5
  have h8 := hne 8
  have h9 := hne 9
  have hA := hne 10
  have hB := hne 11
  have hD := hne 13
  simp_all [syncSMRegisters, syncSMStatus, Cells.get_set, Cells.get_setWord]

/-! ## What a call keeps unless it writes into ESC space -/

/-- What the functions behind an access keep, each by its frame. -/
structure KeptOffEsc (P : VirtualSlave σ → Prop) : Prop where
  alStep : ∀ {s s'}, AlStep s s' → P s → P s'
  mailboxStep : ∀ {s s'}, MailboxStep s s' → P s → P s'
  syncManagers : ∀ {s} reg pos rest, P s →
    P (syncSMRegisters (s.parseSyncManagers reg pos rest))
  eepromAddr : ∀ {s} addr, P s → P { s with eepromAddr := addr }

/-- The value of a member that lies outside every frame. -/
theorem keptOffEsc_of_member {α : Type} (member : VirtualSlave σ → α)
    (hal : ∀ s : VirtualSlave σ, member s.outsideAl = member s)
    (hmailbox : ∀ (s : VirtualSlave σ) d, member (s.outsideMailbox d) = member s)
    (hwindows : ∀ s : VirtualSlave σ, member s.outsideWindows = member s)
    (heeprom : ∀ (s : VirtualSlave σ) addr, member { s with eepromAddr := addr } = member s)
    (a : α) : KeptOffEsc fun s => member s = a where
  alStep {s s'} hstep h := by
    have hframe := congrArg member hstep.frame
    rw [hal, hal] at hframe
    exact hframe.trans h
  mailboxStep {s s'} hstep h := by
    have hframe := congrArg member (hstep.frame s.device)
    rw [hmailbox, hmailbox] at hframe
    exact hframe.trans h
  syncManagers {s} reg pos rest h := by
    have hframe := congrArg member (parseSyncManagers_outsideWindows s reg pos rest)
    have hsync : (syncSMRegisters (s.parseSyncManagers reg pos rest)).outsideWindows =
        (s.parseSyncManagers reg pos rest).outsideWindows := rfl
    rw [← hsync, hwindows, hwindows] at hframe
    exact hframe.trans h
  eepromAddr {s} addr h := (heeprom s addr).trans h

namespace KeptOffEsc

variable {P : VirtualSlave σ → Prop} (hP : KeptOffEsc P) {s : VirtualSlave σ}

include hP

theorem read (h : P s) (reg : UInt16) (dst : List UInt8) : P (s.read reg dst).2.2 := by
  have hbranch := s.read_branch reg dst
  generalize s.read reg dst = out at hbranch
  cases hbranch with
  | eeprom bytes hreg hlen => exact hP.eepromAddr _ h
  | esc hsize => exact h
  | mailbox hreg hsize hwin =>
    have htaken : MailboxStep s { s with mbHaveReply := false } := ⟨fun _ => rfl, fun _ _ => rfl⟩
    exact hP.mailboxStep (htaken.trans (syncSMStatus_mailboxStep _)) h
  | rejected hsize hwin => exact h

variable [SlaveDevice σ]

theorem write (h : P s) {reg : UInt16} {src : List UInt8}
    (hesc : EscWrite reg src →
      P (({ s with regs := s.regs.store reg.toNat src } : VirtualSlave σ).escWriteHooks reg
        src.length)) : P (s.write reg src).2 := by
  have hbranch := s.write_branch reg src
  generalize s.write reg src = out at hbranch
  cases hbranch with
  | eeprom addr hreg hlen => exact hP.eepromAddr _ h
  | esc hwrite => exact hesc hwrite
  | mailbox hreg hsize hwin =>
    refine hP.mailboxStep ?_ h
    refine .trans ?_ (handleMailboxWrite_mailboxStep _)
    exact ⟨fun _ => rfl, fun _ _ => rfl⟩
  | syncManager hreg hsize hwin hsm => exact hP.syncManagers _ _ _ h
  | rejected hreg hsize hwin hsm => exact h

/-- The property survives one call exactly under a condition that is exact for
the writes into ESC space and asks for nothing elsewhere. -/
theorem step_iff (h : P s) (honline : ∀ online, P { s with online })
    (hstarted : P { s with started := true }) {K : SlaveOp → Prop}
    (hfree : ∀ op : SlaveOp, ¬IsEscWrite op → K op)
    (hesc : ∀ reg src, EscWrite reg src →
      (P (({ s with regs := s.regs.store reg.toNat src } : VirtualSlave σ).escWriteHooks reg
        src.length) ↔ K (.write reg src)))
    (op : SlaveOp) : P (s.step op) ↔ K op := by
  have hsync : ∀ {t : VirtualSlave σ}, P t → P t.syncCoreRegisters :=
    fun ht => hP.alStep (syncCoreRegisters_alStep _) ht
  cases op with
  | read reg dst => exact iff_of_true (hP.read h reg dst) (hfree _ id)
  | write reg src =>
    by_cases hwrite : EscWrite reg src
    · rw [step, write_of_esc s hwrite]
      exact hesc reg src hwrite
    · exact iff_of_true (hP.write h fun hyes => absurd hyes hwrite) (hfree _ hwrite)
  | setOnline on => exact iff_of_true (hsync (honline on)) (hfree _ id)
  | setALState st =>
    have hstate : AlStep s { s with alState := st } := ⟨rfl, fun _ _ => rfl⟩
    exact iff_of_true (hsync (hP.alStep hstate h)) (hfree _ id)
  | setInputPDOMapped v =>
    have hmapped : MailboxStep s { s with inputPdoMapped := v } :=
      ⟨fun _ => rfl, fun _ _ => rfl⟩
    exact iff_of_true (hP.mailboxStep hmapped h) (hfree _ id)
  | start => exact iff_of_true hstarted (hfree _ id)
  | routine =>
    refine iff_of_true ?_ (hfree _ id)
    simp only [step, routine]
    split
    · exact h
    · exact hsync h

end KeptOffEsc

/-! ## No access changes whether the slave is online -/

theorem AlStep.online_eq {s s' : VirtualSlave σ} (h : AlStep s s') : s'.online = s.online := by
  have hframe := congrArg online h.frame
  exact hframe

/-- No function behind an access owns `online`. -/
theorem online_keptOffEsc (on : Bool) :
    KeptOffEsc fun s : VirtualSlave σ => s.online = on :=
  keptOffEsc_of_member online (fun _ => rfl) (fun _ _ => rfl) (fun _ => rfl) (fun _ _ => rfl) on

theorem read_online (s : VirtualSlave σ) (reg : UInt16) (dst : List UInt8) :
    (s.read reg dst).2.2.online = s.online :=
  (online_keptOffEsc s.online).read rfl reg dst

/-- A read fills the buffer it is given and does not grow it. -/
theorem read_length (s : VirtualSlave σ) (reg : UInt16) (dst : List UInt8) :
    (s.read reg dst).2.1.length = dst.length := by
  unfold read
  split
  · exact length_overwrite _ _ _
  · split
    · exact Cells.load_length _ _ _
    · split
      · exact length_overwrite _ _ _
      · rfl

theorem write_online [SlaveDevice σ] (s : VirtualSlave σ) (reg : UInt16) (src : List UInt8) :
    (s.write reg src).2.online = s.online := by
  have hkept : KeptOffEsc fun t : VirtualSlave σ => t.online = s.online := online_keptOffEsc _
  refine hkept.write rfl fun _ => ?_
  rcases escWriteHooks_branch { s with regs := s.regs.store reg.toNat src } reg src.length with
    hstep | ⟨address, hset⟩
  · exact hstep.online_eq
  · rw [hset]

/-! ## Refused accesses -/

/-- A read that is refused changes neither the slave nor the buffer. -/
theorem read_of_false {s : VirtualSlave σ} {reg : UInt16} {dst : List UInt8}
    (h : (s.read reg dst).1 = false) : s.read reg dst = (false, dst, s) := by
  cases hout : s.read reg dst with
  | mk ok out =>
    have hbranch := s.read_branch reg dst
    rw [hout] at h hbranch
    cases hbranch with
    | eeprom bytes hreg hlen => cases h
    | esc hsize => cases h
    | mailbox hreg hsize hwin => cases h
    | rejected hsize hwin => rfl

/-- A write that is refused does not change the slave. -/
theorem write_of_false [SlaveDevice σ] {s : VirtualSlave σ} {reg : UInt16} {src : List UInt8}
    (h : (s.write reg src).1 = false) : s.write reg src = (false, s) := by
  cases hout : s.write reg src with
  | mk ok s' =>
    have hbranch := s.write_branch reg src
    rw [hout] at h hbranch
    cases hbranch with
    | eeprom addr hreg hlen => cases h
    | esc hesc => cases h
    | mailbox hreg hsize hwin => cases h
    | syncManager hreg hsize hwin hsm => cases h
    | rejected hreg hsize hwin hsm => rfl

/-! ## The data of the subclass -/

theorem AlStep.device_eq {s s' : VirtualSlave σ} (h : AlStep s s') : s'.device = s.device := by
  have hframe := congrArg device h.frame
  exact hframe

section DeviceInvariant

variable [SlaveDevice σ]

/-- What the two dictionary hooks of a subclass preserve. -/
structure HookInvariant (P : σ → Prop) : Prop where
  upload : ∀ d index subindex, P d → P (SlaveDevice.onSdoUpload d index subindex).2
  download : ∀ d mapped index subindex value nbytes, P d →
    P (SlaveDevice.onSdoDownload d mapped index subindex value nbytes).2.2

theorem sdoUpload_device {P : σ → Prop} (hP : HookInvariant P) {s : VirtualSlave σ}
    (h : P s.device) (index : UInt16) (subindex : UInt8) :
    P (s.sdoUpload index subindex).2.device := by
  unfold sdoUpload
  split
  · exact h
  · split
    · exact h
    · split
      · exact h
      · split
        · exact h
        · exact hP.upload _ _ _ h

theorem sdoReply_device {P : σ → Prop} (hP : HookInvariant P) {s : VirtualSlave σ}
    (h : P s.device) : P s.sdoReply.2.device := by
  unfold sdoReply
  dsimp only
  split
  · exact sdoUpload_device hP h _ _
  · split
    · exact hP.download _ _ _ _ _ _ h
    · exact h

/-- What the hooks preserve, every call of the slave preserves. -/
theorem step_device {P : σ → Prop} (hP : HookInvariant P) {s : VirtualSlave σ} (h : P s.device)
    (op : SlaveOp) : P (s.step op).device := by
  cases op with
  | read reg dst =>
    show P (s.read reg dst).2.2.device
    cases hout : s.read reg dst with
    | mk ok out =>
      have hbranch := s.read_branch reg dst
      rw [hout] at hbranch
      cases hbranch <;> exact h
  | write reg src =>
    show P (s.write reg src).2.device
    cases hout : s.write reg src with
    | mk ok s' =>
      have hbranch := s.write_branch reg src
      rw [hout] at hbranch
      cases hbranch with
      | eeprom addr hreg hlen => exact h
      | esc hesc =>
        show P (escWriteHooks _ reg src.length).device
        rcases escWriteHooks_branch _ reg src.length with hstep | ⟨address, hset⟩
        · rw [hstep.device_eq]
          exact h
        · rw [hset]
          exact h
      | mailbox hreg hsize hwin => exact sdoReply_device hP h
      | syncManager hreg hsize hwin hsm =>
        have hframe := congrArg device (parseSyncManagers_outsideWindows s reg.toNat 0 src)
        have hdevice : (s.parseSyncManagers reg.toNat 0 src).device = s.device := hframe
        show P (s.parseSyncManagers reg.toNat 0 src).device
        rw [hdevice]
        exact h
      | rejected hreg hsize hwin hsm => exact h
  | setOnline on => exact h
  | setALState st => exact h
  | setInputPDOMapped v => exact h
  | start => exact h
  | routine =>
    show P s.routine.device
    rw [routine]
    split <;> exact h

end DeviceInvariant

end VirtualSlave

end EthercatSim

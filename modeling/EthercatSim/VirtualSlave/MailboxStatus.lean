import EthercatSim.VirtualSlave.AlDescent

/-!
# The mailbox-full bit

The MAILBOX_STATUS bit of the SM1 status byte, 0x080D, tells a master that a reply
can be fetched.  The slave knows it as `mbHaveReply`.  `BitTruthful` says that the
two agree.  `StaysFull` is about one call: a reply that is pending keeps the bit
set, until a read covers the whole reply or the slave enters INIT.

Three things break this.  A write into ESC space stores any byte at 0x080D; the
entry into INIT drops the reply without a synchronisation of the byte; and every
read in the send window, however short, drops the reply.

* `handleAlControlWrite_init` and `handleAlControlWrite_not_init`: a write at
  AL_CONTROL drops the reply exactly when it requests INIT from above.
* `step_fullBit_iff`: the condition `KeepsFullBit` is exact for one call.
* `fullBit_iff` is the statement about a whole run.
* `fullBit_init_false` and `fullBit_short_read_false` are two runs that break it.
-/

namespace EthercatSim.VirtualSlave

open Kickcat Bytes StepRun

variable {σ : Type}

/-- The SM1 status byte. -/
def replyByte : Nat := Reg.SYNC_MANAGER_1 + Reg.SM_STATS

/-- The MAILBOX_STATUS bit of the SM1 status byte is set. -/
def FullBit (s : VirtualSlave σ) : Prop := s.regs.get replyByte &&& MAILBOX_STATUS ≠ 0

instance (s : VirtualSlave σ) : Decidable s.FullBit := inferInstanceAs (Decidable (_ ≠ _))

/-- The bit says whether a reply is pending. -/
def BitTruthful (s : VirtualSlave σ) : Prop := s.FullBit ↔ s.mbHaveReply = true

instance (s : VirtualSlave σ) : Decidable s.BitTruthful := inferInstanceAs (Decidable (_ ↔ _))

/-- The part of the send buffer that a reply takes: the six bytes of the mailbox
header and the ten that its length field announces. -/
def replyLength (s : VirtualSlave σ) : Nat := min 16 s.mbOut.length

/-- A read that reaches the send window. -/
def ReadsMailbox (s : VirtualSlave σ) (reg : UInt16) (len : Nat) : Prop :=
  ¬(reg.toNat = Reg.EEPROM_DATA ∧ 4 ≤ len) ∧ 4096 < reg.toNat + len ∧
    InWindow s.mbSendOffset s.mbSendSize reg len

instance (s : VirtualSlave σ) (reg : UInt16) (len : Nat) : Decidable (s.ReadsMailbox reg len) :=
  inferInstanceAs (Decidable (_ ∧ _ ∧ _))

/-- A read in the send window that covers the whole reply. -/
def CoversReply (s : VirtualSlave σ) : SlaveOp → Prop
  | .read reg dst =>
    s.ReadsMailbox reg dst.length ∧ reg.toNat ≤ s.mbSendOffset.toNat ∧
      s.mbSendOffset.toNat + s.replyLength ≤ reg.toNat + dst.length
  | _ => False

/-- The call takes the slave into INIT. -/
def EntersInit [SlaveDevice σ] (s : VirtualSlave σ) (op : SlaveOp) : Prop :=
  s.alState ≠ .INIT ∧ (s.step op).alState = .INIT

/-- A pending reply keeps the bit set, until a read covers the whole reply or the
slave enters INIT. -/
def StaysFull [SlaveDevice σ] (s : VirtualSlave σ) (op : SlaveOp) : Prop :=
  s.mbHaveReply = true → (s.step op).FullBit ∨ s.CoversReply op ∨ s.EntersInit op

/-- The write at AL_CONTROL requests INIT from another state. -/
def RequestsInit (s : VirtualSlave σ) (src : List UInt8) : Prop :=
  s.alTarget src = some .INIT ∧ ¬s.HasAck src ∧ s.alState ≠ .INIT

instance (s : VirtualSlave σ) (src : List UInt8) : Decidable (s.RequestsInit src) :=
  inferInstanceAs (Decidable (_ ∧ _ ∧ _))

/-- The slave after the data of an ESC write has been copied. -/
def escCopied (s : VirtualSlave σ) (reg : UInt16) (src : List UInt8) : VirtualSlave σ :=
  { s with regs := s.regs.store reg.toNat src }

/-- A read in the send window while a reply is pending covers the whole reply.  A
write into ESC space leaves the bit as the pending reply has it, and when it
requests INIT it leaves the bit clear. -/
def KeepsFullBit (s : VirtualSlave σ) : SlaveOp → Prop
  | .read reg dst =>
    s.ReadsMailbox reg dst.length → s.mbHaveReply = true → s.CoversReply (.read reg dst)
  | .write reg src =>
    EscWrite reg src →
      if reg = 0x0120 ∧ s.RequestsInit src then ¬(s.escCopied reg src).FullBit
      else (s.escCopied reg src).FullBit ↔ s.mbHaveReply = true
  | _ => True

/-! ## The entry into INIT -/

/-- The reply is as it was, and INIT is not entered. -/
def NotInit (s s' : VirtualSlave σ) : Prop :=
  s'.mbHaveReply = s.mbHaveReply ∧ (s.alState ≠ .INIT → s'.alState ≠ .INIT)

theorem NotInit.refl (s : VirtualSlave σ) : NotInit s s := ⟨rfl, fun h => h⟩

theorem NotInit.trans {s s' s'' : VirtualSlave σ} (h : NotInit s s') (h' : NotInit s' s'') :
    NotInit s s'' :=
  ⟨h'.1.trans h.1, fun hne => h'.2 (h.2 hne)⟩

/-- The next state of the loop is INIT only when INIT is requested. -/
theorem nextState_ne_init (s : VirtualSlave σ) {requested : State} (h : requested ≠ .INIT) :
    s.nextState requested ≠ .INIT := by
  unfold nextState
  split
  · rename_i hlt
    cases hst : s.alState <;> simp [hst, nextStateUp] at hlt ⊢
  · exact h

theorem applyStateTransition_notInit (s : VirtualSlave σ) {target : State} (h : target ≠ .INIT) :
    NotInit s (s.applyStateTransition target) := by
  cases target with
  | INIT => exact absurd rfl h
  | PRE_OP => exact ⟨rfl, fun _ => State.noConfusion⟩
  | SAFE_OP => exact ⟨rfl, fun _ => State.noConfusion⟩
  | OPERATIONAL => exact ⟨rfl, fun _ => State.noConfusion⟩
  | INVALID => exact .refl s
  | BOOT => exact .refl s
  | ACK => exact .refl s

theorem transitionStep_notInit (s : VirtualSlave σ) {requested : State} (h : requested ≠ .INIT) :
    NotInit s (s.transitionStep requested).1 := by
  rcases s.transitionStep_branch requested with ⟨-, hb⟩ | ⟨-, -, hb⟩ | ⟨-, -, -, hb⟩ <;> rw [hb]
  · exact .refl s
  · exact .refl s
  · exact applyStateTransition_notInit s (s.nextState_ne_init h)

theorem changeState_notInit (s : VirtualSlave σ) {requested : State} (h : requested ≠ .INIT) :
    NotInit s (s.changeState requested) := by
  obtain ⟨out, hloop, heq⟩ := s.changeState_eq requested
  have hrel : NotInit s out.1 := FuelLoop.loop_rel NotInit.refl (fun _ _ _ => NotInit.trans)
    (fun t => transitionStep_notInit t h) hloop
  rw [heq]
  split
  · exact hrel.trans ⟨rfl, fun hne => hne⟩
  · exact hrel

/-- Unless INIT is requested, `requestState` leaves the reply alone. -/
theorem requestState_notInit (s : VirtualSlave σ) {requested : State}
    (h : requested ≠ .INIT ∨ s.alState = .INIT) : NotInit s (s.requestState requested) := by
  rcases s.requestState_branch requested with hb | ⟨-, hb⟩ | ⟨hneed, hb⟩ <;> rw [hb]
  · exact .refl s
  · exact .refl s
  · apply changeState_notInit
    intro hinit
    have hst : s.alState = .INIT := h.resolve_left (fun hne => hne hinit)
    rw [stateChangeNeeded, hst, hinit] at hneed
    cases hneed

/-- A request for INIT from above drops the reply. -/
theorem handleAlControlWrite_init {s : VirtualSlave σ} (hs : OnLadder s.alState) {ctrl : UInt16}
    (hinit : decodeControlState ctrl = .INIT) (hack : ¬(ctrl &&& 0x0010 ≠ 0))
    (hne : s.alState ≠ .INIT) :
    (s.handleAlControlWrite ctrl).mbHaveReply = false ∧
      (s.handleAlControlWrite ctrl).alState = .INIT := by
  have hinvalid : State.INIT ≠ .INVALID := State.noConfusion
  have hboot : State.INIT ≠ .BOOT := State.noConfusion
  have hrank : 1 < stateRank s.alState := by
    rcases Nat.lt_or_ge 1 (stateRank s.alState) with h | h
    · exact h
    · refine absurd (eq_of_stateRank_eq hs ?_) hne
      have h1 : stateRank .INIT = 1 := rfl
      have hpos : 0 < stateRank s.alState := hs
      omega
  have hallowed := (descentOpen_iff (s := s) (r := .INIT) Nat.one_pos hrank).mp (.inl rfl)
  have hhandle := handleAlControlWrite_of_not_ack (s := s) hack
    (by rw [hinit]; exact hinvalid) (by rw [hinit]; exact hboot) (by rw [hinit]; exact hne.symm)
  rw [hhandle, hinit, changeState_of_allowed hinvalid hne.symm (Nat.le_of_lt hrank) hallowed.1
    hallowed.2]
  exact ⟨rfl, rfl⟩

/-- Every other control word leaves the reply alone. -/
theorem handleAlControlWrite_not_init {s : VirtualSlave σ} (hs : OnLadder s.alState)
    {ctrl : UInt16} (h : ¬(decodeControlState ctrl = .INIT ∧ ¬(ctrl &&& 0x0010 ≠ 0) ∧
      s.alState ≠ .INIT)) : NotInit s (s.handleAlControlWrite ctrl) := by
  by_cases hinit : decodeControlState ctrl = .INIT
  · by_cases hack : ctrl &&& 0x0010 ≠ 0
    · -- on the ladder INIT is never above the current state
      have hle : stateRank (decodeControlState ctrl) ≤ stateRank s.alState := by
        rw [hinit]
        exact hs
      rw [handleAlControlWrite_of_ack s hack hle]
      exact ⟨rfl, fun hne => hne⟩
    · have hst : s.alState = .INIT := by
        by_contra hne
        exact h ⟨hinit, hack, hne⟩
      rcases s.handleAlControlWrite_branch ctrl with ⟨hyes, -⟩ | ⟨hyes, -⟩ | ⟨-, hb⟩
      · exact absurd hyes hack
      · exact absurd hyes hack
      · rw [hb]
        exact requestState_notInit s (.inr hst)
  · have hclear : NotInit s s.clearError := ⟨rfl, fun hne => hne⟩
    rcases s.handleAlControlWrite_branch ctrl with ⟨-, -, hb⟩ | ⟨-, -, hb⟩ | ⟨-, hb⟩ <;> rw [hb]
    · exact ⟨rfl, fun hne => hne⟩
    · exact hclear.trans (requestState_notInit s.clearError (.inl hinit))
    · exact requestState_notInit s (.inl hinit)

/-! ## One call -/

/-- A synchronisation makes the bit truthful. -/
theorem syncSMStatus_bitTruthful (s : VirtualSlave σ) : s.syncSMStatus.BitTruthful := by
  have hbyte : s.syncSMStatus.regs.get replyByte =
      if s.mbHaveReply then MAILBOX_STATUS else 0x00 := by
    simp [syncSMStatus, replyByte, Cells.get_set]
  have hflag : s.syncSMStatus.mbHaveReply = s.mbHaveReply := rfl
  unfold BitTruthful FullBit
  rw [hbyte, hflag]
  cases s.mbHaveReply <;> decide

theorem BitTruthful.of_eq {s s' : VirtualSlave σ} (h : s.BitTruthful)
    (hbyte : s'.regs.get replyByte = s.regs.get replyByte)
    (hreply : s'.mbHaveReply = s.mbHaveReply) : s'.BitTruthful := by
  unfold BitTruthful FullBit
  rw [hbyte, hreply]
  exact h

/-- While the reply stays pending, a truthful bit stays set. -/
theorem fullBit_iff_of_reply [SlaveDevice σ] {s : VirtualSlave σ} {op : SlaveOp}
    (hreply : s.mbHaveReply = true → (s.step op).mbHaveReply = true) :
    ((s.step op).BitTruthful ∧ s.StaysFull op) ↔ (s.step op).BitTruthful := by
  constructor
  · intro h
    exact h.1
  · intro h
    exact ⟨h, fun hpending => .inl (h.mpr (hreply hpending))⟩

theorem read_fullBit_iff [SlaveDevice σ] {s : VirtualSlave σ} (h : s.BitTruthful) (reg : UInt16)
    (dst : List UInt8) :
    ((s.step (.read reg dst)).BitTruthful ∧ s.StaysFull (.read reg dst)) ↔
      s.KeepsFullBit (.read reg dst) := by
  -- a read outside the send window changes neither the bit nor the reply
  have hfree : (s.read reg dst).2.2.regs = s.regs →
      (s.read reg dst).2.2.mbHaveReply = s.mbHaveReply →
      ¬s.ReadsMailbox reg dst.length →
      (((s.step (.read reg dst)).BitTruthful ∧ s.StaysFull (.read reg dst)) ↔
        s.KeepsFullBit (.read reg dst)) := by
    intro hregs hreply hnot
    rw [@fullBit_iff_of_reply _ _ s (.read reg dst) fun hp => hreply.trans hp]
    exact iff_of_true (h.of_eq (congrArg (fun m => m.get replyByte) hregs) hreply)
      fun hread => absurd hread hnot
  cases hout : s.read reg dst with
  | mk ok out =>
    have hbranch := s.read_branch reg dst
    rw [hout] at hbranch hfree
    cases hbranch with
    | eeprom bytes hreg hlen => exact hfree rfl rfl fun hread => hread.1 ⟨hreg, hlen⟩
    | esc hsize =>
      refine hfree rfl rfl fun hread => ?_
      have hlt := hread.2.1
      omega
    | mailbox hreg hsize hwin =>
      have hstep : s.step (.read reg dst) = syncSMStatus { s with mbHaveReply := false } := by
        rw [step, hout]
      have htruthful : (s.step (.read reg dst)).BitTruthful := by
        rw [hstep]
        exact syncSMStatus_bitTruthful _
      have hclear : ¬(s.step (.read reg dst)).FullBit := by
        intro hfull
        have hreply := htruthful.mp hfull
        rw [hstep] at hreply
        exact Bool.false_ne_true hreply
      have hstate : ¬s.EntersInit (.read reg dst) := by
        intro henters
        have hinit := henters.2
        rw [hstep] at hinit
        exact henters.1 hinit
      constructor
      · intro hboth _ hpending
        rcases hboth.2 hpending with hfull | hcovers | henters
        · exact absurd hfull hclear
        · exact hcovers
        · exact absurd henters hstate
      · intro hkeeps
        exact ⟨htruthful, fun hpending => .inr (.inl (hkeeps ⟨hreg, hsize, hwin⟩ hpending))⟩
    | rejected hsize hwin => exact hfree rfl rfl fun hread => hwin hread.2.2

/-! ### A write at AL_CONTROL -/

section AlControl

variable [SlaveDevice σ] {s : VirtualSlave σ} {src : List UInt8} (hs : OnLadder s.alState)
  (hesc : EscWrite 0x0120 src) (hlen : 1 ≤ src.length)

include hesc hlen

omit [SlaveDevice σ] in
theorem alTarget_eq :
    s.alTarget src =
      some (decodeControlState ((s.escCopied 0x0120 src).regs.word Reg.AL_CONTROL)) :=
  if_pos ⟨hlen, hesc.2⟩

omit [SlaveDevice σ] in
theorem requestsInit_iff :
    s.RequestsInit src ↔
      decodeControlState ((s.escCopied 0x0120 src).regs.word Reg.AL_CONTROL) = .INIT ∧
        ¬((s.escCopied 0x0120 src).regs.word Reg.AL_CONTROL &&& 0x0010 ≠ 0) ∧
        (s.escCopied 0x0120 src).alState ≠ .INIT := by
  unfold RequestsInit
  rw [alTarget_eq hesc hlen, Option.some.injEq]
  exact Iff.rfl

theorem step_alControl :
    s.step (.write 0x0120 src) = (s.escCopied 0x0120 src).handleAlControlWrite
      ((s.escCopied 0x0120 src).regs.word Reg.AL_CONTROL) :=
  congrArg Prod.snd (write_alControl_word (alTarget_eq hesc hlen)).2

/-- The AL handler does not touch the byte of the bit. -/
theorem step_alControl_fullBit :
    (s.step (.write 0x0120 src)).FullBit ↔ (s.escCopied 0x0120 src).FullBit := by
  have hcore : replyByte ∉ coreRegisters := by decide
  unfold FullBit
  rw [step_alControl hesc hlen, (handleAlControlWrite_alStep _ _).regs _ hcore]

include hs

/-- A request for INIT drops the reply, so the bit has to be clear. -/
theorem init_fullBit_iff (hinit : s.RequestsInit src) :
    ((s.step (.write 0x0120 src)).BitTruthful ∧ s.StaysFull (.write 0x0120 src)) ↔
      ¬(s.escCopied 0x0120 src).FullBit := by
  obtain ⟨hdecode, hack, hne⟩ := (requestsInit_iff hesc hlen).mp hinit
  obtain ⟨hreply, hstate⟩ := handleAlControlWrite_init (s := s.escCopied 0x0120 src) hs hdecode
    hack hne
  rw [← step_alControl hesc hlen] at hreply hstate
  unfold BitTruthful
  rw [step_alControl_fullBit hesc hlen, hreply]
  constructor
  · intro h hfull
    exact Bool.false_ne_true (h.1.mp hfull)
  · intro hclear
    exact ⟨⟨fun hfull => absurd hfull hclear, fun hc => absurd hc Bool.false_ne_true⟩,
      fun _ => .inr (.inr ⟨hne, hstate⟩)⟩

/-- Another word leaves the reply alone. -/
theorem not_init_fullBit_iff (hinit : ¬s.RequestsInit src) :
    ((s.step (.write 0x0120 src)).BitTruthful ∧ s.StaysFull (.write 0x0120 src)) ↔
      ((s.escCopied 0x0120 src).FullBit ↔ s.mbHaveReply = true) := by
  obtain ⟨hreply, -⟩ := handleAlControlWrite_not_init (s := s.escCopied 0x0120 src) hs
    (fun hc => hinit ((requestsInit_iff hesc hlen).mpr hc))
  rw [← step_alControl hesc hlen] at hreply
  rw [fullBit_iff_of_reply fun hp => hreply.trans hp]
  unfold BitTruthful
  rw [step_alControl_fullBit hesc hlen, hreply]
  exact Iff.rfl

end AlControl

/-- An ESC write keeps the bit truthful exactly when it leaves the bit as the reply
has it after the hooks. -/
theorem escWrite_fullBit_iff [SlaveDevice σ] {s : VirtualSlave σ} (hs : OnLadder s.alState)
    {reg : UInt16} {src : List UInt8} (hesc : EscWrite reg src)
    (hstep : s.step (.write reg src) = escWriteHooks (s.escCopied reg src) reg src.length) :
    ((s.step (.write reg src)).BitTruthful ∧ s.StaysFull (.write reg src)) ↔
      s.KeepsFullBit (.write reg src) := by
  have hkeeps : s.KeepsFullBit (.write reg src) ↔
      if reg = 0x0120 ∧ s.RequestsInit src then ¬(s.escCopied reg src).FullBit
      else (s.escCopied reg src).FullBit ↔ s.mbHaveReply = true :=
    ⟨fun h => h hesc, fun h _ => h⟩
  rw [hkeeps]
  by_cases hal : reg.toNat = Reg.AL_CONTROL ∧ 1 ≤ src.length
  · obtain rfl : reg = 0x0120 := UInt16.toNat_inj.mp hal.1
    by_cases hinit : s.RequestsInit src
    · rw [if_pos ⟨rfl, hinit⟩]
      exact init_fullBit_iff hs hesc hal.2 hinit
    · rw [if_neg fun hc => hinit hc.2]
      exact not_init_fullBit_iff hs hesc hal.2 hinit
  · rw [escWriteHooks_of_ne _ hal] at hstep
    have hnot : ¬(reg = 0x0120 ∧ s.RequestsInit src) := by
      intro hc
      obtain ⟨rfl, htarget, -⟩ := hc
      refine hal ⟨rfl, ?_⟩
      exact (Option.ite_none_right_eq_some.mp htarget).1.1
    rw [if_neg hnot, fullBit_iff_of_reply, hstep]
    · exact Iff.rfl
    · intro hp
      rw [hstep]
      exact hp

theorem write_fullBit_iff [SlaveDevice σ] {s : VirtualSlave σ} (hs : OnLadder s.alState)
    (h : s.BitTruthful) (reg : UInt16) (src : List UInt8) :
    ((s.step (.write reg src)).BitTruthful ∧ s.StaysFull (.write reg src)) ↔
      s.KeepsFullBit (.write reg src) := by
  -- outside ESC space the condition asks for nothing
  have hfree : (¬EscWrite reg src) → (s.step (.write reg src)).BitTruthful →
      (s.mbHaveReply = true → (s.step (.write reg src)).mbHaveReply = true) →
      (((s.step (.write reg src)).BitTruthful ∧ s.StaysFull (.write reg src)) ↔
        s.KeepsFullBit (.write reg src)) := by
    intro hn htruthful hreply
    rw [fullBit_iff_of_reply hreply]
    exact iff_of_true htruthful fun hesc => absurd hesc hn
  cases hout : s.write reg src with
  | mk ok s' =>
    have hstep : s.step (.write reg src) = s' := congrArg Prod.snd hout
    have hbranch := s.write_branch reg src
    rw [hout] at hbranch
    rw [hstep] at hfree
    cases hbranch with
    | eeprom addr hreg hlen =>
      rw [hstep]
      exact hfree (fun hesc => hesc.1 ⟨hreg, hlen⟩) h fun hp => hp
    | esc hesc => exact escWrite_fullBit_iff hs hesc hstep
    | mailbox hreg hsize hwin =>
      rw [hstep]
      refine hfree (fun hesc => by have := hesc.2; omega) ?_ fun _ => rfl
      exact syncSMStatus_bitTruthful _
    | syncManager hreg hsize hwin hsm =>
      rw [hstep]
      have hframe := congrArg mbHaveReply (parseSyncManagers_outsideWindows s reg.toNat 0 src)
      refine hfree (fun hesc => by have := hesc.2; omega) ?_ fun hp => hframe.trans hp
      exact syncSMStatus_bitTruthful _
    | rejected hreg hsize hwin hsm =>
      rw [hstep]
      exact hfree (fun hesc => by have := hesc.2; omega) h fun hp => hp

/-- One call keeps the bit truthful and a pending reply visible exactly when it
meets the condition. -/
theorem step_fullBit_iff [SlaveDevice σ] {s : VirtualSlave σ} (hs : OnLadder s.alState)
    (h : s.BitTruthful) {op : SlaveOp} (hop : op.IsGuarded) :
    ((s.step op).BitTruthful ∧ s.StaysFull op) ↔ s.KeepsFullBit op := by
  -- the other calls touch neither the bit nor the reply
  have hfree : (s.step op).regs.get replyByte = s.regs.get replyByte →
      (s.step op).mbHaveReply = s.mbHaveReply → s.KeepsFullBit op →
      (((s.step op).BitTruthful ∧ s.StaysFull op) ↔ s.KeepsFullBit op) := by
    intro hbyte hreply hkeeps
    rw [fullBit_iff_of_reply fun hp => hreply.trans hp]
    exact iff_of_true (h.of_eq hbyte hreply) hkeeps
  have hcore : replyByte ∉ coreRegisters := by decide
  cases op with
  | read reg dst => exact read_fullBit_iff h reg dst
  | write reg src => exact write_fullBit_iff hs h reg src
  | setOnline on =>
    exact hfree ((syncCoreRegisters_alStep { s with online := on }).regs _ hcore) rfl trivial
  | setALState st => exact absurd hop id
  | setInputPDOMapped v => exact hfree rfl rfl trivial
  | start => exact hfree rfl rfl trivial
  | routine =>
    refine hfree ?_ ?_ trivial
    · simp only [step, routine]
      split
      · rfl
      · exact (syncCoreRegisters_alStep s).regs _ hcore
    · simp only [step, routine]
      split <;> rfl

/-! ## Whole runs -/

theorem new_bitTruthful (address : UInt16) (vendorId productCode : UInt32) (device : σ) :
    (new address vendorId productCode device).BitTruthful := syncSMStatus_bitTruthful _

/-- All along a run of guarded calls from construction the bit says whether a reply
is pending, and every pending reply keeps the bit set until a read covers it whole
or INIT is entered, exactly when every call of the run meets the condition. -/
theorem fullBit_iff [SlaveDevice σ] (address : UInt16) (vendorId productCode : UInt32)
    (device : σ) (ops : List SlaveOp) (hops : ∀ op ∈ ops, op.IsGuarded) :
    (Always step BitTruthful (new address vendorId productCode device) ops ∧
        StepsOk step StaysFull (new address vendorId productCode device) ops) ↔
      StepsOk step KeepsFullBit (new address vendorId productCode device) ops := by
  have hinv : ∀ (s : VirtualSlave σ) (op : SlaveOp), OnLadder s.alState ∧ s.BitTruthful →
      op.IsGuarded → (s.step op).BitTruthful ∧ s.StaysFull op →
      OnLadder (s.step op).alState ∧ (s.step op).BitTruthful :=
    fun s op hI hop hok => ⟨(step_enters hI.1 hop).1, hok.1⟩
  have hstep : ∀ (s : VirtualSlave σ) (op : SlaveOp), OnLadder s.alState ∧ s.BitTruthful →
      op.IsGuarded → ((s.step op).BitTruthful ∧ s.StaysFull op ↔ s.KeepsFullBit op) :=
    fun s op hI hop => step_fullBit_iff hI.1 hI.2 hop
  have hnew := new_bitTruthful address vendorId productCode device
  have hiff := stepsOk_iff hinv hstep ⟨new_onLadder address vendorId productCode device, hnew⟩
    (stepsOk_of_forall hops _)
  rw [← hiff, stepsOk_and, always_iff, and_iff_right hnew]

/-- A request that is answered, fetched whole and followed by INIT. -/
theorem fullBit_fetched :
    Always step BitTruthful (new 1 2 3 ())
        [.write 0x1000 (List.replicate 16 0), .read 0x1200 (List.replicate 16 0),
          .write 0x0120 [0x01, 0x00]] ∧
      StepsOk step StaysFull (new 1 2 3 ())
        [.write 0x1000 (List.replicate 16 0), .read 0x1200 (List.replicate 16 0),
          .write 0x0120 [0x01, 0x00]] := by
  have hops : ∀ op ∈ [SlaveOp.write 0x1000 (List.replicate 16 0),
      .read 0x1200 (List.replicate 16 0), .write 0x0120 [0x01, 0x00]], op.IsGuarded := by
    intro op hop
    simp only [List.mem_cons, List.not_mem_nil, or_false] at hop
    rcases hop with rfl | rfl | rfl <;> trivial
  apply (fullBit_iff 1 2 3 () _ hops).mpr
  refine ⟨fun hesc => absurd hesc (by decide +kernel), fun _ _ => ?_, fun _ => ?_, trivial⟩
  · exact ⟨by decide +kernel, by decide +kernel, by decide +kernel⟩
  · decide +kernel

/-- A reply is pending in PRE_OP when INIT is requested: the reply is gone and the
bit stays set. -/
theorem fullBit_init_false :
    let s := run step (new 1 2 3 ())
      [.write 0x0120 [0x02, 0x00], .write 0x1000 (List.replicate 16 0),
        .write 0x0120 [0x01, 0x00]]
    s.FullBit ∧ s.mbHaveReply = false ∧ ¬s.BitTruthful := by
  decide +kernel

/-- A read of the first byte drops a reply of sixteen bytes. -/
theorem fullBit_short_read_false :
    let s := run step (new 1 2 3 ()) [.write 0x1000 (List.replicate 16 0)]
    s.mbHaveReply = true ∧ s.alState = .INIT ∧ ¬(s.step (.read 0x1200 [0])).FullBit ∧
      s.replyLength = 16 := by
  decide +kernel

end EthercatSim.VirtualSlave

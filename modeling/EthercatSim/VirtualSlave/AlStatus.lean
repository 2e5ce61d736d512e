import EthercatSim.VirtualSlave.AlLadder

/-!
# The status registers and the error latch

DL_STATUS, AL_STATUS and AL_STATUS_CODE show four members of the slave: whether
it is online, the AL state, the latch `ackRequested` and the code.
`syncCoreRegisters` copies the members into the registers.

* `StatusMirrored`: the registers show the members, and the latch is set exactly
  when there is a code.
* `handleAlControlWrite_synced`: every exit of the AL handler has synchronised
  the registers, with the latch and the code in step.  The entry into INIT clears
  the latch alone, but only a descent that succeeds reaches it, and that clears
  the code as well.
* `statusMirrored` is the statement about a whole run.

The error bit of AL_STATUS is the bit of the enumerator `ACK`.  A slave that was
put into the "state" `ACK` shows that bit without an error.
-/

namespace EthercatSim

open Kickcat

/-- Every call but a write over a status register that does not start at
AL_CONTROL. -/
def SlaveOp.SparesStatus : SlaveOp → Prop
  | .write reg src =>
    reg = 0x0120 ∨ ∀ i ∈ VirtualSlave.coreRegisters, ¬(reg.toNat ≤ i ∧ i < reg.toNat + src.length)
  | _ => True

end EthercatSim

namespace EthercatSim.VirtualSlave

open Kickcat Bytes StepRun

variable {σ : Type}

/-! ## The invariant -/

/-- The latch is set exactly when there is a code. -/
def Latched (s : VirtualSlave σ) : Prop := s.ackRequested = true ↔ s.alStatusCode ≠ 0

/-- The status registers show the members, and the latch agrees with the code. -/
structure StatusMirrored (s : VirtualSlave σ) : Prop where
  alStatus : s.regs.get Reg.AL_STATUS =
    if s.ackRequested then s.alState.toByte ||| State.ACK.toByte else s.alState.toByte
  alStatusHigh : s.regs.get (Reg.AL_STATUS + 1) = 0
  alStatusCode : s.regs.word Reg.AL_STATUS_CODE = s.alStatusCode
  dlStatus : s.regs.word Reg.ESC_DL_STATUS = if s.online then 0x0211 else 0
  latched : s.Latched

/-- The error bit of AL_STATUS is set. -/
def ErrorBit (s : VirtualSlave σ) : Prop := s.regs.get Reg.AL_STATUS &&& State.ACK.toByte ≠ 0

instance (s : VirtualSlave σ) : Decidable s.ErrorBit := inferInstanceAs (Decidable (_ ≠ _))

/-- The error bit shows the latch, unless the AL state is the enumerator `ACK`. -/
theorem StatusMirrored.errorBit_iff {s : VirtualSlave σ} (h : s.StatusMirrored) :
    s.ErrorBit ↔ s.ackRequested = true ∨ s.alState = .ACK := by
  unfold ErrorBit
  rw [h.alStatus]
  cases s.ackRequested <;> cases s.alState <;> decide

/-! ## Synchronisation -/

theorem syncCoreRegisters_get_alStatusHigh (s : VirtualSlave σ) :
    s.syncCoreRegisters.regs.get (Reg.AL_STATUS + 1) = 0 := by
  simp [syncCoreRegisters, Cells.get_setWord, Cells.get_set]

theorem syncCoreRegisters_word_dlStatus (s : VirtualSlave σ) :
    s.syncCoreRegisters.regs.word Reg.ESC_DL_STATUS = if s.online then 0x0211 else 0 := by
  cases honline : s.online with
  | false => simp [syncCoreRegisters, Cells.word, Cells.get_setWord, Cells.get_set, honline]
  | true =>
    simp [syncCoreRegisters, Cells.word, Cells.get_setWord, Cells.get_set, honline]
    rfl

/-- The registers show the members right after a synchronisation. -/
theorem syncCoreRegisters_statusMirrored {s : VirtualSlave σ} (h : s.Latched) :
    s.syncCoreRegisters.StatusMirrored where
  alStatus := syncCoreRegisters_get_alStatus s
  alStatusHigh := syncCoreRegisters_get_alStatusHigh s
  alStatusCode := syncCoreRegisters_word_alStatusCode s
  dlStatus := syncCoreRegisters_word_dlStatus s
  latched := h

theorem clearError_latched (s : VirtualSlave σ) : s.clearError.Latched :=
  ⟨fun h => absurd h Bool.false_ne_true, fun h => absurd rfl h⟩

/-- `signalError` is a synchronisation with both halves of the latch set. -/
theorem signalError_synced (s : VirtualSlave σ) {code : UInt16} (hcode : code ≠ 0) :
    ∃ t : VirtualSlave σ, t.Latched ∧ s.signalError code = t.syncCoreRegisters :=
  ⟨{ s with alStatusCode := code, ackRequested := true }, ⟨fun _ => hcode, fun _ => rfl⟩, rfl⟩

/-- A transition loop that fails has signalled error 0x0011. -/
theorem transitionLoop_failed {fuel : Nat} {s : VirtualSlave σ} {requested : State}
    {out : VirtualSlave σ × Bool} (h : transitionLoop fuel s requested = some out) :
    out.2 = false → ∃ t : VirtualSlave σ, out.1 = t.signalError 0x0011 := by
  refine FuelLoop.loop_post (I := fun _ => True)
    (Q := fun u ok => ok = false → ∃ t : VirtualSlave σ, u = t.signalError 0x0011)
    (fun _ _ _ _ => trivial) ?_ trivial h
  intro t t' ok _ hstep hok
  rcases t.transitionStep_branch requested with ⟨-, hb⟩ | ⟨-, -, hb⟩ | ⟨-, -, -, hb⟩
  · simp [hb, hok] at hstep
  · rw [hb, Prod.mk.injEq] at hstep
    exact ⟨t, hstep.1.symm⟩
  · simp [hb] at hstep

theorem changeState_synced (s : VirtualSlave σ) (requested : State) :
    ∃ t : VirtualSlave σ, t.Latched ∧ s.changeState requested = t.syncCoreRegisters := by
  obtain ⟨out, hloop, heq⟩ := s.changeState_eq requested
  rw [heq]
  cases hok : out.2 with
  | true => exact ⟨out.1.clearError, clearError_latched _, rfl⟩
  | false =>
    obtain ⟨t, ht⟩ := transitionLoop_failed hloop hok
    rw [ht]
    exact signalError_synced t (by decide)

theorem requestState_synced {s : VirtualSlave σ} (h : s.Latched) (requested : State) :
    ∃ t : VirtualSlave σ, t.Latched ∧ s.requestState requested = t.syncCoreRegisters := by
  rcases s.requestState_branch requested with hb | ⟨-, hb⟩ | ⟨-, hb⟩ <;> rw [hb]
  · exact ⟨s, h, rfl⟩
  · exact signalError_synced s (by decide)
  · exact changeState_synced s requested

/-- Every exit of the AL handler is a synchronisation. -/
theorem handleAlControlWrite_synced {s : VirtualSlave σ} (h : s.Latched) (ctrl : UInt16) :
    ∃ t : VirtualSlave σ, t.Latched ∧ s.handleAlControlWrite ctrl = t.syncCoreRegisters := by
  rcases s.handleAlControlWrite_branch ctrl with ⟨-, -, hb⟩ | ⟨-, -, hb⟩ | ⟨-, hb⟩ <;> rw [hb]
  · exact ⟨s.clearError, clearError_latched s, rfl⟩
  · exact requestState_synced (clearError_latched s) _
  · exact requestState_synced h _

/-! ## One step -/

/-- The members that the status registers show. -/
def statusMembers (s : VirtualSlave σ) : State × Bool × UInt16 × Bool :=
  (s.alState, s.ackRequested, s.alStatusCode, s.online)

/-- The invariant is about the members and the six core registers. -/
theorem StatusMirrored.of_eq {s s' : VirtualSlave σ} (h : s.StatusMirrored)
    (hmembers : s'.statusMembers = s.statusMembers)
    (hregs : ∀ i ∈ coreRegisters, s'.regs.get i = s.regs.get i) : s'.StatusMirrored := by
  simp only [statusMembers, Prod.mk.injEq] at hmembers
  obtain ⟨hstate, hack, hcode, honline⟩ := hmembers
  have hword : ∀ i ∈ coreRegisters, i + 1 ∈ coreRegisters → s'.regs.word i = s.regs.word i := by
    intro i hi hi'
    rw [Cells.word_eq_iff]
    exact ⟨hregs i hi, hregs (i + 1) hi'⟩
  constructor
  case alStatus =>
    rw [hregs _ (by decide), hstate, hack]
    exact h.alStatus
  case alStatusHigh =>
    rw [hregs _ (by decide)]
    exact h.alStatusHigh
  case alStatusCode =>
    rw [hword _ (by decide) (by decide), hcode]
    exact h.alStatusCode
  case dlStatus =>
    rw [hword _ (by decide) (by decide), honline]
    exact h.dlStatus
  case latched =>
    unfold Latched
    rw [hack, hcode]
    exact h.latched

/-- No core register is a sync manager status register. -/
theorem coreRegisters_not_status : ∀ i ∈ coreRegisters, i ∉ statusRegisters := by decide

theorem MailboxStep.keeps_statusMirrored {s s' : VirtualSlave σ} (h : MailboxStep s s')
    (hs : s.StatusMirrored) : s'.StatusMirrored := by
  have hframe := congrArg statusMembers (h.frame s.device)
  have hmembers : s'.statusMembers = s.statusMembers := hframe
  exact hs.of_eq hmembers fun i hi => h.regs i (coreRegisters_not_status i hi)

theorem syncSMRegisters_statusMirrored {s : VirtualSlave σ} (h : s.StatusMirrored) :
    s.syncSMRegisters.StatusMirrored := by
  have hlt : ∀ i ∈ coreRegisters, i < Reg.SYNC_MANAGER := by decide
  exact h.of_eq rfl fun i hi => s.syncSMRegisters_get_of_lt (hlt i hi)

theorem parseSyncManagers_statusMirrored {s : VirtualSlave σ} (h : s.StatusMirrored)
    (reg pos : Nat) (rest : List UInt8) : (s.parseSyncManagers reg pos rest).StatusMirrored := by
  have hframe := congrArg statusMembers (parseSyncManagers_outsideWindows s reg pos rest)
  have hmembers : (s.parseSyncManagers reg pos rest).statusMembers = s.statusMembers := hframe
  apply h.of_eq hmembers
  intro i _
  rw [parseSyncManagers_regs]

/-- An ESC write runs the AL handler, or it does not reach the core registers. -/
theorem escWrite_statusMirrored {s : VirtualSlave σ} (h : s.StatusMirrored) {reg : UInt16}
    {src : List UInt8} (hop : (SlaveOp.write reg src).SparesStatus) :
    (escWriteHooks { s with regs := s.regs.store reg.toNat src } reg
      src.length).StatusMirrored := by
  by_cases hal : reg.toNat = Reg.AL_CONTROL ∧ 1 ≤ src.length
  · have hlatched : ({ s with regs := s.regs.store reg.toNat src } : VirtualSlave σ).Latched :=
      h.latched
    rw [escWriteHooks_alControl _ hal.1 hal.2]
    obtain ⟨t, ht, heq⟩ := handleAlControlWrite_synced hlatched
      ((s.regs.store reg.toNat src).word Reg.AL_CONTROL)
    rw [heq]
    exact syncCoreRegisters_statusMirrored ht
  · rw [escWriteHooks_of_ne _ hal]
    refine h.of_eq ?_ ?_
    · rfl
    intro i hi
    apply Cells.get_store_of_disjoint
    rcases hop with rfl | hspares
    · -- a write at AL_CONTROL without data
      have hempty : ¬1 ≤ src.length := fun hlen => hal ⟨rfl, hlen⟩
      omega
    · have hi' := hspares i hi
      omega

theorem write_statusMirrored [SlaveDevice σ] {s : VirtualSlave σ} (h : s.StatusMirrored)
    {reg : UInt16} {src : List UInt8} (hop : (SlaveOp.write reg src).SparesStatus) :
    (s.write reg src).2.StatusMirrored := by
  cases hout : s.write reg src with
  | mk ok s' =>
    have hbranch := s.write_branch reg src
    rw [hout] at hbranch
    cases hbranch with
    | eeprom addr hreg hlen => exact h.of_eq rfl fun _ _ => rfl
    | esc hesc => exact escWrite_statusMirrored h hop
    | mailbox hreg hsize hwin =>
      apply (handleMailboxWrite_mailboxStep _).keeps_statusMirrored
      exact h.of_eq rfl fun _ _ => rfl
    | syncManager hreg hsize hwin hsm =>
      exact syncSMRegisters_statusMirrored (parseSyncManagers_statusMirrored h _ _ _)
    | rejected hreg hsize hwin hsm => exact h

theorem read_statusMirrored {s : VirtualSlave σ} (h : s.StatusMirrored) (reg : UInt16)
    (dst : List UInt8) : (s.read reg dst).2.2.StatusMirrored := by
  cases hout : s.read reg dst with
  | mk ok out =>
    have hbranch := s.read_branch reg dst
    rw [hout] at hbranch
    cases hbranch with
    | eeprom bytes hreg hlen => exact h.of_eq rfl fun _ _ => rfl
    | esc hsize => exact h
    | mailbox hreg hsize hwin =>
      apply (syncSMStatus_mailboxStep _).keeps_statusMirrored
      exact h.of_eq rfl fun _ _ => rfl
    | rejected hsize hwin => exact h

/-- Every call but a write over a status register keeps the invariant. -/
theorem step_statusMirrored [SlaveDevice σ] {s : VirtualSlave σ} (h : s.StatusMirrored)
    {op : SlaveOp} (hop : op.SparesStatus) : (s.step op).StatusMirrored := by
  have hlatched := h.latched
  cases op with
  | read reg dst => exact read_statusMirrored h reg dst
  | write reg src => exact write_statusMirrored h hop
  | setOnline on => exact syncCoreRegisters_statusMirrored hlatched
  | setALState st => exact syncCoreRegisters_statusMirrored hlatched
  | setInputPDOMapped v => exact h.of_eq rfl fun _ _ => rfl
  | start => exact h.of_eq rfl fun _ _ => rfl
  | routine =>
    simp only [step, routine]
    split
    · exact h
    · exact syncCoreRegisters_statusMirrored hlatched

/-! ## A pure acknowledgement -/

/-- The write at AL_CONTROL has the ACK bit set. -/
def HasAck (s : VirtualSlave σ) (src : List UInt8) : Prop :=
  (s.controlWritten src).regs.word Reg.AL_CONTROL &&& 0x0010 ≠ 0

instance (s : VirtualSlave σ) (src : List UInt8) : Decidable (s.HasAck src) :=
  inferInstanceAs (Decidable (_ ≠ _))

/-- An ACK without a higher target drops the error and does nothing else. -/
theorem handleAlControlWrite_of_ack (s : VirtualSlave σ) {ctrl : UInt16}
    (hack : ctrl &&& 0x0010 ≠ 0) (hle : stateRank (decodeControlState ctrl) ≤ stateRank s.alState) :
    s.handleAlControlWrite ctrl = s.clearError.syncCoreRegisters := by
  rcases s.handleAlControlWrite_branch ctrl with ⟨-, -, hb⟩ | ⟨-, hlt, -⟩ | ⟨hno, -⟩
  · exact hb
  · omega
  · exact absurd hack hno

/-- What an acknowledgement leaves behind. -/
structure Acknowledged (s s' : VirtualSlave σ) : Prop where
  alState : s'.alState = s.alState
  ackRequested : s'.ackRequested = false
  alStatusCode : s'.alStatusCode = 0
  codeRegister : s'.regs.word Reg.AL_STATUS_CODE = 0
  errorBit : s'.ErrorBit ↔ s.alState = .ACK

theorem write_acknowledged [SlaveDevice σ] (s : VirtualSlave σ) {src : List UInt8} {r : State}
    (htarget : s.alTarget src = some r) (hack : s.HasAck src)
    (hle : stateRank r ≤ stateRank s.alState) : s.Acknowledged (s.write 0x0120 src).2 := by
  obtain ⟨rfl, hword⟩ := write_alControl_word htarget
  have hwrite : (s.write 0x0120 src).2 = (s.controlWritten src).clearError.syncCoreRegisters := by
    rw [hword]
    exact handleAlControlWrite_of_ack (s.controlWritten src) hack hle
  have hmirrored := syncCoreRegisters_statusMirrored (clearError_latched (s.controlWritten src))
  rw [hwrite]
  constructor
  case alState => rfl
  case ackRequested => rfl
  case alStatusCode => rfl
  case codeRegister => exact hmirrored.alStatusCode
  case errorBit =>
    rw [hmirrored.errorBit_iff]
    exact ⟨fun h => h.resolve_left Bool.false_ne_true, fun h => .inr h⟩

/-! ## Whole runs -/

theorem new_statusMirrored (address : UInt16) (vendorId productCode : UInt32) (device : σ) :
    (new address vendorId productCode device).StatusMirrored := by
  apply syncSMRegisters_statusMirrored
  apply syncCoreRegisters_statusMirrored
  exact ⟨fun h => absurd h Bool.false_ne_true, fun h => absurd rfl h⟩

/-- For every slave that a run from construction reaches in which no write but one
at AL_CONTROL covers a status register: the registers show the members and the
latch agrees with the code; the error bit is set exactly when the latch is, or
the AL state is the enumerator `ACK`; and a write at AL_CONTROL with the ACK bit
and no target above the current state leaves the AL state alone and clears the
code, the latch and, unless the AL state is `ACK`, the error bit. -/
theorem statusMirrored [SlaveDevice σ] (address : UInt16) (vendorId productCode : UInt32)
    (device : σ) (ops : List SlaveOp) (hops : ∀ op ∈ ops, op.SparesStatus) :
    let s := run step (new address vendorId productCode device) ops
    s.StatusMirrored ∧ (s.ErrorBit ↔ s.ackRequested = true ∨ s.alState = .ACK) ∧
      ∀ (src : List UInt8) (r : State), s.alTarget src = some r → s.HasAck src →
        stateRank r ≤ stateRank s.alState → s.Acknowledged (s.write 0x0120 src).2 := by
  intro s
  have hstep : ∀ (s : VirtualSlave σ) (op : SlaveOp), s.StatusMirrored → op.SparesStatus →
      (s.step op).StatusMirrored := fun _ _ h hop => step_statusMirrored h hop
  have hs : s.StatusMirrored := run_invariant hstep (new_statusMirrored _ _ _ _) hops
  exact ⟨hs, hs.errorBit_iff, fun src r htarget hack hle => write_acknowledged s htarget hack hle⟩

/-- A request for SAFE_OP without a mapped PDO fails, and its error is
acknowledged. -/
theorem statusMirrored_failed_and_acknowledged :
    let s := run step (new 1 2 3 ()) [.write 0x0120 [0x04, 0x00]]
    s.StatusMirrored ∧ s.Acknowledged (s.write 0x0120 [0x11, 0x00]).2 := by
  intro s
  have hops : ∀ op ∈ [SlaveOp.write 0x0120 [0x04, 0x00]], op.SparesStatus := by
    intro op hop
    obtain rfl := List.mem_singleton.mp hop
    exact .inl rfl
  have hmirrored := statusMirrored 1 2 3 () _ hops
  exact ⟨hmirrored.1, hmirrored.2.2 [0x11, 0x00] .INIT (by decide) (by decide) (by decide)⟩

/-- A slave that is put into the "state" `ACK` shows the error bit without an
error, and an acknowledgement does not clear it. -/
theorem statusMirrored_setALState_ack_false :
    let s := run step (new 1 2 3 ()) [.setALState .ACK]
    s.ErrorBit ∧ s.ackRequested = false ∧ s.alStatusCode = 0 ∧
      s.alTarget [0x10] = some .INVALID ∧ s.HasAck [0x10] ∧
      stateRank .INVALID ≤ stateRank s.alState ∧ (s.write 0x0120 [0x10]).2.ErrorBit := by
  decide

end EthercatSim.VirtualSlave

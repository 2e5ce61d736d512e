import EthercatSim.Master.Controller

/-!
# The answers of the bus

The flag of `requestOperational` and the line and the flag of `initPreop` are true only as long
as the bus answers in a certain way.  The way is written down here on the answers alone: which
calls throw, what `detectSlaves` counts, the list `slaves()` behind a call and the registers
that are read.

* `BusPoint`: how many calls were made and what `slaves()` is behind them.  `asked`, `reread`,
  `searched` and `settled` follow the answers from one point to another.
* `BusPoint.ends`, `found`, `entered`: what the answers make of a command.
* `TakenForGranted`: what a command takes for granted of the answers.
* `Steady`: the slaves stay OPERATIONAL, and then so they are behind every command
  (`Steady.ends`).
-/

namespace EthercatSim

open Kickcat

/-! ## The answers of the bus -/

/-- A call of a member function of the bus object. -/
def BusCall.onBus : BusCall → Bool
  | .openSocket | .makeLink | .makeBus | .sendGetRegister _ _ => false
  | _ => true

/-- The calls that were made and the list `slaves()` behind them. -/
structure BusPoint where
  calls : Nat
  slaves : List KickcatSlave
  deriving DecidableEq, Repr

namespace BusPoint

/-- There are slaves, and the AL status of each one is `state`. -/
def allIn (state : State) (p : BusPoint) : Bool :=
  !p.slaves.isEmpty && p.slaves.all fun s =>
    MasterController.normalizeState s.alStatus == state.toByte

variable (answers : Nat → BusCall → BusAnswer)

/-- What the `n`-th call returns, when it does not throw. -/
def returned (n : Nat) (call : BusCall) : Option BusAnswer :=
  if (answers n call).thrown.isNone then some (answers n call) else none

/-- The calls are made in turn, up to the first that throws: whether they all return, and the
point behind the last one. -/
def asked : List BusCall → BusPoint → Bool × BusPoint
  | [], p => (true, p)
  | call :: calls, p =>
    let next : BusPoint := ⟨p.calls + 1, (answers p.calls call).slaves⟩
    match returned answers p.calls call with
    | some _ => asked calls next
    | none => (false, next)

/-- What the reads of the two registers, from the `n`-th call on, make of a slave, and how many
calls were made then. -/
def readBack (n : Nat) (slave : KickcatSlave) : KickcatSlave × Nat :=
  match returned answers n (.sendGetRegister slave.address 0x0130),
    returned answers (n + 1) (.sendGetRegister slave.address 0x0134) with
  | none, _ => (slave, n + 1)
  | some _, none => (slave, n + 2)
  | some status, some code =>
    ({ slave with alStatus := status.register.toUInt8, alStatusCode := code.register }, n + 2)

/-- The registers of all slaves are read. -/
def readAll : Nat → List KickcatSlave → List KickcatSlave × Nat
  | n, [] => ([], n)
  | n, slave :: slaves =>
    let first := readBack answers n slave
    let rest := readAll first.2 slaves
    (first.1 :: rest.1, rest.2)

def reread (p : BusPoint) : BusPoint :=
  ⟨(readAll answers p.calls p.slaves).2, (readAll answers p.calls p.slaves).1⟩

/-- The rounds of a search: whether one of them counts a slave (`none` when a call throws), and
the point behind the last call. -/
def searched : Nat → BusPoint → Option Bool × BusPoint
  | 0, p => (some false, p)
  | rounds + 1, p =>
    if 0 < (answers p.calls .detectSlaves).detected then
      match asked answers [.detectSlaves, .processAwaitingFrames] p with
      | (true, q) => (some true, q)
      | (false, q) => (none, q)
    else
      match asked answers [.detectSlaves, .sendNop, .finalizeDatagrams, .processAwaitingFrames]
        p with
      | (true, q) => searched rounds q
      | (false, q) => (none, q)

/-- Slaves that are not all in `target` are asked for it, and read again whether or not a call
throws. -/
def settled (target : State) (p : BusPoint) : BusPoint :=
  if p.allIn target then p
  else (asked answers [.requestState target, .finalizeDatagrams, .processAwaitingFrames,
    .waitForState target 8000] p).2.reread answers

/-- `init` and the look at the states behind it: whether all slaves are in PRE_OP. -/
def initialised (p : BusPoint) : Bool × BusPoint :=
  match asked answers [.init] p with
  | (true, q) => ((q.reread answers).allIn .PRE_OP, q.reread answers)
  | (false, q) => (false, q)

/-- The calls of `requestOperational`. -/
def mapped (p : BusPoint) : Bool × BusPoint :=
  asked answers [.createMapping, .requestState .OPERATIONAL, .waitForState .OPERATIONAL 2000] p

/-- Where a command leaves a bus on which there are slaves. -/
def ends : MasterController.MasterCommand → BusPoint → BusPoint
  | .scan, p =>
    match searched answers 10 p with
    | (some true, q) => q.reread answers
    | (_, q) => q
  | .initPreop, p =>
    match initialised answers p with
    | (true, q) => q.reread answers
    | (false, q) => (settled answers .PRE_OP (settled answers .INIT q)).reread answers
  | .requestOperational, p =>
    match mapped answers p with
    | (true, q) => q.reread answers
    | (false, q) => q

/-- From the `n`-th call on there are slaves behind every call of the bus object, they are all
OPERATIONAL, and so say the status registers that are read. -/
structure Steady (n : Nat) : Prop where
  slaves : ∀ k call, n ≤ k → call.onBus = true →
    allIn .OPERATIONAL ⟨k, (answers k call).slaves⟩ = true
  status : ∀ k address, n ≤ k →
    MasterController.normalizeState
      (answers k (.sendGetRegister address 0x0130)).register.toUInt8 = State.OPERATIONAL.toByte

/-! ## The answers of a steady bus -/

/-- `n` calls were made, and the slaves are OPERATIONAL. -/
structure Holds (n : Nat) (p : BusPoint) : Prop where
  calls : n ≤ p.calls
  slaves : p.allIn .OPERATIONAL = true

section Steady

variable {answers} {n : Nat} {p : BusPoint}

theorem Steady.asked (h : Steady answers n) {calls : List BusCall}
    (hcalls : ∀ call ∈ calls, call.onBus = true) (hp : Holds n p) :
    Holds n (asked answers calls p).2 := by
  induction calls generalizing p with
  | nil => exact hp
  | cons call calls ih =>
    obtain ⟨hcall, hcalls⟩ := List.forall_mem_cons.mp hcalls
    have hle := hp.calls
    have hnext : Holds n ⟨p.calls + 1, (answers p.calls call).slaves⟩ :=
      ⟨by dsimp only; omega, h.slaves p.calls call hp.calls hcall⟩
    rw [BusPoint.asked]
    cases returned answers p.calls call with
    | some _ => exact ih hcalls hnext
    | none => exact hnext

theorem Steady.readBack (h : Steady answers n) {k : Nat} (hk : n ≤ k) {slave : KickcatSlave}
    (hslave : MasterController.normalizeState slave.alStatus = State.OPERATIONAL.toByte) :
    n ≤ (readBack answers k slave).2 ∧
      MasterController.normalizeState (readBack answers k slave).1.alStatus =
        State.OPERATIONAL.toByte := by
  have hstatus := h.status k slave.address hk
  rw [BusPoint.readBack, returned]
  by_cases hreturns :
      (answers k (.sendGetRegister slave.address 0x0130)).thrown.isNone = true
  · rw [if_pos hreturns]
    cases returned answers (k + 1) (.sendGetRegister slave.address 0x0134) with
    | some code => exact ⟨by dsimp only; omega, hstatus⟩
    | none => exact ⟨by dsimp only; omega, hslave⟩
  · rw [if_neg hreturns]
    exact ⟨by dsimp only; omega, hslave⟩

theorem allIn_iff {state : State} : p.allIn state = true ↔
    p.slaves ≠ [] ∧
      ∀ s ∈ p.slaves, MasterController.normalizeState s.alStatus = state.toByte := by
  simp [allIn]

theorem Steady.readAll (h : Steady answers n) {k : Nat} (hk : n ≤ k)
    {slaves : List KickcatSlave}
    (hslaves : ∀ s ∈ slaves,
      MasterController.normalizeState s.alStatus = State.OPERATIONAL.toByte) :
    n ≤ (readAll answers k slaves).2 ∧ (slaves ≠ [] → (readAll answers k slaves).1 ≠ []) ∧
      ∀ s ∈ (readAll answers k slaves).1,
        MasterController.normalizeState s.alStatus = State.OPERATIONAL.toByte := by
  induction slaves generalizing k with
  | nil => exact ⟨hk, id, hslaves⟩
  | cons slave slaves ih =>
    obtain ⟨hslave, hslaves⟩ := List.forall_mem_cons.mp hslaves
    obtain ⟨hfirst, hread⟩ := h.readBack hk hslave
    obtain ⟨hrest, -, hreads⟩ := ih hfirst hslaves
    exact ⟨hrest, fun _ => List.cons_ne_nil _ _, List.forall_mem_cons.mpr ⟨hread, hreads⟩⟩

theorem Steady.reread (h : Steady answers n) (hp : Holds n p) : Holds n (p.reread answers) := by
  obtain ⟨hsome, hslaves⟩ := allIn_iff.mp hp.slaves
  obtain ⟨hcalls, hsome', hslaves'⟩ := h.readAll hp.calls hslaves
  exact ⟨hcalls, allIn_iff.mpr ⟨hsome' hsome, hslaves'⟩⟩

theorem Steady.searched (h : Steady answers n) (rounds : Nat) (hp : Holds n p) :
    Holds n (searched answers rounds p).2 := by
  induction rounds generalizing p with
  | zero => exact hp
  | succ rounds ih =>
    rw [BusPoint.searched]
    by_cases hpos : 0 < (answers p.calls .detectSlaves).detected
    · rw [if_pos hpos]
      have hq : Holds n (BusPoint.asked answers [.detectSlaves, .processAwaitingFrames] p).2 :=
        h.asked (by decide) hp
      rcases hasked : BusPoint.asked answers [.detectSlaves, .processAwaitingFrames] p with
        ⟨_ | _, q⟩ <;> rw [hasked] at hq <;> exact hq
    · rw [if_neg hpos]
      have hq : Holds n (BusPoint.asked answers [.detectSlaves, .sendNop, .finalizeDatagrams,
          .processAwaitingFrames] p).2 := h.asked (by decide) hp
      rcases hasked : BusPoint.asked answers [.detectSlaves, .sendNop, .finalizeDatagrams,
        .processAwaitingFrames] p with ⟨_ | _, q⟩
      · rw [hasked] at hq
        exact hq
      · rw [hasked] at hq
        exact ih hq

theorem Steady.settled (h : Steady answers n) (target : State) (hp : Holds n p) :
    Holds n (settled answers target p) := by
  rw [BusPoint.settled]
  split
  · exact hp
  · refine h.reread (h.asked ?_ hp)
    simp [BusCall.onBus]

/-- Nothing that a command asks for takes the slaves out of OPERATIONAL. -/
theorem Steady.ends (h : Steady answers n) (command : MasterController.MasterCommand)
    (hp : Holds n p) : Holds n (ends answers command p) := by
  cases command with
  | scan =>
    have hq := h.searched 10 hp
    rw [BusPoint.ends]
    rcases hsearched : BusPoint.searched answers 10 p with ⟨_ | _ | _, q⟩
    · rw [hsearched] at hq
      exact hq
    · rw [hsearched] at hq
      exact hq
    · rw [hsearched] at hq
      exact h.reread hq
  | initPreop =>
    have hinit : Holds n (initialised answers p).2 := by
      have hq : Holds n (BusPoint.asked answers [.init] p).2 := h.asked (by decide) hp
      rw [initialised]
      rcases hasked : BusPoint.asked answers [.init] p with ⟨_ | _, q⟩
      · rw [hasked] at hq
        exact hq
      · rw [hasked] at hq
        exact h.reread hq
    rw [BusPoint.ends]
    rcases hinitialised : initialised answers p with ⟨_ | _, q⟩
    · rw [hinitialised] at hinit
      exact h.reread (h.settled .PRE_OP (h.settled .INIT hinit))
    · rw [hinitialised] at hinit
      exact h.reread hinit
  | requestOperational =>
    have hq : Holds n (mapped answers p).2 := h.asked (by decide) hp
    rw [BusPoint.ends]
    rcases hmapped : mapped answers p with ⟨_ | _, q⟩
    · rw [hmapped] at hq
      exact hq
    · rw [hmapped] at hq
      exact h.reread hq

/-- Behind calls that all return, `slaves()` is what the last one has left. -/
theorem asked_last {calls : List BusCall} {call : BusCall} {q : BusPoint}
    (h : asked answers (calls ++ [call]) p = (true, q)) :
    p.calls ≤ q.calls - 1 ∧ q.slaves = (answers (q.calls - 1) call).slaves := by
  induction calls generalizing p with
  | nil =>
    rw [List.nil_append, asked] at h
    cases hreturned : returned answers p.calls call with
    | none => simp [hreturned] at h
    | some _ =>
      rw [hreturned] at h
      obtain rfl : (⟨p.calls + 1, (answers p.calls call).slaves⟩ : BusPoint) = q :=
        congrArg Prod.snd h
      exact ⟨Nat.le_refl _, rfl⟩
  | cons first calls ih =>
    rw [List.cons_append, asked] at h
    cases hreturned : returned answers p.calls first with
    | none => simp [hreturned] at h
    | some _ =>
      rw [hreturned] at h
      obtain ⟨hle, hslaves⟩ := ih h
      exact ⟨Nat.le_trans (Nat.le_succ p.calls) hle, hslaves⟩

end Steady

end BusPoint

namespace MasterController

open BusPoint

/-- Where the master stands with its bus. -/
def point (c : MasterController) : BusPoint := ⟨c.calls, c.slaves⟩

/-- The bus behind `ensureBus_`, when it does not throw. -/
def opened (c : MasterController) : Option BusPoint :=
  if c.hasBus then some c.point
  else
    match returned c.answers c.calls .openSocket, returned c.answers (c.calls + 1) .makeLink,
      returned c.answers (c.calls + 2) .makeBus with
    | some _, some _, some _ => some ⟨c.calls + 3, []⟩
    | _, _, _ => none

/-- What a search that does not throw finds, and the bus behind it. -/
def found (c : MasterController) : Option (Bool × BusPoint) :=
  match c.opened with
  | none => none
  | some p =>
    if p.slaves.isEmpty then
      match searched c.answers 10 p with
      | (some found, q) => some (found, q)
      | (none, _) => none
    else some (true, p)

/-- The bus at the end of the wait of a `requestOperational` that gets that far. -/
def entered (c : MasterController) : Option BusPoint :=
  match c.found with
  | some (true, p) =>
    match mapped c.answers p with
    | (true, q) => some q
    | (false, _) => none
  | _ => none

/-- What a command takes for granted of the answers of the bus. -/
structure TakenForGranted (c : MasterController) (command : MasterCommand) : Prop where
  /-- When the bus is operational for the wait of a `requestOperational`, then so are the slaves
  in the registers that are read behind it. -/
  confirms : command = .requestOperational →
    ∀ p ∈ c.entered, (p.reread c.answers).allIn .OPERATIONAL = true
  /-- Once the flag is up, the slaves stay OPERATIONAL. -/
  stays : c.model.operational = true → (ends c.answers command c.point).allIn .OPERATIONAL = true
  /-- Once an `initPreop` has set its flag, the search of the next one does not throw. -/
  searches : command = .initPreop → c.model.preop = true → c.found ≠ none

instance (c : MasterController) (command : MasterCommand) :
    Decidable (c.TakenForGranted command) :=
  decidable_of_iff ((_ → ∀ p ∈ c.entered, _) ∧ (_ → _) ∧ (_ → _ → _))
    ⟨fun h => ⟨h.1, h.2.1, h.2.2⟩, fun h => ⟨h.confirms, h.stays, h.searches⟩⟩

/-- The bus is steady from the wait of a `requestOperational` on that gets to its end, and the
search of an `initPreop` with the flag up does not throw. -/
structure SteadyBehind (c : MasterController) (command : MasterCommand) : Prop where
  confirmed : command = .requestOperational → ∀ p ∈ c.entered, Steady c.answers (p.calls - 1)
  searches : command = .initPreop → c.model.preop = true → c.found ≠ none

end MasterController

end EthercatSim

import EthercatSim.Transport.ServerRun

/-!
# `SlavesController`

The model of `apps/slaves/logic/slaves_controller.cpp` and of the snapshot of
`slaves_model.h` that the view shows.  There are three threads beside the client: the owner,
who calls `start` and `stop`, the thread of `run_`, and the thread of the endpoint.  Each
step is one call of the model or one look at a flag, and the steps come in any order.

* `Agrees`: what holds between two steps, in every phase of `run_`.
* `snapshot_agrees`: the view shows a connection exactly when there is one, and when `stop`
  has returned nothing is left of the session, whatever it was at when the flag came.
* `stop_returns`: `stop` returns after a number of steps of its own, of `run_`, and of the
  server that `run_` waits for, unless the code of a session has no meaning.
-/

namespace EthercatSim

open Descriptors SlavesEndpoint StepRun

/-- `SlavesSnapshot` -/
structure SlavesSnapshot where
  endpoint : List UInt8 := []
  count : Int := 1
  listening : Bool := false
  connected : Bool := false
  status : String := ""
  deriving DecidableEq, Repr

namespace SlavesController

/-- Where the thread of `run_` is: at the next call of the model, at the start of the server,
in the loop that waits for `stop_`, at the store to `stop_flag`, or at the join. -/
inductive Phase where
  | setEndpoint
  | setCount
  | setStarting
  | setListening
  | startServer
  | setStatus
  | waiting
  | storeFlag
  | joining
  | clearListening
  | setStopped
  | returned
  deriving DecidableEq, Repr

/-- A step of the owner, of `run_`, or of the server and its client. -/
inductive Event where
  | start
  | stop
  | join
  | thread
  | server (event : RunEvent)

end SlavesController

/-- The controller, with `th_` and its thread, the endpoint of the last call of `run_`, and
whether the owner waits in `stop`. -/
structure SlavesController where
  endpoint : List UInt8
  count : Int
  snapshot : SlavesSnapshot := {}
  stop : Bool := false
  thread : Option SlavesController.Phase := none
  server : Option RunState := none
  joining : Bool := false

/-- The cast of `count_` to `std::size_t`. -/
def castSize (n : Int) : Nat := (n % 18446744073709551616).toNat

namespace SlavesController

/-! ## The code -/

/-- `setConnected` for each call of the callback. -/
def report (snapshot : SlavesSnapshot) (actions : List RunAction) : SlavesSnapshot :=
  (callbacks actions).foldl (fun snapshot connected => { snapshot with connected }) snapshot

section Step

variable (frames : Nat → KickcatFrame) (rounds : Nat) (blank : El1258Slave)

/-- The next step of `run_`. -/
def threadStep (c : SlavesController) : SlavesController :=
  match c.thread with
  | some .setEndpoint =>
    { c with snapshot := { c.snapshot with endpoint := c.endpoint }, thread := some .setCount }
  | some .setCount =>
    { c with snapshot := { c.snapshot with count := c.count }, thread := some .setStarting }
  | some .setStarting =>
    { c with snapshot := { c.snapshot with status := "starting" }, thread := some .setListening }
  | some .setListening =>
    { c with snapshot := { c.snapshot with listening := true }, thread := some .startServer }
  | some .startServer =>
    { c with
      server := some (.enter c.endpoint (castSize c.count) blank false)
      thread := some .setStatus }
  | some .setStatus =>
    { c with snapshot := { c.snapshot with status := "listening" }, thread := some .waiting }
  | some .waiting => if c.stop then { c with thread := some .storeFlag } else c
  | some .storeFlag =>
    { c with
      server := c.server.map fun s => s.connected frames rounds .stop
      thread := some .joining }
  | some .joining =>
    match c.server.map RunState.phase with
    | some (.returned _) => { c with thread := some .clearListening }
    | _ => c
  | some .clearListening =>
    { c with snapshot := { c.snapshot with listening := false }, thread := some .setStopped }
  | some .setStopped =>
    { c with snapshot := { c.snapshot with status := "stopped" }, thread := some .returned }
  | some .returned | none => c

/-- A step of the server or its client.  Only `run_` sets the flag of the endpoint. -/
def serverStep (c : SlavesController) (event : RunEvent) : SlavesController :=
  match c.server with
  | none => c
  | some s =>
    if event.setsFlag then c
    else
      let s' := runStep frames rounds s event
      { c with
        server := some s'
        snapshot := report c.snapshot (s'.log.drop s.log.length) }

/-- One step.  The owner goes on with the call that it is in. -/
def step (c : SlavesController) : Event → SlavesController
  | .start =>
    if c.joining || c.thread.isSome then c
    else { c with stop := false, thread := some .setEndpoint }
  | .stop => if c.joining then c else { c with stop := true, joining := c.thread.isSome }
  | .join =>
    if c.joining && decide (c.thread = some .returned) then
      { c with thread := none, joining := false }
    else c
  | .thread => c.threadStep frames rounds blank
  | .server event => c.serverStep frames rounds event

end Step

/-- The kernel gives the server no descriptor that is open. -/
def FreshKernel (c : SlavesController) : Event → Prop
  | .server event => ∀ s ∈ c.server, Fresh s event
  | _ => True

/-! ## What holds between two steps -/

/-- `endpoint` is set, in this call of `run_` or in one before. -/
def endpointSet (again : Bool) : Option Phase → Bool
  | none | some .setEndpoint => again
  | _ => true

def countSet (again : Bool) : Option Phase → Bool
  | none | some .setEndpoint | some .setCount => again
  | _ => true

/-- The text of `status`.  Up to `setStarting` it is that of the call before. -/
def statusOf (again : Bool) : Option Phase → String
  | none | some .setEndpoint | some .setCount | some .setStarting => if again then "stopped" else ""
  | some .setListening | some .startServer | some .setStatus => "starting"
  | some .waiting | some .storeFlag | some .joining | some .clearListening | some .setStopped =>
    "listening"
  | some .returned => "stopped"

def listeningOf : Option Phase → Bool
  | some .startServer | some .setStatus | some .waiting | some .storeFlag | some .joining
  | some .clearListening => true
  | _ => false

/-- The view of a controller whose threads are in these phases. -/
def viewOf (endpoint : List UInt8) (count : Int) (thread : Option Phase)
    (server : Option RunPhase) : SlavesSnapshot where
  endpoint := if endpointSet server.isSome thread then endpoint else []
  count := if countSet server.isSome thread then count else 1
  listening := listeningOf thread
  connected := (server.elim [] RunPhase.callbacks).getLastD false
  status := statusOf server.isSome thread

/-- The thread of the server may run. -/
def Serves : Option Phase → Prop
  | some .setStatus | some .waiting | some .storeFlag | some .joining => True
  | _ => False

/-- This call of `run_` has made its endpoint. -/
def Started : Option Phase → Prop
  | some .setStatus | some .waiting | some .storeFlag | some .joining | some .clearListening
  | some .setStopped | some .returned => True
  | _ => False

/-- What holds between two steps. -/
structure Agrees (c : SlavesController) : Prop where
  view : c.snapshot = viewOf c.endpoint c.count c.thread (c.server.map RunState.phase)
  safe : ∀ s ∈ c.server, s.Safe
  quiet : ¬Serves c.thread → ∀ s ∈ c.server, ∃ exit, s.phase = .returned exit
  started : Started c.thread → c.server.isSome

/-- A connection is reported, and its end is not. -/
theorem getLastD_callbacks_iff (phase : RunPhase) :
    phase.callbacks.getLastD false = true ↔ phase.callbacks = [true] := by
  cases phase with
  | returned exit => cases exit <;> simp [RunPhase.callbacks, RunExit.callbacks]
  | _ => simp [RunPhase.callbacks]

theorem agrees_init (endpoint : List UInt8) (count : Int) :
    Agrees { endpoint, count } :=
  ⟨rfl, (fun _ h => nomatch h), (fun _ _ h => nomatch h), False.elim⟩

/-! ## The steps of `run_` -/

namespace Agrees

variable {c : SlavesController}

/-- A step of `run_` that changes the snapshot. -/
theorem setSnapshot (h : c.Agrees) {thread : Option Phase} {snapshot : SlavesSnapshot}
    (hview : snapshot = viewOf c.endpoint c.count thread (c.server.map RunState.phase))
    (hserves : Serves c.thread → Serves thread) (hstarted : Started thread → Started c.thread) :
    Agrees { c with snapshot, thread } where
  view := hview
  safe := h.safe
  quiet := fun hquiet => h.quiet fun hc => hquiet (hserves hc)
  started := fun hs => h.started (hstarted hs)

/-- A server that has returned has reported that nobody is connected. -/
theorem connected_of_quiet (h : c.Agrees) (hquiet : ¬Serves c.thread) :
    ((c.server.map RunState.phase).elim [] RunPhase.callbacks).getLastD false = false := by
  cases hserver : c.server with
  | none => rfl
  | some s =>
    obtain ⟨exit, hreturned⟩ := h.quiet hquiet s hserver
    rw [Option.map_some, hreturned]
    cases exit <;> rfl

section Step

variable (frames : Nat → KickcatFrame) (rounds : Nat) (blank : El1258Slave)

theorem threadStep (h : c.Agrees) : (c.threadStep frames rounds blank).Agrees := by
  have hview := h.view
  rw [SlavesController.threadStep]
  split
  case h_5 hthread =>
    exact {
      view := by
        have hconnected := h.connected_of_quiet (by rw [hthread]; exact id)
        rw [hview, hthread, viewOf, hconnected]
        rfl
      safe := fun s hs => Option.some.inj hs ▸ RunState.safe_enter _ _ _ _
      quiet := fun hquiet => absurd trivial hquiet
      started := fun _ => rfl }
  case h_7 hthread =>
    split
    · refine h.setSnapshot ?_ (by rw [hthread]; exact id) (by rw [hthread]; exact id)
      rw [hview, hthread]
      rfl
    · exact h
  case h_8 hthread =>
    exact {
      view := by
        rw [hview, hthread]
        cases c.server <;> rfl
      safe := by
        intro s hs
        obtain ⟨s₀, hs₀, rfl⟩ := Option.map_eq_some_iff.mp hs
        exact (h.safe s₀ hs₀).connected frames rounds .stop
      quiet := fun hquiet => absurd trivial hquiet
      started := fun _ => by
        rw [Option.isSome_map]
        exact h.started (by rw [hthread]; trivial) }
  case h_9 hthread =>
    split
    · rename_i exit hserver
      exact {
        view := by
          rw [hview, hthread]
          rfl
        safe := h.safe
        quiet := by
          intro _ s hs
          rw [Option.mem_def.mp hs] at hserver
          exact ⟨exit, Option.some.inj hserver⟩
        started := fun _ => h.started (by rw [hthread]; trivial) }
    · exact h
  case h_12 => exact h
  case h_13 => exact h
  all_goals
    rename_i hthread
    refine h.setSnapshot ?_ (by rw [hthread]; exact id) (by rw [hthread]; exact id)
    rw [hview, hthread]
    cases c.server <;> rfl

theorem report_eq (snapshot : SlavesSnapshot) (actions : List RunAction) :
    report snapshot actions =
      { snapshot with connected := (callbacks actions).getLastD snapshot.connected } := by
  rw [report]
  induction callbacks actions using List.reverseRecOn with
  | nil => rfl
  | append_singleton more connected ih =>
    rw [List.foldl_append, ih]
    simp

theorem serverStep (h : c.Agrees) {event : RunEvent}
    (hfresh : c.FreshKernel (.server event)) : (c.serverStep frames rounds event).Agrees := by
  rw [SlavesController.serverStep]
  split
  · exact h
  · rename_i s hserver
    split
    · exact h
    · have hsafe := h.safe s hserver
      have hsafe' := hsafe.step frames rounds (hfresh s hserver)
      obtain ⟨more, hlog⟩ := s.exists_log frames rounds event
      have hmore : (runStep frames rounds s event).phase.callbacks =
          s.phase.callbacks ++ callbacks more := by
        rw [← hsafe'.called, hlog, callbacks_append, hsafe.called]
      exact {
        view := by
          show report c.snapshot ((runStep frames rounds s event).log.drop s.log.length) =
            viewOf c.endpoint c.count c.thread (some (runStep frames rounds s event).phase)
          rw [hlog, List.drop_left, report_eq, h.view, hserver, viewOf, viewOf]
          simp [hmore]
        safe := fun _ hs => Option.some.inj hs ▸ hsafe'
        quiet := by
          intro hquiet _ hs
          obtain ⟨exit, hreturned⟩ := h.quiet hquiet s hserver
          rw [← Option.some.inj hs]
          exact ⟨exit, s.runStep_returned frames rounds event hreturned⟩
        started := fun _ => rfl }

theorem step (h : c.Agrees) {event : Event} (hfresh : c.FreshKernel event) :
    (c.step frames rounds blank event).Agrees := by
  cases event with
  | start =>
    rw [SlavesController.step]
    split
    · exact h
    · rename_i hidle
      have hthread : c.thread = none := by
        rw [Bool.not_eq_true, Bool.or_eq_false_iff] at hidle
        exact Option.isSome_eq_false_iff.mp hidle.2 |> Option.isNone_iff_eq_none.mp
      have hview := h.view
      rw [hthread] at hview
      exact ⟨hview, h.safe, (fun _ => h.quiet (by rw [hthread]; exact id)), False.elim⟩
  | stop =>
    rw [SlavesController.step]
    split
    · exact h
    · exact ⟨h.view, h.safe, h.quiet, h.started⟩
  | join =>
    rw [SlavesController.step]
    split
    · rename_i hreturned
      have hthread : c.thread = some .returned := by
        rw [Bool.and_eq_true, decide_eq_true_iff] at hreturned
        exact hreturned.2
      have hview := h.view
      have hstarted := h.started (by rw [hthread]; trivial)
      rw [hthread] at hview
      obtain ⟨s, hserver⟩ := Option.isSome_iff_exists.mp hstarted
      refine ⟨hview.trans ?_, h.safe, (fun _ => h.quiet (by rw [hthread]; exact id)), False.elim⟩
      rw [hserver]
      rfl
    · exact h
  | thread => exact h.threadStep frames rounds blank
  | server event => exact h.serverStep frames rounds hfresh

end Step

/-- A server that has returned, behind `stop`. -/
theorem view_of_stopped (h : c.Agrees) (hthread : c.thread = none) (hserver : c.server ≠ none) :
    c.snapshot =
      { endpoint := c.endpoint, count := c.count, listening := false, connected := false,
        status := "stopped" } := by
  have hconnected := h.connected_of_quiet (by rw [hthread]; exact id)
  rw [h.view, hthread, viewOf, hconnected]
  cases hs : c.server with
  | none => exact absurd hs hserver
  | some s => rfl

end Agrees

/-- The endpoint and the count are those of the constructor. -/
theorem step_settings (frames : Nat → KickcatFrame) (rounds : Nat) (blank : El1258Slave)
    (c : SlavesController) (event : Event) :
    ((c.step frames rounds blank event).endpoint, (c.step frames rounds blank event).count) =
      (c.endpoint, c.count) := by
  cases event with
  | thread =>
    rw [step, threadStep]
    split
    case h_7 => split <;> rfl
    case h_9 => split <;> rfl
    all_goals rfl
  | server event =>
    rw [step, serverStep]
    split
    · rfl
    · split <;> rfl
  | _ =>
    rw [step]
    split <;> rfl

/-- In every order of the steps of all threads, whatever the kernel answers and the client
does: the view shows a connection exactly while the server has reported one.  While `run_` waits,
it shows that it listens.  When no thread is left behind `stop`, it shows that all is over,
and so it is: the server has returned. -/
theorem snapshot_agrees (frames : Nat → KickcatFrame) (rounds : Nat) (blank : El1258Slave)
    (endpoint : List UInt8) (count : Int) {events : List Event}
    (hfresh : StepsOk (step frames rounds blank) FreshKernel { endpoint, count } events) :
    let c := run (step frames rounds blank) { endpoint, count } events
    (c.snapshot.connected = true ↔ ∃ s ∈ c.server, callbacks s.log = [true]) ∧
    (c.thread = some .waiting → c.snapshot =
      { endpoint, count, listening := true, connected := c.snapshot.connected,
        status := "listening" }) ∧
    (c.thread = none → c.server ≠ none → c.snapshot =
        { endpoint, count, listening := false, connected := false, status := "stopped" } ∧
      ∀ s ∈ c.server, ∃ exit, s.phase = .returned exit ∧
        replay [] (uses s.log) = some (exit.leaked s.listener.listenFd)) := by
  intro c
  have hagrees : c.Agrees := (always_of_step (fun _ _ h hfresh => h.step frames rounds blank hfresh)
    (agrees_init endpoint count) hfresh).last
  obtain ⟨hendpoint, hcount⟩ : c.endpoint = endpoint ∧ c.count = count :=
    Prod.mk.inj (run_unchanged (g := fun c : SlavesController => (c.endpoint, c.count))
      (step_settings frames rounds blank) _ events)
  refine ⟨?_, ?_, ?_⟩
  · rw [hagrees.view]
    cases hserver : c.server with
    | none => simp [viewOf]
    | some s =>
      rw [viewOf, Option.map_some, Option.elim_some, getLastD_callbacks_iff,
        ← (hagrees.safe s hserver).called]
      simp
  · intro hthread
    rw [hagrees.view, hthread, hendpoint, hcount]
    rfl
  · intro hthread hserver
    have hview := hagrees.view_of_stopped hthread hserver
    rw [hendpoint, hcount] at hview
    refine ⟨hview, ?_⟩
    intro s hs
    obtain ⟨exit, hreturned⟩ := hagrees.quiet (by rw [hthread]; exact id) s hs
    have hreplay := (hagrees.safe s hs).replayed
    rw [hreturned] at hreplay
    exact ⟨exit, hreturned, hreplay⟩

/-- What happens to a client that is accepted when the controller is stopped. -/
def acceptedClient : List Event :=
  [.start, .thread, .thread, .thread, .thread, .thread, .thread,
    .server (.bind ⟨fun _ => 0, fun _ => []⟩ inetReady), .server .next,
    .server (.poll ⟨1, true, 5⟩), .server .next, .server .next, .stop, .thread, .thread,
    .server (.connection (.server ⟨0, false, 0⟩)), .server .next, .server .next, .server .next,
    .thread, .thread, .thread, .join]

/-- The session ends before it has read a byte. -/
theorem snapshot_agrees_accepted :
    (run (step (fun _ => .ofBuffer (Cells.fill 0)) 1520 (El1258Slave.new 0 0 0))
      { endpoint := tcpEndpoint, count := 1 } acceptedClient).snapshot =
      { endpoint := tcpEndpoint, count := 1, listening := false, connected := false,
        status := "stopped" } := by
  have hfresh : StepsOk (step (fun _ => .ofBuffer (Cells.fill 0)) 1520 (El1258Slave.new 0 0 0))
      FreshKernel { endpoint := tcpEndpoint, count := 1 } acceptedClient := by
    refine ⟨trivial, trivial, trivial, trivial, trivial, trivial, trivial, (fun _ _ => trivial),
      (fun _ _ => trivial), ?_, (fun _ _ => trivial), (fun _ _ => trivial), trivial, trivial,
      trivial, (fun _ _ => trivial), (fun _ _ => trivial), (fun _ _ => trivial),
      (fun _ _ => trivial), trivial, trivial, trivial, trivial, trivial⟩
    intro s hs
    rw [← Option.some.inj hs]
    show (5 : Int) ≠ 3
    decide
  have hserver : (run (step (fun _ => .ofBuffer (Cells.fill 0)) 1520 (El1258Slave.new 0 0 0))
      { endpoint := tcpEndpoint, count := 1 } acceptedClient).server.isSome = true := rfl
  exact ((snapshot_agrees _ _ _ tcpEndpoint 1 hfresh).2.2 rfl
    (Option.isSome_iff_ne_none.mp hserver)).1

/-! ## `stop` returns -/

/-- What `stop` relies on: the messages of the session are short, there is a server to join,
and it is joined with its flag set. -/
structure Joinable (c : SlavesController) : Prop where
  short : ∀ s ∈ c.server, Connection.Short s.connection.server
  started : Started c.thread → c.server.isSome
  flag : c.thread = some .joining → ∀ s ∈ c.server, s.connection.stop = true

theorem joinable_init (endpoint : List UInt8) (count : Int) : Joinable { endpoint, count } :=
  ⟨(fun _ h => nomatch h), False.elim, (fun h => nomatch h)⟩

/-- How many steps `stop` is from its return. -/
def left (c : SlavesController) : Nat :=
  match c.thread with
  | none => 0
  | some .returned => 1
  | some .setStopped => 2
  | some .clearListening => 3
  | some .joining => 4 + c.server.elim 0 RunState.left
  | some .storeFlag => 3021
  | some .waiting => 3022
  | some .setStatus => 3023
  | some .startServer => 3024
  | some .setListening => 3025
  | some .setStarting => 3026
  | some .setCount => 3027
  | some .setEndpoint => 3028

/-- A step of `stop` and `run_`, or one of the server while `run_` waits for it. -/
def Counts (c : SlavesController) : Event → Bool
  | .join | .thread => true
  | .server event => event.isRun && decide (c.thread = some .joining)
  | .start | .stop => false

/-- The steps that the phases of the threads have next, while the owner is in `stop`. -/
def Awaits (c : SlavesController) : Event → Prop
  | .start | .stop => False
  | .join => c.thread = some .returned
  | .thread =>
    match c.thread with
    | none | some .returned => False
    | some .joining => ∃ s ∈ c.server, ∃ exit, s.phase = .returned exit
    | _ => True
  | .server event => event.isRun = true → ∃ s ∈ c.server, s.Awaits event

section Stop

variable (frames : Nat → KickcatFrame) (rounds : Nat) (blank : El1258Slave)

theorem Joinable.threadStep {c : SlavesController} (h : c.Joinable) :
    (c.threadStep frames rounds blank).Joinable := by
  rw [SlavesController.threadStep]
  split
  case h_5 =>
    refine ⟨?_, fun _ => rfl, fun hjoining => nomatch hjoining⟩
    intro s hs
    rw [← Option.some.inj hs]
    trivial
  case h_7 hthread =>
    split
    · exact ⟨h.short, fun _ => h.started (by rw [hthread]; trivial), fun hc => nomatch hc⟩
    · exact h
  case h_8 hthread =>
    refine ⟨?_, ?_, ?_⟩
    · intro s hs
      obtain ⟨s₀, hs₀, rfl⟩ := Option.map_eq_some_iff.mp hs
      exact h.short s₀ hs₀
    · intro _
      rw [Option.isSome_map]
      exact h.started (by rw [hthread]; trivial)
    · intro _ s hs
      obtain ⟨s₀, -, rfl⟩ := Option.map_eq_some_iff.mp hs
      rfl
  case h_9 hthread =>
    split
    · exact ⟨h.short, fun _ => h.started (by rw [hthread]; trivial), fun hc => nomatch hc⟩
    · exact h
  case h_12 => exact h
  case h_13 => exact h
  all_goals
    rename_i hthread
    exact ⟨h.short, fun hs => h.started (by rw [hthread]; exact hs), fun hc => nomatch hc⟩

theorem Joinable.serverStep {c : SlavesController} (h : c.Joinable) (event : RunEvent) :
    (c.serverStep frames rounds event).Joinable := by
  rw [SlavesController.serverStep]
  split
  · exact h
  · rename_i s hserver
    split
    · exact h
    · refine ⟨?_, fun _ => rfl, ?_⟩
      · intro _ hs
        rw [← Option.some.inj hs]
        exact RunState.short_runStep frames rounds (h.short s hserver) event
      · intro hjoining _ hs
        rw [← Option.some.inj hs]
        exact RunState.runStep_stop frames rounds (h.flag hjoining s hserver) event

theorem Joinable.step {c : SlavesController} (h : c.Joinable) (event : Event) :
    (c.step frames rounds blank event).Joinable := by
  cases event with
  | thread => exact h.threadStep frames rounds blank
  | server event => exact h.serverStep frames rounds event
  | start =>
    rw [SlavesController.step]
    split
    · exact h
    · exact ⟨h.short, False.elim, fun hc => nomatch hc⟩
  | stop =>
    rw [SlavesController.step]
    split
    · exact h
    · exact ⟨h.short, h.started, h.flag⟩
  | join =>
    rw [SlavesController.step]
    split
    · exact ⟨h.short, False.elim, fun hc => nomatch hc⟩
    · exact h

/-- A step of `run_` while the owner waits. -/
theorem left_threadStep {c : SlavesController} (h : c.Joinable) (hstop : c.stop = true)
    (hawaits : c.Awaits .thread) : (c.threadStep frames rounds blank).left + 1 ≤ c.left := by
  rw [Awaits] at hawaits
  rw [threadStep]
  split
  case h_7 hthread =>
    rw [if_pos hstop, left, left, hthread]
  case h_8 hthread =>
    have hstarted := h.started (by rw [hthread]; trivial)
    obtain ⟨s, hserver⟩ := Option.isSome_iff_exists.mp hstarted
    have hle := RunState.left_le (h.short s hserver)
    have hleft : (s.connected frames rounds .stop).left = s.left := rfl
    rw [left, left, hthread, hserver]
    show 4 + (s.connected frames rounds .stop).left + 1 ≤ 3021
    omega
  case h_9 hthread =>
    rw [hthread] at hawaits
    obtain ⟨s, hserver, exit, hreturned⟩ := hawaits
    rw [Option.mem_def.mp hserver, Option.map_some, hreturned, left, left, hthread]
    show 3 + 1 ≤ 4 + _
    omega
  case h_12 hthread =>
    rw [hthread] at hawaits
    exact hawaits.elim
  case h_13 hthread =>
    rw [hthread] at hawaits
    exact hawaits.elim
  all_goals
    rename_i hthread
    rw [left, left, hthread]

/-- Up to the join only the phase of `run_` counts. -/
theorem left_congr {c c' : SlavesController} (h : c'.thread = c.thread)
    (hthread : c.thread ≠ some .joining) : c'.left = c.left := by
  rw [left, left, h]
  split <;> first | rfl | exact absurd (by assumption) hthread

/-- The client may do anything. -/
theorem awaits_server {c : SlavesController} {s : RunState} (hserver : c.server = some s)
    {event : RunEvent} (hawaits : c.Awaits (.server event)) : s.Awaits event := by
  cases hrun : event.isRun with
  | true =>
    obtain ⟨s', hs', hawaits'⟩ := hawaits hrun
    rw [Option.mem_def, hserver] at hs'
    rw [Option.some.inj hs']
    exact hawaits'
  | false =>
    cases event with
    | connection event => exact fun hevent => absurd (hrun.symm.trans hevent) Bool.false_ne_true
    | _ => cases hrun

/-- A step of the server while `run_` waits for it. -/
theorem left_serverStep {c : SlavesController} (h : c.Joinable) {event : RunEvent}
    (hawaits : c.Awaits (.server event)) :
    (c.serverStep frames rounds event).left + (c.Counts (.server event)).toNat ≤ c.left := by
  rw [serverStep]
  split
  · rename_i hserver
    have hrun : event.isRun = false := by
      by_contra hrun
      obtain ⟨s, hs, -⟩ := hawaits (by simpa using hrun)
      rw [hserver] at hs
      cases hs
    rw [Counts, hrun]
    exact Nat.le_refl _
  · rename_i s hserver
    split
    · rename_i hflag
      have hrun : event.isRun = false := by
        rw [RunEvent.setsFlag.eq_def] at hflag
        split at hflag
        · rfl
        · cases hflag
      rw [Counts, hrun]
      exact Nat.le_refl _
    · by_cases hthread : c.thread = some .joining
      · have hless := RunState.left_runStep frames rounds (h.flag hthread s hserver)
          (awaits_server hserver hawaits)
        rw [Counts, left, left, hthread, hserver, decide_eq_true rfl, Bool.and_true]
        show 4 + (runStep frames rounds s event).left + _ ≤ 4 + s.left
        omega
      · rw [Counts, decide_eq_false hthread, Bool.and_false]
        exact Nat.le_of_eq (left_congr rfl hthread)

/-- The two threads do not change what the owner is at. -/
theorem threadStep_owner (c : SlavesController) :
    (c.threadStep frames rounds blank).stop = c.stop ∧
      (c.threadStep frames rounds blank).joining = c.joining := by
  rw [threadStep]
  split
  case h_7 => split <;> exact ⟨rfl, rfl⟩
  case h_9 => split <;> exact ⟨rfl, rfl⟩
  all_goals exact ⟨rfl, rfl⟩

theorem serverStep_owner (c : SlavesController) (event : RunEvent) :
    (c.serverStep frames rounds event).stop = c.stop ∧
      (c.serverStep frames rounds event).joining = c.joining := by
  rw [serverStep]
  split
  · exact ⟨rfl, rfl⟩
  · split <;> exact ⟨rfl, rfl⟩

/-- One step while the owner is in `stop`. -/
theorem left_step {c : SlavesController} (h : c.Joinable) (hstop : c.stop = true)
    (hjoining : c.joining = true) {event : Event} (hawaits : c.Awaits event) :
    (c.step frames rounds blank event).left + (c.Counts event).toNat ≤ c.left ∧
      (c.step frames rounds blank event).stop = true ∧
      ((c.step frames rounds blank event).joining = true ∨
        (c.step frames rounds blank event).thread = none) := by
  cases event with
  | start => exact hawaits.elim
  | stop => exact hawaits.elim
  | join =>
    have hthread : c.thread = some .returned := hawaits
    rw [step, hjoining, decide_eq_true hthread, left.eq_def c, hthread]
    exact ⟨Nat.le_refl 1, hstop, .inr rfl⟩
  | thread =>
    obtain ⟨hstop', hjoining'⟩ := c.threadStep_owner frames rounds blank
    exact ⟨left_threadStep frames rounds blank h hstop hawaits, hstop'.trans hstop,
      .inl (hjoining'.trans hjoining)⟩
  | server event =>
    obtain ⟨hstop', hjoining'⟩ := c.serverStep_owner frames rounds event
    exact ⟨left_serverStep frames rounds h hawaits, hstop'.trans hstop,
      .inl (hjoining'.trans hjoining)⟩

/-- When `stop` has returned no step counts any more. -/
theorem left_step_none {c : SlavesController} (hthread : c.thread = none) {event : Event}
    (hawaits : c.Awaits event) :
    c.Counts event = false ∧ (c.step frames rounds blank event).thread = none := by
  cases event with
  | start => exact hawaits.elim
  | stop => exact hawaits.elim
  | join => exact nomatch hthread.symm.trans hawaits
  | thread =>
    rw [Awaits, hthread] at hawaits
    exact hawaits.elim
  | server event =>
    refine ⟨by simp [Counts, hthread], ?_⟩
    rw [step, serverStep]
    split
    · exact hthread
    · split <;> exact hthread

theorem count_le_left {c : SlavesController} (h : c.Joinable)
    (hjoining : c.stop = true ∧ c.joining = true ∨ c.thread = none) {events : List Event}
    (hawaits : StepsOk (step frames rounds blank) Awaits c events) :
    (trace (step frames rounds blank) Counts c events).count true ≤ c.left := by
  induction events generalizing c with
  | nil => exact Nat.zero_le _
  | cons event events ih =>
    obtain ⟨hfirst, hrest⟩ := hawaits
    have hjoinable := h.step frames rounds blank event
    have hcount : (trace (step frames rounds blank) Counts c (event :: events)).count true =
        (trace (step frames rounds blank) Counts (c.step frames rounds blank event) events).count
          true + (c.Counts event).toNat := by
      rw [trace, List.count_cons]
      cases c.Counts event <;> rfl
    rw [hcount]
    rcases hjoining with ⟨hstop, hjoining⟩ | hthread
    · obtain ⟨hleft, hstop', hjoining'⟩ := left_step frames rounds blank h hstop hjoining hfirst
      have hle := ih hjoinable (hjoining'.imp_left fun hj => ⟨hstop', hj⟩) hrest
      omega
    · obtain ⟨hcounts, hthread'⟩ := left_step_none frames rounds blank hthread hfirst
      have hle := ih hjoinable (.inr hthread') hrest
      have hzero : (c.step frames rounds blank event).left = 0 := by rw [left, hthread']
      rw [hcounts]
      show _ + 0 ≤ _
      omega

omit frames rounds blank in
theorem left_le (c : SlavesController) (h : c.Joinable) : c.left ≤ 3028 := by
  rw [left]
  split
  case h_5 =>
    cases hserver : c.server with
    | none => exact Nat.le_of_ble_eq_true rfl
    | some s =>
      have hle := RunState.left_le (h.short s hserver)
      show 4 + s.left ≤ 3028
      omega
  all_goals omega

omit frames rounds blank in
/-- While `stop` has not returned, a thread has something to do, unless the session has no
meaning. -/
theorem exists_awaited {c : SlavesController} (h : c.Joinable) :
    c.thread = none ∨ (∃ s ∈ c.server, s.connection.server = .undefined) ∨
      ∃ event, c.Counts event = true ∧ c.Awaits event := by
  cases hthread : c.thread with
  | none => exact .inl rfl
  | some phase =>
    cases phase with
    | returned => exact .inr (.inr ⟨.join, rfl, hthread⟩)
    | joining =>
      obtain ⟨s, hserver⟩ := Option.isSome_iff_exists.mp (h.started (by rw [hthread]; trivial))
      rcases s.exists_awaited with ⟨exit, hreturned⟩ | hundefined | ⟨event, hrun, hawaits⟩
      · refine .inr (.inr ⟨.thread, rfl, ?_⟩)
        rw [Awaits, hthread]
        exact ⟨s, hserver, exit, hreturned⟩
      · exact .inr (.inl ⟨s, hserver, hundefined⟩)
      · refine .inr (.inr ⟨.server event, ?_, fun _ => ⟨s, hserver, hawaits⟩⟩)
        rw [Counts, hrun, decide_eq_true hthread]
        rfl
    | _ =>
      refine .inr (.inr ⟨.thread, rfl, ?_⟩)
      rw [Awaits, hthread]
      trivial

/-- While the owner is in `stop`, it and `run_`, and the server from when `run_` waits for it
in its join, make at most 3028 steps, whatever the kernel answers and the client does.  They
stop making them only when `stop` has returned, or when the code of the session has no
meaning. -/
theorem stop_returns (endpoint : List UInt8) (count : Int) (before : List Event) :
    let c := run (step frames rounds blank) { endpoint, count } before
    ∀ events : List Event, c.stop = true → c.joining = true →
      StepsOk (step frames rounds blank) Awaits c events →
      let c' := run (step frames rounds blank) c events
      (trace (step frames rounds blank) Counts c events).count true ≤ 3028 ∧
        (c'.thread = none ∨ (∃ s ∈ c'.server, s.connection.server = .undefined) ∨
          ∃ event, c'.Counts event = true ∧ c'.Awaits event) := by
  intro c events hstop hjoining hawaits c'
  have hstep : ∀ (c : SlavesController) (event : Event), c.Joinable →
      (c.step frames rounds blank event).Joinable :=
    fun c event h => h.step frames rounds blank event
  have hjoinable : c.Joinable :=
    run_preserved hstep (joinable_init endpoint count) before
  have hcount := count_le_left frames rounds blank hjoinable (.inl ⟨hstop, hjoining⟩) hawaits
  exact ⟨Nat.le_trans hcount (c.left_le hjoinable),
    exists_awaited (run_preserved hstep hjoinable events)⟩

end Stop

/-- The owner stops a controller whose server has just been made.  Three steps of `run_` lead
to the join, three of the server to its return, and four to the end. -/
theorem stop_returns_started :
    let step := step (fun _ => .ofBuffer (Cells.fill 0)) 1520 (El1258Slave.new 0 0 0)
    let c := run step { endpoint := tcpEndpoint, count := 1 }
      [.start, .thread, .thread, .thread, .thread, .thread, .stop]
    let events : List Event := [.thread, .thread, .thread,
      .server (.bind ⟨fun _ => 0, fun _ => []⟩ inetReady), .server (.connection (.write [5])),
      .server .next, .server .next, .thread, .thread, .thread, .join]
    (trace step Counts c events).count true ≤ 3028 := by
  intro step c events
  have hawaits : StepsOk step Awaits c events :=
    ⟨trivial, trivial, trivial, (fun _ => ⟨_, rfl, rfl⟩), (fun h => nomatch h),
      (fun _ => ⟨_, rfl, trivial⟩), (fun _ => ⟨_, rfl, trivial⟩), ⟨_, rfl, _, rfl⟩, trivial,
      trivial, rfl, trivial⟩
  exact (stop_returns _ _ _ tcpEndpoint 1 [.start, .thread, .thread, .thread, .thread, .thread,
    .stop] events rfl rfl hawaits).1

end SlavesController

end EthercatSim

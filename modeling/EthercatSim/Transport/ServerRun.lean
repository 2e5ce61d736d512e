import EthercatSim.Transport.Interleaving
import EthercatSim.Transport.StopFlag
import EthercatSim.Transport.SystemCalls

/-!
# `SlavesEndpoint::run`

The thread of the server, from the call of `run` to its return: the bind, the accept loop,
one session and the end.  A step is one call of the kernel with any answer, one look at the
stop flag, or one step of the connection.

The log holds what `run` does with descriptors, the paths that it unlinks and the calls of
`on_connection_`.

* `runStep`: the next step of the thread, or of the others.
* `Safe`: what holds between two steps, with `held`, the descriptors that are open there.
* `run_descriptors`: no descriptor is used or closed that is not open, and the ones that are
  left open at the end are known.  They are the listening socket of a `bindTCP_` that fails,
  and a client that was accepted when the flag was set.
* `run_returns`: with the flag set, `run` returns after a number of steps of its own, unless
  the code of a session has no meaning.
-/

namespace EthercatSim

open Descriptors StepRun UnixSocket

namespace SlavesEndpoint

/-! ## The code -/

/-- The `return` statements of `run`. -/
inductive RunExit where
  | unsupported
  | udsFailed
  | tcpFailed
  /-- The flag is set behind the accept loop, which has left this value in `fd`. -/
  | stopped (fd : Int)
  | notAccepted
  | ended (ok : Bool)
  deriving DecidableEq, Repr

/-- The value that `run` returns. -/
def RunExit.ok : RunExit → Bool
  | .stopped _ => true
  | .ended ok => ok
  | .unsupported | .udsFailed | .tcpFailed | .notAccepted => false

/-- Where `run` is. -/
inductive RunPhase where
  | entered
  | acceptHead
  | polling
  | accepted (fd : Int)
  | connecting (fd : Int)
  | serving (fd : Int)
  | closing (fd : Int) (ok : Bool)
  | disconnecting (ok : Bool)
  | returned (exit : RunExit)
  deriving DecidableEq, Repr

/-- What others see of `run`. -/
inductive RunAction where
  | use (u : Use Int)
  | unlink (path : List UInt8)
  | callback (connected : Bool)
  deriving DecidableEq, Repr

/-- The members of the endpoint, and the connection with the client.  A client may write
before it is accepted. -/
structure RunState where
  endpoint : List UInt8
  slavesCount : Nat
  listener : Listener
  phase : RunPhase
  connection : Connection El1258
  log : List RunAction

/-- What `poll` on the listening socket returns, whether `revents` has `POLLIN`, and what
`accept` returns behind it. -/
structure AcceptAnswer where
  result : Int
  pollin : Bool
  fd : Int
  deriving DecidableEq, Repr

/-- What happens next: the calls of the bind, the poll and the accept, a step of `run` that
asks the kernel nothing that matters here, or a step of the connection. -/
inductive RunEvent where
  | bind (unix : Kernel) (inet : InetKernel)
  | poll (a : AcceptAnswer)
  | next
  | connection (event : ConnectionEvent)

/-- The owner of the flag sets it. -/
def RunEvent.setsFlag : RunEvent → Bool
  | .connection .stop => true
  | _ => false

namespace RunState

/-- An endpoint on which `run` is called. -/
def enter (endpoint : List UInt8) (slavesCount : Nat) (blank : El1258Slave) (stop : Bool) :
    RunState where
  endpoint
  slavesCount
  listener := { listenFd := -1, udsIsAbstract := false, boundDiskPath := [] }
  phase := .entered
  connection := .start (NetworkSimulator.new blank) stop
  log := []

/-- What the system calls of `bindUDS_` show. -/
def bindActions (unix : Kernel) (calls : List SystemCall) : List RunAction :=
  calls.flatMap fun
    | .unlink path => [.unlink path]
    | call => (unixUses unix [call]).map RunAction.use

/-- The part of `run` in front of the accept loop. -/
def bound (s : RunState) (unix : Kernel) (inet : InetKernel) : RunState :=
  match EndpointParser.parseUdsEndpoint s.endpoint [] with
  | (true, path) =>
    let (ok, listener, calls) := bindUDS unix path s.listener
    { s with
      listener
      phase := if ok then .acceptHead else .returned .udsFailed
      log := s.log ++ bindActions unix calls }
  | (false, _) =>
    match EndpointParser.parseTcpEndpoint s.endpoint [] 0 with
    | (true, host, port) =>
      let (ok, listener, calls) := bindTCP inet host port s.listener
      { s with
        listener
        phase := if ok then .acceptHead else .returned .tcpFailed
        log := s.log ++ (inetUses inet calls).map RunAction.use }
    | (false, _, _) => { s with phase := .returned .unsupported }

/-- The poll of the accept loop, and the accept. -/
def polled (s : RunState) (a : AcceptAnswer) : RunState :=
  let s : RunState := { s with log := s.log ++ [RunAction.use (.used s.listener.listenFd)] }
  if a.result < 0 then { s with phase := .accepted (-1) }
  else if a.result = 0 then { s with phase := .acceptHead }
  else if a.pollin then
    { s with
      phase := .accepted a.fd
      log := s.log ++
        RunAction.use (.used s.listener.listenFd) :: (socketUses a.fd).map RunAction.use }
  else { s with phase := .acceptHead }

/-- The name of a socket in the file system is removed. -/
def unlinkBound (l : Listener) : List RunAction :=
  if !l.udsIsAbstract && !l.boundDiskPath.isEmpty then [.unlink (cString l.boundDiskPath)] else []

/-- The two returns between the accept loop and the session. -/
def closeListener (l : Listener) : List RunAction :=
  (if l.listenFd ≠ -1 then [.use (.closed l.listenFd)] else []) ++ unlinkBound l

/-- The steps without a system call that may fail. -/
def next (s : RunState) : RunState :=
  match s.phase with
  | .acceptHead => { s with phase := if s.connection.stop then .accepted (-1) else .polling }
  | .accepted fd =>
    if s.connection.stop then
      { s with log := s.log ++ closeListener s.listener, phase := .returned (.stopped fd) }
    else if fd < 0 then
      { s with log := s.log ++ closeListener s.listener, phase := .returned .notAccepted }
    else { s with phase := .connecting fd }
  | .connecting fd =>
    { s with
      log := s.log ++ [.callback true]
      connection := { s.connection with sim := prepare s.slavesCount s.connection.sim }
      phase := .serving fd }
  | .serving fd =>
    match s.connection.server with
    | .returned ok => { s with phase := .closing fd ok }
    | _ => s
  | .closing fd ok =>
    { s with
      log := s.log ++ (.use (.closed fd) :: .use (.closed s.listener.listenFd) ::
        unlinkBound s.listener)
      phase := .disconnecting ok }
  | .disconnecting ok =>
    { s with log := s.log ++ [.callback false], phase := .returned (.ended ok) }
  | .entered | .polling | .returned _ => s

/-- `poll`, `recv` and `send` of a session that waits for the client. -/
def sessionUses (fd : Int) (c : Connection El1258) : List RunAction :=
  match c.server with
  | .head | .returned _ | .undefined => []
  | _ => [.use (.used fd)]

variable (frames : Nat → KickcatFrame) (rounds : Nat)

/-- A step of the connection.  The server is there when `handleClient_` runs. -/
def connected (s : RunState) (event : ConnectionEvent) : RunState :=
  if event.isServer then
    match s.phase with
    | .serving fd =>
      { s with
        log := s.log ++ sessionUses fd s.connection
        connection := s.connection.step frames rounds event }
    | _ => s
  else { s with connection := s.connection.step frames rounds event }

end RunState

/-- One step of `run`, of the client or of the owner of the stop flag.  A step that `run`
is not at changes nothing. -/
def runStep (frames : Nat → KickcatFrame) (rounds : Nat) (s : RunState) : RunEvent → RunState
  | .bind unix inet => if s.phase = .entered then s.bound unix inet else s
  | .poll a => if s.phase = .polling then s.polled a else s
  | .next => s.next
  | .connection event => s.connected frames rounds event

/-! ## What holds between two steps -/

/-- What `run` has done with descriptors. -/
def uses (log : List RunAction) : List (Use Int) :=
  log.filterMap fun
    | .use u => some u
    | _ => none

/-- The calls of `on_connection_`. -/
def callbacks (log : List RunAction) : List Bool :=
  log.filterMap fun
    | .callback connected => some connected
    | _ => none

/-- The descriptors that are left open at a `return`. -/
def RunExit.leaked (listenFd : Int) : RunExit → List Int
  | .tcpFailed => if listenFd < 0 then [] else [listenFd]
  | .stopped fd => if fd < 0 then [] else [fd]
  | .unsupported | .udsFailed | .notAccepted | .ended _ => []

/-- `on_connection_` is called for a session only. -/
def RunExit.callbacks : RunExit → List Bool
  | .ended _ => [true, false]
  | .unsupported | .udsFailed | .tcpFailed | .stopped _ | .notAccepted => []

namespace RunPhase

/-- The descriptors that are open in a phase. -/
def held (listenFd : Int) : RunPhase → List Int
  | .entered => []
  | .acceptHead | .polling => [listenFd]
  | .accepted fd => if fd < 0 then [listenFd] else [fd, listenFd]
  | .connecting fd | .serving fd | .closing fd _ => [fd, listenFd]
  | .disconnecting _ => []
  | .returned exit => exit.leaked listenFd

/-- The calls of `on_connection_` up to a phase. -/
def callbacks : RunPhase → List Bool
  | .entered | .acceptHead | .polling | .accepted _ | .connecting _ => []
  | .serving _ | .closing _ _ | .disconnecting _ => [true]
  | .returned exit => exit.callbacks

/-- The descriptors of a phase are different ones, and only the flag makes it a success. -/
def Valid (listenFd : Int) (stop : Bool) : RunPhase → Prop
  | .entered => True
  | .acceptHead | .polling => 0 ≤ listenFd
  | .accepted fd => 0 ≤ listenFd ∧ fd ≠ listenFd
  | .connecting fd | .serving fd => 0 ≤ listenFd ∧ 0 ≤ fd ∧ fd ≠ listenFd
  | .closing fd ok => (0 ≤ listenFd ∧ 0 ≤ fd ∧ fd ≠ listenFd) ∧ (ok = true → stop = true)
  | .disconnecting ok => ok = true → stop = true
  | .returned exit => exit.ok = true → stop = true

/-- The accept loop is over, and the listening socket is closed. -/
def Cleaned : RunPhase → Prop
  | .disconnecting _ | .returned (.stopped _) | .returned .notAccepted
  | .returned (.ended _) => True
  | _ => False

end RunPhase

/-- The name of the listening socket is removed when no descriptor is in use any more. -/
def Unlinked (l : Listener) (log : List RunAction) : Prop :=
  ∃ before after, log = before ++ RunState.unlinkBound l ++ after ∧ uses after = []

/-- What holds between two steps of a run. -/
structure RunState.Safe (s : RunState) : Prop where
  replayed : replay [] (uses s.log) = some (s.phase.held s.listener.listenFd)
  called : callbacks s.log = s.phase.callbacks
  valid : s.phase.Valid s.listener.listenFd s.connection.stop
  graceful : s.connection.server = .returned true → s.connection.stop = true
  cleaned : s.phase.Cleaned → Unlinked s.listener s.log

/-- The kernel gives no descriptor that is open. -/
def Fresh (s : RunState) : RunEvent → Prop
  | .poll a => a.fd ≠ s.listener.listenFd
  | _ => True

instance (s : RunState) : (event : RunEvent) → Decidable (Fresh s event)
  | .poll a => inferInstanceAs (Decidable (a.fd ≠ s.listener.listenFd))
  | .bind _ _ | .next | .connection _ => isTrue trivial

theorem uses_append (log more : List RunAction) : uses (log ++ more) = uses log ++ uses more :=
  List.filterMap_append

theorem callbacks_append (log more : List RunAction) :
    callbacks (log ++ more) = callbacks log ++ callbacks more :=
  List.filterMap_append

/-- A list of uses shows nothing else. -/
theorem uses_map_use (us : List (Use Int)) : uses (us.map RunAction.use) = us := by
  rw [uses, List.filterMap_map]
  exact List.filterMap_some

theorem callbacks_map_use (us : List (Use Int)) : callbacks (us.map RunAction.use) = [] := by
  rw [callbacks, List.filterMap_map]
  exact List.filterMap_eq_nil_iff.mpr fun _ _ => rfl

theorem uses_bindActions (unix : Kernel) (calls : List SystemCall) :
    uses (RunState.bindActions unix calls) = unixUses unix calls := by
  rw [RunState.bindActions, uses, List.filterMap_flatMap, unixUses]
  congr 1
  funext call
  cases call with
  | unlink path => rfl
  | _ => exact (uses_map_use _).trans (List.append_nil _)

theorem callbacks_bindActions (unix : Kernel) (calls : List SystemCall) :
    callbacks (RunState.bindActions unix calls) = [] := by
  rw [RunState.bindActions, callbacks, List.filterMap_flatMap]
  refine List.flatMap_eq_nil_iff.mpr ?_
  intro call _
  cases call with
  | unlink path => rfl
  | _ => exact callbacks_map_use _

theorem uses_unlinkBound (l : Listener) : uses (RunState.unlinkBound l) = [] := by
  rw [RunState.unlinkBound]
  split <;> rfl

theorem callbacks_unlinkBound (l : Listener) : callbacks (RunState.unlinkBound l) = [] := by
  rw [RunState.unlinkBound]
  split <;> rfl

/-! ## One step -/

namespace RunState

theorem safe_enter (endpoint : List UInt8) (slavesCount : Nat) (blank : El1258Slave)
    (stop : Bool) : (enter endpoint slavesCount blank stop).Safe :=
  ⟨rfl, rfl, trivial, (fun h => nomatch h), False.elim⟩

namespace Safe

variable {s : RunState}

/-- A step of `run` that adds `more` to the log. -/
theorem advance (h : s.Safe) {phase : RunPhase} {listener : Listener} {more : List RunAction}
    (hreplay : replay (s.phase.held s.listener.listenFd) (uses more) =
      some (phase.held listener.listenFd))
    (hcalled : s.phase.callbacks ++ callbacks more = phase.callbacks)
    (hvalid : phase.Valid listener.listenFd s.connection.stop)
    (hcleaned : phase.Cleaned → Unlinked listener (s.log ++ more)) :
    Safe { s with listener, phase, log := s.log ++ more } where
  replayed := by rw [uses_append, replay_push h.replayed, hreplay]
  called := by rw [callbacks_append, h.called, hcalled]
  valid := hvalid
  graceful := h.graceful
  cleaned := hcleaned

/-- A step that shows nothing. -/
theorem move (h : s.Safe) {phase : RunPhase}
    (hheld : s.phase.held s.listener.listenFd = phase.held s.listener.listenFd)
    (hcalled : s.phase.callbacks = phase.callbacks)
    (hvalid : phase.Valid s.listener.listenFd s.connection.stop) (hcleaned : ¬phase.Cleaned) :
    Safe { s with phase } where
  replayed := h.replayed.trans (congrArg some hheld)
  called := h.called.trans hcalled
  valid := hvalid
  graceful := h.graceful
  cleaned := fun hc => absurd hc hcleaned

theorem bound (h : s.Safe) (hphase : s.phase = .entered) (unix : Kernel) (inet : InetKernel) :
    (s.bound unix inet).Safe := by
  rw [RunState.bound]
  split
  · rename_i path _
    rcases hbind : bindUDS unix path s.listener with ⟨ok, l, calls⟩
    obtain ⟨hreplay, hfd⟩ := replay_bindUDS (List.not_mem_nil) hbind
    refine h.advance ?_ ?_ ?_ ?_
    · rw [uses_bindActions, hphase]
      cases ok <;> exact hreplay
    · rw [callbacks_bindActions, hphase]
      cases ok <;> rfl
    · cases ok with
      | false => exact fun hc => nomatch hc
      | true => exact hfd rfl
    · cases ok <;> exact False.elim
  · split
    · rename_i host port _
      rcases hbind : bindTCP inet host port s.listener with ⟨ok, l, calls⟩
      obtain ⟨hreplay, hfd⟩ := replay_bindTCP (List.not_mem_nil) hbind
      refine h.advance ?_ ?_ ?_ ?_
      · rw [uses_map_use, hphase]
        refine hreplay.trans ?_
        cases ok with
        | false => rfl
        | true => rw [if_neg (by simpa using hfd rfl)]; rfl
      · rw [callbacks_map_use, hphase]
        cases ok <;> rfl
      · cases ok with
        | false => exact fun hc => nomatch hc
        | true => exact hfd rfl
      · cases ok <;> exact False.elim
    · exact h.move (by rw [hphase]; rfl) (by rw [hphase]; rfl) (fun hc => nomatch hc) id

theorem polled (h : s.Safe) (hphase : s.phase = .polling) {a : AcceptAnswer}
    (hfresh : Fresh s (.poll a)) : (s.polled a).Safe := by
  have hfd : 0 ≤ s.listener.listenFd := by
    have hvalid := h.valid
    rwa [hphase] at hvalid
  have hused : replay (s.phase.held s.listener.listenFd) [.used s.listener.listenFd] =
      some [s.listener.listenFd] := by
    rw [hphase]
    exact replay_used List.mem_cons_self []
  have hcalled : s.phase.callbacks ++ callbacks [RunAction.use (.used s.listener.listenFd)] =
      [] := by
    rw [hphase]
    rfl
  have hnone : (-1 : Int) ≠ s.listener.listenFd := by omega
  rw [RunState.polled]
  split
  · exact h.advance hused hcalled ⟨hfd, hnone⟩ False.elim
  · split
    · exact h.advance hused hcalled hfd False.elim
    · split
      · simp only [List.append_assoc]
        refine h.advance ?_ ?_ ⟨hfd, hfresh⟩ False.elim
        · show replay _ (.used _ :: .used _ :: uses ((socketUses a.fd).map RunAction.use)) = _
          rw [uses_map_use, hphase]
          show replay [s.listener.listenFd] _ = some (if a.fd < 0 then _ else _)
          rw [replay_used List.mem_cons_self, replay_used List.mem_cons_self, socketUses]
          split
          · rfl
          · exact replay_opened (fun hmem => hfresh (List.mem_singleton.mp hmem)) []
        · show s.phase.callbacks ++ callbacks ((socketUses a.fd).map RunAction.use) = []
          rw [callbacks_map_use, hphase]
          rfl
      · exact h.advance hused hcalled hfd False.elim

/-- The log at the two returns in front of a session. -/
theorem replay_closeListener {l : Listener} (hfd : 0 ≤ l.listenFd) {table : List Int}
    (hmem : l.listenFd ∈ table) :
    replay table (uses (closeListener l)) = some (table.erase l.listenFd) := by
  rw [closeListener, if_pos (by omega), uses_append, uses_unlinkBound, List.append_nil]
  exact replay_closed hmem []

theorem unlinked_closeListener (l : Listener) (log : List RunAction) :
    Unlinked l (log ++ closeListener l) := by
  refine ⟨log ++ if l.listenFd ≠ -1 then [.use (.closed l.listenFd)] else [], [], ?_, rfl⟩
  rw [closeListener, List.append_nil, List.append_assoc]

theorem callbacks_closeListener (l : Listener) : callbacks (closeListener l) = [] := by
  rw [closeListener, callbacks_append, callbacks_unlinkBound]
  split <;> rfl

theorem erase_listener {fd listenFd : Int} (h : fd ≠ listenFd) :
    [fd, listenFd].erase listenFd = [fd] := by
  simp [h]

theorem next (h : s.Safe) : s.next.Safe := by
  have hvalid := h.valid
  rw [RunState.next]
  split
  case h_1 hphase =>
    rw [hphase] at hvalid
    have hfd : 0 ≤ s.listener.listenFd := hvalid
    have hnone : (-1 : Int) ≠ s.listener.listenFd := by omega
    split
    · exact h.move (by rw [hphase]; rfl) (by rw [hphase]; rfl) ⟨hfd, hnone⟩ id
    · exact h.move (by rw [hphase]; rfl) (by rw [hphase]; rfl) hfd id
  case h_2 fd hphase =>
    rw [hphase] at hvalid
    obtain ⟨hfd, hne⟩ := hvalid
    split
    · rename_i hstop
      refine h.advance ?_ (by rw [callbacks_closeListener, hphase]; rfl) (fun _ => hstop)
        (fun _ => unlinked_closeListener s.listener s.log)
      rw [hphase]
      show replay (if fd < 0 then _ else _) _ = some (if fd < 0 then _ else _)
      split
      · exact (replay_closeListener hfd List.mem_cons_self).trans (by rw [List.erase_cons_head])
      · exact (replay_closeListener hfd (by simp)).trans (by rw [erase_listener hne])
    · split
      · rename_i hnone
        refine h.advance ?_ (by rw [callbacks_closeListener, hphase]; rfl) (fun hc => nomatch hc)
          (fun _ => unlinked_closeListener s.listener s.log)
        rw [hphase]
        show replay (if fd < 0 then _ else _) _ = some []
        rw [if_pos hnone]
        exact (replay_closeListener hfd List.mem_cons_self).trans (by rw [List.erase_cons_head])
      · rename_i hsome
        refine h.move ?_ (by rw [hphase]; rfl) ⟨hfd, by omega, hne⟩ id
        rw [hphase]
        exact if_neg hsome
  case h_3 fd hphase =>
    rw [hphase] at hvalid
    exact {
      replayed := by
        rw [uses_append]
        exact (replay_push h.replayed _).trans (by rw [hphase]; rfl)
      called := by
        rw [callbacks_append, h.called, hphase]
        rfl
      valid := hvalid
      graceful := h.graceful
      cleaned := False.elim }
  case h_4 fd hphase =>
    split
    · rename_i ok hreturned
      rw [hphase] at hvalid
      refine h.move (by rw [hphase]; rfl) (by rw [hphase]; rfl) ⟨hvalid, fun hok => ?_⟩ id
      exact h.graceful (by rw [hreturned, hok])
    · exact h
  case h_5 fd ok hphase =>
    rw [hphase] at hvalid
    obtain ⟨⟨hfd, hclient, hne⟩, hok⟩ := hvalid
    refine h.advance ?_ ?_ hok (fun _ => ?_)
    · show replay _ (.closed fd :: .closed s.listener.listenFd :: uses (unlinkBound _)) = some []
      rw [uses_unlinkBound, hphase]
      show replay [fd, s.listener.listenFd] _ = _
      rw [replay_closed List.mem_cons_self, List.erase_cons_head,
        replay_closed List.mem_cons_self, List.erase_cons_head]
      rfl
    · show s.phase.callbacks ++ callbacks (unlinkBound _) = _
      rw [callbacks_unlinkBound, hphase]
      rfl
    · exact ⟨s.log ++ [.use (.closed fd), .use (.closed s.listener.listenFd)], [], by simp, rfl⟩
  case h_6 ok hphase =>
    rw [hphase] at hvalid
    obtain ⟨before, after, hlog, hafter⟩ := h.cleaned (by rw [hphase]; trivial)
    refine h.advance (by rw [hphase]; rfl) (by rw [hphase]; rfl) hvalid (fun _ => ?_)
    refine ⟨before, after ++ [.callback false], by rw [hlog, List.append_assoc], ?_⟩
    rw [uses_append, hafter]
    rfl
  all_goals exact h

/-- The others may set the flag, and do not touch anything else. -/
theorem valid_of_stop {listenFd : Int} {stop stop' : Bool} (hstop : stop = true → stop' = true)
    {phase : RunPhase} (h : phase.Valid listenFd stop) : phase.Valid listenFd stop' := by
  cases phase with
  | closing fd ok => exact ⟨h.1, fun hok => hstop (h.2 hok)⟩
  | disconnecting ok => exact fun hok => hstop (h hok)
  | returned exit => exact fun hok => hstop (h hok)
  | _ => exact h

section Step

variable (frames : Nat → KickcatFrame) (rounds : Nat)

theorem connected (h : s.Safe) (event : ConnectionEvent) :
    (s.connected frames rounds event).Safe := by
  have hstop : s.connection.stop = true → (s.connection.step frames rounds event).stop = true :=
    fun hstop => Connection.step_stop frames rounds hstop event
  have hgraceful : (s.connection.step frames rounds event).server = .returned true →
      (s.connection.step frames rounds event).stop = true :=
    Connection.step_graceful s.connection event h.graceful
  rw [RunState.connected]
  split
  · split
    · rename_i fd hphase
      have hused : replay [fd, s.listener.listenFd] (uses (sessionUses fd s.connection)) =
          some [fd, s.listener.listenFd] := by
        rw [sessionUses]
        split
        all_goals first | rfl | exact replay_used List.mem_cons_self []
      have hcalled : callbacks (sessionUses fd s.connection) = [] := by
        rw [sessionUses]
        split <;> rfl
      refine ⟨?_, ?_, valid_of_stop hstop h.valid, hgraceful, ?_⟩
      · rw [uses_append, replay_push h.replayed, hphase]
        exact hused
      · rw [callbacks_append, h.called, hcalled, List.append_nil]
      · rw [hphase]
        exact False.elim
    · exact h
  · exact ⟨h.replayed, h.called, valid_of_stop hstop h.valid, hgraceful, h.cleaned⟩

theorem step (h : s.Safe) {event : RunEvent} (hfresh : Fresh s event) :
    (runStep frames rounds s event).Safe := by
  cases event with
  | bind unix inet =>
    rw [runStep]
    split
    · rename_i hphase
      exact h.bound hphase unix inet
    · exact h
  | poll a =>
    rw [runStep]
    split
    · rename_i hphase
      exact h.polled hphase hfresh
    · exact h
  | next => exact h.next
  | connection event => exact h.connected frames rounds event

end Step

end Safe

section Log

variable (frames : Nat → KickcatFrame) (rounds : Nat)

/-- The log only grows. -/
theorem exists_log (s : RunState) (event : RunEvent) :
    ∃ more, (runStep frames rounds s event).log = s.log ++ more := by
  have hsame : ∃ more, s.log = s.log ++ more := ⟨[], (List.append_nil _).symm⟩
  cases event with
  | bind unix inet =>
    rw [runStep]
    split
    · rw [bound]
      split
      · exact ⟨_, rfl⟩
      · split
        · exact ⟨_, rfl⟩
        · exact hsame
    · exact hsame
  | poll a =>
    rw [runStep]
    split
    · rw [polled]
      split
      · exact ⟨_, rfl⟩
      · split
        · exact ⟨_, rfl⟩
        · split
          · exact ⟨_, List.append_assoc _ _ _⟩
          · exact ⟨_, rfl⟩
    · exact hsame
  | next =>
    rw [runStep, next]
    split
    case h_2 =>
      split
      · exact ⟨_, rfl⟩
      · split
        · exact ⟨_, rfl⟩
        · exact hsame
    case h_4 => split <;> exact hsame
    all_goals first | exact ⟨_, rfl⟩ | exact hsame
  | connection event =>
    rw [runStep, connected]
    split
    · split
      · exact ⟨_, rfl⟩
      · exact hsame
    · exact hsame

/-- What has returned stays so. -/
theorem runStep_returned (s : RunState) (event : RunEvent) {exit : RunExit}
    (h : s.phase = .returned exit) : (runStep frames rounds s event).phase = .returned exit := by
  cases event with
  | bind unix inet => rwa [runStep, if_neg (by rw [h]; simp)]
  | poll a => rwa [runStep, if_neg (by rw [h]; simp)]
  | next => rw [runStep, next, h]; exact h
  | connection event =>
    rw [runStep, connected]
    split
    · rw [h]
      exact h
    · exact h

end Log

end RunState

/-! ## The end -/

section Run

variable (frames : Nat → KickcatFrame) (rounds : Nat) (endpoint : List UInt8) (slavesCount : Nat)
  (blank : El1258Slave) (stop : Bool)

theorem safe_run {events : List RunEvent}
    (hfresh : StepsOk (runStep frames rounds) Fresh
      (RunState.enter endpoint slavesCount blank stop) events) :
    (run (runStep frames rounds) (RunState.enter endpoint slavesCount blank stop) events).Safe :=
  (always_of_step (fun _ _ h hfresh => h.step frames rounds hfresh)
    (RunState.safe_enter endpoint slavesCount blank stop) hfresh).last

/-- Whatever the kernel answers and whenever the flag is set, `run` does nothing with a
descriptor that is not open.  At its return it leaves those of `leaked` open.  For a session
it has reported both a connect and a disconnect, and else none of them.  It returns true only
when it was asked to stop. -/
theorem run_descriptors {events : List RunEvent}
    (hfresh : StepsOk (runStep frames rounds) Fresh
      (RunState.enter endpoint slavesCount blank stop) events) :
    let s := run (runStep frames rounds) (RunState.enter endpoint slavesCount blank stop) events
    ∃ table, replay [] (uses s.log) = some table ∧
      ∀ exit, s.phase = .returned exit →
        table = exit.leaked s.listener.listenFd ∧ callbacks s.log = exit.callbacks ∧
          (exit.ok = true → s.connection.stop = true) ∧
          (s.phase.Cleaned → Unlinked s.listener s.log) := by
  intro s
  have hsafe : s.Safe := safe_run frames rounds endpoint slavesCount blank stop hfresh
  refine ⟨s.phase.held s.listener.listenFd, hsafe.replayed, ?_⟩
  intro exit hreturned
  refine ⟨by rw [hreturned]; rfl, ?_, ?_, hsafe.cleaned⟩
  · rw [hsafe.called, hreturned]
    rfl
  · have hvalid := hsafe.valid
    rw [hreturned] at hvalid
    exact hvalid

end Run

/-- A kernel where every call on an Internet socket succeeds. -/
def inetReady : InetKernel where
  answer
    | .socket => 3
    | .inetPton _ => 1
    | _ => 0

/-- `tcp://h:1` -/
def tcpEndpoint : List UInt8 := EndpointParser.TCP_PREFIX ++ [0x68, 0x3A, 0x31]

/-- The flag is set when `poll` has seen a client already: its descriptor 5 stays open. -/
theorem run_descriptors_stopped :
    let s := run (runStep (fun _ => .ofBuffer (Cells.fill 0)) 1520)
      (RunState.enter tcpEndpoint 1 (El1258Slave.new 0 0 0) false)
      [.bind ⟨fun _ => 0, fun _ => []⟩ inetReady, .next, .connection .stop,
        .poll ⟨1, true, 5⟩, .next]
    replay [] (uses s.log) = some [5] ∧ callbacks s.log = [] := by
  intro s
  have hfresh : StepsOk (runStep (fun _ => .ofBuffer (Cells.fill 0)) 1520) Fresh
      (RunState.enter tcpEndpoint 1 (El1258Slave.new 0 0 0) false)
      [.bind ⟨fun _ => 0, fun _ => []⟩ inetReady, .next, .connection .stop,
        .poll ⟨1, true, 5⟩, .next] :=
    ⟨trivial, trivial, trivial, (by decide), trivial, trivial⟩
  obtain ⟨table, hreplay, hreturned⟩ :=
    run_descriptors (fun _ => .ofBuffer (Cells.fill 0)) 1520 tcpEndpoint 1
      (El1258Slave.new 0 0 0) false hfresh
  have hphase : s.phase = .returned (.stopped 5) := by rfl
  obtain ⟨rfl, hcalled, -⟩ := hreturned (.stopped 5) hphase
  exact ⟨hreplay, hcalled⟩

/-! ## A flag that is set -/

/-- A step of the thread of `run`. -/
def RunEvent.isRun : RunEvent → Bool
  | .bind _ _ | .poll _ | .next => true
  | .connection event => event.isServer

namespace RunState

/-- How many steps `run` is from its return, with the flag set. -/
def left (s : RunState) : Nat :=
  match s.phase with
  | .entered | .polling => 4
  | .acceptHead => 3
  | .accepted _ => 2
  | .connecting _ => Connection.remaining s.connection.server + 4
  | .serving _ => Connection.remaining s.connection.server + 3
  | .closing _ _ => 2
  | .disconnecting _ => 1
  | .returned _ => 0

/-- The steps of `run` that its phase has next. -/
def Awaits (s : RunState) : RunEvent → Prop
  | .bind _ _ => s.phase = .entered
  | .poll _ => s.phase = .polling
  | .next =>
    match s.phase with
    | .entered | .polling | .returned _ => False
    | .serving _ => ∃ ok, s.connection.server = .returned ok
    | _ => True
  | .connection event =>
    event.isServer = true →
      (∃ fd, s.phase = .serving fd) ∧ s.connection.server.Running ∧ s.connection.Possible event

/-- `run` waits for something, unless it has returned or the session has no meaning. -/
theorem exists_awaited (s : RunState) :
    (∃ exit, s.phase = .returned exit) ∨ s.connection.server = .undefined ∨
      ∃ event : RunEvent, event.isRun = true ∧ s.Awaits event := by
  cases hphase : s.phase with
  | returned exit => exact .inl ⟨exit, rfl⟩
  | entered => exact .inr (.inr ⟨.bind ⟨fun _ => 0, fun _ => []⟩ inetReady, rfl, hphase⟩)
  | polling => exact .inr (.inr ⟨.poll ⟨0, false, 0⟩, rfl, hphase⟩)
  | serving fd =>
    have hfailed : ∀ stop : Bool, nbRound stop ⟨-1, false, 0⟩ = .failed := fun _ => rfl
    cases hserver : s.connection.server with
    | undefined => exact .inr (.inl rfl)
    | returned ok =>
      refine .inr (.inr ⟨.next, rfl, ?_⟩)
      rw [Awaits, hphase]
      exact ⟨ok, hserver⟩
    | _ =>
      refine .inr (.inr ⟨.connection (.server ⟨-1, false, 0⟩), rfl, fun _ => ?_⟩)
      refine ⟨⟨fd, hphase⟩, by rw [hserver]; trivial, ?_⟩
      rw [Connection.Possible, hserver, hfailed]
      trivial
  | _ =>
    refine .inr (.inr ⟨.next, rfl, ?_⟩)
    rw [Awaits, hphase]
    trivial

theorem left_le {s : RunState} (h : Connection.Short s.connection.server) : s.left ≤ 3016 := by
  have hremaining := Connection.remaining_le h
  rw [left]
  split <;> omega

theorem left_bound (s : RunState) (unix : Kernel) (inet : InetKernel) :
    (s.bound unix inet).left ≤ 3 := by
  rw [bound]
  split
  · rename_i path _
    rcases bindUDS unix path s.listener with ⟨ok, l, calls⟩
    cases ok with
    | false => exact Nat.zero_le 3
    | true => exact Nat.le_refl 3
  · split
    · rename_i host port _
      rcases bindTCP inet host port s.listener with ⟨ok, l, calls⟩
      cases ok with
      | false => exact Nat.zero_le 3
      | true => exact Nat.le_refl 3
    · exact Nat.zero_le _

theorem left_polled (s : RunState) (a : AcceptAnswer) : (s.polled a).left ≤ 3 := by
  rw [polled]
  split
  · exact Nat.le_succ 2
  · split
    · exact Nat.le_refl 3
    · split
      · exact Nat.le_succ 2
      · exact Nat.le_refl 3

theorem left_next {s : RunState} (hstop : s.connection.stop = true) (hawaits : s.Awaits .next) :
    s.next.left + 1 ≤ s.left := by
  rw [Awaits] at hawaits
  rw [next]
  split
  case h_1 hphase =>
    rw [hstop, left, left, hphase]
    exact Nat.le_refl 3
  case h_2 fd hphase =>
    rw [if_pos hstop, left, left, hphase]
    exact Nat.le_succ 1
  case h_3 fd hphase => rw [left, left, hphase]
  case h_4 fd hphase =>
    rw [hphase] at hawaits
    obtain ⟨ok, hserver⟩ := hawaits
    rw [hserver, left, left, hphase, hserver]
    exact Nat.le_refl 3
  case h_5 fd ok hphase =>
    rw [left, left, hphase]
  case h_6 ok hphase =>
    rw [left, left, hphase]
  all_goals
    rename_i hphase
    rw [hphase] at hawaits
    exact hawaits.elim

section Step

variable (frames : Nat → KickcatFrame) (rounds : Nat)

theorem connected_stop (s : RunState) (event : ConnectionEvent)
    (hstop : s.connection.stop = true) :
    (s.connected frames rounds event).connection.stop = true := by
  have hstep := Connection.step_stop frames rounds hstop event
  rw [connected]
  split
  · split
    · exact hstep
    · exact hstop
  · exact hstep

/-- Nobody takes the flag back. -/
theorem runStep_stop {s : RunState} (hstop : s.connection.stop = true) (event : RunEvent) :
    (runStep frames rounds s event).connection.stop = true := by
  cases event with
  | connection event => exact s.connected_stop frames rounds event hstop
  | next =>
    rw [runStep, next]
    split
    case h_2 => simpa only [if_pos hstop] using hstop
    case h_4 => split <;> exact hstop
    all_goals exact hstop
  | bind unix inet =>
    rw [runStep]
    split
    · rw [bound]
      split
      · exact hstop
      · split <;> exact hstop
    · exact hstop
  | poll a =>
    rw [runStep]
    split
    · rw [polled]
      split
      · exact hstop
      · split
        · exact hstop
        · split <;> exact hstop
    · exact hstop

theorem left_connected {s : RunState} (hstop : s.connection.stop = true)
    {event : ConnectionEvent} (hawaits : s.Awaits (.connection event)) :
    (s.connected frames rounds event).left + event.isServer.toNat ≤ s.left := by
  rw [connected]
  cases hevent : event.isServer with
  | true =>
    obtain ⟨⟨fd, hphase⟩, hrun, hpossible⟩ := hawaits hevent
    rw [if_pos rfl, hphase, left, left, hphase]
    cases event with
    | server a =>
      have hless := (Connection.serverStep_remaining frames rounds hstop hrun hpossible).1
      show Connection.remaining (Connection.serverStep frames rounds s.connection a).server +
          3 + 1 ≤ Connection.remaining s.connection.server + 3
      omega
    | _ => cases hevent
  | false =>
    have hserver := (Connection.step_other frames rounds s.connection hevent).1
    rw [if_neg Bool.false_ne_true, left, left, hserver]
    exact Nat.le_refl _

/-- One step with the flag set: one of `run` brings the return nearer, and the others leave it
where it is. -/
theorem left_runStep {s : RunState} (hstop : s.connection.stop = true) {event : RunEvent}
    (hawaits : s.Awaits event) :
    (runStep frames rounds s event).left + event.isRun.toNat ≤ s.left := by
  cases event with
  | bind unix inet =>
    have hphase : s.phase = .entered := hawaits
    have hleft := s.left_bound unix inet
    rw [runStep, if_pos hphase]
    show _ + 1 ≤ s.left
    rw [left.eq_def s, hphase]
    exact Nat.succ_le_succ hleft
  | poll a =>
    have hphase : s.phase = .polling := hawaits
    have hleft := s.left_polled a
    rw [runStep, if_pos hphase]
    show _ + 1 ≤ s.left
    rw [left.eq_def s, hphase]
    exact Nat.succ_le_succ hleft
  | next => exact left_next hstop hawaits
  | connection event => exact left_connected frames rounds hstop hawaits

/-- The other steps leave the session where it is. -/
theorem short_runStep {s : RunState} (h : Connection.Short s.connection.server)
    (event : RunEvent) :
    Connection.Short (runStep frames rounds s event).connection.server := by
  cases event with
  | connection event =>
    have hstep := Connection.short_step frames rounds h event
    rw [runStep, connected]
    split
    · split
      · exact hstep
      · exact h
    · exact hstep
  | next =>
    rw [runStep, next]
    split
    case h_2 =>
      split
      · exact h
      · split <;> exact h
    case h_4 => split <;> exact h
    all_goals exact h
  | bind unix inet =>
    rw [runStep]
    split
    · rw [bound]
      split
      · exact h
      · split <;> exact h
    · exact h
  | poll a =>
    rw [runStep]
    split
    · rw [polled]
      split
      · exact h
      · split
        · exact h
        · split <;> exact h
    · exact h

/-- Once the flag is set, `run` makes at most `left` steps, whatever the kernel answers and
whatever the client does.  It stops making them only when it has returned, or when the code of
the session has no meaning. -/
theorem run_returns {s : RunState} (hstop : s.connection.stop = true) {events : List RunEvent}
    (hawaits : StepsOk (runStep frames rounds) Awaits s events) :
    events.countP RunEvent.isRun ≤ s.left ∧
      let s' := run (runStep frames rounds) s events
      (∃ exit, s'.phase = .returned exit) ∨ s'.connection.server = .undefined ∨
        ∃ event : RunEvent, event.isRun = true ∧ s'.Awaits event := by
  refine ⟨?_, exists_awaited _⟩
  induction events generalizing s with
  | nil => exact Nat.zero_le _
  | cons event events ih =>
    have hfirst := left_runStep frames rounds hstop hawaits.1
    have hrest := ih (runStep_stop frames rounds hstop event) hawaits.2
    have hcount : (event :: events).countP RunEvent.isRun =
        events.countP RunEvent.isRun + event.isRun.toNat := by
      rw [List.countP_cons]
      cases event.isRun <;> rfl
    omega

end Step

/-- The flag is set while `poll` waits, and a client comes: two steps, with the client in
between. -/
theorem run_returns_polling :
    let s := { enter tcpEndpoint 1 (El1258Slave.new 0 0 0) true with phase := .polling }
    [RunEvent.poll ⟨1, true, 5⟩, .connection (.write [5]), .next].countP RunEvent.isRun ≤
      s.left := by
  intro s
  have hawaits : StepsOk (runStep (fun _ => .ofBuffer (Cells.fill 0)) 1520) Awaits s
      [.poll ⟨1, true, 5⟩, .connection (.write [5]), .next] :=
    ⟨rfl, (fun h => nomatch h), trivial, trivial⟩
  exact (run_returns _ _ rfl hawaits).1

end RunState

end SlavesEndpoint

end EthercatSim

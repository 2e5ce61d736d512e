import EthercatSim.Lib.Descriptors
import EthercatSim.Transport.SocketAddress

/-!
# The descriptors of `bind` and `connect`

The model of `bindTCP_` of `apps/slaves/bus/slaves_endpoint.cpp` and of `connectTCP_` of
`apps/master/bus/master_socket.cpp`.  What they, `bindUDS_` and `connectUDS_` do with their
descriptor is read off their system calls.

* `replay_bindUDS`, `replay_connectUDS` and `replay_connectTCP`: a function that fails leaves
  no descriptor open.
* `replay_bindTCP`: but `bindTCP_` does, unless `socket` itself fails.
-/

namespace EthercatSim

open Descriptors UnixSocket

/-! ## TCP -/

/-- The system calls on a socket of the family `AF_INET`, and the two functions that find the
address of a host. -/
inductive InetCall where
  | socket
  | setsockopt (fd : Int)
  | inetPton (host : List UInt8)
  | gethostbyname (host : List UInt8)
  | bind (fd : Int) (host : List UInt8) (port : UInt16)
  | connect (fd : Int) (host : List UInt8) (port : UInt16)
  | listen (fd : Int)
  | close (fd : Int)
  deriving DecidableEq, Repr

/-- What they return.  A negative value is a failure, and so is any other than 1 for
`inet_pton`. -/
structure InetKernel where
  answer : InetCall → Int

/-- `bindTCP_` -/
def SlavesEndpoint.bindTCP (kernel : InetKernel) (host : List UInt8) (port : UInt16)
    (s : SlavesEndpoint.Listener) : Bool × SlavesEndpoint.Listener × List InetCall :=
  let fd := kernel.answer .socket
  let s := { s with listenFd := fd }
  if fd < 0 then (false, s, [.socket])
  else
    let calls := [.socket, .setsockopt fd, .inetPton (cString host)]
    if kernel.answer (.inetPton (cString host)) ≠ 1 then (false, s, calls)
    else if kernel.answer (.bind fd (cString host) port) < 0 then
      (false, s, calls ++ [.bind fd (cString host) port])
    else if kernel.answer (.listen fd) < 0 then
      (false, s, calls ++ [.bind fd (cString host) port, .listen fd])
    else (true, s, calls ++ [.bind fd (cString host) port, .listen fd])

/-- `connectTCP_`: the returned flag, and the descriptor that is left in `fd_`. -/
def MasterSocket.connectTCP (kernel : InetKernel) (host : List UInt8) (port : UInt16) :
    Bool × Int × List InetCall :=
  let fd := kernel.answer .socket
  if fd < 0 then (false, fd, [.socket])
  else
    let calls := [.socket, .inetPton (cString host)]
    if kernel.answer (.inetPton (cString host)) ≠ 1 then (false, -1, calls ++ [.close fd])
    else if kernel.answer (.connect fd (cString host) port) < 0 then
      (false, -1, calls ++ [.connect fd (cString host) port, .close fd])
    else (true, fd, calls ++ [.connect fd (cString host) port])

/-! ## What the calls do with descriptors -/

/-- `socket` opens a descriptor when it succeeds. -/
def socketUses (fd : Int) : List (Use Int) := if fd < 0 then [] else [.opened fd]

/-- The uses of a descriptor in the calls on a Unix socket. -/
def unixUses (kernel : Kernel) (calls : List SystemCall) : List (Use Int) :=
  calls.flatMap fun
    | .socket => socketUses (kernel.answer .socket)
    | .bind fd _ | .connect fd _ | .listen fd => [.used fd]
    | .close fd => [.closed fd]
    | .unlink _ => []

/-- The uses of a descriptor in the calls on an Internet socket. -/
def inetUses (kernel : InetKernel) (calls : List InetCall) : List (Use Int) :=
  calls.flatMap fun
    | .socket => socketUses (kernel.answer .socket)
    | .setsockopt fd | .bind fd _ _ | .connect fd _ _ | .listen fd => [.used fd]
    | .inetPton _ | .gethostbyname _ => []
    | .close fd => [.closed fd]

section Replay

variable {table : List Int}

/-- `bindUDS_` leaves its socket open when it succeeds. -/
theorem replay_bindUDS {kernel : Kernel} (hfresh : kernel.answer .socket ∉ table)
    {path : List UInt8} {s l : SlavesEndpoint.Listener} {ok : Bool} {calls : List SystemCall}
    (h : SlavesEndpoint.bindUDS kernel path s = (ok, l, calls)) :
    replay table (unixUses kernel calls) =
        some (if ok = true then l.listenFd :: table else table) ∧
      (ok = true → 0 ≤ l.listenFd) := by
  rw [SlavesEndpoint.bindUDS] at h
  simp only [] at h
  split at h
  · rename_i hfd
    obtain ⟨rfl, rfl, rfl⟩ := h
    simp [unixUses, socketUses, hfd]
  · rename_i hfd
    -- the name of the socket makes no difference here
    have hopened := replay_opened hfresh
    by_cases hat : path.head? = some AT
    · simp only [if_pos hat] at h
      split at h
      · obtain ⟨rfl, rfl, rfl⟩ := h
        simp [unixUses, socketUses, hfd, hopened, replay_used, replay_closed]
      · split at h <;> obtain ⟨rfl, rfl, rfl⟩ := h
        · simp [unixUses, socketUses, hfd, hopened, replay_used, replay_closed]
        · simp [unixUses, socketUses, hfd, hopened, replay_used]
          omega
    · simp only [if_neg hat] at h
      split at h
      · obtain ⟨rfl, rfl, rfl⟩ := h
        simp [unixUses, socketUses, hfd, hopened, replay_used, replay_closed]
      · split at h <;> obtain ⟨rfl, rfl, rfl⟩ := h
        · simp [unixUses, socketUses, hfd, hopened, replay_used, replay_closed]
        · simp [unixUses, socketUses, hfd, hopened, replay_used]
          omega

/-- `bindTCP_` leaves every socket open that it gets. -/
theorem replay_bindTCP {kernel : InetKernel} (hfresh : kernel.answer .socket ∉ table)
    {host : List UInt8} {port : UInt16} {s l : SlavesEndpoint.Listener} {ok : Bool}
    {calls : List InetCall} (h : SlavesEndpoint.bindTCP kernel host port s = (ok, l, calls)) :
    replay table (inetUses kernel calls) =
        some (if l.listenFd < 0 then table else l.listenFd :: table) ∧
      (ok = true → 0 ≤ l.listenFd) := by
  rw [SlavesEndpoint.bindTCP] at h
  simp only [] at h
  split at h
  · rename_i hfd
    obtain ⟨rfl, rfl, rfl⟩ := h
    simp [inetUses, socketUses, hfd]
  · rename_i hfd
    have hopened := replay_opened hfresh
    split at h
    · obtain ⟨rfl, rfl, rfl⟩ := h
      simp [inetUses, socketUses, hfd, hopened, replay_used]
    · split at h
      · obtain ⟨rfl, rfl, rfl⟩ := h
        simp [inetUses, socketUses, hfd, hopened, replay_used]
      · split at h <;> obtain ⟨rfl, rfl, rfl⟩ := h
        · simp [inetUses, socketUses, hfd, hopened, replay_used]
        · simp [inetUses, socketUses, hfd, hopened, replay_used]
          omega

/-- `connectUDS_` leaves its socket open when it succeeds. -/
theorem replay_connectUDS {kernel : Kernel} (hfresh : kernel.answer .socket ∉ table)
    (herror : -1 ≤ kernel.answer .socket) {path : List UInt8} {fd : Int} {ok : Bool}
    {calls : List SystemCall} (h : MasterSocket.connectUDS kernel path = (ok, fd, calls)) :
    replay table (unixUses kernel calls) = some (if ok = true then fd :: table else table) ∧
      if ok = true then 0 ≤ fd else fd = -1 := by
  rw [MasterSocket.connectUDS] at h
  simp only [] at h
  split at h
  · rename_i hfd
    obtain ⟨rfl, rfl, rfl⟩ := h
    simp [unixUses, socketUses, hfd]
    omega
  · rename_i hfd
    have hopened := replay_opened hfresh
    generalize (if path.head? = some AT then abstractAddress path.tail
      else pathnameAddress path) = addr at h
    split at h <;> obtain ⟨rfl, rfl, rfl⟩ := h
    · simp [unixUses, socketUses, hfd, hopened, replay_used, replay_closed]
    · simp [unixUses, socketUses, hfd, hopened, replay_used]
      omega

theorem replay_connectTCP {kernel : InetKernel} (hfresh : kernel.answer .socket ∉ table)
    (herror : -1 ≤ kernel.answer .socket) {host : List UInt8} {port : UInt16} {fd : Int}
    {ok : Bool} {calls : List InetCall}
    (h : MasterSocket.connectTCP kernel host port = (ok, fd, calls)) :
    replay table (inetUses kernel calls) = some (if ok = true then fd :: table else table) ∧
      if ok = true then 0 ≤ fd else fd = -1 := by
  rw [MasterSocket.connectTCP] at h
  simp only [] at h
  split at h
  · rename_i hfd
    obtain ⟨rfl, rfl, rfl⟩ := h
    simp [inetUses, socketUses, hfd]
    omega
  · rename_i hfd
    have hopened := replay_opened hfresh
    split at h
    · obtain ⟨rfl, rfl, rfl⟩ := h
      simp [inetUses, socketUses, hfd, hopened, replay_closed]
    · split at h <;> obtain ⟨rfl, rfl, rfl⟩ := h
      · simp [inetUses, socketUses, hfd, hopened, replay_used, replay_closed]
      · simp [inetUses, socketUses, hfd, hopened, replay_used]
        omega

end Replay

end EthercatSim

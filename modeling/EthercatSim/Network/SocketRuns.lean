import Mathlib.Data.List.Forall2
import EthercatSim.Network.Bus
import EthercatSim.Network.Frame
import EthercatSim.Network.Interpreters
import EthercatSim.Network.Link

/-!
# The bus behind a `SimSocket`

A master in the same process writes its frames with `SimSocket::write`.  The datagrams are
carried out at once, and the frame waits on the simulated link until `SimSocket::read` takes
it.  Between the calls the simulator runs its routines, and the link changes.

* `Bus.socketReply`: what the bus of the server answers, with the working counters that this
  transport has of its own.
* `SocketRun`: a simulator with the reads of the master and the accepted calls that the bus
  is concerned with.
* `socket_refines_bus`: the reads are the replies of the bus in order, and none is lost.
-/

namespace EthercatSim

open Kickcat NetworkSimulator References StepRun

variable {σ : Type}

/-! ## The code -/

/-- `SimSocket::read` into a buffer of `size` bytes: what is copied, if a frame is there. -/
def SimSocket.read (sim : NetworkSimulator σ) (size : Nat) (now : Int) :
    Option (List UInt8) × NetworkSimulator σ :=
  match sim.receiveFrame now with
  | (some payload, sim) => (some (payload.take size), sim)
  | (none, sim) => (none, sim)

/-- The calls of the master, of the owner of the simulator and of that of the link. -/
inductive SocketCall where
  | write (frame : List Datagram) (now : Int)
  | read (size : Nat) (now : Int)
  | runOnce
  | setLinkUp (up : Bool)
  | setLatencyMs (ms : UInt32)
  deriving DecidableEq, Repr

/-- A call that changes the bus. -/
inductive BusOp where
  | frame (ds : List Datagram)
  | runOnce
  deriving DecidableEq, Repr

/-- What was copied into a buffer of `size` bytes. -/
structure SocketRead where
  size : Nat
  bytes : List UInt8
  deriving DecidableEq, Repr

/-- A simulator, and what happened to it: the calls that changed the bus, and the reads that
got a frame. -/
structure SocketRun (σ : Type) where
  sim : NetworkSimulator σ
  ops : List BusOp
  reads : List SocketRead

/-- Before the first call. -/
def SocketRun.start (sim : NetworkSimulator σ) : SocketRun σ := { sim, ops := [], reads := [] }

section Step

variable [SlaveDevice σ] (bytesOf : List Datagram → List UInt8)

/-- One call.  A mapping of inputs could make `runOnce` undefined; then nothing is kept. -/
def SocketRun.step (r : SocketRun σ) : SocketCall → SocketRun σ
  | .write frame now =>
    let (ok, sim, _) := SimSocket.write bytesOf r.sim frame now
    { r with sim, ops := if ok then r.ops ++ [.frame frame] else r.ops }
  | .read size now =>
    match SimSocket.read r.sim size now with
    | (some bytes, sim) => { r with sim, reads := r.reads ++ [{ size, bytes }] }
    | (none, sim) => { r with sim }
  | .runOnce =>
    match r.sim.runOnce with
    | some sim => { r with sim, ops := r.ops ++ [.runOnce] }
    | none => r
  | .setLinkUp up => { r with sim := r.sim.setLinkUp up }
  | .setLatencyMs ms => { r with sim := r.sim.setLatencyMs ms }

end Step

/-! ## The replies of the bus -/

namespace Bus

/-- The working counter that `SimSocket::write` stores where the server stores `wkc`. -/
def socketWkc (b : Bus σ) (c : Command) (wkc : UInt16) : UInt16 :=
  match c with
  | .NOP | .ARMW | .FRMW => ackOf (0 < b.online)
  | .BRD => castUInt16 b.online
  | _ => wkc

variable [SlaveDevice σ]

/-- A frame that comes back on the link. -/
def socketReply (b : Bus σ) (frame : List Datagram) : List Datagram :=
  (b.processFrame frame).2.map fun d => { d with wkc := b.socketWkc d.command d.wkc }

/-- The calls one after the other: the bus that is left, and the replies to the frames. -/
def serveOps (b : Bus σ) : List BusOp → Bus σ × List (List Datagram)
  | [] => (b, [])
  | .frame ds :: ops =>
    let (b', replies) := serveOps (b.processFrame ds).1 ops
    (b', b.socketReply ds :: replies)
  | .runOnce :: ops => serveOps b.runOnce ops

theorem serveOps_append (b : Bus σ) (xs ys : List BusOp) :
    b.serveOps (xs ++ ys) =
      (((b.serveOps xs).1.serveOps ys).1,
        (b.serveOps xs).2 ++ ((b.serveOps xs).1.serveOps ys).2) := by
  induction xs generalizing b with
  | nil => rfl
  | cons op xs ih =>
    cases op with
    | frame ds =>
      rw [List.cons_append, serveOps, ih]
      rfl
    | runOnce => exact ih b.runOnce

end Bus

/-! ## One frame -/

section Interpret

variable [SlaveDevice σ] {sim : NetworkSimulator σ} {refs : List SlaveRef} {b : Bus σ}

/-- The working counter on this transport. -/
theorem Represents.socket_wkc (h : Represents sim refs b) (d : Datagram) :
    (SimSocket.interpret sim d).2.wkc =
      b.socketWkc d.command (SlavesEndpoint.interpret sim d).2.wkc := by
  have hsame := interpret_wkc_eq_iff sim d
  cases hc : d.command <;> rw [hc] at hsame
  case NOP => simp only [SimSocket.interpret, hc, Bus.socketWkc, h.onlineSlaveCount_eq]
  case BRD => simp only [SimSocket.interpret, hc, Bus.socketWkc, h.onlineSlaveCount_eq]
  case ARMW => simp only [SimSocket.interpret, hc, Bus.socketWkc, h.onlineSlaveCount_eq]
  case FRMW => simp only [SimSocket.interpret, hc, Bus.socketWkc, h.onlineSlaveCount_eq]
  all_goals exact hsame.mpr trivial

/-- It is all that `SimSocket::write` does otherwise than the server. -/
theorem Represents.socket_interpret (h : Represents sim refs b) (d : Datagram) :
    (SimSocket.interpret sim d).2 =
        { (b.interpret d).2 with
          wkc := b.socketWkc (b.interpret d).2.command (b.interpret d).2.wkc } ∧
      Represents (SimSocket.interpret sim d).1 refs (b.interpret d).1 := by
  obtain ⟨hdatagram, hrepresents⟩ := h.interpret d
  obtain ⟨hsim, hheader⟩ := interpret_sameEffect sim d
  have hcommand := (SlavesEndpoint.interpret_header sim d).1
  have hwkc := h.socket_wkc d
  rw [← hdatagram, hcommand, ← hwkc]
  refine ⟨?_, hsim ▸ hrepresents⟩
  rcases hd : (SimSocket.interpret sim d).2 with ⟨command, address, data, wkc⟩
  rw [hd] at hheader
  simp only [Datagram.withoutWkc, Datagram.mk.injEq, and_true] at hheader
  rw [hheader.1, hheader.2.1, hheader.2.2]

/-- The number of online slaves does not change inside a frame. -/
theorem Represents.online_interpret (h : Represents sim refs b) (d : Datagram) :
    (b.interpret d).1.online = b.online := by
  rw [← (h.interpret d).2.onlineSlaveCount_eq, ← h.onlineSlaveCount_eq]
  exact (AccessStep.interpret sim d).onlineSlaveCount_eq

/-- A frame is carried out on the bus, and its datagrams are those of the reply. -/
theorem Represents.interpretAll (h : Represents sim refs b) (frame : List Datagram) :
    (SimSocket.interpretAll sim frame).2 = b.socketReply frame ∧
      Represents (SimSocket.interpretAll sim frame).1 refs (b.processFrame frame).1 := by
  induction frame generalizing sim b with
  | nil => exact ⟨rfl, h⟩
  | cons d ds ih =>
    obtain ⟨hd, hstep⟩ := h.socket_interpret d
    obtain ⟨hds, hrest⟩ := ih hstep
    refine ⟨?_, hrest⟩
    have hwkc : (b.interpret d).1.socketWkc = b.socketWkc := by
      unfold Bus.socketWkc
      rw [h.online_interpret d]
    show (SimSocket.interpret sim d).2 ::
      (SimSocket.interpretAll (SimSocket.interpret sim d).1 ds).2 = _
    rw [hd, hds, Bus.socketReply, hwkc]
    rfl

end Interpret

/-! ## One call -/

/-- A reply that was read into a buffer. -/
def ReadOf (bytesOf : List Datagram → List UInt8) (reply : List Datagram) (read : SocketRead) :
    Prop :=
  read.bytes = (bytesOf reply).take read.size

/-- The reads are the first replies, and the others wait on the link. -/
def Answered (bytesOf : List Datagram → List UInt8) (replies : List (List Datagram))
    (reads : List SocketRead) (queue : List FrameItem) : Prop :=
  ∃ taken waiting, replies = taken ++ waiting ∧ List.Forall₂ (ReadOf bytesOf) taken reads ∧
    queue.map FrameItem.frame = waiting.map bytesOf

section Answered

variable {bytesOf : List Datagram → List UInt8} {replies : List (List Datagram)}
  {reads : List SocketRead} {queue : List FrameItem}

/-- A reply is put behind the others. -/
theorem Answered.push (h : Answered bytesOf replies reads queue) (reply : List Datagram)
    (readyAt : Int) :
    Answered bytesOf (replies ++ [reply]) reads
      (queue ++ [{ frame := bytesOf reply, readyAt }]) := by
  obtain ⟨taken, waiting, hreplies, hreads, hqueue⟩ := h
  refine ⟨taken, waiting ++ [reply], ?_, hreads, ?_⟩
  · rw [hreplies, List.append_assoc]
  · rw [List.map_append, hqueue, List.map_append]
    rfl

/-- The first one is read. -/
theorem Answered.pop {item : FrameItem} (h : Answered bytesOf replies reads (item :: queue))
    (size : Nat) :
    Answered bytesOf replies (reads ++ [{ size, bytes := item.frame.take size }]) queue := by
  obtain ⟨taken, waiting, hreplies, hreads, hqueue⟩ := h
  cases waiting with
  | nil => cases hqueue
  | cons reply waiting =>
    rw [List.map_cons, List.map_cons, List.cons.injEq] at hqueue
    obtain ⟨hitem, hqueue⟩ := hqueue
    refine ⟨taken ++ [reply], waiting, ?_, ?_, hqueue⟩
    · rw [hreplies, List.append_assoc]
      rfl
    · refine List.rel_append hreads (.cons ?_ .nil)
      rw [ReadOf, hitem]

end Answered

section Calls

variable [SlaveDevice σ] {bytesOf : List Datagram → List UInt8} {b₀ : Bus σ}
  {refs : List SlaveRef}

omit [SlaveDevice σ] in
/-- The queue and the link are no part of the bus. -/
theorem Represents.of_link {sim : NetworkSimulator σ} {b : Bus σ} (h : Represents sim refs b)
    (queue : List FrameItem) (linkUp : Bool) (latencyMs : UInt32) :
    Represents { sim with queue, linkUp, latencyMs } refs b :=
  ⟨h.slaves, h.nodup, h.counted, h.unmapped, h.values, h.image⟩

theorem Represents.runOnce_queue {sim sim' : NetworkSimulator σ} {b : Bus σ}
    (h : Represents sim refs b) (hrun : sim.runOnce = some sim') : sim'.queue = sim.queue := by
  have hmaps : sim.runRoutines.inputMaps = [] := sim.runRoutines_inputMaps.trans h.unmapped
  have hdone : sim.runOnce = some { sim.runRoutines with inputMaps := [] } := by
    rw [NetworkSimulator.runOnce, hmaps]
    rfl
  rw [← Option.some.inj (hdone.symm.trans hrun), runRoutines_eq h.slaves]

/-- The datagrams are carried out behind the link. -/
theorem interpretAll_link (sim : NetworkSimulator σ) (frame : List Datagram) :
    (SimSocket.interpretAll sim frame).1.queue = sim.queue ∧
      (SimSocket.interpretAll sim frame).1.linkUp = sim.linkUp := by
  have hframe := (AccessStep.processFrame sim frame).frame sim.objects
  rw [← interpretAll_sim_eq] at hframe
  have hqueue := congrArg NetworkSimulator.queue hframe
  have hlink := congrArg NetworkSimulator.linkUp hframe
  exact ⟨hqueue, hlink⟩

omit [SlaveDevice σ] in
theorem sendFrame_up (sim : NetworkSimulator σ) (hup : sim.linkUp = true)
    (frame : List UInt8) (now : Int) :
    sim.sendFrame frame now =
      (true, { sim with
        queue := sim.queue ++ [{ frame, readyAt := now + sim.latencyMs.toNat * 1000000 }] }) := by
  rw [NetworkSimulator.sendFrame, hup]
  rfl

/-- The invariant: the simulator holds the bus that the calls have made of it, and they are
answered. -/
structure SocketRun.Refines (bytesOf : List Datagram → List UInt8) (b₀ : Bus σ)
    (refs : List SlaveRef) (r : SocketRun σ) : Prop where
  represents : Represents r.sim refs (b₀.serveOps r.ops).1
  answered : Answered bytesOf (b₀.serveOps r.ops).2 r.reads r.sim.queue

namespace SocketRun.Refines

variable {r : SocketRun σ}

theorem write (h : r.Refines bytesOf b₀ refs) (frame : List Datagram) (now : Int) :
    (r.step bytesOf (.write frame now)).Refines bytesOf b₀ refs := by
  rw [SocketRun.step, SimSocket.write]
  cases hup : r.sim.linkUp with
  | false => exact h
  | true =>
    obtain ⟨hreply, hrepresents⟩ := h.represents.interpretAll frame
    obtain ⟨hqueue, hlink⟩ := interpretAll_link r.sim frame
    have hsend := sendFrame_up (SimSocket.interpretAll r.sim frame).1 (hlink.trans hup)
      (bytesOf (SimSocket.interpretAll r.sim frame).2) now
    rw [hreply, hqueue] at hsend
    simp only [Bool.not_true, Bool.false_eq_true, if_false, hreply, hsend, if_true]
    refine ⟨?_, ?_⟩
    · rw [Bus.serveOps_append]
      exact hrepresents.of_link _ _ _
    · rw [Bus.serveOps_append]
      exact h.answered.push _ _

theorem read (h : r.Refines bytesOf b₀ refs) (size : Nat) (now : Int) :
    (r.step bytesOf (.read size now)).Refines bytesOf b₀ refs := by
  rw [SocketRun.step, SimSocket.read, NetworkSimulator.receiveFrame]
  cases hup : r.sim.linkUp with
  | false => exact h
  | true =>
    simp only [Bool.not_true, Bool.false_eq_true, if_false]
    cases hqueue : r.sim.queue with
    | nil => exact h
    | cons item rest =>
      by_cases hnow : now < item.readyAt
      · simp only [if_pos hnow]
        exact h
      · simp only [if_neg hnow]
        have hanswered := h.answered
        rw [hqueue] at hanswered
        exact ⟨h.represents.of_link rest _ _, hanswered.pop size⟩

theorem runOnce (h : r.Refines bytesOf b₀ refs) :
    (r.step bytesOf .runOnce).Refines bytesOf b₀ refs := by
  obtain ⟨sim', hrun, hrepresents⟩ := h.represents.runOnce
  rw [SocketRun.step, hrun]
  refine ⟨?_, ?_⟩
  · rw [Bus.serveOps_append]
    exact hrepresents
  · rw [Bus.serveOps_append, h.represents.runOnce_queue hrun]
    show Answered bytesOf (_ ++ []) r.reads r.sim.queue
    rw [List.append_nil]
    exact h.answered

theorem step (h : r.Refines bytesOf b₀ refs) (call : SocketCall) :
    (r.step bytesOf call).Refines bytesOf b₀ refs := by
  cases call with
  | write frame now => exact h.write frame now
  | read size now => exact h.read size now
  | runOnce => exact h.runOnce
  | setLinkUp up => exact ⟨h.represents.of_link _ up _, h.answered⟩
  | setLatencyMs ms => exact ⟨h.represents.of_link _ _ ms, h.answered⟩

end SocketRun.Refines

/-! ## Whole runs -/

/-- A master in the same process.  For every order of writes, reads, routines and changes of
the link, and for all readings of the clock, the simulator holds the bus that the accepted
writes and the routines make, each read is the reply of the bus to the first write whose
reply was not read yet, and the replies that were not read wait on the link. -/
theorem socket_refines_bus (bytesOf : List Datagram → List UInt8) {sim : NetworkSimulator σ}
    {b : Bus σ} (hsim : Represents sim refs b) (hempty : sim.queue = [])
    (calls : List SocketCall) :
    (run (SocketRun.step bytesOf) (SocketRun.start sim) calls).Refines bytesOf b refs := by
  have hstart : (SocketRun.start sim).Refines bytesOf b refs := by
    refine ⟨hsim, [], [], rfl, .nil, ?_⟩
    rw [SocketRun.start, hempty]
    rfl
  have hstep : ∀ (r : SocketRun σ) call, r.Refines bytesOf b refs →
      (r.step bytesOf call).Refines bytesOf b refs := fun _ call h => h.step call
  exact run_preserved hstep hstart calls

end Calls

/-- Frames of `broadcastByte` only, as they stand on the wire. -/
def broadcastBytes (frame : List Datagram) : List UInt8 :=
  frame.flatMap fun d =>
    [8, 0, 0, 0, 0, 2, 1, 0, 0, 0] ++ d.data ++ [Bytes.loByte d.wkc, Bytes.hiByte d.wkc]

/-- The second frame is ready before the first one, and is read behind it, into a buffer
that is too small. -/
theorem socket_refines_bus_twoSlaves :
    (run (SocketRun.step broadcastBytes) (SocketRun.start (twoSlaves true))
        [.setLatencyMs 1, .write [broadcastByte] 0, .setLatencyMs 0, .write [broadcastByte] 0,
          .runOnce, .read 64 0, .read 64 1000000, .read 11 1000000]).reads =
      [{ size := 64, bytes := [8, 0, 0, 0, 0, 2, 1, 0, 0, 0, 1, 2, 0] },
        { size := 11, bytes := [8, 0, 0, 0, 0, 2, 1, 0, 0, 0, 1] }] ∧
    (run (SocketRun.step broadcastBytes) (SocketRun.start (twoSlaves true))
        [.setLatencyMs 1, .write [broadcastByte] 0, .setLatencyMs 0, .write [broadcastByte] 0,
          .runOnce, .read 64 0, .read 64 1000000, .read 11 1000000]).Refines
      broadcastBytes (twoSlavesBus true) [0, 1] :=
  ⟨by decide, socket_refines_bus _ (twoSlaves_represents true) rfl _⟩

end EthercatSim

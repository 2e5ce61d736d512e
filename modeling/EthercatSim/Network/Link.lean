import EthercatSim.Lib.Run
import EthercatSim.Network.Simulator

/-!
# The simulated link

`sendFrame` puts a frame behind a queue, with the time from which on it can be
received; `receiveFrame` takes the frame at the head once its time has come.  The
latency may change between two sends, so a later frame can be ready before an earlier
one.  It still waits for the earlier one.

* `LinkHistory`: a simulator with what its callers have seen of the link.
* `FifoWithDelay`: the frames received so far and the frames in the queue are the
  frames sent, in order, and none was received before its time.
* `link_fifo`: this holds all along every run, and a call that fails changes neither
  the queue nor the frame of its caller.
-/

namespace EthercatSim

open StepRun

/-- The calls of the link.  A call that asks `steady_clock` takes the reading. -/
inductive LinkCall where
  | sendFrame (frame : List UInt8) (now : Int)
  | receiveFrame (now : Int)
  | setLinkUp (up : Bool)
  | setLatencyMs (ms : UInt32)
  deriving DecidableEq, Repr

/-- A frame that `sendFrame` accepted, with the time and the latency in force. -/
structure SentFrame where
  frame : List UInt8
  sentAt : Int
  latencyMs : UInt32
  deriving DecidableEq, Repr

/-- A frame that `receiveFrame` returned, with the time. -/
structure ReceivedFrame where
  frame : List UInt8
  receivedAt : Int
  deriving DecidableEq, Repr

/-- The time from which on the frame may be received, in nanoseconds. -/
def SentFrame.due (s : SentFrame) : Int := s.sentAt + s.latencyMs.toNat * 1000000

/-- The item that stands for the frame in the queue. -/
def SentFrame.item (s : SentFrame) : FrameItem := { frame := s.frame, readyAt := s.due }

/-- A simulator with the history of its link.  `out` is the frame that the caller
passes to `receiveFrame`, and `answer` what the last call returned. -/
structure LinkHistory (σ : Type) where
  sim : NetworkSimulator σ
  out : List UInt8
  sent : List SentFrame
  received : List ReceivedFrame
  answer : Option Bool

namespace LinkHistory

variable {σ : Type}

/-- A simulator before its first call. -/
def start (sim : NetworkSimulator σ) (out : List UInt8) : LinkHistory σ :=
  { sim, out, sent := [], received := [], answer := none }

/-- One call, with its entry in the history. -/
def step (h : LinkHistory σ) : LinkCall → LinkHistory σ
  | .sendFrame frame now =>
    let (ok, sim) := h.sim.sendFrame frame now
    { h with
      sim
      sent := if ok then h.sent ++ [⟨frame, now, h.sim.latencyMs⟩] else h.sent
      answer := some ok }
  | .receiveFrame now =>
    match h.sim.receiveFrame now with
    | (some frame, sim) =>
      { h with
        sim, out := frame, received := h.received ++ [⟨frame, now⟩], answer := some true }
    | (none, sim) => { h with sim, answer := some false }
  | .setLinkUp up => { h with sim := h.sim.setLinkUp up, answer := none }
  | .setLatencyMs ms => { h with sim := h.sim.setLatencyMs ms, answer := none }

/-- The frames received, then the frames in the queue, are the frames sent; and the
`i`-th frame was received no earlier than the `i`-th frame sent was due. -/
def FifoWithDelay (h : LinkHistory σ) : Prop :=
  h.sent.map SentFrame.frame =
      h.received.map ReceivedFrame.frame ++ h.sim.queue.map FrameItem.frame ∧
    ∀ p ∈ h.sent.zip h.received, p.1.sentAt + p.1.latencyMs.toNat * 1000000 ≤ p.2.receivedAt

/-- A call that returns `false` changes neither the queue nor the frame of the
caller. -/
def FailsSilently (h : LinkHistory σ) (call : LinkCall) : Prop :=
  (h.step call).answer = some false →
    (h.step call).sim.queue = h.sim.queue ∧ (h.step call).out = h.out

/-! ## One call -/

/-- What a call does to the queue and the history. -/
inductive CallBranch (h : LinkHistory σ) : LinkCall → LinkHistory σ → Prop
  | accepted (frame : List UInt8) (now : Int) (sim : NetworkSimulator σ)
      (hqueue : sim.queue = h.sim.queue ++ [SentFrame.item ⟨frame, now, h.sim.latencyMs⟩]) :
      CallBranch h (.sendFrame frame now)
        { h with
          sim, sent := h.sent ++ [⟨frame, now, h.sim.latencyMs⟩], answer := some true }
  | delivered (now : Int) (item : FrameItem) (sim : NetworkSimulator σ)
      (hhead : h.sim.queue = item :: sim.queue) (hready : item.readyAt ≤ now) :
      CallBranch h (.receiveFrame now)
        { h with
          sim, out := item.frame, received := h.received ++ [⟨item.frame, now⟩]
          answer := some true }
  | refused (call : LinkCall) : CallBranch h call { h with answer := some false }
  | set (call : LinkCall) (sim : NetworkSimulator σ) (hqueue : sim.queue = h.sim.queue) :
      CallBranch h call { h with sim, answer := none }

theorem step_branch (h : LinkHistory σ) (call : LinkCall) : CallBranch h call (h.step call) := by
  cases call with
  | sendFrame frame now =>
    rw [step, NetworkSimulator.sendFrame]
    by_cases hup : (!h.sim.linkUp) = true
    · rw [if_pos hup]
      exact .refused _
    · rw [if_neg hup]
      exact .accepted frame now _ rfl
  | receiveFrame now =>
    rw [step, NetworkSimulator.receiveFrame]
    by_cases hup : (!h.sim.linkUp) = true
    · rw [if_pos hup]
      exact .refused _
    · rw [if_neg hup]
      cases hqueue : h.sim.queue with
      | nil => exact .refused _
      | cons item rest =>
        by_cases hnow : now < item.readyAt
        · simp only [if_pos hnow]
          exact .refused _
        · simp only [if_neg hnow]
          exact .delivered now item { h.sim with queue := rest } hqueue (by omega)
  | setLinkUp up => exact .set _ _ rfl
  | setLatencyMs ms => exact .set _ _ rfl

theorem step_failsSilently (h : LinkHistory σ) (call : LinkCall) : h.FailsSilently call := by
  have hbranch := h.step_branch call
  unfold FailsSilently
  generalize h.step call = next at hbranch
  cases hbranch with
  | accepted frame now sim hqueue => simp
  | delivered now item sim hhead hready => simp
  | refused => exact fun _ => ⟨rfl, rfl⟩
  | set call sim hqueue => simp

/-- The invariant: the frames sent fall into those received, each in its time, and
those whose items make up the queue. -/
def InOrder (h : LinkHistory σ) : Prop :=
  ∃ taken waiting : List SentFrame,
    h.sent = taken ++ waiting ∧ h.sim.queue = waiting.map SentFrame.item ∧
      taken.map SentFrame.frame = h.received.map ReceivedFrame.frame ∧
      ∀ p ∈ taken.zip h.received, p.1.due ≤ p.2.receivedAt

theorem start_inOrder {sim : NetworkSimulator σ} (hempty : sim.queue = []) (out : List UInt8) :
    (start sim out).InOrder :=
  ⟨[], [], rfl, hempty, rfl, by simp⟩

theorem step_inOrder {h : LinkHistory σ} (hI : h.InOrder) (call : LinkCall) :
    (h.step call).InOrder := by
  obtain ⟨taken, waiting, hsent, hqueue, hframes, hdue⟩ := hI
  have hbranch := h.step_branch call
  generalize h.step call = next at hbranch
  cases hbranch with
  | accepted frame now sim hpush =>
    refine ⟨taken, waiting ++ [⟨frame, now, h.sim.latencyMs⟩], ?_, ?_, hframes, hdue⟩
    · rw [hsent, List.append_assoc]
    · rw [hpush, hqueue, List.map_append]
      rfl
  | delivered now item sim hhead hready =>
    cases waiting with
    | nil => simp [hhead] at hqueue
    | cons first rest =>
      rw [hhead, List.map_cons, List.cons.injEq] at hqueue
      obtain ⟨rfl, hrest⟩ := hqueue
      have hlength : taken.length = h.received.length := by
        simpa using congrArg List.length hframes
      refine ⟨taken ++ [first], rest, ?_, hrest, ?_, ?_⟩
      · rw [hsent, List.append_assoc]
        rfl
      · show (taken ++ [first]).map _ = (h.received ++ [_]).map _
        rw [List.map_append, List.map_append, hframes]
        rfl
      · show ∀ p ∈ (taken ++ [first]).zip (h.received ++ [_]), _
        rw [List.zip_append hlength]
        intro p hp
        rcases List.mem_append.mp hp with hold | hnew
        · exact hdue p hold
        · simp only [List.zip_cons_cons, List.zip_nil_right, List.mem_singleton] at hnew
          subst hnew
          exact hready
  | refused => exact ⟨taken, waiting, hsent, hqueue, hframes, hdue⟩
  | set call sim hkeep => exact ⟨taken, waiting, hsent, hkeep.trans hqueue, hframes, hdue⟩

theorem InOrder.fifoWithDelay {h : LinkHistory σ} (hI : h.InOrder) : h.FifoWithDelay := by
  obtain ⟨taken, waiting, hsent, hqueue, hframes, hdue⟩ := hI
  have hlength : taken.length = h.received.length := by
    simpa using congrArg List.length hframes
  have hitems : (waiting.map SentFrame.item).map FrameItem.frame =
      waiting.map SentFrame.frame := by
    rw [List.map_map]
    rfl
  constructor
  · rw [hsent, hqueue, List.map_append, hframes, hitems]
  · -- the frames in the queue have no partner among those received
    have hzip : h.sent.zip h.received = taken.zip h.received := by
      have happend : (taken ++ waiting).zip (h.received ++ []) =
          taken.zip h.received ++ waiting.zip [] := List.zip_append hlength
      rw [List.append_nil, List.zip_nil_right, List.append_nil] at happend
      rw [hsent, happend]
    rw [hzip]
    exact hdue

/-! ## Whole runs -/

/-- The link is a FIFO with delay.  In every state of every run of calls on a simulator
whose queue is empty at first, the frames received are the first frames sent, in order,
the others are in the queue, and none was received before its time.  The readings of the
clock are arbitrary.  No call that returns `false` changes the queue or the frame of its
caller. -/
theorem link_fifo (sim : NetworkSimulator σ) (hempty : sim.queue = []) (out : List UInt8)
    (calls : List LinkCall) :
    Always step FifoWithDelay (start sim out) calls ∧
      StepsOk step FailsSilently (start sim out) calls := by
  have hinv : ∀ (h : LinkHistory σ) (call : LinkCall), h.InOrder → (h.step call).InOrder :=
    fun _ call hI => step_inOrder hI call
  have halways : Always step InOrder (start sim out) calls :=
    always_of_preserved hinv (start_inOrder hempty out) calls
  constructor
  · exact halways.imp fun _ hI => hI.fifoWithDelay
  · exact stepsOk_all step_failsSilently _ calls

/-- The latency drops between two sends, and the link goes down while both frames are in
flight. -/
theorem link_fifo_latency_drops :
    let sim := NetworkSimulator.new (VirtualSlave.new 1 2 3 ())
    let calls : List LinkCall :=
      [.setLatencyMs 5, .sendFrame [1] 0, .setLatencyMs 0, .sendFrame [2] 1000000,
        .receiveFrame 1000000, .setLinkUp false, .receiveFrame 6000000, .setLinkUp true,
        .receiveFrame 6000000, .receiveFrame 6000000]
    (run step (start sim []) calls).received = [⟨[1], 6000000⟩, ⟨[2], 6000000⟩] ∧
      Always step FifoWithDelay (start sim []) calls ∧
      StepsOk step FailsSilently (start sim []) calls :=
  ⟨by decide, link_fifo _ rfl [] _⟩

end LinkHistory

end EthercatSim

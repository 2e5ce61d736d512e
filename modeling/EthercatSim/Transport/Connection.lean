import EthercatSim.Transport.Sessions

/-!
# A master and a server on one connection

Both sides work on the connection at the same time.  A step of `Connection` is one call of
the kernel by one of them: a round of `read_exact_nb` or `write_exact_nb` on the side of
the server, and a `send` or `recv` of `MasterSocket` on the other side.  It may move any
number of bytes.  The steps come in any order, and the stop flag is set at any time.

`written`, `answered` and `returned` are ghosts.  They are the frames that
`MasterSocket::write` has begun to send, those that `processFrame_` has answered, and what
`MasterSocket::read` has returned other than 0.

* `nbRound`: what one round of the two loops of the server comes to.
* `serverStep` and `masterStep`: the next call of each side.
* `Intact`: a call of the master gives up between two messages only.
* `answerAll`: the answers to messages that come one after the other.
-/

namespace EthercatSim

open Bytes StepRun

variable {σ : Type}

namespace SlavesEndpoint

/-! ## One round of `read_exact_nb` and `write_exact_nb` -/

/-- What `poll` returns, whether `revents` has the event that is waited for, and what the
`recv` or `send` behind it moves.  No bytes stand for an error or a closed connection. -/
structure PollAnswer where
  result : Int
  event : Bool
  moved : Nat
  deriving DecidableEq, Repr

/-- How a round ends: the function returns false, or the loop goes on, with bytes or
without. -/
inductive Progress where
  | failed
  | again
  | moved (n : Nat)
  deriving DecidableEq, Repr

/-- The body of the loops of `read_exact_nb` and `write_exact_nb`. -/
def nbRound (stop : Bool) (a : PollAnswer) : Progress :=
  if a.result < 0 then .failed
  else if a.result = 0 then if stop then .failed else .again
  else if !a.event then if stop then .failed else .again
  else if a.moved = 0 then .failed
  else .moved a.moved

/-- Where `handleClient_` is: at the head of its loop, in one of the two reads or the two
writes, or behind it. -/
inductive ServerPhase where
  | head
  | readLength (got : List UInt8)
  | readBody (len : UInt16) (got : List UInt8)
  | writeLength (reply : List UInt8) (sent : Nat)
  | writeReply (reply : List UInt8) (sent : Nat)
  | returned (ok : Bool)
  | undefined
  deriving DecidableEq, Repr

/-- The two checks of the length. -/
def checkLength (beLen : List UInt8) : ServerPhase :=
  if ntohs beLen = 0 ∨ 1500 < ntohs beLen then .returned false else .readBody (ntohs beLen) []

/-- `handleClient_` has not returned. -/
def ServerPhase.Running : ServerPhase → Prop
  | .returned _ => False
  | .undefined => False
  | _ => True

instance : (p : ServerPhase) → Decidable p.Running
  | .returned _ | .undefined => isFalse id
  | .head | .readLength _ | .readBody _ _ | .writeLength _ _ | .writeReply _ _ => isTrue trivial

end SlavesEndpoint

namespace MasterSocket

/-- Where the caller of `MasterSocket` is: between two calls, or in one of the two loops of
`write` or `read`. -/
inductive Phase where
  | idle
  | writeLength (frame : List UInt8) (sent : Nat)
  | writeFrame (frame : List UInt8) (sent : Nat)
  | readLength (size : Nat) (got : List UInt8)
  | readBody (size : Nat) (len : UInt16) (got : List UInt8)
  deriving DecidableEq, Repr

/-- A call of `read` with a buffer of `size` bytes: its result, and the frame that it
stores. -/
structure ReadCall where
  size : Nat
  result : Int
  frame : List UInt8
  deriving DecidableEq, Repr

/-- The end of a call of `read` that has received `frame`.  A frame longer than the buffer
is dropped. -/
def readCall (size : Nat) (len : UInt16) (frame : List UInt8) : ReadCall :=
  if UInt16.ofNat size < len then { size, result := -1, frame := [] }
  else { size, result := len.toNat, frame }

@[simp] theorem readCall_size (size : Nat) (len : UInt16) (frame : List UInt8) :
    (readCall size len frame).size = size := by
  rw [readCall]
  split <;> rfl

end MasterSocket

open SlavesEndpoint

/-- Both sides, and the bytes on the way. -/
structure Connection (σ : Type) where
  sim : NetworkSimulator σ
  stop : Bool
  server : ServerPhase
  master : MasterSocket.Phase
  toServer : List UInt8
  toMaster : List UInt8
  written : List (List UInt8)
  answered : List (List UInt8)
  returned : List MasterSocket.ReadCall

/-- What happens next: the stop flag is set, the server makes its next call, the master
begins a call or makes its next `send` or `recv`, or the kernel drops what is in flight
behind the end of the session. -/
inductive ConnectionEvent where
  | stop
  | server (a : PollAnswer)
  | write (frame : List UInt8)
  | read (size : Nat)
  | master (moved : Nat)
  | reset
  deriving DecidableEq, Repr

namespace Connection

/-- A client has connected. -/
def start (sim : NetworkSimulator σ) (stop : Bool) : Connection σ where
  sim
  stop
  server := .head
  master := .idle
  toServer := []
  toMaster := []
  written := []
  answered := []
  returned := []

/-- What arrives of the bytes in flight when `n` bytes are moved and some of `len` bytes are
there already. -/
def arriving (flight got : List UInt8) (len n : Nat) : List UInt8 :=
  flight.take (min n (len - got.length))

/-- What leaves of `bytes` when `n` bytes are moved and some are sent already. -/
def leaving (bytes : List UInt8) (sent n : Nat) : List UInt8 := (bytes.drop sent).take n

/-! ## The server -/

section Step

variable [SlaveDevice σ] (frames : Nat → KickcatFrame) (rounds : Nat)

/-- `processFrame_` and `runOnce` on a message. -/
def processed (c : Connection σ) (buf : List UInt8) : Connection σ :=
  match answer (frames c.answered.length) rounds c.sim buf with
  | none => { c with server := .undefined }
  | some (sim, reply) =>
    { c with sim, answered := c.answered ++ [reply], server := .writeLength reply 0 }

/-- `n` bytes are moved in the loop that the server is in. -/
def serverMoved (c : Connection σ) (n : Nat) : Connection σ :=
  match c.server with
  | .readLength got =>
    let bytes := arriving c.toServer got 2 n
    let c := { c with toServer := c.toServer.drop bytes.length }
    if (got ++ bytes).length < 2 then { c with server := .readLength (got ++ bytes) }
    else { c with server := checkLength (got ++ bytes) }
  | .readBody len got =>
    let bytes := arriving c.toServer got len.toNat n
    let c := { c with toServer := c.toServer.drop bytes.length }
    if (got ++ bytes).length < len.toNat then { c with server := .readBody len (got ++ bytes) }
    else processed frames rounds c (got ++ bytes)
  | .writeLength reply sent =>
    let bytes := leaving (lengthPrefix reply.length) sent n
    { c with
      toMaster := c.toMaster ++ bytes
      server := if sent + bytes.length < 2 then .writeLength reply (sent + bytes.length)
        else .writeReply reply 0 }
  | .writeReply reply sent =>
    let bytes := leaving reply sent n
    { c with
      toMaster := c.toMaster ++ bytes
      server := if sent + bytes.length < reply.length then .writeReply reply (sent + bytes.length)
        else .head }
  | .head | .returned _ | .undefined => c

/-- The next call of the server.  Behind a loop that failed the flag is read again. -/
def serverStep (c : Connection σ) (a : PollAnswer) : Connection σ :=
  match c.server with
  | .head => { c with server := if c.stop then .returned true else .readLength [] }
  | .returned _ | .undefined => c
  | _ =>
    match nbRound c.stop a with
    | .failed => { c with server := .returned c.stop }
    | .again => c
    | .moved n => serverMoved frames rounds c n

/-! ## The master -/

/-- Where `write` is when `sent` bytes of the length prefix are sent. -/
def writePhase (frame : List UInt8) (sent : Nat) : MasterSocket.Phase :=
  if sent < 2 then .writeLength frame sent
  else if frame = [] then .idle
  else .writeFrame frame 0

/-- `read` has all bytes of the frame.  A result of 0 is not kept. -/
def finishRead (c : Connection σ) (size : Nat) (len : UInt16) (frame : List UInt8) :
    Connection σ :=
  { c with
    master := .idle
    returned :=
      if len = 0 then c.returned else c.returned ++ [MasterSocket.readCall size len frame] }

/-- `send` or `recv` returns `moved` bytes; with none the call gives up.  A call of `read`
that gives up while it drops a frame returns -1 nonetheless. -/
def masterStep (c : Connection σ) (moved : Nat) : Connection σ :=
  match c.master with
  | .idle => c
  | .writeLength frame sent =>
    if moved = 0 then { c with master := .idle }
    else
      let bytes := leaving (lengthPrefix frame.length) sent moved
      { c with
        toServer := c.toServer ++ bytes
        written := if sent = 0 then c.written ++ [frame] else c.written
        master := writePhase frame (sent + bytes.length) }
  | .writeFrame frame sent =>
    if moved = 0 then { c with master := .idle }
    else
      let bytes := leaving frame sent moved
      { c with
        toServer := c.toServer ++ bytes
        master := if sent + bytes.length < frame.length then .writeFrame frame (sent + bytes.length)
          else .idle }
  | .readLength size got =>
    if moved = 0 then { c with master := .idle }
    else
      let bytes := arriving c.toMaster got 2 moved
      let c := { c with toMaster := c.toMaster.drop bytes.length }
      if (got ++ bytes).length < 2 then { c with master := .readLength size (got ++ bytes) }
      else if ntohs (got ++ bytes) = 0 then finishRead c size 0 []
      else { c with master := .readBody size (ntohs (got ++ bytes)) [] }
  | .readBody size len got =>
    if moved = 0 then
      if UInt16.ofNat size < len then finishRead c size len got else { c with master := .idle }
    else
      let bytes := arriving c.toMaster got len.toNat moved
      let c := { c with toMaster := c.toMaster.drop bytes.length }
      if (got ++ bytes).length < len.toNat then
        { c with master := .readBody size len (got ++ bytes) }
      else finishRead c size len (got ++ bytes)

/-- One step.  A call begins when the one before has returned. -/
def step (c : Connection σ) : ConnectionEvent → Connection σ
  | .stop => { c with stop := true }
  | .server a => serverStep frames rounds c a
  | .write frame => if c.master = .idle then { c with master := .writeLength frame 0 } else c
  | .read size => if c.master = .idle then { c with master := .readLength size [] } else c
  | .master moved => masterStep c moved
  | .reset => if c.server.Running then c else { c with toServer := [], toMaster := [] }

end Step

/-- A call of the master that is in phase `p` may give up: it has moved nothing, or the
session is over and nothing is left to receive. -/
def MayGiveUp (c : Connection σ) : MasterSocket.Phase → Prop
  | .idle => True
  | .writeLength _ sent => sent = 0 ∨ ¬c.server.Running
  | .writeFrame _ _ => ¬c.server.Running
  | .readLength _ got => got = [] ∨ ¬c.server.Running ∧ c.toMaster = []
  | .readBody _ _ _ => ¬c.server.Running ∧ c.toMaster = []

instance (c : Connection σ) : (p : MasterSocket.Phase) → Decidable (c.MayGiveUp p)
  | .idle => isTrue trivial
  | .writeLength _ sent => inferInstanceAs (Decidable (sent = 0 ∨ ¬c.server.Running))
  | .writeFrame _ _ => inferInstanceAs (Decidable (¬c.server.Running))
  | .readLength _ got =>
    inferInstanceAs (Decidable (got = [] ∨ ¬c.server.Running ∧ c.toMaster = []))
  | .readBody _ _ _ => inferInstanceAs (Decidable (¬c.server.Running ∧ c.toMaster = []))

/-- A call of the master gives up only when it may, and no frame is longer than its length
prefix can say. -/
def Intact (c : Connection σ) : ConnectionEvent → Prop
  | .write frame => frame.length ≤ 65535
  | .master moved => moved = 0 → c.MayGiveUp c.master
  | _ => True

instance (c : Connection σ) : (event : ConnectionEvent) → Decidable (c.Intact event)
  | .write frame => inferInstanceAs (Decidable (frame.length ≤ 65535))
  | .master moved => inferInstanceAs (Decidable (moved = 0 → c.MayGiveUp c.master))
  | .stop | .server _ | .read _ | .reset => isTrue trivial

/-! ## What was answered -/

section Answers

variable [SlaveDevice σ] (frames : Nat → KickcatFrame) (rounds : Nat)

/-- The next message, behind those that are answered. -/
def answerNext (out : NetworkSimulator σ × List (List UInt8)) (m : List UInt8) :
    Option (NetworkSimulator σ × List (List UInt8)) :=
  (answer (frames out.2.length) rounds out.1 m).map fun next => (next.1, out.2 ++ [next.2])

/-- The messages `ms` one after the other: the simulator behind them, and the answers. -/
def answerAll (sim : NetworkSimulator σ) (ms : List (List UInt8)) :
    Option (NetworkSimulator σ × List (List UInt8)) :=
  ms.foldlM (answerNext frames rounds) (sim, [])

theorem answerAll_concat (sim : NetworkSimulator σ) (ms : List (List UInt8)) (m : List UInt8) :
    answerAll frames rounds sim (ms ++ [m]) =
      (answerAll frames rounds sim ms).bind fun out => answerNext frames rounds out m := by
  rw [answerAll, List.foldlM_append]
  refine congrArg (Option.bind _) ?_
  funext out
  exact List.foldlM_cons.trans (Option.bind_fun_some _)

/-- Every message has an answer of its length. -/
theorem map_length_answerAll {sim sim' : NetworkSimulator σ} {ms outs : List (List UInt8)}
    (h : answerAll frames rounds sim ms = some (sim', outs)) :
    outs.map List.length = ms.map List.length := by
  induction ms using List.reverseRecOn generalizing sim' outs with
  | nil =>
    obtain ⟨-, rfl⟩ := Prod.mk.inj (Option.some.inj h)
    rfl
  | append_singleton ms m ih =>
    rw [answerAll_concat] at h
    obtain ⟨⟨sim₁, outs₁⟩, hms, hm⟩ := Option.bind_eq_some_iff.mp h
    obtain ⟨⟨sim₂, reply⟩, hanswer, heq⟩ := Option.map_eq_some_iff.mp hm
    obtain ⟨-, rfl⟩ := Prod.mk.inj heq
    rw [List.map_append, List.map_append, ih hms]
    exact congrArg (ms.map List.length ++ [·]) (answer_length hanswer)

theorem length_answerAll {sim sim' : NetworkSimulator σ} {ms outs : List (List UInt8)}
    (h : answerAll frames rounds sim ms = some (sim', outs)) : outs.length = ms.length := by
  have hlengths := congrArg List.length (map_length_answerAll frames rounds h)
  rwa [List.length_map, List.length_map] at hlengths

end Answers

/-! ## What a step leaves alone -/

/-- The master touches neither the server nor the flag. -/
theorem masterStep_frame (c : Connection σ) (moved : Nat) :
    (masterStep c moved).server = c.server ∧ (masterStep c moved).stop = c.stop ∧
      (masterStep c moved).answered = c.answered := by
  rw [masterStep]
  split
  · exact ⟨rfl, rfl, rfl⟩
  · split <;> exact ⟨rfl, rfl, rfl⟩
  · split <;> exact ⟨rfl, rfl, rfl⟩
  · split
    · exact ⟨rfl, rfl, rfl⟩
    · simp only []
      split
      · exact ⟨rfl, rfl, rfl⟩
      · split <;> exact ⟨rfl, rfl, rfl⟩
  · split
    · split <;> exact ⟨rfl, rfl, rfl⟩
    · simp only []
      split <;> exact ⟨rfl, rfl, rfl⟩

section Flag

variable [SlaveDevice σ] (frames : Nat → KickcatFrame) (rounds : Nat)

theorem serverMoved_stop (c : Connection σ) (n : Nat) :
    (serverMoved frames rounds c n).stop = c.stop := by
  rw [serverMoved]
  split
  · simp only []
    split <;> rfl
  · simp only []
    split
    · rfl
    · rw [processed]
      split <;> rfl
  all_goals rfl

/-- The server reads the stop flag only. -/
theorem serverStep_stop (c : Connection σ) (a : PollAnswer) :
    (serverStep frames rounds c a).stop = c.stop := by
  rw [serverStep]
  split
  · rfl
  · rfl
  · rfl
  · split
    · rfl
    · rfl
    · exact serverMoved_stop frames rounds c _

end Flag

end Connection

end EthercatSim

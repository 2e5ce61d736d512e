import EthercatSim.Transport.SlavesEndpoint

/-!
# The server loop of `handleClient_`

The whole session with a client: the messages that are cut out of the stream of
bytes, and the replies that are written.  The stop flag stays false.  The stream
may arrive in any chunks, and the socket may take any number of bytes with each
`send`; `send` does not fail.

`kickcat::Frame` is prebuilt.  Here it is a parameter, `KickcatFrame`, so what
holds of the session holds for every behaviour of the class.

* `MaximalPrefix`: the complete messages of 1 to 1500 bytes that a stream begins
  with.
* `replies`: what is to be written for a list of messages.
* `handleClient_eq_replies`: the session writes the replies to the messages of
  the maximal prefix, and nothing more.
* `processFrameWith_ofBuffer`: on the buffer of `Network/Frame.lean` the loop
  over `peekDatagram` is `processMessage`, and `sessionRound_ofBuffer` says that
  the round of the session is `serve`.
-/

namespace EthercatSim

open Bytes

/-- `kickcat::Frame`, as far as `processFrame_` uses it.  A call that C++ gives
no meaning is `none`. -/
structure KickcatFrame where
  Object : Type
  /-- `Frame(frame, frame_size)` -/
  construct : List UInt8 → Object
  /-- `ethernet()->type` -/
  type : Object → UInt16
  setType : Object → UInt16 → Object
  /-- `peekDatagram()`; the inner `none` is a null header. -/
  peekDatagram : Object → Option (Option Datagram × Object)
  /-- What is stored through the pointers `data` and `wkc` of the last call. -/
  store : Object → Datagram → Object
  /-- `data()[i]` -/
  data : Object → Nat → UInt8

variable {σ : Type} [SlaveDevice σ]

namespace SlavesEndpoint

/-! ## `processFrame_` -/

/-- The state of the loop over `peekDatagram`. -/
structure PeekState (K : KickcatFrame) (σ : Type) where
  sim : NetworkSimulator σ
  frame : K.Object

/-- The body of the loop: the result is `true` at the null header, and `false`
where the code has no meaning. -/
def processPeeked (K : KickcatFrame) (s : PeekState K σ) : PeekState K σ × Option Bool :=
  match K.peekDatagram s.frame with
  | none => (s, some false)
  | some (none, frame) => ({ s with frame }, some true)
  | some (some d, frame) =>
    let (sim, d) := interpret s.sim d
    ({ sim, frame := K.store frame d }, none)

/-- The frame in front of the loop: the type field of the Ethernet header is
corrected. -/
def openFrame (K : KickcatFrame) (bytes : List UInt8) : K.Object :=
  let frame := K.construct bytes
  if K.type frame ≠ 0xA488 then K.setType frame 0xA488 else frame

/-- `processFrame_`: the simulator and the bytes that are copied back.  `none`
when the code has no meaning, or has not come to the null header in `rounds`
rounds. -/
def processFrameWith (K : KickcatFrame) (rounds : Nat) (sim : NetworkSimulator σ)
    (bytes : List UInt8) : Option (NetworkSimulator σ × List UInt8) :=
  match FuelLoop.loop (processPeeked K) rounds { sim, frame := openFrame K bytes } with
  | some (s, true) => some (s.sim, (List.range bytes.length).map (K.data s.frame))
  | _ => none

/-- `processFrame_` followed by `runOnce`. -/
def answer (K : KickcatFrame) (rounds : Nat) (sim : NetworkSimulator σ) (buf : List UInt8) :
    Option (NetworkSimulator σ × List UInt8) :=
  match processFrameWith K rounds sim buf with
  | none => none
  | some (sim, buf) =>
    match sim.runOnce with
    | none => none
    | some sim => some (sim, buf)

/-! ## The session -/

/-- The state of the loop of `handleClient_`: `room` is how much the next calls
of `send` accept, `sent` what was written so far. -/
structure Session (σ : Type) where
  sim : NetworkSimulator σ
  wire : Wire UInt8
  room : List Nat
  sent : List UInt8
  messages : Nat

/-- How the session ends: `handleClient_` returns false, or the code has no
meaning. -/
inductive Ending where
  | closed
  | undefined
  deriving DecidableEq, Repr

/-- `write_exact_nb`: what goes out, and the room of the calls that come after. -/
def writeExact (buf : List UInt8) (room : List Nat) : List UInt8 × List Nat := Wire.send buf room

/-- The body of the loop.  `frames k` is the class `kickcat::Frame` as it behaves
at the message `k`: what its buffer holds behind the message may differ. -/
def sessionRound (frames : Nat → KickcatFrame) (rounds : Nat) (s : Session σ) :
    Session σ × Option Ending :=
  match readExact 2 s.wire with
  | (false, _, wire) => ({ s with wire }, some .closed)
  | (true, beLen, wire) =>
    let len := ntohs beLen
    if len = 0 ∨ 1500 < len then ({ s with wire }, some .closed)
    else
      match readExact len.toNat wire with
      | (false, _, wire) => ({ s with wire }, some .closed)
      | (true, buf, wire) =>
        match answer (frames s.messages) rounds s.sim buf with
        | none => ({ s with wire }, some .undefined)
        | some (sim, buf) =>
          let (outLen, room) := writeExact (lengthPrefix buf.length) s.room
          let (out, room) := writeExact buf room
          ({ sim, wire, room, sent := s.sent ++ outLen ++ out, messages := s.messages + 1 }, none)

/-- `handleClient_`: what it writes, and how it ends.  Every round takes a byte
at least. -/
def handleClient (frames : Nat → KickcatFrame) (rounds : Nat) (room : List Nat)
    (slavesCount : Nat) (sim : NetworkSimulator El1258) (w : Wire UInt8) :
    Option (List UInt8 × Ending) :=
  match FuelLoop.loop (sessionRound frames rounds) (w.flatten.length + 1)
    { sim := prepare slavesCount sim, wire := w, room, sent := [], messages := 0 } with
  | some (s, ending) => some (s.sent, ending)
  | none => none

/-! ## The messages and their replies -/

/-- The messages `ms`, one behind the other, are what the stream begins with, and
no message follows them. -/
def MaximalPrefix (bytes : List UInt8) (ms : List Message) : Prop :=
  ∃ tail, bytes = MasterSocket.stream (ms.map Message.bytes) ++ tail ∧
    ∀ (m : Message) (rest : List UInt8), tail ≠ MasterSocket.write m.bytes ++ rest

/-- What is written for the messages `ms`, of which the first has the number `k`:
the length prefix of each message and the frame that `processFrame_` makes of
it, in the simulator that the messages before left.  It ends at the first message
on which the code has no meaning. -/
def replies (frames : Nat → KickcatFrame) (rounds : Nat) :
    Nat → NetworkSimulator σ → List Message → List UInt8 × Ending
  | _, _, [] => ([], .closed)
  | k, sim, m :: ms =>
    match answer (frames k) rounds sim m.bytes with
    | none => ([], .undefined)
    | some (sim, reply) =>
      let (sent, ending) := replies frames rounds (k + 1) sim ms
      (lengthPrefix m.bytes.length ++ reply ++ sent, ending)

/-! ## One message -/

theorem processFrameWith_length {K : KickcatFrame} {rounds : Nat} {sim sim' : NetworkSimulator σ}
    {bytes out : List UInt8} (h : processFrameWith K rounds sim bytes = some (sim', out)) :
    out.length = bytes.length := by
  rw [processFrameWith] at h
  split at h
  · obtain ⟨-, rfl⟩ := Prod.mk.inj (Option.some.inj h)
    rw [List.length_map, List.length_range]
  · cases h

/-- The reply has as many bytes as the message. -/
theorem answer_length {K : KickcatFrame} {rounds : Nat} {sim sim' : NetworkSimulator σ}
    {buf reply : List UInt8} (h : answer K rounds sim buf = some (sim', reply)) :
    reply.length = buf.length := by
  rw [answer] at h
  split at h
  · cases h
  · rename_i hprocess
    split at h
    · cases h
    · obtain ⟨-, rfl⟩ := Prod.mk.inj (Option.some.inj h)
      exact processFrameWith_length hprocess

/-- Two bytes are the prefix of the length that they are read as. -/
theorem lengthPrefix_ntohs {got : List UInt8} (hlength : got.length = 2) :
    lengthPrefix (ntohs got).toNat = got := by
  obtain ⟨hi, lo, rfl⟩ := List.length_eq_two.mp hlength
  rw [lengthPrefix, UInt16.ofNat_toNat]
  show [hiByte (le16 lo hi), loByte (le16 lo hi)] = [hi, lo]
  rw [hiByte_le16, loByte_le16]

/-- `read_exact_nb` gets what it waits for, or the stream ends. -/
theorem readExact_branch (n : Nat) (w : Wire UInt8) :
    (∃ got w', readExact n w = (true, got, w') ∧ got.length = n ∧
      w.flatten = got ++ w'.flatten) ∨
      ∃ got w', readExact n w = (false, got, w') := by
  have houtcome := Wire.receive_outcome true n w
  rw [readExact]
  generalize Wire.receive true n w = out at houtcome
  cases houtcome with
  | @done got w' hlength hflatten _ => exact .inl ⟨got, w', rfl, hlength, hflatten⟩
  | @ended got _ _ => exact .inr ⟨got, [], rfl⟩
  | @timedOut got w' _ _ _ => exact .inr ⟨got, w', rfl⟩

section Round

variable (frames : Nat → KickcatFrame) (rounds : Nat) {s : Session σ}

/-- A message is cut out of the stream, whatever its chunks are, and answered. -/
theorem sessionRound_of_message {m : Message} {tail : List UInt8}
    (hw : s.wire.flatten = MasterSocket.write m.bytes ++ tail) :
    ∃ w', w'.flatten = tail ∧
      ((answer (frames s.messages) rounds s.sim m.bytes = none ∧
        sessionRound frames rounds s = ({ s with wire := w' }, some .undefined)) ∨
      ∃ sim reply room, answer (frames s.messages) rounds s.sim m.bytes = some (sim, reply) ∧
        sessionRound frames rounds s =
          ({ sim, wire := w', room, sent := s.sent ++ (lengthPrefix m.bytes.length ++ reply),
             messages := s.messages + 1 }, none)) := by
  have hmax : m.bytes.length ≤ 1514 := m.short.trans (by omega)
  obtain ⟨w', hlenRead, hw'⟩ := readExact_prefix hw
  obtain ⟨w'', hbody, hw''⟩ := readExact_of_append hw'
  have haccepted : ¬(UInt16.ofNat m.bytes.length = 0 ∨ 1500 < UInt16.ofNat m.bytes.length) := by
    rw [length_rejected_iff m.nonempty hmax]
    exact Nat.not_lt.mpr m.short
  have hlen : (UInt16.ofNat m.bytes.length).toNat = m.bytes.length :=
    toNat_ofNat_of_le (by omega)
  refine ⟨w'', hw'', ?_⟩
  rw [sessionRound, hlenRead]
  simp only [ntohs_lengthPrefix, if_neg haccepted, hlen, hbody]
  rcases hanswer : answer (frames s.messages) rounds s.sim m.bytes with _ | ⟨sim, reply⟩
  · exact .inl ⟨rfl, rfl⟩
  · right
    let room := (writeExact (lengthPrefix reply.length) s.room).2
    refine ⟨sim, reply, (writeExact reply room).2, rfl, ?_⟩
    rw [← answer_length hanswer, ← List.append_assoc]
    simp only [room, writeExact, Wire.send_sent]

/-- Where no message begins, the session ends and nothing is written. -/
theorem sessionRound_of_no_message
    (hw : ∀ (m : Message) (rest : List UInt8),
      s.wire.flatten ≠ MasterSocket.write m.bytes ++ rest) :
    ∃ s', sessionRound frames rounds s = (s', some .closed) ∧ s'.sent = s.sent := by
  rw [sessionRound]
  rcases readExact_branch 2 s.wire with ⟨beLen, w, hlenRead, htwo, hflatten⟩ | ⟨_, w, hlenRead⟩
  · rw [hlenRead]
    simp only []
    by_cases hlen : ntohs beLen = 0 ∨ 1500 < ntohs beLen
    · rw [if_pos hlen]
      exact ⟨_, rfl, rfl⟩
    · rw [if_neg hlen]
      rcases readExact_branch (ntohs beLen).toNat w with
        ⟨buf, w', hbody, hlength, hflatten'⟩ | ⟨_, w', hbody⟩
      · -- both reads succeed, so a message begins here
        exfalso
        have hpos : 1 ≤ buf.length := by
          have hne : (ntohs beLen).toNat ≠ 0 := fun hc =>
            hlen (.inl (UInt16.toNat_inj.mp hc))
          omega
        have hshort : buf.length ≤ 1500 := by
          have hle : ¬1500 < (ntohs beLen).toNat := fun hc =>
            hlen (.inr (UInt16.lt_iff_toNat_lt.mpr hc))
          omega
        apply hw ⟨buf, hpos, hshort⟩ w'.flatten
        show s.wire.flatten = lengthPrefix buf.length ++ buf ++ w'.flatten
        rw [hlength, lengthPrefix_ntohs htwo, List.append_assoc, ← hflatten']
        exact hflatten
      · rw [hbody]
        exact ⟨_, rfl, rfl⟩
  · rw [hlenRead]
    exact ⟨_, rfl, rfl⟩

/-- The session writes the replies to the messages, when no message follows
them. -/
theorem loop_sessionRound {ms : List Message} {tail : List UInt8}
    (hw : s.wire.flatten = MasterSocket.stream (ms.map Message.bytes) ++ tail)
    (htail : ∀ (m : Message) (rest : List UInt8), tail ≠ MasterSocket.write m.bytes ++ rest)
    {fuel : Nat} (hfuel : ms.length < fuel) :
    ∃ s', FuelLoop.loop (sessionRound frames rounds) fuel s =
        some (s', (replies frames rounds s.messages s.sim ms).2) ∧
      s'.sent = s.sent ++ (replies frames rounds s.messages s.sim ms).1 := by
  induction ms generalizing s fuel with
  | nil =>
    obtain ⟨fuel, rfl⟩ := Nat.exists_eq_add_one_of_ne_zero (Nat.ne_zero_of_lt hfuel)
    rw [List.map_nil, MasterSocket.stream_nil, List.nil_append] at hw
    rw [← hw] at htail
    obtain ⟨s', hround, hsent⟩ := sessionRound_of_no_message frames rounds htail
    refine ⟨s', FuelLoop.loop_exit hround fuel, ?_⟩
    rw [hsent, replies, List.append_nil]
  | cons m ms ih =>
    obtain ⟨fuel, rfl⟩ := Nat.exists_eq_add_one_of_ne_zero (Nat.ne_zero_of_lt hfuel)
    have hmessage : s.wire.flatten = MasterSocket.write m.bytes ++
        (MasterSocket.stream (ms.map Message.bytes) ++ tail) := by
      rw [hw, List.map_cons, MasterSocket.stream_cons, MasterSocket.write]
      simp only [List.append_assoc]
    obtain ⟨w', hw', ⟨hanswer, hround⟩ | ⟨sim, reply, room, hanswer, hround⟩⟩ :=
      sessionRound_of_message frames rounds hmessage
    · refine ⟨{ s with wire := w' }, ?_, ?_⟩
      · rw [FuelLoop.loop_exit hround, replies, hanswer]
      · rw [replies, hanswer, List.append_nil]
    · rw [List.length_cons] at hfuel
      let s'' : Session σ := { sim, wire := w', room,
                               sent := s.sent ++ (lengthPrefix m.bytes.length ++ reply),
                               messages := s.messages + 1 }
      obtain ⟨s', hloop, hsent⟩ := @ih s'' hw' fuel (by omega)
      refine ⟨s', ?_, ?_⟩
      · rw [FuelLoop.loop_next hround, hloop, replies, hanswer]
      · rw [hsent, replies, hanswer]
        exact List.append_assoc s.sent (lengthPrefix m.bytes.length ++ reply) _

end Round

/-! ## The class on a buffer -/

/-- The buffer, the offset of the last datagram and the offset of the next one. -/
structure BufferedFrame where
  buffer : FrameBuffer
  current : Nat
  next : Option Nat

end SlavesEndpoint

/-- The class `kickcat::Frame` as `Network/Frame.lean` describes it.  `rest` is
what the buffer holds before the message is copied. -/
def KickcatFrame.ofBuffer (rest : FrameBuffer) : KickcatFrame where
  Object := SlavesEndpoint.BufferedFrame
  construct bytes := { buffer := frameBuffer rest bytes, current := 16, next := some 16 }
  type f := f.buffer.word 12
  setType f v := { f with buffer := f.buffer.setWord 12 v }
  peekDatagram f :=
    match f.next with
    | none => some (none, f)
    | some off =>
      if 1518 < off + 10 then none
      else if 1518 < f.buffer.next off then none
      else
        let next := if f.buffer.multiple off then some (f.buffer.next off) else none
        some (some (f.buffer.datagram off), { f with current := off, next })
  store f d := { f with buffer := f.buffer.putDatagram f.current d }
  data f i := f.buffer.get i

namespace SlavesEndpoint

/-- The state of the loop over `peekDatagram` in front of a datagram. -/
def FrameState.peek (rest : FrameBuffer) (s : FrameState σ) (current : Nat) :
    PeekState (.ofBuffer rest) σ :=
  { sim := s.sim, frame := { buffer := s.buffer, current, next := some s.off } }

/-- One round of the loop over `peekDatagram`. -/
theorem processPeeked_ofBuffer (rest : FrameBuffer) (s : FrameState σ) (current : Nat) :
    (1518 < s.buffer.next s.off ∧
      processPeeked (.ofBuffer rest) (FrameState.peek rest s current) =
        (FrameState.peek rest s current, some false)) ∨
      (s.buffer.next s.off ≤ 1518 ∧
        processPeeked (.ofBuffer rest) (FrameState.peek rest s current) =
          ({ sim := (advance s).sim,
             frame := { buffer := (advance s).buffer, current := s.off,
                        next := if s.buffer.multiple s.off then some (advance s).off
                          else none } }, none)) := by
  have hpeek : (KickcatFrame.ofBuffer rest).peekDatagram (FrameState.peek rest s current).frame =
      if 1518 < s.off + 10 then none
      else if 1518 < s.buffer.next s.off then none
      else some (some (s.buffer.datagram s.off),
        { buffer := s.buffer, current := s.off,
          next := if s.buffer.multiple s.off then some (s.buffer.next s.off) else none }) := rfl
  rcases Nat.lt_or_ge 1518 (s.buffer.next s.off) with hout | hfit
  · left
    rw [if_pos hout, ite_self] at hpeek
    refine ⟨hout, ?_⟩
    rw [processPeeked, hpeek]
  · right
    have hheader : ¬1518 < s.off + 10 := by
      unfold FrameBuffer.next at hfit
      omega
    rw [if_neg hheader, if_neg (Nat.not_lt.mpr hfit)] at hpeek
    refine ⟨hfit, ?_⟩
    rw [processPeeked, hpeek]
    rfl

/-- The loop over `peekDatagram` does what the loop over the buffer does, with
one round more for the null header. -/
theorem loop_processPeeked (rest : FrameBuffer) {fuel : Nat} {s s' : FrameState σ} {inside : Bool}
    (h : FuelLoop.loop processDatagram fuel s = some (s', inside)) (current : Nat) :
    ∃ t : PeekState (.ofBuffer rest) σ,
      FuelLoop.loop (processPeeked (.ofBuffer rest)) (fuel + 1) (FrameState.peek rest s current) =
        some (t, inside) ∧ t.sim = s'.sim ∧ t.frame.buffer = s'.buffer := by
  induction fuel generalizing s current with
  | zero => cases h
  | succ fuel ih =>
    rcases processPeeked_ofBuffer rest s current with ⟨hout, hround⟩ | ⟨hfit, hround⟩
    · have hbody : processDatagram s = (s, some false) := by
        rw [processDatagram, if_pos hout, ite_self]
      rw [FuelLoop.loop_exit hbody] at h
      obtain ⟨rfl, rfl⟩ := Prod.mk.inj (Option.some.inj h)
      exact ⟨_, FuelLoop.loop_exit hround (fuel + 1), rfl, rfl⟩
    · have hbody := processDatagram_of_fits hfit
      rw [FuelLoop.loop_next hround]
      cases hmultiple : s.buffer.multiple s.off with
      | false =>
        -- the next call of `peekDatagram` gives the null header
        let last : PeekState (.ofBuffer rest) σ :=
          { sim := (advance s).sim,
            frame := { buffer := (advance s).buffer, current := s.off, next := none } }
        have hnull : processPeeked (.ofBuffer rest) last = (last, some true) := rfl
        rw [hmultiple] at hbody
        rw [FuelLoop.loop_exit hbody] at h
        obtain ⟨rfl, rfl⟩ := Prod.mk.inj (Option.some.inj h)
        exact ⟨last, FuelLoop.loop_exit hnull fuel, rfl, rfl⟩
      | true =>
        rw [hmultiple] at hbody
        rw [FuelLoop.loop_next hbody] at h
        exact ih h s.off

theorem openFrame_ofBuffer (rest : FrameBuffer) (bytes : List UInt8) :
    openFrame (.ofBuffer rest) bytes =
      BufferedFrame.mk (correctType (frameBuffer rest bytes)) 16 (some 16) := by
  show (if (frameBuffer rest bytes).word 12 ≠ 0xA488 then
    BufferedFrame.mk ((frameBuffer rest bytes).setWord 12 0xA488) 16 (some 16)
    else BufferedFrame.mk (frameBuffer rest bytes) 16 (some 16)) = _
  rw [correctType]
  split <;> rfl

/-- On this class `processFrame_` is `processMessage`: 1520 rounds are enough. -/
theorem processFrameWith_ofBuffer (rest : FrameBuffer) {rounds : Nat} (hrounds : 1520 ≤ rounds)
    (sim : NetworkSimulator σ) (bytes : List UInt8) :
    processFrameWith (.ofBuffer rest) rounds sim bytes = processMessage sim rest bytes := by
  let start : FrameState σ := { sim, buffer := correctType (frameBuffer rest bytes), off := 16 }
  obtain ⟨⟨s, inside⟩, hloop⟩ := Option.isSome_iff_exists.mp (loop_processDatagram_isSome start)
  obtain ⟨t, hpeeked, hsim, hbuffer⟩ := loop_processPeeked rest hloop 16
  have hfuel := FuelLoop.loop_add hpeeked (rounds - 1520)
  rw [Nat.add_sub_cancel' hrounds] at hfuel
  have hdata : (List.range bytes.length).map ((KickcatFrame.ofBuffer rest).data t.frame) =
      s.buffer.load 0 bytes.length := by
    rw [← hbuffer, Cells.load]
    apply List.map_congr_left
    intro i _
    rw [Nat.zero_add]
    rfl
  have hpeek :
      PeekState.mk sim (openFrame (.ofBuffer rest) bytes) = FrameState.peek rest start 16 :=
    congrArg (PeekState.mk sim) (openFrame_ofBuffer rest bytes)
  rw [processFrameWith, hpeek, processMessage, hloop, hfuel]
  cases inside with
  | false => rfl
  | true => exact congrArg some (Prod.ext hsim hdata)

/-- The round of the session on this class is `serve`. -/
theorem sessionRound_ofBuffer (rests : Nat → FrameBuffer) {rounds : Nat} (hrounds : 1520 ≤ rounds)
    (s : Session σ) :
    match serve (rests s.messages) s.sim s.wire with
    | .closed => (sessionRound (fun k => .ofBuffer (rests k)) rounds s).2 = some .closed
    | .undefined => (sessionRound (fun k => .ofBuffer (rests k)) rounds s).2 = some .undefined
    | .answered sim reply wire =>
      ∃ room, sessionRound (fun k => .ofBuffer (rests k)) rounds s =
        ({ sim, wire, room, sent := s.sent ++ reply, messages := s.messages + 1 }, none) := by
  rw [serve, sessionRound]
  rcases readExact 2 s.wire with ⟨_ | _, beLen, w⟩
  · rfl
  simp only []
  by_cases hlen : ntohs beLen = 0 ∨ 1500 < ntohs beLen
  · rw [if_pos hlen, if_pos hlen]
  rw [if_neg hlen, if_neg hlen]
  rcases readExact (ntohs beLen).toNat w with ⟨_ | _, buf, w'⟩
  · rfl
  simp only [answer, processFrameWith_ofBuffer _ hrounds]
  rcases processMessage s.sim (rests s.messages) buf with _ | ⟨sim, out⟩
  · rfl
  simp only []
  rcases sim.runOnce with _ | sim
  · rfl
  · refine ⟨(writeExact out (writeExact (lengthPrefix out.length) s.room).2).2, ?_⟩
    rw [← List.append_assoc]
    simp only [writeExact, Wire.send_sent]

/-- On this class, when the datagrams of every message stay inside the buffer and
no inputs are mapped, every message is answered with one message of its length. -/
theorem replies_ofBuffer (rests : Nat → FrameBuffer) {rounds : Nat} (hrounds : 1520 ≤ rounds)
    {ms : List Message} {k : Nat}
    (hchain : ∀ i m, ms[i]? = some m → ChainFits (frameBuffer (rests (k + i)) m.bytes) 16)
    {sim : NetworkSimulator σ} (hmaps : sim.inputMaps = []) :
    ∃ outs, replies (fun k => .ofBuffer (rests k)) rounds k sim ms =
        (MasterSocket.stream outs, .closed) ∧
      outs.map List.length = ms.map fun m => m.bytes.length := by
  induction ms generalizing k sim with
  | nil => exact ⟨[], rfl, rfl⟩
  | cons m ms ih =>
    obtain ⟨ds, hds⟩ := hchain 0 m rfl
    obtain ⟨out, hprocess, hlength⟩ := processMessage_of_chain hds sim
    have hprocessed := (AccessStep.processFrame sim ds).inputMaps_eq.trans hmaps
    obtain ⟨sim', hrun, hmaps'⟩ := runOnce_of_inputMaps_nil hprocessed
    have hanswer : answer (.ofBuffer (rests k)) rounds sim m.bytes = some (sim', out) := by
      rw [answer, processFrameWith_ofBuffer _ hrounds, ← Nat.add_zero k, hprocess]
      simp only [hrun]
    have htail : ∀ i m', ms[i]? = some m' →
        ChainFits (frameBuffer (rests (k + 1 + i)) m'.bytes) 16 := by
      intro i m' hi
      rw [Nat.add_right_comm]
      exact hchain (i + 1) m' hi
    obtain ⟨outs, hreplies, hlengths⟩ := ih htail hmaps'
    refine ⟨out :: outs, ?_, ?_⟩
    · rw [replies, hanswer]
      simp only [hreplies]
      rw [MasterSocket.stream_cons, hlength, List.append_assoc]
    · rw [List.map_cons, List.map_cons, hlengths, hlength]

/-! ## The maximal prefix -/

/-- Every stream begins with a maximal number of messages.  The induction is on
the length of the stream. -/
theorem exists_maximalPrefix (bytes : List UInt8) : ∃ ms, MaximalPrefix bytes ms := by
  induction hn : bytes.length using Nat.strongRecOn generalizing bytes with
  | ind n ih =>
    by_cases hmessage : ∃ (m : Message) (rest : List UInt8),
        bytes = MasterSocket.write m.bytes ++ rest
    · obtain ⟨m, rest, rfl⟩ := hmessage
      have hshorter : rest.length < n := by
        rw [← hn, MasterSocket.write]
        simp only [List.length_append, length_lengthPrefix]
        omega
      obtain ⟨ms, tail, hrest, htail⟩ := ih rest.length hshorter rest rfl
      refine ⟨m :: ms, tail, ?_, htail⟩
      rw [hrest, List.map_cons, MasterSocket.stream_cons, MasterSocket.write]
      simp only [List.append_assoc]
    · refine ⟨[], bytes, rfl, ?_⟩
      intro m rest hbytes
      exact hmessage ⟨m, rest, hbytes⟩

/-- Every message takes a byte at least. -/
theorem length_le_length_stream (ms : List Message) :
    ms.length ≤ (MasterSocket.stream (ms.map Message.bytes)).length := by
  induction ms with
  | nil => exact Nat.le_refl 0
  | cons m ms ih =>
    rw [List.map_cons, MasterSocket.stream_cons]
    simp only [List.length_append, List.length_cons, length_lengthPrefix]
    omega

/-- No message begins where the length is 0 or above 1500. -/
theorem no_message_of_rejected {hi lo : UInt8}
    (h : ntohs [hi, lo] = 0 ∨ 1500 < ntohs [hi, lo]) (bytes : List UInt8) (m : Message)
    (rest : List UInt8) : hi :: lo :: bytes ≠ MasterSocket.write m.bytes ++ rest := by
  intro hbytes
  have hfirst : [hi, lo] = lengthPrefix m.bytes.length := by
    have htake := congrArg (List.take 2) hbytes
    rwa [MasterSocket.write, List.append_assoc, List.take_left' (length_lengthPrefix _)] at htake
  have hmax : m.bytes.length ≤ 1514 := m.short.trans (by omega)
  rw [hfirst, ntohs_lengthPrefix, length_rejected_iff m.nonempty hmax] at h
  exact Nat.not_lt.mpr m.short h

/-- The whole session, from the simulator that it starts in. -/
theorem handleClient_of_maximalPrefix (frames : Nat → KickcatFrame) (rounds : Nat)
    (room : List Nat) (slavesCount : Nat) (sim : NetworkSimulator El1258) {w : Wire UInt8}
    {ms : List Message} (hms : MaximalPrefix w.flatten ms) :
    handleClient frames rounds room slavesCount sim w =
      some (replies frames rounds 0 (prepare slavesCount sim) ms) := by
  obtain ⟨tail, hw, htail⟩ := hms
  have hfuel : ms.length < w.flatten.length + 1 := by
    have hle := length_le_length_stream ms
    rw [hw, List.length_append]
    omega
  let start : Session El1258 :=
    { sim := prepare slavesCount sim, wire := w, room, sent := [], messages := 0 }
  obtain ⟨s, hloop, hsent⟩ := loop_sessionRound frames rounds (s := start) hw htail hfuel
  rw [handleClient, hloop]
  show some (s.sent, _) = _
  rw [hsent]
  rfl

/-- For every stream, however it is cut into chunks, and however much the socket
accepts with each `send`: the session ends, and it wrote the replies to the
messages of the maximal prefix. -/
theorem handleClient_eq_replies (frames : Nat → KickcatFrame) (rounds : Nat) (room : List Nat)
    (slavesCount : Nat) (sim : NetworkSimulator El1258) (w : Wire UInt8) :
    (∃ ms, MaximalPrefix w.flatten ms) ∧
      ∀ ms, MaximalPrefix w.flatten ms →
        handleClient frames rounds room slavesCount sim w =
          some (replies frames rounds 0 (prepare slavesCount sim) ms) :=
  ⟨exists_maximalPrefix w.flatten, fun _ hms =>
    handleClient_of_maximalPrefix frames rounds room slavesCount sim hms⟩

/-- Two messages, cut inside the prefix and inside a body, and a message of
length 0 behind them. -/
theorem handleClient_two_messages :
    handleClient (fun _ => .ofBuffer (Cells.fill 0)) 1520 [1, 0, 2] 1
        (NetworkSimulator.new (El1258Slave.new 0 0 0)) [[0], [1, 7], [], [0, 2, 8], [9, 0, 0, 5]] =
      some ([0, 1, 7, 0, 2, 8, 9], .closed) := by
  have hmessages : MaximalPrefix [0, 1, 7, 0, 2, 8, 9, 0, 0, 5]
      [⟨[7], by decide, by decide⟩, ⟨[8, 9], by decide, by decide⟩] :=
    ⟨[0, 0, 5], rfl, no_message_of_rejected (by decide) [5]⟩
  rw [(handleClient_eq_replies (fun _ => .ofBuffer (Cells.fill 0)) 1520 [1, 0, 2] 1
    (NetworkSimulator.new (El1258Slave.new 0 0 0)) [[0], [1, 7], [], [0, 2, 8], [9, 0, 0, 5]]).2
    _ hmessages]
  decide +kernel

end SlavesEndpoint

end EthercatSim

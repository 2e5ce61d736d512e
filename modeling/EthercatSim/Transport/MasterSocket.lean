import EthercatSim.Lib.Bytes
import EthercatSim.Lib.Wire

/-!
# `MasterSocket`

The model of `read` and `write` of `apps/master/bus/master_socket.cpp`, on an
open socket.  Each frame is sent with a length prefix of 16 bits in network
order, to preserve message boundaries on the stream.

A receive timeout is an empty entry of the wire.  `readAll_` gives up at a
timeout, and `read` then returns 0 and forgets what was received.  So a message
is lost in part when the timeout falls inside it.

* `InSync`: what arrives are the messages of the frames, and every timeout falls
  between two of them.
* `read_branch`: one call of `read` in such a state returns 0, or the next frame.
* `returned_isPrefix`: the frames that any number of calls return are the first
  ones that were sent.
* `returned_timeout_inside`: a timeout behind the length prefix.
-/

namespace EthercatSim

open Bytes

/-- `htons` of a length, as the bytes that are sent.  The length is cast to 16
bits. -/
def lengthPrefix (n : Nat) : List UInt8 :=
  [hiByte (UInt16.ofNat n), loByte (UInt16.ofNat n)]

/-- `ntohs` of the two bytes received. -/
def ntohs (bytes : List UInt8) : UInt16 := le16 (bytes.getD 1 0) (bytes.getD 0 0)

@[simp] theorem length_lengthPrefix (n : Nat) : (lengthPrefix n).length = 2 := rfl

@[simp] theorem ntohs_lengthPrefix (n : Nat) : ntohs (lengthPrefix n) = UInt16.ofNat n :=
  le16_loByte_hiByte _

theorem toNat_ofNat_of_le {n : Nat} (h : n ≤ 1518) : (UInt16.ofNat n).toNat = n := by
  rw [UInt16.toNat_ofNat']
  omega

namespace MasterSocket

/-- The bytes that `write` sends. -/
def write (frame : List UInt8) : List UInt8 := lengthPrefix frame.length ++ frame

/-- `readAll_` -/
def readAll (len : Nat) (w : Wire UInt8) : Bool × List UInt8 × Wire UInt8 :=
  Wire.receive false len w

/-- `read`: the value that it returns, and the bytes of the frame. -/
def read (frameSize : Nat) (w : Wire UInt8) : Int × List UInt8 × Wire UInt8 :=
  match readAll 2 w with
  | (false, _, w) => (0, [], w)
  | (true, beLen, w) =>
    let len := ntohs beLen
    if UInt16.ofNat frameSize < len then
      -- read and drop
      let (_, _, w) := readAll len.toNat w
      (-1, [], w)
    else
      match readAll len.toNat w with
      | (false, _, w) => (0, [], w)
      | (true, frame, w) => (len.toNat, frame, w)

/-- What successive calls `read(buf, 1518)` return. -/
def reads : Nat → Wire UInt8 → List (Int × List UInt8)
  | 0, _ => []
  | k + 1, w =>
    let (n, frame, w) := read 1518 w
    (n, frame) :: reads k w

/-- The same without the calls that return 0. -/
def returned (k : Nat) (w : Wire UInt8) : List (Int × List UInt8) :=
  (reads k w).filter fun r => r.1 ≠ 0

/-! ## Messages on the stream -/

/-- The messages of `frames` one behind the other. -/
def stream (frames : List (List UInt8)) : List UInt8 := (frames.map write).flatten

@[simp] theorem stream_nil : stream [] = [] := rfl

theorem stream_cons (f : List UInt8) (frames : List (List UInt8)) :
    stream (f :: frames) = lengthPrefix f.length ++ (f ++ stream frames) := by
  rw [stream, List.map_cons, List.flatten_cons, write, List.append_assoc]
  rfl

/-- A whole number of messages is nothing, or has the first message whole. -/
theorem stream_take (frames : List (List UInt8)) (k : Nat) :
    stream (frames.take k) = [] ∨
      ∃ f rest j, frames = f :: rest ∧
        stream (frames.take k) = lengthPrefix f.length ++ (f ++ stream (rest.take j)) := by
  cases frames with
  | nil => exact .inl (by rw [List.take_nil, stream_nil])
  | cons f rest =>
    cases k with
    | zero => exact .inl rfl
    | succ j => exact .inr ⟨f, rest, j, rfl, stream_cons f (rest.take j)⟩

/-- Every timeout falls where the bytes received before it are a whole number of
messages. -/
def TimeoutsBetween (frames : List (List UInt8)) (w : Wire UInt8) : Prop :=
  ∀ i, i < w.length → w[i]? = some [] →
    ∃ k, k < frames.length + 1 ∧ (w.take i).flatten = stream (frames.take k)

instance (frames : List (List UInt8)) (w : Wire UInt8) : Decidable (TimeoutsBetween frames w) :=
  inferInstanceAs (Decidable (∀ i, i < w.length → w[i]? = some [] →
    ∃ k, k < frames.length + 1 ∧ (w.take i).flatten = stream (frames.take k)))

/-- What arrives are the messages of `frames`, with timeouts between them only. -/
structure InSync (frames : List (List UInt8)) (w : Wire UInt8) : Prop where
  flatten : w.flatten = stream frames
  timeouts : ∀ before after, w = before ++ [] :: after →
    ∃ k, before.flatten = stream (frames.take k)

theorem inSync_of_timeoutsBetween {frames : List (List UInt8)} {w : Wire UInt8}
    (hflatten : w.flatten = stream frames) (h : TimeoutsBetween frames w) : InSync frames w := by
  refine ⟨hflatten, ?_⟩
  intro before after hw
  have hlength : before.length < w.length := by
    rw [hw, List.length_append, List.length_cons]
    omega
  have hentry : w[before.length]? = some [] := by
    rw [hw, List.getElem?_append_right (Nat.le_refl _), Nat.sub_self, List.getElem?_cons_zero]
  obtain ⟨k, -, hk⟩ := h before.length hlength hentry
  rw [hw, List.take_left] at hk
  exact ⟨k, hk⟩

/-- A timeout comes when nothing of the first message was received, or all of
it. -/
theorem InSync.got_of_timeout {frames : List (List UInt8)} {w w' : Wire UInt8}
    {got : List UInt8} (h : InSync frames w) (hgot : Wire.Received w got ([] :: w')) :
    got = [] ∨ ∃ f rest j, frames = f :: rest ∧
      got = lengthPrefix f.length ++ (f ++ stream (rest.take j)) := by
  obtain ⟨before, hw, hbefore⟩ := hgot.timeouts [] w' rfl
  obtain ⟨k, hk⟩ := h.timeouts before w' hw
  rw [List.flatten_nil, List.append_nil] at hbefore
  rw [← hbefore, hk]
  exact stream_take frames k

/-- A timeout before the first byte changes nothing. -/
theorem InSync.after_timeout {frames : List (List UInt8)} {w w' : Wire UInt8}
    (h : InSync frames w) (hgot : Wire.Received w [] ([] :: w')) : InSync frames w' := by
  refine ⟨?_, ?_⟩
  · rw [← h.flatten, hgot.flatten]
    rfl
  · intro before' after hw'
    obtain ⟨before, hw, hbefore⟩ := hgot.timeouts ([] :: before') after (by rw [hw']; rfl)
    obtain ⟨k, hk⟩ := h.timeouts before after hw
    exact ⟨k, by rw [← hk, hbefore]; rfl⟩

/-- Behind the first message come the others. -/
theorem InSync.after_message {f : List UInt8} {rest : List (List UInt8)} {w w' : Wire UInt8}
    (h : InSync (f :: rest) w) (hgot : Wire.Received w (lengthPrefix f.length ++ f) w') :
    InSync rest w' := by
  refine ⟨?_, ?_⟩
  · have hflatten := hgot.flatten
    rw [h.flatten, stream_cons, List.append_assoc] at hflatten
    exact (List.append_cancel_left (List.append_cancel_left hflatten)).symm
  · intro before' after hw'
    obtain ⟨before, hw, hbefore⟩ := hgot.timeouts before' after hw'
    obtain ⟨k, hk⟩ := h.timeouts before after hw
    rw [hk, List.append_assoc] at hbefore
    rcases stream_take (f :: rest) k with hnil | ⟨f', rest', j, hframes, htake⟩
    · rw [hnil] at hbefore
      cases hbefore
    · obtain ⟨rfl, rfl⟩ := List.cons.inj hframes
      rw [htake] at hbefore
      exact ⟨j, (List.append_cancel_left (List.append_cancel_left hbefore)).symm⟩

/-! ## One call of `read` -/

/-- The body of a message that is in sync. -/
theorem read_body {f : List UInt8} {rest : List (List UInt8)} {w w' : Wire UInt8}
    (h : InSync (f :: rest) w) (hgot : Wire.Received w (lengthPrefix f.length) w') :
    ∃ w'', readAll f.length w' = (true, f, w'') ∧ InSync rest w'' := by
  have hbody : w'.flatten = f ++ stream rest := by
    have hflatten := hgot.flatten
    rw [h.flatten, stream_cons] at hflatten
    exact (List.append_cancel_left hflatten).symm
  have houtcome := Wire.receive_outcome false f.length w'
  rw [readAll]
  generalize Wire.receive false f.length w' = out at houtcome
  cases houtcome with
  | @done got w'' hlength hflatten hreceived =>
    obtain ⟨rfl, -⟩ := List.append_inj (hflatten.symm.trans hbody) hlength
    exact ⟨w'', rfl, h.after_message (hgot.trans (hreceived rfl))⟩
  | ended hlength hflatten =>
    rw [← hflatten, hbody, List.length_append] at hlength
    omega
  | timedOut _ hlength hreceived =>
    -- the timeout would be inside the message
    rcases h.got_of_timeout (hgot.trans hreceived) with hnil | ⟨f', rest', j, hframes, hmessage⟩
    · cases hnil
    · obtain ⟨rfl, rfl⟩ := List.cons.inj hframes
      have hgot' := congrArg List.length (List.append_cancel_left hmessage)
      rw [List.length_append] at hgot'
      omega

/-- In sync `read` returns 0 and stays in sync, or returns the next frame. -/
theorem read_branch {frames : List (List UInt8)} {w : Wire UInt8}
    (hsizes : ∀ f ∈ frames, 1 ≤ f.length ∧ f.length ≤ 1518) (h : InSync frames w) :
    (∃ w', read 1518 w = (0, [], w') ∧ InSync frames w') ∨
      ∃ f rest w', frames = f :: rest ∧ read 1518 w = ((f.length : Int), f, w') ∧
        InSync rest w' := by
  have houtcome := Wire.receive_outcome false 2 w
  rw [read, readAll]
  generalize Wire.receive false 2 w = out at houtcome
  cases houtcome with
  | @done got w' hlength hflatten hreceived =>
    right
    rw [h.flatten] at hflatten
    cases frames with
    | nil =>
      have hempty := congrArg List.length hflatten
      rw [List.length_append, hlength, stream_nil, List.length_nil] at hempty
      omega
    | cons f rest =>
      rw [stream_cons] at hflatten
      obtain ⟨rfl, -⟩ := List.append_inj hflatten hlength.symm
      obtain ⟨w'', hbody, hsync⟩ := read_body h (hreceived rfl)
      have hsize := (hsizes f List.mem_cons_self).2
      have hlen := toNat_ofNat_of_le hsize
      have hroom : ¬UInt16.ofNat 1518 < UInt16.ofNat f.length := by
        rw [UInt16.lt_iff_toNat_lt, hlen, toNat_ofNat_of_le (Nat.le_refl _)]
        omega
      refine ⟨f, rest, w'', rfl, ?_, hsync⟩
      simp only [ntohs_lengthPrefix, if_neg hroom, hlen, hbody]
  | @ended got hlength hflatten =>
    left
    refine ⟨[], rfl, ?_⟩
    cases frames with
    | nil => exact ⟨rfl, fun before after hw => by simp at hw⟩
    | cons f rest =>
      rw [h.flatten, stream_cons] at hflatten
      rw [← hflatten, List.length_append, length_lengthPrefix] at hlength
      omega
  | @timedOut got w' _ hlength hreceived =>
    left
    refine ⟨w', rfl, ?_⟩
    rcases h.got_of_timeout hreceived with rfl | ⟨f, rest, j, -, hmessage⟩
    · exact h.after_timeout hreceived
    · rw [hmessage, List.length_append, length_lengthPrefix] at hlength
      omega

/-! ## All calls -/

/-- When every timeout falls between two messages, the frames that successive
calls of `read` return are the first ones that were sent, whatever the chunks
are. -/
theorem returned_isPrefix (frames : List (List UInt8)) (w : Wire UInt8)
    (hsizes : ∀ f ∈ frames, 1 ≤ f.length ∧ f.length ≤ 1518)
    (hsent : w.flatten = (frames.map write).flatten) (htimeouts : TimeoutsBetween frames w)
    (k : Nat) : returned k w <+: frames.map fun f => ((f.length : Int), f) := by
  have hsync : InSync frames w := inSync_of_timeoutsBetween hsent htimeouts
  clear hsent htimeouts
  induction k generalizing frames w with
  | zero => exact List.nil_prefix
  | succ k ih =>
    rw [returned, reads]
    rcases read_branch hsizes hsync with ⟨w', hread, hsync'⟩ | ⟨f, rest, w', rfl, hread, hsync'⟩
    · rw [hread]
      exact ih frames w' hsizes hsync'
    · have hf := (hsizes f List.mem_cons_self).1
      have hne : decide ((f.length : Int) ≠ 0) = true := by
        rw [decide_eq_true_eq]
        omega
      have hfilter : List.filter (fun r : Int × List UInt8 => decide (r.1 ≠ 0))
          (((f.length : Int), f) :: reads k w') = ((f.length : Int), f) :: returned k w' :=
        List.filter_cons_of_pos hne
      rw [hread]
      show List.filter _ (((f.length : Int), f) :: reads k w') <+: _
      rw [hfilter, List.map_cons, List.cons_prefix_cons]
      exact ⟨rfl, ih rest w' (fun g hg => hsizes g (List.mem_cons_of_mem f hg)) hsync'⟩

/-- Two frames, cut inside the prefix and inside a body, with a timeout before,
between and behind them. -/
theorem returned_isPrefix_two :
    returned 5 [[], [0], [2, 7], [8], [], [0, 1, 9], []] <+:
      [[7, 8], [9]].map fun f => ((f.length : Int), f) :=
  returned_isPrefix [[7, 8], [9]] [[], [0], [2, 7], [8], [], [0, 1, 9], []] (by decide) rfl
    (by decide) 5

/-- A timeout between the length prefix and the body of a frame: the body is
taken for a message. -/
theorem returned_timeout_inside :
    [[0, 3], [], [0, 1, 0xAA]].flatten = ([[0, 1, 0xAA]].map write).flatten ∧
      returned 2 [[0, 3], [], [0, 1, 0xAA]] = [(1, [0xAA])] ∧
      ¬returned 2 [[0, 3], [], [0, 1, 0xAA]] <+:
        [[0, 1, 0xAA]].map fun f => ((f.length : Int), f) := by
  decide

end MasterSocket

end EthercatSim

import EthercatSim.Transport.Connection

/-!
# The stop flag

Another thread sets the flag at any time.  The server looks at it at the head of its loop,
and whenever it waits.  In the middle of a message it goes on while bytes come.

* `remaining`: how many calls the server makes at most, when the flag is set.
* `stop_ends_session`: so it returns, unless its code has no meaning, and answers one message
  more at most.
-/

namespace EthercatSim

open SlavesEndpoint StepRun

variable {σ : Type}

/-- A call of the server. -/
def ConnectionEvent.isServer : ConnectionEvent → Bool
  | .server _ => true
  | _ => false

namespace Connection

/-! ## What is left to do -/

/-- How many calls are left, with the flag set. -/
def remaining : ServerPhase → Nat
  | .head => 1
  | .readLength got => 2 - got.length + 3010
  | .readBody len got => len.toNat - got.length + max len.toNat got.length + 8
  | .writeLength reply sent => 2 - sent + reply.length + 4
  | .writeReply reply sent => reply.length - sent + 2
  | .returned _ => 0
  | .undefined => 0

/-- How many messages are left to answer. -/
def unanswered : ServerPhase → Nat
  | .readLength _ => 1
  | .readBody _ _ => 1
  | _ => 0

/-- `recv` gets bytes only when some are in flight. -/
def Possible (c : Connection σ) : ConnectionEvent → Prop
  | .server a =>
    match c.server, nbRound c.stop a with
    | .readLength _, .moved _ => c.toServer ≠ []
    | .readBody _ _, .moved _ => c.toServer ≠ []
    | _, _ => True
  | _ => True

theorem remaining_pos {p : ServerPhase} (h : p.Running) : 0 < remaining p := by
  cases p <;> first | exact absurd h id | (rw [remaining]; omega)

/-- With the flag set no round of a loop comes to nothing. -/
theorem nbRound_stop (a : PollAnswer) :
    nbRound true a = .failed ∨ ∃ n, nbRound true a = .moved n ∧ n ≠ 0 := by
  rw [nbRound]
  split
  · exact .inl rfl
  · split
    · exact .inl rfl
    · split
      · exact .inl rfl
      · split
        · exact .inl rfl
        · rename_i hmoved
          exact .inr ⟨a.moved, rfl, hmoved⟩

theorem length_arriving_pos {flight : List UInt8} (h : flight ≠ []) {got : List UInt8} {len n : Nat}
    (hn : n ≠ 0) (hgot : got.length < len) : 1 ≤ (arriving flight got len n).length := by
  have hpos := List.length_pos_iff.mpr h
  rw [arriving, List.length_take]
  omega

theorem length_arriving_le' (flight got : List UInt8) (len n : Nat) :
    (arriving flight got len n).length ≤ len - got.length := by
  rw [arriving, List.length_take]
  omega

theorem length_leaving (bytes : List UInt8) (sent n : Nat) :
    (leaving bytes sent n).length = min n (bytes.length - sent) := by
  rw [leaving, List.length_take, List.length_drop]

section Step

variable [SlaveDevice σ] (frames : Nat → KickcatFrame) (rounds : Nat)

/-- A message that is processed is answered, or the code has no meaning. -/
theorem processed_remaining (c : Connection σ) (buf : List UInt8) :
    remaining (processed frames rounds c buf).server ≤ buf.length + 6 ∧
      (processed frames rounds c buf).answered.length +
        unanswered (processed frames rounds c buf).server ≤ c.answered.length + 1 := by
  rw [processed]
  rcases hanswer : answer (frames c.answered.length) rounds c.sim buf with _ | ⟨sim, reply⟩
  · exact ⟨Nat.zero_le _, Nat.le_succ _⟩
  · have hlength := answer_length hanswer
    refine ⟨?_, ?_⟩
    · show 2 - 0 + reply.length + 4 ≤ _
      omega
    · show (c.answered ++ [reply]).length + 0 ≤ _
      rw [List.length_append, List.length_singleton]

/-- Bytes are moved. -/
theorem serverMoved_remaining {c : Connection σ} (hrun : c.server.Running)
    (hhead : c.server ≠ .head) {n : Nat} (hn : n ≠ 0)
    (hpossible : unanswered c.server = 1 → c.toServer ≠ []) :
    remaining (serverMoved frames rounds c n).server < remaining c.server ∧
      (serverMoved frames rounds c n).answered.length +
        unanswered (serverMoved frames rounds c n).server ≤
        c.answered.length + unanswered c.server := by
  rw [serverMoved]
  split
  case h_1 got hserver =>
    rw [hserver] at hpossible ⊢
    have hmoved : got.length < 2 → 1 ≤ (arriving c.toServer got 2 n).length :=
      fun hgot => length_arriving_pos (hpossible rfl) hn hgot
    simp only []
    split
    · rename_i hless
      rw [List.length_append] at hless
      refine ⟨?_, Nat.le_refl _⟩
      show 2 - (got ++ _).length + 3010 < 2 - got.length + 3010
      rw [List.length_append]
      have hone := hmoved (by omega)
      omega
    · rw [checkLength]
      split
      · exact ⟨Nat.lt_of_lt_of_le (Nat.succ_pos 3009) (Nat.le_add_left 3010 _), Nat.le_succ _⟩
      · rename_i hlen
        have hmax : ¬1500 < (ntohs (got ++ arriving c.toServer got 2 n)).toNat :=
          fun hc => hlen (.inr (UInt16.lt_iff_toNat_lt.mpr hc))
        refine ⟨?_, Nat.le_refl _⟩
        show (ntohs _).toNat - 0 + max (ntohs _).toNat 0 + 8 < 2 - got.length + 3010
        omega
  case h_2 len got hserver =>
    rw [hserver] at hpossible ⊢
    have hmoved : got.length < len.toNat → 1 ≤ (arriving c.toServer got len.toNat n).length :=
      fun hgot => length_arriving_pos (hpossible rfl) hn hgot
    have hle := length_arriving_le' c.toServer got len.toNat n
    simp only []
    split
    · rename_i hless
      rw [List.length_append] at hless
      refine ⟨?_, Nat.le_refl _⟩
      show len.toNat - (got ++ _).length + max len.toNat (got ++ _).length + 8 <
        len.toNat - got.length + max len.toNat got.length + 8
      rw [List.length_append]
      have hone := hmoved (by omega)
      omega
    · obtain ⟨hremaining, hanswered⟩ := processed_remaining frames rounds
        { c with toServer := c.toServer.drop (arriving c.toServer got len.toNat n).length }
        (got ++ arriving c.toServer got len.toNat n)
      refine ⟨Nat.lt_of_le_of_lt hremaining ?_, hanswered⟩
      show _ < len.toNat - got.length + max len.toNat got.length + 8
      rw [List.length_append]
      omega
  case h_3 reply sent hserver =>
    rw [hserver]
    have hlength := length_leaving (lengthPrefix reply.length) sent n
    rw [length_lengthPrefix] at hlength
    simp only []
    split
    · refine ⟨?_, Nat.le_refl _⟩
      show 2 - (sent + _) + reply.length + 4 < 2 - sent + reply.length + 4
      omega
    · refine ⟨?_, Nat.le_refl _⟩
      show reply.length - 0 + 2 < 2 - sent + reply.length + 4
      omega
  case h_4 reply sent hserver =>
    rw [hserver]
    have hlength := length_leaving reply sent n
    simp only []
    split
    · refine ⟨?_, Nat.le_refl _⟩
      show reply.length - (sent + _) + 2 < reply.length - sent + 2
      omega
    · refine ⟨?_, Nat.le_refl _⟩
      show 1 < reply.length - sent + 2
      omega
  case h_5 hserver => exact absurd hserver hhead
  case h_6 hserver =>
    rw [hserver] at hrun
    exact absurd hrun id
  case h_7 hserver =>
    rw [hserver] at hrun
    exact absurd hrun id

/-- A call of the server with the flag set. -/
theorem serverStep_remaining {c : Connection σ} (hstop : c.stop = true)
    (hrun : c.server.Running) {a : PollAnswer} (hpossible : Possible c (.server a)) :
    remaining (serverStep frames rounds c a).server < remaining c.server ∧
      (serverStep frames rounds c a).answered.length +
        unanswered (serverStep frames rounds c a).server ≤
        c.answered.length + unanswered c.server := by
  rw [serverStep]
  split
  case h_1 hserver =>
    rw [hserver, hstop]
    exact ⟨Nat.zero_lt_one, Nat.le_refl _⟩
  case h_2 hserver =>
    rw [hserver] at hrun
    exact absurd hrun id
  case h_3 hserver =>
    rw [hserver] at hrun
    exact absurd hrun id
  case h_4 hhead hreturned hundefined =>
    rw [hstop]
    rcases nbRound_stop a with hround | ⟨n, hround, hn⟩
    · rw [hround]
      exact ⟨remaining_pos hrun, Nat.le_add_right _ _⟩
    · rw [hround]
      refine serverMoved_remaining frames rounds hrun hhead hn fun hreads => ?_
      rw [Possible, hstop, hround] at hpossible
      cases hserver : c.server <;> rw [hserver] at hpossible hreads <;>
        first | exact hpossible | cases hreads

/-- The other events leave the server alone. -/
theorem step_other (c : Connection σ) {event : ConnectionEvent}
    (h : event.isServer = false) :
    (step frames rounds c event).server = c.server ∧
      (step frames rounds c event).answered = c.answered := by
  cases event with
  | server a => cases h
  | stop => exact ⟨rfl, rfl⟩
  | master moved =>
    obtain ⟨hserver, -, hanswered⟩ := masterStep_frame c moved
    exact ⟨hserver, hanswered⟩
  | write frame =>
    rw [step]
    split <;> exact ⟨rfl, rfl⟩
  | read size =>
    rw [step]
    split <;> exact ⟨rfl, rfl⟩
  | reset =>
    rw [step]
    split <;> exact ⟨rfl, rfl⟩

/-- Nobody takes the flag back. -/
theorem step_stop {c : Connection σ} (h : c.stop = true) (event : ConnectionEvent) :
    (step frames rounds c event).stop = true := by
  cases event with
  | stop => rfl
  | server a => exact (serverStep_stop frames rounds c a).trans h
  | master moved => exact (masterStep_frame c moved).2.1.trans h
  | write frame =>
    rw [step]
    split <;> exact h
  | read size =>
    rw [step]
    split <;> exact h
  | reset =>
    rw [step]
    split <;> exact h

/-- Behind the end of the session the server does nothing. -/
theorem serverStep_ended {c : Connection σ} (h : ¬c.server.Running) (a : PollAnswer) :
    serverStep frames rounds c a = c := by
  rw [serverStep]
  cases hserver : c.server <;> rw [hserver] at h <;> first | rfl | exact absurd trivial h

/-- What has ended stays so. -/
theorem step_ended {c : Connection σ} (h : ¬c.server.Running) (event : ConnectionEvent) :
    ¬(step frames rounds c event).server.Running := by
  cases hevent : event.isServer with
  | false =>
    rw [(step_other frames rounds c hevent).1]
    exact h
  | true =>
    cases event with
    | server a =>
      show ¬(serverStep frames rounds c a).server.Running
      rw [serverStep_ended frames rounds h]
      exact h
    | _ => cases hevent

/-- One step with the flag set: a call of the server brings the end nearer, and the other
events leave it where it is. -/
theorem step_remaining {c : Connection σ} (hstop : c.stop = true) {event : ConnectionEvent}
    (hpossible : Possible c event) :
    (¬(step frames rounds c event).server.Running ∨
      remaining (step frames rounds c event).server + event.isServer.toNat ≤
        remaining c.server) ∧
      (step frames rounds c event).answered.length +
        unanswered (step frames rounds c event).server ≤
        c.answered.length + unanswered c.server := by
  cases hevent : event.isServer with
  | false =>
    obtain ⟨hserver, hanswered⟩ := step_other frames rounds c hevent
    rw [hserver, hanswered]
    exact ⟨.inr (Nat.le_refl _), Nat.le_refl _⟩
  | true =>
    cases event with
    | server a =>
      by_cases hrun : c.server.Running
      · obtain ⟨hless, hanswered⟩ := serverStep_remaining frames rounds hstop hrun hpossible
        exact ⟨.inr hless, hanswered⟩
      · have hsame : step frames rounds c (.server a) = c := serverStep_ended frames rounds hrun a
        rw [hsame]
        exact ⟨.inl hrun, Nat.le_refl _⟩
    | _ => cases hevent

theorem run_remaining {c : Connection σ} (hstop : c.stop = true) {events : List ConnectionEvent}
    (hpossible : StepsOk (step frames rounds) Possible c events) :
    (¬(run (step frames rounds) c events).server.Running ∨
      remaining (run (step frames rounds) c events).server +
        events.countP ConnectionEvent.isServer ≤ remaining c.server) ∧
      (run (step frames rounds) c events).answered.length +
        unanswered (run (step frames rounds) c events).server ≤
        c.answered.length + unanswered c.server := by
  induction events generalizing c with
  | nil => exact ⟨.inr (Nat.le_refl _), Nat.le_refl _⟩
  | cons event events ih =>
    obtain ⟨hfirst, hanswered⟩ := step_remaining frames rounds hstop hpossible.1
    obtain ⟨hrest, hanswered'⟩ := ih (step_stop frames rounds hstop event) hpossible.2
    refine ⟨?_, Nat.le_trans hanswered' hanswered⟩
    rcases hfirst with hended | hfirst
    · left
      rw [run_cons]
      exact run_preserved (P := fun c : Connection σ => ¬c.server.Running)
        (fun c event h => step_ended frames rounds h event) hended events
    · rcases hrest with hended | hrest
      · exact .inl hended
      · right
        have hcount : (event :: events).countP ConnectionEvent.isServer =
            events.countP ConnectionEvent.isServer + event.isServer.toNat := by
          rw [List.countP_cons]
          cases event.isServer <;> rfl
        rw [hcount]
        exact Nat.le_trans (by rw [run_cons]; omega) hfirst

/-! ## Messages are short -/

/-- The message that the server is at has passed the checks of its length. -/
def Short : ServerPhase → Prop
  | .readBody len got => len.toNat ≤ 1500 ∧ got.length ≤ len.toNat
  | .writeLength reply _ | .writeReply reply _ => reply.length ≤ 1500
  | .head | .readLength _ | .returned _ | .undefined => True

theorem remaining_le {p : ServerPhase} (h : Short p) : remaining p ≤ 3012 := by
  cases p with
  | readBody len got =>
    obtain ⟨hlen, hgot⟩ := h
    rw [remaining]
    omega
  | writeLength reply sent =>
    have hlength : reply.length ≤ 1500 := h
    rw [remaining]
    omega
  | writeReply reply sent =>
    have hlength : reply.length ≤ 1500 := h
    rw [remaining]
    omega
  | readLength got =>
    rw [remaining]
    omega
  | _ => exact Nat.le_of_ble_eq_true rfl

theorem short_serverMoved {c : Connection σ} (h : Short c.server) (n : Nat) :
    Short (serverMoved frames rounds c n).server := by
  rw [serverMoved]
  split
  case h_1 got hserver =>
    simp only []
    split
    · trivial
    · rw [checkLength]
      split
      · trivial
      · rename_i hlen
        have hmax : ¬1500 < (ntohs (got ++ arriving c.toServer got 2 n)).toNat :=
          fun hc => hlen (.inr (UInt16.lt_iff_toNat_lt.mpr hc))
        exact ⟨Nat.le_of_not_lt hmax, Nat.zero_le _⟩
  case h_2 len got hserver =>
    rw [hserver] at h
    obtain ⟨hlen, hgot⟩ := h
    have hle := length_arriving_le' c.toServer got len.toNat n
    have hlength : (got ++ arriving c.toServer got len.toNat n).length ≤ len.toNat := by
      rw [List.length_append]
      omega
    simp only []
    split
    · exact ⟨hlen, hlength⟩
    · rw [processed]
      split
      · trivial
      · rename_i hanswer
        rw [← answer_length hanswer] at hlength
        exact Nat.le_trans hlength hlen
  case h_3 reply sent hserver =>
    rw [hserver] at h
    simp only []
    split <;> exact h
  case h_4 reply sent hserver =>
    rw [hserver] at h
    simp only []
    split
    · exact h
    · trivial
  all_goals exact h

theorem short_step {c : Connection σ} (h : Short c.server) (event : ConnectionEvent) :
    Short (step frames rounds c event).server := by
  cases hevent : event.isServer with
  | false =>
    rw [(step_other frames rounds c hevent).1]
    exact h
  | true =>
    cases event with
    | server a =>
      show Short (serverStep frames rounds c a).server
      rw [serverStep]
      split
      · cases c.stop <;> trivial
      · exact h
      · exact h
      · split
        · trivial
        · exact h
        · exact short_serverMoved frames rounds h _
    | _ => cases hevent

/-- Once the flag is set, the server stops running within the calls that `remaining` counts,
whatever the master does and however few bytes come at a time: it has returned, or the code of
the session has no meaning.  It answers one message more at most. -/
theorem stop_ends_session {c : Connection σ} (hstop : c.stop = true)
    {events : List ConnectionEvent}
    (hpossible : StepsOk (step frames rounds) Possible c events) :
    (run (step frames rounds) c events).answered.length ≤ c.answered.length + 1 ∧
      (remaining c.server ≤ events.countP ConnectionEvent.isServer →
        ¬(run (step frames rounds) c events).server.Running) := by
  obtain ⟨hended, hanswered⟩ := run_remaining frames rounds hstop hpossible
  constructor
  · have hone : unanswered c.server ≤ 1 := by
      cases c.server <;> first | exact Nat.le_refl _ | exact Nat.zero_le _
    omega
  · intro hcalls hrun
    have hpos := remaining_pos hrun
    rcases hended with hended | hended
    · exact hended hrun
    · omega

end Step

/-- In the middle of a reply of two bytes: one byte, the other one, the head of the loop, and
the server has returned. -/
theorem stop_ends_session_reply :
    let c := { start oneSlaveServer true with server := .writeReply [1, 2] 0 }
    let ready : PollAnswer := { result := 1, event := true, moved := 1 }
    let c' := run (step (fun _ => .ofBuffer (Cells.fill 0)) 1520) c
      [.server ready, .write [5], .server ready, .server ready, .master 1, .server ready]
    ¬c'.server.Running := by
  intro c ready c'
  have hpossible : StepsOk (step (fun _ => .ofBuffer (Cells.fill 0)) 1520) Possible c
      [.server ready, .write [5], .server ready, .server ready, .master 1, .server ready] :=
    ⟨trivial, trivial, trivial, trivial, trivial, trivial, trivial⟩
  exact (stop_ends_session _ _ rfl hpossible).2 (Nat.le_refl 4)

end Connection

end EthercatSim

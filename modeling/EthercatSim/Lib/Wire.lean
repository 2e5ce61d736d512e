import EthercatSim.Lib.Loop

/-!
# Streams that arrive in chunks

A wire is what successive calls of `recv` find: each entry is a chunk that has
arrived, and an empty entry is a call that ends without data because the time is
up.  Behind the last entry nothing arrives any more.

* `recv`: one call with room for `n` elements.  It takes no more than one chunk,
  and leaves what it has no room for.
* `Received`: the elements that were taken from a wire, with no empty entry on
  the way.  It keeps where the empty entries are.
* `receive`: the loop that calls `recv` until it has `n` elements.  A patient
  reader goes on at an empty entry, an impatient one gives up, and has lost what
  it received so far.
* `receive_outcome`: the three ways in which this ends.
* `send`: the loop that calls `send` until all elements are accepted.  Each call
  takes as many of them as the socket has room for; `send_sent` says that what
  goes out does not depend on it.
-/

/-- What successive `recv` calls find. -/
abbrev Wire (α : Type) := List (List α)

namespace Wire

variable {α : Type}

/-- One call of `recv` with room for `n` elements; no element means that the call
returned no data. -/
def recv (n : Nat) : Wire α → List α × Wire α
  | [] => ([], [])
  | chunk :: w => if chunk.length ≤ n then (chunk, w) else (chunk.take n, chunk.drop n :: w)

/-- The elements `got` were received from `w` without an empty entry among them,
and `w'` is left. -/
structure Received (w : Wire α) (got : List α) (w' : Wire α) : Prop where
  flatten : w.flatten = got ++ w'.flatten
  timeouts : ∀ before' after, w' = before' ++ [] :: after →
    ∃ before, w = before ++ [] :: after ∧ before.flatten = got ++ before'.flatten

theorem Received.refl (w : Wire α) : Received w [] w := by
  refine ⟨rfl, ?_⟩
  intro before' after h
  exact ⟨before', h, rfl⟩

theorem Received.trans {w w' w'' : Wire α} {got got' : List α} (h : Received w got w')
    (h' : Received w' got' w'') : Received w (got ++ got') w'' := by
  refine ⟨by rw [h.flatten, h'.flatten, List.append_assoc], ?_⟩
  intro before'' after hw''
  obtain ⟨before', hw', hbefore'⟩ := h'.timeouts before'' after hw''
  obtain ⟨before, hw, hbefore⟩ := h.timeouts before' after hw'
  exact ⟨before, hw, by rw [hbefore, hbefore', List.append_assoc]⟩

/-- What a call does: nothing arrives any more, it takes a chunk whole, or it takes as
much of the chunk as it has room for. -/
theorem recv_cases {n : Nat} {w w' : Wire α} {got : List α} (h : recv n w = (got, w')) :
    (w = [] ∧ got = [] ∧ w' = []) ∨ (w = got :: w' ∧ got.length ≤ n) ∨
      ∃ chunk tail, w = chunk :: tail ∧ n < chunk.length ∧ got = chunk.take n ∧
        w' = chunk.drop n :: tail := by
  cases w with
  | nil =>
    rw [recv, Prod.mk.injEq] at h
    exact .inl ⟨rfl, h.1.symm, h.2.symm⟩
  | cons chunk tail =>
    rw [recv] at h
    by_cases hroom : chunk.length ≤ n
    · rw [if_pos hroom, Prod.mk.injEq] at h
      obtain ⟨rfl, rfl⟩ := h
      exact .inr (.inl ⟨rfl, hroom⟩)
    · rw [if_neg hroom, Prod.mk.injEq] at h
      exact .inr (.inr ⟨chunk, tail, rfl, by omega, h.1.symm, h.2.symm⟩)

/-- A call that returns data. -/
theorem received_of_recv {n : Nat} {w w' : Wire α} {got : List α} (h : recv n w = (got, w'))
    (hgot : got ≠ []) : Received w got w' := by
  obtain ⟨-, hnil, -⟩ | ⟨rfl, -⟩ | ⟨chunk, tail, rfl, hlong, rfl, rfl⟩ := recv_cases h
  · exact absurd hnil hgot
  · refine ⟨rfl, ?_⟩
    intro before' after hw
    exact ⟨got :: before', by rw [hw, List.cons_append], rfl⟩
  · constructor
    case flatten =>
      rw [List.flatten_cons, List.flatten_cons, ← List.append_assoc, List.take_append_drop]
    case timeouts =>
      intro before' after hw
      cases before' with
      | nil =>
        -- the rest of the chunk is not empty
        have hdrop : chunk.drop n = [] := (List.cons.inj hw).1
        have hlength := congrArg List.length hdrop
        rw [List.length_drop, List.length_nil] at hlength
        omega
      | cons rest before' =>
        obtain ⟨hrest, hw⟩ := List.cons.inj hw
        refine ⟨chunk :: before', by rw [hw]; rfl, ?_⟩
        rw [← hrest, List.flatten_cons, List.flatten_cons, ← List.append_assoc,
          List.take_append_drop]

/-- A call that returns no data, though it has room: nothing arrives any more, or
the entry is empty. -/
theorem recv_eq_nil {n : Nat} {w w' : Wire α} (hn : 0 < n) (h : recv n w = ([], w')) :
    (w = [] ∧ w' = []) ∨ w = [] :: w' := by
  obtain ⟨hw, -, hw'⟩ | ⟨hw, -⟩ | ⟨chunk, tail, -, hlong, htake, -⟩ := recv_cases h
  · exact .inl ⟨hw, hw'⟩
  · exact .inr hw
  · have hlength := congrArg List.length htake
    rw [List.length_take, List.length_nil] at hlength
    omega

theorem recv_length_le {n : Nat} {w w' : Wire α} {got : List α} (h : recv n w = (got, w')) :
    got.length ≤ n ∧ w'.length ≤ w.length := by
  obtain ⟨rfl, rfl, rfl⟩ | ⟨rfl, hroom⟩ | ⟨chunk, tail, rfl, -, rfl, rfl⟩ := recv_cases h
  · exact ⟨Nat.zero_le n, Nat.le_refl _⟩
  · exact ⟨hroom, Nat.le_succ _⟩
  · refine ⟨?_, Nat.le_refl _⟩
    rw [List.length_take]
    omega

/-! ## The loop -/

/-- The state of the loop: how much is missing, what was received, and the
wire. -/
structure Receiving (α : Type) where
  left : Nat
  got : List α
  wire : Wire α

/-- The body of the loop. -/
def receiveStep (patient : Bool) (s : Receiving α) : Receiving α × Option Bool :=
  if s.left = 0 then (s, some true)
  else
    match recv s.left s.wire with
    | ([], w) =>
      if patient && !s.wire.isEmpty then ({ s with wire := w }, none)
      else ({ s with wire := w }, some false)
    | (got, w) => ({ left := s.left - got.length, got := s.got ++ got, wire := w }, none)

/-- Receive `n` elements: whether there were as many, what was received, and what
is left. -/
def receive (patient : Bool) (n : Nat) (w : Wire α) : Bool × List α × Wire α :=
  match FuelLoop.loop (receiveStep patient) (n + w.length + 1)
    { left := n, got := [], wire := w } with
  | some (s, ok) => (ok, s.got, s.wire)
  | none => (false, [], w)

/-- The ways in which `receive` ends. -/
inductive Outcome (patient : Bool) (n : Nat) (w : Wire α) : Bool × List α × Wire α → Prop
  | done {got : List α} {w' : Wire α} (hlength : got.length = n)
      (hflatten : w.flatten = got ++ w'.flatten) (hgot : patient = false → Received w got w') :
      Outcome patient n w (true, got, w')
  | ended {got : List α} (hlength : got.length < n) (hflatten : w.flatten = got) :
      Outcome patient n w (false, got, [])
  | timedOut {got : List α} {w' : Wire α} (hpatient : patient = false) (hlength : got.length < n)
      (hgot : Received w got ([] :: w')) : Outcome patient n w (false, got, w')

/-- The rounds of the loop. -/
theorem receiveStep_branch (patient : Bool) (s : Receiving α) :
    (s.left = 0 ∧ receiveStep patient s = (s, some true)) ∨
      (0 < s.left ∧ s.wire = [] ∧ receiveStep patient s = (s, some false)) ∨
      (∃ w, 0 < s.left ∧ s.wire = [] :: w ∧
        receiveStep patient s = ({ s with wire := w }, if patient then none else some false)) ∨
      ∃ got w, 0 < s.left ∧ recv s.left s.wire = (got, w) ∧ got ≠ [] ∧
        receiveStep patient s =
          ({ left := s.left - got.length, got := s.got ++ got, wire := w }, none) := by
  rcases Nat.eq_zero_or_pos s.left with hleft | hleft
  · exact .inl ⟨hleft, if_pos hleft⟩
  · right
    have hstep : receiveStep patient s = match recv s.left s.wire with
        | ([], w) =>
          if patient && !s.wire.isEmpty then ({ s with wire := w }, none)
          else ({ s with wire := w }, some false)
        | (got, w) => ({ left := s.left - got.length, got := s.got ++ got, wire := w }, none) :=
      if_neg (by omega)
    rcases hrecv : recv s.left s.wire with ⟨_ | ⟨b, got⟩, w⟩
    · rw [hrecv] at hstep
      rcases recv_eq_nil hleft hrecv with ⟨hwire, rfl⟩ | hwire
      · left
        refine ⟨hleft, hwire, ?_⟩
        have heta : ({ s with wire := [] } : Receiving α) = s := by rw [← hwire]
        rw [hstep, hwire]
        show (if patient && false then _ else ({ s with wire := [] }, some false)) = _
        rw [heta, Bool.and_false]
        rfl
      · right
        left
        refine ⟨w, hleft, hwire, ?_⟩
        rw [hstep, hwire]
        cases patient <;> rfl
    · rw [hrecv] at hstep
      exact .inr (.inr ⟨b :: got, w, hleft, rfl, List.cons_ne_nil b got, hstep⟩)

/-- What the loop has received so far. -/
structure Progress (patient : Bool) (n : Nat) (w : Wire α) (s : Receiving α) : Prop where
  length : s.got.length + s.left = n
  flatten : w.flatten = s.got ++ s.wire.flatten
  received : patient = false → Received w s.got s.wire

/-- A round that goes on is a wait of a patient reader, or a call that returns
data. -/
theorem receiveStep_next {patient : Bool} {s s' : Receiving α}
    (hstep : receiveStep patient s = (s', none)) :
    (∃ w, patient = true ∧ s.wire = [] :: w ∧ s' = { s with wire := w }) ∨
      ∃ got w, 0 < s.left ∧ recv s.left s.wire = (got, w) ∧ got ≠ [] ∧
        s' = { left := s.left - got.length, got := s.got ++ got, wire := w } := by
  rcases receiveStep_branch patient s with
    ⟨-, hb⟩ | ⟨-, -, hb⟩ | ⟨w, -, hwire, hb⟩ | ⟨got, w, hleft, hrecv, hgot, hb⟩
  · simp [hb] at hstep
  · simp [hb] at hstep
  · rw [hb, Prod.mk.injEq] at hstep
    obtain ⟨rfl, hpatient⟩ := hstep
    cases patient with
    | true => exact .inl ⟨w, rfl, hwire, rfl⟩
    | false => simp at hpatient
  · rw [hb, Prod.mk.injEq] at hstep
    exact .inr ⟨got, w, hleft, hrecv, hgot, hstep.1.symm⟩

theorem Progress.next {patient : Bool} {n : Nat} {w : Wire α} {s s' : Receiving α}
    (h : Progress patient n w s) (hstep : receiveStep patient s = (s', none)) :
    Progress patient n w s' := by
  have hlength := h.length
  rcases receiveStep_next hstep with
    ⟨w', hpatient, hwire, rfl⟩ | ⟨got, w', hleft, hrecv, hgot, rfl⟩
  · have hflatten := h.flatten
    rw [hwire] at hflatten
    refine ⟨hlength, hflatten, ?_⟩
    intro himpatient
    cases hpatient.symm.trans himpatient
  · have hreceived := received_of_recv hrecv hgot
    have hle := (recv_length_le hrecv).1
    refine ⟨?_, ?_, fun himpatient => (h.received himpatient).trans hreceived⟩
    · show (s.got ++ got).length + (s.left - got.length) = n
      rw [List.length_append]
      omega
    · rw [h.flatten, hreceived.flatten, List.append_assoc]

/-- A round that goes on gets nearer to the end. -/
theorem receiveStep_decreases {patient : Bool} {s s' : Receiving α}
    (hstep : receiveStep patient s = (s', none)) :
    s'.left + s'.wire.length < s.left + s.wire.length := by
  rcases receiveStep_next hstep with ⟨w', -, hwire, rfl⟩ | ⟨got, w', hleft, hrecv, hgot, rfl⟩
  · rw [hwire, List.length_cons]
    show s.left + w'.length < _
    omega
  · obtain ⟨hle, hwire⟩ := recv_length_le hrecv
    have hpos := List.length_pos_iff.mpr hgot
    show s.left - got.length + w'.length < _
    omega

theorem receiveStep_exit {patient : Bool} {n : Nat} {w : Wire α} {s s' : Receiving α} {ok : Bool}
    (h : Progress patient n w s) (hstep : receiveStep patient s = (s', some ok)) :
    Outcome patient n w (ok, s'.got, s'.wire) := by
  have hlength := h.length
  rcases receiveStep_branch patient s with
    ⟨hleft, hb⟩ | ⟨hleft, hwire, hb⟩ | ⟨w', hleft, hwire, hb⟩ | ⟨got, w', -, -, -, hb⟩
  · rw [hb, Prod.mk.injEq, Option.some.injEq] at hstep
    obtain ⟨rfl, rfl⟩ := hstep
    exact .done (by omega) h.flatten h.received
  · rw [hb, Prod.mk.injEq, Option.some.injEq] at hstep
    obtain ⟨rfl, rfl⟩ := hstep
    have hflatten := h.flatten
    rw [hwire, List.flatten_nil, List.append_nil] at hflatten
    rw [hwire]
    exact .ended (by omega) hflatten
  · rw [hb, Prod.mk.injEq] at hstep
    obtain ⟨rfl, hok⟩ := hstep
    cases patient with
    | true => simp at hok
    | false =>
      obtain rfl : ok = false := by simpa using hok.symm
      have hreceived := h.received rfl
      have hless : s.got.length < n := by omega
      rw [hwire] at hreceived
      exact .timedOut rfl hless hreceived
  · rw [hb] at hstep
    simp at hstep

/-- Every call of `receive` ends in one of the three ways. -/
theorem receive_outcome (patient : Bool) (n : Nat) (w : Wire α) :
    Outcome patient n w (receive patient n w) := by
  have hsome : (FuelLoop.loop (receiveStep patient) (n + w.length + 1)
      { left := n, got := [], wire := w }).isSome :=
    FuelLoop.loop_isSome (fun s => s.left + s.wire.length) (fun _ _ => receiveStep_decreases)
      (Nat.lt_succ_self _)
  obtain ⟨⟨s, ok⟩, hloop⟩ := Option.isSome_iff_exists.mp hsome
  have hstart : Progress patient n w { left := n, got := [], wire := w } :=
    ⟨Nat.zero_add n, rfl, fun _ => .refl w⟩
  have hout : Outcome patient n w (ok, s.got, s.wire) :=
    FuelLoop.loop_post (I := Progress patient n w)
      (Q := fun s ok => Outcome patient n w (ok, s.got, s.wire))
      (fun _ _ hI hb => hI.next hb) (fun _ _ _ hI hb => receiveStep_exit hI hb)
      hstart hloop
  rw [receive, hloop]
  exact hout

/-- An empty entry that is left was there before. -/
theorem Received.nil_mem {w w' : Wire α} {got : List α} (h : Received w got w')
    (hmem : [] ∈ w') : [] ∈ w := by
  obtain ⟨before', after, hw'⟩ := List.append_of_mem hmem
  obtain ⟨before, rfl, -⟩ := h.timeouts before' after hw'
  simp

/-- When enough elements arrive, and no entry is empty or the reader is patient,
they are received. -/
theorem receive_of_append {patient : Bool} {w : Wire α} {got rest : List α}
    (hflatten : w.flatten = got ++ rest) (hw : patient = false → [] ∉ w) :
    ∃ w', receive patient got.length w = (true, got, w') ∧ w'.flatten = rest ∧
      (patient = false → [] ∉ w') := by
  have hlength : got.length ≤ w.flatten.length := by
    rw [hflatten, List.length_append]
    exact Nat.le_add_right _ _
  have houtcome := receive_outcome patient got.length w
  generalize receive patient got.length w = out at houtcome
  cases houtcome with
  | @done got' w' hgot hflatten' hreceived =>
    obtain ⟨rfl, hrest⟩ := List.append_inj (hflatten'.symm.trans hflatten) hgot
    exact ⟨w', rfl, hrest, fun hp hmem => hw hp ((hreceived hp).nil_mem hmem)⟩
  | ended hgot hflatten' =>
    rw [hflatten'] at hlength
    omega
  | timedOut hp _ hreceived => exact absurd (hreceived.nil_mem List.mem_cons_self) (hw hp)

/-! ## Sending -/

/-- The state of the loop: what is left to send, what was accepted, and how many
elements the next calls accept.  The entry 0 is a call that has to wait. -/
structure Sending (α : Type) where
  left : List α
  sent : List α
  room : List Nat

/-- The body of the loop.  Behind the last entry of `room` a call accepts
everything. -/
def sendStep (s : Sending α) : Sending α × Option Unit :=
  if s.left.length = 0 then (s, some ())
  else
    match s.room with
    | [] => ({ left := [], sent := s.sent ++ s.left, room := [] }, none)
    | 0 :: room => ({ s with room }, none)
    | (n + 1) :: room =>
      ({ left := s.left.drop (n + 1), sent := s.sent ++ s.left.take (n + 1), room }, none)

/-- Send `data`: what goes out, and the room of the calls that come after. -/
def send (data : List α) (room : List Nat) : List α × List Nat :=
  match FuelLoop.loop sendStep (data.length + room.length + 1)
    { left := data, sent := [], room } with
  | some (s, ()) => (s.sent, s.room)
  | none => ([], room)

/-- A round of the loop keeps the order of the elements, and gets on. -/
theorem sendStep_next {s s' : Sending α} (hstep : sendStep s = (s', none)) :
    s'.sent ++ s'.left = s.sent ++ s.left ∧
      s'.left.length + s'.room.length < s.left.length + s.room.length := by
  obtain ⟨left, sent, room⟩ := s
  rw [sendStep] at hstep
  by_cases hleft : left.length = 0
  · rw [if_pos hleft] at hstep
    simp at hstep
  · rw [if_neg hleft] at hstep
    rcases room with _ | ⟨_ | n, room⟩ <;> simp only [Prod.mk.injEq, and_true] at hstep <;>
      subst hstep
    case nil =>
      refine ⟨List.append_nil _, ?_⟩
      simp only [List.length_nil]
      omega
    case cons.zero =>
      exact ⟨rfl, Nat.lt_succ_self _⟩
    case cons.succ =>
      constructor
      · rw [List.append_assoc, List.take_append_drop]
      · simp only [List.length_drop, List.length_cons]
        omega

theorem sendStep_exit {s s' : Sending α} (hstep : sendStep s = (s', some ())) :
    s' = s ∧ s.left = [] := by
  rw [sendStep] at hstep
  by_cases hleft : s.left.length = 0
  · rw [if_pos hleft, Prod.mk.injEq] at hstep
    exact ⟨hstep.1.symm, List.length_eq_zero_iff.mp hleft⟩
  · rw [if_neg hleft] at hstep
    split at hstep <;> simp at hstep

/-- All elements go out in order, whatever the calls accept. -/
theorem send_sent (data : List α) (room : List Nat) : (send data room).1 = data := by
  have hsome : (FuelLoop.loop sendStep (data.length + room.length + 1)
      { left := data, sent := [], room }).isSome :=
    FuelLoop.loop_isSome (fun s => s.left.length + s.room.length)
      (fun _ _ hstep => (sendStep_next hstep).2) (Nat.lt_succ_self _)
  obtain ⟨⟨s, ⟨⟩⟩, hloop⟩ := Option.isSome_iff_exists.mp hsome
  have hsent : s.sent = data := by
    refine FuelLoop.loop_post (I := fun s => s.sent ++ s.left = data)
      (Q := fun s _ => s.sent = data) ?_ ?_ rfl hloop
    · intro s s' hI hstep
      exact (sendStep_next hstep).1.trans hI
    · intro s s' r hI hstep
      obtain ⟨rfl, hleft⟩ := sendStep_exit hstep
      rw [hleft, List.append_nil] at hI
      exact hI
  rw [send, hloop]
  exact hsent

end Wire

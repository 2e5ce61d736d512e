/-!
# Computations that change a state and may throw

`Fallible S E α` is a computation on states `S` that returns an `α` or throws an `E`.
What it has done to the state by then stays, as with the members of an object.

* `exec_bind_ok`, `exec_bind_error`, `exec_tryCatch_ok` and `exec_tryCatch_error` run a
  computation step by step.
* `WorksOn g h`: the computation sees and changes the state by way of `g` only, and
  leaves `h` of it alone.
* `LeadsTo g`: what the computation makes of `g` of the state, and whether it throws.
* `Returns`: the computation never throws.

The rules of `WorksOn`, `LeadsTo` and `Returns` follow the text of a computation, one rule
for each construct.
-/

/-- A computation on states `S` that may throw an `E`. -/
abbrev Fallible (S E α : Type) := ExceptT E (StateM S) α

namespace Fallible

variable {S E α β : Type}

/-- The result from a state, and the state afterwards. -/
def exec (m : Fallible S E α) (s : S) : Except E α × S := m.run.run s

/-- One primitive step. -/
def attempt (f : S → Except E α × S) : Fallible S E α := ExceptT.mk (StateT.mk f)

@[simp] theorem exec_get (s : S) : exec (get : Fallible S E S) s = (.ok s, s) := rfl

section Exec

variable {m : Fallible S E α} {f : α → Fallible S E β} {handler : E → Fallible S E α} {s s' : S}

theorem exec_bind_ok {a : α} (h : exec m s = (.ok a, s')) : exec (m >>= f) s = exec (f a) s' := by
  show ExceptT.bindCont f (exec m s).1 (exec m s).2 = _
  rw [h]
  rfl

theorem exec_bind_error {e : E} (h : exec m s = (.error e, s')) :
    exec (m >>= f) s = (.error e, s') := by
  show ExceptT.bindCont f (exec m s).1 (exec m s).2 = _
  rw [h]
  rfl

/-- A sequence that returns has returned from both parts. -/
theorem of_exec_bind_ok {b : β} {t : S} (h : exec (m >>= f) s = (.ok b, t)) :
    ∃ a s', exec m s = (.ok a, s') ∧ exec (f a) s' = (.ok b, t) := by
  obtain ⟨r, s', hrun⟩ : ∃ r s', exec m s = (r, s') := ⟨_, _, rfl⟩
  cases r with
  | error e =>
    rw [exec_bind_error hrun] at h
    cases h
  | ok a =>
    rw [exec_bind_ok hrun] at h
    exact ⟨a, s', hrun, h⟩

theorem exec_tryCatch_ok {a : α} (h : exec m s = (.ok a, s')) :
    exec (tryCatch m handler) s = (.ok a, s') := by
  have hm : m s = (.ok a, s') := h
  simp only [exec, tryCatch, tryCatchThe, MonadExceptOf.tryCatch, ExceptT.tryCatch, ExceptT.run,
    ExceptT.mk, StateT.run, bind, StateT.bind, hm]
  rfl

theorem exec_tryCatch_error {e : E} (h : exec m s = (.error e, s')) :
    exec (tryCatch m handler) s = exec (handler e) s' := by
  have hm : m s = (.error e, s') := h
  simp only [exec, tryCatch, tryCatchThe, MonadExceptOf.tryCatch, ExceptT.tryCatch, ExceptT.run,
    ExceptT.mk, StateT.run, bind, StateT.bind, hm]

end Exec

/-! ## What a computation works on -/

/-- `m` works on `g`: its result and what it makes of `g` depend on `g` alone.  `h` stays
as it is. -/
def WorksOn {T U : Type} (g : S → T) (h : S → U) (m : Fallible S E α) : Prop :=
  ∀ s s', g s' = g s →
    ∃ r t t', exec m s = (r, t) ∧ exec m s' = (r, t') ∧ g t' = g t ∧ h t = h s

section WorksOn

variable {T U : Type} {g : S → T} {h : S → U} {m : Fallible S E α}

theorem WorksOn.of_exec (hm : WorksOn g h m) {s t : S} {r : Except E α}
    (hrun : exec m s = (r, t)) : h t = h s := by
  obtain ⟨r', u, -, hrun', -, -, hkeep⟩ := hm s s rfl
  rw [hrun, Prod.mk.injEq] at hrun'
  rwa [hrun'.2]

theorem WorksOn.state_eq (hm : WorksOn g h m) {s s' : S} (hg : g s' = g s) :
    g (exec m s').2 = g (exec m s).2 := by
  obtain ⟨r, t, t', hrun, hrun', hreach, -⟩ := hm s s' hg
  rwa [hrun, hrun']

/-- What keeps `h` keeps a part of it. -/
theorem WorksOn.part {V : Type} (hm : WorksOn g h m) (k : U → V) :
    WorksOn g (fun s => k (h s)) m := by
  intro s s' hg
  obtain ⟨r, t, t', hrun, hrun', hreach, hkeep⟩ := hm s s' hg
  exact ⟨r, t, t', hrun, hrun', hreach, congrArg k hkeep⟩

theorem WorksOn.pure {a : α} : WorksOn g h (pure a : Fallible S E α) :=
  fun s s' hg => ⟨.ok a, s, s', rfl, rfl, hg, rfl⟩

theorem WorksOn.attempt {f : S → Except E α × S}
    (hf : ∀ s s', g s' = g s →
      (f s').1 = (f s).1 ∧ g (f s').2 = g (f s).2 ∧ h (f s).2 = h s) :
    WorksOn g h (attempt f) := by
  intro s s' hg
  obtain ⟨hresult, hreach, hkeep⟩ := hf s s' hg
  exact ⟨(f s).1, (f s).2, (f s').2, rfl, Prod.ext hresult rfl, hreach, hkeep⟩

theorem WorksOn.modify {f : S → S} (hf : ∀ s s', g s' = g s → g (f s') = g (f s))
    (hkeep : ∀ s, h (f s) = h s) : WorksOn g h (modify f : Fallible S E PUnit) :=
  fun s s' hg => ⟨.ok ⟨⟩, f s, f s', rfl, rfl, hf s s' hg, hkeep s⟩

/-- A state that is read and used for what `g` shows of it. -/
theorem WorksOn.get {f : S → Fallible S E β} (hread : ∀ s s', g s' = g s → f s' = f s)
    (hf : ∀ s, WorksOn g h (f s)) : WorksOn g h (get >>= f) := by
  intro s s' hg
  rw [exec_bind_ok (exec_get s), exec_bind_ok (exec_get s'), hread s s' hg]
  exact hf s s s' hg

theorem WorksOn.ite {c : Prop} [Decidable c] {m' : Fallible S E α} (hm : WorksOn g h m)
    (hm' : WorksOn g h m') : WorksOn g h (if c then m else m') := by
  split
  · exact hm
  · exact hm'

theorem WorksOn.bind {f : α → Fallible S E β} (hm : WorksOn g h m)
    (hf : ∀ a, WorksOn g h (f a)) : WorksOn g h (m >>= f) := by
  intro s s' hg
  obtain ⟨r, t, t', hrun, hrun', hreach, hkeep⟩ := hm s s' hg
  cases r with
  | error e => exact ⟨.error e, t, t', exec_bind_error hrun, exec_bind_error hrun', hreach, hkeep⟩
  | ok a =>
    obtain ⟨r, u, u', hnext, hnext', hreach', hkeep'⟩ := hf a t t' hreach
    exact ⟨r, u, u', (exec_bind_ok hrun).trans hnext, (exec_bind_ok hrun').trans hnext', hreach',
      hkeep'.trans hkeep⟩

theorem WorksOn.tryCatch {handler : E → Fallible S E α} (hm : WorksOn g h m)
    (hh : ∀ e, WorksOn g h (handler e)) : WorksOn g h (tryCatch m handler) := by
  intro s s' hg
  obtain ⟨r, t, t', hrun, hrun', hreach, hkeep⟩ := hm s s' hg
  cases r with
  | ok a => exact ⟨.ok a, t, t', exec_tryCatch_ok hrun, exec_tryCatch_ok hrun', hreach, hkeep⟩
  | error e =>
    obtain ⟨r, u, u', hnext, hnext', hreach', hkeep'⟩ := hh e t t' hreach
    exact ⟨r, u, u', (exec_tryCatch_error hrun).trans hnext,
      (exec_tryCatch_error hrun').trans hnext', hreach', hkeep'.trans hkeep⟩

theorem WorksOn.mapM {f : α → Fallible S E β} (hf : ∀ a, WorksOn g h (f a)) (xs : List α) :
    WorksOn g h (xs.mapM f) := by
  induction xs with
  | nil => exact WorksOn.pure
  | cons x xs ih =>
    rw [List.mapM_cons]
    exact (hf x).bind fun _ => ih.bind fun _ => WorksOn.pure

end WorksOn

/-! ## What a computation makes of a view -/

/-- From every state that `g` shows as `t`, `m` ends in one that `g` shows as `t'`.  It returns
`a` when `r` is `some a`, and throws when `r` is `none`. -/
def LeadsTo {T : Type} (g : S → T) (m : Fallible S E α) (t : T) (r : Option α) (t' : T) : Prop :=
  ∀ s, g s = t → ∃ result s', exec m s = (result, s') ∧ result.toOption = r ∧ g s' = t'

section LeadsTo

variable {T : Type} {g : S → T} {m : Fallible S E α} {t t' t'' : T} {a : α}

theorem LeadsTo.pure : LeadsTo g (pure a : Fallible S E α) t (some a) t :=
  fun s hs => ⟨.ok a, s, rfl, rfl, hs⟩

theorem LeadsTo.modify {f : S → S} (hf : ∀ s, g s = t → g (f s) = t') :
    LeadsTo g (modify f : Fallible S E PUnit) t (some ⟨⟩) t' :=
  fun s hs => ⟨.ok ⟨⟩, f s, rfl, rfl, hf s hs⟩

theorem LeadsTo.attempt {f : S → Except E α × S} {r : Option α}
    (hf : ∀ s, g s = t → (f s).1.toOption = r ∧ g (f s).2 = t') :
    LeadsTo g (attempt f) t r t' :=
  fun s hs => ⟨(f s).1, (f s).2, rfl, (hf s hs).1, (hf s hs).2⟩

theorem LeadsTo.get {f : S → Fallible S E β} {r : Option β}
    (hf : ∀ s, g s = t → LeadsTo g (f s) t r t') : LeadsTo g (get >>= f) t r t' := by
  intro s hs
  rw [exec_bind_ok (exec_get s)]
  exact hf s hs s hs

theorem LeadsTo.bind {f : α → Fallible S E β} {r : Option β} (hm : LeadsTo g m t (some a) t')
    (hf : LeadsTo g (f a) t' r t'') : LeadsTo g (m >>= f) t r t'' := by
  intro s hs
  obtain ⟨result, s', hrun, hresult, hs'⟩ := hm s hs
  cases result with
  | error e => cases hresult
  | ok b =>
    obtain rfl : b = a := Option.some.inj hresult
    rw [exec_bind_ok hrun]
    exact hf s' hs'

/-- What throws leaves out the rest. -/
theorem LeadsTo.bind_throws {f : α → Fallible S E β} (hm : LeadsTo g m t none t') :
    LeadsTo g (m >>= f) t none t' := by
  intro s hs
  obtain ⟨result, s', hrun, hresult, hs'⟩ := hm s hs
  cases result with
  | error e => exact ⟨.error e, s', exec_bind_error hrun, rfl, hs'⟩
  | ok b => cases hresult

/-- What throws is left to the handler. -/
theorem LeadsTo.tryCatch_throws {handler : E → Fallible S E α} {r : Option α}
    (hm : LeadsTo g m t none t') (hh : ∀ e, LeadsTo g (handler e) t' r t'') :
    LeadsTo g (tryCatch m handler) t r t'' := by
  intro s hs
  obtain ⟨result, s', hrun, hresult, hs'⟩ := hm s hs
  cases result with
  | error e =>
    rw [exec_tryCatch_error hrun]
    exact hh e s' hs'
  | ok b => cases hresult

theorem LeadsTo.tryCatch {handler : E → Fallible S E α} (hm : LeadsTo g m t (some a) t') :
    LeadsTo g (tryCatch m handler) t (some a) t' := by
  intro s hs
  obtain ⟨result, s', hrun, hresult, hs'⟩ := hm s hs
  cases result with
  | error e => cases hresult
  | ok b => exact ⟨.ok b, s', exec_tryCatch_ok hrun, hresult, hs'⟩

end LeadsTo

/-! ## Computations that never throw -/

/-- From every state, `m` returns. -/
def Returns (m : Fallible S E α) : Prop := ∀ s, ∃ a s', exec m s = (.ok a, s')

section Returns

variable {m : Fallible S E α}

theorem Returns.pure {a : α} : Returns (pure a : Fallible S E α) := fun s => ⟨a, s, rfl⟩

theorem Returns.get : Returns (get : Fallible S E S) := fun s => ⟨s, s, rfl⟩

theorem Returns.modify {f : S → S} : Returns (modify f : Fallible S E PUnit) :=
  fun s => ⟨⟨⟩, f s, rfl⟩

theorem Returns.ite {c : Prop} [Decidable c] {m' : Fallible S E α} (hm : Returns m)
    (hm' : Returns m') : Returns (if c then m else m') := by
  split
  · exact hm
  · exact hm'

theorem Returns.bind {f : α → Fallible S E β} (hm : Returns m) (hf : ∀ a, Returns (f a)) :
    Returns (m >>= f) := by
  intro s
  obtain ⟨a, s', h⟩ := hm s
  rw [exec_bind_ok h]
  exact hf a s'

/-- A handler that never throws catches everything. -/
theorem Returns.tryCatch {handler : E → Fallible S E α} (hh : ∀ e, Returns (handler e)) :
    Returns (tryCatch m handler) := by
  intro s
  obtain ⟨r, s', h⟩ : ∃ r s', exec m s = (r, s') := ⟨_, _, rfl⟩
  cases r with
  | ok a => exact ⟨a, s', exec_tryCatch_ok h⟩
  | error e =>
    rw [exec_tryCatch_error h]
    exact hh e s'

theorem Returns.mapM {f : α → Fallible S E β} (hf : ∀ a, Returns (f a)) (xs : List α) :
    Returns (xs.mapM f) := by
  induction xs with
  | nil => exact Returns.pure
  | cons x xs ih =>
    rw [List.mapM_cons]
    exact (hf x).bind fun _ => ih.bind fun _ => Returns.pure

end Returns

end Fallible

import EthercatSim.Lib.Writes
import EthercatSim.El1258.Model
import EthercatSim.Network.Steps

/-!
# The process image

`runOnce` copies the inputs of the mapped slaves into the logical memory, one mapping
after the other.

* `copyInputs_get`: what the copy of one mapping puts into a byte.
* `refreshInputs_get_of_not_covers`: a byte that no mapping covers is left alone.
* `runOnce_last`: a byte that a live mapping covers, and no later one, is a byte of the
  bit field that the slave of this mapping reports.
* `runOnce_exact`: every byte after `runOnce`, and the mappings that are left.
-/

namespace EthercatSim

variable {σ : Type}

/-- The mapping covers the byte at `x` of the logical memory. -/
def InputMap.Covers (m : InputMap) (x : Nat) : Prop :=
  m.logicalAddress.toNat ≤ x ∧ x < m.logicalAddress.toNat + m.widthBytes

instance (m : InputMap) (x : Nat) : Decidable (m.Covers x) := inferInstanceAs (Decidable (_ ∧ _))

/-- Byte `i` of a bit field. -/
def inputByte (bits : UInt32) (i : Nat) : UInt8 := (bits >>> (8 * i).toUInt32).toUInt8

namespace NetworkSimulator

/-! ## The copy of one mapping -/

theorem castSize_of_lt {n : Nat} (h : n < 0x10000000000000000) : castSize n = n :=
  Nat.mod_eq_of_lt h

/-- The shift of byte `i` as the code computes it. -/
theorem inputByte_eq (bits : UInt32) (i : Nat) :
    inputByte bits i = (bits >>> (castSize (8 * i)).toUInt32).toUInt8 := by
  have hshift : (castSize (8 * i)).toUInt32 = (8 * i).toUInt32 := by
    apply UInt32.toNat_inj.mp
    show 8 * i % 0x10000000000000000 % 0x100000000 = 8 * i % 0x100000000
    omega
  rw [inputByte, hshift]

/-- The copy goes through exactly when every shift that it makes is one by less than 32. -/
theorem copyInputs_isSome_iff (logical : Cells UInt8 16384) (base : Nat) (bits : UInt32)
    (i n : Nat) :
    (copyInputs logical base bits i n).isSome = true ↔
      ∀ j, i ≤ j → j < i + n → castSize (base + j) < 16384 → castSize (8 * j) < 32 := by
  induction n generalizing logical i with
  | zero =>
    rw [copyInputs]
    exact iff_of_true rfl fun j hlo hhi => absurd hhi (by omega)
  | succ n ih =>
    -- byte `i` and the bytes behind it
    have hsplit : (∀ j, i ≤ j → j < i + (n + 1) → castSize (base + j) < 16384 →
          castSize (8 * j) < 32) ↔
        (castSize (base + i) < 16384 → castSize (8 * i) < 32) ∧
          ∀ j, i + 1 ≤ j → j < i + 1 + n → castSize (base + j) < 16384 →
            castSize (8 * j) < 32 := by
      constructor
      · intro h
        exact ⟨h i (Nat.le_refl i) (by omega), fun j hlo hhi => h j (by omega) (by omega)⟩
      · intro h j hlo hhi
        rcases Nat.eq_or_lt_of_le hlo with rfl | hlt
        · exact h.1
        · exact h.2 j hlt (by omega)
    rw [hsplit, copyInputs]
    by_cases hx : castSize (base + i) < 16384
    · rw [if_pos hx]
      by_cases hshift : castSize (8 * i) < 32
      · rw [if_pos hshift, ih]
        exact (and_iff_right fun _ => hshift).symm
      · rw [if_neg hshift]
        exact iff_of_false Bool.false_ne_true fun h => hshift (h.1 hx)
    · rw [if_neg hx, ih]
      exact (and_iff_right fun h => absurd h hx).symm

/-- A mapping of `n` bytes at `base` of which no byte behind the fourth is inside the
logical memory. -/
def FitsBitfield (base n : Nat) : Prop :=
  n ≤ 4 ∨ 16384 ≤ base + 4 ∧ base + n ≤ 0x10000000000000000

instance (base n : Nat) : Decidable (FitsBitfield base n) :=
  inferInstanceAs (Decidable (_ ∨ _ ∧ _))

/-- The shifts of a mapping are defined exactly when it fits.  Otherwise the fifth byte is
inside the memory, or the sum for a later byte wraps to the start of it. -/
theorem shifts_iff_fits {base n : Nat} (hbase : base < 0x100000000) :
    (∀ j < n, castSize (base + j) < 16384 → castSize (8 * j) < 32) ↔ FitsBitfield base n := by
  unfold FitsBitfield castSize
  constructor
  · intro h
    by_contra hwide
    by_cases hfifth : base + 4 < 16384
    · have hshift := h 4 (by omega) (by omega)
      omega
    · have hshift := h (0x10000000000000000 - base) (by omega) (by omega)
      omega
  · intro hfits j hj hx
    omega

theorem copyInputs_fits {logical logical' : Cells UInt8 16384} {base : Nat}
    (hbase : base < 0x100000000) {bits : UInt32} {n : Nat}
    (h : copyInputs logical base bits 0 n = some logical') : FitsBitfield base n := by
  have hshifts := (copyInputs_isSome_iff logical base bits 0 n).mp (by rw [h]; rfl)
  refine (shifts_iff_fits hbase).mp ?_
  intro j hj
  exact hshifts j (Nat.zero_le j) (by omega)

/-- As long as no sum wraps, the copy stores the bytes of the bit field. -/
theorem copyInputs_get_of_le {base : Nat} {bits : UInt32} {logical logical' : Cells UInt8 16384}
    {i n : Nat} (hsum : base + i + n ≤ 0x10000000000000000)
    (h : copyInputs logical base bits i n = some logical') {x : Nat} (hx : x < 16384) :
    logical'.get x =
      if base + i ≤ x ∧ x < base + i + n then inputByte bits (x - base) else logical.get x := by
  induction n generalizing logical i with
  | zero =>
    rw [copyInputs, Option.some.injEq] at h
    rw [if_neg (by omega), h]
  | succ n ih =>
    rw [copyInputs, castSize_of_lt (by omega : base + i < 0x10000000000000000)] at h
    rw [← inputByte_eq] at h
    by_cases hbase : base + i < 16384
    · rw [if_pos hbase] at h
      by_cases hshift : castSize (8 * i) < 32
      · rw [if_pos hshift] at h
        rw [ih (by omega) h, Cells.get_set]
        by_cases hxi : x = base + i
        · subst hxi
          rw [if_neg (by omega), if_pos ⟨rfl, hbase⟩, if_pos (by omega),
            Nat.add_sub_cancel_left]
        · have hrange : base + (i + 1) ≤ x ∧ x < base + (i + 1) + n ↔
              base + i ≤ x ∧ x < base + i + (n + 1) := by omega
          simp only [hrange, if_neg (fun hc : x = base + i ∧ base + i < 16384 => hxi hc.1)]
      · rw [if_neg hshift] at h
        cases h
    · rw [if_neg hbase] at h
      have hrange : base + (i + 1) ≤ x ∧ x < base + (i + 1) + n ↔
          base + i ≤ x ∧ x < base + i + (n + 1) := by omega
      rw [ih (by omega) h]
      simp only [hrange]

theorem copyInputs_get {base : Nat} (hbase : base < 0x100000000) {bits : UInt32}
    {logical logical' : Cells UInt8 16384} {n : Nat}
    (h : copyInputs logical base bits 0 n = some logical') {x : Nat} (hx : x < 16384) :
    logical'.get x =
      if base ≤ x ∧ x < base + n then inputByte bits (x - base) else logical.get x := by
  have hsum : base + 0 + n ≤ 0x10000000000000000 := by
    rcases copyInputs_fits hbase h with hnarrow | hoff
    · omega
    · exact hoff.2
  exact copyInputs_get_of_le hsum h hx

section Refresh

variable [SlaveDevice σ]

/-- The copy of one mapping changes the bytes that it covers. -/
theorem copyFrom_get {sim : NetworkSimulator σ} {m : InputMap} {ref : SlaveRef}
    {logical : Cells UInt8 16384} (h : sim.copyFrom m ref = some logical) {x : Nat}
    (hx : x < 16384) :
    (∀ bits, (SlaveDevice.readDigitalInputsBitfield (sim.objects ref).device).1 = some bits →
        m.Covers x → logical.get x = inputByte bits (x - m.logicalAddress.toNat)) ∧
      (¬m.Covers x → logical.get x = sim.logical.get x) := by
  rw [copyFrom] at h
  cases hbits : (SlaveDevice.readDigitalInputsBitfield (sim.objects ref).device).1 with
  | none =>
    rw [hbits, Option.some.injEq] at h
    constructor
    · intro bits hb
      cases hb
    · intro _
      rw [h]
  | some bits =>
    rw [hbits] at h
    have hget : logical.get x =
        if m.Covers x then inputByte bits (x - m.logicalAddress.toNat)
        else sim.logical.get x := copyInputs_get m.logicalAddress.toNat_lt h hx
    constructor
    · intro b hb hcovers
      rw [hget, if_pos hcovers, Option.some.inj hb]
    · intro hcovers
      rw [hget, if_neg hcovers]

theorem refreshInputs_get_of_not_covers {sim sim' : NetworkSimulator σ}
    {maps kept : List InputMap} (h : sim.refreshInputs maps = some (kept, sim')) {x : Nat}
    (hx : x < 16384) (hcovers : ∀ m ∈ maps, ¬m.Covers x) :
    sim'.logical.get x = sim.logical.get x := by
  induction maps generalizing sim kept with
  | nil =>
    rw [refreshInputs, Option.some.injEq, Prod.mk.injEq] at h
    rw [h.2]
  | cons m maps ih =>
    have hrest : ∀ m ∈ maps, ¬m.Covers x := fun m hm => hcovers m (.tail _ hm)
    cases hlock : sim.lock m.slave with
    | none =>
      rw [refreshInputs, hlock] at h
      exact ih h hrest
    | some ref =>
      obtain ⟨logical, kept', sim'', hcopy, hloop, hout⟩ := refreshInputs_cons_of_lock hlock h
      obtain ⟨rfl, rfl⟩ := Prod.mk.inj hout
      rw [ih hloop hrest]
      exact (copyFrom_get hcopy hx).2 (hcovers m (.head _))

/-- The byte comes from the last mapping that covers it.  `sim₁` is the simulator when
the loop gets to this mapping. -/
theorem refreshInputs_last {sim₀ sim sim' : NetworkSimulator σ} (hrun : RunStep sim₀ sim)
    {before after kept : List InputMap} {m : InputMap} {ref : SlaveRef}
    (h : sim.refreshInputs (before ++ m :: after) = some (kept, sim'))
    (hlock : sim₀.lock m.slave = some ref) {x : Nat} (hx : x < 16384) (hcovers : m.Covers x)
    (hafter : ∀ m ∈ after, ¬m.Covers x) :
    ∃ sim₁, RunStep sim₀ sim₁ ∧ ∀ bits,
      (SlaveDevice.readDigitalInputsBitfield (sim₁.objects ref).device).1 = some bits →
        sim'.logical.get x = inputByte bits (x - m.logicalAddress.toNat) := by
  induction before generalizing sim kept with
  | nil =>
    rw [List.nil_append] at h
    obtain ⟨logical, kept', sim'', hcopy, hloop, hout⟩ :=
      refreshInputs_cons_of_lock (hrun.lock_eq ▸ hlock) h
    obtain ⟨rfl, rfl⟩ := Prod.mk.inj hout
    refine ⟨sim, hrun, ?_⟩
    intro bits hbits
    rw [refreshInputs_get_of_not_covers hloop hx hafter]
    exact (copyFrom_get hcopy hx).1 bits hbits hcovers
  | cons first before ih =>
    rw [List.cons_append] at h
    cases hfirst : sim.lock first.slave with
    | none =>
      rw [refreshInputs, hfirst] at h
      exact ih hrun h
    | some r =>
      obtain ⟨logical, kept', sim'', -, hloop, hout⟩ := refreshInputs_cons_of_lock hfirst h
      obtain ⟨rfl, rfl⟩ := Prod.mk.inj hout
      exact ih ((hrun.setObject (hrun.objects r).readInputs).withLogical logical) hloop

/-- A byte of the logical memory after `runOnce`. -/
theorem runOnce_last {sim sim' : NetworkSimulator σ} (h : sim.runOnce = some sim')
    {before after : List InputMap} {m : InputMap} {ref : SlaveRef}
    (hmaps : sim.inputMaps = before ++ m :: after) (hlock : sim.lock m.slave = some ref)
    {x : Nat} (hx : x < 16384) (hcovers : m.Covers x) (hafter : ∀ m ∈ after, ¬m.Covers x) :
    ∃ sim₁, RunStep sim sim₁ ∧ ∀ bits,
      (SlaveDevice.readDigitalInputsBitfield (sim₁.objects ref).device).1 = some bits →
        sim'.logical.get x = inputByte bits (x - m.logicalAddress.toNat) := by
  obtain ⟨⟨kept, sim''⟩, hrefresh, hout⟩ := Option.bind_eq_some_iff.mp h
  obtain rfl := Option.some.inj hout
  rw [sim.runRoutines_inputMaps, hmaps] at hrefresh
  exact refreshInputs_last (RunStep.runRoutines sim) hrefresh hlock hx hcovers hafter

/-! ## The whole image -/

/-- What the live mappings report in one call, in order.  `devices` is the data of the
slaves; each read leaves its slave for the reads behind it. -/
def reports (lock : Option SlaveRef → Option SlaveRef) (devices : SlaveRef → σ) :
    List InputMap → List (InputMap × UInt32)
  | [] => []
  | m :: maps =>
    match lock m.slave with
    | some ref =>
      let read := SlaveDevice.readDigitalInputsBitfield (devices ref)
      (read.1.toList.map fun bits => (m, bits)) ++
        reports lock (fun r => if r = ref then read.2 else devices r) maps
    | none => reports lock devices maps

/-- The last report of a mapping that covers the byte. -/
def lastReport (rs : List (InputMap × UInt32)) (x : Nat) : Option (InputMap × UInt32) :=
  rs.findRev? fun r => r.1.Covers x

/-- The byte that a report puts at `x`. -/
def reportByte (r : InputMap × UInt32) (x : Nat) : UInt8 :=
  inputByte r.2 (x - r.1.logicalAddress.toNat)

/-- The bytes that a report writes. -/
def reportWrite (r : InputMap × UInt32) : CellWrite UInt8 where
  off := r.1.logicalAddress.toNat
  values := (List.range r.1.widthBytes).map (inputByte r.2)

omit [SlaveDevice σ] in
/-- The last writer is the last report. -/
theorem lastWritten_reports (rs : List (InputMap × UInt32)) (x : Nat) :
    CellWrite.lastWritten (rs.map reportWrite) x = (lastReport rs x).map (reportByte · x) := by
  have hcovers : ∀ r, (reportWrite r).Covers x ↔ r.1.Covers x := by
    intro r
    rw [CellWrite.Covers, reportWrite, List.length_map, List.length_range]
    rfl
  induction rs with
  | nil => rfl
  | cons r rs ih =>
    rw [List.map_cons, CellWrite.lastWritten_cons, ih, lastReport, lastReport, List.findRev?]
    cases List.findRev? (fun r => decide (r.1.Covers x)) rs with
    | some last => rfl
    | none =>
      by_cases hr : r.1.Covers x
      · have hin : x - r.1.logicalAddress.toNat < r.1.widthBytes := by
          have hlo := hr.1
          have hhi := hr.2
          omega
        rw [if_pos ((hcovers r).mpr hr)]
        simp only [hr, decide_true, if_true, Option.map_some, Option.map_none, Option.none_or,
          Option.some.injEq, CellWrite.value, reportWrite, reportByte]
        rw [List.getD_eq_getElem?_getD, List.getElem?_map, List.getElem?_range hin]
        rfl
      · rw [if_neg (fun hc => hr ((hcovers r).mp hc))]
        simp only [hr, decide_false, Bool.false_eq_true, if_false, Option.map_none, Option.or_none]

omit [SlaveDevice σ] in
/-- The copy of a mapping that is no wider than the bit field is a store. -/
theorem copyInputs_eq_store (logical : Cells UInt8 16384) {base : Nat} (hbase : base < 0x100000000)
    (bits : UInt32) (i : Nat) {n : Nat} (h : i + n ≤ 4) :
    copyInputs logical base bits i n =
      some (logical.store (base + i) ((List.range n).map fun j => inputByte bits (i + j))) := by
  induction n generalizing logical i with
  | zero =>
    rw [copyInputs, List.range_zero, List.map_nil, Cells.store_nil]
  | succ n ih =>
    have hbytes : (List.range (n + 1)).map (fun j => inputByte bits (i + j)) =
        inputByte bits i :: (List.range n).map fun j => inputByte bits (i + 1 + j) := by
      rw [List.range_succ_eq_map, List.map_cons, List.map_map]
      congr 1
      apply List.map_congr_left
      intro j _
      show inputByte bits (i + (j + 1)) = _
      rw [Nat.add_right_comm, Nat.add_assoc]
    rw [copyInputs, hbytes, Cells.store_cons,
      castSize_of_lt (by omega : base + i < 0x10000000000000000), inputByte_eq bits i,
      castSize_of_lt (by omega : 8 * i < 0x10000000000000000)]
    rw [if_pos (by omega : 8 * i < 32)]
    have hrest := fun logical : Cells UInt8 16384 => ih logical (i + 1) (by omega)
    split
    · exact hrest _
    · rename_i hbehind
      rw [Cells.set_of_le _ (by omega)]
      exact hrest _

/-- One mapping, whose slave is alive: its report is stored. -/
theorem copyFrom_eq_store (sim : NetworkSimulator σ) {m : InputMap} (ref : SlaveRef)
    (h : m.widthBytes ≤ 4) :
    sim.copyFrom m ref = some (sim.logical.storeAll
      (((SlaveDevice.readDigitalInputsBitfield (sim.objects ref).device).1.toList.map
        fun bits => (m, bits)).map reportWrite)) := by
  rw [copyFrom]
  cases (SlaveDevice.readDigitalInputsBitfield (sim.objects ref).device).1 with
  | none => rfl
  | some bits =>
    show copyInputs _ _ bits 0 m.widthBytes = _
    rw [copyInputs_eq_store _ m.logicalAddress.toNat_lt bits 0 (by omega)]
    simp only [Nat.zero_add]
    rfl

/-- The copy of a mapping reads the inputs of its slave. -/
theorem afterCopy_devices (sim : NetworkSimulator σ) (ref : SlaveRef)
    (logical : Cells UInt8 16384) :
    (fun r => ((sim.afterCopy ref logical).objects r).device) = fun r =>
      if r = ref then (SlaveDevice.readDigitalInputsBitfield (sim.objects ref).device).2
      else (sim.objects r).device := by
  funext r
  show (if r = ref then _ else sim.objects r : VirtualSlave σ).device = _
  split <;> rfl

/-- The loop over mappings that are no wider than the bit field goes through, and stores
the reports in order. -/
theorem refreshInputs_eq_storeAll (sim : NetworkSimulator σ) {maps : List InputMap}
    (h : ∀ m ∈ maps, m.widthBytes ≤ 4) :
    ∃ kept sim', sim.refreshInputs maps = some (kept, sim') ∧
      sim'.logical = sim.logical.storeAll
        ((reports sim.lock (fun ref => (sim.objects ref).device) maps).map reportWrite) := by
  induction maps generalizing sim with
  | nil => exact ⟨[], sim, rfl, rfl⟩
  | cons m maps ih =>
    have hrest : ∀ m ∈ maps, m.widthBytes ≤ 4 := fun m hm => h m (.tail _ hm)
    cases hlock : sim.lock m.slave with
    | none =>
      obtain ⟨kept, sim', hloop, hlogical⟩ := ih sim hrest
      refine ⟨kept, sim', ?_, ?_⟩
      · rw [refreshInputs, hlock]
        exact hloop
      · rw [hlogical, reports, hlock]
    | some ref =>
      have hcopy := copyFrom_eq_store sim ref (h m (.head _))
      generalize hmemory : sim.logical.storeAll _ = logical at hcopy
      obtain ⟨kept, sim', hloop, hlogical⟩ := ih (sim.afterCopy ref logical) hrest
      have hdevices := sim.afterCopy_devices ref logical
      refine ⟨m :: kept, sim', ?_, ?_⟩
      · rw [refreshInputs_cons_eq hlock, hcopy, Option.bind_some, hloop]
        rfl
      · have hafter : (sim.afterCopy ref logical).logical = logical := rfl
        have hlock' : (sim.afterCopy ref logical).lock = sim.lock := rfl
        rw [hlogical, hdevices, hlock', hafter, ← hmemory, ← Cells.storeAll_append,
          ← List.map_append, reports, hlock]

omit [SlaveDevice σ] in
theorem runRoutines_logical (sim : NetworkSimulator σ) :
    sim.runRoutines.logical = sim.logical := by
  refine @StepRun.run_unchanged _ _ _ _ NetworkSimulator.logical ?_ sim sim.slaves
  intro sim slot
  cases slot with
  | none => rfl
  | some ref =>
    show (if (sim.objects ref).online = true then _ else sim).logical = _
    split <;> rfl

omit [SlaveDevice σ] in
/-- A routine leaves the data of the subclass alone. -/
theorem runRoutines_devices (sim : NetworkSimulator σ) :
    (fun ref => (sim.runRoutines.objects ref).device) = fun ref => (sim.objects ref).device := by
  refine @StepRun.run_unchanged _ _ _ _ (fun sim ref => (sim.objects ref).device) ?_ sim
    sim.slaves
  intro sim slot
  cases slot with
  | none => rfl
  | some ref =>
    show (fun r => ((if (sim.objects ref).online = true then
      sim.setObject ref (sim.objects ref).routine else sim).objects r).device) = _
    split
    · funext r
      rw [setObject_objects]
      split
      · rename_i hr
        rw [hr, VirtualSlave.routine]
        split <;> rfl
      · rfl
    · rfl

/-- With mappings of at most four bytes `runOnce` goes through.  A byte of the logical
memory is then the byte of the last live mapping that covers it and reports a bit field,
or what it was before; and the mappings are those that are live, in their order. -/
theorem runOnce_exact {sim : NetworkSimulator σ} (h : ∀ m ∈ sim.inputMaps, m.widthBytes ≤ 4) :
    ∃ sim', sim.runOnce = some sim' ∧
      (∀ x < 16384, sim'.logical.get x =
        ((lastReport (reports sim.lock (fun ref => (sim.objects ref).device) sim.inputMaps) x).map
          (reportByte · x)).getD (sim.logical.get x)) ∧
      sim'.inputMaps = sim.inputMaps.filter fun m => (sim.lock m.slave).isSome := by
  have hroutines := RunStep.runRoutines sim
  have hwidth : ∀ m ∈ sim.runRoutines.inputMaps, m.widthBytes ≤ 4 := by
    rw [runRoutines_inputMaps]
    exact h
  obtain ⟨kept, sim', hloop, hlogical⟩ := refreshInputs_eq_storeAll sim.runRoutines hwidth
  have hrun : sim.runOnce = some { sim' with inputMaps := kept } := by
    rw [runOnce, hloop]
    rfl
  refine ⟨_, hrun, ?_, (RunStep.runOnce hrun).2⟩
  intro x hx
  show sim'.logical.get x = _
  rw [hlogical, Cells.get_storeAll _ _ hx, lastWritten_reports, hroutines.lock_eq,
    runRoutines_inputMaps, runRoutines_logical, runRoutines_devices]

end Refresh

/-- A terminal with three mappings: across the end of the memory, over the last byte, and
one of a slave that is gone. -/
def overlappingMaps : NetworkSimulator El1258 :=
  ((((new (El1258Slave.new 1 0 0)).addVirtualSlave (some 0)).mapDigitalInputs
    (some 0) 16382 4).mapDigitalInputs (some 1) 16383 1).mapDigitalInputs (some 0) 16383 1

theorem runOnce_exact_overlapping :
    ∃ sim', overlappingMaps.runOnce = some sim' ∧
      (∀ x < 16384, sim'.logical.get x =
        ((lastReport (reports overlappingMaps.lock
            (fun ref => (overlappingMaps.objects ref).device) overlappingMaps.inputMaps) x).map
          (reportByte · x)).getD (overlappingMaps.logical.get x)) ∧
      sim'.inputMaps =
        overlappingMaps.inputMaps.filter fun m => (overlappingMaps.lock m.slave).isSome :=
  runOnce_exact (by decide)

end NetworkSimulator

end EthercatSim

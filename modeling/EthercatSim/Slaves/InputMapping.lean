import EthercatSim.Network.Steps
import EthercatSim.Slaves.EL1258

/-!
# The two authorities over the mapping flag

SAFE_OP is admitted to a terminal when its inputs are mapped.  Two classes say so in
one flag: the simulator, which maps inputs into the logical memory, and the object
dictionary of the terminal, in which a master configures a TxPDO.  Each of them sets
the flag for itself and forgets the other.

* `MappedTruthfully`: the flag of every terminal is set exactly when the simulator
  has a live mapping for it or its CoE configuration is valid.
* `StoreBranch` is what a download stores, with its guards.
* `KeepsMapped`: the calls that keep the flags truthful.  A download to a mapped
  terminal must leave a valid configuration, and the mappings may be cleared only
  while no mapped terminal has one.
* `mappedTruthfully_iff`: the flags are truthful all along a run exactly when every
  call of it keeps them so.
* `mappedTruthfully_invert_mask_false`: a download of the invert mask closes SAFE_OP.
-/

namespace EthercatSim

open Kickcat El1258 StepRun

namespace EL1258

/-! ## The CoE configuration -/

/-- Some of the assigned objects is the TxPDO. -/
def IsAssigned (d : EL1258) : Prop :=
  ∃ i, i < d.assignCount.toNat ∧ d.assignEntries.get i = PDO_MAPPING_BASE

/-- The TxPDO is assigned and has an entry. -/
def CoeValid (d : EL1258) : Prop := d.IsAssigned ∧ 0 < d.txpdoCount

theorem mappingValid_iff (d : EL1258) : d.mappingValid = true ↔ d.CoeValid := by
  rw [mappingValid, Bool.and_eq_true, List.any_eq_true, decide_eq_true_iff, CoeValid, IsAssigned]
  simp only [List.mem_range, decide_eq_true_iff]

/-- The members that the configuration consists of. -/
def coe (d : EL1258) : UInt8 × UInt8 × Cells UInt16 4 :=
  (d.txpdoCount, d.assignCount, d.assignEntries)

theorem coeValid_congr {d d' : EL1258} (h : d'.coe = d.coe) : d'.CoeValid ↔ d.CoeValid := by
  obtain ⟨hcount, hassign, hentries⟩ : d'.txpdoCount = d.txpdoCount ∧
      d'.assignCount = d.assignCount ∧ d'.assignEntries = d.assignEntries := by
    simpa only [coe, Prod.mk.injEq] using h
  rw [CoeValid, CoeValid, IsAssigned, IsAssigned, hcount, hassign, hentries]

/-! ## Reading the inputs -/

/-- The terminal with its debounced channels erased. -/
def outsideFilter (d : EL1258) : EL1258 := { d with effDi := Cells.fill false }

theorem outsideFilter_coe (d : EL1258) : d.outsideFilter.coe = d.coe := rfl

/-- Reading an input changes nothing but the debounced channels. -/
theorem effectiveBit_outsideFilter (d : EL1258) (ch : Int) (now : Nat → Int) :
    (d.effectiveBit ch now).2.outsideFilter = d.outsideFilter := by
  unfold effectiveBit
  split
  · rfl
  · dsimp only
    split
    · rfl
    · split <;> rfl

theorem aggregateBits_outsideFilter (d : EL1258) (now : Nat → Int) :
    (d.aggregateBits now).2.outsideFilter = d.outsideFilter := by
  have hstep : ∀ (acc : UInt32 × EL1258) (i : Nat),
      (aggregateStep now acc i).2.outsideFilter = acc.2.outsideFilter :=
    fun acc i => effectiveBit_outsideFilter acc.2 i now
  exact @run_unchanged _ _ (aggregateStep now) _ (fun acc => acc.2.outsideFilter) hstep (0, d)
    (List.range CHANNEL_COUNT)

theorem effectiveBit_coe (d : EL1258) (ch : Int) (now : Nat → Int) :
    (d.effectiveBit ch now).2.coe = d.coe := by
  rw [← outsideFilter_coe, effectiveBit_outsideFilter, outsideFilter_coe]

theorem aggregateBits_coe (d : EL1258) (now : Nat → Int) :
    (d.aggregateBits now).2.coe = d.coe := by
  rw [← outsideFilter_coe, aggregateBits_outsideFilter, outsideFilter_coe]

theorem readInputs_coe (d : EL1258) :
    (SlaveDevice.readDigitalInputsBitfield d).2.coe = d.coe := by
  have hadvance : ∀ d : EL1258, d.advance.coe = d.coe := fun _ => rfl
  exact (hadvance _).trans (aggregateBits_coe d d.now)

theorem setRawInput_coe (d : EL1258) (ch : Int) (v : Bool) (now : Nat → Int) :
    (d.setRawInput ch v now).coe = d.coe := by
  unfold setRawInput
  split
  · rfl
  · split <;> rfl

/-! ## Downloads -/

/-- The objects that a download stores. -/
def IsStored (index : UInt16) (subindex : UInt8) : Prop :=
  ((index = OBJ_INVERT_MASK ∨ index = OBJ_DEBOUNCE_TIME) ∧ subindex = 0) ∨
    (index = PDO_MAPPING_BASE ∧ subindex ≤ CHANNEL_COUNT_U8) ∨
    (index = PDO_ASSIGN_TX ∧ subindex ≤ 4)

/-- What a download stores. -/
inductive StoreBranch (d : EL1258) (index : UInt16) (subindex : UInt8) (value : UInt32) :
    Bool × EL1258 → Prop
  | plain (d' : EL1258) (hindex : index = OBJ_INVERT_MASK ∨ index = OBJ_DEBOUNCE_TIME)
      (hsub : subindex = 0) (hcoe : d'.coe = d.coe) :
      StoreBranch d index subindex value (true, d')
  | count (entries : Cells UInt32 CHANNEL_COUNT) (hindex : index = PDO_MAPPING_BASE)
      (hsub : subindex = 0) :
      StoreBranch d index subindex value
        (true, { d with txpdoCount := clampCount value CHANNEL_COUNT_U8, txpdoEntries := entries })
  | entry (entries : Cells UInt32 CHANNEL_COUNT) (hindex : index = PDO_MAPPING_BASE)
      (hsub : 1 ≤ subindex ∧ subindex ≤ CHANNEL_COUNT_U8) :
      StoreBranch d index subindex value (true, { d with txpdoEntries := entries })
  | assignCount (hindex : index = PDO_ASSIGN_TX) (hsub : subindex = 0) :
      StoreBranch d index subindex value
        (true,
          { d with
            assignCount := clampCount value 4
            assignEntries := clearEntries d.assignEntries (clampCount value 4).toNat 0 })
  | assignEntry (hindex : index = PDO_ASSIGN_TX) (hsub : 1 ≤ subindex ∧ subindex ≤ 4) :
      StoreBranch d index subindex value
        (true,
          { d with
            assignEntries :=
              d.assignEntries.set (subindex.toNat - 1) (value &&& WORD_MASK).toUInt16 })
  | rejected (h : ¬IsStored index subindex) : StoreBranch d index subindex value (false, d)

theorem storeObject_branch (d : EL1258) (index : UInt16) (subindex : UInt8) (value : UInt32) :
    StoreBranch d index subindex value (d.storeObject index subindex value) := by
  unfold storeObject
  by_cases hi : index = OBJ_INVERT_MASK ∧ subindex = 0
  · rw [if_pos hi]
    exact .plain _ (.inl hi.1) hi.2 rfl
  rw [if_neg hi]
  by_cases hd : index = OBJ_DEBOUNCE_TIME ∧ subindex = 0
  · rw [if_pos hd]
    exact .plain _ (.inr hd.1) hd.2 rfl
  rw [if_neg hd]
  by_cases hm : index = PDO_MAPPING_BASE
  · rw [if_pos hm]
    by_cases h0 : subindex = 0
    · rw [if_pos h0]
      exact .count _ hm h0
    rw [if_neg h0]
    by_cases hle : 1 ≤ subindex ∧ subindex ≤ CHANNEL_COUNT_U8
    · rw [if_pos hle]
      exact .entry _ hm hle
    · rw [if_neg hle]
      refine .rejected ?_
      subst hm
      simp only [IsStored]
      grind
  rw [if_neg hm]
  by_cases ha : index = PDO_ASSIGN_TX
  · rw [if_pos ha]
    by_cases h0 : subindex = 0
    · rw [if_pos h0]
      exact .assignCount ha h0
    rw [if_neg h0]
    by_cases hle : 1 ≤ subindex ∧ subindex ≤ 4
    · rw [if_pos hle]
      exact .assignEntry ha hle
    · rw [if_neg hle]
      refine .rejected ?_
      subst ha
      simp only [IsStored]
      grind
  · rw [if_neg ha]
    refine .rejected ?_
    simp only [IsStored]
    grind

theorem get_clearEntries {α : Type} [Inhabited α] {n : Nat} (m : Cells α n) (count : Nat)
    (zero : α) (i : Nat) :
    (clearEntries m count zero).get i = if count ≤ i ∧ i < n then zero else m.get i := by
  have hloop : ∀ k, ((List.range k).foldl
      (fun m i => if count ≤ i then m.set i zero else m) m).get i =
        if count ≤ i ∧ i < k ∧ i < n then zero else m.get i := by
    intro k
    induction k with
    | zero => simp
    | succ k ih =>
      rw [List.range_succ, List.foldl_append]
      show (if count ≤ k then Cells.set _ k zero else _).get i = _
      split
      · rw [Cells.get_set, ih]
        grind
      · rw [ih]
        grind
  rw [clearEntries, hloop n]
  grind

theorem clampCount_pos_iff (value : UInt32) {bound : UInt8} (h : 0 < bound) :
    0 < clampCount value bound ↔ 0 < (value &&& BYTE_MASK).toUInt8 := by
  rw [clampCount]
  generalize (value &&& BYTE_MASK).toUInt8 = count
  show 0 < (if bound < count then bound else count) ↔ 0 < count
  split
  · rename_i hlt
    exact ⟨fun _ => UInt8.lt_trans h hlt, fun _ => h⟩
  · exact Iff.rfl

/-- The configuration that a download of a stored object leaves is valid. -/
def LeavesValid (d : EL1258) (index : UInt16) (subindex : UInt8) (value : UInt32) : Prop :=
  if index = PDO_MAPPING_BASE ∧ subindex = 0 then
    d.IsAssigned ∧ 0 < (value &&& BYTE_MASK).toUInt8
  else if index = PDO_ASSIGN_TX ∧ subindex = 0 then
    (∃ i, i < (clampCount value 4).toNat ∧ d.assignEntries.get i = PDO_MAPPING_BASE) ∧
      0 < d.txpdoCount
  else if index = PDO_ASSIGN_TX then
    (∃ i, i < d.assignCount.toNat ∧
      (if i + 1 = subindex.toNat then (value &&& WORD_MASK).toUInt16
        else d.assignEntries.get i) = PDO_MAPPING_BASE) ∧ 0 < d.txpdoCount
  else d.CoeValid

/-- A download that is not stored changes nothing, and the others leave a valid
configuration exactly when `LeavesValid` holds. -/
theorem storeObject_cases (d : EL1258) (index : UInt16) (subindex : UInt8) (value : UInt32) :
    (¬IsStored index subindex ∧ d.storeObject index subindex value = (false, d)) ∨
      (IsStored index subindex ∧ (d.storeObject index subindex value).1 = true ∧
        ((d.storeObject index subindex value).2.CoeValid ↔
          d.LeavesValid index subindex value)) := by
  have hbranch := d.storeObject_branch index subindex value
  have hbase : PDO_MAPPING_BASE ≠ PDO_ASSIGN_TX := by decide
  generalize d.storeObject index subindex value = out at hbranch
  unfold LeavesValid
  cases hbranch with
  | rejected h => exact .inl ⟨h, rfl⟩
  | plain d' hindex hsub hcoe =>
    have hmap : index ≠ PDO_MAPPING_BASE := by
      rcases hindex with rfl | rfl <;> decide
    have hassign : index ≠ PDO_ASSIGN_TX := by
      rcases hindex with rfl | rfl <;> decide
    refine .inr ⟨.inl ⟨hindex, hsub⟩, rfl, ?_⟩
    rw [if_neg (fun h => hmap h.1), if_neg (fun h => hassign h.1), if_neg hassign]
    exact coeValid_congr hcoe
  | count entries hindex hsub =>
    refine .inr ⟨.inr (.inl ⟨hindex, by rw [hsub]; decide⟩), rfl, ?_⟩
    rw [if_pos ⟨hindex, hsub⟩]
    have hpos := clampCount_pos_iff value (by decide : (0 : UInt8) < CHANNEL_COUNT_U8)
    exact and_congr_right fun _ => hpos
  | entry entries hindex hsub =>
    have hzero : subindex ≠ 0 := by grind
    refine .inr ⟨.inr (.inl ⟨hindex, hsub.2⟩), rfl, ?_⟩
    subst hindex
    rw [if_neg (fun h => hzero h.2), if_neg (fun h => hbase h.1), if_neg hbase]
    exact coeValid_congr rfl
  | assignCount hindex hsub =>
    refine .inr ⟨.inr (.inr ⟨hindex, by rw [hsub]; decide⟩), rfl, ?_⟩
    subst hindex
    rw [if_neg (fun h => hbase h.1.symm), if_pos ⟨rfl, hsub⟩]
    refine and_congr_left fun _ => exists_congr fun i => and_congr_right fun hi => ?_
    have hlt : i < (clampCount value 4).toNat := hi
    show (clearEntries d.assignEntries _ 0).get i = _ ↔ _
    rw [get_clearEntries, if_neg (by omega)]
  | assignEntry hindex hsub =>
    have hzero : subindex ≠ 0 := by grind
    have hle : 1 ≤ subindex.toNat ∧ subindex.toNat ≤ 4 := hsub
    refine .inr ⟨.inr (.inr ⟨hindex, hsub.2⟩), rfl, ?_⟩
    subst hindex
    rw [if_neg (fun h => hbase h.1.symm), if_neg (fun h => hzero h.2), if_pos rfl]
    refine and_congr_left fun _ => exists_congr fun i => and_congr_right fun hi => ?_
    have hsame : (i = subindex.toNat - 1 ∧ subindex.toNat - 1 < 4) ↔ i + 1 = subindex.toNat := by
      omega
    show (d.assignEntries.set _ _).get i = _ ↔ _
    simp only [Cells.get_set, hsame]

end EL1258

/-! ## The two authorities -/

/-- A call of either authority. -/
inductive MappingCall where
  | mapDigitalInputs (slave : Option SlaveRef) (logicalAddress : UInt32) (widthBytes : Nat)
  | clearInputMappings
  | runOnce
  | applyDefaultTxPdoMapping (ref : SlaveRef)
  | sdoDownload (ref : SlaveRef) (index : UInt16) (subindex : UInt8) (value : UInt32)
      (nbytes : UInt8)
  deriving DecidableEq, Repr

namespace MappingCall

/-- The simulator after one call.  A `runOnce` without a meaning in C++ is left
out. -/
def step (sim : NetworkSimulator EL1258) : MappingCall → NetworkSimulator EL1258
  | .mapDigitalInputs slave addr width => sim.mapDigitalInputs slave addr width
  | .clearInputMappings => sim.clearInputMappings
  | .runOnce => sim.runOnce.getD sim
  | .applyDefaultTxPdoMapping ref =>
    sim.setObject ref (EL1258Slave.applyDefaultTxPdoMapping (sim.objects ref))
  | .sdoDownload ref index subindex value nbytes =>
    sim.setObject ref ((sim.objects ref).sdoDownload index subindex value nbytes).2

/-- The terminal exists. -/
def IsLive (sim : NetworkSimulator EL1258) (ref : SlaveRef) : Prop :=
  sim.heldOutside ref = true ∨ some ref ∈ sim.slaves

/-- The simulator has a live mapping for the terminal. -/
def HasMapping (sim : NetworkSimulator EL1258) (ref : SlaveRef) : Prop :=
  ∃ m, m ∈ sim.inputMaps ∧ sim.lock m.slave = some ref

/-- The flag of every terminal says whether its inputs are mapped. -/
def MappedTruthfully (sim : NetworkSimulator EL1258) : Prop :=
  ∀ ref, IsLive sim ref → ((sim.objects ref).inputPdoMapped = true ↔
    HasMapping sim ref ∨ (sim.objects ref).device.CoeValid)

/-- The calls that keep the flags truthful.  A download that is stored in a mapped
terminal must leave a valid configuration; the mappings may be cleared only while no
mapped terminal has one. -/
def KeepsMapped (sim : NetworkSimulator EL1258) : MappingCall → Prop
  | .clearInputMappings => ∀ ref, HasMapping sim ref → ¬(sim.objects ref).device.CoeValid
  | .sdoDownload ref index subindex value _ =>
    HasMapping sim ref → EL1258.IsStored index subindex →
      (sim.objects ref).device.LeavesValid index subindex value
  | _ => True

/-- A download of the invert mask or the debounce time does not change whether
SAFE_OP is admitted. -/
def KeepsSafeOp (sim : NetworkSimulator EL1258) (call : MappingCall) : Prop :=
  ∀ ref index subindex value nbytes, call = .sdoDownload ref index subindex value nbytes →
    index = OBJ_INVERT_MASK ∨ index = OBJ_DEBOUNCE_TIME → IsLive sim ref →
      ((step sim call).objects ref).preconditionsMet .SAFE_OP =
        (sim.objects ref).preconditionsMet .SAFE_OP

theorem HasMapping.isLive {sim : NetworkSimulator EL1258} {ref : SlaveRef}
    (h : HasMapping sim ref) : IsLive sim ref := by
  obtain ⟨m, -, hlock⟩ := h
  exact (NetworkSimulator.lock_eq_some_iff.mp hlock).2

/-! ## The calls of the terminal -/

/-- A change of one terminal keeps the flags truthful exactly when its own flag is. -/
theorem setObject_mappedTruthfully_iff {sim : NetworkSimulator EL1258} (h : MappedTruthfully sim)
    (ref : SlaveRef) (s : EL1258Slave) :
    MappedTruthfully (sim.setObject ref s) ↔
      (IsLive sim ref → (s.inputPdoMapped = true ↔ HasMapping sim ref ∨ s.device.CoeValid)) := by
  constructor
  · intro h' hlive
    have hs := h' ref hlive
    rw [NetworkSimulator.setObject_objects, if_pos rfl] at hs
    exact hs
  · intro hs r hlive
    rw [NetworkSimulator.setObject_objects]
    split
    · rename_i hr
      subst hr
      exact hs hlive
    · exact h r hlive

theorem applyDefaultTxPdoMapping_coeValid (s : EL1258Slave) :
    (EL1258Slave.applyDefaultTxPdoMapping s).device.CoeValid := by
  refine ⟨⟨0, ?_, ?_⟩, ?_⟩
  · show 0 < (1 : UInt8).toNat
    decide
  · show (s.device.assignEntries.set 0 PDO_MAPPING_BASE).get 0 = PDO_MAPPING_BASE
    rw [Cells.get_set]
    rfl
  · show (0 : UInt8) < 1
    decide

theorem sdoDownload_mappedTruthfully_iff {sim : NetworkSimulator EL1258}
    (h : MappedTruthfully sim) (ref : SlaveRef) (index : UInt16) (subindex : UInt8)
    (value : UInt32) (nbytes : UInt8) :
    MappedTruthfully (step sim (.sdoDownload ref index subindex value nbytes)) ↔
      KeepsMapped sim (.sdoDownload ref index subindex value nbytes) := by
  have hiff := setObject_mappedTruthfully_iff h ref
    ((sim.objects ref).sdoDownload index subindex value nbytes).2
  have hcases := (sim.objects ref).device.storeObject_cases index subindex value
  have hout : ((sim.objects ref).sdoDownload index subindex value nbytes).2 =
      { sim.objects ref with
        inputPdoMapped :=
          if ((sim.objects ref).device.storeObject index subindex value).1 then
            ((sim.objects ref).device.storeObject index subindex value).2.mappingValid
          else (sim.objects ref).inputPdoMapped
        device := ((sim.objects ref).device.storeObject index subindex value).2 } := rfl
  rw [hout] at hiff
  refine hiff.trans ?_
  rcases hcases with ⟨hstored, hstore⟩ | ⟨hstored, hchanged, hvalid⟩
  · rw [hstore]
    exact ⟨fun _ _ hc => absurd hc hstored, fun _ hlive => h ref hlive⟩
  · simp only [hchanged, if_true, EL1258.mappingValid_iff, hvalid]
    constructor
    · intro hs hmapped _
      exact (hs hmapped.isLive).mpr (.inl hmapped)
    · intro hkeep _
      exact ⟨.inr, fun hor => hor.elim (fun hmapped => hkeep hmapped hstored) id⟩

/-! ## The calls of the simulator -/

/-- What `mapDigitalInputs` does to an object. -/
theorem mapDigitalInputs_objects (sim : NetworkSimulator EL1258) (slave : Option SlaveRef)
    (addr : UInt32) (width : Nat) (ref : SlaveRef) :
    (sim.mapDigitalInputs slave addr width).objects ref =
      if slave = some ref then (sim.objects ref).setInputPDOMapped true
      else sim.objects ref := by
  cases slave with
  | none => rfl
  | some r =>
    show (if ref = r then (sim.objects r).setInputPDOMapped true else sim.objects ref) = _
    by_cases hr : ref = r
    · subst hr
      rw [if_pos rfl, if_pos rfl]
    · rw [if_neg hr, if_neg (fun h => hr (Option.some.inj h).symm)]

/-- It adds one mapping and leaves the lifetimes alone. -/
theorem mapDigitalInputs_frame (sim : NetworkSimulator EL1258) (slave : Option SlaveRef)
    (addr : UInt32) (width : Nat) :
    (sim.mapDigitalInputs slave addr width).inputMaps =
        sim.inputMaps ++ [{ slave, logicalAddress := addr, widthBytes := width }] ∧
      (sim.mapDigitalInputs slave addr width).slaves = sim.slaves ∧
      (sim.mapDigitalInputs slave addr width).heldOutside = sim.heldOutside := by
  cases slave <;> exact ⟨rfl, rfl, rfl⟩

theorem mapDigitalInputs_mappedTruthfully {sim : NetworkSimulator EL1258}
    (h : MappedTruthfully sim) (slave : Option SlaveRef) (addr : UInt32) (width : Nat) :
    MappedTruthfully (step sim (.mapDigitalInputs slave addr width)) := by
  obtain ⟨hmaps, hslaves, hheld⟩ := mapDigitalInputs_frame sim slave addr width
  have hlock := NetworkSimulator.lock_congr hslaves hheld
  show MappedTruthfully (sim.mapDigitalInputs slave addr width)
  intro ref hlive
  have hlive' : IsLive sim ref := by
    rw [IsLive, hslaves, hheld] at hlive
    exact hlive
  have hmapping : HasMapping (sim.mapDigitalInputs slave addr width) ref ↔
      HasMapping sim ref ∨ slave = some ref := by
    have hnew : sim.lock slave = some ref ↔ slave = some ref := by
      rw [NetworkSimulator.lock_eq_some_iff]
      exact and_iff_left hlive'
    rw [HasMapping, hmaps, hlock]
    simp only [List.mem_append, List.mem_singleton, or_and_right, exists_or, exists_eq_left, hnew]
    exact Iff.rfl
  rw [hmapping, mapDigitalInputs_objects]
  split
  · rename_i hslave
    exact ⟨fun _ => .inl (.inr hslave), fun _ => rfl⟩
  · rename_i hslave
    rw [h ref hlive']
    simp only [hslave, or_false]

/-- What the loop of `clearInputMappings` does to an object, and that it leaves the
lifetimes alone. -/
theorem clearLoop_spec (maps : List InputMap) (sim : NetworkSimulator EL1258) :
    let out := maps.foldl
      (fun sim m =>
        match sim.lock m.slave with
        | some ref => sim.setObject ref ((sim.objects ref).setInputPDOMapped false)
        | none => sim) sim
    out.lock = sim.lock ∧ out.slaves = sim.slaves ∧ out.heldOutside = sim.heldOutside ∧
      ∀ ref, (out.objects ref).device = (sim.objects ref).device ∧
        ((out.objects ref).inputPdoMapped = true ↔ (sim.objects ref).inputPdoMapped = true ∧
          ¬∃ m, m ∈ maps ∧ sim.lock m.slave = some ref) := by
  induction maps generalizing sim with
  | nil => simp
  | cons m maps ih =>
    cases hm : sim.lock m.slave with
    | none =>
      obtain ⟨hlock, hslaves, hheld, hobjects⟩ := ih sim
      simp only [List.foldl_cons, hm]
      refine ⟨hlock, hslaves, hheld, ?_⟩
      intro ref
      rw [(hobjects ref).2]
      refine ⟨(hobjects ref).1, ?_⟩
      simp only [List.mem_cons, or_and_right, exists_or, exists_eq_left, hm, reduceCtorEq,
        false_or]
    | some r =>
      obtain ⟨hlock, hslaves, hheld, hobjects⟩ :=
        ih (sim.setObject r ((sim.objects r).setInputPDOMapped false))
      have hsame : (sim.setObject r ((sim.objects r).setInputPDOMapped false)).lock = sim.lock :=
        NetworkSimulator.lock_congr rfl rfl
      simp only [List.foldl_cons, hm]
      refine ⟨hlock.trans hsame, hslaves, hheld, ?_⟩
      intro ref
      rw [(hobjects ref).1, (hobjects ref).2, NetworkSimulator.setObject_objects, hsame]
      simp only [List.mem_cons, or_and_right, exists_or, exists_eq_left, hm, Option.some.injEq]
      by_cases hr : ref = r
      · subst hr
        rw [if_pos rfl]
        exact ⟨rfl, by simp [VirtualSlave.setInputPDOMapped]⟩
      · rw [if_neg hr]
        refine ⟨rfl, ?_⟩
        simp only [Ne.symm hr, false_or]

theorem clearInputMappings_mappedTruthfully_iff {sim : NetworkSimulator EL1258}
    (h : MappedTruthfully sim) :
    MappedTruthfully (step sim .clearInputMappings) ↔ KeepsMapped sim .clearInputMappings := by
  obtain ⟨-, hslaves, hheld, hobjects⟩ := clearLoop_spec sim.inputMaps sim
  have hlive : ∀ ref, IsLive sim.clearInputMappings ref ↔ IsLive sim ref := by
    intro ref
    rw [IsLive, IsLive]
    exact or_congr (by rw [← congrFun hheld ref]; rfl) (by rw [← hslaves]; rfl)
  have hnone : ∀ ref, ¬HasMapping sim.clearInputMappings ref := by
    intro ref hcase
    obtain ⟨m, hm, -⟩ := hcase
    cases hm
  have hflag : ∀ ref, ((sim.clearInputMappings.objects ref).inputPdoMapped = true ↔
      (sim.objects ref).inputPdoMapped = true ∧ ¬HasMapping sim ref) := fun ref => (hobjects ref).2
  have hdevice : ∀ ref, (sim.clearInputMappings.objects ref).device = (sim.objects ref).device :=
    fun ref => (hobjects ref).1
  show MappedTruthfully sim.clearInputMappings ↔ ∀ ref, _ → _
  constructor
  · intro h' ref hmapped hvalid
    have hs := h' ref ((hlive ref).mpr hmapped.isLive)
    rw [hflag, hdevice] at hs
    exact (hs.mpr (.inr hvalid)).2 hmapped
  · intro hkeep ref hl
    have hs := h ref ((hlive ref).mp hl)
    rw [hflag, hdevice, hs]
    constructor
    · intro hcase
      obtain ⟨hmapped | hvalid, hno⟩ := hcase
      · exact absurd hmapped hno
      · exact .inr hvalid
    · intro hcase
      rcases hcase with hmapped | hvalid
      · exact absurd hmapped (hnone ref)
      · exact ⟨.inr hvalid, fun hmapped => hkeep ref hmapped hvalid⟩

theorem runOnce_mappedTruthfully {sim : NetworkSimulator EL1258} (h : MappedTruthfully sim) :
    MappedTruthfully (step sim .runOnce) := by
  show MappedTruthfully (sim.runOnce.getD sim)
  cases hrun : sim.runOnce with
  | none => exact h
  | some sim' =>
    obtain ⟨hstep, hmaps⟩ := RunStep.runOnce hrun
    have hheld : sim'.heldOutside = sim.heldOutside := by
      have hframe := congrArg NetworkSimulator.heldOutside (hstep.frame sim.objects)
      exact hframe
    show MappedTruthfully sim'
    intro ref hlive
    rw [IsLive, hheld, hstep.slaves_eq] at hlive
    have hmapping : HasMapping sim' ref ↔ HasMapping sim ref := by
      rw [HasMapping, HasMapping, hmaps, hstep.lock_eq]
      refine exists_congr fun m => ?_
      rw [List.mem_filter]
      constructor
      · exact fun hm => ⟨hm.1.1, hm.2⟩
      · exact fun hm => ⟨⟨hm.1, by rw [hm.2]; rfl⟩, hm.2⟩
    have hflag : (sim'.objects ref).inputPdoMapped = (sim.objects ref).inputPdoMapped := by
      have hframe := congrArg VirtualSlave.inputPdoMapped
        ((hstep.objects ref).frame (sim.objects ref).device)
      exact hframe
    have hcoe := (hstep.objects ref).device_eq EL1258.readInputs_coe
    rw [hmapping, hflag, EL1258.coeValid_congr hcoe]
    exact h ref hlive

/-! ## Whole runs -/

/-- A call keeps the flags truthful exactly when `KeepsMapped` holds. -/
theorem step_mappedTruthfully_iff {sim : NetworkSimulator EL1258} (h : MappedTruthfully sim)
    (call : MappingCall) : MappedTruthfully (step sim call) ↔ KeepsMapped sim call := by
  cases call with
  | mapDigitalInputs slave addr width =>
    exact ⟨fun _ => trivial, fun _ => mapDigitalInputs_mappedTruthfully h slave addr width⟩
  | clearInputMappings => exact clearInputMappings_mappedTruthfully_iff h
  | runOnce => exact ⟨fun _ => trivial, fun _ => runOnce_mappedTruthfully h⟩
  | applyDefaultTxPdoMapping ref =>
    refine ⟨fun _ => trivial, fun _ => ?_⟩
    refine (setObject_mappedTruthfully_iff h ref _).mpr fun _ => ?_
    exact ⟨fun _ => .inr (applyDefaultTxPdoMapping_coeValid _), fun _ => rfl⟩
  | sdoDownload ref index subindex value nbytes =>
    exact sdoDownload_mappedTruthfully_iff h ref index subindex value nbytes

/-- While the flags stay truthful, an unrelated download does not touch the
admission of SAFE_OP. -/
theorem keepsSafeOp_of_mappedTruthfully {sim : NetworkSimulator EL1258} {call : MappingCall}
    (h : MappedTruthfully sim) (hnext : MappedTruthfully (step sim call)) :
    KeepsSafeOp sim call := by
  intro ref index subindex value nbytes heq hindex hlive
  subst heq
  show ((step sim _).objects ref).inputPdoMapped = (sim.objects ref).inputPdoMapped
  have hmapping : HasMapping (step sim (.sdoDownload ref index subindex value nbytes)) ref ↔
      HasMapping sim ref := Iff.rfl
  have hdevice : ((step sim (.sdoDownload ref index subindex value nbytes)).objects ref).device =
      ((sim.objects ref).device.storeObject index subindex value).2 := by
    rw [step, NetworkSimulator.setObject_objects, if_pos rfl]
    rfl
  have hvalid : ((sim.objects ref).device.storeObject index subindex value).2.CoeValid ↔
      (sim.objects ref).device.CoeValid := by
    have hne : index ≠ PDO_MAPPING_BASE ∧ index ≠ PDO_ASSIGN_TX := by
      rcases hindex with rfl | rfl <;> exact ⟨by decide, by decide⟩
    rcases (sim.objects ref).device.storeObject_cases index subindex value with
      ⟨-, hstore⟩ | ⟨-, -, hiff⟩
    · rw [hstore]
    · rw [hiff, EL1258.LeavesValid, if_neg (fun hc => hne.1 hc.1), if_neg (fun hc => hne.2 hc.1),
        if_neg hne.2]
  have hafter := hnext ref hlive
  rw [hmapping, hdevice, hvalid, ← h ref hlive] at hafter
  exact Bool.eq_iff_iff.mpr hafter

/-- A terminal as it is constructed. -/
structure Terminal where
  address : UInt16
  vendorId : UInt32
  productCode : UInt32
  clock : Nat → Int

/-- A new terminal in the registry. -/
def addTerminal (sim : NetworkSimulator EL1258) (t : Terminal) : NetworkSimulator EL1258 :=
  let (ref, sim) := sim.makeShared (EL1258Slave.new t.address t.vendorId t.productCode t.clock)
  sim.addVirtualSlave (some ref)

/-- A simulator with new terminals. -/
def newTerminals (terminals : List Terminal) : NetworkSimulator EL1258 :=
  terminals.foldl addTerminal (NetworkSimulator.new (EL1258Slave.new 0 0 0 fun _ => 0))

/-- Nothing is mapped or configured. -/
def Unmapped (sim : NetworkSimulator EL1258) : Prop :=
  sim.inputMaps = [] ∧ ∀ ref, (sim.objects ref).inputPdoMapped = false ∧
    ¬(sim.objects ref).device.CoeValid

theorem Unmapped.mappedTruthfully {sim : NetworkSimulator EL1258} (h : Unmapped sim) :
    MappedTruthfully sim := by
  intro ref _
  rw [(h.2 ref).1]
  constructor
  · intro hflag
    cases hflag
  · intro hcase
    rcases hcase with ⟨m, hm, -⟩ | hvalid
    · rw [h.1] at hm
      cases hm
    · exact absurd hvalid (h.2 ref).2

/-- A new terminal is not configured and its flag is not set. -/
theorem new_not_mapped (address : UInt16) (vendorId productCode : UInt32) (clock : Nat → Int) :
    (EL1258Slave.new address vendorId productCode clock).inputPdoMapped = false ∧
      ¬(EL1258Slave.new address vendorId productCode clock).device.CoeValid := by
  have hcoe : (EL1258Slave.new address vendorId productCode clock).device.coe =
      (EL1258.initial clock).coe := by
    show ((EL1258.initial clock).updateDerivedInputs (EL1258.initial clock).now).coe = _
    rw [EL1258.updateDerivedInputs, EL1258.setRawInput_coe, EL1258.setRawInput_coe]
  refine ⟨rfl, ?_⟩
  rw [EL1258.coeValid_congr hcoe]
  intro h
  have hcount : (0 : UInt8) < 0 := h.2
  exact absurd hcount (by decide)

theorem Unmapped.addTerminal {sim : NetworkSimulator EL1258} (h : Unmapped sim) (t : Terminal) :
    Unmapped (addTerminal sim t) := by
  refine ⟨h.1, ?_⟩
  intro ref
  show ((if ref = sim.nextRef then _ else sim.objects ref) : EL1258Slave).inputPdoMapped = false ∧
    ¬((if ref = sim.nextRef then _ else sim.objects ref) : EL1258Slave).device.CoeValid
  split
  · exact new_not_mapped t.address t.vendorId t.productCode t.clock
  · exact h.2 ref

theorem newTerminals_unmapped (terminals : List Terminal) : Unmapped (newTerminals terminals) := by
  have hstep : ∀ (sim : NetworkSimulator EL1258) (t : Terminal), Unmapped sim →
      Unmapped (addTerminal sim t) := fun _ t h => h.addTerminal t
  have hnew : Unmapped (NetworkSimulator.new (EL1258Slave.new 0 0 0 fun _ => 0)) :=
    ⟨rfl, fun _ => new_not_mapped 0 0 0 fun _ => 0⟩
  exact run_preserved hstep hnew terminals

/-- Along a run of the calls of both authorities, in any order, from any simulator
that holds terminals, the flags are truthful in every state exactly when they are so
at the start and every call keeps them so.  Then no download of the invert mask or
the debounce time changes whether SAFE_OP is admitted.  New terminals start with
truthful flags. -/
theorem mappedTruthfully_iff (sim : NetworkSimulator EL1258) (calls : List MappingCall) :
    (Always step MappedTruthfully sim calls ↔
        MappedTruthfully sim ∧ StepsOk step KeepsMapped sim calls) ∧
      (Always step MappedTruthfully sim calls → StepsOk step KeepsSafeOp sim calls) ∧
      ∀ terminals, MappedTruthfully (newTerminals terminals) := by
  have hstep : ∀ (sim : NetworkSimulator EL1258) (call : MappingCall), MappedTruthfully sim →
      (MappedTruthfully (step sim call) ↔ KeepsMapped sim call) :=
    fun _ call h => step_mappedTruthfully_iff h call
  refine ⟨?_, ?_, fun terminals => (newTerminals_unmapped terminals).mappedTruthfully⟩
  · constructor
    · intro h
      exact ⟨h.head, (always_iff_stepsOk hstep h.head calls).mp h⟩
    · intro h
      exact (always_iff_stepsOk hstep h.1 calls).mpr h.2
  · intro h
    have hsafe : ∀ (sim : NetworkSimulator EL1258) (call : MappingCall), MappedTruthfully sim →
        MappedTruthfully (step sim call) → KeepsSafeOp sim call :=
      fun _ _ hs hnext => keepsSafeOp_of_mappedTruthfully hs hnext
    exact h.stepsOk_imp hsafe (always_iff.mp h).2

/-- The inputs of a new terminal are mapped, and then its invert mask is set. -/
def mapThenInvert : List MappingCall :=
  [.mapDigitalInputs (some 0) 0 1, .sdoDownload 0 OBJ_INVERT_MASK 0 0xFF 4]

/-- The mapping opens SAFE_OP, and the download of the invert mask closes it, while
the mapping stays. -/
theorem mappedTruthfully_invert_mask_false :
    let sim := newTerminals [⟨1, VENDOR_ID, PRODUCT_CODE, fun _ => 0⟩]
    let mapped := step sim (.mapDigitalInputs (some 0) 0 1)
    let inverted := run step sim mapThenInvert
    (mapped.objects 0).preconditionsMet .SAFE_OP = true ∧
      (inverted.objects 0).preconditionsMet .SAFE_OP = false ∧
      IsLive inverted 0 ∧ HasMapping inverted 0 ∧
      ¬Always step MappedTruthfully sim mapThenInvert := by
  intro sim mapped inverted
  have hlive : IsLive inverted 0 := .inr (.head _)
  have hmapping : HasMapping inverted 0 := ⟨_, .head _, rfl⟩
  have hclosed : (inverted.objects 0).preconditionsMet .SAFE_OP = false := by decide
  refine ⟨by decide, hclosed, hlive, hmapping, ?_⟩
  intro h
  have hflag : (inverted.objects 0).inputPdoMapped = true :=
    (h.last 0 hlive).mpr (.inl hmapping)
  have hopen : (inverted.objects 0).preconditionsMet .SAFE_OP = true := hflag
  rw [hclosed] at hopen
  cases hopen

end MappingCall

end EthercatSim

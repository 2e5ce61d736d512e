import EthercatSim.Network.ProcessImage

/-!
# The shifts of the process image

`runOnce` shifts the bit field of a mapping by eight bits for each byte that it copies.
The width of a mapping is any `std::size_t`, and `mapDigitalInputs` does not look at it.  A
shift of the 32-bit word by 32 or more is undefined, and nothing but the end of the logical
memory stops the loop behind the fourth byte.

* `ShiftsDefined`: the copy of a mapping makes no undefined shift.
* `runOnce_isSome_iff`: `runOnce` goes through exactly when no mapping that reports a bit
  field in this call makes one.
* `imageShifts_iff`: the shifts are defined, and the bytes behind the fourth are zero,
  exactly when no byte behind the fourth is inside the memory.
* `imageShifts_wide_false`: a mapping of five bytes.
-/

namespace EthercatSim

open NetworkSimulator

variable {σ : Type}

namespace InputMap

/-- The loop copies byte `i` of the bit field. -/
def Copies (m : InputMap) (i : Nat) : Prop :=
  i < m.widthBytes ∧ castSize (m.logicalAddress.toNat + i) < 16384

/-- Every shift that the copy makes is one by less than 32. -/
def ShiftsDefined (m : InputMap) : Prop := ∀ i, m.Copies i → castSize (8 * i) < 32

/-- Byte `i` of the bit field, where the shift is defined. -/
def copiedByte (bits : UInt32) (i : Nat) : Option UInt8 :=
  if castSize (8 * i) < 32 then some (inputByte bits i) else none

/-- The bytes that are copied from behind the bit field are zero. -/
def PadsWithZero (m : InputMap) (bits : UInt32) : Prop :=
  ∀ i, m.Copies i → 4 ≤ i → copiedByte bits i = some 0

/-- No byte behind the fourth is inside the logical memory. -/
def Fits (m : InputMap) : Prop := FitsBitfield m.logicalAddress.toNat m.widthBytes

instance (m : InputMap) : Decidable m.Fits :=
  inferInstanceAs (Decidable (FitsBitfield m.logicalAddress.toNat m.widthBytes))

theorem shiftsDefined_iff_fits (m : InputMap) : m.ShiftsDefined ↔ m.Fits := by
  rw [Fits, ← shifts_iff_fits m.logicalAddress.toNat_lt]
  constructor
  · intro h i hi hx
    exact h i ⟨hi, hx⟩
  · intro h i hi
    exact h i hi.1 hi.2

/-- A mapping that fits copies four bytes at most. -/
theorem Fits.lt_of_copies {m : InputMap} (h : m.Fits) {i : Nat} (hi : m.Copies i) : i < 4 := by
  have hshift := (m.shiftsDefined_iff_fits.mpr h) i hi
  obtain ⟨hwidth, hx⟩ := hi
  unfold Fits FitsBitfield at h
  unfold castSize at hshift hx
  omega

end InputMap

namespace NetworkSimulator

variable [SlaveDevice σ]

/-- What the live mappings report in a call of `runOnce`. -/
def bitfields (sim : NetworkSimulator σ) : List (InputMap × UInt32) :=
  reports sim.lock (fun ref => (sim.objects ref).device) sim.inputMaps

theorem copyInputs_isSome_iff_shiftsDefined (logical : Cells UInt8 16384) (m : InputMap)
    (bits : UInt32) :
    (copyInputs logical m.logicalAddress.toNat bits 0 m.widthBytes).isSome = true ↔
      m.ShiftsDefined := by
  rw [copyInputs_isSome_iff]
  constructor
  · intro h i hi
    exact h i (Nat.zero_le i) (by rw [Nat.zero_add]; exact hi.1) hi.2
  · intro h i _ hi hx
    rw [Nat.zero_add] at hi
    exact h i ⟨hi, hx⟩

/-- One mapping, whose slave is alive. -/
theorem copyFrom_isSome_iff (sim : NetworkSimulator σ) (m : InputMap) (ref : SlaveRef) :
    (sim.copyFrom m ref).isSome = true ↔
      ∀ r ∈ (SlaveDevice.readDigitalInputsBitfield (sim.objects ref).device).1.toList.map
        fun bits => (m, bits), r.1.ShiftsDefined := by
  rw [copyFrom]
  cases (SlaveDevice.readDigitalInputsBitfield (sim.objects ref).device).1 with
  | none => simp
  | some bits =>
    rw [Option.toList_some, List.map_singleton, List.forall_mem_singleton]
    exact copyInputs_isSome_iff_shiftsDefined _ m bits

/-- The loop over the mappings. -/
theorem refreshInputs_isSome_iff (sim : NetworkSimulator σ) (maps : List InputMap) :
    (sim.refreshInputs maps).isSome = true ↔
      ∀ r ∈ reports sim.lock (fun ref => (sim.objects ref).device) maps, r.1.ShiftsDefined := by
  induction maps generalizing sim with
  | nil => exact iff_of_true rfl fun r hr => absurd hr List.not_mem_nil
  | cons m maps ih =>
    cases hlock : sim.lock m.slave with
    | none =>
      rw [refreshInputs, reports, hlock]
      exact ih sim
    | some ref =>
      have hcopy := sim.copyFrom_isSome_iff m ref
      rw [refreshInputs_cons_eq hlock, reports, hlock]
      dsimp only
      rw [List.forall_mem_append, ← hcopy]
      cases hout : sim.copyFrom m ref with
      | none => simp
      | some logical =>
        have hrest := ih (sim.afterCopy ref logical)
        rw [sim.afterCopy_devices ref logical] at hrest
        have hlock' : (sim.afterCopy ref logical).lock = sim.lock := rfl
        rw [hlock'] at hrest
        rw [Option.bind_some, ← hrest]
        cases (sim.afterCopy ref logical).refreshInputs maps with
        | none => simp
        | some out => simp

/-- The call makes no undefined shift exactly when no mapping of it does. -/
theorem runOnce_isSome_iff (sim : NetworkSimulator σ) :
    sim.runOnce.isSome = true ↔ ∀ r ∈ sim.bitfields, r.1.ShiftsDefined := by
  have hloop := sim.runRoutines.refreshInputs_isSome_iff sim.runRoutines.inputMaps
  rw [(RunStep.runRoutines sim).lock_eq, runRoutines_devices, runRoutines_inputMaps] at hloop
  rw [bitfields, ← hloop, runOnce, runRoutines_inputMaps]
  cases sim.runRoutines.refreshInputs sim.inputMaps with
  | none => simp
  | some out => simp

/-- In a call of `runOnce` every shift is one by less than 32, and every byte that is copied
from behind the bit field is zero, exactly when no mapping that reports a bit field has a
byte behind the fourth inside the logical memory. -/
theorem imageShifts_iff (sim : NetworkSimulator σ) :
    (sim.runOnce.isSome = true ↔ ∀ r ∈ sim.bitfields, r.1.ShiftsDefined) ∧
      ((∀ r ∈ sim.bitfields, r.1.ShiftsDefined ∧ r.1.PadsWithZero r.2) ↔
        ∀ r ∈ sim.bitfields, r.1.Fits) := by
  refine ⟨sim.runOnce_isSome_iff, ?_⟩
  constructor
  · intro h r hr
    exact r.1.shiftsDefined_iff_fits.mp (h r hr).1
  · intro h r hr
    refine ⟨r.1.shiftsDefined_iff_fits.mpr (h r hr), ?_⟩
    intro i hi hbehind
    exact absurd ((h r hr).lt_of_copies hi) (Nat.not_lt.mpr hbehind)

/-- The inputs of a terminal are mapped to five bytes of the logical memory. -/
theorem imageShifts_wide_false :
    let sim := (((new (El1258Slave.new 1 0 0)).addVirtualSlave (some 0)).mapDigitalInputs
      (some 0) 0 5)
    sim.bitfields = [(⟨some 0, 0, 5⟩, 0)] ∧ InputMap.Copies ⟨some 0, 0, 5⟩ 4 ∧
      castSize (8 * 4) = 32 ∧ sim.runOnce.isSome = false ∧
      ¬∀ r ∈ sim.bitfields, r.1.ShiftsDefined ∧ r.1.PadsWithZero r.2 := by
  intro sim
  have hbits : sim.bitfields = [(⟨some 0, 0, 5⟩, 0)] := by decide
  have hcopies : InputMap.Copies ⟨some 0, 0, 5⟩ 4 := ⟨by decide, by decide⟩
  have hshift : castSize (8 * 4) = 32 := by decide
  refine ⟨hbits, hcopies, hshift, by decide, ?_⟩
  intro hall
  rw [hbits, List.forall_mem_singleton] at hall
  exact absurd (hall.1 4 hcopies) (by decide)

end NetworkSimulator

end EthercatSim

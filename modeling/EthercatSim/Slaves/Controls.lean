import EthercatSim.Slaves.Debounce

/-!
# The controls of the `EL1258Slave`

Two inputs have a control of their own: channel 1 shows the power and channel 0 the power
button.  The raw input and the control are two members, and `setPower` derives both inputs
anew.  A call of `setInput` for channel 1 writes the control, too; one for channel 0 does
not, so the input stays only until the next call of `setPower`.

* `MirrorsControls`: the two inputs are what their controls say.
* `LeavesOthers`: a call changes no raw input but the one that it names.
* `KeepsButton`: the call does not set channel 0 apart from the button.
* `mirrorsControls_iff`: the inputs mirror their controls all along a run, and every call
  leaves the other inputs alone, exactly when every call keeps the button.
* `mirrorsControls_reverted_false`: `setPower` reverts channel 0.
-/

namespace EthercatSim

open Kickcat Bytes El1258 StepRun

namespace EL1258

/-- The two inputs are what their controls say. -/
def MirrorsControls (d : EL1258) : Prop :=
  d.rawDi.get 1 = d.power ∧ d.rawDi.get 0 = d.powerButton

instance (d : EL1258) : Decidable (MirrorsControls d) := inferInstanceAs (Decidable (_ ∧ _))

theorem mirrorsControls_congr {d d' : EL1258} (h : d'.inputs = d.inputs) :
    d'.MirrorsControls ↔ d.MirrorsControls := by
  obtain ⟨hinputs, hcontrols⟩ := Prod.mk.inj h
  obtain ⟨hraw, -⟩ := Prod.mk.inj hinputs
  obtain ⟨hpower, hbutton⟩ := Prod.mk.inj hcontrols
  rw [MirrorsControls, MirrorsControls, hraw, hpower, hbutton]

/-! ## The three mutators -/

theorem setRawInput_raw (d : EL1258) (ch : Int) (v : Bool) (now : Nat → Int) {j : Nat}
    (hj : j < CHANNEL_COUNT) :
    (d.setRawInput ch v now).rawDi.get j = if ch = j then v else d.rawDi.get j := by
  by_cases hc : 0 ≤ ch ∧ ch < CHANNEL_MAX
  · obtain ⟨n, hn, rfl⟩ := channel_range.mp hc
    have hfilter := congrArg Debounce.Filter.raw (d.setRawInput_filter hn v now j)
    refine hfilter.trans ?_
    by_cases hjn : j = n
    · rw [if_pos hjn, if_pos (by omega), Debounce.Filter.set_raw]
    · rw [if_neg hjn, if_neg (by omega)]
      rfl
  · have hout : ch < 0 ∨ CHANNEL_MAX ≤ ch := by omega
    rw [setRawInput, if_pos hout, if_neg fun h => hc (channel_range.mpr ⟨j, hj, h⟩)]

theorem setRawInput_controls (d : EL1258) (ch : Int) (v : Bool) (now : Nat → Int) :
    (d.setRawInput ch v now).inputs.2 = d.inputs.2 := by
  unfold setRawInput
  split_ifs <;> rfl

theorem setPower_raw (d : EL1258) (on : Bool) (now : Nat → Int) {j : Nat}
    (hj : j < CHANNEL_COUNT) :
    (d.setPower on now).rawDi.get j =
      if j = 0 then d.powerButton else if j = 1 then on else d.rawDi.get j := by
  rw [setPower, updateDerivedInputs, setRawInput_raw _ _ _ _ hj, setRawInput_raw _ _ _ _ hj]
  by_cases h0 : j = 0
  · rw [if_pos h0, if_pos (by omega)]
  · rw [if_neg h0, if_neg (by omega)]
    by_cases h1 : j = 1
    · rw [if_pos h1, if_pos (by omega)]
    · rw [if_neg h1, if_neg (by omega)]

theorem setPower_controls (d : EL1258) (on : Bool) (now : Nat → Int) :
    (d.setPower on now).inputs.2 = (on, d.powerButton) := by
  rw [setPower, updateDerivedInputs, setRawInput_controls, setRawInput_controls]
  rfl

theorem setPowerButton_raw (d : EL1258) (pressed : Bool) (now : Nat → Int) {j : Nat}
    (hj : j < CHANNEL_COUNT) :
    (d.setPowerButton pressed now).rawDi.get j = if j = 0 then pressed else d.rawDi.get j := by
  rw [setPowerButton, setRawInput_raw _ _ _ _ hj]
  by_cases h0 : j = 0
  · rw [if_pos h0, if_pos (by omega)]
  · rw [if_neg h0, if_neg (by omega)]

theorem setPowerButton_controls (d : EL1258) (pressed : Bool) (now : Nat → Int) :
    (d.setPowerButton pressed now).inputs.2 = (d.power, pressed) := by
  rw [setPowerButton, setRawInput_controls]
  rfl

theorem setInput_raw (d : EL1258) (c : Int) (v : Bool) (now : Nat → Int) {j : Nat}
    (hj : j < CHANNEL_COUNT) :
    (d.setInput c v now).rawDi.get j = if c = j then v else d.rawDi.get j := by
  rw [setInput]
  split
  · rw [← setRawInput_raw d c v now hj]
    dsimp only
    split <;> rfl
  · rename_i hc
    rw [if_neg fun h => hc (channel_range.mpr ⟨j, hj, h⟩)]

/-- The control of channel 1 follows the input, that of channel 0 does not. -/
theorem setInput_controls (d : EL1258) (c : Int) (v : Bool) (now : Nat → Int) :
    (d.setInput c v now).inputs.2 = (if c = 1 then v else d.power, d.powerButton) := by
  have hset := d.setRawInput_controls c v now
  have hbutton : (d.setRawInput c v now).powerButton = d.powerButton := congrArg Prod.snd hset
  rw [setInput]
  split
  · dsimp only
    split
    · rw [← hbutton]
      rfl
    · exact hset
  · rename_i hc
    have hne : c ≠ 1 := fun h => hc (channel_range.mpr ⟨1, by decide, h⟩)
    rw [if_neg hne]
    rfl

/-- `setPower` derives both inputs anew, whatever they were. -/
theorem setPower_mirrorsControls (d : EL1258) (on : Bool) (now : Nat → Int) :
    (d.setPower on now).MirrorsControls := by
  obtain ⟨hpower, hbutton⟩ := Prod.mk.inj (d.setPower_controls on now)
  constructor
  · rw [d.setPower_raw on now (by decide)]
    exact hpower.symm
  · rw [d.setPower_raw on now (by decide)]
    exact hbutton.symm

theorem setPowerButton_mirrorsControls {d : EL1258} (h : d.MirrorsControls) (pressed : Bool)
    (now : Nat → Int) : (d.setPowerButton pressed now).MirrorsControls := by
  obtain ⟨hpower, hbutton⟩ := Prod.mk.inj (d.setPowerButton_controls pressed now)
  constructor
  · rw [d.setPowerButton_raw pressed now (by decide)]
    exact h.1.trans hpower.symm
  · rw [d.setPowerButton_raw pressed now (by decide)]
    exact hbutton.symm

/-- `setInput` keeps the power with channel 1, but not the button with channel 0. -/
theorem setInput_mirrorsControls_iff {d : EL1258} (h : d.MirrorsControls) (c : Int) (v : Bool)
    (now : Nat → Int) :
    (d.setInput c v now).MirrorsControls ↔ (c = 0 → v = d.powerButton) := by
  obtain ⟨hone, hzero⟩ := h
  obtain ⟨hpower, hbutton⟩ := Prod.mk.inj (d.setInput_controls c v now)
  have hpower' : (d.setInput c v now).power = if c = 1 then v else d.power := hpower
  have hbutton' : (d.setInput c v now).powerButton = d.powerButton := hbutton
  rw [MirrorsControls, d.setInput_raw c v now (by decide), d.setInput_raw c v now (by decide),
    hpower', hbutton', hone, hzero]
  simp

end EL1258

/-! ## One call -/

/-- The call names the channel as the one that it changes. -/
def TerminalCall.Names (ch : Nat) : TerminalCall → Prop
  | .setPower _ _ => ch = 1
  | .setPowerButton _ _ => ch = 0
  | .setInput c _ _ => c = ch
  | _ => False

namespace EL1258Slave

/-- The call changes the raw value of no channel that it does not name. -/
def LeavesOthers (s : EL1258Slave) (call : TerminalCall) : Prop :=
  ∀ ch < CHANNEL_COUNT, ¬call.Names ch →
    (terminalStep s call).device.rawDi.get ch = s.device.rawDi.get ch

/-- The call does not set channel 0 apart from the power button. -/
def KeepsButton (s : EL1258Slave) : TerminalCall → Prop
  | .setInput c value _ => c = 0 → value = s.device.powerButton
  | _ => True

/-- A call keeps the inputs with their controls exactly when it keeps the button. -/
theorem terminalStep_mirrorsControls_iff {s : EL1258Slave} (h : s.device.MirrorsControls)
    (call : TerminalCall) :
    (terminalStep s call).device.MirrorsControls ↔ KeepsButton s call := by
  cases call with
  | setPower on now => exact iff_of_true (s.device.setPower_mirrorsControls on now) trivial
  | setPowerButton pressed now =>
    exact iff_of_true (EL1258.setPowerButton_mirrorsControls h pressed now) trivial
  | setInput c value now => exact EL1258.setInput_mirrorsControls_iff h c value now
  | _ =>
    refine iff_of_true ((EL1258.mirrorsControls_congr (s.terminalStep_inputs ?_)).mpr h) trivial
    exact id

/-- While the inputs mirror their controls, a call changes the input that it names only. -/
theorem leavesOthers_of_mirrorsControls {s : EL1258Slave} (h : s.device.MirrorsControls)
    (call : TerminalCall) : LeavesOthers s call := by
  intro ch hch hother
  have hsame : ¬call.SetsInput → (terminalStep s call).device.rawDi = s.device.rawDi :=
    fun hno => congrArg (fun x => x.1.1) (s.terminalStep_inputs hno)
  cases call with
  | setPower on now =>
    refine (s.device.setPower_raw on now hch).trans ?_
    by_cases h0 : ch = 0
    · rw [if_pos h0, h0]
      exact h.2.symm
    · rw [if_neg h0, if_neg (by exact hother)]
  | setPowerButton pressed now =>
    exact (s.device.setPowerButton_raw pressed now hch).trans (if_neg hother)
  | setInput c value now => exact (s.device.setInput_raw c value now hch).trans (if_neg hother)
  | _ =>
    rw [hsame]
    exact id

/-! ## Whole runs -/

theorem new_mirrorsControls (address : UInt16) (vendorId productCode : UInt32)
    (clock : Nat → Int) : (new address vendorId productCode clock).device.MirrorsControls :=
  (EL1258.initial clock).setPower_mirrorsControls false (EL1258.initial clock).now

/-- All along a run of calls the two inputs mirror their controls, and every call leaves
the other inputs alone, exactly when no call sets channel 0 apart from the power button. -/
theorem mirrorsControls_iff (address : UInt16) (vendorId productCode : UInt32)
    (clock : Nat → Int) (calls : List TerminalCall) :
    (Always terminalStep (fun s => s.device.MirrorsControls)
        (new address vendorId productCode clock) calls ∧
      StepsOk terminalStep LeavesOthers (new address vendorId productCode clock) calls) ↔
      StepsOk terminalStep KeepsButton (new address vendorId productCode clock) calls := by
  have hstep : ∀ (s : EL1258Slave) (call : TerminalCall), s.device.MirrorsControls →
      ((terminalStep s call).device.MirrorsControls ↔ KeepsButton s call) :=
    fun _ call h => terminalStep_mirrorsControls_iff h call
  have hstart := new_mirrorsControls address vendorId productCode clock
  have halways := @always_iff_stepsOk _ _ terminalStep (fun s => s.device.MirrorsControls)
    KeepsButton hstep _ hstart calls
  rw [halways]
  refine and_iff_left_of_imp ?_
  intro hkeeps
  refine (halways.mpr hkeeps).stepsOk_imp ?_ hkeeps
  exact fun _ call hmirror _ => leavesOthers_of_mirrorsControls hmirror call

/-- Channel 0 is set, and the power is switched on: the input falls back to the power
button. -/
theorem mirrorsControls_reverted_false :
    let s := terminalStep (new 1 2 3 fun _ => 0) (.setInput 0 true fun _ => 0)
    let s' := terminalStep s (.setPower true fun _ => 0)
    s.device.rawDi.get 0 = true ∧ s.device.powerButton = false ∧ ¬s.device.MirrorsControls ∧
      s'.device.rawDi.get 0 = false ∧ ¬LeavesOthers s (.setPower true fun _ => 0) := by
  intro s s'
  have hset : s.device.rawDi.get 0 = true := by decide
  have hreverted : s'.device.rawDi.get 0 = false := by decide
  refine ⟨hset, by decide, by decide, hreverted, ?_⟩
  intro hothers
  have hsame := hothers 0 (by decide) Nat.zero_ne_one
  rw [hset] at hsame
  exact absurd (hreverted.symm.trans hsame) (by decide)

end EL1258Slave

end EthercatSim

import EthercatSim.Lib.Debounce
import EthercatSim.Slaves.ObjectDictionary

/-!
# The debounced inputs of the `EL1258Slave`

Each channel of the terminal is a lazy debounce filter, `Debounce.Filter`, and a read of
the inputs reads the filters of the channels that it shows.  With a debounce time of zero
a read goes past the filter.  It also leaves it behind: when a debounce time is set again,
the filter still holds what it took over last, and the next read reports that.

* `effectiveBit_filter` and `aggregateBits_filter`: what a read reports, and what it makes
  of the filters.
* `InputHistory`: a terminal with what a master has read of one channel.
* `ReportsSteady`: a read that differs from the one before it reports a value that the
  input has held for the debounce time.
* `debounce_steady_iff`: the reads of a run are steady exactly when none of them is made
  through a filter that has not followed the last read.
* `debounce_bypass_false`: the run that shows the glitch.
-/

namespace EthercatSim

open Kickcat Bytes El1258 StepRun

namespace EL1258

/-! ## The filters -/

/-- The filter of a channel. -/
def filter (d : EL1258) (i : Nat) : Debounce.Filter :=
  { raw := d.rawDi.get i, filtered := d.effDi.get i, since := d.lastChange.get i }

/-- The debounce time in nanoseconds. -/
def wait (d : EL1258) : Int := d.debounceMs.toNat * 1000000

/-- The members that a read of the inputs does not touch. -/
def settings (d : EL1258) : UInt16 × UInt8 := (d.debounceMs, d.invertMask)

theorem wait_congr {d d' : EL1258} (h : d'.settings = d.settings) : d'.wait = d.wait := by
  have hms : d'.debounceMs = d.debounceMs := congrArg Prod.fst h
  rw [wait, wait, hms]

theorem invertBit_congr {d d' : EL1258} (h : d'.settings = d.settings) (i : Nat) :
    d'.invertBit i = d.invertBit i := by
  have hmask : d'.invertMask = d.invertMask := congrArg Prod.snd h
  rw [invertBit, invertBit, hmask]

/-- The range test of `input` and `setInput`. -/
theorem channel_range {c : Int} :
    0 ≤ c ∧ c < CHANNEL_MAX ↔ ∃ ch : Nat, ch < CHANNEL_COUNT ∧ c = ch := by
  show 0 ≤ c ∧ c < (8 : Int) ↔ ∃ ch : Nat, ch < 8 ∧ c = ch
  exact ⟨fun hc => ⟨c.toNat, by omega, by omega⟩, fun ⟨ch, hch, hc⟩ => by omega⟩

/-- The range test of `effectiveBit_` and `setRawInput_`. -/
theorem channel_not_outside {i : Nat} (hi : i < CHANNEL_COUNT) :
    ¬((i : Int) < 0 ∨ CHANNEL_MAX ≤ (i : Int)) := by
  have hi' : i < 8 := hi
  show ¬((i : Int) < 0 ∨ 8 ≤ (i : Int))
  omega

/-- The channel of a digital input object. -/
theorem subindex_channel {subindex : UInt8} (hone : 1 ≤ subindex)
    (height : subindex ≤ CHANNEL_COUNT_U8) :
    (subindex - 1).toNat < CHANNEL_COUNT ∧ subindex.toNat = (subindex - 1).toNat + 1 := by
  have hpos : 1 ≤ subindex.toNat := UInt8.le_iff_toNat_le.mp hone
  have hmax : subindex.toNat ≤ 8 := UInt8.le_iff_toNat_le.mp height
  have hsi : (subindex - 1).toNat = subindex.toNat - 1 := UInt8.toNat_sub_of_le _ _ hone
  show (subindex - 1).toNat < 8 ∧ _
  omega

/-- Every channel has its digital input object. -/
theorem channel_subindex {subindex : UInt8} {ch : Nat} (hch : ch < CHANNEL_COUNT)
    (hsub : subindex.toNat = ch + 1) : 1 ≤ subindex ∧ subindex ≤ CHANNEL_COUNT_U8 := by
  rw [UInt8.le_iff_toNat_le, UInt8.le_iff_toNat_le, hsub]
  exact ⟨Nat.le_add_left 1 ch, hch⟩

theorem filter_ite (d : EL1258) (i j : Nat) :
    (if j = i then d.filter i else d.filter j) = d.filter j := by
  split
  · rename_i hj
    rw [hj]
  · rfl

/-- A debounced channel takes over a value. -/
theorem filter_set_effDi (d : EL1258) {i : Nat} (hi : i < CHANNEL_COUNT) (v : Bool) (j : Nat) :
    filter { d with effDi := d.effDi.set i v } j =
      if j = i then { d.filter i with filtered := v } else d.filter j := by
  unfold filter
  dsimp only
  rw [Cells.get_set]
  by_cases hj : j = i
  · rw [if_pos ⟨hj, hi⟩, if_pos hj, hj]
  · rw [if_neg fun hc => hj hc.1, if_neg hj]

/-- What a read of one channel reports and what it makes of the filters. -/
theorem effectiveBit_filter (d : EL1258) {i : Nat} (hi : i < CHANNEL_COUNT) (now : Nat → Int) :
    (d.effectiveBit i now).1 = (((d.filter i).read d.wait (now i)).1 ^^ d.invertBit i) ∧
      (∀ j, (d.effectiveBit i now).2.filter j =
        if j = i then ((d.filter i).read d.wait (now i)).2 else d.filter j) ∧
      (d.effectiveBit i now).2.settings = d.settings := by
  rw [effectiveBit, if_neg (channel_not_outside hi), Int.toNat_natCast]
  by_cases hzero : d.debounceMs = 0
  · have hwait : d.wait = 0 := by
      rw [wait, hzero]
      rfl
    simp only [if_pos hzero, hwait, Debounce.Filter.read, if_true]
    exact ⟨rfl, fun j => (d.filter_ite i j).symm, trivial⟩
  · have hms : d.debounceMs.toNat ≠ 0 := fun hc => hzero (UInt16.toNat_inj.mp hc)
    have hwait : d.wait ≠ 0 := by
      rw [wait]
      omega
    have hold : (d.debounceMs.toNat : Int) ≤ (now i - d.lastChange.get i).tdiv 1000000 ↔
        d.wait ≤ now i - d.lastChange.get i :=
      Debounce.le_tdiv_iff (by omega) (by decide) _
    simp only [if_neg hzero, Debounce.Filter.read, if_neg hwait, hold]
    by_cases htake : d.effDi.get i ≠ d.rawDi.get i ∧ d.wait ≤ now i - d.lastChange.get i
    · have htake' : (d.filter i).filtered ≠ (d.filter i).raw ∧
          d.wait ≤ now i - (d.filter i).since := htake
      rw [if_pos htake, if_pos htake']
      refine ⟨?_, ?_, rfl⟩
      · show ((d.effDi.set i (d.rawDi.get i)).get i ^^ d.invertBit i) = _
        rw [Cells.get_set, if_pos ⟨rfl, hi⟩]
        rfl
      · exact d.filter_set_effDi hi (d.rawDi.get i)
    · have htake' : ¬((d.filter i).filtered ≠ (d.filter i).raw ∧
          d.wait ≤ now i - (d.filter i).since) := htake
      rw [if_neg htake, if_neg htake']
      exact ⟨rfl, fun j => (d.filter_ite i j).symm, rfl⟩

/-- The loop over the first `n` channels. -/
theorem aggregateLoop_filter (d : EL1258) (now : Nat → Int) {n : Nat} (hn : n ≤ CHANNEL_COUNT) :
    let out := (List.range n).foldl (aggregateStep now) (0, d)
    (∀ j, out.1.toNat.testBit j =
        (decide (j < n) && (((d.filter j).read d.wait (now j)).1 ^^ d.invertBit j))) ∧
      (∀ j, out.2.filter j =
        if j < n then ((d.filter j).read d.wait (now j)).2 else d.filter j) ∧
      out.2.settings = d.settings := by
  induction n with
  | zero => simp
  | succ n ih =>
    obtain ⟨hbits, hfilter, hsettings⟩ := ih (by omega)
    have hlt : n < CHANNEL_COUNT := hn
    have h32 : n < 32 := Nat.lt_of_lt_of_le hlt (by decide)
    intro out
    have hout : out = aggregateStep now ((List.range n).foldl (aggregateStep now) (0, d)) n := by
      show (List.range (n + 1)).foldl _ _ = _
      rw [List.range_succ, List.foldl_append]
      rfl
    generalize (List.range n).foldl (aggregateStep now) (0, d) = acc at *
    obtain ⟨hvalue, hnext, hkeep⟩ := acc.2.effectiveBit_filter hlt now
    rw [hfilter n, if_neg (Nat.lt_irrefl n), wait_congr hsettings] at hvalue hnext
    rw [invertBit_congr hsettings] at hvalue
    rw [hout]
    refine ⟨?_, ?_, hkeep.trans hsettings⟩
    · intro j
      show (acc.1 ||| (if (acc.2.effectiveBit n now).1 then _ else 0)).toNat.testBit j = _
      rw [testBit_or_bit _ _ h32, hbits, hvalue]
      by_cases hj : j = n
      · subst hj
        simp
      · have hiff : j < n + 1 ↔ j < n := by omega
        simp [hj, hiff]
    · intro j
      show (acc.2.effectiveBit n now).2.filter j = _
      rw [hnext, hfilter]
      by_cases hj : j = n
      · subst hj
        simp
      · have hiff : j < n + 1 ↔ j < n := by omega
        simp [hj, hiff]

/-- What a read of all channels reports and what it makes of the filters. -/
theorem aggregateBits_filter (d : EL1258) (now : Nat → Int) {j : Nat} (hj : j < CHANNEL_COUNT) :
    (d.aggregateBits now).1.toNat.testBit j =
        (((d.filter j).read d.wait (now j)).1 ^^ d.invertBit j) ∧
      (d.aggregateBits now).2.filter j = ((d.filter j).read d.wait (now j)).2 ∧
      (d.aggregateBits now).2.settings = d.settings := by
  obtain ⟨hbits, hfilter, hsettings⟩ := d.aggregateLoop_filter now (Nat.le_refl CHANNEL_COUNT)
  refine ⟨?_, ?_, hsettings⟩
  · rw [aggregateBits, hbits, decide_eq_true hj, Bool.true_and]
  · rw [aggregateBits, hfilter, if_pos hj]

/-- What `setRawInput_` makes of the filters. -/
theorem setRawInput_filter (d : EL1258) {c : Nat} (hc : c < CHANNEL_COUNT) (v : Bool)
    (now : Nat → Int) (j : Nat) :
    (d.setRawInput c v now).filter j =
      if j = c then (d.filter c).set v (now c) else d.filter j := by
  rw [setRawInput, if_neg (channel_not_outside hc), Int.toNat_natCast, Debounce.Filter.set]
  by_cases hv : d.rawDi.get c ≠ v
  · have hv' : (d.filter c).raw ≠ v := hv
    rw [if_pos hv, if_pos hv']
    show (⟨(d.rawDi.set c v).get j, d.effDi.get j, (d.lastChange.set c (now c)).get j⟩ :
      Debounce.Filter) = _
    rw [Cells.get_set, Cells.get_set]
    by_cases hj : j = c
    · subst hj
      simp only [hc, and_self, if_true]
      rfl
    · simp only [hj, false_and, if_false]
      rfl
  · have hv' : ¬(d.filter c).raw ≠ v := hv
    rw [if_neg hv, if_neg hv']
    exact (d.filter_ite c j).symm

/-- The members that say what the raw inputs are and since when. -/
def rawInputs (d : EL1258) : Cells Bool CHANNEL_COUNT × Cells Int CHANNEL_COUNT :=
  (d.rawDi, d.lastChange)

/-- The filter of a channel is in these members, but for the value that it holds. -/
theorem filter_of_rawInputs {d d' : EL1258} (h : d'.rawInputs = d.rawInputs) (ch : Nat) :
    (d'.filter ch).raw = (d.filter ch).raw ∧ (d'.filter ch).since = (d.filter ch).since := by
  obtain ⟨hraw, hsince⟩ := Prod.mk.inj h
  constructor
  · show d'.rawDi.get ch = d.rawDi.get ch
    rw [hraw]
  · show d'.lastChange.get ch = d.lastChange.get ch
    rw [hsince]

/-- The raw inputs and their controls. -/
def inputs (d : EL1258) : (Cells Bool CHANNEL_COUNT × Cells Int CHANNEL_COUNT) × Bool × Bool :=
  (d.rawInputs, d.power, d.powerButton)

theorem outsideFilter_inputs (d : EL1258) : d.outsideFilter.inputs = d.inputs := rfl

theorem effectiveBit_inputs (d : EL1258) (c : Int) (now : Nat → Int) :
    (d.effectiveBit c now).2.inputs = d.inputs := by
  rw [← outsideFilter_inputs, effectiveBit_outsideFilter, outsideFilter_inputs]

theorem aggregateBits_inputs (d : EL1258) (now : Nat → Int) :
    (d.aggregateBits now).2.inputs = d.inputs := by
  rw [← outsideFilter_inputs, aggregateBits_outsideFilter, outsideFilter_inputs]

theorem onSdoUpload_inputs (d : EL1258) (index : UInt16) (subindex : UInt8)
    (now : Nat → Int) : (d.onSdoUpload index subindex now).2.inputs = d.inputs := by
  rw [← outsideFilter_inputs, onSdoUpload_outsideFilter, outsideFilter_inputs]

theorem onSdoDownload_inputs (d : EL1258) (mapped : Bool) (index : UInt16) (subindex : UInt8)
    (v : UInt32) : (d.onSdoDownload mapped index subindex v).2.2.inputs = d.inputs := by
  by_cases hwritable : ∃ o : DictObject, o.index = index ∧ o.subindex = subindex
  · obtain ⟨o, rfl, rfl⟩ := hwritable
    show (d.storeObject o.index o.subindex v).2.inputs = d.inputs
    rw [storeObject_eq]
    cases o <;> rfl
  · rw [d.onSdoDownload_of_not_writable mapped (fun o ho => hwritable ⟨o, ho⟩)]

/-- The hooks of the dictionary leave the inputs and the controls alone. -/
theorem hookInvariant_inputs (d₀ : EL1258) :
    VirtualSlave.HookInvariant fun d : EL1258 => d.inputs = d₀.inputs where
  upload d index subindex h := (d.onSdoUpload_inputs index subindex d.now).trans h
  download d mapped index subindex value _ h :=
    (d.onSdoDownload_inputs mapped index subindex value).trans h

/-- The upload of a digital input reads one channel. -/
theorem onSdoUpload_digitalInput (d : EL1258) {subindex : UInt8}
    (h : 1 ≤ subindex ∧ subindex ≤ CHANNEL_COUNT_U8) (now : Nat → Int) :
    (d.onSdoUpload OBJ_DIGITAL_INPUT subindex now).1 =
      some (if (d.effectiveBit (subindex - 1).toNat now).1 then 1 else 0) := by
  show (if OBJ_DIGITAL_INPUT = OBJ_DIGITAL_INPUT ∧ 1 ≤ subindex ∧ subindex ≤ CHANNEL_COUNT_U8
    then _ else _ : Option UInt32 × EL1258).1 = _
  rw [if_pos ⟨rfl, h⟩]
  rfl

/-- The upload of the aggregate reads all channels. -/
theorem onSdoUpload_digitalAggregate (d : EL1258) (now : Nat → Int) :
    (d.onSdoUpload OBJ_DIGITAL_AGGREGATE 0 now).1 = some (d.aggregateBits now).1 := by
  rw [onSdoUpload]
  simp only [apply_ite Prod.fst]
  rw [if_neg (by decide), if_neg (by decide), if_neg (by decide), if_neg (by decide),
    if_neg (by decide), if_pos (by decide)]

end EL1258

/-! ## What a master reads of one channel -/

namespace TerminalCall

/-- The reading of the clock that the call takes for the channel. -/
def readingFor (ch : Nat) : TerminalCall → Option Int
  | .setPower _ now | .setPowerButton _ now | .setInput _ _ now => some (now ch)
  | .input _ now | .sdoUpload _ _ now | .readDigitalInputsBitfield now => some (now ch)
  | .sdoDownload _ _ _ _ | .applyDefaultTxPdoMapping | .onSlave _ => none

/-- The call shows the channel to its caller. -/
def Reads (ch : Nat) : TerminalCall → Prop
  | .input c _ => c = ch
  | .sdoUpload index subindex _ =>
    (index = OBJ_DIGITAL_INPUT ∧ subindex.toNat = ch + 1) ∨
      (index = OBJ_DIGITAL_AGGREGATE ∧ subindex = 0)
  | .readDigitalInputsBitfield _ => True
  | _ => False

/-- A call of the terminal itself. -/
def IsDirect : TerminalCall → Prop
  | .onSlave _ => False
  | _ => True

/-- A call of one of the three mutators of the inputs. -/
def SetsInput : TerminalCall → Prop
  | .setPower _ _ | .setPowerButton _ _ | .setInput _ _ _ => True
  | _ => False

instance : (call : TerminalCall) → Decidable (IsDirect call)
  | .onSlave _ => isFalse id
  | .setPower _ _ | .setPowerButton _ _ | .setInput _ _ _ | .input _ _ => isTrue trivial
  | .sdoUpload _ _ _ | .sdoDownload _ _ _ _ | .readDigitalInputsBitfield _ => isTrue trivial
  | .applyDefaultTxPdoMapping => isTrue trivial

instance (ch : Nat) : (call : TerminalCall) → Decidable (Reads ch call)
  | .input _ _ => inferInstanceAs (Decidable (_ = _))
  | .sdoUpload _ _ _ => inferInstanceAs (Decidable (_ ∨ _))
  | .readDigitalInputsBitfield _ => isTrue trivial
  | .setPower _ _ | .setPowerButton _ _ | .setInput _ _ _ => isFalse id
  | .sdoDownload _ _ _ _ | .applyDefaultTxPdoMapping | .onSlave _ => isFalse id

end TerminalCall

namespace EL1258Slave

/-- The value of the channel in the answer to the call, before the invert mask is
applied. -/
def observe (s : EL1258Slave) (ch : Nat) : TerminalCall → Option Bool
  | .input c now =>
    if c = ch then some ((s.device.input c now).1 ^^ s.device.invertBit ch) else none
  | .sdoUpload index subindex now =>
    if index = OBJ_DIGITAL_INPUT ∧ subindex.toNat = ch + 1 then
      (s.device.onSdoUpload index subindex now).1.map fun v =>
        v.toNat.testBit 0 ^^ s.device.invertBit ch
    else if index = OBJ_DIGITAL_AGGREGATE ∧ subindex = 0 then
      (s.device.onSdoUpload index subindex now).1.map fun v =>
        v.toNat.testBit ch ^^ s.device.invertBit ch
    else none
  | .readDigitalInputsBitfield now =>
    some ((s.device.aggregateBits now).1.toNat.testBit ch ^^ s.device.invertBit ch)
  | _ => none

/-- A read of the channel reports what its filter does. -/
theorem observe_of_reads (s : EL1258Slave) {ch : Nat} (hch : ch < CHANNEL_COUNT)
    {call : TerminalCall} (h : call.Reads ch) :
    s.observe ch call =
      (call.readingFor ch).map fun t => ((s.device.filter ch).read s.device.wait t).1 := by
  cases call with
  | input c now =>
    have hc : c = ch := h
    subst hc
    have hrange := EL1258.channel_range.mpr ⟨ch, hch, rfl⟩
    rw [observe, if_pos rfl, EL1258.input, if_pos hrange,
      (s.device.effectiveBit_filter hch now).1, Bool.xor_assoc, Bool.xor_self, Bool.xor_false]
    rfl
  | sdoUpload index subindex now =>
    rcases h with ⟨rfl, hsub⟩ | ⟨rfl, rfl⟩
    · have hrange := EL1258.channel_subindex hch hsub
      have hchannel := (EL1258.subindex_channel hrange.1 hrange.2).2
      have hsi : (subindex - 1).toNat = ch := by omega
      rw [observe, if_pos ⟨rfl, hsub⟩, s.device.onSdoUpload_digitalInput hrange now, hsi,
        (s.device.effectiveBit_filter hch now).1]
      show some _ = some ((s.device.filter ch).read s.device.wait (now ch)).1
      generalize ((s.device.filter ch).read s.device.wait (now ch)).1 = on
      cases on <;> cases s.device.invertBit ch <;> rfl
    · rw [observe, if_neg (fun hc => absurd hc.1 (by decide)), if_pos ⟨rfl, rfl⟩,
        s.device.onSdoUpload_digitalAggregate now, Option.map_some,
        (s.device.aggregateBits_filter now hch).1, Bool.xor_assoc, Bool.xor_self, Bool.xor_false]
      rfl
  | readDigitalInputsBitfield now =>
    rw [observe, (s.device.aggregateBits_filter now hch).1, Bool.xor_assoc, Bool.xor_self,
      Bool.xor_false]
    rfl
  | setPower on now => exact absurd h id
  | setPowerButton pressed now => exact absurd h id
  | setInput c value now => exact absurd h id
  | sdoDownload index subindex value nbytes => exact absurd h id
  | applyDefaultTxPdoMapping => exact absurd h id
  | onSlave op => exact absurd h id

theorem observe_of_not_reads (s : EL1258Slave) {ch : Nat} {call : TerminalCall}
    (h : ¬call.Reads ch) : s.observe ch call = none := by
  cases call with
  | input c now => exact if_neg h
  | sdoUpload index subindex now =>
    rw [observe, if_neg (fun hc => h (.inl hc)), if_neg (fun hc => h (.inr hc))]
  | readDigitalInputsBitfield now => exact absurd trivial h
  | _ => rfl

theorem setPower_filter (d : EL1258) (on : Bool) (now : Nat → Int) (ch : Nat) :
    (d.setPower on now).filter ch =
      if ch = 0 then (d.filter 0).set d.powerButton (now 0)
      else if ch = 1 then (d.filter 1).set on (now 1) else d.filter ch := by
  have hsame : ∀ j, EL1258.filter { d with power := on } j = d.filter j := fun _ => rfl
  rw [EL1258.setPower, EL1258.updateDerivedInputs]
  refine (EL1258.setRawInput_filter _ (c := 0) (by decide) _ now ch).trans ?_
  have hfirst := EL1258.setRawInput_filter { d with power := on } (c := 1) (by decide) on now
  by_cases h0 : ch = 0
  · rw [if_pos h0, if_pos h0]
    refine congrArg (fun f => Debounce.Filter.set f _ _) ((hfirst 0).trans ?_)
    rw [if_neg (by decide), hsame]
  · rw [if_neg h0, if_neg h0]
    refine (hfirst ch).trans ?_
    rw [hsame, hsame]

theorem setInput_filter (d : EL1258) (c : Int) (v : Bool) (now : Nat → Int) (ch : Nat) :
    (d.setInput c v now).filter ch =
      if c = ch ∧ ch < CHANNEL_COUNT then (d.filter ch).set v (now ch) else d.filter ch := by
  rw [EL1258.setInput]
  by_cases hc : 0 ≤ c ∧ c < CHANNEL_MAX
  · obtain ⟨n, hn, rfl⟩ := EL1258.channel_range.mp hc
    have hpower : EL1258.filter (if (n : Int) = 1 then
        { d.setRawInput n v now with power := v } else d.setRawInput n v now) ch =
        (d.setRawInput n v now).filter ch := by
      split <;> rfl
    rw [if_pos hc]
    refine hpower.trans ((EL1258.setRawInput_filter d hn v now ch).trans ?_)
    by_cases hch : ch = n
    · subst hch
      rw [if_pos rfl, if_pos ⟨rfl, hn⟩]
    · rw [if_neg hch, if_neg (fun h => hch (Int.ofNat.inj h.1).symm)]
  · have hout : ¬(c = ch ∧ ch < CHANNEL_COUNT) :=
      fun h => hc (EL1258.channel_range.mpr ⟨ch, h.2, h.1⟩)
    rw [if_neg hc, if_neg hout]

/-- A call that sets no input leaves the inputs and the controls alone. -/
theorem terminalStep_inputs (s : EL1258Slave) {call : TerminalCall} (h : ¬call.SetsInput) :
    (terminalStep s call).device.inputs = s.device.inputs := by
  cases call with
  | setPower on now => exact absurd trivial h
  | setPowerButton pressed now => exact absurd trivial h
  | setInput c value now => exact absurd trivial h
  | input c now =>
    rw [terminalStep, EL1258.input]
    split
    · exact s.device.effectiveBit_inputs c now
    · rfl
  | sdoUpload index subindex now => exact s.device.onSdoUpload_inputs index subindex now
  | sdoDownload index subindex value nbytes =>
    exact s.device.onSdoDownload_inputs s.inputPdoMapped index subindex value
  | readDigitalInputsBitfield now => rw [terminalStep, EL1258.aggregateBits_inputs]
  | applyDefaultTxPdoMapping => rfl
  | onSlave op =>
    exact VirtualSlave.step_device (EL1258.hookInvariant_inputs s.device) rfl op

/-- A call that sets an input leaves the filter of a channel alone, or sets it at its
reading of the clock. -/
theorem terminalStep_filter (s : EL1258Slave) {ch : Nat} (hch : ch < CHANNEL_COUNT)
    {call : TerminalCall} (h : call.SetsInput) :
    (terminalStep s call).device.filter ch = s.device.filter ch ∨
      ∃ v t, call.readingFor ch = some t ∧
        (terminalStep s call).device.filter ch = (s.device.filter ch).set v t := by
  cases call with
  | setPower on now =>
    have hf := setPower_filter s.device on now ch
    by_cases h0 : ch = 0
    · subst h0
      exact .inr ⟨_, now 0, rfl, hf.trans (if_pos rfl)⟩
    · rw [if_neg h0] at hf
      by_cases h1 : ch = 1
      · subst h1
        exact .inr ⟨_, now 1, rfl, hf.trans (if_pos rfl)⟩
      · exact .inl (hf.trans (if_neg h1))
  | setPowerButton pressed now =>
    have hf := EL1258.setRawInput_filter { s.device with powerButton := pressed } (c := 0)
      (by decide) pressed now ch
    by_cases h0 : ch = 0
    · subst h0
      exact .inr ⟨_, now 0, rfl, hf.trans (if_pos rfl)⟩
    · exact .inl (hf.trans (if_neg h0))
  | setInput c value now =>
    have hf := setInput_filter s.device c value now ch
    by_cases hc : c = ch
    · exact .inr ⟨_, now ch, rfl, hf.trans (if_pos ⟨hc, hch⟩)⟩
    · exact .inl (hf.trans (if_neg fun h => hc h.1))
  | _ => exact absurd h id

/-- What a call of the terminal does to the raw value of a channel: it stays, or it
changes at the reading of the clock. -/
theorem terminalStep_raw (s : EL1258Slave) {ch : Nat} (hch : ch < CHANNEL_COUNT)
    (call : TerminalCall) :
    let f := s.device.filter ch
    let f' := (terminalStep s call).device.filter ch
    f'.raw = f.raw ∧ f'.since = f.since ∨
      f'.raw ≠ f.raw ∧ call.readingFor ch = some f'.since := by
  intro f f'
  by_cases hsets : call.SetsInput
  · rcases s.terminalStep_filter hch hsets with hsame | ⟨v, t, hreading, hset⟩
    · have hf : f' = f := hsame
      rw [hf]
      exact .inl ⟨rfl, rfl⟩
    · have hf : f' = f.set v t := hset
      rw [hf]
      rcases f.set_cases v t with hstays | ⟨hne, hsince⟩
      · rw [hstays]
        exact .inl ⟨rfl, rfl⟩
      · rw [hsince]
        exact .inr ⟨hne, hreading⟩
  · have hinputs := congrArg Prod.fst (s.terminalStep_inputs hsets)
    exact .inl (EL1258.filter_of_rawInputs hinputs ch)

end EL1258Slave

/-! ## Whole runs -/

/-- A terminal with the history of one channel: the last reading of the clock, the time
at which the raw input changed last, and the value that the last read reported, before
the invert mask is applied. -/
structure InputHistory where
  slave : EL1258Slave
  clock : Int
  heldSince : Int
  reported : Option Bool

namespace InputHistory

/-- A new terminal. -/
def start (ch : Nat) (address : UInt16) (vendorId productCode : UInt32) (clock : Nat → Int) :
    InputHistory where
  slave := EL1258Slave.new address vendorId productCode clock
  clock := clock ch
  heldSince := clock ch
  reported := none

/-- One call, with its entry in the history. -/
def step (ch : Nat) (h : InputHistory) (call : TerminalCall) : InputHistory :=
  let s := EL1258Slave.terminalStep h.slave call
  let t := (call.readingFor ch).getD h.clock
  { slave := s
    clock := t
    heldSince := if s.device.rawDi.get ch = h.slave.device.rawDi.get ch then h.heldSince else t
    reported := (h.slave.observe ch call).or h.reported }

/-- A call of the terminal itself, at a time when the clock has not gone back. -/
def OnTimeline (ch : Nat) (h : InputHistory) (call : TerminalCall) : Prop :=
  call.IsDirect ∧ ∀ t ∈ call.readingFor ch, h.clock ≤ t

/-- If the call reads another value of the channel than the read before it, the raw input
has had this value for the debounce time in force. -/
def ReportsSteady (ch : Nat) (h : InputHistory) (call : TerminalCall) : Prop :=
  ∀ v ∈ h.slave.observe ch call, ∀ last ∈ h.reported, ∀ t ∈ call.readingFor ch, v ≠ last →
    h.slave.device.rawDi.get ch = v ∧
      (h.slave.device.debounceMs.toNat : Int) * 1000000 ≤ t - h.heldSince

/-- The call reads the channel through a filter that still holds another value than the
last read reported, while the raw input is younger than the debounce time. -/
def ReadsStale (ch : Nat) (h : InputHistory) (call : TerminalCall) : Prop :=
  call.Reads ch ∧ ∃ last ∈ h.reported, ∃ t ∈ call.readingFor ch,
    h.slave.device.effDi.get ch ≠ last ∧
      t - h.heldSince < (h.slave.device.debounceMs.toNat : Int) * 1000000

instance (ch : Nat) (h : InputHistory) (call : TerminalCall) : Decidable (OnTimeline ch h call) :=
  inferInstanceAs (Decidable (_ ∧ _))

instance (ch : Nat) (h : InputHistory) (call : TerminalCall) :
    Decidable (ReportsSteady ch h call) :=
  inferInstanceAs (Decidable (∀ v ∈ h.slave.observe ch call, ∀ last ∈ h.reported,
    ∀ t ∈ call.readingFor ch, v ≠ last → _))

instance (ch : Nat) (h : InputHistory) (call : TerminalCall) : Decidable (ReadsStale ch h call) :=
  inferInstanceAs (Decidable (_ ∧ ∃ last ∈ h.reported, ∃ t ∈ call.readingFor ch, _))

/-- The history knows the time of the last change as the terminal does. -/
def Synced (ch : Nat) (h : InputHistory) : Prop :=
  h.heldSince = (h.slave.device.filter ch).since ∧ h.heldSince ≤ h.clock

theorem start_synced {ch : Nat} (hch : ch < CHANNEL_COUNT) (address : UInt16)
    (vendorId productCode : UInt32) (clock : Nat → Int) :
    Synced ch (start ch address vendorId productCode clock) := by
  refine ⟨?_, Int.le_refl _⟩
  have hraw : ∀ j, ((EL1258.initial clock).filter j).set false ((EL1258.initial clock).now j) =
      (EL1258.initial clock).filter j := by
    intro j
    have hlow : ((EL1258.initial clock).filter j).raw = false := by
      show (Cells.fill false : Cells Bool CHANNEL_COUNT).get j = false
      rw [Cells.get_fill]
      split <;> rfl
    rw [Debounce.Filter.set, if_neg (by simp [hlow])]
  have hfilter := EL1258Slave.setPower_filter (EL1258.initial clock) false
    (EL1258.initial clock).now ch
  have hnew : ((EL1258.initial clock).setPower false (EL1258.initial clock).now).filter ch =
      (EL1258.initial clock).filter ch := by
    rw [hfilter]
    split
    · rename_i h0
      rw [h0]
      exact hraw 0
    · split
      · rename_i h1
        rw [h1]
        exact hraw 1
      · rfl
  show clock ch =
    (((EL1258.initial clock).setPower false (EL1258.initial clock).now).filter ch).since
  rw [hnew]
  show clock ch = (⟨fun i : Fin CHANNEL_COUNT => clock i⟩ : Cells Int CHANNEL_COUNT).get ch
  rw [Cells.get, dif_pos hch]

theorem step_synced {ch : Nat} (hch : ch < CHANNEL_COUNT) {h : InputHistory} {call : TerminalCall}
    (hI : Synced ch h) (hcall : OnTimeline ch h call) : Synced ch (step ch h call) := by
  have hraw := EL1258Slave.terminalStep_raw h.slave hch call
  rcases hraw with ⟨hsame, hsince⟩ | ⟨hne, hreading⟩
  · have hheld : (step ch h call).heldSince = h.heldSince := if_pos hsame
    refine ⟨?_, ?_⟩
    · rw [hheld, hI.1]
      exact hsince.symm
    · rw [hheld]
      refine Int.le_trans hI.2 ?_
      show h.clock ≤ (call.readingFor ch).getD h.clock
      cases hreading : call.readingFor ch with
      | none => exact Int.le_refl _
      | some t => exact hcall.2 t hreading
  · have hheld : (step ch h call).heldSince = (step ch h call).clock := if_neg hne
    refine ⟨?_, Int.le_of_eq hheld⟩
    rw [hheld]
    show (call.readingFor ch).getD h.clock = _
    rw [hreading]
    rfl

/-- A read is steady exactly when it is not made through a stale filter. -/
theorem reportsSteady_iff {ch : Nat} (hch : ch < CHANNEL_COUNT) {h : InputHistory}
    {call : TerminalCall} (hI : Synced ch h) (hcall : OnTimeline ch h call) :
    ReportsSteady ch h call ↔ ¬ReadsStale ch h call := by
  by_cases hreads : call.Reads ch
  · have hobserve := h.slave.observe_of_reads hch hreads
    have hwait : 0 ≤ h.slave.device.wait := by
      rw [EL1258.wait]
      omega
    have hsince : ∀ t ∈ call.readingFor ch, (h.slave.device.filter ch).since ≤ t := by
      intro t ht
      rw [← hI.1]
      exact Int.le_trans hI.2 (hcall.2 t ht)
    constructor
    · intro hsteady hstale
      obtain ⟨-, last, hlast, t, ht, hne, hyoung⟩ := hstale
      have hold := hsince t ht
      rw [hI.1] at hyoung
      refine (Debounce.Filter.steady_iff _ hwait hold last).mp ?_ ⟨?_, hyoung, hne⟩
      · intro hv
        rw [ht] at hobserve
        have hheld := hsteady _ hobserve last hlast t ht hv
        rw [hI.1] at hheld
        exact hheld
      · show 0 < (h.slave.device.debounceMs.toNat : Int) * 1000000
        omega
    · intro hfresh v hv last hlast t ht hne
      have hv' : ((h.slave.device.filter ch).read h.slave.device.wait t).1 = v := by
        rw [Option.mem_def.mp ht] at hobserve
        exact Option.some.inj (hobserve.symm.trans hv)
      have hsteady := (Debounce.Filter.steady_iff _ hwait (hsince t ht) last).mpr fun hstale =>
        hfresh ⟨hreads, last, hlast, t, ht, hstale.2.2, by rw [hI.1]; exact hstale.2.1⟩
      subst hv'
      rw [hI.1]
      exact hsteady hne
  · have hnone := h.slave.observe_of_not_reads hreads
    constructor
    · exact fun _ hstale => hreads hstale.1
    · intro _ v hv
      rw [hnone] at hv
      cases hv

/-- The reads of a channel along a timeline report no glitch exactly when none of them is
made through a stale filter. -/
theorem debounce_steady_iff (ch : Nat) (hch : ch < CHANNEL_COUNT) (address : UInt16)
    (vendorId productCode : UInt32) (clock : Nat → Int) (calls : List TerminalCall)
    (hcalls : StepsOk (step ch) (OnTimeline ch) (start ch address vendorId productCode clock)
      calls) :
    StepsOk (step ch) (ReportsSteady ch) (start ch address vendorId productCode clock) calls ↔
      StepsOk (step ch) (fun h call => ¬ReadsStale ch h call)
        (start ch address vendorId productCode clock) calls := by
  have hinv : ∀ (h : InputHistory) (call : TerminalCall), Synced ch h → OnTimeline ch h call →
      ReportsSteady ch h call → Synced ch (step ch h call) :=
    fun _ _ hI hcall _ => step_synced hch hI hcall
  have hstep : ∀ (h : InputHistory) (call : TerminalCall), Synced ch h → OnTimeline ch h call →
      (ReportsSteady ch h call ↔ ¬ReadsStale ch h call) :=
    fun _ _ hI hcall => reportsSteady_iff hch hI hcall
  exact stepsOk_iff hinv hstep (start_synced hch address vendorId productCode clock) hcalls

/-- An input that rises at 1 ms and is read through a debounce time of 5 ms. -/
def riseThroughFilter : List TerminalCall :=
  [.sdoDownload OBJ_DEBOUNCE_TIME 0 5 4, .input 0 fun _ => 0, .setInput 0 true fun _ => 1000000,
    .input 0 fun _ => 2000000, .input 0 fun _ => 6000000]

theorem debounce_steady_rise :
    StepsOk (step 0) (ReportsSteady 0) (start 0 1 2 3 fun _ => 0) riseThroughFilter := by
  have hcalls : StepsOk (step 0) (OnTimeline 0) (start 0 1 2 3 fun _ => 0) riseThroughFilter := by
    decide
  have hfresh : StepsOk (step 0) (fun h call => ¬ReadsStale 0 h call)
      (start 0 1 2 3 fun _ => 0) riseThroughFilter := by
    decide
  exact (debounce_steady_iff 0 (by decide) 1 2 3 (fun _ => 0) _ hcalls).mpr hfresh

/-- The same input is read with a debounce time of zero, and then through one of 5 ms.  The
second read reports low, which the input has left 2 ms before. -/
def readPastFilter : List TerminalCall :=
  [.setInput 0 true fun _ => 1000000, .input 0 fun _ => 2000000,
    .sdoDownload OBJ_DEBOUNCE_TIME 0 5 4, .input 0 fun _ => 3000000]

theorem debounce_bypass_false :
    let h := run (step 0) (start 0 1 2 3 fun _ => 0) (readPastFilter.take 3)
    StepsOk (step 0) (OnTimeline 0) (start 0 1 2 3 fun _ => 0) readPastFilter ∧
      h.reported = some true ∧ h.slave.device.rawDi.get 0 = true ∧
      h.slave.observe 0 (.input 0 fun _ => 3000000) = some false ∧
      ¬StepsOk (step 0) (ReportsSteady 0) (start 0 1 2 3 fun _ => 0) readPastFilter := by
  decide

end InputHistory

end EthercatSim

import EthercatSim.Slaves.Debounce

/-!
# Observing the `EL1258Slave`

The functions that read the inputs are `const`, but they move the debounce filters: a
read that finds a raw value old enough takes it over.  So a read can change what a later
one returns, namely when the raw value has changed back in between.

* `PairEvent` is a timeline of two runs, with the calls that both make and the
  observations that only one of them makes.
* `answer_eq_iff`: two terminals that differ in their filters only answer a call in the
  same way exactly when the channels that it shows read the same.
* `observations_alike_iff`: when the common observations of the two runs agree.
* `observations_alike_false`: the run that shows the difference.
-/

namespace EthercatSim

open Kickcat Bytes El1258 StepRun

/-! ## Answers -/

/-- What an observation returns. -/
inductive Answer where
  | level (on : Bool)
  | upload (value : Option UInt32)
  | bits (value : UInt32)
  deriving DecidableEq, Repr

namespace EL1258Slave

/-- What the call returns, if it is an observation. -/
def answer (s : EL1258Slave) : TerminalCall → Option Answer
  | .input c now => some (.level (s.device.input c now).1)
  | .sdoUpload index subindex now => some (.upload (s.device.onSdoUpload index subindex now).1)
  | .readDigitalInputsBitfield now => some (.bits (s.device.aggregateBits now).1)
  | _ => none

end EL1258Slave

namespace EL1258

/-- The value that a read reports for the channel, before the invert mask is applied. -/
def shown (d : EL1258) (ch : Nat) (t : Int) : Bool := (d.filter ch).reported d.wait t

/-- The two terminals differ in their debounced channels only. -/
def SameRaw (d d' : EL1258) : Prop := d'.outsideFilter = d.outsideFilter

namespace SameRaw

variable {d d' : EL1258} (h : SameRaw d d')

include h

theorem rawInputs_eq : d'.rawInputs = d.rawInputs := by
  have hraw := congrArg rawInputs h
  exact hraw

theorem settings_eq : d'.settings = d.settings := by
  have hsettings := congrArg settings h
  exact hsettings

/-- The raw part of the filters is the same. -/
theorem filter_eq (ch : Nat) :
    (d'.filter ch).raw = (d.filter ch).raw ∧ (d'.filter ch).since = (d.filter ch).since := by
  obtain ⟨hraw, hsince⟩ := Prod.mk.inj h.rawInputs_eq
  exact ⟨congrArg (fun m => m.get ch) hraw, congrArg (fun m => m.get ch) hsince⟩

/-- Both terminals report the same exactly when the filter is not asked, or holds the
same in both. -/
theorem shown_eq_iff (ch : Nat) (t : Int) :
    d'.shown ch t = d.shown ch t ↔
      d.wait = 0 ∨ d.wait ≤ t - (d.filter ch).since ∨
        (d'.filter ch).filtered = (d.filter ch).filtered := by
  obtain ⟨hraw, hsince⟩ := h.filter_eq ch
  rw [shown, shown, wait_congr h.settings_eq]
  exact Debounce.Filter.reported_eq_iff hraw hsince d.wait t

/-! ### The answers of the functions that read inputs -/

theorem effectiveBit_eq_iff {ch : Nat} (hch : ch < CHANNEL_COUNT) (now : Nat → Int) :
    (d'.effectiveBit ch now).1 = (d.effectiveBit ch now).1 ↔
      d'.shown ch (now ch) = d.shown ch (now ch) := by
  rw [(d'.effectiveBit_filter hch now).1, (d.effectiveBit_filter hch now).1,
    invertBit_congr h.settings_eq, Bool.xor_left_inj, Debounce.Filter.read_fst,
    Debounce.Filter.read_fst, shown, shown]

theorem aggregateBits_eq_iff (now : Nat → Int) :
    (d'.aggregateBits now).1 = (d.aggregateBits now).1 ↔
      ∀ ch < CHANNEL_COUNT, d'.shown ch (now ch) = d.shown ch (now ch) := by
  have hbits : ∀ ch < CHANNEL_COUNT, ((d'.aggregateBits now).1.toNat.testBit ch =
      (d.aggregateBits now).1.toNat.testBit ch ↔ d'.shown ch (now ch) = d.shown ch (now ch)) := by
    intro ch hch
    rw [(d'.aggregateBits_filter now hch).1, (d.aggregateBits_filter now hch).1,
      invertBit_congr h.settings_eq, Bool.xor_left_inj, Debounce.Filter.read_fst,
    Debounce.Filter.read_fst, shown, shown]
  constructor
  · intro heq ch hch
    rw [← hbits ch hch, heq]
  · intro hshown
    apply UInt32.toNat_inj.mp
    apply Nat.eq_of_testBit_eq
    intro ch
    by_cases hch : ch < CHANNEL_COUNT
    · exact (hbits ch hch).mpr (hshown ch hch)
    · have hnone : ∀ d : EL1258, (d.aggregateBits now).1.toNat.testBit ch = false := by
        intro d
        rw [aggregateBits, (d.aggregateLoop_filter now (Nat.le_refl CHANNEL_COUNT)).1,
          decide_eq_false hch, Bool.false_and]
      rw [hnone, hnone]

/-- An object that shows no input. -/
theorem onSdoUpload_eq_of_plain {index : UInt16} {subindex : UInt8}
    (hinput : ¬(index = OBJ_DIGITAL_INPUT ∧ 1 ≤ subindex ∧ subindex ≤ CHANNEL_COUNT_U8))
    (haggregate : ¬(index = OBJ_DIGITAL_AGGREGATE ∧ subindex = 0)) (now : Nat → Int) :
    (d'.onSdoUpload index subindex now).1 = (d.onSdoUpload index subindex now).1 := by
  have houtside : ∀ d : EL1258, (d.onSdoUpload index subindex now).1 =
      (d.outsideFilter.onSdoUpload index subindex now).1 := by
    intro d
    unfold onSdoUpload
    simp only [if_neg hinput, if_neg haggregate, apply_ite Prod.fst]
    rfl
  rw [houtside d', houtside d, h]

theorem input_eq_iff (c : Int) (now : Nat → Int) :
    (d'.input c now).1 = (d.input c now).1 ↔
      ∀ ch < CHANNEL_COUNT, c = ch → d'.shown ch (now ch) = d.shown ch (now ch) := by
  by_cases hc : 0 ≤ c ∧ c < CHANNEL_MAX
  · obtain ⟨n, hn, rfl⟩ := channel_range.mp hc
    rw [input, input, if_pos hc, if_pos hc, h.effectiveBit_eq_iff hn]
    constructor
    · intro hshown ch _ hch
      rw [← Int.ofNat.inj hch]
      exact hshown
    · intro hall
      exact hall n hn rfl
  · rw [input, input, if_neg hc, if_neg hc]
    exact iff_of_true rfl fun ch hch hcc => absurd (channel_range.mpr ⟨ch, hch, hcc⟩) hc

theorem onSdoUpload_eq_iff (index : UInt16) (subindex : UInt8) (now : Nat → Int) :
    (d'.onSdoUpload index subindex now).1 = (d.onSdoUpload index subindex now).1 ↔
      ∀ ch < CHANNEL_COUNT, (index = OBJ_DIGITAL_INPUT ∧ subindex.toNat = ch + 1) ∨
        (index = OBJ_DIGITAL_AGGREGATE ∧ subindex = 0) →
        d'.shown ch (now ch) = d.shown ch (now ch) := by
  have hlevel : ∀ b b' : Bool, (some (if b' then (1 : UInt32) else 0) =
      some (if b then 1 else 0) ↔ b' = b) := by decide
  by_cases hinput : index = OBJ_DIGITAL_INPUT ∧ 1 ≤ subindex ∧ subindex ≤ CHANNEL_COUNT_U8
  · obtain ⟨rfl, hsub⟩ := hinput
    obtain ⟨hlt, hsi⟩ := subindex_channel hsub.1 hsub.2
    rw [d'.onSdoUpload_digitalInput hsub, d.onSdoUpload_digitalInput hsub, hlevel,
      h.effectiveBit_eq_iff hlt]
    constructor
    · rintro hshown ch _ (⟨_, hch⟩ | ⟨hindex, _⟩)
      · have heq : (subindex - 1).toNat = ch := by omega
        rw [← heq]
        exact hshown
      · exact absurd hindex (by decide)
    · intro hall
      exact hall _ hlt (.inl ⟨rfl, hsi⟩)
  · by_cases haggregate : index = OBJ_DIGITAL_AGGREGATE ∧ subindex = 0
    · obtain ⟨rfl, rfl⟩ := haggregate
      rw [d'.onSdoUpload_digitalAggregate, d.onSdoUpload_digitalAggregate, Option.some_inj,
        h.aggregateBits_eq_iff]
      exact ⟨fun hall ch hch _ => hall ch hch, fun hall ch hch => hall ch hch (.inr ⟨rfl, rfl⟩)⟩
    · refine iff_of_true (h.onSdoUpload_eq_of_plain hinput haggregate now) ?_
      rintro ch hch (⟨hindex, hsub⟩ | hplain)
      · exact absurd ⟨hindex, channel_subindex hch hsub⟩ hinput
      · exact absurd hplain haggregate

end SameRaw

/-- A terminal is its raw part and its filters. -/
theorem eq_of_filter {d d' : EL1258} (h : SameRaw d d')
    (hfilter : ∀ ch < CHANNEL_COUNT, d'.filter ch = d.filter ch) : d' = d := by
  have heff : d'.effDi = d.effDi := by
    apply Cells.ext_get
    intro ch hch
    exact congrArg Debounce.Filter.filtered (hfilter ch hch)
  have hd : ∀ d : EL1258, d = { d.outsideFilter with effDi := d.effDi } := fun _ => rfl
  rw [hd d', hd d, heff, h]

/-! ## Observations that take nothing over -/

/-- An observation at the time `t` takes over no raw value of the channel. -/
def Settled (d : EL1258) (ch : Nat) (t : Int) : Prop := ¬(d.filter ch).TakesOver d.wait t

theorem effectiveBit_of_settled {d : EL1258} {ch : Nat} (hch : ch < CHANNEL_COUNT)
    {now : Nat → Int} (h : d.Settled ch (now ch)) : (d.effectiveBit ch now).2 = d := by
  refine eq_of_filter (effectiveBit_outsideFilter d ch now) ?_
  intro j _
  rw [(d.effectiveBit_filter hch now).2.1, Debounce.Filter.read_of_not_takesOver h, d.filter_ite]

theorem input_of_settled {d : EL1258} {c : Int} {now : Nat → Int}
    (h : ∀ ch < CHANNEL_COUNT, c = ch → d.Settled ch (now ch)) : (d.input c now).2 = d := by
  rw [input]
  split
  · rename_i hc
    obtain ⟨ch, hch, rfl⟩ := channel_range.mp hc
    exact effectiveBit_of_settled hch (h ch hch rfl)
  · rfl

theorem aggregateBits_of_settled {d : EL1258} {now : Nat → Int}
    (h : ∀ ch < CHANNEL_COUNT, d.Settled ch (now ch)) : (d.aggregateBits now).2 = d := by
  refine eq_of_filter (aggregateBits_outsideFilter d now) ?_
  intro ch hch
  rw [(d.aggregateBits_filter now hch).2.1, Debounce.Filter.read_of_not_takesOver (h ch hch)]

theorem onSdoUpload_of_settled {d : EL1258} {index : UInt16} {subindex : UInt8} {now : Nat → Int}
    (h : ∀ ch < CHANNEL_COUNT, (index = OBJ_DIGITAL_INPUT ∧ subindex.toNat = ch + 1) ∨
      (index = OBJ_DIGITAL_AGGREGATE ∧ subindex = 0) → d.Settled ch (now ch)) :
    (d.onSdoUpload index subindex now).2 = d := by
  rw [onSdoUpload_device]
  split
  · rename_i hinput
    obtain ⟨hch, hsub⟩ := subindex_channel hinput.2.1 hinput.2.2
    exact effectiveBit_of_settled hch (h _ hch (.inl ⟨hinput.1, hsub⟩))
  · split
    · rename_i haggregate
      exact aggregateBits_of_settled fun ch hch => h ch hch (.inr haggregate)
    · rfl

/-! ## Changes of the raw inputs and downloads -/

theorem setRawInput_outsideFilter (d : EL1258) (ch : Int) (v : Bool) (now : Nat → Int) :
    (d.setRawInput ch v now).outsideFilter = d.outsideFilter.setRawInput ch v now := by
  unfold setRawInput
  split
  · rfl
  · show EL1258.outsideFilter (if d.rawDi.get ch.toNat ≠ v then _ else _) =
      if d.rawDi.get ch.toNat ≠ v then _ else _
    split <;> rfl

theorem storeObject_outsideFilter (d : EL1258) (index : UInt16) (subindex : UInt8)
    (value : UInt32) :
    (d.storeObject index subindex value).2.outsideFilter =
      (d.outsideFilter.storeObject index subindex value).2.outsideFilter := by
  simp only [storeObject, apply_ite Prod.snd, apply_ite outsideFilter]
  rfl

namespace SameRaw

variable {d d' : EL1258} (h : SameRaw d d')

include h

theorem after_setRawInput (ch : Int) (v : Bool) (now : Nat → Int) :
    SameRaw (d.setRawInput ch v now) (d'.setRawInput ch v now) := by
  rw [SameRaw, setRawInput_outsideFilter, setRawInput_outsideFilter, h]

theorem after_setPower (on : Bool) (now : Nat → Int) :
    SameRaw (d.setPower on now) (d'.setPower on now) := by
  have hbutton : d'.powerButton = d.powerButton := congrArg (·.powerButton) h
  have hon : SameRaw { d with power := on } { d' with power := on } := by
    have hpower := congrArg (fun d : EL1258 => { d with power := on }) h
    exact hpower
  have hboth := (hon.after_setRawInput 1 on now).after_setRawInput 0 d.powerButton now
  rw [setPower, setPower, updateDerivedInputs, updateDerivedInputs]
  dsimp only
  rw [hbutton] at hboth ⊢
  exact hboth

theorem after_setPowerButton (pressed : Bool) (now : Nat → Int) :
    SameRaw (d.setPowerButton pressed now) (d'.setPowerButton pressed now) := by
  have hpressed : SameRaw { d with powerButton := pressed } { d' with powerButton := pressed } := by
    have hbutton := congrArg (fun d : EL1258 => { d with powerButton := pressed }) h
    exact hbutton
  exact hpressed.after_setRawInput 0 pressed now

theorem after_setInput (c : Int) (v : Bool) (now : Nat → Int) :
    SameRaw (d.setInput c v now) (d'.setInput c v now) := by
  have hset := h.after_setRawInput c v now
  rw [setInput, setInput]
  split
  · dsimp only
    split
    · exact congrArg (fun d : EL1258 => { d with power := v }) hset
    · exact hset
  · exact h

theorem after_storeObject (index : UInt16) (subindex : UInt8) (value : UInt32) :
    SameRaw (d.storeObject index subindex value).2 (d'.storeObject index subindex value).2 := by
  rw [SameRaw, storeObject_outsideFilter d', h, ← storeObject_outsideFilter d]

end SameRaw

end EL1258

/-! ## Two runs -/

namespace TerminalCall

/-- A `const` call that reads the terminal. -/
def IsObservation : TerminalCall → Prop
  | .input _ _ | .sdoUpload _ _ _ | .readDigitalInputsBitfield _ => True
  | _ => False

end TerminalCall

/-- A call of the terminal itself: a change of an input, a download or an observation. -/
abbrev DirectCall := { call : TerminalCall // call.IsDirect }

abbrev Observation := { call : TerminalCall // call.IsObservation }

/-- The timeline of two runs.  A call is made in both of them, or it is an observation
and made in one. -/
inductive PairEvent where
  | both (call : DirectCall)
  | first (call : Observation)
  | second (call : Observation)

namespace PairEvent

/-- The call in the first run. -/
def inFirst : PairEvent → Option TerminalCall
  | .both call => some call.1
  | .first call => some call.1
  | .second _ => none

/-- The call in the second run. -/
def inSecond : PairEvent → Option TerminalCall
  | .both call => some call.1
  | .first _ => none
  | .second call => some call.1

end PairEvent

namespace EL1258Slave

/-- The device after a call of the terminal itself depends on the device only. -/
theorem terminalStep_device_congr {s s' : EL1258Slave} (h : s'.device = s.device)
    {call : TerminalCall} (hcall : call.IsDirect) :
    (terminalStep s' call).device = (terminalStep s call).device := by
  cases call with
  | setPower on now => exact congrArg (EL1258.setPower · on now) h
  | setPowerButton pressed now => exact congrArg (EL1258.setPowerButton · pressed now) h
  | setInput c value now => exact congrArg (EL1258.setInput · c value now) h
  | input c now => exact congrArg (fun d => (EL1258.input d c now).2) h
  | sdoUpload index subindex now =>
    exact congrArg (fun d => (EL1258.onSdoUpload d index subindex now).2) h
  | sdoDownload index subindex value nbytes =>
    exact congrArg (fun d => (EL1258.storeObject d index subindex value).2) h
  | readDigitalInputsBitfield now =>
    rw [terminalStep, terminalStep, h]
  | applyDefaultTxPdoMapping =>
    show (applyDefaultTxPdoMapping s').device = (applyDefaultTxPdoMapping s).device
    unfold applyDefaultTxPdoMapping
    dsimp only [VirtualSlave.setInputPDOMapped]
    rw [h]
  | onSlave op => exact absurd hcall id

theorem terminalStep_observation (s : EL1258Slave) {call : TerminalCall}
    (hcall : call.IsObservation) :
    EL1258.SameRaw s.device (terminalStep s call).device := by
  cases call with
  | input c now =>
    show (s.device.input c now).2.outsideFilter = _
    unfold EL1258.input
    split
    · exact EL1258.effectiveBit_outsideFilter _ _ _
    · rfl
  | sdoUpload index subindex now => exact EL1258.onSdoUpload_outsideFilter _ _ _ _
  | readDigitalInputsBitfield now =>
    rw [terminalStep, EL1258.SameRaw, EL1258.aggregateBits_outsideFilter]
  | _ => exact absurd hcall id

/-- A call that both terminals make keeps them apart in their filters only. -/
theorem terminalStep_sameRaw {s s' : EL1258Slave} (h : EL1258.SameRaw s.device s'.device)
    {call : TerminalCall} (hcall : call.IsDirect) :
    EL1258.SameRaw (terminalStep s call).device (terminalStep s' call).device := by
  have hobserve : call.IsObservation →
      EL1258.SameRaw (terminalStep s call).device (terminalStep s' call).device := by
    intro hobs
    have hleft := terminalStep_observation s hobs
    have hright := terminalStep_observation s' hobs
    exact (hright.trans h).trans hleft.symm
  cases call with
  | setPower on now => exact h.after_setPower on now
  | setPowerButton pressed now => exact h.after_setPowerButton pressed now
  | setInput c value now => exact h.after_setInput c value now
  | input c now => exact hobserve trivial
  | sdoUpload index subindex now => exact hobserve trivial
  | sdoDownload index subindex value nbytes => exact h.after_storeObject index subindex value
  | readDigitalInputsBitfield now => exact hobserve trivial
  | applyDefaultTxPdoMapping =>
    exact congrArg (fun d : EL1258 => { d with
      txpdoCount := 1
      txpdoEntries := d.txpdoEntries.set 0 ((OBJ_DIGITAL_AGGREGATE.toUInt32 <<< 16) |||
        ((0x00 : UInt32) <<< 8) ||| CHANNEL_COUNT_U8.toUInt32)
      assignCount := 1
      assignEntries := d.assignEntries.set 0 PDO_MAPPING_BASE }) h
  | onSlave op => exact absurd hcall id

/-- Terminals that differ in their filters only answer a call in the same way exactly
when the channels that it shows read the same. -/
theorem answer_eq_iff {s s' : EL1258Slave} (h : EL1258.SameRaw s.device s'.device)
    (call : TerminalCall) :
    s'.answer call = s.answer call ↔ ∀ ch < CHANNEL_COUNT, call.Reads ch →
      ∀ t ∈ call.readingFor ch, s'.device.shown ch t = s.device.shown ch t := by
  have hnone : (∀ ch, ¬call.Reads ch) → ∀ ch < CHANNEL_COUNT, call.Reads ch →
      ∀ t ∈ call.readingFor ch, s'.device.shown ch t = s.device.shown ch t :=
    fun hno ch _ hreads => absurd hreads (hno ch)
  cases call with
  | input c now =>
    rw [answer, answer, Option.some_inj, Answer.level.injEq, h.input_eq_iff]
    simp [TerminalCall.Reads, TerminalCall.readingFor]
  | sdoUpload index subindex now =>
    rw [answer, answer, Option.some_inj, Answer.upload.injEq, h.onSdoUpload_eq_iff]
    simp [TerminalCall.Reads, TerminalCall.readingFor]
  | readDigitalInputsBitfield now =>
    rw [answer, answer, Option.some_inj, Answer.bits.injEq, h.aggregateBits_eq_iff]
    simp [TerminalCall.Reads, TerminalCall.readingFor]
  | _ => exact iff_of_true rfl (hnone fun _ => id)

/-- The answer depends on the device only. -/
theorem answer_congr {s s' : EL1258Slave} (h : s'.device = s.device) (call : TerminalCall) :
    s'.answer call = s.answer call := by
  cases call <;> simp only [answer, h]

/-- An observation that takes nothing over leaves the device alone. -/
theorem terminalStep_of_settled {s : EL1258Slave} {call : TerminalCall}
    (hcall : call.IsObservation) (h : ∀ ch < CHANNEL_COUNT, call.Reads ch →
      ∀ t ∈ call.readingFor ch, s.device.Settled ch t) :
    (terminalStep s call).device = s.device := by
  cases call with
  | input c now =>
    rw [terminalStep, EL1258.input_of_settled fun ch hch hc => h ch hch hc (now ch) rfl]
  | sdoUpload index subindex now =>
    rw [terminalStep, EL1258.onSdoUpload_of_settled fun ch hch hc => h ch hch hc (now ch) rfl]
  | readDigitalInputsBitfield now =>
    rw [terminalStep, EL1258.aggregateBits_of_settled fun ch hch => h ch hch trivial (now ch) rfl]
  | _ => exact absurd hcall id

/-! ## The runs of a timeline -/

/-- The two terminals after the next call of the timeline. -/
def pairStep (p : EL1258Slave × EL1258Slave) : PairEvent → EL1258Slave × EL1258Slave
  | .both call => (terminalStep p.1 call.1, terminalStep p.2 call.1)
  | .first call => (terminalStep p.1 call.1, p.2)
  | .second call => (p.1, terminalStep p.2 call.1)

/-- The two terminals of a timeline make the runs of their calls. -/
theorem run_pairStep (s s' : EL1258Slave) (events : List PairEvent) :
    run pairStep (s, s') events =
      (run terminalStep s (events.filterMap PairEvent.inFirst),
        run terminalStep s' (events.filterMap PairEvent.inSecond)) := by
  induction events generalizing s s' with
  | nil => rfl
  | cons event events ih =>
    cases event with
    | both call => exact ih _ _
    | first call => exact ih _ _
    | second call => exact ih _ _

/-- An observation that both runs make returns the same in both. -/
def SameAnswer (p : EL1258Slave × EL1258Slave) : PairEvent → Prop
  | .both call => p.2.answer call.1 = p.1.answer call.1
  | .first _ | .second _ => True

instance (p : EL1258Slave × EL1258Slave) : (event : PairEvent) → Decidable (SameAnswer p event)
  | .both _ => inferInstanceAs (Decidable (_ = _))
  | .first _ | .second _ => isTrue trivial

/-- For every channel that an observation of both runs shows, the debounce filter is not
in use, the raw value is old enough to be reported, or the filters hold the same. -/
def ReadsAlike (p : EL1258Slave × EL1258Slave) : PairEvent → Prop
  | .both call => ∀ ch < CHANNEL_COUNT, call.1.Reads ch → ∀ t ∈ call.1.readingFor ch,
      p.1.device.wait = 0 ∨ p.1.device.wait ≤ t - p.1.device.lastChange.get ch ∨
        p.2.device.effDi.get ch = p.1.device.effDi.get ch
  | .first _ | .second _ => True

/-- An observation that one run makes takes over no raw value. -/
def Inert (p : EL1258Slave × EL1258Slave) : PairEvent → Prop
  | .both _ => True
  | .first call => ∀ ch < CHANNEL_COUNT, call.1.Reads ch →
      ∀ t ∈ call.1.readingFor ch, p.1.device.Settled ch t
  | .second call => ∀ ch < CHANNEL_COUNT, call.1.Reads ch →
      ∀ t ∈ call.1.readingFor ch, p.2.device.Settled ch t

theorem pairStep_sameRaw {p : EL1258Slave × EL1258Slave} (h : EL1258.SameRaw p.1.device p.2.device)
    (event : PairEvent) :
    EL1258.SameRaw (pairStep p event).1.device (pairStep p event).2.device := by
  cases event with
  | both call => exact terminalStep_sameRaw h call.2
  | first call => exact h.trans (terminalStep_observation p.1 call.2).symm
  | second call => exact (terminalStep_observation p.2 call.2).trans h

theorem sameAnswer_iff {p : EL1258Slave × EL1258Slave} (h : EL1258.SameRaw p.1.device p.2.device)
    (event : PairEvent) : SameAnswer p event ↔ ReadsAlike p event := by
  cases event with
  | both call =>
    rw [SameAnswer, ReadsAlike, answer_eq_iff h]
    refine forall_congr' fun ch => forall_congr' fun _ => forall_congr' fun _ =>
      forall_congr' fun t => forall_congr' fun _ => ?_
    rw [h.shown_eq_iff ch t]
    rfl
  | first call => exact Iff.rfl
  | second call => exact Iff.rfl

/-- Inert observations leave the devices of the two runs the same. -/
theorem pairStep_same_device {p : EL1258Slave × EL1258Slave} (h : p.2.device = p.1.device)
    {event : PairEvent} (hinert : Inert p event) :
    (pairStep p event).2.device = (pairStep p event).1.device := by
  cases event with
  | both call => exact terminalStep_device_congr h call.2
  | first call => exact h.trans (terminalStep_of_settled call.2 hinert).symm
  | second call => exact (terminalStep_of_settled call.2 hinert).trans h

/-- The common observations of two runs agree exactly when each of them reads alike in
both, which is so when no observation that only one of the runs makes takes a raw value
over. -/
theorem observations_alike_iff (s : EL1258Slave) (events : List PairEvent) :
    (StepsOk pairStep SameAnswer (s, s) events ↔ StepsOk pairStep ReadsAlike (s, s) events) ∧
      (StepsOk pairStep Inert (s, s) events → StepsOk pairStep SameAnswer (s, s) events) := by
  constructor
  · have hinv : ∀ (p : EL1258Slave × EL1258Slave) (event : PairEvent),
        EL1258.SameRaw p.1.device p.2.device → True → SameAnswer p event →
          EL1258.SameRaw (pairStep p event).1.device (pairStep p event).2.device :=
      fun _ event h _ _ => pairStep_sameRaw h event
    have hstep : ∀ (p : EL1258Slave × EL1258Slave) (event : PairEvent),
        EL1258.SameRaw p.1.device p.2.device → True →
          (SameAnswer p event ↔ ReadsAlike p event) :=
      fun _ event h _ => sameAnswer_iff h event
    have hstart : EL1258.SameRaw s.device s.device := rfl
    exact @stepsOk_iff _ _ pairStep (fun p => EL1258.SameRaw p.1.device p.2.device)
      (fun _ _ => True) SameAnswer ReadsAlike hinv hstep (s, s) hstart events
      (stepsOk_all (fun _ _ => trivial) (s, s) events)
  · intro hinert
    have hkeep : ∀ (p : EL1258Slave × EL1258Slave) (event : PairEvent),
        p.2.device = p.1.device → Inert p event →
          (pairStep p event).2.device = (pairStep p event).1.device :=
      fun _ _ h hevent => pairStep_same_device h hevent
    have hsame := @always_of_step _ _ pairStep (fun p => p.2.device = p.1.device) Inert hkeep
      (s, s) rfl events hinert
    refine hsame.stepsOk_imp ?_ hinert
    intro p event hp _
    cases event with
    | both call => exact answer_congr hp call.1
    | first call => trivial
    | second call => trivial

/-- An input that is high for 7 ms under a debounce time of 5 ms.  The first run reads it
at 6 ms, and both read it at 8 ms. -/
def readWhileHigh : List PairEvent :=
  [.both ⟨.sdoDownload OBJ_DEBOUNCE_TIME 0 5 4, trivial⟩,
    .both ⟨.setInput 0 true fun _ => 0, trivial⟩,
    .first ⟨.input 0 fun _ => 6000000, trivial⟩,
    .both ⟨.setInput 0 false fun _ => 7000000, trivial⟩,
    .both ⟨.input 0 fun _ => 8000000, trivial⟩]

theorem observations_alike_false :
    let s := new 1 2 3 fun _ => 0
    let p := run pairStep (s, s) (readWhileHigh.take 4)
    p.1.answer (.input 0 fun _ => 8000000) = some (.level true) ∧
      p.2.answer (.input 0 fun _ => 8000000) = some (.level false) ∧
      ¬StepsOk pairStep SameAnswer (s, s) readWhileHigh := by
  decide

end EL1258Slave

end EthercatSim

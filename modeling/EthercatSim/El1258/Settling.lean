import EthercatSim.El1258.InputImage
import EthercatSim.Lib.Debounce

/-!
# The settling of the inputs of the EL1258

`setChannelState` puts a change of a channel through a filter of 3 ms.  The filter asks
the clock in `setChannelState` only, so the change waits for the next call for the
channel, however late that is.  The functions that read the channels show what the last
call has left.

* `setChannelState_confirming`: a call is `Debounce.Confirming.set` of its channel.
* `ChannelHistory`: a terminal with the latest calls for one channel.
* `ReportsSettled`: a read that is made 3 ms after the channel was set reports the value.
* `settled_iff`: the reads of a history report what was set exactly when a later call has
  confirmed it, or the channel showed it before.
* `settled_once_false`: a single change that is read for an hour.
-/

namespace EthercatSim

open Kickcat Bytes El1258 StepRun

namespace El1258

/-! ## The filters -/

/-- `DEBOUNCE_FILTER_MS` in nanoseconds. -/
def FILTER_WAIT : Int := DEBOUNCE_FILTER_MS * 1000000

/-- The filter of a channel with the value that it shows. -/
def confirming (d : El1258) (i : Nat) : Debounce.Confirming :=
  { raw := (d.channelFilters.get i).rawState
    active := (d.channelFilters.get i).debounceActive
    since := (d.channelFilters.get i).debounceStart
    out := d.channels.get i }

theorem confirming_set (d : El1258) {j : Nat} (hj : j < CHANNEL_COUNT) (f : ChannelFilter)
    (out : Bool) (i : Nat) :
    confirming { d with
        channelFilters := d.channelFilters.set j f, channels := d.channels.set j out } i =
      if i = j then ⟨f.rawState, f.debounceActive, f.debounceStart, out⟩ else d.confirming i := by
  unfold confirming
  dsimp only
  rw [Cells.get_set, Cells.get_set]
  by_cases hi : i = j
  · rw [if_pos ⟨hi, hj⟩, if_pos ⟨hi, hj⟩, if_pos hi]
  · rw [if_neg fun hc => hi hc.1, if_neg fun hc => hi hc.1, if_neg hi]

theorem confirming_setFilter (d : El1258) {j : Nat} (hj : j < CHANNEL_COUNT) (f : ChannelFilter)
    (i : Nat) :
    confirming { d with channelFilters := d.channelFilters.set j f } i =
      if i = j then ⟨f.rawState, f.debounceActive, f.debounceStart, d.channels.get j⟩
      else d.confirming i := by
  unfold confirming
  dsimp only
  rw [Cells.get_set]
  by_cases hi : i = j
  · rw [if_pos ⟨hi, hj⟩, if_pos hi, hi]
  · rw [if_neg fun hc => hi hc.1, if_neg hi]

/-- What `setChannelState` makes of the filters. -/
theorem setChannelState_confirming (d : El1258) {i : Nat} (hi : i < CHANNEL_COUNT)
    (channel : Int) (state : Bool) (now : Int) :
    (d.setChannelState channel state now).confirming i =
      if channel = i + 1 then (d.confirming i).set FILTER_WAIT state now else d.confirming i := by
  have hi8 : i < 8 := hi
  have hold : ∀ start : Int, DEBOUNCE_FILTER_MS ≤ (now - start).tdiv 1000000 ↔
      FILTER_WAIT ≤ now - start :=
    fun start => Debounce.le_tdiv_iff (by decide) (by decide) _
  have hrange : 1 ≤ channel ∧ channel ≤ CHANNEL_MAX ↔ (channel - 1).toNat < 8 ∧ 1 ≤ channel := by
    show 1 ≤ channel ∧ channel ≤ 8 ↔ _
    omega
  have hset : ∀ (j : Nat) (f : ChannelFilter),
      (if (d.channelFilters.get j).rawState ≠ state then
        { rawState := state, debounceStart := now, debounceActive := true }
      else d.channelFilters.get j) = f →
      (d.confirming j).set FILTER_WAIT state now =
        if f.debounceActive = true ∧ FILTER_WAIT ≤ now - f.debounceStart then
          ⟨f.rawState, false, f.debounceStart, f.rawState⟩
        else ⟨f.rawState, f.debounceActive, f.debounceStart, d.channels.get j⟩ := by
    rintro j f rfl
    rw [Debounce.Confirming.set, confirming]
    by_cases hv : (d.channelFilters.get j).rawState ≠ state
    · simp only [if_pos hv]
    · simp only [if_neg hv]
  rw [setChannelState]
  by_cases hc : 1 ≤ channel ∧ channel ≤ CHANNEL_MAX
  · obtain ⟨hj, hone⟩ := hrange.mp hc
    have hmine : i = (channel - 1).toNat ↔ channel = i + 1 := by omega
    rw [if_pos hc]
    generalize (channel - 1).toNat = j at *
    dsimp only
    generalize hf : ite ((d.channelFilters.get j).rawState ≠ state) _ _ = f
    simp only [hold]
    by_cases hi' : i = j
    · rw [if_pos (hmine.mp hi'), hi', hset j f hf]
      split
      · rw [confirming_set d hj, if_pos rfl]
      · rw [confirming_setFilter d hj, if_pos rfl]
    · rw [if_neg (fun h => hi' (hmine.mpr h))]
      split
      · rw [confirming_set d hj, if_neg hi']
      · rw [confirming_setFilter d hj, if_neg hi']
  · rw [if_neg hc, if_neg fun h => hc (hrange.mpr (by omega))]

theorem onSdoDownload_confirming (d : El1258) (mapped : Bool) (index : UInt16)
    (subindex : UInt8) (value : UInt32) (i : Nat) :
    (d.onSdoDownload mapped index subindex value).2.2.confirming i = d.confirming i := by
  unfold onSdoDownload
  dsimp only
  split_ifs <;> rfl

end El1258

namespace El1258Slave

/-! ## Reading a channel -/

/-- The calls that show channels to their caller. -/
inductive InputRead where
  | getChannelState (channel : Int)
  | sdoUpload (index : UInt16) (subindex : UInt8)
  | readDigitalInputsBitfield
  deriving DecidableEq, Repr

/-- The read shows the channel. -/
def InputRead.Reads (i : Nat) : InputRead → Prop
  | .getChannelState channel => channel = i + 1
  | .sdoUpload index subindex =>
    (index = OBJ_DIGITAL_INPUT ∨ index = OBJ_DIGITAL_STATUS) ∧ subindex.toNat = i + 1 ∨
      index = OBJ_DIGITAL_AGGREGATE
  | .readDigitalInputsBitfield => True

instance (i : Nat) : (r : InputRead) → Decidable (r.Reads i)
  | .getChannelState _ => inferInstanceAs (Decidable (_ = _))
  | .sdoUpload _ _ => inferInstanceAs (Decidable (_ ∨ _))
  | .readDigitalInputsBitfield => isTrue trivial

/-- The slave after a read. -/
def afterRead (s : El1258Slave) : InputRead → El1258Slave
  | .getChannelState _ => s
  | .sdoUpload index subindex => (s.sdoUpload index subindex).2
  | .readDigitalInputsBitfield =>
    { s with device := (SlaveDevice.readDigitalInputsBitfield s.device).2 }

/-- The value of the channel in the answer to a read.  The aggregate and the bit field are
inverted by the mask. -/
def observe (s : El1258Slave) (i : Nat) : InputRead → Option Bool
  | .getChannelState channel =>
    if channel = i + 1 then some (s.device.getChannelState channel) else none
  | .sdoUpload index subindex =>
    if (index = OBJ_DIGITAL_INPUT ∨ index = OBJ_DIGITAL_STATUS) ∧ subindex.toNat = i + 1 then
      (s.sdoUpload index subindex).1.map fun v => v.toNat.testBit 0
    else if index = OBJ_DIGITAL_AGGREGATE then
      (s.sdoUpload index subindex).1.map fun v =>
        v.toNat.testBit i ^^ s.device.invertMask.toNat.testBit i
    else none
  | .readDigitalInputsBitfield =>
    (SlaveDevice.readDigitalInputsBitfield s.device).1.map fun v =>
      v.toNat.testBit i ^^ s.device.invertMask.toNat.testBit i

theorem afterRead_device (s : El1258Slave) (r : InputRead) : (s.afterRead r).device = s.device := by
  cases r with
  | getChannelState channel => rfl
  | sdoUpload index subindex =>
    rw [afterRead, VirtualSlave.sdoUpload]
    split_ifs <;> rfl
  | readDigitalInputsBitfield => rfl

/-- Every view of a channel shows what its filter does. -/
theorem observe_of_reads (s : El1258Slave) {i : Nat} (hi : i < CHANNEL_COUNT) {r : InputRead}
    (h : r.Reads i) : s.observe i r = some (s.device.confirming i).out := by
  have hi8 : i < 8 := hi
  have hbit : (s.device.currentAggregate.toNat.testBit i ^^
      s.device.invertMask.toNat.testBit i) = s.device.channels.get i := by
    rw [testBit_currentAggregate s.device hi, Bool.xor_assoc, Bool.xor_self, Bool.xor_false]
  cases r with
  | getChannelState channel =>
    obtain rfl : channel = i + 1 := h
    have hrange : 1 ≤ (i + 1 : Int) ∧ (i + 1 : Int) ≤ CHANNEL_MAX := by
      show 1 ≤ (i + 1 : Int) ∧ (i + 1 : Int) ≤ 8
      omega
    rw [observe, if_pos rfl, El1258.getChannelState, if_pos hrange,
      show ((i : Int) + 1 - 1).toNat = i by omega]
    rfl
  | sdoUpload index subindex =>
    rw [observe]
    by_cases hplain : (index = OBJ_DIGITAL_INPUT ∨ index = OBJ_DIGITAL_STATUS) ∧
        subindex.toNat = i + 1
    · obtain ⟨hindex, hsub⟩ := hplain
      have hk : 1 ≤ subindex ∧ subindex ≤ CHANNEL_COUNT_U8 := by
        rw [UInt8.le_iff_toNat_le, UInt8.le_iff_toNat_le, hsub]
        exact ⟨Nat.le_add_left 1 i, hi⟩
      have hi' : subindex.toNat - 1 = i := by omega
      rw [if_pos ⟨hindex, hsub⟩]
      rcases hindex with rfl | rfl
      · rw [sdoUpload_eq s (by decide), onSdoUpload_digitalInput s.device hk, hi']
        show some _ = some (s.device.channels.get i)
        cases s.device.channels.get i <;> rfl
      · rw [sdoUpload_eq s (by decide), onSdoUpload_digitalStatus s.device hk, hi']
        show some _ = some (s.device.channels.get i)
        cases s.device.channels.get i <;> rfl
    · obtain rfl : index = OBJ_DIGITAL_AGGREGATE := h.resolve_left hplain
      rw [if_neg hplain, if_pos rfl, sdoUpload_eq s (by decide), onSdoUpload_digitalAggregate,
        Option.map_some, hbit]
      rfl
  | readDigitalInputsBitfield =>
    exact congrArg some hbit

theorem observe_of_not_reads (s : El1258Slave) {i : Nat} {r : InputRead} (h : ¬r.Reads i) :
    s.observe i r = none := by
  cases r with
  | getChannelState channel => exact if_neg h
  | sdoUpload index subindex =>
    rw [observe, if_neg fun hc => h (.inl hc), if_neg fun hc => h (.inr hc)]
  | readDigitalInputsBitfield => exact absurd trivial h

/-! ## Histories -/

/-- An entry of a timeline: a call that may change the inputs, or a read of them. -/
inductive InputEvent where
  | call (c : InputCall)
  | read (r : InputRead) (now : Int)
  deriving DecidableEq, Repr

/-- The time of the entry. -/
def InputEvent.reading : InputEvent → Option Int
  | .call (.setChannelState _ _ now) | .read _ now => some now
  | .call (.sdoDownload _) => none

end El1258Slave

open El1258Slave

/-- A terminal with the time of the last entry of its timeline, and the latest calls that
set one channel to one value. -/
structure ChannelHistory where
  slave : El1258Slave
  clock : Option Int
  held : Option Debounce.Held

namespace ChannelHistory

/-- A new terminal. -/
def start (stationAddr : UInt16) (vendorId productCode : UInt32) : ChannelHistory where
  slave := El1258Slave.new stationAddr vendorId productCode
  clock := none
  held := none

/-- One entry of the timeline. -/
def step (i : Nat) (h : ChannelHistory) : InputEvent → ChannelHistory
  | .call (.setChannelState channel state now) =>
    { slave := inputStep h.slave (.setChannelState channel state now)
      clock := some now
      held :=
        if channel = i + 1 then
          some (Debounce.Held.next h.held state now (h.slave.device.channels.get i))
        else h.held }
  | .call (.sdoDownload w) => { h with slave := inputStep h.slave (.sdoDownload w) }
  | .read r now => { h with slave := h.slave.afterRead r, clock := some now }

/-- The clock has not gone back. -/
def OnTimeline (h : ChannelHistory) (e : InputEvent) : Prop :=
  ∀ t ∈ e.reading, ∀ c ∈ h.clock, c ≤ t

/-- A read that is made 3 ms or more after the channel was set to its value reports the
value. -/
def ReportsSettled (i : Nat) (h : ChannelHistory) : InputEvent → Prop
  | .call _ => True
  | .read r now =>
    ∀ v ∈ h.slave.observe i r, ∀ held ∈ h.held, held.since + FILTER_WAIT ≤ now → v = held.value

/-- When such a read is made, one of the calls that set the channel to its value was made
3 ms after the first of them, or the channel showed the value before. -/
def ReadsConfirmed (i : Nat) (h : ChannelHistory) : InputEvent → Prop
  | .call _ => True
  | .read r now =>
    r.Reads i → ∀ held ∈ h.held, held.since + FILTER_WAIT ≤ now → held.Confirmed FILTER_WAIT

instance (h : ChannelHistory) (e : InputEvent) : Decidable (OnTimeline h e) :=
  inferInstanceAs (Decidable (∀ t ∈ e.reading, ∀ c ∈ h.clock, c ≤ t))

instance (i : Nat) (h : ChannelHistory) : (e : InputEvent) → Decidable (ReportsSettled i h e)
  | .call _ => isTrue trivial
  | .read r now => inferInstanceAs (Decidable (∀ v ∈ h.slave.observe i r, ∀ held ∈ h.held,
      held.since + FILTER_WAIT ≤ now → v = held.value))

instance (i : Nat) (h : ChannelHistory) : (e : InputEvent) → Decidable (ReadsConfirmed i h e)
  | .call _ => isTrue trivial
  | .read r now => inferInstanceAs (Decidable (r.Reads i → ∀ held ∈ h.held,
      held.since + FILTER_WAIT ≤ now → held.Confirmed FILTER_WAIT))

/-- The filter of the channel is as the history has left it. -/
def Tracked (i : Nat) (h : ChannelHistory) : Prop :=
  (h.slave.device.confirming i).Tracks FILTER_WAIT h.held ∧
    ∀ held ∈ h.held, ∃ c ∈ h.clock, held.last ≤ c

theorem start_tracked {i : Nat} (hi : i < CHANNEL_COUNT) (stationAddr : UInt16)
    (vendorId productCode : UInt32) : Tracked i (start stationAddr vendorId productCode) := by
  have hfilter : (start stationAddr vendorId productCode).slave.device.confirming i =
      ⟨false, false, 0, false⟩ := by
    show El1258.confirming El1258.initial i = _
    simp [El1258.confirming, El1258.initial, hi]
  refine ⟨?_, fun held hheld => by cases hheld⟩
  rw [hfilter]
  exact ⟨rfl, rfl⟩

theorem step_tracked {i : Nat} (hi : i < CHANNEL_COUNT) {h : ChannelHistory} (hI : Tracked i h)
    {e : InputEvent} (he : OnTimeline h e) : Tracked i (step i h e) := by
  obtain ⟨htracks, hlast⟩ := hI
  -- an entry that leaves the calls for the channel alone
  have hlater : ∀ now : Int, (∀ c ∈ h.clock, c ≤ now) →
      ∀ held ∈ h.held, ∃ c ∈ some now, held.last ≤ c := by
    intro now hnow held hheld
    obtain ⟨c, hc, hle⟩ := hlast held hheld
    exact ⟨now, rfl, Int.le_trans hle (hnow c hc)⟩
  cases e with
  | call c =>
    cases c with
    | setChannelState channel state now =>
      have hnow := he now rfl
      have hfilter := h.slave.device.setChannelState_confirming hi channel state now
      rw [step]
      by_cases hc : channel = i + 1
      · rw [if_pos hc] at hfilter ⊢
        have hbefore : ∀ held ∈ h.held, held.last ≤ now := by
          intro held hheld
          obtain ⟨c, hc, hle⟩ := hlast held hheld
          exact Int.le_trans hle (hnow c hc)
        have hset := Debounce.Confirming.set_tracks (by decide) htracks state hbefore
        rw [← hfilter] at hset
        refine ⟨hset, ?_⟩
        rintro held ⟨⟩
        exact ⟨now, rfl, Int.le_of_eq (Debounce.Held.next_last _ _ _ _)⟩
      · rw [if_neg hc] at hfilter ⊢
        rw [← hfilter] at htracks
        exact ⟨htracks, hlater now hnow⟩
    | sdoDownload w =>
      have hfilter := h.slave.device.onSdoDownload_confirming h.slave.inputPdoMapped w.index
        w.subindex w.value i
      rw [← hfilter] at htracks
      exact ⟨htracks, hlast⟩
  | read r now =>
    have hdevice := h.slave.afterRead_device r
    rw [← hdevice] at htracks
    exact ⟨htracks, hlater now (he now rfl)⟩

/-- A read reports what was set exactly when the channel is confirmed. -/
theorem reportsSettled_iff {i : Nat} (hi : i < CHANNEL_COUNT) {h : ChannelHistory}
    (hI : Tracked i h) (e : InputEvent) : ReportsSettled i h e ↔ ReadsConfirmed i h e := by
  have hconfirmed : ∀ held ∈ h.held, ((h.slave.device.confirming i).out = held.value ↔
      held.Confirmed FILTER_WAIT) := by
    intro held hheld
    have htracks := hI.1
    rw [hheld] at htracks
    exact htracks.out_eq_iff
  cases e with
  | call c => exact Iff.rfl
  | read r now =>
    by_cases hreads : r.Reads i
    · have hobserve := h.slave.observe_of_reads hi hreads
      constructor
      · intro hsettled _ held hheld hlong
        exact (hconfirmed held hheld).mp (hsettled _ hobserve held hheld hlong)
      · intro hconf v hv held hheld hlong
        have hv' : (h.slave.device.confirming i).out = v :=
          Option.some.inj (hobserve.symm.trans hv)
        rw [← hv']
        exact (hconfirmed held hheld).mpr (hconf hreads held hheld hlong)
    · have hnone := h.slave.observe_of_not_reads hreads
      constructor
      · exact fun _ hc => absurd hc hreads
      · intro _ v hv
        rw [hnone] at hv
        cases hv

/-- The reads of a channel along a timeline report what was set 3 ms before exactly when,
at each of them, a later call has confirmed the value or the channel showed it already. -/
theorem settled_iff (i : Nat) (hi : i < CHANNEL_COUNT) (stationAddr : UInt16)
    (vendorId productCode : UInt32) (events : List InputEvent)
    (hevents : StepsOk (step i) OnTimeline (start stationAddr vendorId productCode) events) :
    StepsOk (step i) (ReportsSettled i) (start stationAddr vendorId productCode) events ↔
      StepsOk (step i) (ReadsConfirmed i) (start stationAddr vendorId productCode) events := by
  have hinv : ∀ (h : ChannelHistory) (e : InputEvent), Tracked i h → OnTimeline h e →
      ReportsSettled i h e → Tracked i (step i h e) :=
    fun _ _ hI he _ => step_tracked hi hI he
  have hstep : ∀ (h : ChannelHistory) (e : InputEvent), Tracked i h → OnTimeline h e →
      (ReportsSettled i h e ↔ ReadsConfirmed i h e) :=
    fun _ e hI _ => reportsSettled_iff hi hI e
  exact stepsOk_iff hinv hstep (start_tracked hi stationAddr vendorId productCode) hevents

/-- A channel that is set twice, 3 ms apart, and then read. -/
def setTwice : List InputEvent :=
  [.call (.setChannelState 1 true 0), .call (.setChannelState 1 true 3000000),
    .read (.getChannelState 1) 3000000, .read .readDigitalInputsBitfield 4000000]

theorem settled_twice :
    StepsOk (step 0) (ReportsSettled 0) (start 1 VENDOR_ID PRODUCT_CODE) setTwice := by
  have hevents : StepsOk (step 0) OnTimeline (start 1 VENDOR_ID PRODUCT_CODE) setTwice := by
    decide
  have hconfirmed : StepsOk (step 0) (ReadsConfirmed 0) (start 1 VENDOR_ID PRODUCT_CODE)
      setTwice := by
    decide
  exact (settled_iff 0 (by decide) 1 VENDOR_ID PRODUCT_CODE _ hevents).mpr hconfirmed

/-- A channel that is set once and read an hour later, in five ways. -/
def setOnce : List InputEvent :=
  [.call (.setChannelState 1 true 0), .read (.getChannelState 1) 3600000000000,
    .read (.sdoUpload OBJ_DIGITAL_INPUT 1) 3600000000000,
    .read (.sdoUpload OBJ_DIGITAL_STATUS 1) 3600000000000,
    .read (.sdoUpload OBJ_DIGITAL_AGGREGATE 0) 3600000000000,
    .read .readDigitalInputsBitfield 3600000000000]

theorem settled_once_false :
    let h := run (step 0) (start 1 VENDOR_ID PRODUCT_CODE) (setOnce.take 1)
    StepsOk (step 0) OnTimeline (start 1 VENDOR_ID PRODUCT_CODE) setOnce ∧
      h.held = some ⟨true, 0, 0, false⟩ ∧
      h.slave.observe 0 (.getChannelState 1) = some false ∧
      h.slave.observe 0 (.sdoUpload OBJ_DIGITAL_INPUT 1) = some false ∧
      h.slave.observe 0 (.sdoUpload OBJ_DIGITAL_STATUS 1) = some false ∧
      h.slave.observe 0 (.sdoUpload OBJ_DIGITAL_AGGREGATE 0) = some false ∧
      h.slave.observe 0 .readDigitalInputsBitfield = some false ∧
      ¬StepsOk (step 0) (ReportsSettled 0) (start 1 VENDOR_ID PRODUCT_CODE) setOnce := by
  decide

end ChannelHistory

end EthercatSim

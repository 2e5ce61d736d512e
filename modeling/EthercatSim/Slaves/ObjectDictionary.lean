import EthercatSim.Slaves.InputMapping

/-!
# The writable object dictionary of the `EL1258Slave`

`onSdoDownload` and `onSdoUpload` are two lists of tests.  Seen from a master they are
one dictionary of sixteen objects.

* `DictObject` names these objects, `get` and `put` are the dictionary.  `get_put` is its
  law: an object reads back what was put into it, cut down to its width, and the others
  are left alone, except that a count clears the entries beyond it.
* `storeObject_eq` and `onSdoUpload_eq` connect the two functions to the dictionary.
* `TerminalCall` lists the calls of a terminal, and `countsInRange_run` says that they
  keep the counts within the arrays.
* `dictionary_roundTrip` puts these together.
-/

namespace EthercatSim

open Kickcat El1258 StepRun

/-! ## The dictionary -/

/-- The objects that a master can write. -/
inductive DictObject where
  | invertMask
  | debounceTime
  | mapCount
  | mapEntry (k : Fin 8)
  | assignCount
  | assignEntry (k : Fin 4)
  deriving DecidableEq, Repr

namespace DictObject

def index : DictObject → UInt16
  | .invertMask => OBJ_INVERT_MASK
  | .debounceTime => OBJ_DEBOUNCE_TIME
  | .mapCount | .mapEntry _ => PDO_MAPPING_BASE
  | .assignCount | .assignEntry _ => PDO_ASSIGN_TX

def subindex : DictObject → UInt8
  | .mapEntry k => (k.val + 1).toUInt8
  | .assignEntry k => (k.val + 1).toUInt8
  | _ => 0

/-- The part of a value that the object holds. -/
def reduce (v : UInt32) : DictObject → Nat
  | .invertMask => v.toNat % 256
  | .debounceTime => v.toNat % 65536
  | .mapCount => min (v.toNat % 256) 8
  | .mapEntry _ => v.toNat
  | .assignCount => min (v.toNat % 256) 4
  | .assignEntry _ => v.toNat % 65536

/-- A value written to the object clears the other one: it is a count, and the other one
an entry beyond it. -/
def Clears (v : UInt32) : DictObject → DictObject → Prop
  | .mapCount, .mapEntry k => reduce v .mapCount < k.val + 1
  | .assignCount, .assignEntry k => reduce v .assignCount < k.val + 1
  | _, _ => False

instance (v : UInt32) : (o o' : DictObject) → Decidable (Clears v o o')
  | .mapCount, .mapEntry _ => inferInstanceAs (Decidable (_ < _))
  | .assignCount, .assignEntry _ => inferInstanceAs (Decidable (_ < _))
  | .mapCount, .mapCount | .mapCount, .assignCount | .mapCount, .assignEntry _ => isFalse id
  | .mapCount, .invertMask | .mapCount, .debounceTime => isFalse id
  | .assignCount, .mapCount | .assignCount, .assignCount | .assignCount, .mapEntry _ => isFalse id
  | .assignCount, .invertMask | .assignCount, .debounceTime => isFalse id
  | .invertMask, _ | .debounceTime, _ | .mapEntry _, _ | .assignEntry _, _ => isFalse id

/-- What the object holds. -/
def get (d : EL1258) : DictObject → UInt32
  | .invertMask => d.invertMask.toUInt32
  | .debounceTime => d.debounceMs.toUInt32
  | .mapCount => d.txpdoCount.toUInt32
  | .mapEntry k => d.txpdoEntries.get k
  | .assignCount => d.assignCount.toUInt32
  | .assignEntry k => (d.assignEntries.get k).toUInt32

/-- Write the object. -/
def put (d : EL1258) (v : UInt32) : DictObject → EL1258
  | .invertMask => { d with invertMask := (v &&& BYTE_MASK).toUInt8 }
  | .debounceTime => { d with debounceMs := (v &&& WORD_MASK).toUInt16 }
  | .mapCount =>
    { d with
      txpdoCount := EL1258.clampCount v CHANNEL_COUNT_U8
      txpdoEntries :=
        EL1258.clearEntries d.txpdoEntries (EL1258.clampCount v CHANNEL_COUNT_U8).toNat 0 }
  | .mapEntry k => { d with txpdoEntries := d.txpdoEntries.set k v }
  | .assignCount =>
    { d with
      assignCount := EL1258.clampCount v 4
      assignEntries := EL1258.clearEntries d.assignEntries (EL1258.clampCount v 4).toNat 0 }
  | .assignEntry k =>
    { d with assignEntries := d.assignEntries.set k (v &&& WORD_MASK).toUInt16 }

theorem byteMask_toNat (v : UInt32) : ((v &&& BYTE_MASK).toUInt8).toNat = v.toNat % 256 := by
  have hmask : (v &&& BYTE_MASK).toNat = v.toNat % 256 := by
    rw [UInt32.toNat_and, show BYTE_MASK.toNat = 2 ^ 8 - 1 from rfl, Nat.and_two_pow_sub_one_eq_mod]
  show (v &&& BYTE_MASK).toNat % 256 = _
  rw [hmask, Nat.mod_mod]

theorem wordMask_toNat (v : UInt32) : ((v &&& WORD_MASK).toUInt16).toNat = v.toNat % 65536 := by
  have hmask : (v &&& WORD_MASK).toNat = v.toNat % 65536 := by
    rw [UInt32.toNat_and, show WORD_MASK.toNat = 2 ^ 16 - 1 from rfl,
      Nat.and_two_pow_sub_one_eq_mod]
  show (v &&& WORD_MASK).toNat % 65536 = _
  rw [hmask, Nat.mod_mod]

theorem clampCount_toNat (v : UInt32) (bound : UInt8) :
    (EL1258.clampCount v bound).toNat = min (v.toNat % 256) bound.toNat := by
  rw [EL1258.clampCount, ← byteMask_toNat]
  show (if bound < _ then bound else _).toNat = _
  split
  · rename_i h
    have hlt := UInt8.lt_iff_toNat_lt.mp h
    omega
  · rename_i h
    have hle := UInt8.le_iff_toNat_le.mp (UInt8.not_lt.mp h)
    omega

section Entries

variable {α : Type} [Inhabited α] {n : Nat} (m : Cells α n) (k k' : Fin n) (value : α → Nat)

/-- The value of an entry after a count was written, which clears the entries beyond it. -/
theorem entry_after_count (v : UInt32) (bound : UInt8) (zero : α) :
    value ((EL1258.clearEntries m (EL1258.clampCount v bound).toNat zero).get k.val) =
      if min (v.toNat % 256) bound.toNat < k.val + 1 then value zero else value (m.get k.val) := by
  have hk := k.isLt
  rw [EL1258.get_clearEntries, clampCount_toNat]
  by_cases hclear : min (v.toNat % 256) bound.toNat < k.val + 1
  · rw [if_pos hclear, if_pos (by omega)]
  · rw [if_neg hclear, if_neg (by omega)]

/-- The value of an entry after one of them was written. -/
theorem entry_after_entry (w : α) :
    value ((m.set k.val w).get k'.val) = if k' = k then value w else value (m.get k'.val) := by
  by_cases hk : k' = k
  · subst hk
    rw [Cells.get_set, if_pos ⟨rfl, k'.isLt⟩, if_pos rfl]
  · have hne : ¬k'.val = k.val := fun hc => hk (Fin.ext hc)
    rw [Cells.get_set, if_neg fun hc => hne hc.1, if_neg hk]

end Entries

/-- The law of the dictionary. -/
theorem get_put (d : EL1258) (v : UInt32) (o o' : DictObject) :
    (get (put d v o) o').toNat =
      if o' = o then reduce v o else if Clears v o o' then 0 else (get d o').toNat := by
  cases o with
  | invertMask =>
    cases o' with
    | invertMask => exact (UInt8.toNat_toUInt32 _).trans (byteMask_toNat v)
    | _ => rfl
  | debounceTime =>
    cases o' with
    | debounceTime => exact (UInt16.toNat_toUInt32 _).trans (wordMask_toNat v)
    | _ => rfl
  | mapCount =>
    cases o' with
    | mapCount => exact (UInt8.toNat_toUInt32 _).trans (clampCount_toNat v CHANNEL_COUNT_U8)
    | mapEntry k => exact entry_after_count d.txpdoEntries k UInt32.toNat v CHANNEL_COUNT_U8 0
    | _ => rfl
  | mapEntry k =>
    cases o' with
    | mapEntry k' =>
      refine (entry_after_entry d.txpdoEntries k k' UInt32.toNat v).trans ?_
      simp [reduce, Clears, get]
    | _ => rfl
  | assignCount =>
    cases o' with
    | assignCount => exact (UInt8.toNat_toUInt32 _).trans (clampCount_toNat v 4)
    | assignEntry k =>
      exact entry_after_count d.assignEntries k (fun e => e.toUInt32.toNat) v 4 0
    | _ => rfl
  | assignEntry k =>
    cases o' with
    | assignEntry k' =>
      refine (entry_after_entry d.assignEntries k k' (fun e => e.toUInt32.toNat) _).trans ?_
      rw [UInt16.toNat_toUInt32, wordMask_toNat]
      simp [reduce, Clears, get]
    | _ => rfl

end DictObject

namespace EL1258

/-! ## The two functions and the dictionary -/

/-- The subindex of an entry. -/
theorem entry_subindex {k : Nat} (hk : k < 8) :
    ((k + 1).toUInt8).toNat = k + 1 ∧ (k + 1).toUInt8 ≠ 0 ∧ 1 ≤ (k + 1).toUInt8 ∧
      ((k + 1).toUInt8 - 1).toNat = k := by
  have hnat : ((k + 1).toUInt8).toNat = k + 1 := by
    simp
    omega
  have hone : 1 ≤ (k + 1).toUInt8 := by
    rw [UInt8.le_iff_toNat_le, hnat]
    exact Nat.le_add_left 1 k
  refine ⟨hnat, ?_, hone, ?_⟩
  · intro hc
    rw [hc] at hnat
    exact absurd hnat (Nat.ne_of_lt (Nat.succ_pos k))
  · rw [UInt8.toNat_sub_of_le _ _ hone, hnat]
    rfl

theorem storeObject_mapEntry (d : EL1258) {subindex : UInt8}
    (h : 1 ≤ subindex ∧ subindex ≤ CHANNEL_COUNT_U8) (v : UInt32) :
    d.storeObject PDO_MAPPING_BASE subindex v =
      (true, { d with txpdoEntries := d.txpdoEntries.set (subindex.toNat - 1) v }) := by
  have hzero : subindex ≠ 0 := by grind
  show (if subindex = 0 then _ else if 1 ≤ subindex ∧ subindex ≤ CHANNEL_COUNT_U8 then _
    else (false, d)) = _
  rw [if_neg hzero, if_pos h]

theorem storeObject_assignEntry (d : EL1258) {subindex : UInt8}
    (h : 1 ≤ subindex ∧ subindex ≤ 4) (v : UInt32) :
    d.storeObject PDO_ASSIGN_TX subindex v =
      (true,
        { d with
          assignEntries :=
            d.assignEntries.set (subindex.toNat - 1) (v &&& WORD_MASK).toUInt16 }) := by
  have hzero : subindex ≠ 0 := by grind
  show (if subindex = 0 then _ else if 1 ≤ subindex ∧ subindex ≤ 4 then _ else (false, d)) = _
  rw [if_neg hzero, if_pos h]

/-- A download of a writable object puts the value into it. -/
theorem storeObject_eq (d : EL1258) (o : DictObject) (v : UInt32) :
    d.storeObject o.index o.subindex v = (true, o.put d v) := by
  cases o with
  | mapEntry k =>
    obtain ⟨hnat, -, hone, -⟩ := entry_subindex k.isLt
    have hle : (k.val + 1).toUInt8 ≤ CHANNEL_COUNT_U8 := by
      rw [UInt8.le_iff_toNat_le, hnat]
      exact k.isLt
    refine (d.storeObject_mapEntry ⟨hone, hle⟩ v).trans ?_
    rw [hnat]
    rfl
  | assignEntry k =>
    have hk := k.isLt
    obtain ⟨hnat, -, hone, -⟩ := entry_subindex (by omega : k.val < 8)
    have hle : (k.val + 1).toUInt8 ≤ 4 := by
      rw [UInt8.le_iff_toNat_le, hnat]
      exact k.isLt
    refine (d.storeObject_assignEntry ⟨hone, hle⟩ v).trans ?_
    rw [hnat]
    rfl
  | _ => rfl

theorem onSdoUpload_mapEntry (d : EL1258) {subindex : UInt8} (hone : 1 ≤ subindex)
    (hlt : (subindex - 1).toNat < CHANNEL_COUNT) (now : Nat → Int) :
    d.onSdoUpload PDO_MAPPING_BASE subindex now =
      (some (d.txpdoEntries.get (subindex - 1).toNat), d) := by
  have hzero : subindex ≠ 0 := by grind
  show (if PDO_MAPPING_BASE = PDO_MAPPING_BASE ∧ subindex = 0 then _
    else if PDO_MAPPING_BASE = PDO_MAPPING_BASE ∧ 1 ≤ subindex ∧
      (subindex - 1).toNat < CHANNEL_COUNT then _ else _) = _
  rw [if_neg (fun hc => hzero hc.2), if_pos ⟨rfl, hone, hlt⟩]

theorem onSdoUpload_assignEntry (d : EL1258) {subindex : UInt8} (hone : 1 ≤ subindex)
    (hlt : subindex - 1 < 4) (now : Nat → Int) :
    d.onSdoUpload PDO_ASSIGN_TX subindex now =
      (some (d.assignEntries.get (subindex - 1).toNat).toUInt32, d) := by
  have hzero : subindex ≠ 0 := by grind
  show (if PDO_ASSIGN_TX = PDO_ASSIGN_TX ∧ subindex = 0 then _
    else if PDO_ASSIGN_TX = PDO_ASSIGN_TX ∧ 1 ≤ subindex ∧ subindex - 1 < 4 then _ else _) = _
  rw [if_neg (fun hc => hzero hc.2), if_pos ⟨rfl, hone, hlt⟩]

/-- An upload of a writable object returns what it holds. -/
theorem onSdoUpload_eq (d : EL1258) (o : DictObject) (now : Nat → Int) :
    d.onSdoUpload o.index o.subindex now = (some (o.get d), d) := by
  cases o with
  | mapEntry k =>
    obtain ⟨-, -, hone, hsi⟩ := entry_subindex k.isLt
    have hlt : ((k.val + 1).toUInt8 - 1).toNat < CHANNEL_COUNT := by
      rw [hsi]
      exact k.isLt
    refine (d.onSdoUpload_mapEntry hone hlt now).trans ?_
    rw [hsi]
    rfl
  | assignEntry k =>
    have hk := k.isLt
    obtain ⟨-, -, hone, hsi⟩ := entry_subindex (by omega : k.val < 8)
    have hlt : (k.val + 1).toUInt8 - 1 < 4 := by
      rw [UInt8.lt_iff_toNat_lt, hsi]
      exact k.isLt
    refine (d.onSdoUpload_assignEntry hone hlt now).trans ?_
    rw [hsi]
    rfl
  | _ => rfl

/-- Every object that a download stores is a writable one. -/
theorem exists_of_isStored {index : UInt16} {subindex : UInt8} (h : IsStored index subindex) :
    ∃ o : DictObject, o.index = index ∧ o.subindex = subindex := by
  have hentry : subindex ≠ 0 → (subindex.toNat - 1 + 1).toUInt8 = subindex := by
    intro hzero
    have hpos : subindex.toNat ≠ 0 := fun hc => hzero (UInt8.toNat_inj.mp hc)
    rw [Nat.sub_add_cancel (by omega)]
    exact UInt8.ofNat_toNat
  rcases h with ⟨rfl | rfl, rfl⟩ | ⟨rfl, hle⟩ | ⟨rfl, hle⟩
  · exact ⟨.invertMask, rfl, rfl⟩
  · exact ⟨.debounceTime, rfl, rfl⟩
  · by_cases hzero : subindex = 0
    · exact ⟨.mapCount, rfl, hzero.symm⟩
    · have hlt : subindex.toNat - 1 < 8 := by
        have hle' : subindex.toNat ≤ 8 := hle
        omega
      exact ⟨.mapEntry ⟨subindex.toNat - 1, hlt⟩, rfl, hentry hzero⟩
  · by_cases hzero : subindex = 0
    · exact ⟨.assignCount, rfl, hzero.symm⟩
    · have hlt : subindex.toNat - 1 < 4 := by
        have hle' : subindex.toNat ≤ 4 := hle
        have hpos : subindex.toNat ≠ 0 := fun hc => hzero (UInt8.toNat_inj.mp hc)
        omega
      exact ⟨.assignEntry ⟨subindex.toNat - 1, hlt⟩, rfl, hentry hzero⟩

/-- A download to any other object is refused and changes nothing. -/
theorem onSdoDownload_of_not_writable (d : EL1258) (mapped : Bool) {index : UInt16}
    {subindex : UInt8} (h : ∀ o : DictObject, ¬(o.index = index ∧ o.subindex = subindex))
    (v : UInt32) : d.onSdoDownload mapped index subindex v = (false, mapped, d) := by
  have hstore : d.storeObject index subindex v = (false, d) := by
    rcases d.storeObject_cases index subindex v with ⟨-, hstore⟩ | ⟨hstored, -, -⟩
    · exact hstore
    · obtain ⟨o, ho⟩ := exists_of_isStored hstored
      exact absurd ho (h o)
  rw [onSdoDownload, hstore]
  rfl

/-- The counts stay within their arrays. -/
def CountsInRange (d : EL1258) : Prop :=
  d.txpdoCount.toNat ≤ CHANNEL_COUNT ∧ d.assignCount.toNat ≤ 4

theorem countsInRange_congr {d d' : EL1258} (h : d'.coe = d.coe) :
    d'.CountsInRange ↔ d.CountsInRange := by
  obtain ⟨hcount, hassign, -⟩ : d'.txpdoCount = d.txpdoCount ∧
      d'.assignCount = d.assignCount ∧ d'.assignEntries = d.assignEntries := by
    simpa only [coe, Prod.mk.injEq] using h
  rw [CountsInRange, CountsInRange, hcount, hassign]

theorem put_countsInRange {d : EL1258} (h : d.CountsInRange) (v : UInt32) (o : DictObject) :
    (o.put d v).CountsInRange := by
  have hclamp : ∀ bound : UInt8, (clampCount v bound).toNat ≤ bound.toNat := by
    intro bound
    rw [DictObject.clampCount_toNat]
    omega
  cases o with
  | mapCount => exact ⟨hclamp CHANNEL_COUNT_U8, h.2⟩
  | assignCount => exact ⟨h.1, hclamp 4⟩
  | _ => exact h

theorem onSdoDownload_countsInRange {d : EL1258} (h : d.CountsInRange) (mapped : Bool)
    (index : UInt16) (subindex : UInt8) (v : UInt32) :
    (d.onSdoDownload mapped index subindex v).2.2.CountsInRange := by
  by_cases hwritable : ∃ o : DictObject, o.index = index ∧ o.subindex = subindex
  · obtain ⟨o, rfl, rfl⟩ := hwritable
    show (d.storeObject o.index o.subindex v).2.CountsInRange
    rw [storeObject_eq]
    exact put_countsInRange h v o
  · rw [d.onSdoDownload_of_not_writable mapped (fun o ho => hwritable ⟨o, ho⟩)]
    exact h

/-- What an upload does to the terminal: two families of objects read inputs. -/
theorem onSdoUpload_device (d : EL1258) (index : UInt16) (subindex : UInt8) (now : Nat → Int) :
    (d.onSdoUpload index subindex now).2 =
      if index = OBJ_DIGITAL_INPUT ∧ 1 ≤ subindex ∧ subindex ≤ CHANNEL_COUNT_U8 then
        (d.effectiveBit (subindex - 1).toNat now).2
      else if index = OBJ_DIGITAL_AGGREGATE ∧ subindex = 0 then (d.aggregateBits now).2
      else d := by
  have hplain : ∀ i, i = OBJ_DIGITAL_INPUT ∨ i = OBJ_DIGITAL_AGGREGATE → i ≠ OBJ_DEVICE_TYPE ∧
      i ≠ OBJ_DEVICE_NAME ∧ i ≠ OBJ_HARDWARE_VERSION ∧ i ≠ OBJ_SOFTWARE_VERSION := by
    intro i hi
    rcases hi with rfl | rfl
    · decide
    · decide
  simp only [onSdoUpload, apply_ite Prod.snd, ite_self]
  by_cases hindex : index = OBJ_DIGITAL_INPUT ∨ index = OBJ_DIGITAL_AGGREGATE
  · obtain ⟨h1, h2, h3, h4⟩ := hplain index hindex
    simp only [h1, h2, h3, h4, false_and, if_false]
  · rw [not_or] at hindex
    simp only [hindex.1, hindex.2, false_and, if_false, ite_self]

theorem onSdoUpload_outsideFilter (d : EL1258) (index : UInt16) (subindex : UInt8)
    (now : Nat → Int) : (d.onSdoUpload index subindex now).2.outsideFilter = d.outsideFilter := by
  rw [onSdoUpload_device]
  split
  · exact effectiveBit_outsideFilter d _ now
  · split
    · exact aggregateBits_outsideFilter d now
    · rfl

theorem onSdoUpload_coe (d : EL1258) (index : UInt16) (subindex : UInt8) (now : Nat → Int) :
    (d.onSdoUpload index subindex now).2.coe = d.coe := by
  rw [← outsideFilter_coe, onSdoUpload_outsideFilter, outsideFilter_coe]

end EL1258

/-! ## The calls of a terminal -/

/-- The calls of an `EL1258Slave`.  A call that asks `steady_clock` takes the readings,
one for each channel. -/
inductive TerminalCall where
  | setPower (on : Bool) (now : Nat → Int)
  | setPowerButton (pressed : Bool) (now : Nat → Int)
  | setInput (channel : Int) (value : Bool) (now : Nat → Int)
  | input (channel : Int) (now : Nat → Int)
  | sdoUpload (index : UInt16) (subindex : UInt8) (now : Nat → Int)
  | sdoDownload (index : UInt16) (subindex : UInt8) (value : UInt32) (nbytes : UInt8)
  | readDigitalInputsBitfield (now : Nat → Int)
  | applyDefaultTxPdoMapping
  | onSlave (op : SlaveOp)

namespace EL1258Slave

/-- The terminal after one call.  `onSlave` is a call of the base class. -/
def terminalStep (s : EL1258Slave) : TerminalCall → EL1258Slave
  | .setPower on now => { s with device := s.device.setPower on now }
  | .setPowerButton pressed now => { s with device := s.device.setPowerButton pressed now }
  | .setInput channel value now => { s with device := s.device.setInput channel value now }
  | .input channel now => { s with device := (s.device.input channel now).2 }
  | .sdoUpload index subindex now =>
    { s with device := (s.device.onSdoUpload index subindex now).2 }
  | .sdoDownload index subindex value nbytes => (s.sdoDownload index subindex value nbytes).2
  | .readDigitalInputsBitfield now => { s with device := (s.device.aggregateBits now).2 }
  | .applyDefaultTxPdoMapping => applyDefaultTxPdoMapping s
  | .onSlave op => s.step op

theorem setPower_coe (d : EL1258) (on : Bool) (now : Nat → Int) :
    (d.setPower on now).coe = d.coe := by
  rw [EL1258.setPower, EL1258.updateDerivedInputs, EL1258.setRawInput_coe, EL1258.setRawInput_coe]
  rfl

theorem setInput_coe (d : EL1258) (channel : Int) (value : Bool) (now : Nat → Int) :
    (d.setInput channel value now).coe = d.coe := by
  rw [EL1258.setInput]
  split
  · dsimp only
    split
    · exact EL1258.setRawInput_coe d channel value now
    · exact EL1258.setRawInput_coe d channel value now
  · rfl

theorem hookInvariant_countsInRange : VirtualSlave.HookInvariant EL1258.CountsInRange where
  upload d index subindex h := by
    have hcoe : (SlaveDevice.onSdoUpload d index subindex).2.coe = d.coe :=
      EL1258.onSdoUpload_coe d index subindex d.now
    exact (EL1258.countsInRange_congr hcoe).mpr h
  download d mapped index subindex value _ h :=
    EL1258.onSdoDownload_countsInRange h mapped index subindex value

/-- Every call keeps the counts within the arrays. -/
theorem terminalStep_countsInRange {s : EL1258Slave} (h : s.device.CountsInRange)
    (call : TerminalCall) : (terminalStep s call).device.CountsInRange := by
  cases call with
  | setPower on now => exact (EL1258.countsInRange_congr (setPower_coe s.device on now)).mpr h
  | setPowerButton pressed now =>
    have hcoe : (s.device.setPowerButton pressed now).coe = s.device.coe :=
      EL1258.setRawInput_coe _ 0 pressed now
    exact (EL1258.countsInRange_congr hcoe).mpr h
  | setInput channel value now =>
    exact (EL1258.countsInRange_congr (setInput_coe s.device channel value now)).mpr h
  | input channel now =>
    have hcoe : (s.device.input channel now).2.coe = s.device.coe := by
      rw [EL1258.input]
      split
      · exact EL1258.effectiveBit_coe s.device channel now
      · rfl
    exact (EL1258.countsInRange_congr hcoe).mpr h
  | sdoUpload index subindex now =>
    exact (EL1258.countsInRange_congr (EL1258.onSdoUpload_coe s.device index subindex now)).mpr h
  | sdoDownload index subindex value nbytes =>
    exact EL1258.onSdoDownload_countsInRange h s.inputPdoMapped index subindex value
  | readDigitalInputsBitfield now =>
    rw [terminalStep, EL1258.countsInRange_congr (EL1258.aggregateBits_coe s.device now)]
    exact h
  | applyDefaultTxPdoMapping =>
    have hcount : (applyDefaultTxPdoMapping s).device.txpdoCount = 1 := rfl
    have hassign : (applyDefaultTxPdoMapping s).device.assignCount = 1 := rfl
    rw [terminalStep, EL1258.CountsInRange, hcount, hassign]
    decide
  | onSlave op =>
    show (VirtualSlave.step s op).device.CountsInRange
    exact VirtualSlave.step_device hookInvariant_countsInRange h op

theorem new_countsInRange (address : UInt16) (vendorId productCode : UInt32)
    (clock : Nat → Int) : (new address vendorId productCode clock).device.CountsInRange := by
  have hcoe : (new address vendorId productCode clock).device.coe =
      (EL1258.initial clock).coe := by
    show ((EL1258.initial clock).updateDerivedInputs (EL1258.initial clock).now).coe = _
    rw [EL1258.updateDerivedInputs, EL1258.setRawInput_coe, EL1258.setRawInput_coe]
  exact (EL1258.countsInRange_congr hcoe).mpr ⟨Nat.zero_le _, Nat.zero_le _⟩

/-- The counts stay within the arrays all along every run of calls. -/
theorem countsInRange_run (address : UInt16) (vendorId productCode : UInt32)
    (clock : Nat → Int) (calls : List TerminalCall) :
    Always terminalStep (fun s => s.device.CountsInRange)
      (new address vendorId productCode clock) calls := by
  have hstep : ∀ (s : EL1258Slave) (call : TerminalCall), s.device.CountsInRange →
      (terminalStep s call).device.CountsInRange :=
    fun _ call h => terminalStep_countsInRange h call
  exact always_of_preserved hstep (new_countsInRange address vendorId productCode clock) calls

/-- The round trip of the object dictionary.  A download of a writable object is accepted;
an upload then returns the value cut down to the width of the object, and every other
writable object reads back as before, except that a count clears the entries beyond it.
Any other download is refused and changes nothing.  The counts of every terminal stay
within the arrays, so an entry below a count lies in its array. -/
theorem dictionary_roundTrip :
    (∀ (d : EL1258) (mapped : Bool) (o : DictObject) (v : UInt32) (now : Nat → Int),
      (d.onSdoDownload mapped o.index o.subindex v).1 = true ∧
        ((d.onSdoDownload mapped o.index o.subindex v).2.2.onSdoUpload o.index o.subindex
          now).1.map UInt32.toNat = some (o.reduce v) ∧
        ∀ o' : DictObject, o' ≠ o →
          ((d.onSdoDownload mapped o.index o.subindex v).2.2.onSdoUpload o'.index o'.subindex
            now).1 =
            if o.Clears v o' then some 0 else (d.onSdoUpload o'.index o'.subindex now).1) ∧
      (∀ (d : EL1258) (mapped : Bool) (index : UInt16) (subindex : UInt8) (v : UInt32),
        (∀ o : DictObject, ¬(o.index = index ∧ o.subindex = subindex)) →
          d.onSdoDownload mapped index subindex v = (false, mapped, d)) ∧
      ∀ (address : UInt16) (vendorId productCode : UInt32) (clock : Nat → Int)
        (calls : List TerminalCall),
        Always terminalStep
          (fun s => s.device.txpdoCount.toNat ≤ CHANNEL_COUNT ∧ s.device.assignCount.toNat ≤ 4)
          (new address vendorId productCode clock) calls := by
  refine ⟨?_, fun d mapped index subindex v h => d.onSdoDownload_of_not_writable mapped h v,
    countsInRange_run⟩
  intro d mapped o v now
  have hstore := d.storeObject_eq o v
  have hdevice : (d.onSdoDownload mapped o.index o.subindex v).2.2 = o.put d v :=
    congrArg Prod.snd hstore
  rw [hdevice, EL1258.onSdoUpload_eq]
  refine ⟨congrArg Prod.fst hstore, ?_, ?_⟩
  · show some (o.get (o.put d v)).toNat = some (o.reduce v)
    rw [DictObject.get_put, if_pos rfl]
  · intro o' hne
    rw [EL1258.onSdoUpload_eq, EL1258.onSdoUpload_eq]
    have hget := DictObject.get_put d v o o'
    rw [if_neg hne] at hget
    split
    · rename_i hclear
      rw [if_pos hclear] at hget
      exact congrArg some (UInt32.toNat_inj.mp hget)
    · rename_i hclear
      rw [if_neg hclear] at hget
      exact congrArg some (UInt32.toNat_inj.mp hget)

end EL1258Slave

end EthercatSim

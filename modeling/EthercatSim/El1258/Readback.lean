import EthercatSim.El1258.PdoGate

/-!
# What the EL1258 reads back

`onSdoDownload` and `onSdoUpload` are two switches over the object index that were
written one by one.  The first one knows the mapping objects 0x1A00 to 0x1A1C and the
assignment 0x1C13, the second does not.

* `AcceptBranch` is what a download stores, with its guards.
* `ReadsBack`: what a download stored can be uploaded.  `KeepsOthers`: a download to the
  mapping object of one channel leaves the others alone.
* `readsBack_iff`: both hold exactly for the downloads outside the two families, and for
  those that are refused.
* `readsBack_mapping_false`: a download to 0x1A00:1.
-/

namespace EthercatSim.El1258

open Kickcat

/-- The objects that a download stores. -/
def IsAccepted (index : UInt16) (subindex : UInt8) : Prop :=
  index = OBJ_INVERT_MASK ∨ index = OBJ_DEBOUNCE_TIME ∨
    (index ∈ pdoMappingObjects ∧ subindex ≤ CHANNEL_COUNT_U8) ∨
    (index = PDO_ASSIGN_TX ∧ subindex ≤ 1)

/-- The stored objects that no upload serves. -/
def IsWriteOnly (index : UInt16) (subindex : UInt8) : Prop :=
  (index ∈ pdoMappingObjects ∧ subindex ≤ CHANNEL_COUNT_U8) ∨
    (index = PDO_ASSIGN_TX ∧ subindex ≤ 1)

instance (index : UInt16) (subindex : UInt8) : Decidable (IsWriteOnly index subindex) :=
  inferInstanceAs (Decidable (_ ∨ _))

/-- The part of the value that a download stores. -/
def storedValue (index : UInt16) (subindex : UInt8) (value : UInt32) : UInt32 :=
  if index = OBJ_INVERT_MASK then value &&& BYTE_MASK
  else if index = OBJ_DEBOUNCE_TIME then value
  else if subindex = 0 then value &&& BYTE_MASK
  else if index = PDO_ASSIGN_TX then value &&& WORD_MASK
  else value

/-- What the mapping object of a channel holds: its count, and the entry that all its
subindices share. -/
def mappingObject (d : El1258) (index : UInt16) : UInt8 × UInt32 :=
  (d.mapCount, d.mappings.get (channelFromMapping index - 1).toNat)

/-- The value of a download that is accepted can be uploaded. -/
def ReadsBack (d : El1258) (mapped : Bool) (index : UInt16) (subindex : UInt8)
    (value : UInt32) : Prop :=
  (d.onSdoDownload mapped index subindex value).1 = true →
    (d.onSdoDownload mapped index subindex value).2.2.onSdoUpload index subindex =
      some (storedValue index subindex value)

/-- A download to the mapping object of one channel leaves those of the others
alone. -/
def KeepsOthers (d : El1258) (mapped : Bool) (index : UInt16) (subindex : UInt8)
    (value : UInt32) : Prop :=
  index ∈ pdoMappingObjects → ∀ other ∈ pdoMappingObjects, other ≠ index →
    mappingObject (d.onSdoDownload mapped index subindex value).2.2 other =
      mappingObject d other

/-! ## One download -/

/-- What a download stores. -/
inductive AcceptBranch (d : El1258) (index : UInt16) (subindex : UInt8) (value : UInt32) :
    Bool → El1258 → Prop
  | invertMask (hindex : index = OBJ_INVERT_MASK) :
      AcceptBranch d index subindex value true { d with invertMask := value &&& BYTE_MASK }
  | debounceTime (hindex : index = OBJ_DEBOUNCE_TIME) :
      AcceptBranch d index subindex value true { d with debounceMs := value }
  | mapCount (hindex : index ∈ pdoMappingObjects) (hsub : subindex = 0) :
      AcceptBranch d index subindex value true
        { d with mapCount := (value &&& BYTE_MASK).toUInt8 }
  | mapEntry (hindex : index ∈ pdoMappingObjects)
      (hsub : 1 ≤ subindex ∧ subindex ≤ CHANNEL_COUNT_U8) :
      AcceptBranch d index subindex value true
        { d with mappings := d.mappings.set (channelFromMapping index - 1).toNat value }
  | assign (d' : El1258) (hindex : index = PDO_ASSIGN_TX) (hsub : subindex ≤ 1) :
      AcceptBranch d index subindex value true d'
  | refused (h : ¬IsAccepted index subindex) : AcceptBranch d index subindex value false d

theorem onSdoDownload_accept (d : El1258) (mapped : Bool) (index : UInt16) (subindex : UInt8)
    (value : UInt32) :
    AcceptBranch d index subindex value (d.onSdoDownload mapped index subindex value).1
      (d.onSdoDownload mapped index subindex value).2.2 := by
  unfold onSdoDownload
  by_cases hi : index = OBJ_INVERT_MASK
  · rw [if_pos hi]
    exact .invertMask hi
  rw [if_neg hi]
  by_cases hd : index = OBJ_DEBOUNCE_TIME
  · rw [if_pos hd]
    exact .debounceTime hd
  rw [if_neg hd]
  by_cases hm : index ∈ pdoMappingObjects
  · rw [if_pos hm]
    simp only [if_pos (El1258Slave.channelFromMapping_range index hm)]
    by_cases h0 : subindex = 0
    · rw [if_pos h0]
      exact .mapCount hm h0
    rw [if_neg h0]
    by_cases hle : 1 ≤ subindex ∧ subindex ≤ CHANNEL_COUNT_U8
    · rw [if_pos hle]
      exact .mapEntry hm hle
    · rw [if_neg hle]
      have hne : index ≠ PDO_ASSIGN_TX := by
        intro hc
        rw [hc] at hm
        exact absurd hm (by decide)
      refine .refused ?_
      unfold IsAccepted
      grind
  rw [if_neg hm]
  by_cases ha : index = PDO_ASSIGN_TX
  · rw [if_pos ha]
    by_cases h0 : subindex = 0
    · rw [if_pos h0]
      exact .assign _ ha (by rw [h0]; decide)
    rw [if_neg h0]
    by_cases h1 : subindex = 1
    · rw [if_pos h1]
      exact .assign _ ha (by rw [h1]; decide)
    · rw [if_neg h1]
      refine .refused ?_
      unfold IsAccepted
      grind
  · rw [if_neg ha]
    refine .refused ?_
    unfold IsAccepted
    grind

/-- No upload serves a mapping object or the assignment. -/
theorem onSdoUpload_of_writeOnly (d : El1258) {index : UInt16} {subindex : UInt8}
    (h : IsWriteOnly index subindex) : d.onSdoUpload index subindex = none := by
  have hall : (PDO_ASSIGN_TX :: pdoMappingObjects).all (fun i => ¬(i = OBJ_DEVICE_TYPE ∨
      i = OBJ_DEVICE_NAME ∨ i = OBJ_HARDWARE_VERSION ∨ i = OBJ_SOFTWARE_VERSION ∨
      i = OBJ_IDENTITY ∨ i = OBJ_DIGITAL_INPUT ∨ i = OBJ_DIGITAL_STATUS ∨
      i = OBJ_DIGITAL_AGGREGATE ∨ i = OBJ_INVERT_MASK ∨ i = OBJ_DEBOUNCE_TIME ∨
      i = OBJ_ERROR_REGISTER ∨ i = OBJ_MANUFACTURER_STATUS ∨ i = OBJ_ERROR_HISTORY)) = true := by
    decide
  have hindex : index ∈ PDO_ASSIGN_TX :: pdoMappingObjects := by
    rcases h with h | h
    · exact .tail _ h.1
    · rw [h.1]
      exact .head _
  have hnone := of_decide_eq_true (List.all_eq_true.mp hall index hindex)
  simp only [not_or] at hnone
  simp [onSdoUpload, hnone]

/-- Different mapping objects belong to different channels. -/
theorem channelFromMapping_ne {index other : UInt16} (hindex : index ∈ pdoMappingObjects)
    (hother : other ∈ pdoMappingObjects) (hne : other ≠ index) :
    (channelFromMapping other - 1).toNat ≠ (channelFromMapping index - 1).toNat := by
  have hall : pdoMappingObjects.all (fun i => pdoMappingObjects.all fun j =>
      j = i ∨ (channelFromMapping j - 1).toNat ≠ (channelFromMapping i - 1).toNat) = true := by
    decide
  have hpair := List.all_eq_true.mp (List.all_eq_true.mp hall index hindex) other hother
  exact (of_decide_eq_true hpair).resolve_left hne

theorem isAccepted_of_writeOnly {index : UInt16} {subindex : UInt8}
    (h : IsWriteOnly index subindex) : IsAccepted index subindex := .inr (.inr h)

/-- The two plain objects are read back. -/
theorem not_writeOnly_plain {index : UInt16}
    (h : index = OBJ_INVERT_MASK ∨ index = OBJ_DEBOUNCE_TIME) (subindex : UInt8) :
    ¬IsWriteOnly index subindex := by
  have hindex : index ∉ pdoMappingObjects ∧ index ≠ PDO_ASSIGN_TX := by
    rcases h with rfl | rfl
    · decide
    · decide
  intro hwo
  rcases hwo with hmap | hassign
  · exact hindex.1 hmap.1
  · exact hindex.2 hassign.1

/-- A download is read back exactly when its object is not write-only. -/
theorem readsBack_iff_not_writeOnly (d : El1258) (mapped : Bool) (index : UInt16)
    (subindex : UInt8) (value : UInt32) :
    ReadsBack d mapped index subindex value ↔ ¬IsWriteOnly index subindex := by
  have hbranch := d.onSdoDownload_accept mapped index subindex value
  unfold ReadsBack
  generalize (d.onSdoDownload mapped index subindex value).1 = ok at *
  generalize (d.onSdoDownload mapped index subindex value).2.2 = d' at *
  have hlost : IsWriteOnly index subindex →
      d'.onSdoUpload index subindex ≠ some (storedValue index subindex value) := by
    intro hwo hback
    rw [onSdoUpload_of_writeOnly d' hwo] at hback
    cases hback
  cases hbranch with
  | invertMask hindex =>
    subst hindex
    exact ⟨fun _ => not_writeOnly_plain (.inl rfl) subindex, fun _ _ => rfl⟩
  | debounceTime hindex =>
    subst hindex
    exact ⟨fun _ => not_writeOnly_plain (.inr rfl) subindex, fun _ _ => rfl⟩
  | mapCount hindex hsub =>
    have hwo : IsWriteOnly index subindex := .inl ⟨hindex, by rw [hsub]; decide⟩
    exact ⟨fun h => absurd (h rfl) (hlost hwo), fun h => absurd hwo h⟩
  | mapEntry hindex hsub =>
    have hwo : IsWriteOnly index subindex := .inl ⟨hindex, hsub.2⟩
    exact ⟨fun h => absurd (h rfl) (hlost hwo), fun h => absurd hwo h⟩
  | assign d' hindex hsub =>
    have hwo : IsWriteOnly index subindex := .inr ⟨hindex, hsub⟩
    exact ⟨fun h => absurd (h rfl) (hlost hwo), fun h => absurd hwo h⟩
  | refused h => exact ⟨fun _ hwo => h (isAccepted_of_writeOnly hwo), fun _ hc => nomatch hc⟩

/-! ## The mapping objects -/

/-- No download changes the entry of another channel. -/
theorem onSdoDownload_otherEntry (d : El1258) (mapped : Bool) {index : UInt16} (subindex : UInt8)
    (value : UInt32) (hindex : index ∈ pdoMappingObjects) {other : UInt16}
    (hother : other ∈ pdoMappingObjects) (hne : other ≠ index) :
    (mappingObject (d.onSdoDownload mapped index subindex value).2.2 other).2 =
      (mappingObject d other).2 := by
  have hbranch := d.onSdoDownload_accept mapped index subindex value
  generalize (d.onSdoDownload mapped index subindex value).1 = ok at hbranch
  generalize (d.onSdoDownload mapped index subindex value).2.2 = d' at *
  cases hbranch with
  | mapEntry _ hsub =>
    have hcell := channelFromMapping_ne hindex hother hne
    show (d.mappings.set _ value).get _ = d.mappings.get _
    rw [Cells.get_set, if_neg (fun hc => hcell hc.1)]
  | assign d' hassign hsub =>
    rw [hassign] at hindex
    exact absurd hindex (by decide)
  | invertMask _ => rfl
  | debounceTime _ => rfl
  | mapCount _ _ => rfl
  | refused _ => rfl

/-- The count is shared by the mapping objects, so a download of a count leaves the
others alone only when it does not change it. -/
theorem keepsOthers_iff (d : El1258) (mapped : Bool) (index : UInt16) (subindex : UInt8)
    (value : UInt32) :
    KeepsOthers d mapped index subindex value ↔
      (index ∈ pdoMappingObjects → subindex = 0 → (value &&& BYTE_MASK).toUInt8 = d.mapCount) := by
  have hcount : index ∈ pdoMappingObjects →
      (d.onSdoDownload mapped index subindex value).2.2.mapCount =
        if subindex = 0 then (value &&& BYTE_MASK).toUInt8 else d.mapCount := by
    intro hindex
    have hbranch := d.onSdoDownload_accept mapped index subindex value
    generalize (d.onSdoDownload mapped index subindex value).1 = ok at hbranch
    generalize (d.onSdoDownload mapped index subindex value).2.2 = d' at *
    cases hbranch with
    | invertMask hc =>
      rw [hc] at hindex
      exact absurd hindex (by decide)
    | debounceTime hc =>
      rw [hc] at hindex
      exact absurd hindex (by decide)
    | assign d' hc hsub =>
      rw [hc] at hindex
      exact absurd hindex (by decide)
    | mapCount _ hsub => rw [if_pos hsub]
    | mapEntry _ hsub => rw [if_neg (by grind)]
    | refused h =>
      refine (if_neg ?_).symm
      intro hzero
      exact h (isAccepted_of_writeOnly (.inl ⟨hindex, by rw [hzero]; decide⟩))
  constructor
  · intro hkeep hindex hsub
    obtain ⟨other, hother, hne⟩ : ∃ other ∈ pdoMappingObjects, other ≠ index := by
      by_cases hbase : index = PDO_MAPPING_BASE
      · exact ⟨PDO_MAPPING_BASE + 1 * PDO_MAPPING_STRIDE, by decide, by rw [hbase]; decide⟩
      · exact ⟨PDO_MAPPING_BASE, by decide, Ne.symm hbase⟩
    have hsame := congrArg Prod.fst (hkeep hindex other hother hne)
    have hnew := hcount hindex
    rw [if_pos hsub] at hnew
    exact hnew.symm.trans hsame
  · intro hsame hindex other hother hne
    have hentry := d.onSdoDownload_otherEntry mapped subindex value hindex hother hne
    refine Prod.ext ?_ hentry
    show (d.onSdoDownload mapped index subindex value).2.2.mapCount = d.mapCount
    rw [hcount hindex]
    split
    · rename_i hsub
      exact hsame hindex hsub
    · rfl

/-- A download is read back, and leaves the mapping objects of the other channels alone,
exactly when its object is neither a mapping object nor the assignment, or is refused.
The others' entries never change; their count does, unless the same count is downloaded
again. -/
theorem readsBack_iff (d : El1258) (mapped : Bool) (index : UInt16) (subindex : UInt8)
    (value : UInt32) :
    (ReadsBack d mapped index subindex value ∧ KeepsOthers d mapped index subindex value ↔
        ¬IsWriteOnly index subindex) ∧
      (KeepsOthers d mapped index subindex value ↔
        (index ∈ pdoMappingObjects → subindex = 0 →
          (value &&& BYTE_MASK).toUInt8 = d.mapCount)) ∧
      (index ∈ pdoMappingObjects → ∀ other ∈ pdoMappingObjects, other ≠ index →
        (mappingObject (d.onSdoDownload mapped index subindex value).2.2 other).2 =
          (mappingObject d other).2) := by
  refine ⟨?_, keepsOthers_iff d mapped index subindex value, ?_⟩
  · rw [readsBack_iff_not_writeOnly, keepsOthers_iff]
    constructor
    · intro h
      exact h.1
    · intro h
      refine ⟨h, ?_⟩
      intro hindex hsub
      exact absurd (.inl ⟨hindex, by rw [hsub]; decide⟩) h
  · intro hindex other hother hne
    exact d.onSdoDownload_otherEntry mapped subindex value hindex hother hne

/-- A download of a mapping entry to 0x1A00:1 is accepted, and no upload returns it.  A
download of the count 3 to 0x1A00:0 changes the count of 0x1A04. -/
theorem readsBack_mapping_false :
    let d := (El1258Slave.new 1 VENDOR_ID PRODUCT_CODE).device
    (d.onSdoDownload true 0x1A00 1 0x60000101).1 = true ∧
      (d.onSdoDownload true 0x1A00 1 0x60000101).2.2.onSdoUpload 0x1A00 1 = none ∧
      ¬ReadsBack d true 0x1A00 1 0x60000101 ∧ ¬KeepsOthers d true 0x1A00 0 3 := by
  intro d
  refine ⟨by decide, by decide, ?_, ?_⟩
  · intro h
    exact absurd (h (by decide)) (by decide)
  · intro h
    have hsame := h (by decide) 0x1A04 (by decide) (by decide)
    exact absurd (congrArg Prod.fst hsame) (by decide)

end EthercatSim.El1258

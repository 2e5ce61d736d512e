import EthercatSim.El1258.Model
import EthercatSim.Lib.Run

/-!
# The PDO gate of the EL1258

The AL state machine asks one flag, `inputPdoMapped`, whether SAFE_OP is
admitted.  The flag stands for three members that are configured one by one:
`mapCount`, `assignCount` and `assigned`.  `GateAgrees` says that the flag and
the members agree.

Only the download that assigns a PDO recomputes the flag, and it leaves
`assignCount` out.  `KeepsGate` is the condition under which a download keeps
the agreement, and `download_gateAgrees_iff` shows that the condition is exact.

* `gateAgrees_iff` is the statement about a whole run of downloads.
* `gateAgrees_unmapped_false` clears the mapping of a fresh slave, which leaves
  SAFE_OP open.
-/

namespace EthercatSim.El1258Slave

open Kickcat El1258 StepRun

/-- An SDO download request. -/
structure SdoDownload where
  index : UInt16
  subindex : UInt8
  value : UInt32
  nbytes : UInt8
  deriving DecidableEq, Repr

/-- The slave after one SDO download. -/
def download (s : El1258Slave) (w : SdoDownload) : El1258Slave :=
  (s.sdoDownload w.index w.subindex w.value w.nbytes).2

/-- A TxPDO is assigned and mapped. -/
def TxPdoConfigured (s : El1258Slave) : Prop :=
  s.device.assigned = true ∧ 0 < s.device.assignCount ∧ 0 < s.device.mapCount

/-- The flag, and with it the admission to SAFE_OP, agrees with the
configuration. -/
def GateAgrees (s : El1258Slave) : Prop :=
  (s.inputPdoMapped = true ↔ TxPdoConfigured s) ∧
    (s.preconditionsMet .SAFE_OP = true ↔ TxPdoConfigured s)

instance (s : El1258Slave) : Decidable (TxPdoConfigured s) :=
  inferInstanceAs (Decidable (_ ∧ _ ∧ _))

instance (s : El1258Slave) : Decidable (GateAgrees s) :=
  inferInstanceAs (Decidable ((_ ↔ _) ∧ (_ ↔ _)))

/-- The downloads that keep the gate.  The two counts may not become zero, or
cease to be zero, while the other two members say that a PDO is configured; and
a PDO may not be assigned with entries but without a count. -/
def KeepsGate (s : El1258Slave) (w : SdoDownload) : Prop :=
  if w.index ∈ pdoMappingObjects ∧ w.subindex = 0 then
    s.device.assigned = true ∧ 0 < s.device.assignCount →
      (0 < (w.value &&& BYTE_MASK).toUInt8 ↔ 0 < s.device.mapCount)
  else if w.index = PDO_ASSIGN_TX ∧ w.subindex = 0 then
    s.device.assigned = true ∧ 0 < s.device.mapCount →
      (0 < (w.value &&& BYTE_MASK).toUInt8 ↔ 0 < s.device.assignCount)
  else if w.index = PDO_ASSIGN_TX ∧ w.subindex = 1 then
    w.value &&& WORD_MASK = PDO_MAPPING_BASE.toUInt32 ∧ 0 < s.device.mapCount →
      0 < s.device.assignCount
  else True

/-! ## One download -/

/-- `preconditionsMet` asks the flag. -/
theorem gateAgrees_iff_flag (s : El1258Slave) :
    GateAgrees s ↔ (s.inputPdoMapped = true ↔ TxPdoConfigured s) := by
  constructor
  · intro h
    exact h.1
  · intro h
    exact ⟨h, h⟩

/-- Every mapping object belongs to one of the eight channels. -/
theorem channelFromMapping_range :
    ∀ index ∈ pdoMappingObjects,
      1 ≤ channelFromMapping index ∧ channelFromMapping index ≤ CHANNEL_MAX := by
  have hall : pdoMappingObjects.all (fun index =>
      1 ≤ channelFromMapping index ∧ channelFromMapping index ≤ CHANNEL_MAX) = true := by decide
  intro index hindex
  exact of_decide_eq_true (List.all_eq_true.mp hall index hindex)

/-- The members that decide whether a PDO is configured. -/
def gate (d : El1258) : UInt8 × UInt8 × Bool := (d.mapCount, d.assignCount, d.assigned)

/-- Members that stand for a configured PDO. -/
def IsConfigured (g : UInt8 × UInt8 × Bool) : Prop := g.2.2 = true ∧ 0 < g.2.1 ∧ 0 < g.1

/-- What a download does to the flag and to the members behind it. -/
inductive DownloadBranch (d : El1258) (mapped : Bool) (index : UInt16) (subindex : UInt8)
    (value : UInt32) : Bool → UInt8 × UInt8 × Bool → Prop
  | mapCount (hindex : index ∈ pdoMappingObjects) (hsub : subindex = 0) :
      DownloadBranch d mapped index subindex value mapped
        ((value &&& BYTE_MASK).toUInt8, d.assignCount, d.assigned)
  | assignCount (hindex : index = PDO_ASSIGN_TX) (hsub : subindex = 0) :
      DownloadBranch d mapped index subindex value mapped
        (d.mapCount, (value &&& BYTE_MASK).toUInt8, d.assigned)
  | assign (hindex : index = PDO_ASSIGN_TX) (hsub : subindex = 1) :
      DownloadBranch d mapped index subindex value
        (decide (value &&& WORD_MASK = PDO_MAPPING_BASE.toUInt32) && 0 < d.mapCount)
        (d.mapCount, d.assignCount, decide (value &&& WORD_MASK = PDO_MAPPING_BASE.toUInt32))
  | other (hmap : ¬(index ∈ pdoMappingObjects ∧ subindex = 0))
      (hassign : ¬(index = PDO_ASSIGN_TX ∧ (subindex = 0 ∨ subindex = 1))) :
      DownloadBranch d mapped index subindex value mapped (gate d)

theorem onSdoDownload_branch (d : El1258) (mapped : Bool) (index : UInt16) (subindex : UInt8)
    (value : UInt32) :
    DownloadBranch d mapped index subindex value
      (d.onSdoDownload mapped index subindex value).2.1
      (gate (d.onSdoDownload mapped index subindex value).2.2) := by
  have hdisjoint : OBJ_INVERT_MASK ∉ pdoMappingObjects ∧ OBJ_DEBOUNCE_TIME ∉ pdoMappingObjects ∧
      OBJ_INVERT_MASK ≠ PDO_ASSIGN_TX ∧ OBJ_DEBOUNCE_TIME ≠ PDO_ASSIGN_TX ∧
      PDO_ASSIGN_TX ∉ pdoMappingObjects := by
    decide
  obtain ⟨hinvert, hdebounce, hinvert', hdebounce', htx⟩ := hdisjoint
  unfold El1258.onSdoDownload
  by_cases hi : index = OBJ_INVERT_MASK
  · rw [if_pos hi]
    subst hi
    exact .other (fun h => hinvert h.1) (fun h => hinvert' h.1)
  · rw [if_neg hi]
    by_cases hd : index = OBJ_DEBOUNCE_TIME
    · rw [if_pos hd]
      subst hd
      exact .other (fun h => hdebounce h.1) (fun h => hdebounce' h.1)
    · rw [if_neg hd]
      by_cases hm : index ∈ pdoMappingObjects
      · have hne : index ≠ PDO_ASSIGN_TX := fun h => htx (h ▸ hm)
        rw [if_pos hm]
        simp only [if_pos (channelFromMapping_range index hm)]
        by_cases h0 : subindex = 0
        · rw [if_pos h0]
          exact .mapCount hm h0
        · rw [if_neg h0]
          split <;> exact .other (fun h => h0 h.2) (fun h => hne h.1)
      · rw [if_neg hm]
        by_cases ha : index = PDO_ASSIGN_TX
        · rw [if_pos ha]
          by_cases h0 : subindex = 0
          · rw [if_pos h0]
            exact .assignCount ha h0
          · rw [if_neg h0]
            by_cases h1 : subindex = 1
            · rw [if_pos h1]
              exact .assign ha h1
            · rw [if_neg h1]
              exact .other (fun h => hm h.1) (fun h => h.2.elim h0 h1)
        · rw [if_neg ha]
          exact .other (fun h => hm h.1) (fun h => ha h.1)

/-- A download keeps the agreement exactly when `KeepsGate` holds. -/
theorem download_gateAgrees_iff {s : El1258Slave} (h : GateAgrees s) (w : SdoDownload) :
    GateAgrees (download s w) ↔ KeepsGate s w := by
  have hflag := (gateAgrees_iff_flag s).mp h
  have htx : PDO_ASSIGN_TX ∉ pdoMappingObjects := by decide
  have hbranch :=
    onSdoDownload_branch s.device s.inputPdoMapped w.index w.subindex w.value
  have hnew : GateAgrees (download s w) ↔
      ((s.device.onSdoDownload s.inputPdoMapped w.index w.subindex w.value).2.1 = true ↔
        IsConfigured (gate (s.device.onSdoDownload s.inputPdoMapped w.index w.subindex
          w.value).2.2)) :=
    gateAgrees_iff_flag _
  rw [hnew]
  generalize (s.device.onSdoDownload s.inputPdoMapped w.index w.subindex w.value).2.1 = mapped at *
  generalize gate (s.device.onSdoDownload s.inputPdoMapped w.index w.subindex w.value).2.2 = g
    at *
  rw [IsConfigured]
  unfold TxPdoConfigured at hflag
  unfold KeepsGate
  cases hbranch with
  | mapCount hindex hsub =>
    rw [if_pos ⟨hindex, hsub⟩, hflag]
    grind
  | assignCount hindex hsub =>
    rw [if_neg (fun hc => htx (hindex ▸ hc.1)), if_pos ⟨hindex, hsub⟩, hflag]
    grind
  | assign hindex hsub =>
    rw [if_neg (fun hc => htx (hindex ▸ hc.1)),
      if_neg (fun hc => absurd (hsub.symm.trans hc.2) (by decide)), if_pos ⟨hindex, hsub⟩]
    simp only [Bool.and_eq_true, decide_eq_true_eq]
    grind
  | other hmap hassign =>
    rw [if_neg hmap, if_neg (fun hc => hassign ⟨hc.1, .inl hc.2⟩),
      if_neg (fun hc => hassign ⟨hc.1, .inr hc.2⟩)]
    exact ⟨fun _ => trivial, fun _ => hflag⟩

/-! ## Whole runs -/

theorem new_gateAgrees (stationAddr : UInt16) (vendorId productCode : UInt32) :
    GateAgrees (new stationAddr vendorId productCode) :=
  (gateAgrees_iff_flag _).mpr ⟨fun _ => ⟨rfl, by show 0 < 1; decide, by show 0 < 8; decide⟩,
    fun _ => rfl⟩

/-- All along a run of downloads from construction the gate agrees with the
configuration exactly when every download of the run keeps it. -/
theorem gateAgrees_iff (stationAddr : UInt16) (vendorId productCode : UInt32)
    (ws : List SdoDownload) :
    Always download GateAgrees (new stationAddr vendorId productCode) ws ↔
      StepsOk download KeepsGate (new stationAddr vendorId productCode) ws := by
  have hstep : ∀ (s : El1258Slave) (w : SdoDownload), GateAgrees s →
      (GateAgrees (download s w) ↔ KeepsGate s w) :=
    fun _ w h => download_gateAgrees_iff h w
  exact always_iff_stepsOk hstep (new_gateAgrees stationAddr vendorId productCode) ws

/-- The mapping of a fresh slave is cleared by a download of zero to 0x1A00:0.
No PDO entry is mapped any more, and SAFE_OP is still admitted. -/
theorem gateAgrees_unmapped_false :
    let s := download (new 1 VENDOR_ID PRODUCT_CODE) ⟨0x1A00, 0, 0, 4⟩
    s.device.mapCount = 0 ∧ s.inputPdoMapped = true ∧ s.preconditionsMet .SAFE_OP = true ∧
      ¬GateAgrees s := by
  decide

end EthercatSim.El1258Slave

import EthercatSim.El1258.PdoGate
import EthercatSim.Network.ProcessImage

/-!
# The four views of the inputs of the EL1258

A master sees a channel in the objects 0x6000 and 0x6001, in the aggregate 0x6002 and,
by way of `runOnce`, in the logical memory.  The last two are inverted by the mask in
0x8000 and the first two are not.

* `testBit_currentAggregate`: a bit of the aggregate is a channel, inverted by the mask.
* `ChannelAgrees`: all views show one value for the channel.
* `channelAgrees_iff`: after any run the views of a channel agree exactly when the last
  mask that was downloaded does not invert it.
* `channelAgrees_inverted_false`: a mask of 1 splits the views of channel 1.
-/

namespace EthercatSim.El1258Slave

open Kickcat Bytes El1258 StepRun

/-- The calls that change what a terminal shows. -/
inductive InputCall where
  | setChannelState (channel : Int) (state : Bool) (now : Int)
  | sdoDownload (w : SdoDownload)
  deriving DecidableEq, Repr

/-- The slave after one call. -/
def inputStep (s : El1258Slave) : InputCall → El1258Slave
  | .setChannelState channel state now =>
    { s with device := s.device.setChannelState channel state now }
  | .sdoDownload w => s.download w

/-- `b` is a byte that `runOnce` copies for the slave: the byte at the address of a
mapping of it that no later mapping covers. -/
def IsCopied (s : El1258Slave) (b : UInt8) : Prop :=
  ∃ (sim sim' : NetworkSimulator El1258) (before after : List InputMap) (m : InputMap)
    (ref : SlaveRef),
    sim.objects ref = s ∧ sim.inputMaps = before ++ m :: after ∧ sim.lock m.slave = some ref ∧
      0 < m.widthBytes ∧ m.logicalAddress.toNat < 16384 ∧
      (∀ m' ∈ after, ¬m'.Covers m.logicalAddress.toNat) ∧ sim.runOnce = some sim' ∧
      b = sim'.logical.get m.logicalAddress.toNat

/-- The views of channel `k` show one value. -/
def ChannelAgrees (s : El1258Slave) (k : UInt8) : Prop :=
  ∃ aggregate bits status : UInt32,
    (s.sdoUpload OBJ_DIGITAL_AGGREGATE 0).1 = some aggregate ∧
      (SlaveDevice.readDigitalInputsBitfield s.device).1 = some bits ∧
      (s.sdoUpload OBJ_DIGITAL_STATUS k).1 = some status ∧
      (s.sdoUpload OBJ_DIGITAL_INPUT k).1 = some (bitOf aggregate.toNat (k.toNat - 1)) ∧
      status &&& 1 = bitOf aggregate.toNat (k.toNat - 1) ∧
      bitOf bits.toNat (k.toNat - 1) = bitOf aggregate.toNat (k.toNat - 1) ∧
      ∀ b, IsCopied s b → bitOf b.toNat (k.toNat - 1) = bitOf aggregate.toNat (k.toNat - 1)

/-- The views of every channel agree. -/
def ViewsAgree (s : El1258Slave) : Prop :=
  ∀ k : UInt8, 1 ≤ k ∧ k ≤ CHANNEL_COUNT_U8 → ChannelAgrees s k

/-- What a call makes of the mask. -/
def maskStep (mask : UInt32) : InputCall → UInt32
  | .sdoDownload w => if w.index = OBJ_INVERT_MASK then w.value &&& BYTE_MASK else mask
  | .setChannelState _ _ _ => mask

/-- The call leaves no channel inverted. -/
def LeavesUpright : InputCall → Prop
  | .sdoDownload w => w.index = OBJ_INVERT_MASK → w.value &&& BYTE_MASK = 0
  | .setChannelState _ _ _ => True

instance : (call : InputCall) → Decidable (LeavesUpright call)
  | .sdoDownload _ => inferInstanceAs (Decidable (_ → _))
  | .setChannelState _ _ _ => isTrue trivial

/-! ## The views -/

/-- Outside the identity object an upload is answered by the terminal. -/
theorem sdoUpload_eq (s : El1258Slave) {index : UInt16} (h : index ≠ OBJ_IDENTITY)
    (subindex : UInt8) : (s.sdoUpload index subindex).1 = s.device.onSdoUpload index subindex := by
  have hne : ∀ sub, ¬(index = 0x1018 ∧ subindex = sub) := fun _ hc => h hc.1
  rw [VirtualSlave.sdoUpload, if_neg (hne _), if_neg (hne _), if_neg (hne _), if_neg (hne _)]
  rfl

theorem onSdoUpload_digitalInput (d : El1258) {k : UInt8} (hk : 1 ≤ k ∧ k ≤ CHANNEL_COUNT_U8) :
    d.onSdoUpload OBJ_DIGITAL_INPUT k = some (if d.channels.get (k.toNat - 1) then 1 else 0) := by
  have hzero : k ≠ 0 := by grind
  show (if k = 0 then some 8 else if 1 ≤ k ∧ k ≤ CHANNEL_COUNT_U8 then some _ else none) = _
  rw [if_neg hzero, if_pos hk]

theorem onSdoUpload_digitalStatus (d : El1258) {k : UInt8} (hk : 1 ≤ k ∧ k ≤ CHANNEL_COUNT_U8) :
    d.onSdoUpload OBJ_DIGITAL_STATUS k =
      some (if d.channels.get (k.toNat - 1) then STATUS_INPUT_HIGH else 0) := by
  have hzero : k ≠ 0 := by grind
  show (if k = 0 then some 8 else if 1 ≤ k ∧ k ≤ CHANNEL_COUNT_U8 then some _ else none) = _
  rw [if_neg hzero, if_pos hk]

theorem onSdoUpload_digitalAggregate (d : El1258) (subindex : UInt8) :
    d.onSdoUpload OBJ_DIGITAL_AGGREGATE subindex = some d.currentAggregate := rfl

/-- A bit of the aggregate. -/
theorem testBit_currentAggregate (d : El1258) {i : Nat} (hi : i < CHANNEL_COUNT) :
    d.currentAggregate.toNat.testBit i = (d.channels.get i ^^ d.invertMask.toNat.testBit i) := by
  have hmask : (CHANNEL_MASK.toNat).testBit i = true := by
    rw [show CHANNEL_MASK.toNat = 2 ^ 8 - 1 from rfl, Nat.testBit_two_pow_sub_one]
    exact decide_eq_true hi
  have hraw := testBit_foldl_or d.channels.get (by decide : CHANNEL_COUNT ≤ 32) i
  simp [currentAggregate, hraw, hmask, hi]

/-- Bit `i` of a byte that `runOnce` copies is bit `i` of the aggregate. -/
theorem IsCopied.testBit {s : El1258Slave} {b : UInt8} (h : IsCopied s b) {i : Nat}
    (hi : i < CHANNEL_COUNT) : b.toNat.testBit i = s.device.currentAggregate.toNat.testBit i := by
  obtain ⟨sim, sim', before, after, m, ref, rfl, hmaps, hlock, hwidth, haddr, hafter, hrun,
    rfl⟩ := h
  have hcovers : m.Covers m.logicalAddress.toNat := ⟨Nat.le_refl _, by omega⟩
  obtain ⟨sim₁, hstep, hbyte⟩ :=
    NetworkSimulator.runOnce_last hrun hmaps hlock haddr hcovers hafter
  have hdevice : (sim₁.objects ref).device = (sim.objects ref).device :=
    (hstep.objects ref).device_eq (g := id) (fun _ => rfl)
  rw [hbyte _ rfl, hdevice, Nat.sub_self, inputByte]
  have h8 : i < 8 := hi
  simp [h8, Nat.testBit_mod_two_pow (x := _) (j := 8)]

theorem bitOf_eq_iff (v i : Nat) (on : Bool) :
    (if on then 1 else 0) = bitOf v i ↔ v.testBit i = on := by
  rw [bitOf]
  cases v.testBit i <;> cases on <;> simp

/-- The views of a channel agree exactly when the mask does not invert it. -/
theorem channelAgrees_iff_mask (s : El1258Slave) {k : UInt8} (hk : 1 ≤ k ∧ k ≤ CHANNEL_COUNT_U8) :
    ChannelAgrees s k ↔ s.device.invertMask.toNat.testBit (k.toNat - 1) = false := by
  have hi : k.toNat - 1 < CHANNEL_COUNT := by
    have hle : k.toNat ≤ 8 := hk.2
    show k.toNat - 1 < 8
    omega
  have hbit := testBit_currentAggregate s.device hi
  have haggregate := (sdoUpload_eq s (by decide) 0).trans (onSdoUpload_digitalAggregate s.device 0)
  have hinput := (sdoUpload_eq s (by decide) k).trans (onSdoUpload_digitalInput s.device hk)
  have hstatus := (sdoUpload_eq s (by decide) k).trans (onSdoUpload_digitalStatus s.device hk)
  constructor
  · intro h
    obtain ⟨aggregate, bits, status, hagg, -, -, hin, -⟩ := h
    obtain rfl := Option.some.inj (haggregate.symm.trans hagg)
    have hvalue := Option.some.inj (hinput.symm.trans hin)
    rw [bitOf_eq_iff, hbit] at hvalue
    cases hon : s.device.channels.get (k.toNat - 1) <;> rw [hon] at hvalue <;> simpa using hvalue
  · intro hupright
    rw [hupright, Bool.xor_false] at hbit
    have hvalue := (bitOf_eq_iff _ _ _).mpr hbit
    refine ⟨_, _, _, haggregate, rfl, hstatus, ?_, ?_, rfl, ?_⟩
    · rw [hinput, hvalue]
    · rw [← hvalue]
      cases s.device.channels.get (k.toNat - 1) <;> rfl
    · intro b hb
      rw [bitOf, bitOf, hb.testBit hi]

/-! ## The mask -/

theorem onSdoDownload_invertMask (d : El1258) (mapped : Bool) (index : UInt16) (subindex : UInt8)
    (value : UInt32) :
    (d.onSdoDownload mapped index subindex value).2.2.invertMask =
      if index = OBJ_INVERT_MASK then value &&& BYTE_MASK else d.invertMask := by
  unfold El1258.onSdoDownload
  by_cases hi : index = OBJ_INVERT_MASK
  · rw [if_pos hi, if_pos hi]
  · rw [if_neg hi, if_neg hi]
    dsimp only
    split_ifs <;> rfl

theorem setChannelState_invertMask (d : El1258) (channel : Int) (state : Bool) (now : Int) :
    (d.setChannelState channel state now).invertMask = d.invertMask := by
  unfold El1258.setChannelState
  dsimp only
  split_ifs <;> rfl

theorem inputStep_invertMask (s : El1258Slave) (call : InputCall) :
    (inputStep s call).device.invertMask = maskStep s.device.invertMask call := by
  cases call with
  | setChannelState channel state now => exact setChannelState_invertMask s.device channel state now
  | sdoDownload w =>
    exact onSdoDownload_invertMask s.device s.inputPdoMapped w.index w.subindex w.value

/-- The mask has no bit beyond the eighth channel. -/
def MaskIsByte (s : El1258Slave) : Prop := s.device.invertMask &&& BYTE_MASK = s.device.invertMask

theorem inputStep_maskIsByte {s : El1258Slave} (h : MaskIsByte s) (call : InputCall) :
    MaskIsByte (inputStep s call) := by
  rw [MaskIsByte, inputStep_invertMask]
  cases call with
  | setChannelState channel state now => exact h
  | sdoDownload w =>
    rw [maskStep]
    split
    · rw [UInt32.and_assoc, UInt32.and_self]
    · exact h

/-- The views of all channels agree exactly when the mask is zero. -/
theorem viewsAgree_iff_mask {s : El1258Slave} (h : MaskIsByte s) :
    ViewsAgree s ↔ s.device.invertMask = 0 := by
  constructor
  · intro hviews
    apply UInt32.toNat_inj.mp
    apply Nat.eq_of_testBit_eq
    intro i
    rw [show (0 : UInt32).toNat = 0 from rfl, Nat.zero_testBit]
    by_cases hi : i < 8
    · have hk : ((i + 1).toUInt8).toNat = i + 1 := by
        simp
        omega
      have hrange : 1 ≤ (i + 1).toUInt8 ∧ (i + 1).toUInt8 ≤ CHANNEL_COUNT_U8 := by
        rw [UInt8.le_iff_toNat_le, UInt8.le_iff_toNat_le, hk]
        exact ⟨Nat.le_add_left 1 i, hi⟩
      have hbit := (channelAgrees_iff_mask s hrange).mp (hviews _ hrange)
      rw [hk, Nat.add_sub_cancel] at hbit
      exact hbit
    · rw [← h, UInt32.toNat_and, show BYTE_MASK.toNat = 2 ^ 8 - 1 from rfl, Nat.testBit_and,
        Nat.testBit_two_pow_sub_one, decide_eq_false hi, Bool.and_false]
  · intro hmask k hk
    rw [channelAgrees_iff_mask s hk, hmask]
    exact Nat.zero_testBit _

/-! ## Whole runs -/

/-- After a run of calls from construction the views of a channel agree exactly when the
mask that the run leaves does not invert the channel.  All views agree all along the run
exactly when no download to 0x8000 inverts a channel. -/
theorem channelAgrees_iff (stationAddr : UInt16) (vendorId productCode : UInt32)
    (calls : List InputCall) :
    (∀ k : UInt8, 1 ≤ k ∧ k ≤ CHANNEL_COUNT_U8 →
        (ChannelAgrees (run inputStep (new stationAddr vendorId productCode) calls) k ↔
          (run maskStep 0 calls).toNat.testBit (k.toNat - 1) = false)) ∧
      (Always inputStep ViewsAgree (new stationAddr vendorId productCode) calls ↔
        ∀ call ∈ calls, LeavesUpright call) := by
  have hstart : (new stationAddr vendorId productCode).device.invertMask = 0 := rfl
  constructor
  · intro k hk
    have hmask : (run inputStep (new stationAddr vendorId productCode) calls).device.invertMask =
        run maskStep 0 calls :=
      run_map (g := fun s : El1258Slave => s.device.invertMask) inputStep_invertMask _ calls
    rw [channelAgrees_iff_mask _ hk, hmask]
  · have hinv : ∀ (s : El1258Slave) (call : InputCall), MaskIsByte s → True →
        MaskIsByte (inputStep s call) := fun _ call h _ => inputStep_maskIsByte h call
    have hstep : ∀ (s : El1258Slave) (call : InputCall), MaskIsByte s → True → ViewsAgree s →
        (ViewsAgree (inputStep s call) ↔ LeavesUpright call) := by
      intro s call hbyte _ hviews
      have hzero := (viewsAgree_iff_mask hbyte).mp hviews
      rw [viewsAgree_iff_mask (inputStep_maskIsByte hbyte call), inputStep_invertMask, hzero]
      cases call with
      | setChannelState channel state now => exact ⟨fun _ => trivial, fun _ => rfl⟩
      | sdoDownload w =>
        rw [maskStep, LeavesUpright]
        by_cases hi : w.index = OBJ_INVERT_MASK
        · simp [hi]
        · simp [hi]
    have hbyte : MaskIsByte (new stationAddr vendorId productCode) := by
      rw [MaskIsByte, hstart]
      decide
    have hall : StepsOk inputStep (fun _ call => LeavesUpright call)
        (new stationAddr vendorId productCode) calls ↔ ∀ call ∈ calls, LeavesUpright call :=
      stepsOk_forall_iff
    rw [← hall]
    exact always_iff_of_allowed hinv hstep hbyte ((viewsAgree_iff_mask hbyte).mpr hstart)
      (stepsOk_all (fun _ _ => trivial) _ calls)

/-- A simulator that maps the inputs of the slave to the logical address 0. -/
def mappedAtZero (s : El1258Slave) : NetworkSimulator El1258 :=
  (((NetworkSimulator.new s).addVirtualSlave (some 0)).mapDigitalInputs (some 0) 0 1).setObject 0 s

/-- Channel 1 of a fresh terminal is low and the mask inverts it.  0x6000:1 and 0x6001:1
show 0; the aggregate, the bit field and the logical memory show 1. -/
theorem channelAgrees_inverted_false :
    let s := run inputStep (new 1 VENDOR_ID PRODUCT_CODE) [.sdoDownload ⟨OBJ_INVERT_MASK, 0, 1, 4⟩]
    (s.sdoUpload OBJ_DIGITAL_INPUT 1).1 = some 0 ∧
      (s.sdoUpload OBJ_DIGITAL_STATUS 1).1 = some 0 ∧
      (s.sdoUpload OBJ_DIGITAL_AGGREGATE 0).1 = some 1 ∧
      (SlaveDevice.readDigitalInputsBitfield s.device).1 = some 1 ∧
      (mappedAtZero s).runOnce.map (fun sim => sim.logical.get 0) = some 1 ∧
      IsCopied s 1 ∧ ¬ChannelAgrees s 1 := by
  intro s
  have himage : (mappedAtZero s).runOnce.map (fun sim => sim.logical.get 0) = some 1 := by decide
  refine ⟨by decide, by decide, by decide, by decide, himage, ?_, ?_⟩
  · obtain ⟨sim', hrun, hbyte⟩ := Option.map_eq_some_iff.mp himage
    exact ⟨mappedAtZero s, sim', [], [], ⟨some 0, 0, 1⟩, 0, rfl, rfl, rfl, by decide, by decide,
      by simp, hrun, hbyte.symm⟩
  · rw [channelAgrees_iff_mask s ⟨by decide, by decide⟩]
    decide

end EthercatSim.El1258Slave

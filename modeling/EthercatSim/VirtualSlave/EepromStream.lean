import EthercatSim.VirtualSlave.Steps

/-!
# Reading the EEPROM in a stream

A write of six bytes at EEPROM_CONTROL sets the word address, and every read of four
bytes at EEPROM_DATA returns two words and moves the address on.  Other accesses may
come in between.

* `streamReads_getElem?`: what the reads return, with the address as the 32-bit word
  that it is.
* `eepromStream_iff`: they return the words from the address on, with zeros behind the
  image, exactly when the addresses stay below 2^32.
-/

namespace EthercatSim

open Kickcat Bytes StepRun

/-- The call neither sets the word address nor moves it on. -/
def LeavesEepromAddr : SlaveOp → Prop
  | .read reg dst => ¬(reg.toNat = Reg.EEPROM_DATA ∧ 4 ≤ dst.length)
  | .write reg src => ¬(reg.toNat = Reg.EEPROM_CONTROL ∧ 6 ≤ src.length)
  | _ => True

/-- A read of a stream: the calls before it, and the buffer that it fills. -/
structure StreamRead where
  gap : List SlaveOp
  dst : List UInt8

/-- Four bytes are read, and nothing before touches the word address. -/
structure StreamRead.IsPlain (r : StreamRead) : Prop where
  gap : ∀ op ∈ r.gap, LeavesEepromAddr op
  dst : r.dst.length = 4

/-- The word address that a write at EEPROM_CONTROL carries. -/
def carriedAddress (src : List UInt8) : UInt32 :=
  le32 (le16 (src.getD 2 0) (src.getD 3 0)) (le16 (src.getD 4 0) (src.getD 5 0))

/-- The word of an image at an address; outside there are zeros. -/
def wordAt (image : Cells UInt16 128) (addr : Nat) : UInt16 :=
  if addr < 128 then image.get addr else 0

/-- The two words from an address on, as the four bytes of a read. -/
def wordPair (image : Cells UInt16 128) (lo hi : Nat) : List UInt8 :=
  bytes32 (le32 (wordAt image lo) (wordAt image hi))

theorem wordPair_inj {image : Cells UInt16 128} {lo hi lo' hi' : Nat}
    (h : wordPair image lo hi = wordPair image lo' hi') :
    wordAt image lo = wordAt image lo' ∧ wordAt image hi = wordAt image hi' := by
  simp only [wordPair, bytes32, List.cons.injEq, loWord_le32, hiWord_le32] at h
  obtain ⟨h0, h1, h2, h3, -⟩ := h
  rw [← le16_loByte_hiByte (wordAt image lo), ← le16_loByte_hiByte (wordAt image hi), h0, h1, h2,
    h3, le16_loByte_hiByte, le16_loByte_hiByte]
  exact ⟨rfl, rfl⟩

namespace VirtualSlave

variable {σ : Type}

/-! ## One read -/

/-- The word address and the image. -/
def eepromView (s : VirtualSlave σ) : UInt32 × Cells UInt16 128 := (s.eepromAddr, s.eeprom)

/-- A read of four bytes at EEPROM_DATA. -/
theorem read_eepromData (s : VirtualSlave σ) {dst : List UInt8} (h : dst.length = 4) :
    s.read 0x0508 dst =
      (true, wordPair s.eeprom s.eepromAddr.toNat (s.eepromAddr + 1).toNat,
        { s with eepromAddr := s.eepromAddr + 2 }) := by
  have hdata : (0x0508 : UInt16).toNat = Reg.EEPROM_DATA ∧ 4 ≤ dst.length :=
    ⟨rfl, Nat.le_of_eq h.symm⟩
  unfold read
  rw [if_pos hdata]
  have hwhole : ∀ v, overwrite dst 0 (bytes32 v) = bytes32 v :=
    fun v => overwrite_eq_of_length h.symm
  simp only [hwhole]
  rfl

theorem write_eepromControl [SlaveDevice σ] (s : VirtualSlave σ) {src : List UInt8}
    (h : 6 ≤ src.length) :
    s.write 0x0502 src = (true, { s with eepromAddr := carriedAddress src }) := by
  have hcontrol : (0x0502 : UInt16).toNat = Reg.EEPROM_CONTROL ∧ 6 ≤ src.length := ⟨rfl, h⟩
  unfold write
  rw [if_pos hcontrol]
  rfl

theorem AlStep.eepromView_eq {s s' : VirtualSlave σ} (h : AlStep s s') :
    s'.eepromView = s.eepromView := by
  have hframe := congrArg eepromView h.frame
  exact hframe

theorem MailboxStep.eepromView_eq {s s' : VirtualSlave σ} (h : MailboxStep s s') :
    s'.eepromView = s.eepromView := by
  have hframe := congrArg eepromView (h.frame s.device)
  exact hframe

section Device

variable [SlaveDevice σ]

/-- What an access in between keeps. -/
theorem step_eepromView (s : VirtualSlave σ) {op : SlaveOp} (h : LeavesEepromAddr op) :
    (s.step op).eepromView = s.eepromView := by
  cases op with
  | read reg dst =>
    show (s.read reg dst).2.2.eepromView = _
    have hbranch := s.read_branch reg dst
    generalize s.read reg dst = out at hbranch
    cases hbranch with
    | eeprom bytes hreg hlen => exact absurd ⟨hreg, hlen⟩ h
    | esc hsize => rfl
    | mailbox hreg hsize hwin => rfl
    | rejected hsize hwin => rfl
  | write reg src =>
    show (s.write reg src).2.eepromView = _
    have hbranch := s.write_branch reg src
    generalize s.write reg src = out at hbranch
    cases hbranch with
    | eeprom addr hreg hlen => exact absurd ⟨hreg, hlen⟩ h
    | esc hesc =>
      rcases escWriteHooks_branch { s with regs := s.regs.store reg.toNat src } reg src.length with
        hstep | ⟨address, hset⟩
      · exact hstep.eepromView_eq
      · rw [hset]
        rfl
    | mailbox hreg hsize hwin => exact (handleMailboxWrite_mailboxStep _).eepromView_eq
    | syncManager hreg hsize hwin hsm =>
      have hframe := congrArg eepromView (parseSyncManagers_outsideWindows s reg.toNat 0 src)
      exact hframe
    | rejected hreg hsize hwin hsm => rfl
  | setOnline on => rfl
  | setALState st => rfl
  | setInputPDOMapped v => rfl
  | start => rfl
  | routine =>
    show s.routine.eepromView = _
    unfold routine
    split <;> rfl

theorem run_eepromView (s : VirtualSlave σ) {ops : List SlaveOp}
    (h : ∀ op ∈ ops, LeavesEepromAddr op) : (run step s ops).eepromView = s.eepromView := by
  have hstep : ∀ (t : VirtualSlave σ) op, t.eepromView = s.eepromView → LeavesEepromAddr op →
      (t.step op).eepromView = s.eepromView :=
    fun t op ht hop => (step_eepromView t hop).trans ht
  exact run_invariant hstep rfl h

/-- No call changes the image. -/
theorem step_eeprom (s : VirtualSlave σ) (op : SlaveOp) : (s.step op).eeprom = s.eeprom := by
  have hkept : KeptOffEsc fun t : VirtualSlave σ => t.eeprom = s.eeprom :=
    keptOffEsc_of_member eeprom (fun _ => rfl) (fun _ _ => rfl) (fun _ => rfl) (fun _ _ => rfl) _
  refine (hkept.step_iff rfl (fun _ => rfl) rfl (fun _ _ => trivial) ?_ op).mpr trivial
  intro reg src _
  rw [iff_true]
  rcases escWriteHooks_branch { s with regs := s.regs.store reg.toNat src } reg src.length with
    hstep | ⟨address, hset⟩
  · have hview := congrArg Prod.snd hstep.eepromView_eq
    exact hview
  · rw [hset]

/-! ## The stream -/

/-- The reads of a stream, with what each returns. -/
def streamReads (s : VirtualSlave σ) : List StreamRead → List (Bool × List UInt8)
  | [] => []
  | r :: rs =>
    let out := (run step s r.gap).read 0x0508 r.dst
    (out.1, out.2.1) :: streamReads out.2.2 rs

/-- The reads return the words behind the address, which is a 32-bit word. -/
theorem streamReads_getElem? (s : VirtualSlave σ) {rs : List StreamRead}
    (h : ∀ r ∈ rs, r.IsPlain) {j : Nat} (hj : j < rs.length) :
    (s.streamReads rs)[j]? =
      some (true, wordPair s.eeprom ((s.eepromAddr.toNat + 2 * j) % 0x100000000)
        ((s.eepromAddr.toNat + 2 * j + 1) % 0x100000000)) := by
  induction rs generalizing s j with
  | nil => exact absurd hj (Nat.not_lt_zero j)
  | cons r rs ih =>
    have hr := h r (.head _)
    have hview := run_eepromView s hr.gap
    obtain ⟨haddr, himage⟩ := Prod.mk.inj hview
    rw [streamReads, read_eepromData _ hr.dst]
    cases j with
    | zero =>
      have hlo : s.eepromAddr.toNat % 0x100000000 = s.eepromAddr.toNat :=
        Nat.mod_eq_of_lt s.eepromAddr.toNat_lt
      rw [List.getElem?_cons_zero, haddr, himage, Nat.mul_zero, Nat.add_zero, hlo, UInt32.toNat_add,
        show (1 : UInt32).toNat = 1 from rfl]
    | succ j =>
      have hrest := ih { run step s r.gap with eepromAddr := (run step s r.gap).eepromAddr + 2 }
        (fun r hr => h r (.tail _ hr)) (Nat.lt_of_succ_lt_succ hj)
      have hnext : ((run step s r.gap).eepromAddr + 2).toNat =
          (s.eepromAddr.toNat + 2) % 0x100000000 := by
        rw [haddr, UInt32.toNat_add, show (2 : UInt32).toNat = 2 from rfl]
      have hlo : ((s.eepromAddr.toNat + 2) % 0x100000000 + 2 * j) % 0x100000000 =
          (s.eepromAddr.toNat + 2 * (j + 1)) % 0x100000000 := by omega
      have hhi : ((s.eepromAddr.toNat + 2) % 0x100000000 + 2 * j + 1) % 0x100000000 =
          (s.eepromAddr.toNat + 2 * (j + 1) + 1) % 0x100000000 := by omega
      rw [List.getElem?_cons_succ]
      refine hrest.trans ?_
      dsimp only
      rw [hnext, himage, hlo, hhi]

/-! ## The stream against the image -/

omit [SlaveDevice σ] in
/-- The image starts with a word that is not zero. -/
theorem wordAt_initializeEeprom_zero (vendorId productCode : UInt32) :
    wordAt (initializeEeprom vendorId productCode) 0 = 0x0180 := by
  simp [wordAt, initializeEeprom, Cells.get_set]

omit [SlaveDevice σ] in
/-- The address is reduced modulo 2^32.  The reads do not notice as long as it stays
below. -/
theorem wordPairs_iff {image : Cells UInt16 128} (himage : wordAt image 0 ≠ 0) {a k : Nat}
    (ha : a < 0x100000000) :
    (∀ j < k, wordPair image ((a + 2 * j) % 0x100000000) ((a + 2 * j + 1) % 0x100000000) =
        wordPair image (a + 2 * j) (a + 2 * j + 1)) ↔ a + 2 * k ≤ 0x100000000 := by
  constructor
  · intro heq
    by_contra hover
    -- one of the two words of this read is word 0, and the address 2^32 is outside
    have hread := heq ((0x100000000 - a) / 2) (by omega)
    obtain ⟨hlo, hhi⟩ := wordPair_inj hread
    have houtside : wordAt image (0x100000000) = 0 := if_neg (by decide)
    rcases Nat.mod_two_eq_zero_or_one a with heven | hodd
    · have haddr : a + 2 * ((0x100000000 - a) / 2) = 0x100000000 := by omega
      rw [haddr, Nat.mod_self, houtside] at hlo
      exact himage hlo
    · have haddr : a + 2 * ((0x100000000 - a) / 2) + 1 = 0x100000000 := by omega
      rw [haddr, Nat.mod_self, houtside] at hhi
      exact himage hhi
  · intro hbelow j hj
    rw [Nat.mod_eq_of_lt (by omega), Nat.mod_eq_of_lt (by omega)]

/-- After any calls, a write of six or more bytes at EEPROM_CONTROL, and then reads of
four bytes at EEPROM_DATA with calls in between that leave the address alone: the reads
return the words of the image from the carried address on, and zeros behind the image,
exactly when the addresses stay below 2^32. -/
theorem eepromStream_iff (address : UInt16) (vendorId productCode : UInt32) (device : σ)
    (before : List SlaveOp) {src : List UInt8} (hsrc : 6 ≤ src.length) {rs : List StreamRead}
    (hrs : ∀ r ∈ rs, r.IsPlain) :
    let out := (run step (new address vendorId productCode device) before).write 0x0502 src
    let image := initializeEeprom vendorId productCode
    out.1 = true ∧
      ((∀ j < rs.length, (out.2.streamReads rs)[j]? =
          some (true, wordPair image ((carriedAddress src).toNat + 2 * j)
            ((carriedAddress src).toNat + 2 * j + 1))) ↔
        (carriedAddress src).toNat + 2 * rs.length ≤ 0x100000000) := by
  intro out image
  have himage : (run step (new address vendorId productCode device) before).eeprom = image :=
    run_unchanged step_eeprom _ before
  have hfirst : wordAt image 0 ≠ 0 := by
    rw [wordAt_initializeEeprom_zero]
    decide
  have hout : out = (true, { run step (new address vendorId productCode device) before with
      eepromAddr := carriedAddress src }) := write_eepromControl _ hsrc
  refine ⟨by rw [hout], ?_⟩
  rw [← wordPairs_iff hfirst (carriedAddress src).toNat_lt]
  apply forall₂_congr
  intro j hj
  rw [hout, streamReads_getElem? _ hrs hj, himage]
  simp only [Option.some.injEq, Prod.mk.injEq, true_and]

end Device

/-- Two reads from the start of the image, a write of the station address in between. -/
theorem eepromStream_identity :
    let out := (run step (new 1 2 3 ()) []).write 0x0502 [0, 1, 8, 0, 0, 0]
    let image := initializeEeprom 2 3
    out.1 = true ∧
      ((∀ j < 2, (out.2.streamReads
          [⟨[], [0, 0, 0, 0]⟩, ⟨[.write 0x0010 [5, 0]], [0, 0, 0, 0]⟩])[j]? =
          some (true, wordPair image (8 + 2 * j) (8 + 2 * j + 1))) ↔ 8 + 2 * 2 ≤ 0x100000000) := by
  have hreads : ∀ r ∈ [(⟨[], [0, 0, 0, 0]⟩ : StreamRead),
      ⟨[.write 0x0010 [5, 0]], [0, 0, 0, 0]⟩], r.IsPlain := by
    intro r hr
    simp only [List.mem_cons, List.not_mem_nil, or_false] at hr
    rcases hr with rfl | rfl
    · exact ⟨by simp, rfl⟩
    · refine ⟨?_, rfl⟩
      intro op hop
      rw [List.mem_singleton] at hop
      subst hop
      exact fun h => absurd h.1 (by decide)
  exact eepromStream_iff 1 2 3 () [] (by decide) hreads

/-- The last word address: word 0 of the image, 0x0180, is read where there is none. -/
theorem eepromStream_wrap_false :
    let out := (new 1 2 3 ()).write 0x0502 [0, 1, 0xFF, 0xFF, 0xFF, 0xFF]
    carriedAddress [0, 1, 0xFF, 0xFF, 0xFF, 0xFF] = 0xFFFFFFFF ∧ out.1 = true ∧
      out.2.streamReads [⟨[], [0, 0, 0, 0]⟩] = [(true, [0, 0, 0x80, 0x01])] ∧
      wordPair (initializeEeprom 2 3) 0xFFFFFFFF (0xFFFFFFFF + 1) = [0, 0, 0, 0] ∧
      ¬(out.2.streamReads [⟨[], [0, 0, 0, 0]⟩])[0]? =
        some (true, wordPair (initializeEeprom 2 3) 0xFFFFFFFF (0xFFFFFFFF + 1)) := by
  decide

end VirtualSlave

end EthercatSim

import EthercatSim.VirtualSlave.Steps

/-!
# Sync manager registers and the mailbox windows

The slave keeps the mailbox windows twice: in the start and length bytes of
the SM0 and SM1 entries of the register file, and in the members that `read`
and `write` test.  `WindowsAgree` says that the two copies agree.

A write that lies in ESC space updates the registers only: the branch of
`write` that moves the windows stands behind the ESC branch, so a sync manager
write reaches it only when it runs past the end of the register file.
`KeepsWindowBytes` is the condition under which this does no harm, and
`step_windowsAgree_iff` shows that the condition is exact for one step.

* `windowsAgree_iff` is the statement about a whole run.
* `windowsAgree_esc_write_false` is the smallest run that breaks the agreement,
  an ordinary 16-byte configuration of SM0 and SM1.
-/

namespace EthercatSim.VirtualSlave

open Kickcat Bytes StepRun

variable {σ : Type}

/-- The start and length bytes of SM0 and SM1. -/
def windowBytes : List Nat :=
  [0x0800, 0x0801, 0x0802, 0x0803, 0x0808, 0x0809, 0x080A, 0x080B]

/-- The registers describe the windows that the slave uses. -/
def WindowsAgree (s : VirtualSlave σ) : Prop :=
  s.regs.word 0x0800 = s.mbRecvOffset ∧ s.regs.word 0x0802 = s.mbRecvSize ∧
    s.regs.word 0x0808 = s.mbSendOffset ∧ s.regs.word 0x080A = s.mbSendSize

instance (s : VirtualSlave σ) : Decidable s.WindowsAgree :=
  inferInstanceAs (Decidable (_ ∧ _ ∧ _ ∧ _))

/-- A write into ESC space puts into each window byte that it covers the byte
which is already there. -/
def KeepsWindowBytes (s : VirtualSlave σ) : SlaveOp → Prop
  | .write reg src =>
    EscWrite reg src → ∀ i ∈ windowBytes, reg.toNat ≤ i → i < reg.toNat + src.length →
      src.getD (i - reg.toNat) 0 = s.regs.get i
  | _ => True

/-! ## One step -/

/-- The windows themselves, for comparing two states. -/
def windows (s : VirtualSlave σ) : UInt16 × UInt16 × UInt16 × UInt16 :=
  (s.mbRecvOffset, s.mbRecvSize, s.mbSendOffset, s.mbSendSize)

/-- With unchanged windows, the registers still describe them exactly when none
of the eight bytes has changed. -/
theorem windowsAgree_iff_of_windows_eq {s s' : VirtualSlave σ} (h : s.WindowsAgree)
    (hw : s'.windows = s.windows) :
    s'.WindowsAgree ↔ ∀ i ∈ windowBytes, s'.regs.get i = s.regs.get i := by
  obtain ⟨h0, h2, h8, hA⟩ := h
  simp only [windows, Prod.mk.injEq] at hw
  obtain ⟨w0, w2, w8, wA⟩ := hw
  simp only [WindowsAgree, w0, w2, w8, wA, ← h0, ← h2, ← h8, ← hA, Cells.word_eq_iff]
  simp [windowBytes, and_assoc]

theorem WindowsAgree.of_get_eq {s s' : VirtualSlave σ} (h : s.WindowsAgree)
    (hw : s'.windows = s.windows) (hregs : ∀ i ∈ windowBytes, s'.regs.get i = s.regs.get i) :
    s'.WindowsAgree :=
  (windowsAgree_iff_of_windows_eq h hw).mpr hregs

theorem AlStep.windows_eq {s s' : VirtualSlave σ} (h : AlStep s s') : s'.windows = s.windows := by
  have hframe := congrArg windows h.frame
  exact hframe

theorem MailboxStep.windows_eq {s s' : VirtualSlave σ} (h : MailboxStep s s') :
    s'.windows = s.windows := by
  have hframe := congrArg windows (h.frame s.device)
  exact hframe

/-- No core register is a window byte. -/
theorem not_mem_coreRegisters : ∀ i ∈ windowBytes, i ∉ coreRegisters := by decide

/-- No status register is a window byte. -/
theorem not_mem_statusRegisters : ∀ i ∈ windowBytes, i ∉ statusRegisters := by decide

theorem AlStep.windowsAgree {s s' : VirtualSlave σ} (h : AlStep s s') (hs : s.WindowsAgree) :
    s'.WindowsAgree :=
  hs.of_get_eq h.windows_eq fun i hi => h.regs i (not_mem_coreRegisters i hi)

theorem MailboxStep.windowsAgree {s s' : VirtualSlave σ} (h : MailboxStep s s')
    (hs : s.WindowsAgree) : s'.WindowsAgree :=
  hs.of_get_eq h.windows_eq fun i hi => h.regs i (not_mem_statusRegisters i hi)

/-- `syncSMRegisters` makes the registers describe the windows. -/
theorem syncSMRegisters_windowsAgree (s : VirtualSlave σ) : s.syncSMRegisters.WindowsAgree := by
  simp only [WindowsAgree, syncSMRegisters, syncSMStatus, Cells.word, Cells.get_set,
    Cells.get_setWord]
  simp

/-- The windows do not depend on the hooks of an ESC write, and neither do the
window bytes. -/
theorem escWriteHooks_windows (s : VirtualSlave σ) (reg : UInt16) (len : Nat) :
    (escWriteHooks s reg len).windows = s.windows ∧
      ∀ i ∈ windowBytes, (escWriteHooks s reg len).regs.get i = s.regs.get i := by
  rcases escWriteHooks_branch s reg len with hstep | ⟨address, hset⟩
  · exact ⟨hstep.windows_eq, fun i hi => hstep.regs i (not_mem_coreRegisters i hi)⟩
  · rw [hset]
    exact ⟨rfl, fun _ _ => rfl⟩

/-- An ESC write keeps the agreement exactly when it keeps the window bytes. -/
theorem escWrite_windowsAgree_iff {s : VirtualSlave σ} (h : s.WindowsAgree) {reg : UInt16}
    {src : List UInt8} (hesc : EscWrite reg src) :
    (escWriteHooks { s with regs := s.regs.store reg.toNat src } reg src.length).WindowsAgree ↔
      s.KeepsWindowBytes (.write reg src) := by
  obtain ⟨hwin, hget⟩ :=
    escWriteHooks_windows { s with regs := s.regs.store reg.toNat src } reg src.length
  have hsize : ∀ i ∈ windowBytes, i < 4096 := by decide
  rw [windowsAgree_iff_of_windows_eq h hwin, Cells.store_keeps_iff hsize hget]
  exact ⟨fun hkeep _ => hkeep, fun hkeep => hkeep hesc⟩

/-- Away from the writes into ESC space the agreement is kept. -/
theorem windowsAgree_keptOffEsc : KeptOffEsc fun s : VirtualSlave σ => s.WindowsAgree where
  alStep hstep h := hstep.windowsAgree h
  mailboxStep hstep h := hstep.windowsAgree h
  syncManagers _ _ _ _ := syncSMRegisters_windowsAgree _
  eepromAddr _ h := h

/-- One call keeps the agreement exactly when it is not an ESC write that
changes a window byte. -/
theorem step_windowsAgree_iff [SlaveDevice σ] {s : VirtualSlave σ} (h : s.WindowsAgree)
    (op : SlaveOp) : (s.step op).WindowsAgree ↔ s.KeepsWindowBytes op := by
  refine windowsAgree_keptOffEsc.step_iff h (fun _ => h) h ?_ ?_ op
  · intro op hop
    cases op with
    | write reg src => exact fun hesc => absurd hesc hop
    | read => trivial
    | setOnline => trivial
    | setALState => trivial
    | setInputPDOMapped => trivial
    | start => trivial
    | routine => trivial
  · intro reg src hesc
    exact escWrite_windowsAgree_iff h hesc

theorem new_windowsAgree (address : UInt16) (vendorId productCode : UInt32) (device : σ) :
    (new address vendorId productCode device).WindowsAgree :=
  syncSMRegisters_windowsAgree _

/-- A write that reaches the branch which moves the mailbox windows. -/
def ReconfiguresMailbox (s : VirtualSlave σ) : SlaveOp → Prop
  | .write reg src =>
    4096 < reg.toNat + src.length ∧ ¬InWindow s.mbRecvOffset s.mbRecvSize reg src.length ∧
      Reg.SYNC_MANAGER ≤ reg.toNat ∧ reg.toNat < Reg.SYNC_MANAGER + 16
  | _ => False

instance (s : VirtualSlave σ) : (op : SlaveOp) → Decidable (s.ReconfiguresMailbox op)
  | .write _ _ => inferInstanceAs (Decidable (_ ∧ _))
  | .read _ _ | .setOnline _ | .setALState _ | .setInputPDOMapped _ | .start | .routine =>
    isFalse id

/-! ## Which accesses the mailbox accepts -/

/-- Outside ESC space and the sync manager entries, a write is accepted exactly
in the receive window. -/
theorem write_accepted_iff [SlaveDevice σ] (s : VirtualSlave σ) {reg : UInt16}
    {src : List UInt8} (hreg : reg.toNat ≠ Reg.EEPROM_CONTROL)
    (hsize : 4096 < reg.toNat + src.length)
    (hsm : ¬(Reg.SYNC_MANAGER ≤ reg.toNat ∧ reg.toNat < Reg.SYNC_MANAGER + 16)) :
    (s.write reg src).1 = true ↔ InWindow s.mbRecvOffset s.mbRecvSize reg src.length := by
  cases hout : s.write reg src with
  | mk ok s' =>
    have hbranch := s.write_branch reg src
    rw [hout] at hbranch
    cases hbranch with
    | eeprom addr h hlen => exact absurd h hreg
    | esc hesc =>
      have := hesc.2
      omega
    | mailbox h hsize hwin => simp [hwin]
    | syncManager h hsize hwin h' => exact absurd h' hsm
    | rejected h hsize hwin h' => simp [hwin]

/-- Outside ESC space, a read is accepted exactly in the send window. -/
theorem read_accepted_iff (s : VirtualSlave σ) {reg : UInt16} {dst : List UInt8}
    (hreg : reg.toNat ≠ Reg.EEPROM_DATA) (hsize : 4096 < reg.toNat + dst.length) :
    (s.read reg dst).1 = true ↔ InWindow s.mbSendOffset s.mbSendSize reg dst.length := by
  cases hout : s.read reg dst with
  | mk ok out =>
    have hbranch := s.read_branch reg dst
    rw [hout] at hbranch
    cases hbranch with
    | eeprom bytes h hlen => exact absurd h hreg
    | esc h => omega
    | mailbox h hsize hwin => simp [hwin]
    | rejected hsize hwin => simp [hwin]

/-- The mailbox accepts writes exactly in the first window and reads exactly in
the second. -/
def MailboxServes [SlaveDevice σ] (s : VirtualSlave σ)
    (recvOffset recvSize sendOffset sendSize : UInt16) : Prop :=
  (∀ (reg : UInt16) (src : List UInt8), reg.toNat ≠ Reg.EEPROM_CONTROL →
    4096 < reg.toNat + src.length →
    ¬(Reg.SYNC_MANAGER ≤ reg.toNat ∧ reg.toNat < Reg.SYNC_MANAGER + 16) →
    ((s.write reg src).1 = true ↔ InWindow recvOffset recvSize reg src.length)) ∧
  ∀ (reg : UInt16) (dst : List UInt8), reg.toNat ≠ Reg.EEPROM_DATA →
    4096 < reg.toNat + dst.length →
    ((s.read reg dst).1 = true ↔ InWindow sendOffset sendSize reg dst.length)

theorem mailboxServes [SlaveDevice σ] (s : VirtualSlave σ) :
    s.MailboxServes s.mbRecvOffset s.mbRecvSize s.mbSendOffset s.mbSendSize :=
  ⟨fun _ _ hreg hsize hsm => write_accepted_iff s hreg hsize hsm,
    fun _ _ hreg hsize => read_accepted_iff s hreg hsize⟩

/-- A 16-byte write at SYNC_MANAGER lies in ESC space. -/
theorem write_syncManager_entries [SlaveDevice σ] (s : VirtualSlave σ) {entries : List UInt8}
    (hlen : entries.length = 16) :
    s.write 0x0800 entries = (true, { s with regs := s.regs.store 0x0800 entries }) := by
  have hesc : EscWrite 0x0800 entries := by
    constructor
    · intro h
      exact absurd h.1 (by decide)
    · rw [hlen]
      decide
  rw [write_of_esc s hesc, escWriteHooks_of_ne _ (fun h => absurd h.1 (by decide))]
  rfl

/-! ## Whole runs -/

/-- All along a run from construction the registers describe the windows in
use exactly when every ESC write of the run keeps the window bytes.  When a
run of that kind ends in a 16-byte write of the SM0 and SM1 entries, the write
is accepted and the mailbox serves the windows that the entries name. -/
theorem windowsAgree_iff [SlaveDevice σ] (address : UInt16) (vendorId productCode : UInt32)
    (device : σ) (ops : List SlaveOp) :
    (Always step WindowsAgree (new address vendorId productCode device) ops ↔
      StepsOk step KeepsWindowBytes (new address vendorId productCode device) ops) ∧
    ∀ entries : List UInt8, entries.length = 16 →
      StepsOk step KeepsWindowBytes (new address vendorId productCode device)
        (ops ++ [.write 0x0800 entries]) →
      ∃ s', (run step (new address vendorId productCode device) ops).write 0x0800 entries =
          (true, s') ∧
        s'.MailboxServes (le16 (entries.getD 0 0) (entries.getD 1 0))
          (le16 (entries.getD 2 0) (entries.getD 3 0))
          (le16 (entries.getD 8 0) (entries.getD 9 0))
          (le16 (entries.getD 10 0) (entries.getD 11 0)) := by
  have hstep : ∀ (s : VirtualSlave σ) (op : SlaveOp), s.WindowsAgree →
      ((s.step op).WindowsAgree ↔ s.KeepsWindowBytes op) :=
    fun s op h => step_windowsAgree_iff h op
  have hiff := always_iff_stepsOk hstep (new_windowsAgree address vendorId productCode device)
  refine ⟨hiff ops, ?_⟩
  intro entries hlen hok
  have hagree := ((hiff _).mpr hok).last
  rw [run_append, run_cons, run_nil] at hagree
  generalize run step (new address vendorId productCode device) ops = s at hagree ⊢
  have hwrite := write_syncManager_entries s hlen
  rw [step, hwrite] at hagree
  refine ⟨_, hwrite, ?_⟩
  obtain ⟨h0, h2, h8, hA⟩ := hagree
  have hword : ∀ off, off + 2 ≤ 16 → (s.regs.store 0x0800 entries).word (0x0800 + off) =
      le16 (entries.getD off 0) (entries.getD (off + 1) 0) := fun off hoff =>
    Cells.word_store s.regs (by omega) (by omega)
  have w0 := (hword 0 (by decide)).symm.trans h0
  have w2 := (hword 2 (by decide)).symm.trans h2
  have w8 := (hword 8 (by decide)).symm.trans h8
  have wA := (hword 10 (by decide)).symm.trans hA
  rw [w0, w2, w8, wA]
  exact mailboxServes { s with regs := s.regs.store 0x0800 entries }

/-- The default windows, written back as the SM0 and SM1 entries of a fresh
slave, keep the window bytes and are served. -/
theorem windowsAgree_default_entries :
    ∃ s' : VirtualSlave Unit,
      (new 1 2 3 ()).write 0x0800 [0x00, 0x10, 0x00, 0x02, 0x26, 0, 1, 0,
        0x00, 0x12, 0x00, 0x02, 0x22, 0, 1, 0] = (true, s') ∧
      s'.MailboxServes 0x1000 512 0x1200 512 := by
  have hkeep : StepsOk step KeepsWindowBytes (new 1 2 3 ())
      [.write 0x0800 [0x00, 0x10, 0x00, 0x02, 0x26, 0, 1, 0,
        0x00, 0x12, 0x00, 0x02, 0x22, 0, 1, 0]] := by
    refine ⟨?_, trivial⟩
    intro _ i hi _ _
    revert i
    decide
  exact (windowsAgree_iff 1 2 3 () []).2 _ rfl hkeep

/-- SM0 is configured to 256 bytes at 0x1400 and SM1 to 256 bytes at 0x1600.
The write succeeds, the registers hold the new entries, the windows have not
moved, and a mailbox write at 0x1400 is refused. -/
theorem windowsAgree_esc_write_false :
    let out := (new 1 2 3 () : VirtualSlave Unit).write 0x0800
      [0x00, 0x14, 0x00, 0x01, 0x26, 0, 1, 0, 0x00, 0x16, 0x00, 0x01, 0x22, 0, 1, 0]
    out.1 = true ∧ ¬out.2.WindowsAgree ∧ out.2.regs.word 0x0800 = 0x1400 ∧
      (out.2.write 0x1400 (List.replicate 16 0)).1 = false := by
  decide

end EthercatSim.VirtualSlave

import EthercatSim.Lib.Writes
import EthercatSim.VirtualSlave.SyncManager

/-!
# ESC space as a memory

The registers below 0x1000, for accesses that none of the special cases takes: a write
at AL_CONTROL, one of six or more bytes at EEPROM_CONTROL, and a read of four or more
bytes at EEPROM_DATA.

* `run_regs`: plain accesses store what they write, and nothing else.
* `escMemory_faithful`: they all succeed, and a read returns what was written last; an
  access across the end is refused.
-/

namespace EthercatSim

open Kickcat StepRun

/-- An access inside ESC space that no special case takes. -/
def PlainAccess : SlaveOp → Prop
  | .read reg dst =>
    reg.toNat + dst.length ≤ 4096 ∧ ¬(reg.toNat = Reg.EEPROM_DATA ∧ 4 ≤ dst.length)
  | .write reg src =>
    reg.toNat + src.length ≤ 4096 ∧ reg.toNat ≠ Reg.AL_CONTROL ∧
      ¬(reg.toNat = Reg.EEPROM_CONTROL ∧ 6 ≤ src.length)
  | _ => False

instance : (op : SlaveOp) → Decidable (PlainAccess op)
  | .read _ _ => inferInstanceAs (Decidable (_ ∧ _))
  | .write _ _ => inferInstanceAs (Decidable (_ ∧ _))
  | .setOnline _ | .setALState _ | .setInputPDOMapped _ | .start | .routine => isFalse id

/-- The bytes that a call writes, with the register of the first one. -/
def writtenBy : SlaveOp → Option (CellWrite UInt8)
  | .write reg src => some ⟨reg.toNat, src⟩
  | _ => none

namespace VirtualSlave

variable {σ : Type}

/-- The access returns true.  What is no access does not. -/
def succeeds [SlaveDevice σ] (s : VirtualSlave σ) : SlaveOp → Bool
  | .read reg dst => (s.read reg dst).1
  | .write reg src => (s.write reg src).1
  | _ => false

/-- A plain read returns the registers and changes nothing. -/
theorem read_of_plain (s : VirtualSlave σ) {reg : UInt16} {dst : List UInt8}
    (h : PlainAccess (.read reg dst)) :
    s.read reg dst = (true, s.regs.load reg.toNat dst.length, s) := by
  unfold read
  rw [if_neg h.2, if_pos h.1]

section Device

variable [SlaveDevice σ]

/-- A plain write succeeds and stores its bytes, the hooks included. -/
theorem write_of_plain (s : VirtualSlave σ) {reg : UInt16} {src : List UInt8}
    (h : PlainAccess (.write reg src)) :
    (s.write reg src).1 = true ∧ (s.write reg src).2.regs = s.regs.store reg.toNat src := by
  rw [write_of_esc s ⟨h.2.2, h.1⟩, escWriteHooks_of_ne _ (fun hal => h.2.1 hal.1)]
  exact ⟨rfl, rfl⟩

theorem succeeds_of_plain (s : VirtualSlave σ) {op : SlaveOp} (h : PlainAccess op) :
    s.succeeds op = true := by
  cases op with
  | read reg dst =>
    rw [succeeds, read_of_plain s h]
  | write reg src => exact (write_of_plain s h).1
  | setOnline on => exact h.elim
  | setALState st => exact h.elim
  | setInputPDOMapped v => exact h.elim
  | start => exact h.elim
  | routine => exact h.elim

/-- What one plain access does to the register file. -/
theorem step_regs (s : VirtualSlave σ) {op : SlaveOp} (h : PlainAccess op) :
    (s.step op).regs = s.regs.storeAll (writtenBy op).toList := by
  cases op with
  | read reg dst =>
    rw [step, read_of_plain s h]
    rfl
  | write reg src => exact (write_of_plain s h).2
  | setOnline on => exact h.elim
  | setALState st => exact h.elim
  | setInputPDOMapped v => exact h.elim
  | start => exact h.elim
  | routine => exact h.elim

/-- What plain accesses do to the register file, in order. -/
theorem run_regs (s : VirtualSlave σ) {ops : List SlaveOp} (h : ∀ op ∈ ops, PlainAccess op) :
    (run step s ops).regs = s.regs.storeAll (ops.filterMap writtenBy) := by
  induction ops generalizing s with
  | nil => rfl
  | cons op ops ih =>
    have hrest : ∀ o ∈ ops, PlainAccess o := fun o ho => h o (.tail _ ho)
    have hwrites : (op :: ops).filterMap writtenBy =
        (writtenBy op).toList ++ ops.filterMap writtenBy := by
      rw [List.filterMap_cons]
      cases writtenBy op <;> rfl
    rw [run_cons, ih _ hrest, step_regs s (h op (.head _)), hwrites, Cells.storeAll_append]

end Device

/-- A slave with the windows of the constructor refuses an access that crosses the end of
ESC space, when no special case takes it. -/
theorem read_across_end {s : VirtualSlave σ} (h : s.windows = (0x1000, 512, 0x1200, 512))
    {reg : UInt16} {dst : List UInt8} (hreg : reg.toNat < 4096)
    (hcross : 4096 < reg.toNat + dst.length)
    (heeprom : ¬(reg.toNat = Reg.EEPROM_DATA ∧ 4 ≤ dst.length)) :
    s.read reg dst = (false, dst, s) := by
  simp only [windows, Prod.mk.injEq] at h
  have hwin : ¬(s.mbSendOffset.toNat ≤ reg.toNat ∧
      reg.toNat + dst.length ≤ s.mbSendOffset.toNat + s.mbSendSize.toNat) := by
    rw [h.2.2.1]
    intro hin
    have hlow : 0x1200 ≤ reg.toNat := hin.1
    omega
  unfold read
  rw [if_neg heeprom, if_neg (by omega), if_neg hwin]

theorem write_across_end [SlaveDevice σ] {s : VirtualSlave σ}
    (h : s.windows = (0x1000, 512, 0x1200, 512)) {reg : UInt16} {src : List UInt8}
    (hreg : reg.toNat < 4096) (hcross : 4096 < reg.toNat + src.length)
    (hsm : ¬(Reg.SYNC_MANAGER ≤ reg.toNat ∧ reg.toNat < Reg.SYNC_MANAGER + 16))
    (heeprom : ¬(reg.toNat = Reg.EEPROM_CONTROL ∧ 6 ≤ src.length)) :
    s.write reg src = (false, s) := by
  simp only [windows, Prod.mk.injEq] at h
  have hwin : ¬(s.mbRecvOffset.toNat ≤ reg.toNat ∧
      reg.toNat + src.length ≤ s.mbRecvOffset.toNat + s.mbRecvSize.toNat) := by
    rw [h.1]
    intro hin
    have hlow : 0x1000 ≤ reg.toNat := hin.1
    omega
  unfold write
  rw [if_neg heeprom, if_neg (by omega), if_neg hwin, if_neg hsm]

/-- A slave with the windows of the constructor.  Every access of a sequence of plain
ones returns true, and each byte read is the one that was written last, or the register
as it was at the start.  An access across the end of ESC space that does not start in the
entries of SM0 and SM1, and that the EEPROM does not take, returns false and changes
nothing. -/
theorem escMemory_faithful [SlaveDevice σ] {s : VirtualSlave σ}
    (h : s.windows = (0x1000, 512, 0x1200, 512)) :
    (∀ before op after, (∀ o ∈ before ++ op :: after, PlainAccess o) →
        (run step s before).succeeds op = true ∧
          ∀ reg dst, op = .read reg dst →
            ((run step s before).read reg dst).2.1.length = dst.length ∧
              ∀ i < dst.length, ((run step s before).read reg dst).2.1[i]? =
                some ((CellWrite.lastWritten (before.filterMap writtenBy) (reg.toNat + i)).getD
                  (s.regs.get (reg.toNat + i)))) ∧
      ∀ reg : UInt16, reg.toNat < 4096 →
        ¬(Reg.SYNC_MANAGER ≤ reg.toNat ∧ reg.toNat < Reg.SYNC_MANAGER + 16) →
          (∀ dst, 4096 < reg.toNat + dst.length →
            ¬(reg.toNat = Reg.EEPROM_DATA ∧ 4 ≤ dst.length) →
              s.read reg dst = (false, dst, s)) ∧
          ∀ src, 4096 < reg.toNat + src.length →
            ¬(reg.toNat = Reg.EEPROM_CONTROL ∧ 6 ≤ src.length) →
              s.write reg src = (false, s) := by
  constructor
  · intro before op after hplain
    have hop : PlainAccess op := hplain op (by simp)
    have hbefore : ∀ o ∈ before, PlainAccess o := fun o ho => hplain o (by simp [ho])
    refine ⟨succeeds_of_plain _ hop, ?_⟩
    intro reg dst hread
    subst hread
    have hrange : reg.toNat + dst.length ≤ 4096 := hop.1
    rw [read_of_plain _ hop, run_regs s hbefore]
    refine ⟨Cells.load_length _ _ _, ?_⟩
    intro i hi
    rw [Cells.getElem?_load, if_pos hi, Cells.get_storeAll _ _ (by omega)]
  · intro reg hreg hsm
    constructor
    · intro dst hcross heeprom
      exact read_across_end h hreg hcross heeprom
    · intro src hcross heeprom
      exact write_across_end h hreg hcross hsm heeprom

/-- The slave as the constructor leaves it. -/
theorem escMemory_faithful_new :
    (∀ before op after, (∀ o ∈ before ++ op :: after, PlainAccess o) →
        (run step (new 1 0 0 ()) before).succeeds op = true ∧
          ∀ reg dst, op = .read reg dst →
            ((run step (new 1 0 0 ()) before).read reg dst).2.1.length = dst.length ∧
              ∀ i < dst.length, ((run step (new 1 0 0 ()) before).read reg dst).2.1[i]? =
                some ((CellWrite.lastWritten (before.filterMap writtenBy) (reg.toNat + i)).getD
                  ((new 1 0 0 ()).regs.get (reg.toNat + i)))) ∧
      ∀ reg : UInt16, reg.toNat < 4096 →
        ¬(Reg.SYNC_MANAGER ≤ reg.toNat ∧ reg.toNat < Reg.SYNC_MANAGER + 16) →
          (∀ dst, 4096 < reg.toNat + dst.length →
            ¬(reg.toNat = Reg.EEPROM_DATA ∧ 4 ≤ dst.length) →
              (new 1 0 0 ()).read reg dst = (false, dst, new 1 0 0 ())) ∧
          ∀ src, 4096 < reg.toNat + src.length →
            ¬(reg.toNat = Reg.EEPROM_CONTROL ∧ 6 ≤ src.length) →
              (new 1 0 0 ()).write reg src = (false, new 1 0 0 ()) :=
  escMemory_faithful rfl

end VirtualSlave

end EthercatSim

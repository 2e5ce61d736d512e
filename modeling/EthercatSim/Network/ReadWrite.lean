import EthercatSim.Network.Interpreters
import EthercatSim.Network.Isolation

/-!
# Read-write commands

Both interpreters make FPRW, APRW and LRW as plain writes; neither has the read
half.

* `readWrite_overwritten`: after such a command that is acknowledged, its target
  holds the bytes of the datagram, and the datagram holds them too.
* `lrw_not_read`: so the bytes that the target held before do not reach the master.
-/

namespace EthercatSim

open Kickcat NetworkSimulator

variable {σ : Type}

/-- FPRW, APRW or LRW. -/
def IsReadWrite (c : Command) : Prop := c = .FPRW ∨ c = .APRW ∨ c = .LRW

/-- The registers of the datagram are in ESC space, and writing them does not make
an AL or an EEPROM request. -/
def Datagram.InEscSpace (d : Datagram) : Prop :=
  VirtualSlave.EscWrite (extractAddress d.address).2 d.data ∧
    (extractAddress d.address).2.toNat ≠ Reg.AL_CONTROL

/-- What an acknowledged read-write command leaves behind.  The slave that the
datagram addresses is the one that it addressed in the state `sim` before. -/
structure Overwritten (sim : NetworkSimulator σ) (d : Datagram)
    (out : NetworkSimulator σ × Datagram) : Prop where
  registers : ∀ a, d.access = some a → ∀ ref, a.IsTarget sim ref →
    (out.1.objects ref).regs.load (extractAddress d.address).2.toNat d.data.length = d.data
  logical : d.command = .LRW → out.1.logical.load d.address.toNat d.data.length = d.data
  data : out.2.data = d.data

section Write

variable [SlaveDevice σ]

/-- The target of a register write holds the bytes of the write. -/
theorem perform_load {sim : NetworkSimulator σ} {a : BusAccess} {ref : SlaveRef} {reg : UInt16}
    {data : List UInt8} (hwrite : ∀ s : VirtualSlave σ, (a.onSlave s).2.2 = (s.write reg data).2)
    (hesc : VirtualSlave.EscWrite reg data) (hal : reg.toNat ≠ Reg.AL_CONTROL)
    (htarget : a.IsTarget sim ref) :
    ((a.perform sim).2.2.objects ref).regs.load reg.toNat data.length = data := by
  rw [BusAccess.perform_of_target (BusAccess.target_eq_some_iff.mpr htarget), setObject_objects,
    if_pos rfl, hwrite]
  exact VirtualSlave.write_load _ hesc hal

/-! ## One datagram -/

/-- A read-write command that is made as the write `a`. -/
theorem access_overwritten {sim : NetworkSimulator σ} {d : Datagram} {a : BusAccess}
    (haccess : d.access = some a) (hlrw : d.command ≠ .LRW)
    (hwrite : ∀ s : VirtualSlave σ,
      (a.onSlave s).2.2 = (s.write (extractAddress d.address).2 d.data).2)
    (hdata : (a.perform sim).2.1 = d.data) (hrange : d.InEscSpace) :
    Overwritten sim d (SlavesEndpoint.interpret sim d) := by
  rw [interpret_of_access haccess]
  constructor
  case registers =>
    intro a' ha' ref htarget
    rw [haccess] at ha'
    obtain rfl := Option.some.inj ha'
    exact perform_load hwrite hrange.1 hrange.2 htarget
  case logical => exact fun h => absurd h hlrw
  case data => exact hdata

theorem lrw_overwritten {sim : NetworkSimulator σ} {d : Datagram} (hc : d.command = .LRW)
    (hack : (SlavesEndpoint.interpret sim d).2.wkc ≠ 0) :
    Overwritten sim d (SlavesEndpoint.interpret sim d) := by
  have hout : SlavesEndpoint.interpret sim d =
      ((sim.writeLogical d.address d.data).2,
        { d with wkc := ackOf (sim.writeLogical d.address d.data).1 }) := by
    simp only [SlavesEndpoint.interpret, hc, reduceCtorEq, if_false]
  rw [hout] at hack ⊢
  constructor
  case registers =>
    intro a ha
    rw [Datagram.access, hc] at ha
    cases ha
  case logical =>
    intro _
    rw [writeLogical] at hack ⊢
    split
    · rename_i hsize
      rw [if_pos hsize] at hack
      exact absurd rfl hack
    · rename_i hsize
      exact Cells.load_store sim.logical (by omega)
  case data => rfl

/-! ## Both interpreters -/

omit [SlaveDevice σ] in
theorem Overwritten.of_sameEffect {sim : NetworkSimulator σ} {d : Datagram}
    {out out' : NetworkSimulator σ × Datagram} (h : Overwritten sim d out')
    (hsame : SameEffect out out') : Overwritten sim d out := by
  have hdata := congrArg Datagram.data hsame.datagram
  constructor
  case registers =>
    rw [hsame.sim]
    exact h.registers
  case logical =>
    rw [hsame.sim]
    exact h.logical
  case data => exact hdata.trans h.data

/-- Every state, and every datagram of a read-write command, with its registers in ESC
space when it addresses registers.  When an interpreter acknowledges it, the target
holds the bytes that the master sent, and the datagram still holds them. -/
theorem readWrite_overwritten (sim : NetworkSimulator σ) {d : Datagram}
    (hc : IsReadWrite d.command) (hrange : d.command ≠ .LRW → d.InEscSpace) :
    ((SlavesEndpoint.interpret sim d).2.wkc ≠ 0 →
        Overwritten sim d (SlavesEndpoint.interpret sim d)) ∧
      ((SimSocket.interpret sim d).2.wkc ≠ 0 →
        Overwritten sim d (SimSocket.interpret sim d)) := by
  have hendpoint : (SlavesEndpoint.interpret sim d).2.wkc ≠ 0 →
      Overwritten sim d (SlavesEndpoint.interpret sim d) := by
    intro hack
    rcases hc with hc | hc | hc
    · have hlrw : d.command ≠ .LRW := by rw [hc]; decide
      have haccess : d.access = some (.writeStation (extractAddress d.address).1
          (extractAddress d.address).2 d.data) := by rw [Datagram.access, hc]
      exact access_overwritten haccess hlrw (fun _ => rfl) rfl (hrange hlrw)
    · have hlrw : d.command ≠ .LRW := by rw [hc]; decide
      have haccess : d.access = some (.writeIndex
          (SlavesEndpoint.apIndex (extractAddress d.address).1) (extractAddress d.address).2
          d.data) := by rw [Datagram.access, hc]
      exact access_overwritten haccess hlrw (fun _ => rfl) rfl (hrange hlrw)
    · exact lrw_overwritten hc hack
  have hwkc : (SimSocket.interpret sim d).2.wkc = (SlavesEndpoint.interpret sim d).2.wkc := by
    rw [interpret_wkc_eq_iff]
    rcases hc with hc | hc | hc <;> rw [hc] <;> trivial
  refine ⟨hendpoint, ?_⟩
  intro hack
  exact (hendpoint (hwkc ▸ hack)).of_sameEffect (interpret_sameEffect sim d)

end Write

/-- One byte at the start of the logical memory. -/
def lrwByte : Datagram := { command := .LRW, address := 0, data := [1], wkc := 0 }

/-- Two bytes at register 0x0200 of the first of two slaves. -/
def aprwWord : Datagram := { command := .APRW, address := 0x02000000, data := [3, 4], wkc := 0 }

theorem readWrite_overwritten_both :
    Overwritten (twoSlaves true) lrwByte (SimSocket.interpret (twoSlaves true) lrwByte) ∧
      Overwritten (twoSlaves true) aprwWord
        (SlavesEndpoint.interpret (twoSlaves true) aprwWord) :=
  ⟨(readWrite_overwritten (twoSlaves true) (.inr (.inr rfl)) (fun h => absurd rfl h)).2 (by decide),
    (readWrite_overwritten (twoSlaves true) (.inr (.inl rfl))
      (fun _ => ⟨by decide, by decide⟩)).1 (by decide)⟩

/-- The memory holds 0, the master sends 1 and gets 1 back, acknowledged, from both
interpreters. -/
theorem lrw_not_read :
    ((twoSlaves true).readLogical lrwByte.address lrwByte.data) = (true, [0]) ∧
      (SlavesEndpoint.interpret (twoSlaves true) lrwByte).2 = { lrwByte with wkc := 1 } ∧
      (SimSocket.interpret (twoSlaves true) lrwByte).2 = { lrwByte with wkc := 1 } ∧
      lrwByte.data ≠ [0] := by
  decide

end EthercatSim

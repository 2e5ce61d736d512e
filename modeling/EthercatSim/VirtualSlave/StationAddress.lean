import EthercatSim.VirtualSlave.Steps

/-!
# The station address

The slave keeps its station address twice: in the bytes 0x0010 and 0x0011 of the
register file, which a master reads and writes, and in the member `address`,
which the lookup of a station compares.  `AddressAgrees` says that the two agree.

The hook behind an ESC write refreshes the member only when the write starts at
0x0010 and has both bytes.  Every other write that covers one of the two bytes
changes the register alone.

* `step_addressAgrees_iff`: a call keeps the agreement exactly when it meets
  `KeepsAddress`.
* `addressAgrees_iff` is the statement about a whole run.
* `addressAgrees_low_byte_false` writes the low byte alone.
-/

namespace EthercatSim.VirtualSlave

open Kickcat Bytes StepRun

variable {σ : Type}

/-- The two bytes of STATION_ADDR. -/
def addressBytes : List Nat := [0x0010, 0x0011]

/-- The register holds the address that the lookup compares. -/
def AddressAgrees (s : VirtualSlave σ) : Prop := s.regs.word 0x0010 = s.address

instance (s : VirtualSlave σ) : Decidable s.AddressAgrees :=
  inferInstanceAs (Decidable (_ = _))

/-- A write into ESC space starts at STATION_ADDR and has both bytes, or it puts
into each of the two bytes that it covers the byte which is already there. -/
def KeepsAddress (s : VirtualSlave σ) : SlaveOp → Prop
  | .write reg src =>
    EscWrite reg src → ¬(reg = 0x0010 ∧ 2 ≤ src.length) →
      ∀ i ∈ addressBytes, reg.toNat ≤ i → i < reg.toNat + src.length →
        src.getD (i - reg.toNat) 0 = s.regs.get i
  | _ => True

/-! ## One step -/

/-- With an unchanged member, the register still agrees exactly when neither byte
has changed. -/
theorem addressAgrees_iff_of_address_eq {s s' : VirtualSlave σ} (h : s.AddressAgrees)
    (ha : s'.address = s.address) :
    s'.AddressAgrees ↔ ∀ i ∈ addressBytes, s'.regs.get i = s.regs.get i := by
  unfold AddressAgrees at h ⊢
  rw [ha, ← h, Cells.word_eq_iff]
  simp [addressBytes]

theorem AddressAgrees.of_get_eq {s s' : VirtualSlave σ} (h : s.AddressAgrees)
    (ha : s'.address = s.address) (hregs : ∀ i ∈ addressBytes, s'.regs.get i = s.regs.get i) :
    s'.AddressAgrees :=
  (addressAgrees_iff_of_address_eq h ha).mpr hregs

theorem AlStep.address_eq {s s' : VirtualSlave σ} (h : AlStep s s') : s'.address = s.address := by
  have hframe := congrArg address h.frame
  exact hframe

theorem MailboxStep.address_eq {s s' : VirtualSlave σ} (h : MailboxStep s s') :
    s'.address = s.address := by
  have hframe := congrArg address (h.frame s.device)
  exact hframe

/-- Neither byte of the address is a core register. -/
theorem addressBytes_not_core : ∀ i ∈ addressBytes, i ∉ coreRegisters := by decide

/-- Neither byte of the address is a status register. -/
theorem addressBytes_not_status : ∀ i ∈ addressBytes, i ∉ statusRegisters := by decide

theorem AlStep.addressAgrees {s s' : VirtualSlave σ} (h : AlStep s s') (hs : s.AddressAgrees) :
    s'.AddressAgrees :=
  hs.of_get_eq h.address_eq fun i hi => h.regs i (addressBytes_not_core i hi)

theorem MailboxStep.addressAgrees {s s' : VirtualSlave σ} (h : MailboxStep s s')
    (hs : s.AddressAgrees) : s'.AddressAgrees :=
  hs.of_get_eq h.address_eq fun i hi => h.regs i (addressBytes_not_status i hi)

theorem syncSMRegisters_addressAgrees {s : VirtualSlave σ} (h : s.AddressAgrees) :
    s.syncSMRegisters.AddressAgrees := by
  have hlt : ∀ i ∈ addressBytes, i < Reg.SYNC_MANAGER := by decide
  exact h.of_get_eq rfl fun i hi => s.syncSMRegisters_get_of_lt (hlt i hi)

theorem parseSyncManagers_addressAgrees {s : VirtualSlave σ} (h : s.AddressAgrees)
    (reg pos : Nat) (rest : List UInt8) : (s.parseSyncManagers reg pos rest).AddressAgrees := by
  have hframe := congrArg address (parseSyncManagers_outsideWindows s reg pos rest)
  have ha : (s.parseSyncManagers reg pos rest).address = s.address := hframe
  apply h.of_get_eq ha
  intro i _
  rw [parseSyncManagers_regs]

/-- An ESC write at STATION_ADDR with both bytes refreshes the member. -/
theorem escWriteHooks_stationAddr {s : VirtualSlave σ} {len : Nat} (hlen : 2 ≤ len) :
    (escWriteHooks s 0x0010 len).AddressAgrees := by
  have hal : ¬((0x0010 : UInt16).toNat = Reg.AL_CONTROL ∧ 1 ≤ len) :=
    fun h => absurd h.1 (by decide)
  have hstation : (0x0010 : UInt16).toNat = Reg.STATION_ADDR ∧ 2 ≤ len := ⟨rfl, hlen⟩
  rw [escWriteHooks_of_ne s hal, if_pos hstation]
  rfl

/-- Every other ESC write leaves the member alone, and the hooks leave the two
bytes alone. -/
theorem escWriteHooks_address (s : VirtualSlave σ) {reg : UInt16} {len : Nat}
    (hreg : ¬(reg = 0x0010 ∧ 2 ≤ len)) :
    (escWriteHooks s reg len).address = s.address ∧
      ∀ i ∈ addressBytes, (escWriteHooks s reg len).regs.get i = s.regs.get i := by
  by_cases hal : reg.toNat = Reg.AL_CONTROL ∧ 1 ≤ len
  · rw [escWriteHooks_alControl s hal.1 hal.2]
    have hstep := handleAlControlWrite_alStep s (s.regs.word Reg.AL_CONTROL)
    exact ⟨hstep.address_eq, fun i hi => hstep.regs i (addressBytes_not_core i hi)⟩
  · have hstation : ¬(reg.toNat = Reg.STATION_ADDR ∧ 2 ≤ len) := by
      intro h
      exact hreg ⟨UInt16.toNat_inj.mp h.1, h.2⟩
    rw [escWriteHooks_of_ne s hal, if_neg hstation]
    exact ⟨rfl, fun _ _ => rfl⟩

/-- An ESC write keeps the agreement exactly when it is at STATION_ADDR with both
bytes, or keeps the bytes. -/
theorem escWrite_addressAgrees_iff {s : VirtualSlave σ} (h : s.AddressAgrees) {reg : UInt16}
    {src : List UInt8} (hesc : EscWrite reg src) :
    (escWriteHooks { s with regs := s.regs.store reg.toNat src } reg src.length).AddressAgrees ↔
      s.KeepsAddress (.write reg src) := by
  by_cases hreg : reg = 0x0010 ∧ 2 ≤ src.length
  · obtain ⟨rfl, hlen⟩ := hreg
    exact ⟨fun _ _ hne => absurd ⟨rfl, hlen⟩ hne, fun _ => escWriteHooks_stationAddr hlen⟩
  · obtain ⟨ha, hget⟩ :=
      escWriteHooks_address { s with regs := s.regs.store reg.toNat src } hreg
    have hsize : ∀ i ∈ addressBytes, i < 4096 := by decide
    rw [addressAgrees_iff_of_address_eq h ha, Cells.store_keeps_iff hsize hget]
    exact ⟨fun hkeep _ _ => hkeep, fun hkeep => hkeep hesc hreg⟩

/-- Away from the writes into ESC space the agreement is kept. -/
theorem addressAgrees_keptOffEsc : KeptOffEsc fun s : VirtualSlave σ => s.AddressAgrees where
  alStep hstep h := hstep.addressAgrees h
  mailboxStep hstep h := hstep.addressAgrees h
  syncManagers reg pos rest h :=
    syncSMRegisters_addressAgrees (parseSyncManagers_addressAgrees h reg pos rest)
  eepromAddr _ h := h

/-- One call keeps the agreement exactly when it meets the condition. -/
theorem step_addressAgrees_iff [SlaveDevice σ] {s : VirtualSlave σ} (h : s.AddressAgrees)
    (op : SlaveOp) : (s.step op).AddressAgrees ↔ s.KeepsAddress op := by
  refine addressAgrees_keptOffEsc.step_iff h (fun _ => h) h ?_ ?_ op
  · intro op hop
    cases op with
    | write reg src => exact fun hesc => absurd hesc hop
    | read => trivial
    | setOnline => trivial
    | setALState => trivial
    | setInputPDOMapped => trivial
    | start => trivial
    | routine => trivial
  · intro reg src hesc
    exact escWrite_addressAgrees_iff h hesc

/-- No function behind an access owns `address`; only the hook at STATION_ADDR
sets it. -/
theorem address_keptOffEsc (address : UInt16) :
    KeptOffEsc fun s : VirtualSlave σ => s.address = address :=
  keptOffEsc_of_member VirtualSlave.address (fun _ => rfl) (fun _ _ => rfl) (fun _ => rfl)
    (fun _ _ => rfl) address

/-- Only a write at STATION_ADDR changes the address that the lookup compares. -/
theorem write_address [SlaveDevice σ] (s : VirtualSlave σ) {reg : UInt16} (src : List UInt8)
    (hreg : reg ≠ 0x0010) : (s.write reg src).2.address = s.address := by
  have hkept : KeptOffEsc fun t : VirtualSlave σ => t.address = s.address := address_keptOffEsc _
  refine hkept.write rfl fun _ => ?_
  exact (escWriteHooks_address _ fun h => hreg h.1).1

theorem read_address (s : VirtualSlave σ) (reg : UInt16) (dst : List UInt8) :
    (s.read reg dst).2.2.address = s.address :=
  (address_keptOffEsc s.address).read rfl reg dst

/-- A write of both bytes at STATION_ADDR is accepted and sets the member. -/
theorem write_stationAddr [SlaveDevice σ] (s : VirtualSlave σ) (addr : UInt16) :
    (s.write 0x0010 [loByte addr, hiByte addr]).1 = true ∧
      (s.write 0x0010 [loByte addr, hiByte addr]).2.address = addr := by
  have hesc : EscWrite 0x0010 [loByte addr, hiByte addr] :=
    ⟨fun h => absurd h.1 (by decide), (by decide : (0x0010 : UInt16).toNat + 2 ≤ 4096)⟩
  have hal : ¬((0x0010 : UInt16).toNat = Reg.AL_CONTROL ∧
      1 ≤ [loByte addr, hiByte addr].length) := fun h => absurd h.1 (by decide)
  have hstation : (0x0010 : UInt16).toNat = Reg.STATION_ADDR ∧
      2 ≤ [loByte addr, hiByte addr].length := ⟨rfl, Nat.le_refl 2⟩
  rw [write_of_esc s hesc, escWriteHooks_of_ne _ hal, if_pos hstation]
  refine ⟨rfl, ?_⟩
  have hword : (s.regs.store 0x0010 [loByte addr, hiByte addr]).word (0x0010 + 0) =
      le16 (loByte addr) (hiByte addr) := Cells.word_store s.regs (Nat.le_refl 2) (by decide)
  rw [le16_loByte_hiByte] at hword
  exact hword

/-! ## Whole runs -/

/-- The constructor puts the address into both places. -/
theorem new_addressAgrees (address : UInt16) (vendorId productCode : UInt32) (device : σ) :
    (new address vendorId productCode device).AddressAgrees := by
  have hword : ((Cells.fill 0).setWord Reg.STATION_ADDR address : Cells UInt8 4096).word 0x0010 =
      address := Cells.word_setWord _ _ (by decide)
  apply syncSMRegisters_addressAgrees
  apply (syncCoreRegisters_alStep _).addressAgrees
  exact hword

/-- What a master reads at STATION_ADDR when the two copies agree. -/
theorem AddressAgrees.read_eq {s : VirtualSlave σ} (h : s.AddressAgrees) {dst : List UInt8}
    (hlen : dst.length = 2) :
    s.read 0x0010 dst = (true, [loByte s.address, hiByte s.address], s) := by
  have heeprom : ¬((0x0010 : UInt16).toNat = Reg.EEPROM_DATA ∧ 4 ≤ dst.length) :=
    fun hc => absurd hc.1 (by decide)
  have hsize : (0x0010 : UInt16).toNat + dst.length ≤ 4096 := by
    rw [hlen]
    decide
  have hload : s.regs.load 0x0010 2 = [s.regs.get 0x0010, s.regs.get 0x0011] := rfl
  rw [read, if_neg heeprom, if_pos hsize, hlen, ← h]
  simp [hload, Cells.word]

/-- All along a run from construction the register holds the address in use
exactly when every ESC write of the run meets the condition.  In the last state
of such a run a master reads the address in use at STATION_ADDR. -/
theorem addressAgrees_iff [SlaveDevice σ] (address : UInt16) (vendorId productCode : UInt32)
    (device : σ) (ops : List SlaveOp) :
    (Always step AddressAgrees (new address vendorId productCode device) ops ↔
      StepsOk step KeepsAddress (new address vendorId productCode device) ops) ∧
    (StepsOk step KeepsAddress (new address vendorId productCode device) ops →
      ∀ dst : List UInt8, dst.length = 2 →
        let s := run step (new address vendorId productCode device) ops
        s.read 0x0010 dst = (true, [loByte s.address, hiByte s.address], s)) := by
  have hstep : ∀ (s : VirtualSlave σ) (op : SlaveOp), s.AddressAgrees →
      ((s.step op).AddressAgrees ↔ s.KeepsAddress op) :=
    fun s op h => step_addressAgrees_iff h op
  have hiff :=
    always_iff_stepsOk hstep (new_addressAgrees address vendorId productCode device) ops
  refine ⟨hiff, ?_⟩
  intro hok dst hlen
  exact (hiff.mpr hok).last.read_eq hlen

/-- A new address that is written whole is read back. -/
theorem addressAgrees_reassigned :
    let s := run step (new 1 2 3 ()) [.write 0x0010 [0xE9, 0x03]]
    s.read 0x0010 [0, 0] = (true, [loByte s.address, hiByte s.address], s) := by
  have hok : StepsOk step KeepsAddress (new 1 2 3 ()) [.write 0x0010 [0xE9, 0x03]] :=
    ⟨fun _ hne => absurd ⟨rfl, by decide⟩ hne, trivial⟩
  exact (addressAgrees_iff 1 2 3 () [.write 0x0010 [0xE9, 0x03]]).2 hok [0, 0] rfl

/-- The low byte is written alone: the register says 9, the lookup compares 1. -/
theorem addressAgrees_low_byte_false :
    let out := (new 1 2 3 () : VirtualSlave Unit).write 0x0010 [9]
    out.1 = true ∧ out.2.regs.word 0x0010 = 9 ∧ out.2.address = 1 ∧ ¬out.2.AddressAgrees := by
  decide

end EthercatSim.VirtualSlave

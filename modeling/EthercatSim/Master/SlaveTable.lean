import EthercatSim.Master.Steps
import EthercatSim.Network.BringUp
import EthercatSim.Transport.Sessions

/-!
# The table of the slaves

Each command of the master ends with a look at the slaves: `refreshSlaveAlStatusUnlocked_`
reads the AL status and the AL status code of each one, and a table of them goes into the
model.  Here the register reads are answered by the bus of a server, one frame for each.

* `VirtualSlave.Shown`: the registers show the AL state and the code.  Every routine sees to
  it, whatever the frames have written (`serveFrames_shown`).
* `Bus.afterRegister_table`: a register read does not change what the next one reads.
* `exec_refreshSlaveAlStatus`: behind the reads the master knows each slave that answers.
* `table_showsBus`: so every command that gets as far as that shows the AL states of the
  slaves on the bus.
-/

namespace EthercatSim

open Kickcat Bytes Fallible StepRun

/-! ## What a slave shows -/

namespace VirtualSlave

variable {σ : Type}

/-- The AL state with the error bit. -/
def shownStatus (s : VirtualSlave σ) : UInt8 :=
  if s.ackRequested then s.alState.toByte ||| State.ACK.toByte else s.alState.toByte

/-- A slave that runs, and whose registers show its AL state and its code. -/
structure Shown (s : VirtualSlave σ) : Prop where
  online : s.online = true
  started : s.started = true
  alStatus : s.regs.get Reg.AL_STATUS = s.shownStatus
  alStatusCode : s.regs.word Reg.AL_STATUS_CODE = s.alStatusCode

/-- What a master can find out with register reads, and how it finds the slave. -/
def tableKey (s : VirtualSlave σ) : Bool × UInt16 × UInt8 × UInt16 :=
  (s.online, s.address, s.shownStatus, s.alStatusCode)

/-- A slave that runs shows its state behind a routine. -/
theorem routine_shown {s : VirtualSlave σ} (honline : s.online = true)
    (hstarted : s.started = true) : s.routine.Shown := by
  have hroutine : s.routine = s.syncCoreRegisters := by
    rw [routine, hstarted]
    rfl
  rw [hroutine]
  exact ⟨honline, hstarted, syncCoreRegisters_get_alStatus s, syncCoreRegisters_word_alStatusCode s⟩

theorem routine_tableKey (s : VirtualSlave σ) : s.routine.tableKey = s.tableKey := by
  rw [routine]
  split <;> rfl

theorem read_tableKey (s : VirtualSlave σ) (reg : UInt16) (dst : List UInt8) :
    (s.read reg dst).2.2.tableKey = s.tableKey := by
  have hbranch := s.read_branch reg dst
  generalize s.read reg dst = out at hbranch
  cases hbranch <;> rfl

/-- A slave that was started stays started. -/
theorem step_started [SlaveDevice σ] {s : VirtualSlave σ} (h : s.started = true) (op : SlaveOp) :
    (s.step op).started = true := by
  have hkept : KeptOffEsc fun t : VirtualSlave σ => t.started = true :=
    keptOffEsc_of_member started (fun _ => rfl) (fun _ _ => rfl) (fun _ => rfl) (fun _ _ => rfl) _
  refine (hkept.step_iff h (fun _ => h) rfl (fun _ _ => trivial) ?_ op).mpr trivial
  intro reg src _
  rw [iff_true]
  rcases escWriteHooks_branch { s with regs := s.regs.store reg.toNat src } reg src.length with
    hstep | ⟨address, hset⟩
  · exact hkept.alStep hstep h
  · rw [hset]
    exact h

/-- A slave that runs goes on running behind any calls of the frames. -/
theorem run_running [SlaveDevice σ] {s : VirtualSlave σ}
    (h : s.online = true ∧ s.started = true) {ops : List SlaveOp} (hops : ∀ op ∈ ops, op.IsServed) :
    (run step s ops).online = true ∧ (run step s ops).started = true :=
  run_invariant (P := fun t : VirtualSlave σ => t.online = true ∧ t.started = true)
    (fun t op ht hop => ⟨(hop.step_online t).trans ht.1, step_started ht.2 op⟩) h hops

end VirtualSlave

/-! ## Register reads on a bus -/

/-- The datagram of `sendGetRegister`.  `addDatagram` is given a `nullptr` for the data, so
there are as many bytes as in a pointer. -/
def getRegister (addr reg : UInt16) : Datagram where
  command := .FPRD
  address := le32 addr reg
  data := List.replicate 8 0
  wkc := 0

namespace Bus

open VirtualSlave

variable {σ : Type}

/-- All slaves run and show their state. -/
def Shown (b : Bus σ) : Prop := ∀ s ∈ b.slaves, s.Shown

def table (b : Bus σ) : List (Bool × UInt16 × UInt8 × UInt16) := b.slaves.map tableKey

/-- The slave that answers to a station address. -/
def answering (b : Bus σ) (addr : UInt16) : Option (VirtualSlave σ) :=
  b.slaves.find? fun s => s.online && s.address == addr

theorem answering_tableKey (b : Bus σ) (addr : UInt16) :
    (b.answering addr).map tableKey = b.table.find? fun key => key.1 && key.2.1 == addr := by
  rw [table, List.find?_map]
  rfl

section Device

variable [SlaveDevice σ]

/-- The bus behind the frame of a register read. -/
def afterRegister (b : Bus σ) (addr reg : UInt16) : Bus σ :=
  (b.processFrame [getRegister addr reg]).1.runOnce

/-- A register read gets the register of the slave that answers, or no answer. -/
theorem interpret_getRegister (b : Bus σ) (addr reg : UInt16) :
    (b.interpret (getRegister addr reg)).2 =
      match b.answering addr with
      | some s =>
        { getRegister addr reg with
          data := (s.read reg (List.replicate 8 0)).2.1
          wkc := ackOf (s.read reg (List.replicate 8 0)).1 }
      | none => { getRegister addr reg with wkc := 0 } := by
  have haddress : extractAddress (getRegister addr reg).address = (addr, reg) := by
    show (loWord (le32 addr reg), hiWord (le32 addr reg)) = _
    rw [loWord_le32, hiWord_le32]
  have haccess : (getRegister addr reg).access =
      some (.readStation addr reg (List.replicate 8 0)) := by
    show some (BusAccess.readStation (extractAddress (getRegister addr reg).address).1
      (extractAddress (getRegister addr reg).address).2 (List.replicate 8 0)) = _
    rw [haddress]
  have hinterpret : (b.interpret (getRegister addr reg)).2 =
      { getRegister addr reg with
        data := (b.perform (.readStation addr reg (List.replicate 8 0))).2.1
        wkc := ackOf (b.perform (.readStation addr reg (List.replicate 8 0))).1 } := by
    rw [interpret, haccess]
  rw [hinterpret, answering, List.find?_eq_bind_findIdx?_getElem?]
  cases hfound : b.slaves.findIdx? fun s => s.online && s.address == addr with
  | none =>
    have hposition : b.position (.readStation addr reg (List.replicate 8 0)) = none := hfound
    rw [perform, hposition]
    rfl
  | some i =>
    have hposition : b.position (.readStation addr reg (List.replicate 8 0)) = some i := hfound
    obtain ⟨hi, -, -⟩ := List.findIdx?_eq_some_iff_getElem.mp hfound
    have hslave : b.slaves[i]? = some b.slaves[i] := List.getElem?_eq_getElem hi
    rw [perform_of_position hposition hslave, Option.bind_some, hslave]
    rfl

/-- Behind a frame every slave that runs has run its routine last. -/
theorem runOnce_processFrame_slaves {b : Bus σ} (h : ∀ s ∈ b.slaves, s.online = true)
    (frame : List Datagram) (i : Nat) :
    (b.processFrame frame).1.runOnce.slaves[i]? =
      b.slaves[i]?.map fun s => (run step s (b.deliveredFrame frame i)).routine := by
  rw [runOnce_slaves, processFrame_slaves]
  cases hslave : b.slaves[i]? with
  | none => rfl
  | some s =>
    have honline : (b.processFrame frame).1.onlineAt i = true := by
      rw [onlineAt_of_slaves (b.processFrame_slaves frame i) (b.deliveredFrame_isServed frame i),
        onlineAt, hslave]
      exact h s (List.mem_of_getElem? hslave)
    rw [if_pos honline]
    rfl

/-- Whatever is in a frame, the slaves show their state behind it. -/
theorem runOnce_processFrame_shown {b : Bus σ} (h : b.Shown) (frame : List Datagram) :
    (b.processFrame frame).1.runOnce.Shown := by
  intro s hs
  obtain ⟨i, hi⟩ := List.getElem?_of_mem hs
  rw [runOnce_processFrame_slaves fun s hs => (h s hs).online] at hi
  obtain ⟨s₀, hs₀, rfl⟩ := Option.map_eq_some_iff.mp hi
  have hshown := h s₀ (List.mem_of_getElem? hs₀)
  have hruns := run_running ⟨hshown.online, hshown.started⟩ (b.deliveredFrame_isServed frame i)
  exact routine_shown hruns.1 hruns.2

theorem serveFrames_shown {b : Bus σ} (h : b.Shown) (frames : List (List Datagram)) :
    (b.serveFrames frames).1.Shown := by
  induction frames generalizing b with
  | nil => exact h
  | cons frame frames ih => exact ih (runOnce_processFrame_shown h frame)

/-- A register read does not change what the slaves show. -/
theorem afterRegister_table {b : Bus σ} (h : b.Shown) (addr reg : UInt16) :
    (b.afterRegister addr reg).table = b.table := by
  apply List.ext_getElem?
  intro i
  rw [table, table, List.getElem?_map, List.getElem?_map, afterRegister,
    runOnce_processFrame_slaves fun s hs => (h s hs).online, Option.map_map]
  congr 1
  funext s
  rw [Function.comp_apply, routine_tableKey]
  show (run step s (b.delivered (getRegister addr reg) i ++ [])).tableKey = _
  rw [List.append_nil]
  rcases b.delivered_branch (getRegister addr reg) i with hcall | ⟨-, hcall⟩ | ⟨hwrites, -⟩
  · rw [hcall]
    rfl
  · rw [hcall]
    exact s.read_tableKey _ _
  · simp [Datagram.WritesSlaves, getRegister] at hwrites

end Device

/-- The slaves of a fresh server show their state. -/
theorem fresh_shown (n : Nat) (image : Cells UInt8 16384) : (fresh n image).Shown := by
  intro s hs
  obtain ⟨i, -, rfl⟩ := List.mem_map.mp hs
  have hnew := new_statusMirrored (castUInt16 (1 + i)) El1258.VENDOR_ID El1258.PRODUCT_CODE
    El1258.initial
  exact ⟨rfl, rfl, hnew.alStatus, hnew.alStatusCode⟩

end Bus

/-! ## The answers of the bus -/

/-- What `sendGetRegister` makes of the datagram as it comes back: it throws, or reads the
front of the data. -/
def BusAnswer.ReadsBack (a : BusAnswer) (d : Datagram) : Prop :=
  if d.wkc = 1 then a.thrown = none ∧ a.register = le16 (d.data.getD 0 0) (d.data.getD 1 0)
  else a.thrown ≠ none

/-- From now on the register reads of the master are answered by the bus `b`, one frame for
each. -/
def MasterController.ServedBy {σ : Type} [SlaveDevice σ] (c : MasterController) (b : Bus σ) :
    Prop :=
  ∃ bus : Nat → Bus σ, bus 0 = b ∧ ∀ k,
    (∃ addr reg, bus (k + 1) = (bus k).afterRegister addr reg) ∧
    ∀ addr reg, (c.answers (c.calls + k) (.sendGetRegister addr reg)).ReadsBack
      ((bus k).interpret (getRegister addr reg)).2

/-- The slave as the master knows it when it has looked at the bus.  One that does not answer
is left as it was. -/
def Bus.refreshed {σ : Type} (b : Bus σ) (slave : KickcatSlave) : KickcatSlave :=
  match b.answering slave.address with
  | some s => { slave with alStatus := s.shownStatus, alStatusCode := s.alStatusCode }
  | none => slave

/-- What the master gets to know is in the table of the bus. -/
theorem Bus.refreshed_congr {σ : Type} {b b' : Bus σ} (h : b'.table = b.table)
    (slave : KickcatSlave) : b'.refreshed slave = b.refreshed slave := by
  have hkeys : (b'.answering slave.address).map VirtualSlave.tableKey =
      (b.answering slave.address).map VirtualSlave.tableKey := by
    rw [answering_tableKey, answering_tableKey, h]
  rw [refreshed, refreshed]
  cases hs : b.answering slave.address with
  | none =>
    rw [hs, Option.map_none, Option.map_eq_none_iff] at hkeys
    rw [hkeys]
  | some s =>
    rw [hs, Option.map_some, Option.map_eq_some_iff] at hkeys
    obtain ⟨s', hs', hkey⟩ := hkeys
    simp only [VirtualSlave.tableKey, Prod.mk.injEq] at hkey
    obtain ⟨-, -, hstatus, hcode⟩ := hkey
    simp only [hs', hstatus, hcode]

namespace MasterController

variable {σ : Type} [SlaveDevice σ] {b : Bus σ} {c : MasterController}

/-- One register read later the bus is another one, with the same table. -/
theorem ServedBy.next (h : c.ServedBy b) (hshown : b.Shown) :
    ∃ b' : Bus σ, ServedBy { c with calls := c.calls + 1 } b' ∧ b'.Shown ∧ b'.table = b.table := by
  obtain ⟨bus, rfl, hbus⟩ := h
  obtain ⟨addr, reg, hnext⟩ := (hbus 0).1
  refine ⟨bus 1, ⟨fun k => bus (k + 1), rfl, ?_⟩, ?_, ?_⟩
  · intro k
    refine ⟨(hbus (k + 1)).1, ?_⟩
    intro addr reg
    have hread := (hbus (k + 1)).2 addr reg
    have hcalls : c.calls + (k + 1) = c.calls + 1 + k := by omega
    rw [hcalls] at hread
    exact hread
  · rw [hnext]
    exact Bus.runOnce_processFrame_shown hshown _
  · rw [hnext]
    exact Bus.afterRegister_table hshown addr reg

/-- The answer to a register read. -/
theorem ServedBy.answer (h : c.ServedBy b) (addr reg : UInt16) :
    (c.answers c.calls (.sendGetRegister addr reg)).ReadsBack
      (b.interpret (getRegister addr reg)).2 := by
  obtain ⟨bus, rfl, hbus⟩ := h
  exact (hbus 0).2 addr reg

/-- A read of a slave that does not answer throws. -/
theorem ServedBy.exec_absent (h : c.ServedBy b) {addr : UInt16} (hnone : b.answering addr = none)
    (reg : UInt16) :
    ∃ what, exec (linkCall (.sendGetRegister addr reg)) c =
      (.error what, { c with calls := c.calls + 1 }) := by
  have hanswer := h.answer addr reg
  rw [BusAnswer.ReadsBack, b.interpret_getRegister, hnone] at hanswer
  have hfails : (0 : UInt16) ≠ 1 := by decide
  simp only [if_neg hfails] at hanswer
  obtain ⟨what, hwhat⟩ := Option.ne_none_iff_exists'.mp hanswer
  refine ⟨what, ?_⟩
  show (c.outcome _, _) = _
  rw [outcome, hwhat]

/-- A read in the ESC space of a slave that answers gets the front of the registers there. -/
theorem ServedBy.exec_found (h : c.ServedBy b) {addr : UInt16} {s : VirtualSlave σ}
    (hsome : b.answering addr = some s) (reg : UInt16) (hreg : reg.toNat ≠ Reg.EEPROM_DATA)
    (hsize : reg.toNat + 8 ≤ 4096) :
    ∃ a : BusAnswer, a.register = s.regs.word reg.toNat ∧
      exec (linkCall (.sendGetRegister addr reg)) c =
        (.ok a, { c with calls := c.calls + 1 }) := by
  have hread : s.read reg (List.replicate 8 0) = (true, s.regs.load reg.toNat 8, s) := by
    have hdata : ¬(reg.toNat = Reg.EEPROM_DATA ∧ 4 ≤ (List.replicate 8 (0 : UInt8)).length) :=
      fun hc => hreg hc.1
    rw [VirtualSlave.read, if_neg hdata, List.length_replicate, if_pos hsize]
  have hanswer := h.answer addr reg
  rw [BusAnswer.ReadsBack, b.interpret_getRegister, hsome] at hanswer
  simp only [hread] at hanswer
  rw [if_pos (by rfl), Cells.getD_load _ (by omega), Cells.getD_load _ (by omega)] at hanswer
  refine ⟨_, hanswer.2, ?_⟩
  show (c.outcome _, _) = _
  rw [outcome, hanswer.1]

/-- One slave: its state and its code are read, or it is left as it was. -/
theorem exec_refreshSlave (h : c.ServedBy b) (hshown : b.Shown) (slave : KickcatSlave) :
    ∃ (m : Nat) (b' : Bus σ),
      exec (refreshSlave slave) c = (.ok (b.refreshed slave), { c with calls := m }) ∧
      ServedBy { c with calls := m } b' ∧ b'.Shown ∧ b'.table = b.table := by
  obtain ⟨b₁, hserved₁, hshown₁, htable₁⟩ := h.next hshown
  cases hfound : b.answering slave.address with
  | none =>
    obtain ⟨what, hthrows⟩ := h.exec_absent hfound 0x0130
    have hkept : b.refreshed slave = slave := by
      rw [Bus.refreshed, hfound]
    refine ⟨c.calls + 1, b₁, ?_, hserved₁, hshown₁, htable₁⟩
    rw [refreshSlave, exec_tryCatch_error (exec_bind_error hthrows), hkept]
    rfl
  | some s =>
    have hs := hshown s (List.mem_of_find?_eq_some hfound)
    -- the slave that answers the second read shows the same
    have hkeys : (b₁.answering slave.address).map VirtualSlave.tableKey = some s.tableKey := by
      rw [Bus.answering_tableKey, htable₁, ← Bus.answering_tableKey, hfound]
      rfl
    obtain ⟨s₁, hfound₁, hkey⟩ := Option.map_eq_some_iff.mp hkeys
    have hs₁ := hshown₁ s₁ (List.mem_of_find?_eq_some hfound₁)
    have hcode : s₁.alStatusCode = s.alStatusCode := congrArg (fun key => key.2.2.2) hkey
    obtain ⟨status, hstatus, hread⟩ := h.exec_found hfound 0x0130 (by decide) (by decide)
    obtain ⟨code, hcodeword, hread₁⟩ :=
      hserved₁.exec_found hfound₁ 0x0134 (by decide) (by decide)
    obtain ⟨b₂, hserved₂, hshown₂, htable₂⟩ := hserved₁.next hshown₁
    refine ⟨c.calls + 1 + 1, b₂, ?_, hserved₂, hshown₂, htable₂.trans htable₁⟩
    have hbyte : status.register.toUInt8 = s.shownStatus := by
      rw [hstatus, ← hs.alStatus]
      exact loByte_le16 _ _
    have hword : code.register = s.alStatusCode := by
      rw [hcodeword, ← hcode, ← hs₁.alStatusCode]
      rfl
    have hrefreshed : b.refreshed slave =
        { slave with alStatus := status.register.toUInt8, alStatusCode := code.register } := by
      rw [Bus.refreshed, hfound, hbyte, hword]
    rw [hrefreshed]
    refine exec_tryCatch_ok ?_
    rw [exec_bind_ok hread, exec_bind_ok hread₁]
    rfl

/-- All slaves, one after the other. -/
theorem exec_mapM_refreshSlave (h : c.ServedBy b) (hshown : b.Shown) (slaves : List KickcatSlave) :
    ∃ m, exec (slaves.mapM refreshSlave) c =
      (.ok (slaves.map b.refreshed), { c with calls := m }) := by
  induction slaves generalizing c b with
  | nil => exact ⟨c.calls, rfl⟩
  | cons slave slaves ih =>
    obtain ⟨m, b', hfirst, hserved, hshown', htable⟩ := exec_refreshSlave h hshown slave
    obtain ⟨m', hrest⟩ := ih hserved hshown'
    have hsame : slaves.map b'.refreshed = slaves.map b.refreshed :=
      List.map_congr_left fun slave _ => Bus.refreshed_congr htable slave
    rw [hsame] at hrest
    refine ⟨m', ?_⟩
    rw [List.mapM_cons, exec_bind_ok hfirst, exec_bind_ok hrest]
    rfl

theorem exec_refreshSlaveAlStatus (h : c.ServedBy b) (hshown : b.Shown) (hbus : c.hasBus = true)
    (hlink : c.hasLink = true) :
    ∃ m, exec refreshSlaveAlStatus c =
      (.ok (), { c with calls := m, slaves := c.slaves.map b.refreshed }) := by
  obtain ⟨m, hall⟩ := exec_mapM_refreshSlave h hshown c.slaves
  refine ⟨m, ?_⟩
  have hready : (!c.hasBus || !c.hasLink) = false := by
    rw [hbus, hlink]
    rfl
  rw [refreshSlaveAlStatus, exec_bind_ok (exec_get c)]
  simp only [hready, Bool.false_eq_true, if_false]
  rw [exec_bind_ok hall]
  rfl

/-! ## The commands -/

/-- A command up to its last look at the slaves, and whether it gets there. -/
def MasterCommand.prepare : MasterCommand → Master Bool
  | .scan => do
    ensureBus
    let n ← detectSlavesWithRetries 10
    pure (decide (0 < n))
  | .initPreop => do
    let found ← findSlaves
    if found then
      let reached ← initBus
      let _ ← retryStates reached
      pure true
    else pure false
  | .requestOperational => enterOperational

/-- Behind a search that returns there are a bus object and a link. -/
theorem findSlaves_links {c c₁ : MasterController} (hc : c.Linked) {found : Bool}
    (h : exec findSlaves c = (.ok found, c₁)) : links c₁ = (true, true) := by
  obtain ⟨_, c', hensure, hrest⟩ := of_exec_bind_ok h
  obtain ⟨hlinked, hbus⟩ := ensureBus_post hc hensure
  have hkept := (searchSlaves_keeps links_quiet fun _ _ => rfl).of_exec hrest
  rw [hkept, links, hbus rfl, hlinked (hbus rfl)]

/-- The master has a bus object when it gets to look at the slaves. -/
theorem prepare_links {c c₁ : MasterController} (hc : c.Linked) {command : MasterCommand}
    (h : exec command.prepare c = (.ok true, c₁)) : links c₁ = (true, true) := by
  cases command with
  | scan =>
    obtain ⟨_, c', hensure, hrest⟩ := of_exec_bind_ok h
    obtain ⟨hlinked, hbus⟩ := ensureBus_post hc hensure
    have hkeeps : Keeps links (do
        let n ← detectSlavesWithRetries 10
        pure (decide (0 < n)) : Master Bool) :=
      (detectLoop_keeps links_quiet (fun _ _ => rfl) _ _).bind fun _ => WorksOn.pure
    rw [hkeeps.of_exec hrest, links, hbus rfl, hlinked (hbus rfl)]
  | initPreop =>
    obtain ⟨found, c', hfind, hrest⟩ := of_exec_bind_ok h
    have hkeeps : Keeps links (if found then do
          let reached ← initBus
          let _ ← retryStates reached
          pure true
        else pure false : Master Bool) :=
      WorksOn.ite ((initBus_keeps links_quiet).bind fun reached =>
        (retryStates_keeps links_quiet reached).bind fun _ => WorksOn.pure) WorksOn.pure
    rw [hkeeps.of_exec hrest, findSlaves_links hc hfind]
  | requestOperational =>
    obtain ⟨found, c', hfind, hrest⟩ := of_exec_bind_ok h
    rw [(enterStates_keeps links_quiet found).of_exec hrest, findSlaves_links hc hfind]

theorem reportPreop_slaves (reached : Bool × Bool) (c : MasterController) :
    ∃ c', exec (reportPreop reached) c = (.ok (), c') ∧ c'.model.slaves = c.snapshotSlaves := by
  rw [reportPreop, exec_bind_ok (exec_get c)]
  dsimp only
  rw [exec_bind_ok (exec_setSlaves c _), exec_bind_ok (exec_setPreop _ _)]
  split
  · exact ⟨_, rfl, rfl⟩
  · split <;> exact ⟨_, rfl, rfl⟩

/-- From there on the command shows the slaves as it knows them then. -/
theorem step_slaves_of_prepare {c c₁ c₂ : MasterController} {command : MasterCommand}
    (h : exec command.prepare c = (.ok true, c₁))
    (hrefresh : exec refreshSlaveAlStatus c₁ = (.ok (), c₂)) :
    (c.step command).model.slaves = c₂.snapshotSlaves := by
  cases command with
  | scan =>
    obtain ⟨_, c', hensure, hrest⟩ := of_exec_bind_ok h
    obtain ⟨n, c₀, hdetect, hfound⟩ := of_exec_bind_ok hrest
    obtain ⟨hn, rfl⟩ := Prod.mk.inj hfound
    have hpos : ¬n ≤ 0 := by
      have hdecide := of_decide_eq_true (Except.ok.inj hn)
      omega
    have hrun : exec scan c = (.ok (), { c₂ with
        model := { c₂.model with slaves := c₂.snapshotSlaves, status := "scan ok" } }) := by
      refine exec_tryCatch_ok ?_
      rw [exec_bind_ok hensure, exec_bind_ok hdetect, if_neg hpos, exec_bind_ok hrefresh]
      rfl
    show (exec scan c).2.model.slaves = _
    rw [hrun]
  | initPreop =>
    obtain ⟨found, c', hfind, hrest⟩ := of_exec_bind_ok h
    cases found with
    | false =>
      rw [if_neg Bool.false_ne_true] at hrest
      cases hrest
    | true =>
      rw [if_pos rfl] at hrest
      obtain ⟨reached, c₀, hinit, hrest⟩ := of_exec_bind_ok hrest
      obtain ⟨reached', c₄, hretry, hdone⟩ := of_exec_bind_ok hrest
      obtain ⟨-, rfl⟩ := Prod.mk.inj hdone
      obtain ⟨c₃, hreport, hslaves⟩ := reportPreop_slaves reached' c₂
      have hrun : exec initPreop c = (.ok (), c₃) := by
        refine exec_tryCatch_ok ?_
        rw [exec_bind_ok hfind, if_pos rfl, exec_bind_ok hinit, exec_bind_ok hretry,
          exec_bind_ok hrefresh]
        exact hreport
      show (exec initPreop c).2.model.slaves = _
      rw [hrun, hslaves]
  | requestOperational => rw [step_requestOperational_entered h hrefresh]; rfl

/-- The name of an AL state does not show the error bit. -/
theorem stateToString_shownStatus {σ : Type} (s : VirtualSlave σ) :
    stateToString (normalizeState s.shownStatus) = stateToString s.alState.toByte := by
  rw [VirtualSlave.shownStatus]
  cases s.ackRequested <;> cases s.alState <;> decide

end MasterController

open MasterController in
/-- In a session of the server, behind any frames, every command of the master that gets as far
as its last look at the slaves shows the AL state and the AL status code of each slave that
answers to its address.  The others are shown as the master knew them. -/
theorem table_showsBus {answers : Nat → BusCall → BusAnswer} (commands : List MasterCommand)
    {command : MasterCommand} {c₁ : MasterController}
    (hprepare : exec command.prepare (run step (create answers) commands) = (.ok true, c₁))
    (n : Nat) (image : Cells UInt8 16384) (frames : List (List Datagram))
    (hserved : c₁.ServedBy ((Bus.fresh n image).serveFrames frames).1) :
    ((run step (create answers) commands).step command).model.slaves =
      c₁.slaves.map fun slave =>
        match ((Bus.fresh n image).serveFrames frames).1.answering slave.address with
        | some s =>
          { address := slave.address.toNat
            state := stateToString s.alState.toByte
            alCode := formatAlStatusCode s.alStatusCode }
        | none => makeRow slave := by
  have hshown := Bus.serveFrames_shown (Bus.fresh_shown n image) frames
  have hstep : ∀ (c : MasterController) command, c.Linked → (c.step command).Linked :=
    fun _ command hc => step_linked hc command
  have hcreated : (create answers).Linked := fun hbus => absurd hbus Bool.false_ne_true
  have hlinked : (run step (create answers) commands).Linked :=
    run_preserved hstep hcreated commands
  have hlinks := prepare_links hlinked hprepare
  simp only [links, Prod.mk.injEq] at hlinks
  obtain ⟨m, hrefresh⟩ := exec_refreshSlaveAlStatus hserved hshown hlinks.1 hlinks.2
  rw [step_slaves_of_prepare hprepare hrefresh, snapshotSlaves]
  simp only [hlinks.1, if_true, List.map_map]
  apply List.map_congr_left
  intro slave _
  rw [Function.comp_apply, Bus.refreshed]
  cases (((Bus.fresh n image).serveFrames frames).1.answering slave.address) with
  | none => rfl
  | some s =>
    simp only [makeRow]
    rw [stateToString_shownStatus]

/-- The bus of one slave that has been asked for PRE_OP, behind some register reads. -/
def preOpBus (k : Nat) : Bus El1258 :=
  (fun b : Bus El1258 => b.afterRegister 1 0x0130)^[k]
    ((Bus.fresh 1 (Cells.fill 0)).serveFrames [[alRequest 2]]).1

/-- A bus on which the master finds this slave, and another one that does not answer, in its
first round.  The register reads come behind five other calls. -/
def preOpAnswers (n : Nat) : BusCall → BusAnswer
  | .detectSlaves => { detected := 2, slaves := [⟨1, 0, 0⟩, ⟨7, 0x14, 0x1B⟩] }
  | .sendGetRegister addr reg =>
    let d := ((preOpBus (n - 5)).interpret (getRegister addr reg)).2
    if d.wkc = 1 then { register := le16 (d.data.getD 0 0) (d.data.getD 1 0) }
    else { thrown := some "Error while trying to get slave register." }
  | _ => { slaves := [⟨1, 0, 0⟩, ⟨7, 0x14, 0x1B⟩] }

/-- The master behind its search. -/
def preOpFound : MasterController where
  model := { detectedSlaves := 2 }
  hasLink := true
  hasBus := true
  slaves := [⟨1, 0, 0⟩, ⟨7, 0x14, 0x1B⟩]
  calls := 5
  answers := preOpAnswers

open MasterController in
/-- The slave is shown in PRE_OP.  The other one is shown as the master knew it. -/
theorem table_showsBus_preOp :
    ((create preOpAnswers).step .scan).model.slaves =
      [{ address := 1, state := "PRE_OP", alCode := "0x0000" },
        { address := 7, state := "SAFE_OP", alCode := "0x001B" }] := by
  have hprepare : exec (MasterCommand.prepare .scan) (run step (create preOpAnswers) []) =
      (.ok true, preOpFound) := rfl
  have hserved : preOpFound.ServedBy
      ((Bus.fresh 1 (Cells.fill 0)).serveFrames [[alRequest 2]]).1 := by
    refine ⟨preOpBus, rfl, fun k => ⟨⟨1, 0x0130, ?_⟩, fun addr reg => ?_⟩⟩
    · exact Function.iterate_succ_apply' _ k _
    · show (preOpAnswers (5 + k) (.sendGetRegister addr reg)).ReadsBack _
      rw [preOpAnswers, Nat.add_sub_cancel_left, BusAnswer.ReadsBack]
      split <;> simp_all
  have htable := table_showsBus [] hprepare 1 (Cells.fill 0) [[alRequest 2]] hserved
  rw [run_nil] at htable
  rw [htable]
  decide +kernel

end EthercatSim

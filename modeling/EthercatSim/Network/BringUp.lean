import EthercatSim.Network.Delivery
import EthercatSim.VirtualSlave.AlStatus

/-!
# Bringing all slaves to an AL state

A master asks all slaves for a state with one broadcast at AL_CONTROL.  Later it polls
AL_STATUS of each slave by its station address.  In between it may send other frames, as
long as they do not write over the status registers or the addresses.

* `write_alRequest`: what the request does to one slave that is below the state.
* `run_shows`: the other calls leave AL_STATUS alone.
* `processFrame_polls`: every poll reads the AL_STATUS of its own slave.
* `bringUp`: the request is acknowledged by all slaves, and the polls tell which of them
  arrived.
-/

namespace EthercatSim

open Kickcat Bytes NetworkSimulator StepRun

variable {σ : Type}

/-! ## The datagrams -/

/-- The broadcast of a control word. -/
def alRequest (ctrl : UInt16) : Datagram where
  command := .BWR
  address := le32 0 0x0120
  data := [loByte ctrl, hiByte ctrl]
  wkc := 0

/-- The poll of the slave with the station address `addr`. -/
def alPoll (addr : UInt16) : Datagram where
  command := .FPRD
  address := le32 addr 0x0130
  data := [0, 0]
  wkc := 0

/-- The poll as it comes back with the status `status`. -/
def alAnswer (addr : UInt16) (status : UInt8) : Datagram :=
  { alPoll addr with data := [status, 0], wkc := 1 }

/-- A call that writes neither AL_CONTROL, nor STATION_ADDR, nor over the registers that
show the AL state. -/
def SlaveOp.KeepsAl : SlaveOp → Prop
  | .read _ _ => True
  | .write reg src => reg ≠ 0x0010 ∧ reg ≠ 0x0120 ∧ (SlaveOp.write reg src).SparesStatus
  | .routine => True
  | _ => False

/-- A datagram that makes no other calls. -/
def Datagram.KeepsAl (d : Datagram) : Prop :=
  d.WritesSlaves → (SlaveOp.write (extractAddress d.address).2 d.data).KeepsAl

namespace VirtualSlave

/-! ## One slave -/

/-- What AL_STATUS shows of a slave that was below the state `r` when it was asked for it. -/
def requestedStatus (s : VirtualSlave σ) (r : State) : UInt8 :=
  if s.inputPdoMapped = true ∨ r = .PRE_OP then r.toByte
  else (higher s.alState .PRE_OP).toByte ||| State.ACK.toByte

/-- `s` has the address of `s₀` and is online, and AL_STATUS shows its AL state, which reads
as `status`. -/
structure Shows (s₀ : VirtualSlave σ) (status : UInt8) (s : VirtualSlave σ) : Prop where
  mirrored : s.StatusMirrored
  alStatus : s.regs.get Reg.AL_STATUS = status
  address : s.address = s₀.address
  online : s.online = true

theorem MailboxStep.statusMembers_eq {s s' : VirtualSlave σ} (h : MailboxStep s s') :
    s'.statusMembers = s.statusMembers := by
  have hframe := congrArg statusMembers (h.frame s.device)
  exact hframe

/-- A control word is decoded as it was sent. -/
theorem alTarget_alRequest (s : VirtualSlave σ) (ctrl : UInt16) :
    s.alTarget [loByte ctrl, hiByte ctrl] = some (decodeControlState ctrl) := by
  have hword : (s.controlWritten [loByte ctrl, hiByte ctrl]).regs.word Reg.AL_CONTROL = ctrl := by
    have hstored := @Cells.word_store _ s.regs Reg.AL_CONTROL 0 [loByte ctrl, hiByte ctrl]
      (Nat.le_refl 2) (by decide)
    exact hstored.trans (le16_loByte_hiByte ctrl)
  have hfits : Reg.AL_CONTROL + 2 ≤ 4096 := by decide
  rw [alTarget, if_pos ⟨Nat.le_succ 1, hfits⟩, hword]

section Request

variable [SlaveDevice σ]

/-- The request, of a slave below the state. -/
theorem write_alRequest {s : VirtualSlave σ} (hs : OnLadder s.alState) (honline : s.online = true)
    {ctrl : UInt16} (hlt : stateRank s.alState < stateRank (decodeControlState ctrl)) :
    (s.write 0x0120 [loByte ctrl, hiByte ctrl]).1 = true ∧
      Shows s (s.requestedStatus (decodeControlState ctrl))
        (s.write 0x0120 [loByte ctrl, hiByte ctrl]).2 := by
  have htarget := s.alTarget_alRequest ctrl
  have hclimbs := write_climbs hs htarget hlt
  obtain ⟨ctrl', hdecode, -, hwrite⟩ := write_alControl htarget
  have hmirrored : (s.write 0x0120 [loByte ctrl, hiByte ctrl]).2.StatusMirrored := by
    obtain ⟨t, ht, hsynced⟩ := changeState_synced
      ((s.controlWritten [loByte ctrl, hiByte ctrl]).acknowledged ctrl') (decodeControlState ctrl')
    rw [hwrite, handleAlControlWrite_of_lt (by rw [hdecode]; exact hlt), hsynced]
    exact syncCoreRegisters_statusMirrored ht
  refine ⟨congrArg Prod.fst hwrite, hmirrored, ?_, s.write_address _ (by decide),
    (s.write_online 0x0120 _).trans honline⟩
  rw [hmirrored.alStatus, requestedStatus]
  by_cases hmet : s.inputPdoMapped = true ∨ decodeControlState ctrl = .PRE_OP
  · obtain ⟨hstate, -, hack, -⟩ := hclimbs.reaches hmet
    rw [if_pos hmet, hstate, hack]
    rfl
  · obtain ⟨hstate, -, hack, -⟩ := hclimbs.stops hmet
    rw [if_neg hmet, hstate, hack]
    rfl

/-- The other calls leave the members alone that AL_STATUS shows. -/
theorem step_statusMembers (s : VirtualSlave σ) {op : SlaveOp} (hop : op.KeepsAl) :
    (s.step op).statusMembers = s.statusMembers := by
  cases op with
  | read reg dst =>
    show (s.read reg dst).2.2.statusMembers = _
    have hbranch := s.read_branch reg dst
    generalize s.read reg dst = out at hbranch
    cases hbranch <;> rfl
  | write reg src =>
    obtain ⟨-, hcontrol, -⟩ := hop
    show (s.write reg src).2.statusMembers = _
    have hbranch := s.write_branch reg src
    generalize s.write reg src = out at hbranch
    cases hbranch with
    | eeprom addr hreg hlen => rfl
    | esc hesc =>
      rw [escWriteHooks_of_ne _ fun h => hcontrol (UInt16.toNat_inj.mp h.1)]
      rfl
    | mailbox hreg hsize hwin =>
      exact (handleMailboxWrite_mailboxStep _).statusMembers_eq
    | syncManager hreg hsize hwin hsm =>
      have hframe := congrArg statusMembers (parseSyncManagers_outsideWindows s reg.toNat 0 src)
      exact hframe
    | rejected hreg hsize hwin hsm => rfl
  | routine =>
    show s.routine.statusMembers = _
    rw [routine]
    split <;> rfl
  | setOnline on => exact absurd hop id
  | setALState st => exact absurd hop id
  | setInputPDOMapped v => exact absurd hop id
  | start => exact absurd hop id

/-- One call that keeps the AL state. -/
theorem Shows.step {s₀ s : VirtualSlave σ} {status : UInt8} (h : Shows s₀ status s) {op : SlaveOp}
    (hop : op.KeepsAl) : Shows s₀ status (s.step op) := by
  have hserved : op.IsServed := by
    cases op <;> trivial
  have hspares : op.SparesStatus := by
    cases op with
    | write reg src => exact hop.2.2
    | _ => trivial
  have hmirrored := step_statusMirrored h.mirrored hspares
  have hmembers := s.step_statusMembers hop
  simp only [statusMembers, Prod.mk.injEq] at hmembers
  obtain ⟨hstate, hack, -, -⟩ := hmembers
  refine ⟨hmirrored, ?_, ?_, (hserved.step_online s).trans h.online⟩
  · rw [hmirrored.alStatus, hstate, hack, ← h.mirrored.alStatus]
    exact h.alStatus
  · rw [← h.address]
    cases op with
    | read reg dst => exact s.read_address reg dst
    | write reg src => exact s.write_address src hop.1
    | routine =>
      show s.routine.address = _
      rw [routine]
      split <;> rfl
    | _ => exact absurd hop id

/-- A run of them. -/
theorem run_shows {s₀ s : VirtualSlave σ} {status : UInt8} (h : Shows s₀ status s)
    {ops : List SlaveOp} (hops : ∀ op ∈ ops, op.KeepsAl) :
    Shows s₀ status (run VirtualSlave.step s ops) :=
  run_invariant (fun _ _ h hop => h.step hop) h hops

end Request

/-- A poll reads two bytes and changes nothing. -/
theorem Shows.read {s₀ s : VirtualSlave σ} {status : UInt8} (h : Shows s₀ status s) :
    s.read 0x0130 [0, 0] = (true, [status, 0], s) := by
  have hload : s.regs.load Reg.AL_STATUS 2 = [status, 0] := by
    rw [Cells.load_succ, Cells.load_succ, h.alStatus, h.mirrored.alStatusHigh]
    rfl
  rw [VirtualSlave.read, if_neg (by decide), if_pos (by decide)]
  show (true, s.regs.load Reg.AL_STATUS 2, s) = _
  rw [hload]

end VirtualSlave

/-! ## The bus -/

namespace Bus

open VirtualSlave

section Request

variable [SlaveDevice σ] {b : Bus σ}

omit [SlaveDevice σ] in
/-- All slaves are online, so a broadcast goes to all of them. -/
theorem online_eq_length (h : ∀ s ∈ b.slaves, s.online = true) :
    b.online = b.slaves.length :=
  List.countP_eq_length.mpr h

/-- The request is acknowledged by every slave. -/
theorem processFrame_alRequest (honline : ∀ s ∈ b.slaves, s.online = true)
    (hladder : ∀ s ∈ b.slaves, OnLadder s.alState) {ctrl : UInt16}
    (hbelow : ∀ s ∈ b.slaves, stateRank s.alState < stateRank (decodeControlState ctrl)) :
    (b.processFrame [alRequest ctrl]).2 =
      [{ alRequest ctrl with wkc := castUInt16 b.slaves.length }] := by
  have hcount : b.slaves.countP
      (fun s => s.online && (s.write 0x0120 [loByte ctrl, hiByte ctrl]).1) = b.slaves.length := by
    apply List.countP_eq_length.mpr
    intro s hs
    have hwrite := write_alRequest (hladder s hs) (honline s hs) (hbelow s hs)
    rw [honline s hs, hwrite.1]
    rfl
  have hwkc : (b.broadcast 0x0120 [loByte ctrl, hiByte ctrl]).1 = castUInt16 b.slaves.length := by
    show castUInt16 ((b.slaves.take b.online).countP _) = _
    rw [online_eq_length honline, List.take_length, hcount]
  have haddress : (extractAddress (le32 0 0x0120)).2 = 0x0120 := by decide
  show [{ alRequest ctrl with
    wkc := (b.broadcast (extractAddress (le32 0 0x0120)).2 [loByte ctrl, hiByte ctrl]).1 }] = _
  rw [haddress, hwkc]

omit [SlaveDevice σ] in
/-- Every slave gets the request. -/
theorem delivered_alRequest (honline : ∀ s ∈ b.slaves, s.online = true) (ctrl : UInt16) {i : Nat}
    (hi : i < b.slaves.length) :
    b.delivered (alRequest ctrl) i = [.write 0x0120 [loByte ctrl, hiByte ctrl]] := by
  have haddress : (extractAddress (alRequest ctrl).address).2 = 0x0120 := by
    show (extractAddress (le32 0 0x0120)).2 = 0x0120
    decide
  have hat : b.onlineAt i = true := by
    rw [onlineAt, List.getElem?_eq_getElem hi]
    exact honline _ (List.getElem_mem hi)
  rw [delivered]
  show (if ((alRequest ctrl).command = .BWR ∨ (alRequest ctrl).command = .BRW) ∧ i < b.online ∧
    b.onlineAt i = true then _ else _) = _
  rw [if_pos ⟨.inl rfl, by rw [online_eq_length honline]; exact hi, hat⟩, haddress]
  rfl

/-- Behind the request, and the frames that follow it, every slave shows what came of it. -/
theorem serveFrames_alRequest (honline : ∀ s ∈ b.slaves, s.online = true)
    (hladder : ∀ s ∈ b.slaves, OnLadder s.alState) {ctrl : UInt16}
    (hbelow : ∀ s ∈ b.slaves, stateRank s.alState < stateRank (decodeControlState ctrl))
    {frames : List (List Datagram)} (hframes : ∀ frame ∈ frames, ∀ d ∈ frame, d.KeepsAl) (i : Nat) :
    Option.Rel (fun s s' => Shows s (s.requestedStatus (decodeControlState ctrl)) s')
      b.slaves[i]? (b.serveFrames ([alRequest ctrl] :: frames)).1.slaves[i]? := by
  rw [serveFrames_slaves]
  cases hslave : b.slaves[i]? with
  | none => exact .none
  | some s =>
    obtain ⟨hi, rfl⟩ := List.getElem?_eq_some_iff.mp hslave
    have hmem := List.getElem_mem hi
    have hwritten := write_alRequest (hladder _ hmem) (honline _ hmem) (hbelow _ hmem)
    have hdelivered : b.deliveredFrames ([alRequest ctrl] :: frames) i =
        .write 0x0120 [loByte ctrl, hiByte ctrl] ::
          ((if (b.processFrame [alRequest ctrl]).1.onlineAt i then [.routine] else []) ++
            (b.processFrame [alRequest ctrl]).1.runOnce.deliveredFrames frames i) := by
      rw [deliveredFrames, deliveredFrame, delivered_alRequest honline ctrl hi]
      rfl
    have hkeeps : ∀ frame ∈ frames, ∀ d ∈ frame, ∀ (b : Bus σ) (i : Nat),
        ∀ op ∈ b.delivered d i, op.KeepsAl := by
      intro frame hframe d hd b i op hop
      rcases b.delivered_branch d i with h | ⟨-, h⟩ | ⟨hwrites, h⟩ <;> rw [h] at hop
      · cases hop
      · obtain rfl := List.mem_singleton.mp hop
        trivial
      · obtain rfl := List.mem_singleton.mp hop
        exact hframes frame hframe d hd hwrites
    refine .some ?_
    rw [hdelivered]
    refine run_shows hwritten.2 fun op hop => ?_
    rcases List.mem_append.mp hop with hroutine | hrest
    · split at hroutine
      · obtain rfl := List.mem_singleton.mp hroutine
        trivial
      · cases hroutine
    · exact deliveredFrames_forall trivial hkeeps _ i op hrest

end Request

/-! ## The polls -/

/-- With different addresses the first online slave with the address of an online slave is
that slave. -/
theorem position_readStation {b : Bus σ} (hdistinct : (b.slaves.map VirtualSlave.address).Nodup)
    {i : Nat} {s : VirtualSlave σ} (hslave : b.slaves[i]? = some s) (honline : s.online = true)
    (reg : UInt16) (out : List UInt8) : b.position (.readStation s.address reg out) = some i := by
  obtain ⟨hi, rfl⟩ := List.getElem?_eq_some_iff.mp hslave
  show b.slaves.findIdx? _ = some i
  rw [List.findIdx?_eq_some_iff_getElem]
  refine ⟨hi, by simp [honline], ?_⟩
  intro j hj hanswers
  have hj' : j < b.slaves.length := by omega
  have haddress : b.slaves[j].address = b.slaves[i].address := by
    have hboth : b.slaves[j].online = true ∧ b.slaves[j].address = b.slaves[i].address := by
      simpa using hanswers
    exact hboth.2
  have hindex : j = i := by
    have hget : (b.slaves.map VirtualSlave.address).get ⟨j, by rwa [List.length_map]⟩ =
        (b.slaves.map VirtualSlave.address).get ⟨i, by rwa [List.length_map]⟩ := by
      rw [List.get_eq_getElem, List.get_eq_getElem, List.getElem_map, List.getElem_map, haddress]
    exact congrArg Fin.val (hdistinct.get_inj_iff.mp hget)
  omega

/-- A poll comes back with the AL_STATUS of its slave. -/
theorem interpret_alPoll [SlaveDevice σ] {b : Bus σ}
    (hdistinct : (b.slaves.map VirtualSlave.address).Nodup) {s₀ s : VirtualSlave σ} {status : UInt8}
    (hmem : s ∈ b.slaves) (hshows : Shows s₀ status s) :
    b.interpret (alPoll s.address) = (b, alAnswer s.address status) := by
  obtain ⟨i, hslave⟩ := List.getElem?_of_mem hmem
  have haddress : extractAddress (alPoll s.address).address = (s.address, 0x0130) := by
    show (loWord (le32 s.address 0x0130), hiWord (le32 s.address 0x0130)) = _
    rw [loWord_le32, hiWord_le32]
  have haccess : (alPoll s.address).access = some (.readStation s.address 0x0130 [0, 0]) := by
    show some (BusAccess.readStation (extractAddress (alPoll s.address).address).1
      (extractAddress (alPoll s.address).address).2 [0, 0]) = _
    rw [haddress]
  have hposition := position_readStation hdistinct hslave hshows.online 0x0130 [0, 0]
  have honSlave : (BusAccess.readStation s.address 0x0130 [0, 0]).onSlave s =
      (true, [status, 0], s) := hshows.read
  have hset : b.slaves.set i s = b.slaves := by
    obtain ⟨hi, rfl⟩ := List.getElem?_eq_some_iff.mp hslave
    exact List.set_getElem_self hi
  rw [interpret, haccess]
  simp only [perform_of_position hposition hslave, honSlave, hset]
  rfl

/-- The polls of some of the slaves, in one frame. -/
theorem processFrame_polls [SlaveDevice σ] {b : Bus σ}
    (hdistinct : (b.slaves.map VirtualSlave.address).Nodup) {status : VirtualSlave σ → UInt8}
    {ss : List (VirtualSlave σ)} (hss : ∀ s ∈ ss, s ∈ b.slaves ∧ ∃ s₀, Shows s₀ (status s) s) :
    b.processFrame (ss.map fun s => alPoll s.address) =
      (b, ss.map fun s => alAnswer s.address (status s)) := by
  induction ss with
  | nil => rfl
  | cons s ss ih =>
    obtain ⟨hmem, s₀, hshows⟩ := hss s List.mem_cons_self
    have hrest := ih fun s hs => hss s (List.mem_cons_of_mem _ hs)
    rw [List.map_cons, processFrame, interpret_alPoll hdistinct hmem hshows]
    simp only [hrest]
    rfl

end Bus

/-- Slaves in any states below the one that is asked for, all online and with different
station addresses.  The request is acknowledged by all of them.  After it, and any frames
that keep the AL states, the polls are acknowledged too, and each reads the state that was
asked for exactly when its slave could reach it: when it has mapped inputs, or the state is
PRE_OP.  Another slave has stopped at PRE_OP or above, and its poll has the error bit. -/
theorem bringUp [SlaveDevice σ] {sim : NetworkSimulator σ} {refs : List SlaveRef} {b : Bus σ}
    (h : Represents sim refs b) (honline : ∀ s ∈ b.slaves, s.online = true)
    (hdistinct : (b.slaves.map VirtualSlave.address).Nodup)
    (hladder : ∀ s ∈ b.slaves, VirtualSlave.OnLadder s.alState) {ctrl : UInt16}
    (hbelow : ∀ s ∈ b.slaves, VirtualSlave.stateRank s.alState <
      VirtualSlave.stateRank (VirtualSlave.decodeControlState ctrl))
    {frames : List (List Datagram)} (hframes : ∀ frame ∈ frames, ∀ d ∈ frame, d.KeepsAl) :
    ∃ sim' outs,
      SlavesEndpoint.serveFrames sim
          ([alRequest ctrl] :: frames ++ [b.slaves.map fun s => alPoll s.address]) =
        some (sim', [{ alRequest ctrl with wkc := castUInt16 b.slaves.length }] :: outs ++
          [b.slaves.map fun s =>
            alAnswer s.address (s.requestedStatus (VirtualSlave.decodeControlState ctrl))]) ∧
      outs.length = frames.length := by
  let status (s : VirtualSlave σ) := s.requestedStatus (VirtualSlave.decodeControlState ctrl)
  let after := (b.serveFrames ([alRequest ctrl] :: frames)).1
  have hshows : ∀ i : Nat, Option.Rel (fun s s' => VirtualSlave.Shows s (status s) s')
      b.slaves[i]? after.slaves[i]? := Bus.serveFrames_alRequest honline hladder hbelow hframes
  -- what is behind the request has the addresses from before it, and the requested status
  have hmap : ∀ {α : Type} (f g : VirtualSlave σ → α),
      (∀ s s', VirtualSlave.Shows s (status s) s' → f s' = g s) →
      after.slaves.map f = b.slaves.map g := by
    intro α f g hfg
    apply List.ext_getElem?
    intro i
    rw [List.getElem?_map, List.getElem?_map]
    have hi := hshows i
    generalize b.slaves[i]? = s at hi ⊢
    generalize after.slaves[i]? = s' at hi ⊢
    cases hi with
    | none => rfl
    | some hs => exact congrArg some (hfg _ _ hs)
  have hafter : ∀ s ∈ after.slaves, s ∈ after.slaves ∧
      ∃ s₀, VirtualSlave.Shows s₀ (s.regs.get Reg.AL_STATUS) s := by
    intro s hs
    obtain ⟨i, hslave⟩ := List.getElem?_of_mem hs
    have hi := hshows i
    rw [hslave] at hi
    generalize b.slaves[i]? = before at hi
    cases hi with
    | @some s₀ _ hs₀ => exact ⟨hs, s₀, hs₀.alStatus ▸ hs₀⟩
  have hdistinct' : (after.slaves.map VirtualSlave.address).Nodup := by
    rw [hmap VirtualSlave.address VirtualSlave.address fun _ _ hs => hs.address]
    exact hdistinct
  have hpolls := Bus.processFrame_polls hdistinct' hafter
  rw [hmap (fun s => alPoll s.address) (fun s => alPoll s.address)
      fun _ _ hs => congrArg alPoll hs.address,
    hmap _ (fun s => alAnswer s.address (status s))
      fun _ _ hs => congrArg₂ alAnswer hs.address hs.alStatus] at hpolls
  obtain ⟨sim', hserve, -⟩ := h.serveFrames
    ([alRequest ctrl] :: frames ++ [b.slaves.map fun s => alPoll s.address])
  refine ⟨sim', ((b.processFrame [alRequest ctrl]).1.runOnce.serveFrames frames).2, ?_, ?_⟩
  · have hlast : (after.serveFrames [b.slaves.map fun s => alPoll s.address]).2 =
        [b.slaves.map fun s => alAnswer s.address (status s)] :=
      congrArg (fun out : Bus σ × List Datagram => [out.2]) hpolls
    have hfirst := Bus.processFrame_alRequest honline hladder hbelow
    rw [hserve, Bus.serveFrames_append, hlast, ← hfirst]
    rfl
  · exact Bus.length_serveFrames _ frames

/-- Two slaves in INIT, of which the first one has mapped inputs. -/
def mappedFirst : NetworkSimulator Unit :=
  (twoSlaves true).setObject 0 (((twoSlaves true).objects 0).setInputPDOMapped true)

/-- They are asked for SAFE_OP and polled twice.  The first one arrives, the second one stops
at PRE_OP with the error bit. -/
theorem bringUp_mappedFirst :
    ∃ sim' outs,
      SlavesEndpoint.serveFrames mappedFirst
          [[alRequest 4], [alPoll 2], [alPoll 1, alPoll 2]] =
        some (sim', [{ alRequest 4 with wkc := 2 }] :: outs ++ [[alAnswer 1 4, alAnswer 2 0x12]]) ∧
      outs.length = 1 := by
  let first := ((VirtualSlave.new 1 0 0 ()).setOnline true).setInputPDOMapped true
  let b : Bus Unit := { slaves := [first, VirtualSlave.new 2 0 0 ()], image := Cells.fill 0 }
  have hrep : Represents mappedFirst [0, 1] b := ⟨rfl, by decide, rfl, rfl, rfl, rfl⟩
  have hslaves : ∀ {P : VirtualSlave Unit → Prop},
      P first → P (VirtualSlave.new 2 0 0 ()) → ∀ s ∈ b.slaves, P s := by
    intro P h₁ h₂ s hs
    rcases List.mem_cons.mp hs with rfl | hs
    · exact h₁
    · obtain rfl := List.mem_singleton.mp hs
      exact h₂
  have hframes : ∀ frame ∈ [[alPoll 2]], ∀ d ∈ frame, d.KeepsAl := by
    intro frame hframe d hd
    obtain rfl := List.mem_singleton.mp hframe
    obtain rfl := List.mem_singleton.mp hd
    intro hwrites
    simp [Datagram.WritesSlaves, alPoll] at hwrites
  have hbelow : ∀ s ∈ b.slaves, VirtualSlave.stateRank s.alState <
      VirtualSlave.stateRank (VirtualSlave.decodeControlState 4) :=
    hslaves (by decide) (by decide)
  have harrived : first.requestedStatus (VirtualSlave.decodeControlState 4) = 4 := by decide
  have hstopped : (VirtualSlave.new 2 0 0 ()).requestedStatus (VirtualSlave.decodeControlState 4) =
      0x12 := by decide
  have hanswers : (b.slaves.map fun s =>
      alAnswer s.address (s.requestedStatus (VirtualSlave.decodeControlState 4))) =
        [alAnswer 1 4, alAnswer 2 0x12] := by
    show [alAnswer 1 (first.requestedStatus _), alAnswer 2 (VirtualSlave.requestedStatus _ _)] = _
    rw [harrived, hstopped]
  rw [← hanswers]
  have hladder : ∀ s ∈ b.slaves, VirtualSlave.OnLadder s.alState :=
    hslaves (VirtualSlave.new_onLadder 1 0 0 ()) (VirtualSlave.new_onLadder 2 0 0 ())
  exact bringUp hrep (hslaves rfl rfl) (by decide) hladder hbelow hframes

end EthercatSim

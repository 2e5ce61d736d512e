import EthercatSim.Network.Delivery
import EthercatSim.Transport.HandleClient
import EthercatSim.VirtualSlave.AlLadder

/-!
# Clients one after the other

The server keeps one simulator for all its clients.  At the start of a session
`handleClient_` replaces the slaves, but not the rest.

* `prepare_represents`: the simulator holds a fresh bus of started slaves, with the
  process image that the client before left.
* `handleClient_refines_bus`: the bytes that a session writes carry the datagrams that
  this bus answers.
* `SameBus`: two simulators that hold the same bus.  A frame and the routines keep it, and
  `replies_of_sameBus` says that their clients get the same bytes.
* `handleClient_of_image_eq`: what a session writes depends on the sessions before it by
  the process image only.
* `Serving.forall_slaves`: what holds of a fresh slave, and is kept by reads, writes and
  routines, holds of every slave of the server.  `serving_alLadder` is the AL state.
-/

namespace EthercatSim

open Kickcat NetworkSimulator References SlavesEndpoint StepRun

/-! ## A fresh bus -/

/-- The slave that `handleClient_` makes in round `i`. -/
def El1258Slave.ofIndex (i : Nat) : El1258Slave :=
  El1258Slave.new (castUInt16 (1 + i)) El1258.VENDOR_ID El1258.PRODUCT_CODE

/-- `n` slaves that have been started. -/
def Bus.fresh (n : Nat) (image : Cells UInt8 16384) : Bus El1258 where
  slaves := (List.range n).map fun i => (El1258Slave.ofIndex i).start
  image

/-- The loop at the start of `handleClient_`. -/
def addSlaves (n : Nat) (sim : NetworkSimulator El1258) : NetworkSimulator El1258 :=
  (List.range n).foldl
    (fun sim i =>
      let (ref, sim) := sim.makeShared (El1258Slave.ofIndex i)
      sim.addVirtualSlave (some ref))
    sim.clearSlaves

/-- Every round makes an object behind a new reference. -/
theorem addSlaves_eq (n : Nat) (sim : NetworkSimulator El1258) :
    ∃ objects, addSlaves n sim =
        { sim with
          slaves := (List.range' sim.nextRef n).map some
          virtualSlaveCount := ((List.range' sim.nextRef n).map some).length
          nextRef := sim.nextRef + n
          objects } ∧
      values objects (List.range' sim.nextRef n) = (List.range n).map El1258Slave.ofIndex := by
  induction n with
  | zero => exact ⟨sim.objects, rfl, rfl⟩
  | succ n ih =>
    obtain ⟨objects, hadded, hvalues⟩ := ih
    refine ⟨assign objects (sim.nextRef + n) (El1258Slave.ofIndex n), ?_, ?_⟩
    · have hround : addSlaves (n + 1) sim =
          ((addSlaves n sim).makeShared (El1258Slave.ofIndex n)).2.addVirtualSlave
            (some (addSlaves n sim).nextRef) := by
        rw [addSlaves, List.range_succ, List.foldl_append]
        rfl
      rw [hround, hadded, List.range'_1_concat, List.map_append]
      rfl
    · rw [List.range'_1_concat, values, List.map_append, List.range_succ, List.map_append,
        ← hvalues, values]
      congr 1
      · apply List.map_congr_left
        intro ref href
        exact assign_of_ne (Nat.ne_of_lt (List.mem_range'_1.mp href).2) _
      · rw [List.map_singleton, assign_self]
        rfl

/-- A session starts with the slaves of a fresh bus and the process image of the session
before. -/
theorem prepare_represents (n : Nat) {sim : NetworkSimulator El1258} (h : sim.inputMaps = []) :
    Represents (prepare n sim) (List.range' sim.nextRef n) (Bus.fresh n sim.logical) := by
  obtain ⟨objects, hadded, hvalues⟩ := addSlaves_eq n sim
  have hstart := @foldl_slots El1258 VirtualSlave.start
    (fun sim ref => sim.setObject ref (sim.objects ref).start) (fun _ _ => rfl)
    (List.range' sim.nextRef n) (addSlaves n sim)
  have hprepare : prepare n sim = { addSlaves n sim with
      objects := updateEach VirtualSlave.start (List.range' sim.nextRef n) (addSlaves n sim).objects
      linkUp := true } := by
    show (startAllSlaves (addSlaves n sim)).setLinkUp true = _
    have hslaves : (addSlaves n sim).slaves = (List.range' sim.nextRef n).map some := by rw [hadded]
    rw [startAllSlaves, hslaves]
    exact congrArg (fun sim => setLinkUp sim true) hstart
  rw [hprepare, hadded]
  refine ⟨rfl, List.nodup_range', rfl, h, ?_, rfl⟩
  show values _ (List.range' sim.nextRef n) = (List.range n).map _
  rw [values_updateEach _ List.nodup_range', hvalues, List.map_map]
  rfl

/-! ## Messages that carry datagrams -/

section Carries

variable {σ : Type} [SlaveDevice σ] {sim : NetworkSimulator σ} {refs : List SlaveRef} {b : Bus σ}

/-- A message is answered with the datagrams that come back from the bus. -/
theorem Represents.answer_of_carries (h : Represents sim refs b) {m : Message}
    {ds : List Datagram} (hm : m.Carries ds) (rest : FrameBuffer) {rounds : Nat}
    (hrounds : 1520 ≤ rounds) :
    ∃ sim' out, answer (.ofBuffer rest) rounds sim m.bytes = some (sim', out.bytes) ∧
      out.bytes.length = m.bytes.length ∧ Message.Carries out (b.processFrame ds).2 ∧
      Represents sim' refs (b.processFrame ds).1.runOnce := by
  obtain ⟨out, hprocess, hlength, hcarries⟩ := processMessage_of_carries hm sim rest
  obtain ⟨hds, hprocessed⟩ := h.processFrame ds
  obtain ⟨sim', hrun, hran⟩ := hprocessed.runOnce
  refine ⟨sim', out, ?_, hlength, hds ▸ hcarries, hran⟩
  rw [answer, processFrameWith_ofBuffer rest hrounds, hprocess]
  simp only [hrun]

/-- So are all messages of a session. -/
theorem Represents.replies_of_carries (h : Represents sim refs b) (rests : Nat → FrameBuffer)
    {rounds : Nat} (hrounds : 1520 ≤ rounds) {ms : List Message} {frames : List (List Datagram)}
    (hms : List.Forall₂ Message.Carries ms frames) (k : Nat) :
    ∃ outs : List Message, replies (fun k => .ofBuffer (rests k)) rounds k sim ms =
        (MasterSocket.stream (outs.map Message.bytes), .closed) ∧
      List.Forall₂ Message.Carries outs (b.serveFrames frames).2 := by
  induction hms generalizing sim b k with
  | nil => exact ⟨[], rfl, .nil⟩
  | @cons m ds ms frames hm _ ih =>
    obtain ⟨sim', out, hanswer, hlength, hcarries, hrep⟩ :=
      h.answer_of_carries hm (rests k) hrounds
    obtain ⟨outs, hreplies, houts⟩ := ih hrep (k + 1)
    refine ⟨out :: outs, ?_, .cons hcarries houts⟩
    rw [replies, hanswer]
    simp only [hreplies]
    rw [List.map_cons, MasterSocket.stream_cons, hlength, List.append_assoc]

/-- A message that is answered carries datagrams, inside the buffer if not inside the
message. -/
theorem Represents.serve (h : Represents sim refs b) {sim' : NetworkSimulator σ}
    {rest : FrameBuffer} {reply : List UInt8} {w w' : Wire UInt8}
    (hserve : SlavesEndpoint.serve rest sim w = .answered sim' reply w') :
    ∃ ds, Represents sim' refs (b.processFrame ds).1.runOnce := by
  rw [SlavesEndpoint.serve] at hserve
  split at hserve
  · cases hserve
  simp only [] at hserve
  split at hserve
  · cases hserve
  split at hserve
  · cases hserve
  rename_i buf _ _
  rcases hprocess : processMessage sim rest buf with _ | ⟨sim₁, out⟩
  · rw [hprocess] at hserve
    cases hserve
  · have hchain : ChainFits (frameBuffer rest buf) 16 := by
      rw [← isSome_processMessage sim, hprocess]
      rfl
    obtain ⟨ds, hds⟩ := hchain
    obtain ⟨out', hprocess', -⟩ := processMessage_of_chain hds sim
    obtain ⟨rfl, -⟩ := Prod.mk.inj (Option.some.inj (hprocess.symm.trans hprocess'))
    obtain ⟨sim₂, hrun, hran⟩ := (h.processFrame ds).2.runOnce
    rw [hprocess] at hserve
    simp only [hrun] at hserve
    injection hserve with hsim
    exact ⟨ds, hsim ▸ hran⟩

end Carries

/-! ## Two simulators with one bus -/

section SameBus

variable {σ : Type} [SlaveDevice σ]

/-- Both simulators hold the same bus, each behind references of its own. -/
def SameBus (sim sim' : NetworkSimulator σ) : Prop :=
  ∃ refs refs' b, Represents sim refs b ∧ Represents sim' refs' b

variable {sim sim' : NetworkSimulator σ}

theorem SameBus.interpret (h : SameBus sim sim') (d : Datagram) :
    (SlavesEndpoint.interpret sim d).2 = (SlavesEndpoint.interpret sim' d).2 ∧
      SameBus (SlavesEndpoint.interpret sim d).1 (SlavesEndpoint.interpret sim' d).1 := by
  obtain ⟨refs, refs', b, hrep, hrep'⟩ := h
  obtain ⟨hd, hstep⟩ := hrep.interpret d
  obtain ⟨hd', hstep'⟩ := hrep'.interpret d
  exact ⟨hd.trans hd'.symm, refs, refs', _, hstep, hstep'⟩

/-- The same frame object, whatever the class is, with simulators that hold the same bus. -/
theorem SameBus.processFrameWith (h : SameBus sim sim') (K : KickcatFrame) (rounds : Nat)
    (bytes : List UInt8) :
    Option.Rel (fun out out' => out.2 = out'.2 ∧ SameBus out.1 out'.1)
      (SlavesEndpoint.processFrameWith K rounds sim bytes)
      (SlavesEndpoint.processFrameWith K rounds sim' bytes) := by
  have hbody : ∀ s s' : PeekState K σ, SameBus s.sim s'.sim ∧ s.frame = s'.frame →
      (processPeeked K s).2 = (processPeeked K s').2 ∧
        SameBus (processPeeked K s).1.sim (processPeeked K s').1.sim ∧
        (processPeeked K s).1.frame = (processPeeked K s').1.frame := by
    intro s s' hs
    obtain ⟨hsims, hframes⟩ := hs
    rw [processPeeked, processPeeked, ← hframes]
    rcases K.peekDatagram s.frame with _ | ⟨_ | d, frame⟩
    · exact ⟨rfl, hsims, hframes⟩
    · exact ⟨rfl, hsims, rfl⟩
    · obtain ⟨hd, hstep⟩ := hsims.interpret d
      exact ⟨rfl, hstep, congrArg (K.store frame) hd⟩
  have hloop := @FuelLoop.loop_related _ _ _ _ _ _ hbody { sim, frame := openFrame K bytes }
    { sim := sim', frame := openFrame K bytes } ⟨h, rfl⟩ rounds
  rw [SlavesEndpoint.processFrameWith, SlavesEndpoint.processFrameWith]
  generalize FuelLoop.loop (processPeeked K) rounds { sim, frame := openFrame K bytes } = out
    at hloop ⊢
  generalize FuelLoop.loop (processPeeked K) rounds { sim := sim', frame := openFrame K bytes } =
    out' at hloop ⊢
  cases hloop with
  | none => exact .none
  | @some out out' hout =>
    obtain ⟨s, inside⟩ := out
    obtain ⟨s', inside'⟩ := out'
    obtain ⟨hinside, hsims, hframes⟩ := hout
    obtain rfl : inside = inside' := hinside
    cases inside with
    | false => exact .none
    | true =>
      refine .some ⟨?_, hsims⟩
      show (List.range bytes.length).map (K.data s.frame) = _
      rw [hframes]

/-- A message is answered with the same bytes, and the simulators still hold one bus. -/
theorem SameBus.answer (h : SameBus sim sim') (K : KickcatFrame) (rounds : Nat)
    (buf : List UInt8) :
    Option.Rel (fun out out' => out.2 = out'.2 ∧ SameBus out.1 out'.1)
      (SlavesEndpoint.answer K rounds sim buf) (SlavesEndpoint.answer K rounds sim' buf) := by
  have hprocess := h.processFrameWith K rounds buf
  rw [SlavesEndpoint.answer, SlavesEndpoint.answer]
  generalize SlavesEndpoint.processFrameWith K rounds sim buf = out at hprocess ⊢
  generalize SlavesEndpoint.processFrameWith K rounds sim' buf = out' at hprocess ⊢
  cases hprocess with
  | none => exact .none
  | @some out out' hout =>
    obtain ⟨hbytes, refs, refs', b, hrep, hrep'⟩ := hout
    obtain ⟨ran, hrun, hran⟩ := hrep.runOnce
    obtain ⟨ran', hrun', hran'⟩ := hrep'.runOnce
    simp only [hrun, hrun']
    exact .some ⟨hbytes, refs, refs', _, hran, hran'⟩

/-- All messages of a session. -/
theorem replies_of_sameBus (frames : Nat → KickcatFrame) (rounds : Nat) (ms : List Message)
    (k : Nat) (h : SameBus sim sim') :
    replies frames rounds k sim ms = replies frames rounds k sim' ms := by
  induction ms generalizing k sim sim' with
  | nil => rfl
  | cons m ms ih =>
    have hanswer := h.answer (frames k) rounds m.bytes
    rw [replies, replies]
    generalize SlavesEndpoint.answer (frames k) rounds sim m.bytes = out at hanswer ⊢
    generalize SlavesEndpoint.answer (frames k) rounds sim' m.bytes = out' at hanswer ⊢
    cases hanswer with
    | none => rfl
    | @some out out' hout =>
      obtain ⟨hreply, hsims⟩ := hout
      simp only [hreply, ih (k + 1) hsims]

end SameBus

/-! ## Sessions -/

namespace SlavesEndpoint

/-- In every state of the server, a session that begins with messages which carry
datagrams: however its bytes are cut on the way, what the server writes is one message for
each of them, with the datagrams as a fresh bus with the process image answers them. -/
theorem handleClient_refines_bus {sim : NetworkSimulator El1258} (h : Serving sim)
    (rests : Nat → FrameBuffer) {rounds : Nat} (hrounds : 1520 ≤ rounds) (room : List Nat)
    (n : Nat) {w : Wire UInt8} {ms : List Message} {frames : List (List Datagram)}
    (hw : MaximalPrefix w.flatten ms) (hms : List.Forall₂ Message.Carries ms frames) :
    ∃ outs : List Message,
      handleClient (fun k => .ofBuffer (rests k)) rounds room n sim w =
        some (MasterSocket.stream (outs.map Message.bytes), .closed) ∧
      List.Forall₂ Message.Carries outs ((Bus.fresh n sim.logical).serveFrames frames).2 := by
  obtain ⟨outs, hreplies, houts⟩ :=
    (prepare_represents n h.inputMaps_eq).replies_of_carries rests hrounds hms 0
  refine ⟨outs, ?_, houts⟩
  rw [handleClient_of_maximalPrefix _ rounds room n sim hw, hreplies]

/-- A BRD without data. -/
def countMessage : Message where
  bytes := List.replicate 16 0 ++ [7, 0, 0, 0, 0, 0, 0, 0, 0, 0, 0, 0]
  nonempty := by decide
  short := by decide

/-- Three slaves are counted. -/
theorem handleClient_refines_bus_count :
    ∃ outs : List Message,
      handleClient (fun _ => .ofBuffer (Cells.fill 0)) 1520 [] 3 oneSlaveServer
          [MasterSocket.write countMessage.bytes] =
        some (MasterSocket.stream (outs.map Message.bytes), .closed) ∧
      List.Forall₂ Message.Carries outs
        [[{ command := .BRD, address := 0, data := [], wkc := 3 }]] := by
  let count : Datagram := { command := .BRD, address := 0, data := [], wkc := 0 }
  have hcarries : countMessage.Carries [count] := by
    have hdatagram : (frameBuffer (Cells.fill 0) countMessage.bytes).datagram 16 = count := by
      decide
    rw [← hdatagram]
    exact Message.carries_of_chain (Cells.fill 0) (.last (by decide) (by decide))
  have hw : MaximalPrefix [MasterSocket.write countMessage.bytes].flatten [countMessage] := by
    refine ⟨[], rfl, ?_⟩
    intro m rest hnil
    cases hnil
  have hanswer : ((Bus.fresh 3 oneSlaveServer.logical).serveFrames [[count]]).2 =
      [[{ count with wkc := 3 }]] := rfl
  rw [← hanswer]
  exact handleClient_refines_bus (.connected 1 _) (fun _ => Cells.fill 0) (Nat.le_refl 1520) [] 3 hw
    (.cons hcarries .nil)

/-- Two servers, whatever clients they had before.  When their process images agree, a
client that asks for the same number of slaves and sends the same bytes gets the same
bytes from both, however the bytes are cut on the way. -/
theorem handleClient_of_image_eq {sim sim' : NetworkSimulator El1258} (h : Serving sim)
    (h' : Serving sim') (himage : sim.logical = sim'.logical) (frames : Nat → KickcatFrame)
    (rounds : Nat) (room room' : List Nat) (n : Nat) {w w' : Wire UInt8}
    (hw : w.flatten = w'.flatten) :
    handleClient frames rounds room n sim w = handleClient frames rounds room' n sim' w' := by
  obtain ⟨ms, hms⟩ := exists_maximalPrefix w.flatten
  have hsame : SameBus (prepare n sim) (prepare n sim') := by
    have hrep := prepare_represents n h.inputMaps_eq
    have hrep' := prepare_represents n h'.inputMaps_eq
    rw [← himage] at hrep'
    exact ⟨_, _, _, hrep, hrep'⟩
  rw [handleClient_of_maximalPrefix frames rounds room n sim hms]
  rw [hw] at hms
  rw [handleClient_of_maximalPrefix frames rounds room' n sim' hms,
    replies_of_sameBus frames rounds ms 0 hsame]

/-- The first client of a server, and one behind a client with three slaves. -/
theorem handleClient_of_image_eq_second :
    handleClient (fun _ => .ofBuffer (Cells.fill 0)) 1520 [] 1 oneSlaveServer [[0, 1, 7]] =
      handleClient (fun _ => .ofBuffer (Cells.fill 0)) 1520 [1] 1 (prepare 3 oneSlaveServer)
        [[0], [1, 7]] := by
  have hserving : Serving oneSlaveServer := .connected 1 _
  have himage := (prepare_represents 3 hserving.inputMaps_eq).image
  exact handleClient_of_image_eq hserving (.reconnected 3 hserving) himage.symm _ 1520 [] [1] 1 rfl

/-! ## The slaves of the server -/

/-- In every state of the server the simulator holds a bus. -/
theorem Serving.represents {sim : NetworkSimulator El1258} (h : Serving sim)
    {P : El1258Slave → Prop}
    (hfresh : ∀ i, P (El1258Slave.ofIndex i).start)
    (hstep : ∀ s op, P s → op.IsServed → P (VirtualSlave.step s op)) :
    ∃ refs b, Represents sim refs b ∧ ∀ s ∈ b.slaves, P s := by
  have hprepared : ∀ n (sim : NetworkSimulator El1258), sim.inputMaps = [] →
      ∃ refs b, Represents (prepare n sim) refs b ∧ ∀ s ∈ b.slaves, P s := by
    intro n sim hmaps
    refine ⟨_, _, prepare_represents n hmaps, ?_⟩
    intro s hs
    obtain ⟨i, -, rfl⟩ := List.mem_map.mp hs
    exact hfresh i
  induction h with
  | connected n blank => exact hprepared n _ rfl
  | reconnected n hserving _ => exact hprepared n _ hserving.inputMaps_eq
  | @answered sim sim' rest reply w w' _ hserve ih =>
    obtain ⟨refs, b, hrep, hslaves⟩ := ih
    obtain ⟨ds, hrep'⟩ := hrep.serve hserve
    exact ⟨refs, _, hrep', Bus.runOnce_processFrame_forall hstep hslaves ds⟩

/-- In every state of the server, whatever its clients have sent: a registered slave is
online, and its AL state is a rung of the ladder.  A datagram moves it only as a write of
at least one byte at AL_CONTROL, and into SAFE_OP or OPERATIONAL only with mapped inputs;
`runOnce` leaves it alone. -/
theorem serving_alLadder {sim : NetworkSimulator El1258} (h : Serving sim) {ref : SlaveRef}
    (href : some ref ∈ sim.slaves) :
    let s := sim.objects ref
    s.online = true ∧ VirtualSlave.OnLadder s.alState ∧
      (∀ d : Datagram,
        let s' := (SlavesEndpoint.interpret sim d).1.objects ref
        s'.alState ≠ s.alState →
          (extractAddress d.address).2 = 0x0120 ∧ 1 ≤ d.data.length ∧
            s' = (s.write 0x0120 d.data).2 ∧
            (s'.alState = .SAFE_OP ∨ s'.alState = .OPERATIONAL → s.inputPdoMapped = true)) ∧
      ∀ sim', sim.runOnce = some sim' → (sim'.objects ref).alState = s.alState := by
  intro s
  have hfresh : ∀ i, (El1258Slave.ofIndex i).start.online = true ∧
      VirtualSlave.OnLadder (El1258Slave.ofIndex i).start.alState :=
    fun i => ⟨rfl, VirtualSlave.new_onLadder (castUInt16 (1 + i)) El1258.VENDOR_ID
      El1258.PRODUCT_CODE El1258.initial⟩
  obtain ⟨refs, b, hrep, hslaves⟩ := h.represents
    (P := fun s => s.online = true ∧ VirtualSlave.OnLadder s.alState) hfresh fun s op hs hop =>
    ⟨(hop.step_online s).trans hs.1, (VirtualSlave.step_enters hs.2 hop.isGuarded).1⟩
  rw [hrep.slaves] at href
  obtain ⟨_, hmem, heq⟩ := List.mem_map.mp href
  obtain rfl := Option.some.inj heq
  obtain ⟨i, hi⟩ := List.getElem?_of_mem hmem
  have hslave := hrep.slave hi
  obtain ⟨honline, hladder⟩ := hslaves s (List.mem_of_getElem? hslave)
  refine ⟨honline, hladder, ?_, ?_⟩
  · intro d s' hchanged
    have hstep : s' = run VirtualSlave.step s (b.delivered d i) := by
      have hafter := (hrep.interpret d).2.slave hi
      rw [b.interpret_slaves, hslave] at hafter
      exact (Option.some.inj hafter).symm
    have hcall : ∀ op : SlaveOp, op.IsServed → s' = s.step op →
        op.IsAlControlWrite ∧
          (s'.alState = .SAFE_OP ∨ s'.alState = .OPERATIONAL → s.inputPdoMapped = true) := by
      intro op hop hs'
      rw [hs'] at hchanged ⊢
      refine ⟨?_, (VirtualSlave.step_enters hladder hop.isGuarded).2 hchanged⟩
      rcases s.step_alState hop.isGuarded with hsame | hwrite
      · exact absurd hsame hchanged
      · exact hwrite.1
    rcases b.delivered_branch d i with hd | ⟨-, hd⟩ | ⟨-, hd⟩ <;> rw [hd] at hstep
    · exact absurd (congrArg VirtualSlave.alState hstep) hchanged
    · exact absurd (hcall (.read _ _) trivial hstep).1 id
    · obtain ⟨⟨hreg, hlength⟩, henters⟩ := hcall (.write _ _) trivial hstep
      refine ⟨hreg, hlength, ?_, henters⟩
      rw [← hreg]
      exact hstep
  · intro sim' hrun
    obtain ⟨ran, hran, hrepRan⟩ := hrep.runOnce
    obtain rfl := Option.some.inj (hran.symm.trans hrun)
    have hafter := hrepRan.slave hi
    rw [b.runOnce_slaves, hslave] at hafter
    rw [← Option.some.inj hafter]
    split
    · have hguarded : SlaveOp.routine.IsGuarded := trivial
      rcases s.step_alState hguarded with hsame | hwrite
      · exact hsame
      · exact absurd hwrite.1 id
    · rfl

/-- A request for OPERATIONAL to all slaves. -/
def toOperational : Datagram := { command := .BWR, address := 0x01200000, data := [8, 0], wkc := 0 }

/-- The request takes the slave of a fresh server to OPERATIONAL, with mapped inputs. -/
theorem serving_alLadder_oneSlave :
    let s := oneSlaveServer.objects 0
    let s' := (SlavesEndpoint.interpret oneSlaveServer toOperational).1.objects 0
    s'.alState = .OPERATIONAL ∧ s' = (s.write 0x0120 [8, 0]).2 ∧ s.inputPdoMapped = true := by
  intro s s'
  have hslot : some 0 ∈ oneSlaveServer.slaves := by decide +kernel
  obtain ⟨-, -, hmoves, -⟩ := serving_alLadder (.connected 1 _) hslot
  have hstate : s'.alState = .OPERATIONAL := by decide +kernel
  have hinit : s.alState = .INIT := by decide +kernel
  have hchanged : s'.alState ≠ s.alState := by
    rw [hstate, hinit]
    decide
  obtain ⟨-, -, hwrite, henters⟩ := hmoves toOperational hchanged
  exact ⟨hstate, hwrite, henters (.inr hstate)⟩

end SlavesEndpoint

end EthercatSim

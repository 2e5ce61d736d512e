import EthercatSim.Network.Delivery
import EthercatSim.VirtualSlave.SdoReply

/-!
# SDO transfers over the frames of a master

A master writes a mailbox message to a slave in one frame, and reads the answer in a later
one.  The datagrams in between may do anything that spares the mailbox of this slave:
transfers with other slaves, the process image, registers.

* `SparesMailbox` says which datagrams these are.  Only the ones that may reach the slave
  are restricted.
* `Bus.Holds`: the slave at a position answers to its address, and has a property.  It is
  carried from datagram to datagram.
* `sdoTransfer`: the answer is that to the message, whatever went on in between.
-/

namespace EthercatSim

open Kickcat Bytes NetworkSimulator StepRun

variable {σ : Type}

/-! ## Datagrams that spare a mailbox -/

/-- A call that leaves the windows of a slave alone, as the constructor sets them up, and the
status byte of SM1. -/
def SlaveOp.SparesMailbox : SlaveOp → Prop
  | .read reg dst => ¬VirtualSlave.InWindow 0x1200 512 reg dst.length
  | .write reg src =>
    ¬VirtualSlave.InWindow 0x1000 512 reg src.length ∧
      ¬(4096 < reg.toNat + src.length ∧ Reg.SYNC_MANAGER ≤ reg.toNat ∧
        reg.toNat < Reg.SYNC_MANAGER + 16) ∧
      ¬(reg.toNat ≤ Reg.SYNC_MANAGER_1 + Reg.SM_STATS ∧
        Reg.SYNC_MANAGER_1 + Reg.SM_STATS < reg.toNat + src.length)
  | _ => True

/-- A datagram that gives no slave another address, and does not touch the mailbox of the
slave with the station address `addr`: it is for another station, or its calls spare the
mailbox. -/
def Datagram.SparesMailbox (addr : UInt16) (d : Datagram) : Prop :=
  let (adp, ado) := extractAddress d.address
  (d.WritesSlaves → ado ≠ 0x0010) ∧
    (d.command ∈ [Command.FPRD, .FPWR, .FPRW] ∧ adp ≠ addr ∨
      (d.ReadsSlave → (SlaveOp.read ado d.data).SparesMailbox) ∧
        (d.WritesSlaves → (SlaveOp.write ado d.data).SparesMailbox))

/-- The message `msg` to the mailbox of a slave. -/
def mailboxWrite (addr : UInt16) (msg : List UInt8) : Datagram where
  command := .FPWR
  address := le32 addr 0x1000
  data := msg
  wkc := 0

/-- The read of its answer into `dst`. -/
def mailboxRead (addr : UInt16) (dst : List UInt8) : Datagram where
  command := .FPRD
  address := le32 addr 0x1200
  data := dst
  wkc := 0

theorem VirtualSlave.DefaultMailbox.leavesMailbox {s : VirtualSlave σ} (h : s.DefaultMailbox)
    {op : SlaveOp} (hop : op.SparesMailbox) : s.LeavesMailbox op := by
  have hwin := h.windows
  simp only [VirtualSlave.windows, Prod.mk.injEq] at hwin
  obtain ⟨hrecv, hrecvSize, hsend, hsendSize⟩ := hwin
  cases op with
  | read reg dst =>
    show ¬VirtualSlave.InWindow s.mbSendOffset s.mbSendSize reg dst.length
    rw [hsend, hsendSize]
    exact hop
  | write reg src =>
    obtain ⟨hwindow, hmanagers, hstatus⟩ := hop
    refine ⟨?_, fun hreconf => hmanagers ⟨hreconf.1, hreconf.2.2⟩, fun hesc => hstatus hesc.2⟩
    rw [hrecv, hrecvSize]
    exact hwindow
  | setOnline on => trivial
  | setALState st => trivial
  | setInputPDOMapped v => trivial
  | start => trivial
  | routine => trivial

/-- A slave whose mailbox shows what that of `s₀` shows. -/
def SameMailbox (s₀ s : VirtualSlave σ) : Prop :=
  s.DefaultMailbox ∧ s.mailboxView = s₀.mailboxView

theorem SameMailbox.step [SlaveDevice σ] {s₀ s : VirtualSlave σ} (h : SameMailbox s₀ s)
    {op : SlaveOp} (hop : op.SparesMailbox) : SameMailbox s₀ (s.step op) := by
  have hview := VirtualSlave.step_mailboxView (h.1.leavesMailbox hop)
  exact ⟨h.1.of_view_eq hview, hview.trans h.2⟩

/-! ## The slave that answers to an address -/

namespace Bus

/-- The position of the slave that answers to a station address. -/
def station (b : Bus σ) (addr : UInt16) : Option Nat :=
  b.slaves.findIdx? fun s => s.online && s.address == addr

/-- What the lookup by address looks at. -/
def keys (b : Bus σ) : List (Bool × UInt16) := b.slaves.map fun s => (s.online, s.address)

theorem station_congr {b b' : Bus σ} (h : b'.keys = b.keys) (addr : UInt16) :
    b'.station addr = b.station addr := by
  have hkeys : ∀ b : Bus σ,
      b.station addr = b.keys.findIdx? fun key => key.1 && key.2 == addr := by
    intro b
    rw [keys, List.findIdx?_map]
    rfl
  rw [hkeys, hkeys, h]

/-- The slave at position `i` answers to `addr`, and `P` holds of it. -/
structure Holds (b : Bus σ) (addr : UInt16) (i : Nat) (P : VirtualSlave σ → Prop) : Prop where
  station : b.station addr = some i
  slave : ∃ s, b.slaves[i]? = some s ∧ P s

theorem Holds.answers {b : Bus σ} {addr : UInt16} {i : Nat} {P : VirtualSlave σ → Prop}
    (h : b.Holds addr i P) : ∃ s, b.slaves[i]? = some s ∧ s.address = addr ∧ P s := by
  obtain ⟨s, hslave, hP⟩ := h.slave
  obtain ⟨hi, hanswers, -⟩ := List.findIdx?_eq_some_iff_getElem.mp h.station
  rw [List.getElem?_eq_getElem hi] at hslave
  obtain rfl := Option.some.inj hslave
  rw [Bool.and_eq_true, beq_iff_eq] at hanswers
  exact ⟨_, List.getElem?_eq_getElem hi, hanswers.2, hP⟩

section Carry

variable [SlaveDevice σ] {b : Bus σ} {addr : UInt16} {i : Nat} {P : VirtualSlave σ → Prop}

/-- Delivered calls that do not write STATION_ADDR leave the lookup alone. -/
theorem keys_of_slaves {b' : Bus σ} {ops : Nat → List SlaveOp}
    (h : ∀ i : Nat, b'.slaves[i]? = b.slaves[i]?.map fun s => run VirtualSlave.step s (ops i))
    (hops : ∀ i, ∀ op ∈ ops i, op.IsServed ∧ ∀ reg src, op = .write reg src → reg ≠ 0x0010) :
    b'.keys = b.keys := by
  apply List.ext_getElem?
  intro i
  rw [keys, keys, List.getElem?_map, List.getElem?_map, h]
  cases b.slaves[i]? with
  | none => rfl
  | some s =>
    refine congrArg some (run_invariant (P := fun t : VirtualSlave σ =>
      (t.online, t.address) = (s.online, s.address)) ?_ rfl (hops i))
    intro t op ht hop
    rw [← ht]
    refine Prod.ext (hop.1.step_online t) ?_
    cases op with
    | read reg dst => exact t.read_address reg dst
    | write reg src => exact t.write_address src (hop.2 reg src rfl)
    | routine =>
      show t.routine.address = _
      rw [VirtualSlave.routine]
      split <;> rfl
    | _ => exact absurd hop.1 id

omit [SlaveDevice σ] in
/-- A datagram that spares the mailbox delivers calls to the slave that spare it. -/
theorem Holds.delivered (h : b.Holds addr i P) {d : Datagram} (hd : d.SparesMailbox addr) :
    ∀ op ∈ b.delivered d i, op.SparesMailbox := by
  intro op hop
  rcases hd.2 with ⟨hstation, hother⟩ | ⟨hreads, hwrites⟩
  · -- the datagram is for the slave with another address
    exfalso
    obtain ⟨s, hslave, haddress, -⟩ := h.answers
    have hmissed : ∀ j, b.station (extractAddress d.address).1 = some j → j ≠ i := by
      intro j hj hij
      subst hij
      have hholds : b.Holds (extractAddress d.address).1 j fun _ => True := ⟨hj, s, hslave, trivial⟩
      obtain ⟨s', hslave', haddress', -⟩ := hholds.answers
      obtain rfl := Option.some.inj (hslave.symm.trans hslave')
      exact hother (haddress'.symm.trans haddress)
    have haccess : ∃ a, d.access = some a ∧
        b.position a = b.station (extractAddress d.address).1 := by
      simp only [List.mem_cons, List.not_mem_nil, or_false] at hstation
      rcases hstation with hc | hc | hc <;> simp only [Datagram.access, hc] <;>
        exact ⟨_, rfl, rfl⟩
    obtain ⟨a, ha, hposition⟩ := haccess
    rw [Bus.delivered, ha] at hop
    simp only [hposition] at hop
    split at hop
    · rename_i hfound
      exact hmissed i hfound rfl
    · cases hop
  · rcases b.delivered_branch d i with hcall | ⟨hread, hcall⟩ | ⟨hwrite, hcall⟩ <;>
      rw [hcall] at hop
    · cases hop
    · obtain rfl := List.mem_singleton.mp hop
      exact hreads hread
    · obtain rfl := List.mem_singleton.mp hop
      exact hwrites hwrite

/-- Calls to the slaves, of which those to the slave at `i` spare its mailbox, carry `Holds`
on. -/
theorem Holds.of_slaves {s₀ : VirtualSlave σ} (h : b.Holds addr i (SameMailbox s₀)) {b' : Bus σ}
    {ops : Nat → List SlaveOp}
    (hslaves : ∀ j : Nat, b'.slaves[j]? = b.slaves[j]?.map fun s =>
      run VirtualSlave.step s (ops j))
    (hops : ∀ j, ∀ op ∈ ops j, op.IsServed ∧ ∀ reg src, op = .write reg src → reg ≠ 0x0010)
    (hspares : ∀ op ∈ ops i, op.SparesMailbox) : b'.Holds addr i (SameMailbox s₀) := by
  refine ⟨(station_congr (keys_of_slaves hslaves hops) addr).trans h.station, ?_⟩
  obtain ⟨s, hslave, hsame⟩ := h.slave
  refine ⟨run VirtualSlave.step s (ops i), ?_, ?_⟩
  · rw [hslaves, hslave]
    rfl
  · exact run_invariant (fun _ _ hs hop => hs.step hop) hsame hspares

theorem Holds.interpret {s₀ : VirtualSlave σ} (h : b.Holds addr i (SameMailbox s₀)) {d : Datagram}
    (hd : d.SparesMailbox addr) : (b.interpret d).1.Holds addr i (SameMailbox s₀) := by
  refine h.of_slaves (b.interpret_slaves d) ?_ (h.delivered hd)
  intro j op hop
  refine ⟨b.delivered_isServed d j op hop, ?_⟩
  intro reg src hwrite
  rcases b.delivered_branch d j with hcall | ⟨-, hcall⟩ | ⟨hwrites, hcall⟩ <;> rw [hcall] at hop
  · cases hop
  · rw [List.mem_singleton.mp hop] at hwrite
    cases hwrite
  · rw [List.mem_singleton.mp hop] at hwrite
    injection hwrite with hreg _
    rw [← hreg]
    exact hd.1 hwrites

theorem Holds.processFrame {s₀ : VirtualSlave σ} (h : b.Holds addr i (SameMailbox s₀))
    {frame : List Datagram} (hframe : ∀ d ∈ frame, d.SparesMailbox addr) :
    (b.processFrame frame).1.Holds addr i (SameMailbox s₀) := by
  induction frame generalizing b with
  | nil => exact h
  | cons d ds ih =>
    exact ih (h.interpret (hframe d List.mem_cons_self))
      fun d hd => hframe d (List.mem_cons_of_mem _ hd)

theorem Holds.runOnce {s₀ : VirtualSlave σ} (h : b.Holds addr i (SameMailbox s₀)) :
    b.runOnce.Holds addr i (SameMailbox s₀) := by
  have hroutine : ∀ j, ∀ op ∈ (if b.onlineAt j = true then [SlaveOp.routine] else []),
      op = .routine := by
    intro j op hop
    split at hop
    · exact List.mem_singleton.mp hop
    · cases hop
  refine h.of_slaves b.runOnce_slaves ?_ ?_
  · intro j op hop
    rw [hroutine j op hop]
    exact ⟨trivial, fun _ _ h => nomatch h⟩
  · intro op hop
    rw [hroutine i op hop]
    trivial

theorem Holds.serveFrames {s₀ : VirtualSlave σ} (h : b.Holds addr i (SameMailbox s₀))
    {frames : List (List Datagram)}
    (hframes : ∀ frame ∈ frames, ∀ d ∈ frame, d.SparesMailbox addr) :
    (b.serveFrames frames).1.Holds addr i (SameMailbox s₀) := by
  induction frames generalizing b with
  | nil => exact h
  | cons frame frames ih =>
    exact ih (h.processFrame (hframes frame List.mem_cons_self)).runOnce
      fun frame hf => hframes frame (List.mem_cons_of_mem _ hf)

end Carry

/-! ## The request and the answer -/

section Exchange

variable [SlaveDevice σ] {b : Bus σ} {addr : UInt16} {i : Nat} {s : VirtualSlave σ}

/-- A request is acknowledged, and its reply is in the send buffer. -/
theorem interpret_mailboxWrite (hstation : b.station addr = some i)
    (hslave : b.slaves[i]? = some s) (hmailbox : s.DefaultMailbox) {msg : List UInt8}
    (hlen : 16 ≤ msg.length) (hfits : msg.length ≤ 512) :
    (b.interpret (mailboxWrite addr msg)).2 = { mailboxWrite addr msg with wkc := 1 } ∧
      (b.interpret (mailboxWrite addr msg)).1.Holds addr i
        (SameMailbox (s.write 0x1000 msg).2) := by
  obtain ⟨hok, hdefault, -, -⟩ := VirtualSlave.write_recvWindow hmailbox hlen hfits
  have haddress : extractAddress (mailboxWrite addr msg).address = (addr, 0x1000) := by
    show (loWord (le32 addr 0x1000), hiWord (le32 addr 0x1000)) = _
    rw [loWord_le32, hiWord_le32]
  have haccess : (mailboxWrite addr msg).access = some (.writeStation addr 0x1000 msg) := by
    show some (BusAccess.writeStation (extractAddress (mailboxWrite addr msg).address).1
      (extractAddress (mailboxWrite addr msg).address).2 msg) = _
    rw [haddress]
  have hposition : b.position (.writeStation addr 0x1000 msg) = some i := hstation
  have hinterpret : b.interpret (mailboxWrite addr msg) =
      ({ b with slaves := b.slaves.set i (s.write 0x1000 msg).2 },
        { mailboxWrite addr msg with wkc := ackOf (s.write 0x1000 msg).1 }) := by
    rw [interpret, haccess]
    simp only [perform_of_position hposition hslave]
    rfl
  have hi := (List.getElem?_eq_some_iff.mp hslave).1
  rw [hinterpret, hok]
  refine ⟨rfl, ?_, _, List.getElem?_set_self hi, hdefault, rfl⟩
  rw [← hstation]
  apply station_congr
  have hkey : ((s.write 0x1000 msg).2.online, (s.write 0x1000 msg).2.address) =
      (s.online, s.address) :=
    Prod.ext (s.write_online 0x1000 msg) (s.write_address msg (by decide))
  obtain ⟨_, rfl⟩ := List.getElem?_eq_some_iff.mp hslave
  have hkept : (b.slaves.map fun s => (s.online, s.address)).set i
      (b.slaves[i].online, b.slaves[i].address) = b.keys := by
    rw [← List.map_set, List.set_getElem_self hi, keys]
  show (b.slaves.set i _).map _ = b.keys
  rw [List.map_set, hkey]
  exact hkept

/-- The read of the send window gets the front of the send buffer. -/
theorem interpret_mailboxRead {s₀ : VirtualSlave σ} (h : b.Holds addr i (SameMailbox s₀))
    {dst : List UInt8} (hfits : dst.length ≤ 512) :
    (b.interpret (mailboxRead addr dst)).2 =
      { mailboxRead addr dst with data := s₀.mbOut.take dst.length, wkc := 1 } := by
  obtain ⟨s, hslave, hdefault, hview⟩ := h.slave
  obtain ⟨hok, hbytes⟩ := VirtualSlave.read_sendWindow_front hdefault hfits
  have hbuffer : s.mbOut = s₀.mbOut := congrArg (fun view => view.2.2.1) hview
  have haddress : extractAddress (mailboxRead addr dst).address = (addr, 0x1200) := by
    show (loWord (le32 addr 0x1200), hiWord (le32 addr 0x1200)) = _
    rw [loWord_le32, hiWord_le32]
  have haccess : (mailboxRead addr dst).access = some (.readStation addr 0x1200 dst) := by
    show some (BusAccess.readStation (extractAddress (mailboxRead addr dst).address).1
      (extractAddress (mailboxRead addr dst).address).2 dst) = _
    rw [haddress]
  have hposition : b.position (.readStation addr 0x1200 dst) = some i := h.station
  have hinterpret : (b.interpret (mailboxRead addr dst)).2 =
      { mailboxRead addr dst with
        data := (s.read 0x1200 dst).2.1, wkc := ackOf (s.read 0x1200 dst).1 } := by
    rw [interpret, haccess]
    simp only [perform_of_position hposition hslave]
    rfl
  rw [hinterpret, hok, hbytes, hbuffer]
  rfl

end Exchange

end Bus

/-- An SDO transfer.  The request comes at any place of a frame, to a slave that answers to
`addr`.  The rest of the frame, the frames behind it, and the datagrams in front of the one
that fetches the answer spare the mailbox of this slave, and may do anything else.  Both
datagrams are acknowledged, and the answer is that of the slave to the request. -/
theorem sdoTransfer [SlaveDevice σ] {sim : NetworkSimulator σ} {refs : List SlaveRef} {b : Bus σ}
    (h : Represents sim refs b) {before : List Datagram} {addr : UInt16} {i : Nat}
    {s : VirtualSlave σ} (hstation : (b.processFrame before).1.station addr = some i)
    (hslave : (b.processFrame before).1.slaves[i]? = some s) (hmailbox : s.DefaultMailbox)
    {msg : List UInt8} (hlen : 16 ≤ msg.length) (hmsg : msg.length ≤ 512)
    {after : List Datagram} {frames : List (List Datagram)} {before' : List Datagram}
    (hspares : ∀ d ∈ after ++ frames.flatten ++ before', d.SparesMailbox addr)
    (after' : List Datagram) {dst : List UInt8} (hdst : 16 ≤ dst.length)
    (hfits : dst.length ≤ 512) :
    let reply := s.replyMessage (SdoMessage.decode msg)
    let answer := reply.encode ++ List.replicate (dst.length - 16) 0
    ∃ sim' first outs last,
      SlavesEndpoint.serveFrames sim ((before ++ mailboxWrite addr msg :: after) :: frames ++
          [before' ++ mailboxRead addr dst :: after']) =
        some (sim', first :: outs ++ [last]) ∧ outs.length = frames.length ∧
      first[before.length]? = some { mailboxWrite addr msg with wkc := 1 } ∧
      last[before'.length]? = some { mailboxRead addr dst with data := answer, wkc := 1 } ∧
      SdoMessage.decode answer = reply := by
  intro reply answer
  have hafter : ∀ d ∈ after, d.SparesMailbox addr := by
    intro d hd
    exact hspares d (List.mem_append_left _ (List.mem_append_left _ hd))
  have hframes : ∀ frame ∈ frames, ∀ d ∈ frame, d.SparesMailbox addr := by
    intro frame hframe d hd
    exact hspares d (List.mem_append_left _ (List.mem_append_right _
      (List.mem_flatten.mpr ⟨frame, hframe, hd⟩)))
  have hbefore' : ∀ d ∈ before', d.SparesMailbox addr := by
    intro d hd
    exact hspares d (List.mem_append_right _ hd)
  -- the request, and what is between it and the datagram that fetches the answer
  obtain ⟨hacked, hrequested⟩ :=
    Bus.interpret_mailboxWrite hstation hslave hmailbox hlen hmsg
  have hfirst : (b.processFrame (before ++ mailboxWrite addr msg :: after)).1.Holds addr i
      (SameMailbox (s.write 0x1000 msg).2) := by
    rw [b.processFrame_append]
    exact hrequested.processFrame hafter
  have hlast := (hfirst.runOnce.serveFrames hframes).processFrame hbefore'
  have hanswer : (s.write 0x1000 msg).2.mbOut.take dst.length = answer := by
    obtain ⟨-, -, hbuffer, -⟩ := VirtualSlave.write_recvWindow hmailbox hlen hmsg
    rw [hbuffer, VirtualSlave.replyTo_eq hmailbox hlen, List.take_append,
      SdoMessage.length_encode, List.take_replicate,
      List.take_of_length_le (by rw [SdoMessage.length_encode]; exact hdst),
      Nat.min_eq_left (by omega)]
  obtain ⟨sim', hserve, -⟩ := h.serveFrames ((before ++ mailboxWrite addr msg :: after) ::
    frames ++ [before' ++ mailboxRead addr dst :: after'])
  let requested := (b.processFrame (before ++ mailboxWrite addr msg :: after)).1.runOnce
  rw [Bus.serveFrames_append] at hserve
  refine ⟨sim', _, (requested.serveFrames frames).2,
    ((requested.serveFrames frames).1.processFrame (before' ++ mailboxRead addr dst :: after')).2,
    hserve, requested.length_serveFrames frames, ?_, ?_, ?_⟩
  · rw [b.processFrame_getElem?, hacked]
  · rw [Bus.processFrame_getElem?, Bus.interpret_mailboxRead hlast hfits, hanswer]
  · exact SdoMessage.decode_encode (s.replyMessage_wellFormed msg) _

/-- Both of two slaves are sent a request in one frame.  Their answers are fetched in another
one, that of the first slave last. -/
theorem sdoTransfer_twoSlaves :
    ∃ sim' first last answer,
      SlavesEndpoint.serveFrames (twoSlaves true)
          [[mailboxWrite 1 Exchange.uploadVendorId,
              mailboxWrite 2 Exchange.uploadProductCode],
            [mailboxRead 2 (List.replicate 64 0), mailboxRead 1 (List.replicate 64 0)]] =
        some (sim', [first, last]) ∧
      last[1]? = some { mailboxRead 1 (List.replicate 64 0) with data := answer, wkc := 1 } ∧
      (SdoMessage.decode answer).index = 0x1018 ∧ (SdoMessage.decode answer).subindex = 1 := by
  let request := mailboxWrite 2 Exchange.uploadProductCode
  let fetch := mailboxRead 2 (List.replicate 64 0)
  have hother : ∀ d : Datagram, (extractAddress d.address).2 ≠ 0x0010 →
      d.command ∈ [Command.FPRD, .FPWR, .FPRW] → (extractAddress d.address).1 ≠ 1 →
      d.SparesMailbox 1 :=
    fun d hreg hcommand hstation => ⟨fun _ => hreg, .inl ⟨hcommand, hstation⟩⟩
  have hspares : ∀ d ∈ [request] ++ List.flatten [] ++ [fetch], d.SparesMailbox 1 := by
    intro d hd
    rcases List.mem_cons.mp hd with rfl | hd
    · exact hother _ (by decide) (by decide) (by decide)
    · obtain rfl := List.mem_singleton.mp hd
      exact hother _ (by decide) (by decide) (by decide)
  have hstation : ((twoSlavesBus true).processFrame []).1.station 1 = some 0 := by decide
  have hslave : ((twoSlavesBus true).processFrame []).1.slaves[0]? =
      some ((VirtualSlave.new 1 0 0 ()).setOnline true) := rfl
  have hmailbox : ((VirtualSlave.new 1 0 0 ()).setOnline true).DefaultMailbox :=
    ⟨rfl, List.length_replicate, List.length_replicate⟩
  have hlen : 16 ≤ Exchange.uploadVendorId.length := by decide
  have hmsg : Exchange.uploadVendorId.length ≤ 512 := by decide
  have hdst : 16 ≤ (List.replicate 64 (0 : UInt8)).length := by simp
  have hfits : (List.replicate 64 (0 : UInt8)).length ≤ 512 := by simp
  obtain ⟨sim', first, outs, last, hserve, hnone, -, hlast, hdecode⟩ :=
    sdoTransfer (twoSlaves_represents true) hstation hslave hmailbox hlen hmsg hspares [] hdst hfits
  obtain rfl := List.length_eq_zero_iff.mp hnone
  exact ⟨sim', first, last, _, hserve, hlast, by rw [hdecode]; rfl, by rw [hdecode]; rfl⟩

end EthercatSim

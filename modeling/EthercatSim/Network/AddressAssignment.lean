import Mathlib.Data.Nat.Bitwise
import EthercatSim.Network.WorkingCounter

/-!
# Address assignment

A master gives each slave of the ring a station address by its position: one APWR
at STATION_ADDR for each slave.  The position of the slave at index `i` is `-i` in 16
bits, so the two's complement reaches the indices up to 32768.

* `apIndex_neg`: the position of an index names the index.
* `Ring`: the registry is a list of different slaves, all online.
* `interpret_assignment` is the step: a datagram gives its slave the address and
  leaves every other slave alone.
* `processFrame_assignments`: after some of the datagrams, in any order and with any
  repetitions, each slave they were for has its address.
* `addressAssignment`: after all of them each address of the list is that of its
  slave only, whatever the addresses were in between.
-/

namespace EthercatSim

open Kickcat Bytes NetworkSimulator

variable {σ : Type}

/-! ## The datagrams -/

/-- The datagram that gives the slave at index `i` the address `addr`. -/
def assignment (i : Nat) (addr : UInt16) : Datagram where
  command := .APWR
  address := le32 (0 - UInt16.ofNat i) 0x0010
  data := [loByte addr, hiByte addr]
  wkc := 0

/-- The datagrams for the slaves 0, 1, … -/
def assignments (addrs : List UInt16) : List Datagram := addrs.mapIdx assignment

theorem mem_assignments {addrs : List UInt16} {d : Datagram} :
    d ∈ assignments addrs ↔ ∃ i addr, addrs[i]? = some addr ∧ assignment i addr = d := by
  rw [assignments, List.mem_mapIdx]
  constructor
  · intro hcase
    obtain ⟨i, hi, hd⟩ := hcase
    exact ⟨i, addrs[i], List.getElem?_eq_getElem hi, hd⟩
  · intro hcase
    obtain ⟨i, addr, haddr, hd⟩ := hcase
    obtain ⟨hi, rfl⟩ := List.getElem?_eq_some_iff.mp haddr
    exact ⟨i, hi, hd⟩

/-- Bit 15 tells the upper half of the positions. -/
theorem and_8000_eq_zero_iff (pos : UInt16) : pos &&& 0x8000 = 0 ↔ pos.toNat < 32768 := by
  have hpos := pos.toNat_lt
  have hand : (pos &&& 0x8000).toNat = (pos.toNat.testBit 15).toNat * 32768 := by
    rw [UInt16.toNat_and]
    exact Nat.and_two_pow pos.toNat 15
  have hbit : pos.toNat.testBit 15 = true ↔ pos.toNat / 32768 % 2 = 1 := by
    rw [Nat.testBit_eq_decide_div_mod_eq, decide_eq_true_iff]
  rw [← UInt16.toNat_inj, hand]
  cases hb : pos.toNat.testBit 15 with
  | false =>
    have hlow : ¬pos.toNat / 32768 % 2 = 1 := fun h => by simp [hbit.mpr h] at hb
    exact ⟨fun _ => by omega, fun _ => rfl⟩
  | true =>
    have hhigh := hbit.mp hb
    exact ⟨fun h => absurd h (by decide), fun h => by omega⟩

/-- The position `-i` names the index `i`. -/
theorem apIndex_neg {i : Nat} (h : i ≤ 32768) :
    SlavesEndpoint.apIndex (0 - UInt16.ofNat i) = i := by
  have hi : (UInt16.ofNat i).toNat = i := by
    rw [UInt16.toNat_ofNat']
    omega
  have hneg : (0 - UInt16.ofNat i).toNat = (65536 - i) % 65536 := by
    rw [UInt16.toNat_sub, hi]
    rfl
  have hback : 0 - (0 - UInt16.ofNat i) = UInt16.ofNat i := by
    rw [UInt16.zero_sub, UInt16.zero_sub, UInt16.neg_neg]
  rw [SlavesEndpoint.apIndex]
  by_cases hzero : i = 0
  · subst hzero
    rfl
  · have hbit : (0 - UInt16.ofNat i) &&& 0x8000 ≠ 0 := by
      rw [Ne, and_8000_eq_zero_iff, hneg]
      omega
    rw [if_pos hbit, hback, hi]

theorem access_assignment {i : Nat} (h : i ≤ 32768) (addr : UInt16) :
    (assignment i addr).access = some (.writeIndex i 0x0010 [loByte addr, hiByte addr]) := by
  have haddress : extractAddress (assignment i addr).address = (0 - UInt16.ofNat i, 0x0010) := by
    rw [extractAddress, assignment, loWord_le32, hiWord_le32]
  rw [Datagram.access, haddress]
  simp only [assignment, apIndex_neg h]

/-! ## The ring -/

/-- The slaves of the registry are `refs`, all different and all online. -/
structure Ring (sim : NetworkSimulator σ) (refs : List SlaveRef) : Prop where
  slaves : sim.slaves = refs.map some
  nodup : refs.Nodup
  online : ∀ ref ∈ refs, (sim.objects ref).online = true

theorem Ring.of_accessStep {sim sim' : NetworkSimulator σ} {refs : List SlaveRef}
    (h : Ring sim refs) (hstep : AccessStep sim sim') : Ring sim' refs := by
  refine ⟨hstep.slaves_eq.trans h.slaves, h.nodup, ?_⟩
  intro ref href
  rw [hstep.online]
  exact h.online ref href

/-- The slaves have the addresses of the list. -/
def HasAddresses (sim : NetworkSimulator σ) (refs : List SlaveRef) (addrs : List UInt16) : Prop :=
  ∀ (i : Nat) ref addr, refs[i]? = some ref → addrs[i]? = some addr →
    (sim.objects ref).address = addr

/-- A slave of the ring that answers to an address has its index in the list. -/
theorem Ring.index_of_isFirstAt {sim : NetworkSimulator σ} {refs : List SlaveRef}
    {addrs : List UInt16} (h : Ring sim refs) (hlength : addrs.length = refs.length)
    (haddrs : HasAddresses sim refs addrs) {addr : UInt16} {r : SlaveRef}
    (hr : sim.IsFirstAt addr r) : ∃ j : Nat, refs[j]? = some r ∧ addrs[j]? = some addr := by
  obtain ⟨hmem, haddress⟩ := mem_of_isFirstAt h.slaves hr
  obtain ⟨j, hj⟩ := List.getElem?_of_mem hmem
  have hlt : j < addrs.length := by
    rw [hlength]
    exact (List.getElem?_eq_some_iff.mp hj).1
  have hb := List.getElem?_eq_getElem hlt
  rw [← haddress, haddrs j r addrs[j] hj hb]
  exact ⟨j, hj, hb⟩

/-- With different addresses each of them is that of its slave only. -/
theorem Ring.isFirstAt_iff {sim : NetworkSimulator σ} {refs : List SlaveRef}
    {addrs : List UInt16} (h : Ring sim refs) (hlength : addrs.length = refs.length)
    (haddrs : HasAddresses sim refs addrs) (hdistinct : addrs.Nodup) {i : Nat} {ref : SlaveRef}
    {addr : UInt16} (href : refs[i]? = some ref) (haddr : addrs[i]? = some addr) (r : SlaveRef) :
    sim.IsFirstAt addr r ↔ r = ref := by
  have honly : ∀ r, sim.IsFirstAt addr r → r = ref := by
    intro r hr
    obtain ⟨j, hj, hb⟩ := h.index_of_isFirstAt hlength haddrs hr
    have hlt := (List.getElem?_eq_some_iff.mp haddr).1
    obtain rfl : i = j := (List.getElem?_inj hlt hdistinct).mp (haddr.trans hb.symm)
    exact Option.some.inj (hj.symm.trans href)
  refine ⟨honly r, ?_⟩
  intro heq
  subst heq
  have hmem := List.mem_of_getElem? href
  have hslot : some r ∈ sim.slaves := by
    rw [h.slaves]
    exact List.mem_map_of_mem hmem
  obtain ⟨r', hr'⟩ := exists_isFirstAt hslot ⟨h.online r hmem, haddrs i r addr href haddr⟩
  exact honly r' hr' ▸ hr'

/-! ## Handling the datagrams -/

/-- The datagram as it comes back from one slave. -/
def Datagram.acknowledged (d : Datagram) : Datagram := { d with wkc := 1 }

namespace SlavesEndpoint

/-- `processFrame_` on one frame after the other. -/
def processFrames [SlaveDevice σ] (sim : NetworkSimulator σ) :
    List (List Datagram) → NetworkSimulator σ × List (List Datagram)
  | [] => (sim, [])
  | frame :: frames =>
    let (sim, frame) := processFrame sim frame
    let (sim, frames) := processFrames sim frames
    (sim, frame :: frames)

end SlavesEndpoint

open SlavesEndpoint

section Handle

variable [SlaveDevice σ]

theorem processFrame_append (sim : NetworkSimulator σ) (xs ys : List Datagram) :
    processFrame sim (xs ++ ys) =
      ((processFrame (processFrame sim xs).1 ys).1,
        (processFrame sim xs).2 ++ (processFrame (processFrame sim xs).1 ys).2) := by
  induction xs generalizing sim with
  | nil => rfl
  | cons d xs ih =>
    rw [List.cons_append, processFrame_cons, ih, processFrame_cons]
    rfl

/-- Cutting the datagrams into frames changes nothing. -/
theorem processFrames_eq (sim : NetworkSimulator σ) (frames : List (List Datagram)) :
    (processFrames sim frames).1 = (processFrame sim frames.flatten).1 ∧
      (processFrames sim frames).2.flatten = (processFrame sim frames.flatten).2 := by
  induction frames generalizing sim with
  | nil => exact ⟨rfl, rfl⟩
  | cons frame frames ih =>
    obtain ⟨hsim, hout⟩ := ih (processFrame sim frame).1
    rw [List.flatten_cons, processFrame_append, ← hsim, ← hout]
    exact ⟨rfl, rfl⟩

/-- A datagram gives the slave at its index the address and leaves every other slave
alone. -/
theorem interpret_assignment {sim : NetworkSimulator σ} {refs : List SlaveRef}
    (h : Ring sim refs) {i : Nat} (hi : i ≤ 32768) {ref : SlaveRef} (href : refs[i]? = some ref)
    (addr : UInt16) :
    (interpret sim (assignment i addr)).2 = (assignment i addr).acknowledged ∧
      ((interpret sim (assignment i addr)).1.objects ref).address = addr ∧
      ∀ r, r ≠ ref → (interpret sim (assignment i addr)).1.objects r = sim.objects r := by
  have hslot : sim.slaves[i]? = some (some ref) := by
    rw [h.slaves, List.getElem?_map, href]
    rfl
  have htarget : (BusAccess.writeIndex i 0x0010 [loByte addr, hiByte addr]).target sim = some ref :=
    BusAccess.target_eq_some_iff.mpr ⟨hslot, h.online ref (List.mem_of_getElem? href)⟩
  obtain ⟨hok, haddress⟩ := (sim.objects ref).write_stationAddr addr
  have hack : ackOf ((sim.objects ref).write 0x0010 [loByte addr, hiByte addr]).1 = 1 := by
    rw [hok]
    rfl
  rw [interpret_of_access (access_assignment hi addr), BusAccess.perform_of_target htarget]
  refine ⟨?_, ?_, ?_⟩
  · exact congrArg (fun wkc => { assignment i addr with wkc }) hack
  · rw [setObject_objects, if_pos rfl]
    exact haddress
  · intro r hr
    rw [setObject_objects, if_neg hr]

/-- Some of the datagrams, in any order.  A slave keeps its address once it has it,
because every datagram for it carries the same one. -/
theorem processFrame_assignments {sim : NetworkSimulator σ} {refs : List SlaveRef}
    (h : Ring sim refs) (hsize : refs.length ≤ 32769) {addrs : List UInt16}
    (hlength : addrs.length = refs.length) {ds : List Datagram}
    (hds : ∀ d ∈ ds, d ∈ assignments addrs) :
    (processFrame sim ds).2 = ds.map Datagram.acknowledged ∧
      ∀ (i : Nat) ref addr, refs[i]? = some ref → addrs[i]? = some addr →
        assignment i addr ∈ ds ∨ (sim.objects ref).address = addr →
        ((processFrame sim ds).1.objects ref).address = addr := by
  induction ds generalizing sim with
  | nil =>
    refine ⟨rfl, ?_⟩
    intro i ref addr _ _ hcase
    rcases hcase with hmem | haddr
    · cases hmem
    · exact haddr
  | cons d ds ih =>
    obtain ⟨j, b, hb, rfl⟩ := mem_assignments.mp (hds d List.mem_cons_self)
    have hj : j < refs.length := hlength ▸ (List.getElem?_eq_some_iff.mp hb).1
    have hindex := List.getElem?_eq_getElem hj
    obtain ⟨hout, hset, hkeep⟩ := interpret_assignment h (by omega) hindex b
    obtain ⟨houts, haddrs⟩ := ih (h.of_accessStep (.interpret sim (assignment j b)))
      (fun d hd => hds d (List.mem_cons_of_mem _ hd))
    rw [processFrame_cons, List.map_cons, houts, hout]
    refine ⟨rfl, ?_⟩
    intro i ref addr href haddr hor
    have hlt : i < refs.length := (List.getElem?_eq_some_iff.mp href).1
    apply haddrs i ref addr href haddr
    rcases hor with hmem | haddress
    · rcases List.mem_cons.mp hmem with heq | htail
      · rw [← heq]
        exact .inr (interpret_assignment h (by omega) href addr).2.1
      · exact .inl htail
    · right
      by_cases hsame : ref = refs[j]
      · subst hsame
        obtain rfl : i = j := (List.getElem?_inj hlt h.nodup).mp (href.trans hindex.symm)
        obtain rfl := Option.some.inj (haddr.symm.trans hb)
        exact hset
      · rw [hkeep ref hsame]
        exact haddress

/-! ## The addresses afterwards -/

/-- FPRD, FPWR or FPRW with the station address `addr`. -/
def Datagram.IsStation (d : Datagram) (addr : UInt16) : Prop :=
  (d.command = .FPRD ∨ d.command = .FPWR ∨ d.command = .FPRW) ∧
    (extractAddress d.address).1 = addr

/-- The datagram is a read or a write of the slave `ref`, and is for no other one. -/
def Datagram.Accesses (sim : NetworkSimulator σ) (d : Datagram) (ref : SlaveRef) : Prop :=
  ∃ a, d.access = some a ∧ (∀ r, a.IsTarget sim r ↔ r = ref) ∧
    interpret sim d =
      (sim.setObject ref (a.onSlave (sim.objects ref)).2.2,
        { d with
          data := (a.onSlave (sim.objects ref)).2.1
          wkc := ackOf (a.onSlave (sim.objects ref)).1 })

/-- The datagram is for no slave and changes none. -/
def Datagram.AccessesNone (sim : NetworkSimulator σ) (d : Datagram) : Prop :=
  ∃ a, d.access = some a ∧ (∀ r, ¬a.IsTarget sim r) ∧ (interpret sim d).1 = sim

omit [SlaveDevice σ] in
/-- Such a datagram is for the slave that is found at the address. -/
theorem Datagram.IsStation.exists_access {d : Datagram} {addr : UInt16} (h : d.IsStation addr)
    (sim : NetworkSimulator σ) :
    ∃ a, d.access = some a ∧ ∀ r, a.IsTarget sim r ↔ sim.IsFirstAt addr r := by
  obtain ⟨hc, rfl⟩ := h
  rcases hc with hc | hc | hc
  · exact ⟨.readStation (extractAddress d.address).1 (extractAddress d.address).2 d.data,
      by rw [Datagram.access, hc], fun r => Iff.rfl⟩
  · exact ⟨.writeStation (extractAddress d.address).1 (extractAddress d.address).2 d.data,
      by rw [Datagram.access, hc], fun r => Iff.rfl⟩
  · exact ⟨.writeStation (extractAddress d.address).1 (extractAddress d.address).2 d.data,
      by rw [Datagram.access, hc], fun r => Iff.rfl⟩

theorem Datagram.IsStation.accesses {d : Datagram} {addr : UInt16} (h : d.IsStation addr)
    {sim : NetworkSimulator σ} {ref : SlaveRef} (href : ∀ r, sim.IsFirstAt addr r ↔ r = ref) :
    d.Accesses sim ref := by
  obtain ⟨a, ha, htarget⟩ := h.exists_access sim
  have honly : ∀ r, a.IsTarget sim r ↔ r = ref := fun r => (htarget r).trans (href r)
  have hfound : a.target sim = some ref := BusAccess.target_eq_some_iff.mpr ((honly ref).mpr rfl)
  refine ⟨a, ha, honly, ?_⟩
  rw [interpret_of_access ha, BusAccess.perform_of_target hfound]

theorem Datagram.IsStation.accessesNone {d : Datagram} {addr : UInt16} (h : d.IsStation addr)
    {sim : NetworkSimulator σ} (hnone : ∀ r, ¬sim.IsFirstAt addr r) : d.AccessesNone sim := by
  obtain ⟨a, ha, htarget⟩ := h.exists_access sim
  have hno : ∀ r, ¬a.IsTarget sim r := fun r hr => hnone r ((htarget r).mp hr)
  have hmissing : a.target sim = none := by
    rw [Option.eq_none_iff_forall_ne_some]
    intro r hr
    exact hno r (BusAccess.target_eq_some_iff.mp hr)
  refine ⟨a, ha, hno, ?_⟩
  rw [interpret_of_access ha, BusAccess.perform_of_unreached hmissing]

/-- A ring of up to 32769 slaves, with any addresses, and as many different new
addresses.  When the datagrams of the assignment are handled, in any order and cut
into any frames, each of them is acknowledged by one slave; afterwards a station
access to an address of the list is one to its slave only, and one to another address
reaches no slave. -/
theorem addressAssignment {sim : NetworkSimulator σ} {refs : List SlaveRef} (hring : Ring sim refs)
    (hsize : refs.length ≤ 32769) {addrs : List UInt16} (hlength : addrs.length = refs.length)
    (hdistinct : addrs.Nodup) {frames : List (List Datagram)}
    (hframes : frames.flatten.Perm (assignments addrs)) :
    (processFrames sim frames).2.flatten = frames.flatten.map Datagram.acknowledged ∧
      (∀ (i : Nat) ref addr, refs[i]? = some ref → addrs[i]? = some addr →
        ∀ d : Datagram, d.IsStation addr → d.Accesses (processFrames sim frames).1 ref) ∧
      ∀ addr, addr ∉ addrs →
        ∀ d : Datagram, d.IsStation addr → d.AccessesNone (processFrames sim frames).1 := by
  obtain ⟨hsim, hout⟩ := processFrames_eq sim frames
  obtain ⟨hacks, haddresses⟩ := processFrame_assignments hring hsize hlength
    (fun d hd => hframes.mem_iff.mp hd)
  rw [hsim, hout, hacks]
  have hring' := hring.of_accessStep (.processFrame sim frames.flatten)
  have hall : HasAddresses (processFrame sim frames.flatten).1 refs addrs := by
    intro i ref addr href haddr
    have hmem := hframes.mem_iff.mpr (mem_assignments.mpr ⟨i, addr, haddr, rfl⟩)
    exact haddresses i ref addr href haddr (.inl hmem)
  refine ⟨rfl, ?_, ?_⟩
  · intro i ref addr href haddr d hd
    exact hd.accesses (hring'.isFirstAt_iff hlength hall hdistinct href haddr)
  · intro addr hout d hd
    apply hd.accessesNone
    intro r hr
    obtain ⟨j, -, hj⟩ := hring'.index_of_isFirstAt hlength hall hr
    exact hout (List.mem_of_getElem? hj)

end Handle

/-- Two slaves with the addresses 1 and 2 exchange them, in two frames, the second
slave first: in between both have the address 1. -/
theorem addressAssignment_exchanged :
    (processFrames (twoSlaves true) [[assignment 1 1], [assignment 0 2]]).2.flatten =
        [(assignment 1 1).acknowledged, (assignment 0 2).acknowledged] ∧
      Datagram.Accesses (processFrames (twoSlaves true) [[assignment 1 1], [assignment 0 2]]).1
        { command := .FPRD, address := 0x00100001, data := [0, 0], wkc := 0 } 1 := by
  have hring : Ring (twoSlaves true) [0, 1] := ⟨rfl, by decide, by decide⟩
  have hperm : [[assignment 1 1], [assignment 0 2]].flatten.Perm (assignments [2, 1]) :=
    List.Perm.swap (assignment 0 2) (assignment 1 1) []
  have hexchanged := addressAssignment hring (by decide) rfl (by decide) hperm
  exact ⟨hexchanged.1, hexchanged.2.1 1 1 1 rfl rfl _ ⟨.inl rfl, rfl⟩⟩

end EthercatSim

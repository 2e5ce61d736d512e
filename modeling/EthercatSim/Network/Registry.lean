import EthercatSim.Network.WorkingCounter

/-!
# The registry of slaves

`setVirtualSlaveCount` grows the registry by slaves of the base class.  Each new slave
gets the address behind that of the slave before it.

* `acknowledged_by_slave`: in every state that calls lead to, the two counts are right,
  and an access by station address succeeds only when a registered slave that is
  online, and has the address, accepts it.
* `Registered.pushStubs`: the slaves and their addresses after the growth.
* `registry_grows_iff`: distinct addresses stay distinct exactly when none of the new
  ones was taken.
* `registry_grows_descending_false`: two slaves with the addresses 2 and 1.
-/

namespace EthercatSim

open NetworkSimulator

variable {σ : Type}

/-! ## Acknowledgements -/

section Acknowledge

variable [SlaveDevice σ]

/-- The station address of an access that succeeds is that of an online slave which
accepts it. -/
theorem writeToSlave_true {sim : NetworkSimulator σ} (h : sim.Counted) {addr reg : UInt16}
    {data : List UInt8} (hok : (sim.writeToSlave addr reg data).1 = true) :
    ∃ ref, sim.IsOnlineSlave ref ∧ (sim.objects ref).address = addr ∧
      ((sim.objects ref).write reg data).1 = true := by
  obtain ⟨ref, htarget, haccepts⟩ :=
    (perform_eq_true_iff h (.writeStation addr reg data)).mp hok
  obtain ⟨-, -, -, hanswers, -⟩ := id htarget
  exact ⟨ref, htarget.isOnlineSlave, hanswers.2, haccepts⟩

theorem readFromSlave_true {sim : NetworkSimulator σ} (h : sim.Counted) {addr reg : UInt16}
    {out : List UInt8} (hok : (sim.readFromSlave addr reg out).1 = true) :
    ∃ ref, sim.IsOnlineSlave ref ∧ (sim.objects ref).address = addr ∧
      ((sim.objects ref).read reg out).1 = true := by
  obtain ⟨ref, htarget, haccepts⟩ :=
    (perform_eq_true_iff h (.readStation addr reg out)).mp hok
  obtain ⟨-, -, -, hanswers, -⟩ := id htarget
  exact ⟨ref, htarget.isOnlineSlave, hanswers.2, haccepts⟩

/-- In every state that calls lead to, the slave count is the size of the registry, the
online count that of its online slots, and an access by station address succeeds only
by a slave of the registry that is online, has the address and accepts it. -/
theorem acknowledged_by_slave (blank : VirtualSlave σ) (stub : σ)
    (calls : List (SimulatorCall σ)) :
    let sim := StepRun.run (NetworkSimulator.step stub) (new blank) calls
    sim.virtualSlaveCount = sim.slaves.length ∧
      sim.onlineSlaveCount = sim.slaves.countP sim.isOnline ∧
      (∀ addr reg data, (sim.writeToSlave addr reg data).1 = true →
        ∃ ref, (some ref ∈ sim.slaves ∧ (sim.objects ref).online = true) ∧
          (sim.objects ref).address = addr ∧ ((sim.objects ref).write reg data).1 = true) ∧
      ∀ addr reg out, (sim.readFromSlave addr reg out).1 = true →
        ∃ ref, (some ref ∈ sim.slaves ∧ (sim.objects ref).online = true) ∧
          (sim.objects ref).address = addr ∧ ((sim.objects ref).read reg out).1 = true := by
  intro sim
  have hcounted : sim.Counted := run_counted blank stub calls
  refine ⟨hcounted, hcounted.onlineSlaveCount_eq, ?_, ?_⟩
  · intro addr reg data hok
    exact writeToSlave_true hcounted hok
  · intro addr reg out hok
    exact readFromSlave_true hcounted hok

end Acknowledge

/-! ## Growing the registry -/

/-- The registry consists of the objects `refs`, none of them null.  `make_shared` has
not handed out a later reference. -/
structure Registered (sim : NetworkSimulator σ) (refs : List SlaveRef) : Prop where
  slaves : sim.slaves = refs.map some
  allocated : ∀ ref ∈ refs, ref < sim.nextRef

/-- The station addresses of some objects. -/
def stationAddresses (sim : NetworkSimulator σ) (refs : List SlaveRef) : List UInt16 :=
  refs.map fun ref => (sim.objects ref).address

/-- The address of the next slave behind slaves with the addresses `addrs`. -/
def nextAddress (addrs : List UInt16) : UInt16 :=
  match addrs.getLast? with
  | some addr => addr + 1
  | none => 1

/-- No slave has an address that one of `n` new slaves will get. -/
def AddressesFree (addrs : List UInt16) (n : Nat) : Prop :=
  ∀ addr ∈ addrs, ∀ i < n, addr ≠ nextAddress addrs + UInt16.ofNat i

instance (addrs : List UInt16) (n : Nat) : Decidable (AddressesFree addrs n) :=
  inferInstanceAs (Decidable (∀ addr ∈ addrs, ∀ i < n, _))

/-- The addresses of `n` new slaves behind those with the addresses `addrs`. -/
def newAddresses (addrs : List UInt16) (n : Nat) : List UInt16 :=
  (List.range n).map fun i => nextAddress addrs + UInt16.ofNat i

@[simp] theorem nextAddress_append (addrs : List UInt16) (addr : UInt16) :
    nextAddress (addrs ++ [addr]) = addr + 1 := by
  rw [nextAddress, List.getLast?_append]
  rfl

/-- One new slave, then the others. -/
theorem newAddresses_succ (addrs : List UInt16) (n : Nat) :
    newAddresses addrs (n + 1) =
      nextAddress addrs :: newAddresses (addrs ++ [nextAddress addrs]) n := by
  have hshift : ∀ i, nextAddress addrs + UInt16.ofNat (i + 1) =
      nextAddress addrs + 1 + UInt16.ofNat i := by
    intro i
    rw [UInt16.ofNat_add, UInt16.add_comm (UInt16.ofNat i), UInt16.add_assoc]
    rfl
  rw [newAddresses, List.range_succ_eq_map, List.map_cons, List.map_map, newAddresses,
    nextAddress_append]
  congr 1
  · exact UInt16.add_zero _
  · apply List.map_congr_left
    intro i _
    exact hshift i

/-- Up to 65536 new slaves get different addresses. -/
theorem nodup_newAddresses (addrs : List UInt16) {n : Nat} (h : n ≤ 65536) :
    (newAddresses addrs n).Nodup := by
  rw [newAddresses]
  apply List.Nodup.map_on _ List.nodup_range
  intro i hi j hj heq
  rw [List.mem_range] at hi hj
  have hij := congrArg UInt16.toNat ((UInt16.add_right_inj _).mp heq)
  rw [UInt16.toNat_ofNat', UInt16.toNat_ofNat'] at hij
  omega

/-- The old addresses and the new ones together. -/
theorem nodup_append_newAddresses_iff {addrs : List UInt16} (h : addrs.Nodup) {n : Nat}
    (hn : n ≤ 65536) : (addrs ++ newAddresses addrs n).Nodup ↔ AddressesFree addrs n := by
  rw [List.nodup_append, and_iff_right h, and_iff_right (nodup_newAddresses addrs hn)]
  simp only [newAddresses, List.mem_map, List.mem_range, AddressesFree]
  constructor
  · intro hdiff addr haddr i hi
    exact hdiff addr haddr _ ⟨i, hi, rfl⟩
  · intro hfree addr haddr b hb
    obtain ⟨i, hi, rfl⟩ := hb
    exact hfree addr haddr i hi

/-- One round of the loop, for the address that it computes. -/
def pushStub (sim : NetworkSimulator σ) (stub : σ) (addr : UInt16) : NetworkSimulator σ :=
  { sim.setObject sim.nextRef (VirtualSlave.new addr 0 0 stub) with
    nextRef := sim.nextRef + 1
    slaves := sim.slaves ++ [some sim.nextRef] }

/-- The loop reads the address of the last slot. -/
theorem Registered.pushStubs_succ {sim : NetworkSimulator σ} {refs : List SlaveRef}
    (h : Registered sim refs) (stub : σ) (n : Nat) :
    sim.pushStubs stub (n + 1) =
      (pushStub sim stub (nextAddress (stationAddresses sim refs))).pushStubs stub n := by
  have hlast : sim.slaves.getLast? = refs.getLast?.map some := by
    rw [h.slaves, List.getLast?_map]
  rw [pushStubs, hlast, nextAddress, stationAddresses, List.getLast?_map]
  cases refs.getLast? with
  | none => rfl
  | some ref => rfl

/-- A new slave leaves the objects of the others alone. -/
theorem pushStub_objects (sim : NetworkSimulator σ) (stub : σ) (addr : UInt16) {ref : SlaveRef}
    (h : ref < sim.nextRef) : (pushStub sim stub addr).objects ref = sim.objects ref :=
  if_neg (Nat.ne_of_lt h)

theorem Registered.pushStub {sim : NetworkSimulator σ} {refs : List SlaveRef}
    (h : Registered sim refs) (stub : σ) (addr : UInt16) :
    Registered (pushStub sim stub addr) (refs ++ [sim.nextRef]) := by
  constructor
  case slaves =>
    show sim.slaves ++ [some sim.nextRef] = _
    rw [h.slaves, List.map_append]
    rfl
  case allocated =>
    intro ref href
    show ref < sim.nextRef + 1
    rcases List.mem_append.mp href with hold | hnew
    · exact Nat.lt_succ_of_lt (h.allocated ref hold)
    · rw [List.mem_singleton.mp hnew]
      exact Nat.lt_succ_self _

/-- The addresses of objects that a step leaves alone. -/
theorem stationAddresses_congr {sim sim' : NetworkSimulator σ} {refs : List SlaveRef}
    (h : ∀ ref ∈ refs, sim'.objects ref = sim.objects ref) :
    stationAddresses sim' refs = stationAddresses sim refs := by
  apply List.map_congr_left
  intro ref href
  rw [h ref href]

theorem Registered.stationAddresses_pushStub {sim : NetworkSimulator σ} {refs : List SlaveRef}
    (h : Registered sim refs) (stub : σ) (addr : UInt16) :
    stationAddresses (EthercatSim.pushStub sim stub addr) (refs ++ [sim.nextRef]) =
      stationAddresses sim refs ++ [addr] := by
  have hold : stationAddresses (EthercatSim.pushStub sim stub addr) refs =
      stationAddresses sim refs :=
    stationAddresses_congr fun ref href => pushStub_objects sim stub addr (h.allocated ref href)
  have hnew : (EthercatSim.pushStub sim stub addr).objects sim.nextRef =
      VirtualSlave.new addr 0 0 stub := if_pos rfl
  rw [stationAddresses, List.map_append, ← stationAddresses, hold, List.map_singleton, hnew]
  rfl

/-- The registry after the loop: the old slaves as they were, and new ones with the next
addresses. -/
theorem Registered.pushStubs {sim : NetworkSimulator σ} {refs : List SlaveRef}
    (h : Registered sim refs) (stub : σ) (n : Nat) :
    ∃ new, new.length = n ∧ Registered (sim.pushStubs stub n) (refs ++ new) ∧
      (∀ ref < sim.nextRef, (sim.pushStubs stub n).objects ref = sim.objects ref) ∧
      stationAddresses (sim.pushStubs stub n) (refs ++ new) =
        stationAddresses sim refs ++ newAddresses (stationAddresses sim refs) n := by
  induction n generalizing sim refs with
  | zero =>
    refine ⟨[], rfl, ?_, fun ref _ => rfl, ?_⟩
    · rw [List.append_nil]
      exact h
    · rw [List.append_nil]
      exact (List.append_nil _).symm
  | succ n ih =>
    obtain ⟨new, hlength, hregistered, hobjects, haddrs⟩ :=
      ih (h.pushStub stub (nextAddress (stationAddresses sim refs)))
    rw [← h.pushStubs_succ stub n, List.append_assoc] at hregistered haddrs
    rw [← h.pushStubs_succ stub n] at hobjects
    refine ⟨sim.nextRef :: new, by rw [List.length_cons, hlength], hregistered, ?_, ?_⟩
    · intro ref href
      rw [hobjects ref (Nat.lt_succ_of_lt href), pushStub_objects sim stub _ href]
    · rw [h.stationAddresses_pushStub, List.append_assoc] at haddrs
      rw [newAddresses_succ]
      exact haddrs

/-- With different addresses a station address finds its own slave. -/
theorem Registered.getSlaveByStationAddress_eq {sim : NetworkSimulator σ} {refs : List SlaveRef}
    (h : Registered sim refs) (hdistinct : (stationAddresses sim refs).Nodup) {ref : SlaveRef}
    (href : ref ∈ refs) (honline : (sim.objects ref).online = true) :
    sim.getSlaveByStationAddress (sim.objects ref).address = some ref := by
  have hslot : some ref ∈ sim.slaves := by
    rw [h.slaves]
    exact List.mem_map_of_mem href
  obtain ⟨r, hr⟩ := exists_isFirstAt hslot ⟨honline, rfl⟩
  obtain ⟨hmem, haddress⟩ := mem_of_isFirstAt h.slaves hr
  obtain rfl := List.inj_on_of_nodup_map hdistinct hmem href haddress
  exact getSlaveByStationAddress_eq_some_iff.mpr hr

/-- The addresses after the growth, cut to the new size. -/
theorem nodup_take_newAddresses_iff {addrs : List UInt16} (h : addrs.Nodup) {n : Nat}
    (hn : n ≤ 65535) :
    ((addrs ++ newAddresses addrs (n - addrs.length)).take n).Nodup ↔
      AddressesFree addrs (n - addrs.length) := by
  by_cases hgrow : addrs.length ≤ n
  · have hlength : (addrs ++ newAddresses addrs (n - addrs.length)).length = n := by
      rw [List.length_append, newAddresses, List.length_map, List.length_range]
      omega
    rw [List.take_of_length_le (Nat.le_of_eq hlength)]
    exact nodup_append_newAddresses_iff h (by omega)
  · have hnone : n - addrs.length = 0 := by omega
    rw [hnone]
    constructor
    · intro _ addr _ i hi
      exact absurd hi (Nat.not_lt_zero i)
    · intro _
      show ((addrs ++ []).take n).Nodup
      rw [List.append_nil]
      exact h.sublist (List.take_sublist n addrs)

/-- In a registry without null slots the last slave is there for the first address, and
`setVirtualSlaveCount` appends the new slaves and cuts the list. -/
theorem Registered.setVirtualSlaveCount_eq {sim : NetworkSimulator σ} {refs : List SlaveRef}
    (h : Registered sim refs) (stub : σ) (n : Nat) :
    sim.setVirtualSlaveCount stub n =
      some { sim.pushStubs stub (n - refs.length) with
        slaves := (sim.pushStubs stub (n - refs.length)).slaves.take n
        virtualSlaveCount := ((sim.pushStubs stub (n - refs.length)).slaves.take n).length } := by
  have hlength : sim.slaves.length = refs.length := by rw [h.slaves, List.length_map]
  have hlast : sim.slaves.getLast? ≠ some none := by
    rw [h.slaves, List.getLast?_map]
    intro hnull
    cases hrefs : refs.getLast? with
    | none =>
      rw [hrefs] at hnull
      cases hnull
    | some ref =>
      rw [hrefs] at hnull
      cases hnull
  rw [NetworkSimulator.setVirtualSlaveCount, if_neg fun hnull => hlast hnull.2, hlength]

/-- A registry of slaves with different addresses, set to `n` slaves: it has `n` slaves,
the first ones are the old ones, and the addresses are different exactly when no old
slave has one of the next addresses.  Then every online slave is found by its address. -/
theorem registry_grows_iff {sim : NetworkSimulator σ} {refs : List SlaveRef}
    (h : Registered sim refs) (hdistinct : (stationAddresses sim refs).Nodup) (stub : σ) {n : Nat}
    (hn : n ≤ 65535) :
    ∃ sim' refs', sim.setVirtualSlaveCount stub n = some sim' ∧ Registered sim' refs' ∧
      refs'.length = n ∧ sim'.virtualSlaveCount = n ∧
      refs'.take (min refs.length n) = refs.take (min refs.length n) ∧
      (∀ ref ∈ refs, sim'.objects ref = sim.objects ref) ∧
      ((stationAddresses sim' refs').Nodup ↔
        AddressesFree (stationAddresses sim refs) (n - refs.length)) ∧
      ((stationAddresses sim' refs').Nodup → ∀ ref ∈ refs', (sim'.objects ref).online = true →
        sim'.getSlaveByStationAddress (sim'.objects ref).address = some ref) := by
  have hset := h.setVirtualSlaveCount_eq stub n
  obtain ⟨new, hnew, hregistered, hobjects, haddrs⟩ := h.pushStubs stub (n - refs.length)
  have hlen : ((refs ++ new).take n).length = n := by
    rw [List.length_take, List.length_append, hnew]
    omega
  rw [hregistered.slaves, ← List.map_take, List.length_map, hlen] at hset
  have htaken : stationAddresses (sim.pushStubs stub (n - refs.length)) ((refs ++ new).take n) =
      (stationAddresses sim refs ++
        newAddresses (stationAddresses sim refs) (n - refs.length)).take n := by
    rw [← haddrs, stationAddresses, stationAddresses, List.map_take]
  have hfinal : Registered { sim.pushStubs stub (n - refs.length) with
      slaves := ((refs ++ new).take n).map some, virtualSlaveCount := n } ((refs ++ new).take n) :=
    ⟨rfl, fun ref href => hregistered.allocated ref (List.mem_of_mem_take href)⟩
  refine ⟨_, (refs ++ new).take n, hset, hfinal, hlen, rfl, ?_, ?_, ?_, ?_⟩
  · rw [List.take_take, Nat.min_eq_left (Nat.min_le_right _ _),
      List.take_append_of_le_length (Nat.min_le_left _ _)]
  · intro ref href
    exact hobjects ref (h.allocated ref href)
  · show (stationAddresses (sim.pushStubs stub (n - refs.length)) _).Nodup ↔ _
    rw [htaken]
    have hcount : (stationAddresses sim refs).length = refs.length := List.length_map _
    rw [← hcount]
    exact nodup_take_newAddresses_iff hdistinct hn
  · intro hnodup ref href honline
    exact hfinal.getSlaveByStationAddress_eq hnodup href honline

/-- A simulator with two slaves of the base class, one for each address. -/
def stationPair (first second : UInt16) : NetworkSimulator Unit :=
  StepRun.run (NetworkSimulator.step ()) (new (VirtualSlave.new 0 0 0 ()))
    [.makeShared (VirtualSlave.new first 0 0 ()), .addVirtualSlave (some 0),
      .makeShared (VirtualSlave.new second 0 0 ()), .addVirtualSlave (some 1)]

theorem stationPair_registered (first second : UInt16) :
    Registered (stationPair first second) [0, 1] := by
  refine ⟨rfl, ?_⟩
  intro ref href
  show ref < 2
  simp only [List.mem_cons, List.not_mem_nil, or_false] at href
  rcases href with rfl | rfl
  · exact Nat.zero_lt_two
  · exact Nat.one_lt_two

/-- Slaves with the addresses 1 and 2, and a third one. -/
theorem registry_grows_ascending :
    ∃ sim' refs', (stationPair 1 2).setVirtualSlaveCount () 3 = some sim' ∧
      Registered sim' refs' ∧ refs'.length = 3 ∧ sim'.virtualSlaveCount = 3 ∧
      refs'.take (min [0, 1].length 3) = [0, 1].take (min [0, 1].length 3) ∧
      (∀ ref ∈ [0, 1], sim'.objects ref = (stationPair 1 2).objects ref) ∧
      ((stationAddresses sim' refs').Nodup ↔
        AddressesFree (stationAddresses (stationPair 1 2) [0, 1]) (3 - [0, 1].length)) ∧
      ((stationAddresses sim' refs').Nodup → ∀ ref ∈ refs', (sim'.objects ref).online = true →
        sim'.getSlaveByStationAddress (sim'.objects ref).address = some ref) :=
  registry_grows_iff (stationPair_registered 1 2) (by decide) () (by decide)

/-- Slaves with the addresses 2 and 1: the third one gets the address 2, too. -/
theorem registry_grows_descending_false :
    Registered (stationPair 2 1) [0, 1] ∧ (stationAddresses (stationPair 2 1) [0, 1]).Nodup ∧
      ∃ sim', (stationPair 2 1).setVirtualSlaveCount () 3 = some sim' ∧
        sim'.slaves = [some 0, some 1, some 2] ∧
        stationAddresses sim' [0, 1, 2] = [2, 1, 2] ∧
        ¬(stationAddresses sim' [0, 1, 2]).Nodup :=
  ⟨stationPair_registered 2 1, by decide, _, rfl, rfl, by decide, by decide⟩

end EthercatSim

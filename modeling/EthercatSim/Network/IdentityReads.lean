import EthercatSim.Network.Delivery
import EthercatSim.VirtualSlave.EepromStream

/-!
# The EEPROM of a slave over the frames of a master

A master finds out what a slave is by reading its EEPROM: a write at EEPROM_CONTROL sets the
word address, and each read at EEPROM_DATA returns two words.  The slave keeps one address,
which every read moves on, so it matters what else has reached this slave.

* `SlaveOp.nextWord`: what a call does to the word address.
* `nextWord_stream`: behind a write at EEPROM_CONTROL, the address counts the reads.
* `eepromRead`: in any frames, what a read returns is decided by the calls that were
  delivered to this slave, and by its image.
-/

namespace EthercatSim

open Kickcat Bytes NetworkSimulator StepRun

variable {σ : Type}

/-! ## The word address of one slave -/

/-- The call reads two words. -/
def SlaveOp.readsEeprom : SlaveOp → Bool
  | .read reg dst => reg.toNat = Reg.EEPROM_DATA ∧ 4 ≤ dst.length
  | _ => false

/-- The word address that the call sets. -/
def SlaveOp.setsEepromAddr : SlaveOp → Option UInt32
  | .write reg src =>
    if reg.toNat = Reg.EEPROM_CONTROL ∧ 6 ≤ src.length then some (carriedAddress src) else none
  | _ => none

/-- The word address behind a call. -/
def SlaveOp.nextWord (addr : UInt32) (op : SlaveOp) : UInt32 :=
  if op.readsEeprom then addr + 2 else op.setsEepromAddr.getD addr

namespace VirtualSlave

/-- The step: a call moves the word address, and keeps the image. -/
theorem step_eepromView_eq [SlaveDevice σ] (s : VirtualSlave σ) (op : SlaveOp) :
    (s.step op).eepromView = (op.nextWord s.eepromAddr, s.eeprom) := by
  by_cases hleaves : LeavesEepromAddr op
  · rw [s.step_eepromView hleaves]
    cases op with
    | read reg dst => simp only [SlaveOp.nextWord, SlaveOp.readsEeprom, decide_eq_true_eq,
        if_neg hleaves, SlaveOp.setsEepromAddr, Option.getD_none, eepromView]
    | write reg src => simp only [SlaveOp.nextWord, SlaveOp.readsEeprom, Bool.false_eq_true,
        if_false, SlaveOp.setsEepromAddr, if_neg hleaves, Option.getD_none, eepromView]
    | _ => rfl
  · cases op with
    | read reg dst =>
      have hread : reg.toNat = Reg.EEPROM_DATA ∧ 4 ≤ dst.length := not_not.mp hleaves
      show (s.read reg dst).2.2.eepromView = _
      rw [SlaveOp.nextWord, SlaveOp.readsEeprom, if_pos (decide_eq_true hread), read, if_pos hread]
      rfl
    | write reg src =>
      have hwrite : reg.toNat = Reg.EEPROM_CONTROL ∧ 6 ≤ src.length := not_not.mp hleaves
      show (s.write reg src).2.eepromView = _
      rw [SlaveOp.nextWord, SlaveOp.setsEepromAddr, if_pos hwrite, write, if_pos hwrite]
      rfl
    | _ => exact absurd trivial hleaves

theorem run_eepromView_eq [SlaveDevice σ] (s : VirtualSlave σ) (ops : List SlaveOp) :
    (run step s ops).eepromView = (ops.foldl SlaveOp.nextWord s.eepromAddr, s.eeprom) := by
  induction ops generalizing s with
  | nil => rfl
  | cons op ops ih =>
    have hview := s.step_eepromView_eq op
    obtain ⟨haddr, himage⟩ := Prod.mk.inj hview
    show (run step (s.step op) ops).eepromView = _
    rw [ih, haddr, himage]
    rfl

/-- A read of four bytes or more at EEPROM_DATA. -/
theorem read_eepromData_of_le (s : VirtualSlave σ) {dst : List UInt8} (h : 4 ≤ dst.length) :
    ((s.read 0x0508 dst).1, (s.read 0x0508 dst).2.1) =
      (true, overwrite dst 0 (wordPair s.eeprom s.eepromAddr.toNat (s.eepromAddr + 1).toNat)) := by
  have hdata : (0x0508 : UInt16).toNat = Reg.EEPROM_DATA ∧ 4 ≤ dst.length := ⟨rfl, h⟩
  rw [read, if_pos hdata]
  rfl

end VirtualSlave

/-- Behind a write at EEPROM_CONTROL, and before the next one, the word address has moved on
by two for each read. -/
theorem nextWord_stream {ops : List SlaveOp} (h : ∀ op ∈ ops, op.setsEepromAddr = none)
    (addr : UInt32) :
    ops.foldl SlaveOp.nextWord addr = addr + 2 * UInt32.ofNat (ops.countP SlaveOp.readsEeprom) := by
  induction ops generalizing addr with
  | nil => simp
  | cons op ops ih =>
    have hrest := ih fun op hop => h op (List.mem_cons_of_mem _ hop)
    rw [List.foldl_cons, hrest, SlaveOp.nextWord, h op List.mem_cons_self, List.countP_cons]
    split
    · rw [UInt32.ofNat_add]
      grind
    · simp

/-! ## One read -/

namespace Bus

variable [SlaveDevice σ] {b : Bus σ} {i : Nat} {s : VirtualSlave σ} {d : Datagram}

/-- A datagram that reaches the slave at a position has made its access there. -/
theorem interpret_of_delivered {a : BusAccess} (haccess : d.access = some a)
    (hreach : b.delivered d i ≠ []) (hslave : b.slaves[i]? = some s) :
    (b.interpret d).2 = { d with data := (a.onSlave s).2.1, wkc := ackOf (a.onSlave s).1 } := by
  have hposition : b.position a = some i := by
    rw [delivered, haccess] at hreach
    by_contra hother
    exact hreach (if_neg hother)
  rw [interpret, haccess]
  simp only [perform_of_position hposition hslave]

/-- A read at EEPROM_DATA gets the words at the address of the slave. -/
theorem interpret_eepromRead (hreads : d.ReadsSlave)
    (hreg : (extractAddress d.address).2 = 0x0508) (hlen : 4 ≤ d.data.length)
    (hreach : b.delivered d i ≠ []) (hslave : b.slaves[i]? = some s) :
    (b.interpret d).2 =
      { d with
        data := overwrite d.data 0
          (wordPair s.eeprom s.eepromAddr.toNat (s.eepromAddr + 1).toNat)
        wkc := 1 } := by
  have hread := s.read_eepromData_of_le hlen
  obtain ⟨hok, hbytes⟩ := Prod.mk.inj hread
  have haccess : ∃ a, d.access = some a ∧ a.onSlave s = s.read 0x0508 d.data := by
    simp only [Datagram.ReadsSlave, List.mem_cons, List.not_mem_nil, or_false] at hreads
    rcases hreads with hc | hc <;> simp only [Datagram.access, hc, hreg] <;> exact ⟨_, rfl, rfl⟩
  obtain ⟨a, ha, hslaveRead⟩ := haccess
  rw [interpret_of_delivered ha hreach hslave, hslaveRead, hok, hbytes]
  rfl

end Bus

/-! ## Whole runs -/

/-- In any frames, at any place of a frame, a datagram that reads EEPROM_DATA of a slave gets
the two words at the address that the calls delivered to this slave have made, out of the
image of the slave.  The address is the one that the last write at EEPROM_CONTROL carried, and
two more for every read since. -/
theorem eepromRead [SlaveDevice σ] {sim : NetworkSimulator σ} {refs : List SlaveRef} {b : Bus σ}
    (h : Represents sim refs b) (frames : List (List Datagram)) (before after : List Datagram)
    {d : Datagram} {i : Nat} {s : VirtualSlave σ} (hslave : b.slaves[i]? = some s)
    (hreads : d.ReadsSlave) (hreg : (extractAddress d.address).2 = 0x0508)
    (hlen : 4 ≤ d.data.length)
    (hreach : ((b.serveFrames frames).1.processFrame before).1.delivered d i ≠ []) :
    let calls := b.deliveredFrames frames i ++ (b.serveFrames frames).1.deliveredFrame before i
    let addr := calls.foldl SlaveOp.nextWord s.eepromAddr
    ∃ sim' outs last,
      SlavesEndpoint.serveFrames sim (frames ++ [before ++ d :: after]) =
        some (sim', outs ++ [last]) ∧ outs.length = frames.length ∧
      last[before.length]? = some { d with
        data := overwrite d.data 0 (wordPair s.eeprom addr.toNat (addr + 1).toNat), wkc := 1 } ∧
      ∀ pre src post, calls = pre ++ .write 0x0502 src :: post → 6 ≤ src.length →
        (∀ op ∈ post, op.setsEepromAddr = none) →
        addr = carriedAddress src + 2 * UInt32.ofNat (post.countP SlaveOp.readsEeprom) := by
  intro calls addr
  -- the slave in front of the read
  have hfound : ((b.serveFrames frames).1.processFrame before).1.slaves[i]? =
      some (run VirtualSlave.step s calls) := by
    rw [Bus.processFrame_slaves, Bus.serveFrames_slaves, hslave, run_append]
    rfl
  obtain ⟨haddr, himage⟩ := Prod.mk.inj (s.run_eepromView_eq calls)
  have hread := Bus.interpret_eepromRead hreads hreg hlen hreach hfound
  rw [haddr, himage] at hread
  obtain ⟨sim', hserve, -⟩ := h.serveFrames (frames ++ [before ++ d :: after])
  rw [Bus.serveFrames_append] at hserve
  refine ⟨sim', _, ((b.serveFrames frames).1.processFrame (before ++ d :: after)).2, hserve,
    b.length_serveFrames frames, ?_, ?_⟩
  · rw [Bus.processFrame_getElem?, hread]
  · intro pre src post hcalls hsrc hpost
    have hset : (SlaveOp.write 0x0502 src).nextWord (pre.foldl SlaveOp.nextWord s.eepromAddr) =
        carriedAddress src := by
      have hcontrol : (0x0502 : UInt16).toNat = Reg.EEPROM_CONTROL ∧ 6 ≤ src.length :=
        ⟨rfl, hsrc⟩
      simp [SlaveOp.nextWord, SlaveOp.readsEeprom, SlaveOp.setsEepromAddr, hcontrol]
    show calls.foldl SlaveOp.nextWord s.eepromAddr = _
    rw [hcalls, List.foldl_append, List.foldl_cons, hset, nextWord_stream hpost]

/-- The word address `word` for a slave. -/
def eepromControl (addr word : UInt16) : Datagram where
  command := .FPWR
  address := le32 addr 0x0502
  data := [0, 1, loByte word, hiByte word, 0, 0]
  wkc := 0

/-- The words there. -/
def eepromData (addr : UInt16) : Datagram where
  command := .FPRD
  address := le32 addr 0x0508
  data := [0, 0, 0, 0]
  wkc := 0

/-- The mailbox words of the first of two slaves, from word 0x14 on.  A read of the second slave
is in between. -/
theorem eepromRead_twoSlaves :
    ∃ sim' outs last,
      SlavesEndpoint.serveFrames (twoSlaves true)
          [[eepromControl 1 0x14, eepromControl 2 0x08], [eepromData 1, eepromData 2],
            [eepromData 2, eepromData 1]] = some (sim', outs ++ [last]) ∧
      last[1]? = some { eepromData 1 with data := [0, 2, 0, 0], wkc := 1 } := by
  have hslave : (twoSlavesBus true).slaves[0]? =
      some ((VirtualSlave.new 1 0 0 ()).setOnline true) := rfl
  have hreads : (eepromData 1).ReadsSlave := by simp [Datagram.ReadsSlave, eepromData]
  obtain ⟨sim', outs, last, hserve, -, hread, -⟩ := eepromRead (twoSlaves_represents true)
    [[eepromControl 1 0x14, eepromControl 2 0x08], [eepromData 1, eepromData 2]]
    [eepromData 2] [] hslave hreads (by decide) (by decide) (by decide)
  exact ⟨sim', outs, last, hserve, hread⟩

end EthercatSim

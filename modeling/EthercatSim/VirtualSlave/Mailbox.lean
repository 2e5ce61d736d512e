import EthercatSim.Lib.Slot
import EthercatSim.VirtualSlave.SyncManager

/-!
# Mailbox exchange between a master and a slave

A master writes an SDO request into the receive window and reads the reply
from the send window.  It goes by the two sync manager status bytes: it writes
when SM0 shows not full, and reads when SM1 shows a reply.

Seen from outside the slave is a one-place buffer of replies.  `toSlot` is that
view, and `step_toSlot` says that every step of a polite master is a step of
the buffer.  The bit of SM1 is what says that the buffer is full: an AL
transition to INIT drops the member `mbHaveReply`, but neither the bit nor the
reply.

SM0 never shows full, by design of `syncSMStatus`, so it does not hold back a
request while a reply waits.  Hence:

* `mailbox_exactlyOnce_iff`: replies come in order and none twice; and every
  request is answered exactly once if and only if the master also waits for
  SM1 to be empty before it writes a request.
* `mailbox_polite_false`: two requests in a row, both written while SM0 shows
  not full, lose the first reply.
-/

namespace EthercatSim

open Kickcat Bytes StepRun

/-- The steps of a master: a request, a read of the send window, and anything
else that happens to the slave. -/
inductive MasterStep where
  | request (msg : List UInt8)
  | fetch (dst : List UInt8)
  | other (op : SlaveOp)
  deriving DecidableEq, Repr

namespace VirtualSlave

variable {σ : Type}

/-- The SM0 status byte shows not full. -/
def ShowsNotFull (s : VirtualSlave σ) : Prop :=
  s.regs.get (Reg.SYNC_MANAGER_0 + Reg.SM_STATS) &&& MAILBOX_STATUS = 0

/-- The SM1 status byte shows a reply. -/
def ShowsReply (s : VirtualSlave σ) : Prop :=
  s.regs.get (Reg.SYNC_MANAGER_1 + Reg.SM_STATS) &&& MAILBOX_STATUS ≠ 0

instance (s : VirtualSlave σ) : Decidable s.ShowsNotFull :=
  inferInstanceAs (Decidable (_ = _))

instance (s : VirtualSlave σ) : Decidable s.ShowsReply :=
  inferInstanceAs (Decidable (_ ≠ _))

/-- The reply to the request `msg`: the message that `handleMailboxWrite`
builds, at the start of an otherwise empty send buffer. -/
def replyTo [SlaveDevice σ] (s : VirtualSlave σ) (msg : List UInt8) : List UInt8 :=
  overwrite (List.replicate s.mbOut.length 0) 0
    (sdoReply { s with mbIn := overwrite s.mbIn 0 msg }).1.encode

/-- The mailbox as the constructor sets it up. -/
structure DefaultMailbox (s : VirtualSlave σ) : Prop where
  windows : s.windows = (0x1000, 512, 0x1200, 512)
  mbIn : s.mbIn.length = 512
  mbOut : s.mbOut.length = 512

/-- Calls that are no mailbox exchange: they leave both windows and the status
byte of SM1 alone. -/
def LeavesMailbox (s : VirtualSlave σ) : SlaveOp → Prop
  | .read reg dst => ¬InWindow s.mbSendOffset s.mbSendSize reg dst.length
  | .write reg src =>
    ¬InWindow s.mbRecvOffset s.mbRecvSize reg src.length ∧
      ¬s.ReconfiguresMailbox (.write reg src) ∧
      ¬(EscWrite reg src ∧ reg.toNat ≤ Reg.SYNC_MANAGER_1 + Reg.SM_STATS ∧
        Reg.SYNC_MANAGER_1 + Reg.SM_STATS < reg.toNat + src.length)
  | _ => True

instance (s : VirtualSlave σ) : (op : SlaveOp) → Decidable (s.LeavesMailbox op)
  | .read _ _ => inferInstanceAs (Decidable (¬_))
  | .write _ _ => inferInstanceAs (Decidable (_ ∧ _))
  | .setOnline _ | .setALState _ | .setInputPDOMapped _ | .start | .routine => isTrue trivial

/-! ## What the three kinds of step do -/

/-- What the master sees of the mailbox, and the buffers behind it. -/
def mailboxView (s : VirtualSlave σ) :
    (UInt16 × UInt16 × UInt16 × UInt16) × List UInt8 × List UInt8 × UInt8 :=
  (s.windows, s.mbIn, s.mbOut, s.regs.get (Reg.SYNC_MANAGER_1 + Reg.SM_STATS))

theorem DefaultMailbox.of_view_eq {s s' : VirtualSlave σ} (h : s.DefaultMailbox)
    (hview : s'.mailboxView = s.mailboxView) : s'.DefaultMailbox := by
  simp only [mailboxView, Prod.mk.injEq] at hview
  obtain ⟨hwin, hin, hout, -⟩ := hview
  exact ⟨hwin.trans h.windows, hin ▸ h.mbIn, hout ▸ h.mbOut⟩

theorem showsReply_iff_of_view_eq {s s' : VirtualSlave σ}
    (hview : s'.mailboxView = s.mailboxView) : s'.ShowsReply ↔ s.ShowsReply := by
  simp only [mailboxView, Prod.mk.injEq] at hview
  rw [ShowsReply, ShowsReply, hview.2.2.2]

theorem AlStep.mailboxView_eq {s s' : VirtualSlave σ} (h : AlStep s s') :
    s'.mailboxView = s.mailboxView := by
  have hframe := congrArg (fun s : VirtualSlave σ => (s.windows, s.mbIn, s.mbOut)) h.frame
  have hstatus := h.regs (Reg.SYNC_MANAGER_1 + Reg.SM_STATS) (by decide)
  simp only [Prod.mk.injEq] at hframe
  obtain ⟨hwin, hin, hout⟩ := hframe
  rw [mailboxView, mailboxView, hstatus]
  show (s'.windows, s'.mbIn, s'.mbOut, _) = (s.windows, s.mbIn, s.mbOut, _)
  rw [show s'.windows = s.windows from hwin, show s'.mbIn = s.mbIn from hin,
    show s'.mbOut = s.mbOut from hout]

/-- A write to ESC space shows in the mailbox only at the status byte of SM1. -/
theorem escWrite_mailboxView (s : VirtualSlave σ) {reg : UInt16} {src : List UInt8}
    (h : ¬(reg.toNat ≤ Reg.SYNC_MANAGER_1 + Reg.SM_STATS ∧
      Reg.SYNC_MANAGER_1 + Reg.SM_STATS < reg.toNat + src.length)) :
    (escWriteHooks { s with regs := s.regs.store reg.toNat src } reg src.length).mailboxView =
      s.mailboxView := by
  have hstore : ({ s with regs := s.regs.store reg.toNat src } : VirtualSlave σ).mailboxView =
      s.mailboxView := by
    have hget : (s.regs.store reg.toNat src).get (Reg.SYNC_MANAGER_1 + Reg.SM_STATS) =
        s.regs.get (Reg.SYNC_MANAGER_1 + Reg.SM_STATS) :=
      Cells.get_store_of_disjoint _ (by omega)
    rw [mailboxView, hget]
    rfl
  refine Eq.trans ?_ hstore
  rcases escWriteHooks_branch { s with regs := s.regs.store reg.toNat src } reg src.length with
    hstep | ⟨address, hset⟩
  · exact hstep.mailboxView_eq
  · show (escWriteHooks _ reg src.length).mailboxView = _
    rw [hset]
    rfl

/-- A call that leaves the mailbox alone does not change what the master sees
of it. -/
theorem step_mailboxView [SlaveDevice σ] {s : VirtualSlave σ} {op : SlaveOp}
    (h : s.LeavesMailbox op) : (s.step op).mailboxView = s.mailboxView := by
  cases op with
  | read reg dst =>
    show (s.read reg dst).2.2.mailboxView = _
    cases hout : s.read reg dst with
    | mk ok out =>
      have hbranch := s.read_branch reg dst
      rw [hout] at hbranch
      cases hbranch with
      | eeprom bytes hreg hlen => rfl
      | esc hsize => rfl
      | mailbox hreg hsize hwin => exact absurd hwin h
      | rejected hsize hwin => rfl
  | write reg src =>
    obtain ⟨hrecv, hreconf, hstatus⟩ := h
    show (s.write reg src).2.mailboxView = _
    cases hout : s.write reg src with
    | mk ok s' =>
      have hbranch := s.write_branch reg src
      rw [hout] at hbranch
      cases hbranch with
      | eeprom addr hreg hlen => rfl
      | esc hesc => exact s.escWrite_mailboxView fun hc => hstatus ⟨hesc, hc⟩
      | mailbox hreg hsize hwin => exact absurd hwin hrecv
      | syncManager hreg hsize hwin hsm => exact absurd ⟨hsize, hwin, hsm⟩ hreconf
      | rejected hreg hsize hwin hsm => rfl
  | setOnline on => exact (syncCoreRegisters_alStep { s with online := on }).mailboxView_eq
  | setALState st => exact (syncCoreRegisters_alStep { s with alState := st }).mailboxView_eq
  | setInputPDOMapped v => rfl
  | start => rfl
  | routine =>
    simp only [step, routine]
    split
    · rfl
    · exact (syncCoreRegisters_alStep s).mailboxView_eq

/-- A read of the whole send window returns the send buffer and empties the
bit of SM1. -/
theorem read_sendWindow {s : VirtualSlave σ} (h : s.DefaultMailbox) {dst : List UInt8}
    (hdst : dst.length = 512) :
    s.read 0x1200 dst = (true, s.mbOut, syncSMStatus { s with mbHaveReply := false }) := by
  have hwin := h.windows
  simp only [windows, Prod.mk.injEq] at hwin
  obtain ⟨-, -, hoff, hsize⟩ := hwin
  have hdata : ¬((0x1200 : UInt16).toNat = Reg.EEPROM_DATA ∧ 4 ≤ dst.length) :=
    fun hc => absurd hc.1 (by decide)
  have hesc : ¬((0x1200 : UInt16).toNat + dst.length ≤ 4096) := by
    rw [hdst]
    decide
  have hin : (0x1200 : UInt16).toNat ≤ (0x1200 : UInt16).toNat ∧
      (0x1200 : UInt16).toNat + dst.length ≤ (0x1200 : UInt16).toNat + (512 : UInt16).toNat := by
    rw [hdst]
    decide
  rw [read, if_neg hdata, if_neg hesc, hoff, hsize, if_pos hin]
  simp only [Nat.sub_self, Nat.sub_zero, List.drop_zero, h.mbOut, hdst, Nat.min_self]
  rw [List.take_of_length_le (Nat.le_of_eq h.mbOut),
    overwrite_eq_of_length (h.mbOut.trans hdst.symm)]

/-- After `syncSMStatus` the bit of SM1 is the member `mbHaveReply`. -/
theorem syncSMStatus_showsReply (s : VirtualSlave σ) :
    s.syncSMStatus.ShowsReply ↔ s.mbHaveReply = true := by
  have hget : s.syncSMStatus.regs.get (Reg.SYNC_MANAGER_1 + Reg.SM_STATS) =
      if s.mbHaveReply then MAILBOX_STATUS else 0x00 := by
    simp [syncSMStatus, Cells.get_set]
  rw [ShowsReply, hget]
  cases s.mbHaveReply <;> decide

/-- A message that fits into the receive window is accepted and answered; the
answer replaces the content of the send buffer and sets the bit of SM1. -/
theorem write_recvWindow [SlaveDevice σ] {s : VirtualSlave σ} (h : s.DefaultMailbox)
    {msg : List UInt8} (hlen : 16 ≤ msg.length) (hfits : msg.length ≤ 512) :
    (s.write 0x1000 msg).1 = true ∧ (s.write 0x1000 msg).2.DefaultMailbox ∧
      (s.write 0x1000 msg).2.mbOut = s.replyTo msg ∧ (s.write 0x1000 msg).2.ShowsReply := by
  have hwin := h.windows
  simp only [windows, Prod.mk.injEq] at hwin
  obtain ⟨hoff, hsize, -, -⟩ := hwin
  have hbase : (0x1000 : UInt16).toNat = 4096 := rfl
  have hctrl : ¬((0x1000 : UInt16).toNat = Reg.EEPROM_CONTROL ∧ 6 ≤ msg.length) :=
    fun hc => absurd hc.1 (by decide)
  have hesc : ¬((0x1000 : UInt16).toNat + msg.length ≤ 4096) := by omega
  have hin : (0x1000 : UInt16).toNat ≤ (0x1000 : UInt16).toNat ∧
      (0x1000 : UInt16).toNat + msg.length ≤ (0x1000 : UInt16).toNat + (512 : UInt16).toNat := by
    have h512 : (512 : UInt16).toNat = 512 := rfl
    omega
  have hwrite : s.write 0x1000 msg =
      (true, handleMailboxWrite { s with mbIn := overwrite s.mbIn 0 msg }) := by
    rw [write, if_neg hctrl, if_neg hesc, hoff, hsize, if_pos hin]
    simp only [Nat.sub_self, Nat.sub_zero, h.mbIn, Nat.min_eq_left hfits, List.take_length]
  rw [hwrite]
  generalize hs' : ({ s with mbIn := overwrite s.mbIn 0 msg } : VirtualSlave σ) = s'
  have hwindows : s'.windows = s.windows := by
    subst hs'
    rfl
  have hin' : s'.mbIn.length = 512 := by
    subst hs'
    exact (length_overwrite _ _ _).trans h.mbIn
  have hmbOut : s'.sdoReply.2.mbOut = s.mbOut := by
    rw [sdoReply_mbOut]
    subst hs'
    rfl
  have hreply : s'.handleMailboxWrite.mbOut = s.replyTo msg := by
    show overwrite (List.replicate s'.sdoReply.2.mbOut.length 0) 0 s'.sdoReply.1.encode = _
    rw [hmbOut, replyTo, hs']
  refine ⟨rfl, ⟨?_, ?_, ?_⟩, hreply, ?_⟩
  · rw [(handleMailboxWrite_mailboxStep s').windows_eq, hwindows]
    exact h.windows
  · show s'.sdoReply.2.mbIn.length = 512
    rw [sdoReply_mbIn]
    exact hin'
  · rw [hreply, replyTo, length_overwrite, List.length_replicate]
    exact h.mbOut
  · rw [handleMailboxWrite, syncSMStatus_showsReply]

/-- A longer message is refused, and nothing changes. -/
theorem write_recvWindow_too_long [SlaveDevice σ] {s : VirtualSlave σ} (h : s.DefaultMailbox)
    {msg : List UInt8} (hlong : 512 < msg.length) : s.write 0x1000 msg = (false, s) := by
  have hwin := h.windows
  simp only [windows, Prod.mk.injEq] at hwin
  obtain ⟨hoff, hsize, -, -⟩ := hwin
  have hbase : (0x1000 : UInt16).toNat = 4096 := rfl
  have h512 : (512 : UInt16).toNat = 512 := rfl
  have hctrl : ¬((0x1000 : UInt16).toNat = Reg.EEPROM_CONTROL ∧ 6 ≤ msg.length) :=
    fun hc => absurd hc.1 (by decide)
  have hesc : ¬((0x1000 : UInt16).toNat + msg.length ≤ 4096) := by omega
  have hout : ¬((0x1000 : UInt16).toNat ≤ (0x1000 : UInt16).toNat ∧
      (0x1000 : UInt16).toNat + msg.length ≤ (0x1000 : UInt16).toNat + (512 : UInt16).toNat) := by
    omega
  have hsm : ¬(Reg.SYNC_MANAGER ≤ (0x1000 : UInt16).toNat ∧
      (0x1000 : UInt16).toNat < Reg.SYNC_MANAGER + 16) := by
    decide
  rw [write, if_neg hctrl, if_neg hesc, hoff, hsize, if_neg hout, if_neg hsm]

end VirtualSlave

/-! ## The exchange as a one-place buffer -/

/-- A slave with the history of its mailbox: the replies to the requests that it
accepted, and what the reads of the send window returned. -/
structure Exchange (σ : Type) where
  slave : VirtualSlave σ
  answers : List (List UInt8)
  fetched : List (List UInt8)

namespace Exchange

variable {σ : Type}

/-- A fresh slave with an empty history. -/
def start (address : UInt16) (vendorId productCode : UInt32) (device : σ) : Exchange σ :=
  { slave := VirtualSlave.new address vendorId productCode device, answers := [], fetched := [] }

/-- One step of the master, with its entry in the history. -/
def step [SlaveDevice σ] (x : Exchange σ) : MasterStep → Exchange σ
  | .request msg =>
    let out := x.slave.write 0x1000 msg
    { slave := out.2
      answers := if out.1 then x.answers ++ [x.slave.replyTo msg] else x.answers
      fetched := x.fetched }
  | .fetch dst =>
    let out := x.slave.read 0x1200 dst
    { slave := out.2.2
      answers := x.answers
      fetched := if out.1 then x.fetched ++ [out.2.1] else x.fetched }
  | .other op => { x with slave := x.slave.step op }

/-- The master writes a whole request only while SM0 shows not full, and reads
the whole send window only while SM1 shows a reply. -/
def Polite (x : Exchange σ) : MasterStep → Prop
  | .request msg => 16 ≤ msg.length ∧ x.slave.ShowsNotFull
  | .fetch dst => dst.length = 512 ∧ x.slave.ShowsReply
  | .other op => x.slave.LeavesMailbox op

/-- The master also waits for SM1 to be empty before it writes a request that
fits into the receive window. -/
def WaitsForReply (x : Exchange σ) : MasterStep → Prop
  | .request msg => msg.length ≤ 512 → ¬x.slave.ShowsReply
  | _ => True

instance (x : Exchange σ) : (op : MasterStep) → Decidable (x.Polite op)
  | .request _ => inferInstanceAs (Decidable (_ ∧ _))
  | .fetch _ => inferInstanceAs (Decidable (_ ∧ _))
  | .other op => inferInstanceAs (Decidable (x.slave.LeavesMailbox op))

instance (x : Exchange σ) : (op : MasterStep) → Decidable (x.WaitsForReply op)
  | .request _ => inferInstanceAs (Decidable (_ → _))
  | .fetch _ | .other _ => isTrue trivial

/-- The reply that waits in the send window. -/
def waiting (x : Exchange σ) : Option (List UInt8) :=
  if x.slave.ShowsReply then some x.slave.mbOut else none

/-- Every accepted request has been answered by exactly one reply, in order; the
last of them may still wait in the send window. -/
def ExactlyOnce (x : Exchange σ) : Prop := x.answers = x.fetched ++ x.waiting.toList

instance (x : Exchange σ) : Decidable x.ExactlyOnce := inferInstanceAs (Decidable (_ = _))

/-- The replies that were or can be read are replies to different requests, in
the order of the requests. -/
def AtMostOnce (x : Exchange σ) : Prop := (x.fetched ++ x.waiting.toList).Sublist x.answers

/-- The next read of the send window returns the reply that waits. -/
def Delivers (x : Exchange σ) : Prop :=
  ∀ dst reply, dst.length = 512 → x.waiting = some reply →
    ∃ s', x.slave.read 0x1200 dst = (true, reply, s')

/-- The one-place buffer that the master sees. -/
def toSlot (x : Exchange σ) : Slot (List UInt8) :=
  { pending := x.waiting, produced := x.answers, consumed := x.fetched }

/-- What a step of the master is for that buffer. -/
def toSlotOp [SlaveDevice σ] (x : Exchange σ) : MasterStep → Slot.Op (List UInt8)
  | .request msg => if msg.length ≤ 512 then .put (x.slave.replyTo msg) else .skip
  | .fetch _ => .take
  | .other _ => .skip

theorem start_defaultMailbox (address : UInt16) (vendorId productCode : UInt32) (device : σ) :
    (start address vendorId productCode device).slave.DefaultMailbox :=
  ⟨rfl, List.length_replicate, List.length_replicate⟩

theorem start_waiting (address : UInt16) (vendorId productCode : UInt32) (device : σ) :
    (start address vendorId productCode device).waiting = none := by
  have hempty : ¬(start address vendorId productCode device).slave.ShowsReply := by
    show ¬(VirtualSlave.syncSMStatus _).ShowsReply
    rw [VirtualSlave.syncSMStatus_showsReply]
    exact Bool.false_ne_true
  exact if_neg hempty

/-- A step of a polite master is a step of the buffer. -/
theorem step_toSlot [SlaveDevice σ] {x : Exchange σ} {op : MasterStep}
    (h : x.slave.DefaultMailbox) (hop : x.Polite op) :
    (x.step op).slave.DefaultMailbox ∧ (x.step op).toSlot = x.toSlot.step (x.toSlotOp op) := by
  cases op with
  | request msg =>
    by_cases hfits : msg.length ≤ 512
    · obtain ⟨hok, hdefault, hout, hshows⟩ := VirtualSlave.write_recvWindow h hop.1 hfits
      refine ⟨hdefault, ?_⟩
      rw [toSlotOp, if_pos hfits, toSlot, waiting, step]
      simp only [hok, if_true, if_pos hshows, hout]
      rfl
    · have hrefused := VirtualSlave.write_recvWindow_too_long h (Nat.lt_of_not_le hfits)
      have hstep : x.step (.request msg) = x := by
        rw [step, hrefused]
        rfl
      rw [toSlotOp, if_neg hfits, hstep]
      exact ⟨h, rfl⟩
  | fetch dst =>
    have hread := VirtualSlave.read_sendWindow h hop.1
    have hstep : x.step (.fetch dst) =
        { slave := VirtualSlave.syncSMStatus { x.slave with mbHaveReply := false }
          answers := x.answers
          fetched := x.fetched ++ [x.slave.mbOut] } := by
      rw [step, hread]
      rfl
    have hempty :
        ¬(VirtualSlave.syncSMStatus { x.slave with mbHaveReply := false }).ShowsReply := by
      rw [VirtualSlave.syncSMStatus_showsReply]
      exact Bool.false_ne_true
    have hbefore : x.waiting = some x.slave.mbOut := if_pos hop.2
    rw [hstep]
    refine ⟨⟨h.windows, h.mbIn, h.mbOut⟩, ?_⟩
    rw [toSlot, waiting, if_neg hempty, toSlotOp, Slot.step, toSlot, hbefore]
    rfl
  | other op =>
    have hview := VirtualSlave.step_mailboxView hop
    refine ⟨h.of_view_eq hview, ?_⟩
    have hwaiting : (x.step (.other op)).waiting = x.waiting := by
      have hshows : (x.slave.step op).ShowsReply ↔ x.slave.ShowsReply :=
        VirtualSlave.showsReply_iff_of_view_eq hview
      have hout : (x.slave.step op).mbOut = x.slave.mbOut :=
        congrArg (fun v => v.2.2.1) hview
      show (if (x.slave.step op).ShowsReply then some (x.slave.step op).mbOut else none) =
        if x.slave.ShowsReply then some x.slave.mbOut else none
      simp only [hshows, hout]
    rw [toSlot, hwaiting]
    rfl

theorem exactlyOnce_iff_lossless (x : Exchange σ) : x.ExactlyOnce ↔ x.toSlot.Lossless := Iff.rfl

theorem atMostOnce_iff_inOrder (x : Exchange σ) : x.AtMostOnce ↔ x.toSlot.InOrder := Iff.rfl

/-- The master waits for the reply exactly when the producer of the buffer waits
for it to be empty. -/
theorem waitsForReply_iff_waits [SlaveDevice σ] (x : Exchange σ) (op : MasterStep) :
    x.WaitsForReply op ↔ x.toSlot.Waits (x.toSlotOp op) := by
  cases op with
  | request msg =>
    rw [WaitsForReply, toSlotOp]
    by_cases hfits : msg.length ≤ 512
    · rw [if_pos hfits]
      show (msg.length ≤ 512 → ¬x.slave.ShowsReply) ↔ x.waiting = none
      rw [waiting]
      by_cases hshows : x.slave.ShowsReply
      · simp [hshows, hfits]
      · simp [hshows]
    · rw [if_neg hfits]
      exact ⟨fun _ => trivial, fun _ hc => absurd hc hfits⟩
  | fetch dst => exact ⟨fun _ => trivial, fun _ => trivial⟩
  | other op => exact ⟨fun _ => trivial, fun _ => trivial⟩

theorem delivers_of_defaultMailbox {x : Exchange σ} (h : x.slave.DefaultMailbox) : x.Delivers := by
  intro dst reply hdst hwaiting
  have hreply : x.slave.mbOut = reply := by
    rw [waiting] at hwaiting
    split at hwaiting
    · exact Option.some.inj hwaiting
    · simp at hwaiting
  exact ⟨_, hreply ▸ VirtualSlave.read_sendWindow h hdst⟩

/-! ## Whole runs -/

/-- A run of a polite master on a fresh slave.  In every state the replies that
were read, with the one that waits, are replies to different requests in the
order of the requests, and the next read returns the one that waits.  Every
accepted request is answered exactly once, all along the run, if and only if
the master also waits for each reply before it writes the next request. -/
theorem mailbox_exactlyOnce_iff [SlaveDevice σ] (address : UInt16) (vendorId productCode : UInt32)
    (device : σ) (ops : List MasterStep)
    (hops : StepsOk step Polite (start address vendorId productCode device) ops) :
    Always step (fun x => x.AtMostOnce ∧ x.Delivers)
        (start address vendorId productCode device) ops ∧
      (Always step ExactlyOnce (start address vendorId productCode device) ops ↔
        StepsOk step WaitsForReply (start address vendorId productCode device) ops) := by
  have hdefault := start_defaultMailbox address vendorId productCode device
  have hwaiting := start_waiting address vendorId productCode device
  have hstep : ∀ (x : Exchange σ) (op : MasterStep), x.slave.DefaultMailbox → x.Polite op →
      (x.step op).slave.DefaultMailbox :=
    fun x op hx hop => (step_toSlot hx hop).1
  constructor
  · have hkeeps : ∀ (x : Exchange σ) (op : MasterStep), x.slave.DefaultMailbox ∧ x.AtMostOnce →
        x.Polite op → (x.step op).slave.DefaultMailbox ∧ (x.step op).AtMostOnce := by
      intro x op hx hop
      refine ⟨hstep x op hx.1 hop, ?_⟩
      rw [atMostOnce_iff_inOrder, (step_toSlot hx.1 hop).2]
      exact Slot.step_inOrder ((atMostOnce_iff_inOrder x).mp hx.2) _
    have hstart : (start address vendorId productCode device).AtMostOnce := by
      rw [AtMostOnce, hwaiting]
      exact List.Sublist.refl []
    exact (always_of_step hkeeps ⟨hdefault, hstart⟩ hops).imp
      fun x hx => ⟨hx.2, delivers_of_defaultMailbox hx.1⟩
  · have hexact : ∀ (x : Exchange σ) (op : MasterStep), x.slave.DefaultMailbox → x.Polite op →
        x.ExactlyOnce → ((x.step op).ExactlyOnce ↔ x.WaitsForReply op) := by
      intro x op hx hop hP
      rw [exactlyOnce_iff_lossless, (step_toSlot hx hop).2, waitsForReply_iff_waits]
      exact Slot.step_lossless_iff ((exactlyOnce_iff_lossless x).mp hP) _
    have hstart : (start address vendorId productCode device).ExactlyOnce := by
      rw [ExactlyOnce, hwaiting]
      rfl
    exact always_iff_of_allowed hstep hexact hdefault hstart hops

/-- An upload of 0x1018:1, the vendor id. -/
def uploadVendorId : List UInt8 := [10, 0, 0, 0, 0, 0x13, 0, 0x20, 0x40, 0x18, 0x10, 1, 0, 0, 0, 0]

/-- An upload of 0x1018:2, the product code. -/
def uploadProductCode : List UInt8 :=
  [10, 0, 0, 0, 0, 0x23, 0, 0x20, 0x40, 0x18, 0x10, 2, 0, 0, 0, 0]

/-- A request, the read of its reply, and a second request are exchanged
exactly once. -/
theorem mailbox_exactlyOnce_request_fetch_request :
    Always step ExactlyOnce (start 1 2 3 ())
      [.request uploadVendorId, .fetch (List.replicate 512 0), .request uploadProductCode] := by
  have hops : StepsOk step Polite (start 1 2 3 ())
      [.request uploadVendorId, .fetch (List.replicate 512 0), .request uploadProductCode] := by
    decide +kernel
  have hwaits : StepsOk step WaitsForReply (start 1 2 3 ())
      [.request uploadVendorId, .fetch (List.replicate 512 0), .request uploadProductCode] := by
    decide +kernel
  exact (mailbox_exactlyOnce_iff 1 2 3 () _ hops).2.mpr hwaits

/-- Two requests in a row, both written while SM0 shows not full.  One reply
can be read, the answer to the second request, and then SM1 shows none. -/
theorem mailbox_polite_false :
    StepsOk step Polite (start 1 2 3 ())
        [.request uploadVendorId, .request uploadProductCode,
          .fetch (List.replicate 512 0)] ∧
      ¬(run step (start 1 2 3 ())
        [.request uploadVendorId, .request uploadProductCode,
          .fetch (List.replicate 512 0)]).ExactlyOnce := by
  refine ⟨by decide +kernel, ?_⟩
  intro h
  have hlength := congrArg List.length h
  exact absurd hlength (by decide +kernel)

end Exchange

end EthercatSim

import EthercatSim.VirtualSlave.Mailbox

/-!
# What an SDO reply says

`handleMailboxWrite` fills a cleared send buffer from the request in the
receive buffer.  `replyMessage` is the message that a request calls for, field
by field, and `sdoReply_onWire` says that a master which reads the send window
decodes this message and nothing else.

* `sdoReply_onWire`: whatever was exchanged before, the bytes that are read
  are the reply to the last request, followed by zeros.
-/

namespace EthercatSim

open Kickcat Bytes StepRun

namespace VirtualSlave

variable {σ : Type}

/-! ## The message that a request calls for -/

/-- What the slave serves for an upload of an object: an entry of the identity
object, or what the hook of the subclass answers.  `none` is an object that
nobody handles. -/
def uploadValue [SlaveDevice σ] (s : VirtualSlave σ) (index : UInt16) (subindex : UInt8) :
    Option UInt32 :=
  if index = 0x1018 ∧ 1 ≤ subindex ∧ subindex ≤ 4 then
    some (if subindex = 1 then s.vendorId else if subindex = 2 then s.productCode else 0)
  else (SlaveDevice.onSdoUpload s.device index subindex).1

/-- The reply that the request calls for. -/
def replyMessage [SlaveDevice σ] (s : VirtualSlave σ) (req : SdoMessage) : SdoMessage where
  len := 10
  type := mailboxCoE
  count := req.count
  service := CoE.SDO_RESPONSE
  sizeIndicator := 1
  transferType := 1
  blockSize := 0
  command :=
    if req.service = CoE.SDO_REQUEST ∧ req.command = CoE.REQUEST_DOWNLOAD then
      CoE.RESPONSE_DOWNLOAD
    else CoE.RESPONSE_UPLOAD
  index := req.index
  subindex := req.subindex
  payload :=
    if req.service = CoE.SDO_REQUEST ∧ req.command = CoE.REQUEST_UPLOAD then
      (s.uploadValue req.index req.subindex).getD 0
    else 0

section Reply

variable [SlaveDevice σ]

theorem sdoUpload_value (s : VirtualSlave σ) (index : UInt16) (subindex : UInt8) :
    (s.sdoUpload index subindex).1 = s.uploadValue index subindex := by
  have hrange : 1 ≤ subindex ∧ subindex ≤ 4 ↔
      subindex = 1 ∨ subindex = 2 ∨ subindex = 3 ∨ subindex = 4 := by
    simp only [← UInt8.toNat_inj, UInt8.le_iff_toNat_le, UInt8.toNat_ofNat]
    omega
  unfold sdoUpload uploadValue
  by_cases hindex : index = 0x1018
  · by_cases h1 : subindex = 1
    · simp [hindex, h1]
    by_cases h2 : subindex = 2
    · simp [hindex, h2]
    by_cases h3 : subindex = 3
    · simp [hindex, h3]
    by_cases h4 : subindex = 4
    · simp [hindex, h4]
    have hnot : ¬(1 ≤ subindex ∧ subindex ≤ 4) := by
      rw [hrange]
      simp [h1, h2, h3, h4]
    simp [hindex, h1, h2, h3, h4, hnot]
  · simp [hindex]

theorem sdoReply_message (s : VirtualSlave σ) :
    s.sdoReply.1 = s.replyMessage (SdoMessage.decode s.mbIn) := by
  have hvalue := s.sdoUpload_value (SdoMessage.decode s.mbIn).index
    (SdoMessage.decode s.mbIn).subindex
  generalize hreq : SdoMessage.decode s.mbIn = req at hvalue
  unfold sdoReply replyMessage
  simp only [hreq]
  by_cases hup : req.service = CoE.SDO_REQUEST ∧ req.command = CoE.REQUEST_UPLOAD
  · have hdown : ¬(req.service = CoE.SDO_REQUEST ∧ req.command = CoE.REQUEST_DOWNLOAD) := by
      intro hc
      exact absurd (hup.2.symm.trans hc.2) (by decide)
    rw [if_pos hup, if_pos hup, if_neg hdown, ← hvalue]
  · rw [if_neg hup, if_neg hup]
    by_cases hdown : req.service = CoE.SDO_REQUEST ∧ req.command = CoE.REQUEST_DOWNLOAD
    · rw [if_pos hdown, if_pos hdown]
    · rw [if_neg hdown, if_neg hdown]

/-- Every field of a reply fits into its bit-field. -/
theorem replyMessage_wellFormed (s : VirtualSlave σ) (msg : List UInt8) :
    (s.replyMessage (SdoMessage.decode msg)).WellFormed where
  type := (by decide : mailboxCoE < 16)
  count := (SdoMessage.decode_wellFormed msg).count
  service := (by decide : CoE.SDO_RESPONSE < 16)
  sizeIndicator := (by decide : (1 : UInt8) < 2)
  transferType := (by decide : (1 : UInt8) < 2)
  blockSize := (by decide : (0 : UInt8) < 4)
  command := by
    unfold replyMessage
    simp only
    split <;> decide

/-- The reply lies at the start of an otherwise empty buffer. -/
theorem handleMailboxWrite_mbOut {s : VirtualSlave σ} (h : 16 ≤ s.mbOut.length) :
    s.handleMailboxWrite.mbOut =
      (s.replyMessage (SdoMessage.decode s.mbIn)).encode ++
        List.replicate (s.mbOut.length - 16) 0 := by
  show overwrite (List.replicate s.sdoReply.2.mbOut.length 0) 0 s.sdoReply.1.encode = _
  rw [sdoReply_mbOut, sdoReply_message]
  exact overwrite_replicate h 0

/-- The reply does not depend on what either buffer held before. -/
theorem replyTo_eq {s : VirtualSlave σ} (h : s.DefaultMailbox) {msg : List UInt8}
    (hlen : 16 ≤ msg.length) :
    s.replyTo msg = (s.replyMessage (SdoMessage.decode msg)).encode ++ List.replicate 496 0 := by
  have hreq : SdoMessage.decode (overwrite s.mbIn 0 msg) = SdoMessage.decode msg := by
    apply SdoMessage.decode_congr
    intro i hi
    rw [getD_overwrite, if_pos (by rw [h.mbIn]; omega), Nat.sub_zero]
  rw [replyTo, sdoReply_message, h.mbOut]
  show overwrite _ 0 (s.replyMessage (SdoMessage.decode (overwrite s.mbIn 0 msg))).encode = _
  rw [hreq]
  have hfits : (s.replyMessage (SdoMessage.decode msg)).encode.length ≤ 512 := by
    rw [SdoMessage.length_encode]
    decide
  exact overwrite_replicate hfits 0

/-! ## The exchange -/

/-- The handler writes the buffers in place. -/
theorem handleMailboxWrite_defaultMailbox {s : VirtualSlave σ} (h : s.DefaultMailbox) :
    (handleMailboxWrite s).DefaultMailbox := by
  refine ⟨?_, ?_, ?_⟩
  · rw [(handleMailboxWrite_mailboxStep s).windows_eq]
    exact h.windows
  · show (sdoReply s).2.mbIn.length = 512
    rw [sdoReply_mbIn]
    exact h.mbIn
  · show (overwrite (List.replicate (sdoReply s).2.mbOut.length 0) 0 _).length = 512
    rw [length_overwrite, List.length_replicate, sdoReply_mbOut]
    exact h.mbOut

/-- Only a reconfiguration moves the windows or resizes the buffers. -/
theorem step_defaultMailbox {s : VirtualSlave σ} (h : s.DefaultMailbox) {op : SlaveOp}
    (hop : ¬s.ReconfiguresMailbox op) : (s.step op).DefaultMailbox := by
  cases op with
  | read reg dst =>
    show (s.read reg dst).2.2.DefaultMailbox
    cases hout : s.read reg dst with
    | mk ok out =>
      have hbranch := s.read_branch reg dst
      rw [hout] at hbranch
      cases hbranch <;> exact ⟨h.windows, h.mbIn, h.mbOut⟩
  | write reg src =>
    show (s.write reg src).2.DefaultMailbox
    cases hout : s.write reg src with
    | mk ok s' =>
      have hbranch := s.write_branch reg src
      rw [hout] at hbranch
      cases hbranch with
      | eeprom addr hreg hlen => exact ⟨h.windows, h.mbIn, h.mbOut⟩
      | esc hesc =>
        have hstored : DefaultMailbox { s with regs := s.regs.store reg.toNat src } :=
          ⟨h.windows, h.mbIn, h.mbOut⟩
        show (escWriteHooks _ reg src.length).DefaultMailbox
        rcases escWriteHooks_branch _ reg src.length with hstep | ⟨address, hset⟩
        · exact hstored.of_view_eq hstep.mailboxView_eq
        · rw [hset]
          exact ⟨h.windows, h.mbIn, h.mbOut⟩
      | mailbox hreg hsize hwin =>
        apply handleMailboxWrite_defaultMailbox
        exact ⟨h.windows, (length_overwrite _ _ _).trans h.mbIn, h.mbOut⟩
      | syncManager hreg hsize hwin hsm => exact absurd ⟨hsize, hwin, hsm⟩ hop
      | rejected hreg hsize hwin hsm => exact h
  | setOnline on =>
    exact h.of_view_eq (syncCoreRegisters_alStep { s with online := on }).mailboxView_eq
  | setALState st =>
    exact h.of_view_eq (syncCoreRegisters_alStep { s with alState := st }).mailboxView_eq
  | setInputPDOMapped v => exact ⟨h.windows, h.mbIn, h.mbOut⟩
  | start => exact ⟨h.windows, h.mbIn, h.mbOut⟩
  | routine =>
    simp only [step, routine]
    split
    · exact h
    · exact h.of_view_eq (syncCoreRegisters_alStep s).mailboxView_eq

/-- Calls that leave the mailbox alone keep the reply that waits. -/
theorem run_mailboxView {s : VirtualSlave σ} {ops : List SlaveOp}
    (hops : StepsOk step LeavesMailbox s ops) : (run step s ops).mailboxView = s.mailboxView := by
  induction ops generalizing s with
  | nil => rfl
  | cons op ops ih => rw [run_cons, ih hops.2, step_mailboxView hops.1]

omit [SlaveDevice σ] in
/-- A read from the start of the send window returns the front of the send
buffer. -/
theorem read_sendWindow_front {s : VirtualSlave σ} (h : s.DefaultMailbox) {dst : List UInt8}
    (hdst : dst.length ≤ 512) :
    (s.read 0x1200 dst).1 = true ∧ (s.read 0x1200 dst).2.1 = s.mbOut.take dst.length := by
  have hwin := h.windows
  simp only [windows, Prod.mk.injEq] at hwin
  obtain ⟨-, -, hoff, hsize⟩ := hwin
  have hbase : (0x1200 : UInt16).toNat = 4608 := rfl
  have h512 : (512 : UInt16).toNat = 512 := rfl
  have hdata : ¬((0x1200 : UInt16).toNat = Reg.EEPROM_DATA ∧ 4 ≤ dst.length) :=
    fun hc => absurd hc.1 (by decide)
  have hesc : ¬((0x1200 : UInt16).toNat + dst.length ≤ 4096) := by omega
  have hin : (0x1200 : UInt16).toNat ≤ (0x1200 : UInt16).toNat ∧
      (0x1200 : UInt16).toNat + dst.length ≤ (0x1200 : UInt16).toNat + (512 : UInt16).toNat := by
    omega
  have hcopy : overwrite dst 0 (s.mbOut.take dst.length) = s.mbOut.take dst.length := by
    apply overwrite_eq_of_length
    rw [List.length_take, h.mbOut]
    omega
  rw [read, if_neg hdata, if_neg hesc, hoff, hsize, if_pos hin]
  simp only [Nat.sub_self, Nat.sub_zero, List.drop_zero, h.mbOut, Nat.min_eq_left hdst, hcopy,
    and_self]

/-- The reply on the wire.  Whatever was exchanged before, a message that was
accepted at the start of the receive window is answered by the bytes of
`replyMessage` and zeros behind them, and they decode to that message. -/
theorem sdoReply_onWire {s : VirtualSlave σ} (h : s.DefaultMailbox) {msg : List UInt8}
    (hlen : 16 ≤ msg.length) (hwritten : (s.write 0x1000 msg).1 = true) {ops : List SlaveOp}
    (hops : StepsOk step LeavesMailbox (s.write 0x1000 msg).2 ops) {dst : List UInt8}
    (hdst : 16 ≤ dst.length) (hfits : dst.length ≤ 512) :
    let reply := s.replyMessage (SdoMessage.decode msg)
    let out := (run step (s.write 0x1000 msg).2 ops).read 0x1200 dst
    out.1 = true ∧ SdoMessage.decode out.2.1 = reply ∧
      out.2.1 = reply.encode ++ List.replicate (dst.length - 16) 0 := by
  intro reply out
  have hshort : msg.length ≤ 512 := by
    by_contra hlong
    rw [write_recvWindow_too_long h (Nat.lt_of_not_le hlong)] at hwritten
    exact Bool.false_ne_true hwritten
  obtain ⟨-, hdefault, hbuffer, -⟩ := write_recvWindow h hlen hshort
  have hview := run_mailboxView hops
  have hwaits : (run step (s.write 0x1000 msg).2 ops).mbOut =
      reply.encode ++ List.replicate 496 0 := by
    have hkept := congrArg (fun v => v.2.2.1) hview
    exact hkept.trans (hbuffer.trans (replyTo_eq h hlen))
  obtain ⟨hok, hbytes⟩ := read_sendWindow_front (hdefault.of_view_eq hview) hfits
  have hread : out.2.1 = reply.encode ++ List.replicate (dst.length - 16) 0 := by
    show (VirtualSlave.read _ 0x1200 dst).2.1 = _
    rw [hbytes, hwaits, List.take_append, SdoMessage.length_encode, List.take_replicate,
      List.take_of_length_le (by rw [SdoMessage.length_encode]; exact hdst),
      Nat.min_eq_left (by omega)]
  refine ⟨hok, ?_, hread⟩
  rw [hread]
  exact SdoMessage.decode_encode (s.replyMessage_wellFormed msg) _

end Reply

/-- The vendor id is read from a slave that has answered another request before. -/
theorem sdoReply_onWire_vendorId :
    let s := run step (new 1 0x12345678 0x1111 ()) [.write 0x1000 Exchange.uploadProductCode]
    let s' := run step (s.write 0x1000 Exchange.uploadVendorId).2 [.read 0x0130 [0, 0]]
    SdoMessage.decode (s'.read 0x1200 (List.replicate 64 0)).2.1 =
      { len := 10, type := mailboxCoE, count := 1, service := CoE.SDO_RESPONSE
        sizeIndicator := 1, transferType := 1, blockSize := 0
        command := CoE.RESPONSE_UPLOAD, index := 0x1018, subindex := 1
        payload := 0x12345678 } := by
  intro s s'
  have hnew : (new 1 0x12345678 0x1111 ()).DefaultMailbox :=
    Exchange.start_defaultMailbox 1 0x12345678 0x1111 ()
  have hkeep : ¬(new 1 0x12345678 0x1111 ()).ReconfiguresMailbox
      (.write 0x1000 Exchange.uploadProductCode) := by
    decide +kernel
  have hdefault : s.DefaultMailbox := by
    show (run step _ [_]).DefaultMailbox
    rw [run_cons, run_nil]
    exact step_defaultMailbox hnew hkeep
  have hlen : 16 ≤ Exchange.uploadVendorId.length := by decide
  have hwritten : (s.write 0x1000 Exchange.uploadVendorId).1 = true := by decide +kernel
  have hops : StepsOk step LeavesMailbox (s.write 0x1000 Exchange.uploadVendorId).2
      [.read 0x0130 [0, 0]] := by
    decide +kernel
  have hdst : 16 ≤ (List.replicate 64 (0 : UInt8)).length := by simp
  have hfits : (List.replicate 64 (0 : UInt8)).length ≤ 512 := by simp
  have hmessage : s.replyMessage (SdoMessage.decode Exchange.uploadVendorId) =
      { len := 10, type := mailboxCoE, count := 1, service := CoE.SDO_RESPONSE
        sizeIndicator := 1, transferType := 1, blockSize := 0
        command := CoE.RESPONSE_UPLOAD, index := 0x1018, subindex := 1
        payload := 0x12345678 } := by
    decide +kernel
  obtain ⟨-, hdecode, -⟩ := sdoReply_onWire hdefault hlen hwritten hops hdst hfits
  rw [hdecode]
  exact hmessage

end VirtualSlave

end EthercatSim

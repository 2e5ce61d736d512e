import EthercatSim.VirtualSlave.SdoReply
import EthercatSim.El1258.Model
import EthercatSim.Slaves.EL1258

/-!
# Refused requests and their replies

`handleMailboxWrite` computes whether an upload was handled, and calls
`onSdoDownload` for its answer, but drops both.  So the reply to a refused
upload is the reply to an upload of the value zero, and the reply to a refused
download is the acknowledgement of an accepted one.

* `reply_receive`: a message that is written to the mailbox is answered by `reply`.
* `refusal_toldApart_iff`: no refusal is told apart from every success.  A
  master that knows the class of the slave tells a refusal apart exactly when
  that class never serves the object with zero, or never accepts the download.
* `refusal_toldApart_false`: the two classes for an EL1258 terminal give the
  same bytes, one for a refusal and the other for a success.
-/

namespace EthercatSim

open Kickcat Bytes

namespace VirtualSlave

variable {σ τ : Type}

/-- The slave with the message `msg` in the receive buffer. -/
def receive (s : VirtualSlave σ) (msg : List UInt8) : VirtualSlave σ :=
  { s with mbIn := overwrite s.mbIn 0 msg }

/-- The request in the receive buffer. -/
def request (s : VirtualSlave σ) : SdoMessage := SdoMessage.decode s.mbIn

/-- A whole CoE SDO request lies in the receive buffer, and the send buffer has
room for a whole reply. -/
structure HoldsRequest (s : VirtualSlave σ) : Prop where
  mbIn : 16 ≤ s.mbIn.length
  mbOut : 16 ≤ s.mbOut.length
  type : s.request.type = mailboxCoE
  service : s.request.service = CoE.SDO_REQUEST

instance (s : VirtualSlave σ) : Decidable s.HoldsRequest :=
  decidable_of_iff (16 ≤ s.mbIn.length ∧ 16 ≤ s.mbOut.length ∧ s.request.type = mailboxCoE ∧
      s.request.service = CoE.SDO_REQUEST)
    ⟨fun h => ⟨h.1, h.2.1, h.2.2.1, h.2.2.2⟩, fun h => ⟨h.mbIn, h.mbOut, h.type, h.service⟩⟩

/-- Two requests with the same session handle name the same object. -/
def SameObject (s : VirtualSlave σ) (s' : VirtualSlave τ) : Prop :=
  s.request.count = s'.request.count ∧ s.request.index = s'.request.index ∧
    s.request.subindex = s'.request.subindex

section Outcome

variable [SlaveDevice σ] [SlaveDevice τ]

/-- The content of the send buffer once the request has been handled. -/
def reply (s : VirtualSlave σ) : List UInt8 := s.handleMailboxWrite.mbOut

/-- What an upload of the requested object is served with. -/
def served (s : VirtualSlave σ) : Option UInt32 :=
  s.uploadValue s.request.index s.request.subindex

/-- The answer of `onSdoDownload` to the requested download. -/
def accepts (s : VirtualSlave σ) : Bool :=
  (s.sdoDownload s.request.index s.request.subindex s.request.payload 4).1

/-- The request is served. -/
def Served (s : VirtualSlave σ) : Prop :=
  (s.request.command = CoE.REQUEST_UPLOAD ∧ s.served.isSome = true) ∨
    (s.request.command = CoE.REQUEST_DOWNLOAD ∧ s.accepts = true)

/-- The request asks for an object that is not served. -/
def Refused (s : VirtualSlave σ) : Prop :=
  (s.request.command = CoE.REQUEST_UPLOAD ∧ s.served = none) ∨
    (s.request.command = CoE.REQUEST_DOWNLOAD ∧ s.accepts = false)

instance (s : VirtualSlave σ) (s' : VirtualSlave τ) : Decidable (s.SameObject s') :=
  inferInstanceAs (Decidable (_ ∧ _ ∧ _))

instance (s : VirtualSlave σ) : Decidable s.Served := inferInstanceAs (Decidable (_ ∨ _))

instance (s : VirtualSlave σ) : Decidable s.Refused := inferInstanceAs (Decidable (_ ∨ _))

/-- The reply differs from every reply that a slave of class `τ` gives to a
served request for the same object. -/
def ToldApartFrom (τ : Type) [SlaveDevice τ] (s : VirtualSlave σ) : Prop :=
  ∀ s' : VirtualSlave τ, s'.HoldsRequest → s'.Served → s'.SameObject s → s'.reply ≠ s.reply

/-- No state of class `τ` serves the requested upload with zero, and none accepts
a download to the requested object, whatever the value. -/
def NeverServedBy (τ : Type) [SlaveDevice τ] (s : VirtualSlave σ) : Prop :=
  (s.request.command = CoE.REQUEST_UPLOAD →
      ∀ d : τ, (SlaveDevice.onSdoUpload d s.request.index s.request.subindex).1 ≠ some 0) ∧
    (s.request.command = CoE.REQUEST_DOWNLOAD →
      ∀ (d : τ) (mapped : Bool) (value : UInt32),
        (SlaveDevice.onSdoDownload d mapped s.request.index s.request.subindex value 4).1 = false)

/-! ## The reply to a request -/

theorem reply_eq {s : VirtualSlave σ} (h : s.HoldsRequest) :
    s.reply = (s.replyMessage s.request).encode ++ List.replicate (s.mbOut.length - 16) 0 :=
  handleMailboxWrite_mbOut h.mbOut

/-- A message that is written to the mailbox is answered by `reply`. -/
theorem reply_receive (s : VirtualSlave σ) (msg : List UInt8) :
    (s.receive msg).reply = s.replyTo msg := by
  show overwrite (List.replicate (s.receive msg).sdoReply.2.mbOut.length 0) 0 _ = _
  rw [sdoReply_mbOut]
  rfl

/-- Replies of one length are equal exactly when their messages are. -/
theorem reply_eq_iff {s : VirtualSlave σ} {s' : VirtualSlave τ} (h : s.HoldsRequest)
    (h' : s'.HoldsRequest) (hlen : s'.mbOut.length = s.mbOut.length) :
    s'.reply = s.reply ↔ s'.replyMessage s'.request = s.replyMessage s.request := by
  rw [reply_eq h, reply_eq h', hlen]
  constructor
  · intro heq
    have hdecode := congrArg SdoMessage.decode heq
    rw [request, request, SdoMessage.decode_encode (s'.replyMessage_wellFormed _),
      SdoMessage.decode_encode (s.replyMessage_wellFormed _)] at hdecode
    exact hdecode
  · intro heq
    rw [heq]

/-- The reply to an upload request carries the served value, zero for none. -/
theorem replyMessage_upload {s : VirtualSlave σ} (h : s.HoldsRequest)
    (hup : s.request.command = CoE.REQUEST_UPLOAD) :
    (s.replyMessage s.request).command = CoE.RESPONSE_UPLOAD ∧
      (s.replyMessage s.request).payload = s.served.getD 0 := by
  have hdown : ¬(s.request.service = CoE.SDO_REQUEST ∧
      s.request.command = CoE.REQUEST_DOWNLOAD) := by
    intro hc
    exact absurd (hup.symm.trans hc.2) (by decide)
  exact ⟨if_neg hdown, if_pos ⟨h.service, hup⟩⟩

/-- The reply to a download request is an acknowledgement. -/
theorem replyMessage_download {s : VirtualSlave σ} (h : s.HoldsRequest)
    (hdown : s.request.command = CoE.REQUEST_DOWNLOAD) :
    (s.replyMessage s.request).command = CoE.RESPONSE_DOWNLOAD ∧
      (s.replyMessage s.request).payload = 0 := by
  have hup : ¬(s.request.service = CoE.SDO_REQUEST ∧
      s.request.command = CoE.REQUEST_UPLOAD) := by
    intro hc
    exact absurd (hdown.symm.trans hc.2) (by decide)
  exact ⟨if_pos ⟨h.service, hdown⟩, if_neg hup⟩

/-- Two replies that name one object are the same message when the command and
the payload are. -/
theorem replyMessage_congr {s : VirtualSlave σ} {s' : VirtualSlave τ} (hsame : s'.SameObject s)
    (hcommand : (s'.replyMessage s'.request).command = (s.replyMessage s.request).command)
    (hpayload : (s'.replyMessage s'.request).payload = (s.replyMessage s.request).payload) :
    s'.replyMessage s'.request = s.replyMessage s.request := by
  obtain ⟨hcount, hindex, hsubindex⟩ := hsame
  unfold replyMessage at hcommand hpayload ⊢
  rw [SdoMessage.mk.injEq]
  exact ⟨rfl, rfl, hcount, rfl, rfl, rfl, rfl, hcommand, hindex, hsubindex, hpayload⟩

/-- When a refusal looks like a success: the same kind of request, and for an
upload the served value zero. -/
theorem reply_eq_iff_of_refused {s : VirtualSlave σ} {s' : VirtualSlave τ} (h : s.HoldsRequest)
    (h' : s'.HoldsRequest) (hsame : s'.SameObject s) (hrefused : s.Refused) (hserved : s'.Served) :
    s'.reply = s.reply ↔
      s'.mbOut.length = s.mbOut.length ∧ s'.request.command = s.request.command ∧
        (s.request.command = CoE.REQUEST_UPLOAD → s'.served = some 0) := by
  have hdiffer : CoE.RESPONSE_UPLOAD ≠ CoE.RESPONSE_DOWNLOAD := by decide
  constructor
  · intro heq
    have hlen : s'.mbOut.length = s.mbOut.length := by
      have hlength := congrArg List.length heq
      rw [reply_eq h, reply_eq h'] at hlength
      simp only [List.length_append, SdoMessage.length_encode, List.length_replicate] at hlength
      have hroom := h.mbOut
      have hroom' := h'.mbOut
      omega
    have hmessage := (reply_eq_iff h h' hlen).mp heq
    have hcommand := congrArg SdoMessage.command hmessage
    have hpayload := congrArg SdoMessage.payload hmessage
    rcases hrefused with ⟨hup, hnone⟩ | ⟨hdown, -⟩
    · rw [(replyMessage_upload h hup).1] at hcommand
      rw [(replyMessage_upload h hup).2, hnone] at hpayload
      rcases hserved with ⟨hup', hsome⟩ | ⟨hdown', -⟩
      · refine ⟨hlen, hup'.trans hup.symm, fun _ => ?_⟩
        rw [(replyMessage_upload h' hup').2] at hpayload
        obtain ⟨value, hvalue⟩ := Option.isSome_iff_exists.mp hsome
        rw [hvalue] at hpayload ⊢
        exact congrArg some hpayload
      · rw [(replyMessage_download h' hdown').1] at hcommand
        exact absurd hcommand.symm hdiffer
    · rw [(replyMessage_download h hdown).1] at hcommand
      rcases hserved with ⟨hup', -⟩ | ⟨hdown', -⟩
      · rw [(replyMessage_upload h' hup').1] at hcommand
        exact absurd hcommand hdiffer
      · refine ⟨hlen, hdown'.trans hdown.symm, fun hup => ?_⟩
        exact absurd (hdown.symm.trans hup) (by decide)
  · intro hlook
    obtain ⟨hlen, hkind, hzero⟩ := hlook
    rw [reply_eq_iff h h' hlen]
    rcases hrefused with ⟨hup, hnone⟩ | ⟨hdown, -⟩
    · obtain ⟨hcommand, hpayload⟩ := replyMessage_upload h hup
      obtain ⟨hcommand', hpayload'⟩ := replyMessage_upload h' (hkind.trans hup)
      rw [hnone] at hpayload
      rw [hzero hup] at hpayload'
      exact replyMessage_congr hsame (hcommand'.trans hcommand.symm)
        (hpayload'.trans hpayload.symm)
    · obtain ⟨hcommand, hpayload⟩ := replyMessage_download h hdown
      obtain ⟨hcommand', hpayload'⟩ := replyMessage_download h' (hkind.trans hdown)
      exact replyMessage_congr hsame (hcommand'.trans hcommand.symm)
        (hpayload'.trans hpayload.symm)

/-! ## Slaves that serve what another one refuses -/

/-- A slave of class `τ` with the buffers of `s`, where the request has another
payload. -/
def imitate (s : VirtualSlave σ) (d : τ) (mapped : Bool) (value : UInt32) : VirtualSlave τ :=
  { s with
    inputPdoMapped := mapped
    device := d
    mbIn := { s.request with payload := value }.encode ++ s.mbIn.drop 16 }

section Imitate

omit [SlaveDevice σ] [SlaveDevice τ]

theorem request_imitate (s : VirtualSlave σ) (d : τ) (mapped : Bool) (value : UInt32) :
    (s.imitate d mapped value).request = { s.request with payload := value } := by
  have hformed := SdoMessage.decode_wellFormed s.mbIn
  apply SdoMessage.decode_encode
  exact
    { type := hformed.type, count := hformed.count, service := hformed.service
      sizeIndicator := hformed.sizeIndicator, transferType := hformed.transferType
      blockSize := hformed.blockSize, command := hformed.command }

theorem imitate_sameObject (s : VirtualSlave σ) (d : τ) (mapped : Bool) (value : UInt32) :
    (s.imitate d mapped value).SameObject s := by
  rw [SameObject, request_imitate]
  exact ⟨rfl, rfl, rfl⟩

theorem imitate_holdsRequest {s : VirtualSlave σ} (h : s.HoldsRequest) (d : τ) (mapped : Bool)
    (value : UInt32) : (s.imitate d mapped value).HoldsRequest where
  mbIn := by
    show 16 ≤ (SdoMessage.encode _ ++ _).length
    rw [List.length_append, SdoMessage.length_encode]
    omega
  mbOut := h.mbOut
  type := by
    rw [request_imitate]
    exact h.type
  service := by
    rw [request_imitate]
    exact h.service

end Imitate

/-- An upload that is refused is not one of the identity object, so every slave
answers it by its hook. -/
theorem uploadValue_of_served_none {s : VirtualSlave σ} (h : s.served = none)
    (s' : VirtualSlave τ) :
    s'.uploadValue s.request.index s.request.subindex =
      (SlaveDevice.onSdoUpload s'.device s.request.index s.request.subindex).1 := by
  have hnot : ¬(s.request.index = 0x1018 ∧ 1 ≤ s.request.subindex ∧ s.request.subindex ≤ 4) := by
    intro hc
    rw [served, uploadValue, if_pos hc] at h
    exact Option.some_ne_none _ h
  exact if_neg hnot

theorem served_none_of_refused {s : VirtualSlave σ} (h : s.Refused)
    (hup : s.request.command = CoE.REQUEST_UPLOAD) : s.served = none := by
  rcases h with ⟨-, hnone⟩ | ⟨hdown, -⟩
  · exact hnone
  · exact absurd (hdown.symm.trans hup) (by decide)

/-- A refusal is told apart from the successes of a class exactly when the class
has no success that looks like it. -/
theorem toldApartFrom_iff {s : VirtualSlave σ} (h : s.HoldsRequest) (hrefused : s.Refused) :
    s.ToldApartFrom τ ↔ s.NeverServedBy τ := by
  constructor
  · intro htold
    constructor
    · intro hup d hzero
      have hholds := imitate_holdsRequest h d s.inputPdoMapped 0
      have hsame := s.imitate_sameObject d s.inputPdoMapped 0
      have hreq := s.request_imitate d s.inputPdoMapped 0
      have hvalue : (s.imitate d s.inputPdoMapped 0).served = some 0 := by
        rw [served, hreq]
        exact (uploadValue_of_served_none (served_none_of_refused hrefused hup) _).trans hzero
      have hserved : (s.imitate d s.inputPdoMapped 0).Served := by
        refine .inl ⟨?_, by rw [hvalue]; rfl⟩
        rw [hreq]
        exact hup
      refine htold _ hholds hserved hsame ?_
      apply (reply_eq_iff_of_refused h hholds hsame hrefused hserved).mpr
      rw [hreq]
      exact ⟨rfl, rfl, fun _ => hvalue⟩
    · intro hdown d mapped value
      by_contra haccept
      have hholds := imitate_holdsRequest h d mapped value
      have hsame := s.imitate_sameObject d mapped value
      have hreq := s.request_imitate d mapped value
      have hserved : (s.imitate d mapped value).Served := by
        rw [Served, accepts, hreq]
        exact .inr ⟨hdown, eq_true_of_ne_false haccept⟩
      refine htold _ hholds hserved hsame ?_
      apply (reply_eq_iff_of_refused h hholds hsame hrefused hserved).mpr
      rw [hreq]
      exact ⟨rfl, rfl, fun hup => absurd (hdown.symm.trans hup) (by decide)⟩
  · intro hnever s' h' hserved hsame heq
    obtain ⟨-, hkind, hzero⟩ := (reply_eq_iff_of_refused h h' hsame hrefused hserved).mp heq
    obtain ⟨-, hindex, hsubindex⟩ := hsame
    rcases hrefused with ⟨hup, hnone⟩ | ⟨hdown, hno⟩
    · have hvalue := hzero hup
      rw [served, hindex, hsubindex, uploadValue_of_served_none hnone] at hvalue
      exact hnever.1 hup _ hvalue
    · rcases hserved with ⟨hup', -⟩ | ⟨-, haccept⟩
      · exact absurd (hdown.symm.trans (hkind.symm.trans hup')) (by decide)
      · have hrefuses := hnever.2 hdown s'.device s'.inputPdoMapped s'.request.payload
        rw [← hindex, ← hsubindex] at hrefuses
        exact Bool.false_ne_true (hrefuses.symm.trans haccept)

end Outcome

/-- A subclass that serves every upload with zero and accepts every download. -/
@[reducible] def servesEverything : SlaveDevice Unit where
  onSdoUpload _ _ _ := (some 0, ())
  onSdoDownload _ mapped _ _ _ _ := (true, mapped, ())
  readDigitalInputsBitfield _ := (none, ())

/-- No refused request is told apart from the successes of every class.  Within one
class, and so for a master that knows which class it talks to, a refusal is told
apart exactly when the class never serves the upload with zero and never accepts
the download. -/
theorem refusal_toldApart_iff [SlaveDevice σ] {s : VirtualSlave σ} (h : s.HoldsRequest) :
    ((s.Refused → ∀ (τ : Type) [SlaveDevice τ], s.ToldApartFrom τ) ↔ ¬s.Refused) ∧
      ∀ (τ : Type) [SlaveDevice τ],
        (s.Refused → s.ToldApartFrom τ) ↔ (s.Refused → s.NeverServedBy τ) := by
  constructor
  · constructor
    · intro htold hrefused
      have hnever := (@toldApartFrom_iff σ Unit _ servesEverything s h hrefused).mp
        (@htold hrefused Unit servesEverything)
      rcases hrefused with ⟨hup, -⟩ | ⟨hdown, -⟩
      · exact hnever.1 hup () rfl
      · exact Bool.false_ne_true (hnever.2 hdown () false 0).symm
    · intro hnot hrefused
      exact absurd hrefused hnot
  · intro τ _
    constructor
    · intro htold hrefused
      exact (toldApartFrom_iff h hrefused).mp (htold hrefused)
    · intro hnever hrefused
      exact (toldApartFrom_iff h hrefused).mpr (hnever hrefused)

/-- An upload of 0x6001:1, the status of the first input. -/
def uploadStatus : List UInt8 := [10, 0, 0, 0, 0, 0x13, 0, 0x20, 0x40, 0x01, 0x60, 1, 0, 0, 0, 0]

/-- A download of 4 to 0x1A04:0, the entry count of the second TxPDO. -/
def downloadCount : List UInt8 := [10, 0, 0, 0, 0, 0x13, 0, 0x20, 0x23, 0x04, 0x1A, 0, 4, 0, 0, 0]

/-- An `EL1258Slave` refuses an upload of 0x6001:1.  Its class never serves the
object, but a master has to know that. -/
theorem refusal_toldApart_status :
    let s := (EL1258Slave.new 1 2 3 fun _ => 0).receive uploadStatus
    s.Refused ∧ ¬(s.Refused → ∀ (τ : Type) [SlaveDevice τ], s.ToldApartFrom τ) := by
  intro s
  have hholds : s.HoldsRequest := by decide +kernel
  have hrefused : s.Refused := by decide +kernel
  refine ⟨hrefused, fun htold => ?_⟩
  exact (refusal_toldApart_iff hholds).1.mp htold hrefused

/-- The two classes for the same terminal.  One refuses the upload of 0x6001:1 and
the download to 0x1A04:0, the other serves both, and the replies are the same
bytes. -/
theorem refusal_toldApart_false :
    (let s := (EL1258Slave.new 1 2 3 fun _ => 0).receive uploadStatus
      let s' := (El1258Slave.new 1 2 3).receive uploadStatus
      s.HoldsRequest ∧ s.Refused ∧ s'.HoldsRequest ∧ s'.Served ∧ s'.SameObject s ∧
        s'.reply = s.reply) ∧
    (let s := (EL1258Slave.new 1 2 3 fun _ => 0).receive downloadCount
      let s' := (El1258Slave.new 1 2 3).receive downloadCount
      s.HoldsRequest ∧ s.Refused ∧ s'.HoldsRequest ∧ s'.Served ∧ s'.SameObject s ∧
        s'.reply = s.reply) := by
  decide +kernel

end VirtualSlave

end EthercatSim

import Mathlib.Tactic.IntervalCases
import EthercatSim.Lib.Checked
import EthercatSim.VirtualSlave.Steps

/-!
# The calls of a slave with checked accesses

The functions of the model once more, with every access of a container checked: `none` is a
call that uses an index out of range, to which C++ gives no meaning.  The containers are
`regs_`, `eeprom_`, the two mailbox buffers, and the buffer of the caller.

* The AL state machine writes fixed registers (`handleAlControlWriteChecked_eq`).
* `handleMailboxWriteChecked_eq_some_iff`: the mailbox handler casts `mb_in_` and `mb_out_` to
  headers.  It stays inside them exactly when they have room for what it reads and writes
  (`HandlerRoom`).
* `readChecked_eq` and `writeChecked_eq_some_iff`: with mailbox buffers of the sizes of their
  windows nothing else can go wrong.  Where all accesses are in range, the checked function is
  the one of the model.
-/

namespace EthercatSim

open Kickcat Bytes

/-! ## The headers in the mailbox buffers -/

/-- The fields of a request that are read whatever it asks for: the session handle, and the
CoE and SDO headers. -/
def Kickcat.SdoMessage.headersChecked (msg : List UInt8) : Option SdoMessage := do
  let typeByte : UInt8 ← msg[5]?
  let serviceByte : UInt8 ← msg[7]?
  let sdoByte : UInt8 ← msg[8]?
  let index ← wordChecked msg 9
  let subindex : UInt8 ← msg[11]?
  some
    { len := 0, payload := 0
      type := typeByte &&& 0x0F
      count := (typeByte >>> 4) &&& 0x07
      service := serviceByte >>> 4
      sizeIndicator := sdoByte &&& 0x01
      transferType := (sdoByte >>> 1) &&& 0x01
      blockSize := (sdoByte >>> 2) &&& 0x03
      command := sdoByte >>> 5
      index
      subindex }

theorem Kickcat.SdoMessage.headersChecked_eq {msg : List UInt8} (h : 12 ≤ msg.length) :
    SdoMessage.headersChecked msg =
      some { SdoMessage.decode msg with len := 0, payload := 0 } := by
  rw [headersChecked, getElem?_eq_getD (by omega) 0, getElem?_eq_getD (by omega) 0,
    getElem?_eq_getD (by omega) 0, wordChecked_eq (by omega), getElem?_eq_getD (by omega) 0]
  rfl

theorem Kickcat.SdoMessage.headersChecked_eq_none {msg : List UInt8} (h : msg.length < 12) :
    SdoMessage.headersChecked msg = none := by
  rw [headersChecked, List.getElem?_eq_none (Nat.le_of_lt_succ h)]
  cases msg[5]? <;> cases msg[7]? <;> cases msg[8]? <;> cases wordChecked msg 9 <;> rfl

/-- The reply is put into a cleared buffer header by header.  A reply to a download has no
payload. -/
def Kickcat.SdoMessage.storeChecked (m : SdoMessage) (out : List UInt8) : Option (List UInt8) := do
  let out ← overwriteChecked out 5 ((m.encode.drop 5).take 7)
  let out ←
    if m.command = CoE.RESPONSE_DOWNLOAD then some out
    else overwriteChecked out 12 (bytes32 m.payload)
  overwriteChecked out 0 (m.encode.take 2)

/-- With room for it the reply is in the buffer as a whole. -/
theorem Kickcat.SdoMessage.storeChecked_eq {m : SdoMessage} {n : Nat}
    (hpayload : m.command = CoE.RESPONSE_DOWNLOAD → m.payload = 0)
    (hroom : if m.command = CoE.RESPONSE_DOWNLOAD then 12 ≤ n else 16 ≤ n) :
    m.storeChecked (List.replicate n 0) = some (overwrite (List.replicate n 0) 0 m.encode) := by
  have hheaders : ((m.encode.drop 5).take 7).length = 7 := rfl
  have hlen : (m.encode.take 2).length = 2 := rfl
  have hbytes : (bytes32 m.payload).length = 4 := rfl
  have hzero : bytes32 0 = [0, 0, 0, 0] := by decide
  have hn : 12 ≤ n := by split at hroom <;> omega
  have hcleared : ∀ i < n, (List.replicate n (0 : UInt8)).getD i 0 = 0 := by
    intro i hi
    simp [hi]
  -- the length is stored last
  have hlast : ∀ out : List UInt8, out.length = n →
      (∀ i < n, (overwrite out 0 (m.encode.take 2)).getD i 0 =
        (overwrite (List.replicate n 0) 0 m.encode).getD i 0) →
      overwriteChecked out 0 (m.encode.take 2) =
        some (overwrite (List.replicate n 0) 0 m.encode) := by
    intro out hout hsame
    rw [overwriteChecked_eq (by omega)]
    refine congrArg some (ext_getD 0 (by simp [hout]) fun i hi => hsame i ?_)
    rwa [length_overwrite, hout] at hi
  rw [storeChecked, overwriteChecked_eq (by rw [List.length_replicate, hheaders]; omega)]
  dsimp only [Option.bind_eq_bind, Option.bind_some]
  split
  · rename_i hdown
    have hnone := hpayload hdown
    refine hlast _ (by simp) fun i hi => ?_
    simp only [getD_overwrite, length_overwrite, List.length_replicate, hheaders, hlen,
      length_encode, hcleared i hi]
    rcases Nat.lt_or_ge i 16 with h16 | h16
    · interval_cases i <;> simp [encode, hnone, hzero, hi]
    · rw [if_neg (by omega), if_neg (by omega), if_neg (by omega)]
  · rename_i hup
    rw [if_neg hup] at hroom
    rw [overwriteChecked_eq (by rw [length_overwrite, List.length_replicate, hbytes]; omega)]
    refine hlast _ (by simp) fun i hi => ?_
    simp only [getD_overwrite, length_overwrite, List.length_replicate, hheaders, hlen, hbytes,
      length_encode, hcleared i hi]
    rcases Nat.lt_or_ge i 16 with h16 | h16
    · interval_cases i <;> simp [encode, hi]
    · rw [if_neg (by omega), if_neg (by omega), if_neg (by omega), if_neg (by omega)]

theorem Kickcat.SdoMessage.storeChecked_eq_none {m : SdoMessage} {n : Nat}
    (h : n < 12 ∨ m.command ≠ CoE.RESPONSE_DOWNLOAD ∧ n < 16) :
    m.storeChecked (List.replicate n 0) = none := by
  have hheaders : ((m.encode.drop 5).take 7).length = 7 := rfl
  have hbytes : (bytes32 m.payload).length = 4 := rfl
  by_cases hshort : n < 12
  · rw [storeChecked,
      overwriteChecked_eq_none (by rw [List.length_replicate, hheaders]; omega)]
    rfl
  · obtain ⟨hup, hn⟩ := h.resolve_left hshort
    rw [storeChecked, overwriteChecked_eq (by rw [List.length_replicate, hheaders]; omega)]
    dsimp only [Option.bind_eq_bind, Option.bind_some]
    rw [if_neg hup,
      overwriteChecked_eq_none (by rw [length_overwrite, List.length_replicate, hbytes]; omega)]
    rfl

namespace VirtualSlave

variable {σ : Type}

/-! ## Register shadows -/

def syncCoreRegistersChecked (s : VirtualSlave σ) : Option (VirtualSlave σ) := do
  let dl : UInt16 := if s.online then 0x0001 ||| 0x0010 ||| 0x0200 else 0
  let status : UInt8 :=
    if s.ackRequested then s.alState.toByte ||| State.ACK.toByte else s.alState.toByte
  let regs ← s.regs.setWordChecked Reg.ESC_DL_STATUS dl
  let regs ← regs.setChecked Reg.AL_STATUS status
  let regs ← regs.setChecked (Reg.AL_STATUS + 1) 0
  let regs ← regs.setWordChecked Reg.AL_STATUS_CODE s.alStatusCode
  some { s with regs }

def syncSMStatusChecked (s : VirtualSlave σ) : Option (VirtualSlave σ) := do
  let st1 : UInt8 := if s.mbHaveReply then MAILBOX_STATUS else 0x00
  let regs ← s.regs.setChecked (Reg.SYNC_MANAGER_0 + Reg.SM_STATS) 0x00
  let regs ← regs.setChecked (Reg.SYNC_MANAGER_1 + Reg.SM_STATS) st1
  some { s with regs }

def syncSMRegistersChecked (s : VirtualSlave σ) : Option (VirtualSlave σ) := do
  let regs ← s.regs.setWordChecked Reg.SYNC_MANAGER_0 s.mbRecvOffset
  let regs ← regs.setWordChecked (Reg.SYNC_MANAGER_0 + 2) s.mbRecvSize
  let regs ← regs.setWordChecked Reg.SYNC_MANAGER_1 s.mbSendOffset
  let regs ← regs.setWordChecked (Reg.SYNC_MANAGER_1 + 2) s.mbSendSize
  syncSMStatusChecked { s with regs }

theorem syncCoreRegistersChecked_eq (s : VirtualSlave σ) :
    s.syncCoreRegistersChecked = some s.syncCoreRegisters := by
  simp (disch := decide) only [syncCoreRegistersChecked, Cells.setWordChecked_eq,
    Cells.setChecked_eq, Option.bind_eq_bind, Option.bind_some]
  rfl

theorem syncSMStatusChecked_eq (s : VirtualSlave σ) :
    s.syncSMStatusChecked = some s.syncSMStatus := by
  simp (disch := decide) only [syncSMStatusChecked, Cells.setChecked_eq, Option.bind_eq_bind,
    Option.bind_some]
  rfl

theorem syncSMRegistersChecked_eq (s : VirtualSlave σ) :
    s.syncSMRegistersChecked = some s.syncSMRegisters := by
  simp (disch := decide) only [syncSMRegistersChecked, Cells.setWordChecked_eq,
    syncSMStatusChecked_eq, Option.bind_eq_bind, Option.bind_some]
  rfl

/-! ## The AL state machine -/

def signalErrorChecked (s : VirtualSlave σ) (code : UInt16) : Option (VirtualSlave σ) :=
  syncCoreRegistersChecked { s with alStatusCode := code, ackRequested := true }

def transitionStepChecked (s : VirtualSlave σ) (requested : State) :
    Option (VirtualSlave σ × Option Bool) :=
  if !s.stateChangeNeeded requested then some (s, some true)
  else if !isTransitionAllowed s.alState (s.nextState requested) then do
    let s ← s.signalErrorChecked 0x0011
    some (s, some false)
  else if !s.preconditionsMet (s.nextState requested) then do
    let s ← s.signalErrorChecked 0x0011
    some (s, some false)
  else some (s.applyStateTransition (s.nextState requested), none)

def changeStateChecked (s : VirtualSlave σ) (requested : State) : Option (VirtualSlave σ) := do
  let (s, success) ← FuelLoop.loopChecked (fun s => s.transitionStepChecked requested) 5 s
  if !success then some s
  else s.clearError.syncCoreRegistersChecked

def requestStateChecked (s : VirtualSlave σ) (requested : State) : Option (VirtualSlave σ) :=
  if requested = .INVALID then s.syncCoreRegistersChecked
  else if requested = .BOOT then s.signalErrorChecked 0x0043
  else if !s.stateChangeNeeded requested then s.syncCoreRegistersChecked
  else s.changeStateChecked requested

def handleAlControlWriteChecked (s : VirtualSlave σ) (ctrl : UInt16) :
    Option (VirtualSlave σ) :=
  let requested := decodeControlState ctrl
  let ackBit : Bool := ctrl &&& 0x0010 ≠ 0
  let wantsProgress : Bool :=
    requested ≠ .INVALID && decide (stateRank requested > stateRank s.alState)
  if ackBit then
    if !wantsProgress then s.clearError.syncCoreRegistersChecked
    else s.clearError.requestStateChecked requested
  else s.requestStateChecked requested

theorem transitionStepChecked_eq (s : VirtualSlave σ) (requested : State) :
    s.transitionStepChecked requested = some (s.transitionStep requested) := by
  have herror : s.signalErrorChecked 0x0011 = some (s.signalError 0x0011) :=
    syncCoreRegistersChecked_eq _
  unfold transitionStepChecked transitionStep
  rw [herror]
  cases s.stateChangeNeeded requested with
  | false => rfl
  | true =>
    cases isTransitionAllowed s.alState (s.nextState requested) with
    | false => rfl
    | true => cases s.preconditionsMet (s.nextState requested) <;> rfl

theorem changeStateChecked_eq (s : VirtualSlave σ) (requested : State) :
    s.changeStateChecked requested = some (s.changeState requested) := by
  have hloop := FuelLoop.loopChecked_eq
    (fun s : VirtualSlave σ => s.transitionStepChecked_eq requested) 5 s
  have hget : FuelLoop.loop (fun s => s.transitionStep requested) 5 s = some _ :=
    (Option.some_get (s.transitionLoop_isSome requested)).symm
  rw [changeStateChecked, hloop, hget, changeState]
  generalize (s.transitionLoop 5 requested).get _ = out
  obtain ⟨s', success⟩ := out
  cases success with
  | false => rfl
  | true => exact syncCoreRegistersChecked_eq _

theorem requestStateChecked_eq (s : VirtualSlave σ) (requested : State) :
    s.requestStateChecked requested = some (s.requestState requested) := by
  unfold requestStateChecked requestState
  split
  · exact syncCoreRegistersChecked_eq s
  · split
    · exact syncCoreRegistersChecked_eq _
    · split
      · exact syncCoreRegistersChecked_eq s
      · exact changeStateChecked_eq s requested

/-- The state machine writes fixed registers. -/
theorem handleAlControlWriteChecked_eq (s : VirtualSlave σ) (ctrl : UInt16) :
    s.handleAlControlWriteChecked ctrl = some (s.handleAlControlWrite ctrl) := by
  unfold handleAlControlWriteChecked handleAlControlWrite
  dsimp only
  split
  · split
    · exact syncCoreRegistersChecked_eq _
    · exact requestStateChecked_eq _ _
  · exact requestStateChecked_eq _ _

/-! ## The mailbox -/

section Mailbox

variable [SlaveDevice σ]

/-- `sdoReply` on the headers that were read; the payload is read for a download. -/
def sdoReplyChecked (s : VirtualSlave σ) : Option (SdoMessage × VirtualSlave σ) := do
  let req ← SdoMessage.headersChecked s.mbIn
  let reply : SdoMessage :=
    { len := 10, type := mailboxCoE, count := req.count, service := CoE.SDO_RESPONSE
      sizeIndicator := 1, transferType := 1, blockSize := 0
      command := CoE.RESPONSE_UPLOAD, index := req.index, subindex := req.subindex, payload := 0 }
  if req.service = CoE.SDO_REQUEST ∧ req.command = CoE.REQUEST_UPLOAD then
    let (v, s) := s.sdoUpload req.index req.subindex
    some ({ reply with payload := v.getD 0 }, s)
  else if req.service = CoE.SDO_REQUEST ∧ req.command = CoE.REQUEST_DOWNLOAD then
    let low ← wordChecked s.mbIn 12
    let high ← wordChecked s.mbIn 14
    let (_, s) := s.sdoDownload req.index req.subindex (le32 low high) 4
    some ({ reply with command := CoE.RESPONSE_DOWNLOAD }, s)
  else
    some (reply, s)

def handleMailboxWriteChecked (s : VirtualSlave σ) : Option (VirtualSlave σ) := do
  let (reply, s) ← s.sdoReplyChecked
  let mbOut ← reply.storeChecked (List.replicate s.mbOut.length 0)
  syncSMStatusChecked { s with mbOut, mbHaveReply := true }

/-- The headers and the payload of the request in `mb_in_`, and those of its reply, fit into
the mailbox buffers. -/
def HandlerRoom (s : VirtualSlave σ) : Prop :=
  if (SdoMessage.decode s.mbIn).IsDownload then 16 ≤ s.mbIn.length ∧ 12 ≤ s.mbOut.length
  else 12 ≤ s.mbIn.length ∧ 16 ≤ s.mbOut.length

/-- With room for what is read, the reply is that of the model. -/
theorem sdoReplyChecked_eq {s : VirtualSlave σ} (h : 12 ≤ s.mbIn.length)
    (hdown : (SdoMessage.decode s.mbIn).IsDownload → 16 ≤ s.mbIn.length) :
    s.sdoReplyChecked = some s.sdoReply := by
  rw [sdoReplyChecked, SdoMessage.headersChecked_eq h, sdoReply]
  dsimp only [Option.bind_eq_bind, Option.bind_some]
  split
  · rfl
  · split
    · rename_i hdownload
      have hroom := hdown hdownload
      rw [wordChecked_eq (by omega), wordChecked_eq (by omega)]
      rfl
    · rfl

theorem sdoReplyChecked_eq_none {s : VirtualSlave σ}
    (h : s.mbIn.length < 12 ∨ (SdoMessage.decode s.mbIn).IsDownload ∧ s.mbIn.length < 16) :
    s.sdoReplyChecked = none := by
  by_cases hshort : s.mbIn.length < 12
  · rw [sdoReplyChecked, SdoMessage.headersChecked_eq_none hshort]
    rfl
  · obtain ⟨hdownload, hlen⟩ := h.resolve_left hshort
    have hup : ¬((SdoMessage.decode s.mbIn).service = CoE.SDO_REQUEST ∧
        (SdoMessage.decode s.mbIn).command = CoE.REQUEST_UPLOAD) :=
      fun hc => absurd (hc.2.symm.trans hdownload.2) (by decide)
    have hhigh : wordChecked s.mbIn 14 = none := wordChecked_eq_none (by omega)
    unfold SdoMessage.IsDownload at hdownload
    rw [sdoReplyChecked, SdoMessage.headersChecked_eq (by omega), hhigh]
    dsimp only [Option.bind_eq_bind, Option.bind_some]
    rw [if_neg hup, if_pos hdownload]
    cases wordChecked s.mbIn 12 <;> rfl

/-- What the reply says, and the member that the handler fills. -/
theorem sdoReply_reply (s : VirtualSlave σ) :
    s.sdoReply.2.mbOut = s.mbOut ∧
      (s.sdoReply.1.command = CoE.RESPONSE_DOWNLOAD ↔ (SdoMessage.decode s.mbIn).IsDownload) ∧
      (s.sdoReply.1.command = CoE.RESPONSE_DOWNLOAD → s.sdoReply.1.payload = 0) := by
  refine ⟨sdoReply_mbOut s, ?_⟩
  have hup : CoE.RESPONSE_UPLOAD ≠ CoE.RESPONSE_DOWNLOAD := by decide
  unfold sdoReply SdoMessage.IsDownload
  dsimp only
  split
  · rename_i h
    have hnot : ¬((SdoMessage.decode s.mbIn).service = CoE.SDO_REQUEST ∧
        (SdoMessage.decode s.mbIn).command = CoE.REQUEST_DOWNLOAD) :=
      fun hc => absurd (h.2.symm.trans hc.2) (by decide)
    exact ⟨iff_of_false hup hnot, fun hc => absurd hc hup⟩
  · split
    · rename_i h
      exact ⟨iff_of_true rfl h, fun _ => rfl⟩
    · rename_i h
      exact ⟨iff_of_false hup h, fun hc => absurd hc hup⟩

theorem handleMailboxWriteChecked_eq {s : VirtualSlave σ} (h : s.HandlerRoom) :
    s.handleMailboxWriteChecked = some s.handleMailboxWrite := by
  obtain ⟨hmbOut, hcommand, hpayload⟩ := s.sdoReply_reply
  unfold HandlerRoom at h
  have hin : 12 ≤ s.mbIn.length := by split at h <;> omega
  have hdown : (SdoMessage.decode s.mbIn).IsDownload → 16 ≤ s.mbIn.length := by
    intro hdownload
    rw [if_pos hdownload] at h
    exact h.1
  have hout : if s.sdoReply.1.command = CoE.RESPONSE_DOWNLOAD then 12 ≤ s.mbOut.length
      else 16 ≤ s.mbOut.length := by
    simp only [hcommand]
    split
    · rename_i hdownload
      rw [if_pos hdownload] at h
      exact h.2
    · rename_i hother
      rw [if_neg hother] at h
      exact h.2
  rw [handleMailboxWriteChecked, sdoReplyChecked_eq hin hdown]
  dsimp only [Option.bind_eq_bind, Option.bind_some]
  rw [hmbOut, SdoMessage.storeChecked_eq hpayload hout, Option.bind_some, syncSMStatusChecked_eq,
    handleMailboxWrite]
  dsimp only
  rw [hmbOut]

theorem handleMailboxWriteChecked_eq_none {s : VirtualSlave σ} (h : ¬s.HandlerRoom) :
    s.handleMailboxWriteChecked = none := by
  obtain ⟨hmbOut, hcommand, -⟩ := s.sdoReply_reply
  unfold HandlerRoom at h
  rw [handleMailboxWriteChecked]
  by_cases hin : s.mbIn.length < 12 ∨
      (SdoMessage.decode s.mbIn).IsDownload ∧ s.mbIn.length < 16
  · rw [sdoReplyChecked_eq_none hin]
    rfl
  · rw [not_or, not_and] at hin
    have hdown : (SdoMessage.decode s.mbIn).IsDownload → 16 ≤ s.mbIn.length :=
      fun hdownload => Nat.le_of_not_lt (hin.2 hdownload)
    have hout : s.mbOut.length < 12 ∨
        s.sdoReply.1.command ≠ CoE.RESPONSE_DOWNLOAD ∧ s.mbOut.length < 16 := by
      rw [Ne, hcommand]
      split at h
      · rename_i hdownload
        have hroom := hdown hdownload
        omega
      · rename_i hother
        by_cases hshort : s.mbOut.length < 12
        · exact .inl hshort
        · exact .inr ⟨hother, by omega⟩
    rw [sdoReplyChecked_eq (by omega) hdown]
    dsimp only [Option.bind_eq_bind, Option.bind_some]
    rw [hmbOut, SdoMessage.storeChecked_eq_none hout]
    rfl

/-- The mailbox handler stays inside the mailbox buffers exactly when these have room for the
request and its reply. -/
theorem handleMailboxWriteChecked_eq_some_iff {s s' : VirtualSlave σ} :
    s.handleMailboxWriteChecked = some s' ↔ s.HandlerRoom ∧ s.handleMailboxWrite = s' := by
  by_cases h : s.HandlerRoom
  · rw [handleMailboxWriteChecked_eq h, Option.some.injEq, and_iff_right h]
  · simp [handleMailboxWriteChecked_eq_none h, h]

end Mailbox

/-! ## Sync manager configuration -/

/-- The loop over the entries, of which it reads the first four bytes. -/
def parseSyncManagersChecked (reg : Nat) (src : List UInt8) :
    (remaining pos : Nat) → VirtualSlave σ → Option (VirtualSlave σ)
  | remaining + 8, pos, s => do
    let start ← wordChecked src pos
    let length ← wordChecked src (pos + 2)
    parseSyncManagersChecked reg src remaining (pos + 8)
      (s.setSyncManager ((reg + pos - Reg.SYNC_MANAGER) / 8) start length)
  | _, _, s => some s

theorem parseSyncManagersChecked_of_lt (s : VirtualSlave σ) (reg : Nat) (src : List UInt8)
    (pos : Nat) {remaining : Nat} (h : remaining < 8) :
    parseSyncManagersChecked reg src remaining pos s = some s := by
  rw [parseSyncManagersChecked]
  intro n hn
  omega

/-- The loop reads entries that are there. -/
theorem parseSyncManagersChecked_eq (s : VirtualSlave σ) (reg : Nat) {src before : List UInt8}
    {pos : Nat} {rest : List UInt8} (hsrc : src = before ++ rest) (hpos : before.length = pos) :
    parseSyncManagersChecked reg src rest.length pos s =
      some (s.parseSyncManagers reg pos rest) := by
  fun_induction VirtualSlave.parseSyncManagers s reg pos rest generalizing before with
  | case1 s pos b0 b1 b2 b3 b4 b5 b6 b7 rest s' =>
    rename_i ih
    have hget : ∀ i, src.getD (pos + i) 0 =
        (b0 :: b1 :: b2 :: b3 :: b4 :: b5 :: b6 :: b7 :: rest).getD i 0 := by
      intro i
      rw [hsrc, ← hpos, List.getD_eq_getElem?_getD, List.getElem?_append_right (by omega),
        Nat.add_sub_cancel_left, List.getD_eq_getElem?_getD]
    have hlength : src.length = pos + (rest.length + 8) := by
      rw [hsrc, List.length_append, hpos]
      rfl
    have hstart : wordChecked src pos = some (le16 b0 b1) := by
      rw [wordChecked_eq (by omega)]
      have h0 := hget 0
      rw [Nat.add_zero] at h0
      rw [h0, hget 1]
      rfl
    have hsize : wordChecked src (pos + 2) = some (le16 b2 b3) := by
      rw [wordChecked_eq (by omega), Nat.add_assoc, hget 2, hget 3]
      rfl
    have hnext : src = (before ++ [b0, b1, b2, b3, b4, b5, b6, b7]) ++ rest := by
      rw [hsrc, List.append_assoc]
      rfl
    rw [List.length_cons, List.length_cons, List.length_cons, List.length_cons, List.length_cons,
      List.length_cons, List.length_cons, List.length_cons, parseSyncManagersChecked, hstart, hsize]
    exact ih hnext (by rw [List.length_append, hpos]; rfl)
  | case2 rest s pos hshort =>
    apply parseSyncManagersChecked_of_lt
    rcases rest with _ | ⟨b0, _ | ⟨b1, _ | ⟨b2, _ | ⟨b3, _ | ⟨b4, _ | ⟨b5, _ | ⟨b6, _ |
      ⟨b7, rest⟩⟩⟩⟩⟩⟩⟩⟩
    case cons.cons.cons.cons.cons.cons.cons.cons =>
      exact (hshort b0 b1 b2 b3 b4 b5 b6 b7 rest rfl).elim
    all_goals simp

/-! ## The register interface -/

/-- The difference of two `size_t` values, which wraps. -/
def sizeSub (a b : Nat) : Nat := (a + 0x10000000000000000 - b) % 0x10000000000000000

theorem sizeSub_eq {a b : Nat} (h : b ≤ a) (ha : a < 0x10000000000000000) :
    sizeSub a b = a - b := by
  rw [sizeSub]
  omega

/-- A word of the EEPROM image, read behind a test of its address. -/
def eepromWordChecked (s : VirtualSlave σ) (i : Nat) : Option UInt16 :=
  if i < 128 then s.eeprom.getChecked i else some 0

theorem eepromWordChecked_eq (s : VirtualSlave σ) (i : Nat) :
    s.eepromWordChecked i = some (if i < 128 then s.eeprom.get i else 0) := by
  unfold eepromWordChecked
  split
  · rename_i h
    exact s.eeprom.getChecked_eq h
  · rfl

def readChecked (s : VirtualSlave σ) (reg : UInt16) (dst : List UInt8) :
    Option (Bool × List UInt8 × VirtualSlave σ) :=
  if reg.toNat = Reg.EEPROM_DATA ∧ 4 ≤ dst.length then do
    let lo ← s.eepromWordChecked s.eepromAddr.toNat
    let hi ← s.eepromWordChecked (s.eepromAddr + 1).toNat
    let dst ← overwriteChecked dst 0 (bytes32 (le32 lo hi))
    some (true, dst, { s with eepromAddr := s.eepromAddr + 2 })
  else if reg.toNat + dst.length ≤ 4096 then do
    let bytes ← s.regs.loadChecked reg.toNat dst.length
    let dst ← overwriteChecked dst 0 bytes
    some (true, dst, s)
  else if s.mbSendOffset.toNat ≤ reg.toNat ∧
      reg.toNat + dst.length ≤ s.mbSendOffset.toNat + s.mbSendSize.toNat then do
    let off := reg.toNat - s.mbSendOffset.toNat
    let n := min dst.length (sizeSub s.mbOut.length off)
    let bytes ← sliceChecked s.mbOut off n
    let dst ← overwriteChecked dst 0 bytes
    let s ← syncSMStatusChecked { s with mbHaveReply := false }
    some (true, dst, s)
  else some (false, dst, s)

def escWriteHooksChecked (s : VirtualSlave σ) (reg : UInt16) (len : Nat) :
    Option (VirtualSlave σ) := do
  let s ←
    if reg.toNat = Reg.STATION_ADDR ∧ 2 ≤ len then do
      let address ← s.regs.wordChecked Reg.STATION_ADDR
      some { s with address }
    else some s
  if reg.toNat = Reg.AL_CONTROL ∧ 1 ≤ len then do
    let ctrl ← s.regs.wordChecked Reg.AL_CONTROL
    s.handleAlControlWriteChecked ctrl
  else some s

def writeChecked [SlaveDevice σ] (s : VirtualSlave σ) (reg : UInt16) (src : List UInt8) :
    Option (Bool × VirtualSlave σ) :=
  if reg.toNat = Reg.EEPROM_CONTROL ∧ 6 ≤ src.length then do
    let _command ← wordChecked src 0
    let addressLow ← wordChecked src 2
    let addressHigh ← wordChecked src 4
    some (true, { s with eepromAddr := le32 addressLow addressHigh })
  else if reg.toNat + src.length ≤ 4096 then do
    let bytes ← sliceChecked src 0 src.length
    let regs ← s.regs.storeChecked reg.toNat bytes
    let s ← escWriteHooksChecked { s with regs } reg src.length
    some (true, s)
  else if s.mbRecvOffset.toNat ≤ reg.toNat ∧
      reg.toNat + src.length ≤ s.mbRecvOffset.toNat + s.mbRecvSize.toNat then do
    let off := reg.toNat - s.mbRecvOffset.toNat
    let n := min src.length (sizeSub s.mbIn.length off)
    let bytes ← sliceChecked src 0 n
    let mbIn ← overwriteChecked s.mbIn off bytes
    let s ← handleMailboxWriteChecked { s with mbIn }
    some (true, s)
  else if Reg.SYNC_MANAGER ≤ reg.toNat ∧ reg.toNat < Reg.SYNC_MANAGER + 16 then do
    let s ← parseSyncManagersChecked reg.toNat src src.length 0 s
    let s ← syncSMRegistersChecked s
    some (true, s)
  else some (false, s)

/-- A read is inside all containers, when the send buffer has the size of its window. -/
theorem readChecked_eq {s : VirtualSlave σ} (hsize : s.mbOut.length = s.mbSendSize.toNat)
    (reg : UInt16) (dst : List UInt8) : s.readChecked reg dst = some (s.read reg dst) := by
  unfold readChecked read
  split
  · rename_i heeprom
    have hcopy : ∀ v, overwriteChecked dst 0 (bytes32 v) = some (overwrite dst 0 (bytes32 v)) :=
      fun v => overwriteChecked_eq ((Nat.zero_add _).trans_le heeprom.2)
    rw [eepromWordChecked_eq, eepromWordChecked_eq]
    dsimp only [Option.bind_eq_bind, Option.bind_some]
    rw [hcopy]
    rfl
  · split
    · rename_i hesc
      have hlength : (s.regs.load reg.toNat dst.length).length = dst.length :=
        Cells.load_length _ _ _
      rw [Cells.loadChecked_eq _ hesc]
      dsimp only [Option.bind_eq_bind, Option.bind_some]
      rw [overwriteChecked_eq (by omega), overwrite_eq_of_length hlength]
      rfl
    · split
      · rename_i hwin
        have hword := s.mbSendSize.toNat_lt
        have hsub : sizeSub s.mbOut.length (reg.toNat - s.mbSendOffset.toNat) =
            s.mbOut.length - (reg.toNat - s.mbSendOffset.toNat) :=
          sizeSub_eq (by omega) (by omega)
        dsimp only [Option.bind_eq_bind, Option.bind_some]
        rw [hsub, sliceChecked_eq (by omega), Option.bind_some,
          overwriteChecked_eq (by rw [List.length_take]; omega), Option.bind_some,
          syncSMStatusChecked_eq]
        rfl
      · rfl

theorem escWriteHooksChecked_eq (s : VirtualSlave σ) (reg : UInt16) (len : Nat) :
    s.escWriteHooksChecked reg len = some (s.escWriteHooks reg len) := by
  have hstation : s.regs.wordChecked Reg.STATION_ADDR = some (s.regs.word Reg.STATION_ADDR) :=
    s.regs.wordChecked_eq (by decide)
  have hcontrol : ∀ s : VirtualSlave σ,
      (do
        let ctrl ← s.regs.wordChecked Reg.AL_CONTROL
        s.handleAlControlWriteChecked ctrl) =
      some (s.handleAlControlWrite (s.regs.word Reg.AL_CONTROL)) := by
    intro s
    rw [s.regs.wordChecked_eq (by decide)]
    exact handleAlControlWriteChecked_eq s _
  unfold escWriteHooksChecked escWriteHooks
  rw [hstation]
  by_cases hreg : reg.toNat = Reg.STATION_ADDR ∧ 2 ≤ len
  · rw [if_pos hreg, if_pos hreg]
    dsimp only [Option.bind_eq_bind, Option.bind_some]
    split
    · exact hcontrol _
    · rfl
  · rw [if_neg hreg, if_neg hreg]
    dsimp only [Option.bind_eq_bind, Option.bind_some]
    split
    · exact hcontrol _
    · rfl

section Write

variable [SlaveDevice σ]

/-- The copy into the receive buffer stays inside it. -/
theorem writeChecked_mailbox {s : VirtualSlave σ} (hsize : s.mbIn.length = s.mbRecvSize.toNat)
    {reg : UInt16} {src : List UInt8} (h : s.WritesMailbox reg src) :
    s.writeChecked reg src =
      ((s.incoming reg src).handleMailboxWriteChecked).map fun s => (true, s) := by
  obtain ⟨hctrl, hesc, hwin⟩ := h
  unfold InWindow at hwin
  have hword := s.mbRecvSize.toNat_lt
  have hsub : sizeSub s.mbIn.length (reg.toNat - s.mbRecvOffset.toNat) =
      s.mbIn.length - (reg.toNat - s.mbRecvOffset.toNat) := sizeSub_eq (by omega) (by omega)
  rw [writeChecked, if_neg hctrl, if_neg (by omega), if_pos hwin]
  dsimp only [Option.bind_eq_bind, Option.bind_some]
  rw [hsub, sliceChecked_eq (by omega), List.drop_zero, Option.bind_some,
    overwriteChecked_eq (by rw [List.length_take]; omega), Option.bind_some, incoming,
    Option.map_eq_bind]
  rfl

/-- Every other write is inside all containers. -/
theorem writeChecked_eq {s : VirtualSlave σ} {reg : UInt16} {src : List UInt8}
    (h : ¬s.WritesMailbox reg src) : s.writeChecked reg src = some (s.write reg src) := by
  unfold writeChecked write
  by_cases hctrl : reg.toNat = Reg.EEPROM_CONTROL ∧ 6 ≤ src.length
  · rw [if_pos hctrl, if_pos hctrl, wordChecked_eq (by omega), wordChecked_eq (by omega),
      wordChecked_eq (by omega)]
    rfl
  · rw [if_neg hctrl, if_neg hctrl]
    by_cases hesc : reg.toNat + src.length ≤ 4096
    · rw [if_pos hesc, if_pos hesc, sliceChecked_eq (Nat.zero_add _).le, List.drop_zero,
        List.take_length]
      dsimp only [Option.bind_eq_bind, Option.bind_some]
      rw [Cells.storeChecked_eq _ hesc, Option.bind_some, escWriteHooksChecked_eq]
      rfl
    · rw [if_neg hesc, if_neg hesc]
      have hwin : ¬(s.mbRecvOffset.toNat ≤ reg.toNat ∧
          reg.toNat + src.length ≤ s.mbRecvOffset.toNat + s.mbRecvSize.toNat) :=
        fun hwin => h ⟨hctrl, Nat.lt_of_not_le hesc, hwin⟩
      rw [if_neg hwin, if_neg hwin]
      split
      · have hparse := s.parseSyncManagersChecked_eq reg.toNat (List.nil_append src).symm rfl
        rw [List.length_nil] at hparse
        rw [hparse]
        dsimp only [Option.bind_eq_bind, Option.bind_some]
        rw [syncSMRegistersChecked_eq]
        rfl
      · rfl

/-- A write is inside all containers exactly when the mailbox handler has room for the request
that it is given. -/
theorem writeChecked_eq_some_iff {s : VirtualSlave σ} (hsize : s.mbIn.length = s.mbRecvSize.toNat)
    {reg : UInt16} {src : List UInt8} {out : Bool × VirtualSlave σ} :
    s.writeChecked reg src = some out ↔
      (s.WritesMailbox reg src → (s.incoming reg src).HandlerRoom) ∧ s.write reg src = out := by
  by_cases h : s.WritesMailbox reg src
  · rw [writeChecked_mailbox hsize h, write_mailbox h, imp_iff_right h]
    constructor
    · intro hout
      obtain ⟨s', hs', rfl⟩ := Option.map_eq_some_iff.mp hout
      obtain ⟨hroom, rfl⟩ := handleMailboxWriteChecked_eq_some_iff.mp hs'
      exact ⟨hroom, rfl⟩
    · intro hout
      obtain ⟨hroom, rfl⟩ := hout
      rw [handleMailboxWriteChecked_eq hroom]
      rfl
  · rw [writeChecked_eq h, Option.some.injEq, and_iff_right (absurd · h)]

end Write

end VirtualSlave

end EthercatSim

import EthercatSim.VirtualSlave.Checked

/-!
# The buffers of a slave

* `Sized`: each mailbox buffer has the size of its window.  Every call keeps it.
* `read_fills_iff`: a read that succeeds overwrites the whole buffer of the caller,
  unless it reads more than four bytes at EEPROM_DATA.
* `stepChecked` is a call with checked accesses.  `runChecked_new_eq_some_iff`: a run of calls
  stays inside all containers exactly when each request that the mailbox handler gets finds
  room for its headers and its payload.
-/

namespace EthercatSim

open Kickcat Bytes StepRun

namespace VirtualSlave

variable {σ : Type}

/-! ## The sizes of the mailbox buffers -/

/-- Each mailbox buffer has the size of its window. -/
structure Sized (s : VirtualSlave σ) : Prop where
  mbIn : s.mbIn.length = s.mbRecvSize.toNat
  mbOut : s.mbOut.length = s.mbSendSize.toNat

theorem sized_new (address : UInt16) (vendorId productCode : UInt32) (device : σ) :
    (new address vendorId productCode device).Sized :=
  ⟨List.length_replicate, List.length_replicate⟩

/-- The sizes, for comparing two states. -/
def sizes (s : VirtualSlave σ) : UInt16 × UInt16 × Nat × Nat :=
  (s.mbRecvSize, s.mbSendSize, s.mbIn.length, s.mbOut.length)

theorem Sized.of_sizes_eq {s s' : VirtualSlave σ} (h : s.Sized) (hsizes : s'.sizes = s.sizes) :
    s'.Sized := by
  simp only [sizes, Prod.mk.injEq] at hsizes
  obtain ⟨hrecv, hsend, hin, hout⟩ := hsizes
  constructor
  · rw [hin, hrecv]
    exact h.mbIn
  · rw [hout, hsend]
    exact h.mbOut

theorem AlStep.sizes_eq {s s' : VirtualSlave σ} (h : AlStep s s') : s'.sizes = s.sizes := by
  have hframe := congrArg sizes h.frame
  exact hframe

/-- An entry resizes the buffer of its window. -/
theorem Sized.setSyncManager {s : VirtualSlave σ} (h : s.Sized) (i : Nat)
    (start length : UInt16) : (s.setSyncManager i start length).Sized := by
  unfold VirtualSlave.setSyncManager
  split
  · refine ⟨?_, h.mbOut⟩
    dsimp only
    split
    · exact List.length_replicate
    · omega
  · split
    · refine ⟨h.mbIn, ?_⟩
      dsimp only
      split
      · exact List.length_replicate
      · omega
    · exact h

theorem Sized.parseSyncManagers {s : VirtualSlave σ} (h : s.Sized) (reg pos : Nat)
    (rest : List UInt8) : (s.parseSyncManagers reg pos rest).Sized := by
  fun_induction VirtualSlave.parseSyncManagers s reg pos rest with
  | case1 s pos b0 b1 b2 b3 b4 b5 b6 b7 rest s' ih => exact ih (h.setSyncManager _ _ _)
  | case2 => exact h

section Device

variable [SlaveDevice σ]

/-- A request is handled in place. -/
theorem handleMailboxWrite_sizes (s : VirtualSlave σ) :
    s.handleMailboxWrite.sizes = s.sizes := by
  have hframe := (handleMailboxWrite_mailboxStep s).frame s.device
  have hrecv := congrArg mbRecvSize hframe
  have hsend := congrArg mbSendSize hframe
  have hin : s.handleMailboxWrite.mbIn = s.mbIn := sdoReply_mbIn s
  have hout : s.handleMailboxWrite.mbOut.length = s.mbOut.length := by
    show (overwrite (List.replicate s.sdoReply.2.mbOut.length 0) 0 _).length = _
    rw [length_overwrite, List.length_replicate, sdoReply_mbOut]
  rw [sizes, sizes, hin, hout]
  exact Prod.ext hrecv (Prod.ext hsend rfl)

/-- Every call keeps the sizes right. -/
theorem Sized.step {s : VirtualSlave σ} (h : s.Sized) (op : SlaveOp) : (s.step op).Sized := by
  cases op with
  | read reg dst =>
    show (s.read reg dst).2.2.Sized
    have hbranch := s.read_branch reg dst
    generalize s.read reg dst = out at hbranch
    cases hbranch <;> exact h.of_sizes_eq rfl
  | write reg src =>
    show (s.write reg src).2.Sized
    have hbranch := s.write_branch reg src
    generalize s.write reg src = out at hbranch
    cases hbranch with
    | eeprom addr hreg hlen => exact h.of_sizes_eq rfl
    | esc hesc =>
      rcases escWriteHooks_branch { s with regs := s.regs.store reg.toNat src } reg src.length with
        hstep | ⟨address, hset⟩
      · exact h.of_sizes_eq hstep.sizes_eq
      · rw [hset]
        exact h.of_sizes_eq rfl
    | mailbox hreg hsize hwin =>
      refine h.of_sizes_eq ((handleMailboxWrite_sizes _).trans ?_)
      simp only [sizes, length_overwrite]
    | syncManager hreg hsize hwin hsm =>
      exact (h.parseSyncManagers reg.toNat 0 src).of_sizes_eq rfl
    | rejected hreg hsize hwin hsm => exact h
  | setOnline on => exact h.of_sizes_eq rfl
  | setALState st => exact h.of_sizes_eq rfl
  | setInputPDOMapped v => exact h.of_sizes_eq rfl
  | start => exact h.of_sizes_eq rfl
  | routine =>
    show s.routine.Sized
    unfold routine
    split
    · exact h
    · exact h.of_sizes_eq rfl

end Device

/-! ## What a read leaves of the buffer -/

/-- The part of the send buffer that a read in the send window copies. -/
theorem Sized.length_sendChunk {s : VirtualSlave σ} (h : s.Sized) {reg : UInt16} {len : Nat}
    (hwin : InWindow s.mbSendOffset s.mbSendSize reg len) :
    ((s.mbOut.drop (reg.toNat - s.mbSendOffset.toNat)).take
      (min len (s.mbOut.length - (reg.toNat - s.mbSendOffset.toNat)))).length = len := by
  obtain ⟨hlo, hhi⟩ := hwin
  rw [List.length_take, List.length_drop, h.mbOut]
  omega

/-- A read that succeeds does not depend on the buffer, when it is no longer than the
four bytes at EEPROM_DATA. -/
theorem Sized.read_eq {s : VirtualSlave σ} (h : s.Sized) {reg : UInt16} {dst dst' : List UInt8}
    (hlen : dst'.length = dst.length) (hdata : ¬(reg.toNat = Reg.EEPROM_DATA ∧ 4 < dst.length))
    (hok : (s.read reg dst).1 = true) : s.read reg dst' = s.read reg dst := by
  unfold read at hok ⊢
  rw [hlen]
  split
  · rename_i heeprom
    have hfour : dst.length = 4 := by omega
    have hbytes : ∀ v, (bytes32 v).length = 4 := fun _ => rfl
    have hwhole : ∀ v, overwrite dst 0 (bytes32 v) = bytes32 v :=
      fun v => overwrite_eq_of_length (hfour ▸ hbytes v)
    have hwhole' : ∀ v, overwrite dst' 0 (bytes32 v) = bytes32 v :=
      fun v => overwrite_eq_of_length (by rw [hlen, hfour, hbytes])
    simp only [hwhole, hwhole']
  · split
    · rfl
    · split
      · rename_i hwin
        have hchunk := h.length_sendChunk hwin
        dsimp only
        rw [overwrite_eq_of_length (hchunk.trans hlen.symm), overwrite_eq_of_length hchunk]
      · rename_i heeprom hesc hwin
        rw [if_neg heeprom, if_neg hesc, if_neg hwin] at hok
        cases hok

/-- Behind its fourth byte a read at EEPROM_DATA leaves the buffer alone. -/
theorem read_eepromData_getD (s : VirtualSlave σ) {reg : UInt16} {dst : List UInt8}
    (hreg : reg.toNat = Reg.EEPROM_DATA) (hlen : 4 < dst.length) :
    (s.read reg dst).1 = true ∧ (s.read reg dst).2.1.getD 4 0 = dst.getD 4 0 := by
  unfold read
  rw [if_pos ⟨hreg, Nat.le_of_lt hlen⟩]
  refine ⟨rfl, ?_⟩
  dsimp only
  rw [getD_overwrite]
  exact if_neg fun hin => absurd hin.2.1 (Nat.lt_irrefl 4)

/-- In every state that calls lead to, whatever the length: reads that succeed give the
same bytes and the same state for all buffers of that length exactly when it is not a
read of more than four bytes at EEPROM_DATA. -/
theorem read_fills_iff [SlaveDevice σ] (address : UInt16) (vendorId productCode : UInt32)
    (device : σ) (ops : List SlaveOp) (reg : UInt16) (len : Nat) :
    let s := run step (new address vendorId productCode device) ops
    (∀ dst dst' : List UInt8, dst.length = len → dst'.length = len →
        (s.read reg dst).1 = true → s.read reg dst' = s.read reg dst) ↔
      ¬(reg.toNat = Reg.EEPROM_DATA ∧ 4 < len) := by
  intro s
  constructor
  · intro hsame hdata
    obtain ⟨hreg, hlen⟩ := hdata
    have hzero := @read_eepromData_getD σ s reg (List.replicate len 0) hreg
      (by rw [List.length_replicate]; exact hlen)
    have hone := @read_eepromData_getD σ s reg (List.replicate len 1) hreg
      (by rw [List.length_replicate]; exact hlen)
    have heq := hsame _ (List.replicate len 1) List.length_replicate List.length_replicate hzero.1
    rw [heq, hzero.2] at hone
    have hbyte := hone.2
    simp [hlen] at hbyte
  · intro hdata dst dst' hdst hdst' hok
    have hsized : s.Sized := run_preserved (fun _ op h => h.step op) (sized_new _ _ _ _) ops
    refine hsized.read_eq (hdst'.trans hdst.symm) ?_ hok
    rw [hdst]
    exact hdata

/-- Five bytes at EEPROM_DATA: the last one is the caller's. -/
theorem read_fills_eeprom_false :
    (new 1 2 3 ()).read 0x0508 [0, 0, 0, 0, 0xAA] =
        (true, [0x80, 0x01, 0, 0, 0xAA], { new 1 2 3 () with eepromAddr := 2 }) ∧
      ((new 1 2 3 ()).read 0x0508 [0, 0, 0, 0, 0xBB]).2.1 ≠
        ((new 1 2 3 ()).read 0x0508 [0, 0, 0, 0, 0xAA]).2.1 := by
  refine ⟨rfl, by decide⟩

/-! ## Calls with checked accesses -/

/-- The headers and the payload of the request, and those of its reply, fit into the
mailbox buffers.  The payload of a request is read for a download only, and that of the
reply is written for everything else. -/
def RequestFits (s : VirtualSlave σ) (req : SdoMessage) : Prop :=
  if req.IsDownload then 16 ≤ s.mbRecvSize.toNat ∧ 12 ≤ s.mbSendSize.toNat
  else 12 ≤ s.mbRecvSize.toNat ∧ 16 ≤ s.mbSendSize.toNat

instance (s : VirtualSlave σ) (req : SdoMessage) : Decidable (s.RequestFits req) :=
  inferInstanceAs (Decidable (ite _ _ _))

/-- A request that the call hands to the mailbox handler fits. -/
def HandlerFits (s : VirtualSlave σ) : SlaveOp → Prop
  | .write reg src => s.WritesMailbox reg src → s.RequestFits (s.received reg src)
  | _ => True

instance (s : VirtualSlave σ) : (op : SlaveOp) → Decidable (s.HandlerFits op)
  | .write _ _ => inferInstanceAs (Decidable (_ → _))
  | .read _ _ | .setOnline _ | .setALState _ | .setInputPDOMapped _ | .start | .routine =>
    isTrue trivial

/-- With buffers of the sizes of the windows, a request fits when the handler has room. -/
theorem Sized.handlerRoom_iff {s : VirtualSlave σ} (h : s.Sized) (reg : UInt16)
    (src : List UInt8) :
    (s.incoming reg src).HandlerRoom ↔ s.RequestFits (s.received reg src) := by
  have hin : (s.incoming reg src).mbIn.length = s.mbIn.length := length_overwrite _ _ _
  have hout : (s.incoming reg src).mbOut = s.mbOut := rfl
  rw [HandlerRoom, RequestFits, received, hin, hout, h.mbIn, h.mbOut]

section Checked

variable [SlaveDevice σ]

/-- The slave after one call, with checked accesses. -/
def stepChecked (s : VirtualSlave σ) : SlaveOp → Option (VirtualSlave σ)
  | .read reg dst => (s.readChecked reg dst).map fun out => out.2.2
  | .write reg src => (s.writeChecked reg src).map fun out => out.2
  | .setOnline on => syncCoreRegistersChecked { s with online := on }
  | .setALState st => syncCoreRegistersChecked { s with alState := st }
  | .setInputPDOMapped v => some (s.setInputPDOMapped v)
  | .start => some s.start
  | .routine => if !s.started then some s else s.syncCoreRegistersChecked

/-- The slave after a run of calls, `none` from the first index out of range on. -/
def runChecked (s : VirtualSlave σ) (ops : List SlaveOp) : Option (VirtualSlave σ) :=
  ops.foldlM stepChecked s

/-- A call is inside all containers exactly when the request that it hands to the mailbox
handler fits, and then it is the call of the model. -/
theorem Sized.stepChecked_eq_some_iff {s s' : VirtualSlave σ} (h : s.Sized) (op : SlaveOp) :
    s.stepChecked op = some s' ↔ s.HandlerFits op ∧ s.step op = s' := by
  have hsome : ∀ t : VirtualSlave σ, some t = some s' ↔ True ∧ t = s' := by
    intro t
    rw [Option.some.injEq, true_and]
  have hcore : ∀ t : VirtualSlave σ,
      t.syncCoreRegistersChecked = some s' ↔ True ∧ t.syncCoreRegisters = s' := by
    intro t
    rw [syncCoreRegistersChecked_eq]
    exact hsome _
  cases op with
  | read reg dst =>
    rw [stepChecked, readChecked_eq h.mbOut]
    exact hsome _
  | write reg src =>
    rw [stepChecked, HandlerFits, ← h.handlerRoom_iff]
    constructor
    · intro hstep
      obtain ⟨out, hout, rfl⟩ := Option.map_eq_some_iff.mp hstep
      obtain ⟨hroom, rfl⟩ := (writeChecked_eq_some_iff h.mbIn).mp hout
      exact ⟨hroom, rfl⟩
    · intro hout
      obtain ⟨hroom, rfl⟩ := hout
      rw [(writeChecked_eq_some_iff h.mbIn).mpr ⟨hroom, rfl⟩]
      rfl
  | setOnline on => exact hcore _
  | setALState st => exact hcore _
  | setInputPDOMapped v => exact hsome _
  | start => exact hsome _
  | routine =>
    show (if !s.started then some s else s.syncCoreRegistersChecked) = some s' ↔
      True ∧ (if !s.started then s else s.syncCoreRegisters) = s'
    split
    · exact hsome s
    · exact hcore s

/-- A run of calls is inside all containers exactly when all its calls are, and then it is
the run of the model. -/
theorem Sized.runChecked_eq_some_iff {s s' : VirtualSlave σ} (h : s.Sized)
    (ops : List SlaveOp) :
    s.runChecked ops = some s' ↔
      StepsOk VirtualSlave.step HandlerFits s ops ∧ run VirtualSlave.step s ops = s' := by
  induction ops generalizing s with
  | nil =>
    show some s = some s' ↔ True ∧ s = s'
    rw [Option.some.injEq, true_and]
  | cons op ops ih =>
    rw [runChecked, List.foldlM_cons, Option.bind_eq_bind, Option.bind_eq_some_iff]
    constructor
    · intro hrun
      obtain ⟨t, hstep, hrest⟩ := hrun
      obtain ⟨hfits, rfl⟩ := (h.stepChecked_eq_some_iff op).mp hstep
      obtain ⟨hok, hend⟩ := (ih (h.step op)).mp hrest
      exact ⟨⟨hfits, hok⟩, hend⟩
    · intro hrun
      obtain ⟨⟨hfits, hok⟩, hend⟩ := hrun
      exact ⟨s.step op, (h.stepChecked_eq_some_iff op).mpr ⟨hfits, rfl⟩,
        (ih (h.step op)).mpr ⟨hok, hend⟩⟩

/-- Along every run of calls the mailbox buffers have the sizes of their windows.  All
accesses of the run are inside their containers exactly when every request that a write hands
to the mailbox handler fits, and then the run is that of the model. -/
theorem runChecked_new_eq_some_iff (address : UInt16) (vendorId productCode : UInt32)
    (device : σ) (ops : List SlaveOp) :
    Always step Sized (new address vendorId productCode device) ops ∧
      ∀ s', runChecked (new address vendorId productCode device) ops = some s' ↔
        StepsOk step HandlerFits (new address vendorId productCode device) ops ∧
          run step (new address vendorId productCode device) ops = s' :=
  ⟨always_of_preserved (fun _ op h => h.step op) (sized_new _ _ _ _) ops,
    fun _ => (sized_new _ _ _ _).runChecked_eq_some_iff ops⟩

end Checked

/-- Two sync manager entries, the first with a receive window of eight bytes, in a write
that ends behind ESC space. -/
def shortWindow : List UInt8 :=
  [0x00, 0x10, 8, 0, 0, 0, 0, 0, 0x00, 0x12, 0x00, 0x02, 0, 0, 0, 0] ++ List.replicate 2033 0

/-- Eight bytes are written to a receive window of eight bytes.  The handler reads the
SDO header behind them. -/
theorem runChecked_shortWindow_false :
    (run step (new 1 0 0 ()) [.write 0x0800 shortWindow]).mbIn.length = 8 ∧
      (runChecked (new 1 0 0 ()) [.write 0x0800 shortWindow]).isSome = true ∧
      runChecked (new 1 0 0 ())
        [.write 0x0800 shortWindow, .write 0x1000 (List.replicate 8 0)] = none := by
  have hsized := sized_new 1 0 0 ()
  refine ⟨by decide +kernel, ?_, ?_⟩
  · have hok : StepsOk step HandlerFits (new 1 0 0 ()) [.write 0x0800 shortWindow] := by
      decide +kernel
    rw [(hsized.runChecked_eq_some_iff _).mpr ⟨hok, rfl⟩]
    rfl
  · have hnot : ¬StepsOk step HandlerFits (new 1 0 0 ())
        [.write 0x0800 shortWindow, .write 0x1000 (List.replicate 8 0)] := by
      decide +kernel
    rw [Option.eq_none_iff_forall_ne_some]
    intro s' hs'
    exact hnot ((hsized.runChecked_eq_some_iff _).mp hs').1

end VirtualSlave

end EthercatSim

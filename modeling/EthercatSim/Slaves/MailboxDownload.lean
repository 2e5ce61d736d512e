import EthercatSim.VirtualSlave.Bounds
import EthercatSim.Slaves.ObjectDictionary

/-!
# Which messages change the object dictionary

A write into the receive window makes `handleMailboxWrite` look at the headers in the
receive buffer, wherever in the window the write was.  It takes the message there for a
download when the CoE service and the SDO command say so, and then hands the four payload
bytes to `onSdoDownload`.

* `DictionaryView` is a view of a subclass that its uploads leave alone and that its
  downloads change by what they are given.
* `Sized.received_eq`: for a whole message at the start of the window these headers are those
  of the message.
* `onlyDownloadsChange`: for both classes of an EL1258 the dictionary is such a view, so
  only a download changes it, and what a download stores is determined by the object and
  the four payload bytes.
* `genuineDownloads_false`: the mailbox type, the transfer type and the block size play
  no part in it.
-/

namespace EthercatSim

open Kickcat Bytes El1258

namespace VirtualSlave

variable {σ D : Type}

/-- A whole message at the start of the window is the message that is read. -/
theorem Sized.received_eq {s : VirtualSlave σ} (h : s.Sized) {msg : List UInt8}
    (hwrite : s.WritesMailbox s.mbRecvOffset msg) (hlen : 16 ≤ msg.length) :
    s.received s.mbRecvOffset msg = SdoMessage.decode msg := by
  obtain ⟨-, hfits⟩ := hwrite.2.2
  have hsize := h.mbIn
  apply SdoMessage.decode_congr
  intro i hi
  rw [incoming]
  simp only [Nat.sub_self, Nat.sub_zero]
  rw [getD_overwrite, if_pos (by rw [List.length_take]; omega), Nat.sub_zero]
  simp only [List.getD_eq_getElem?_getD]
  rw [List.getElem?_take_of_lt (by omega)]

/-- A view of the data of a subclass and the mapping flag that stands for its object
dictionary. -/
structure DictionaryView [SlaveDevice σ] (view : σ → Bool → D) : Prop where
  upload : ∀ d mapped index subindex,
    view (SlaveDevice.onSdoUpload d index subindex).2 mapped = view d mapped
  download : ∀ d mapped d' mapped' index subindex value nbytes, view d mapped = view d' mapped' →
    view (SlaveDevice.onSdoDownload d mapped index subindex value nbytes).2.2
        (SlaveDevice.onSdoDownload d mapped index subindex value nbytes).2.1 =
      view (SlaveDevice.onSdoDownload d' mapped' index subindex value nbytes).2.2
        (SlaveDevice.onSdoDownload d' mapped' index subindex value nbytes).2.1

/-- What the view shows of a slave. -/
def viewed (view : σ → Bool → D) (s : VirtualSlave σ) : D := view s.device s.inputPdoMapped

/-- A mailbox message changes the view only when it is a download, and then the new view
depends on the old one, the object and the four payload bytes alone. -/
structure OnlyDownloadsChange [SlaveDevice σ] (view : σ → Bool → D) : Prop where
  changes : ∀ (s : VirtualSlave σ) (reg : UInt16) (src : List UInt8), s.WritesMailbox reg src →
    (s.write reg src).2.viewed view ≠ s.viewed view → (s.received reg src).IsDownload
  determined : ∀ (s s' : VirtualSlave σ) (reg reg' : UInt16) (src src' : List UInt8),
    s.WritesMailbox reg src → s'.WritesMailbox reg' src' →
    (s.received reg src).IsDownload → (s'.received reg' src').IsDownload →
    (s.received reg src).index = (s'.received reg' src').index →
    (s.received reg src).subindex = (s'.received reg' src').subindex →
    (s.received reg src).payload = (s'.received reg' src').payload →
    s.viewed view = s'.viewed view →
    (s.write reg src).2.viewed view = (s'.write reg' src').2.viewed view

section View

variable [SlaveDevice σ] {view : σ → Bool → D}

theorem sdoUpload_view (hview : DictionaryView view) (s : VirtualSlave σ) (index : UInt16)
    (subindex : UInt8) : (s.sdoUpload index subindex).2.viewed view = s.viewed view := by
  unfold sdoUpload
  split
  · rfl
  · split
    · rfl
    · split
      · rfl
      · split
        · rfl
        · exact hview.upload _ _ _ _

/-- A message that is no download leaves the view alone. -/
theorem handleMailboxWrite_view (hview : DictionaryView view) {s : VirtualSlave σ}
    (h : ¬(SdoMessage.decode s.mbIn).IsDownload) :
    s.handleMailboxWrite.viewed view = s.viewed view := by
  show s.sdoReply.2.viewed view = s.viewed view
  unfold SdoMessage.IsDownload at h
  unfold sdoReply
  simp only
  split
  · exact sdoUpload_view hview s _ _
  · rfl

/-- A download changes the view by its object and its value. -/
theorem handleMailboxWrite_download {s : VirtualSlave σ}
    (h : (SdoMessage.decode s.mbIn).IsDownload) :
    s.handleMailboxWrite.viewed view =
      (s.sdoDownload (SdoMessage.decode s.mbIn).index (SdoMessage.decode s.mbIn).subindex
        (SdoMessage.decode s.mbIn).payload 4).2.viewed view := by
  show s.sdoReply.2.viewed view = _
  have hup : ¬((SdoMessage.decode s.mbIn).service = CoE.SDO_REQUEST ∧
      (SdoMessage.decode s.mbIn).command = CoE.REQUEST_UPLOAD) := by
    intro hc
    exact absurd (hc.2.symm.trans h.2) (by decide)
  unfold SdoMessage.IsDownload at h
  unfold sdoReply
  simp only
  rw [if_neg hup, if_pos h]

theorem DictionaryView.changes_by_download (hview : DictionaryView view) :
    OnlyDownloadsChange view where
  changes := by
    intro s reg src hwrite hchanged
    by_contra hnot
    rw [write_mailbox hwrite] at hchanged
    exact hchanged (handleMailboxWrite_view hview hnot)
  determined := by
    intro s s' reg reg' src src' hwrite hwrite' hdown hdown' hindex hsubindex hpayload hsame
    rw [write_mailbox hwrite, write_mailbox hwrite']
    show (s.incoming reg src).handleMailboxWrite.viewed view =
      (s'.incoming reg' src').handleMailboxWrite.viewed view
    rw [handleMailboxWrite_download hdown, handleMailboxWrite_download hdown']
    rw [received, received] at hindex hsubindex hpayload
    rw [hindex, hsubindex, hpayload]
    exact hview.download _ _ _ _ _ _ _ _ hsame

end View

end VirtualSlave

/-! ## The two classes -/

/-- The object dictionary of an `EL1258Slave`. -/
structure EL1258.Dictionary where
  invertMask : UInt8
  debounceMs : UInt16
  txpdoCount : UInt8
  txpdoEntries : Cells UInt32 CHANNEL_COUNT
  assignCount : UInt8
  assignEntries : Cells UInt16 4
  inputPdoMapped : Bool

def EL1258.dictionary (d : EL1258) (mapped : Bool) : EL1258.Dictionary where
  invertMask := d.invertMask
  debounceMs := d.debounceMs
  txpdoCount := d.txpdoCount
  txpdoEntries := d.txpdoEntries
  assignCount := d.assignCount
  assignEntries := d.assignEntries
  inputPdoMapped := mapped

/-- The object dictionary of an `El1258Slave`. -/
structure El1258.Dictionary where
  invertMask : UInt32
  debounceMs : UInt32
  mapCount : UInt8
  mappings : Cells UInt32 CHANNEL_COUNT
  assignCount : UInt8
  assigned : Bool
  inputPdoMapped : Bool

def El1258.dictionary (d : El1258) (mapped : Bool) : El1258.Dictionary where
  invertMask := d.invertMask
  debounceMs := d.debounceMs
  mapCount := d.mapCount
  mappings := d.mappings
  assignCount := d.assignCount
  assigned := d.assigned
  inputPdoMapped := mapped

theorem EL1258.dictionaryView : VirtualSlave.DictionaryView EL1258.dictionary where
  upload := by
    intro d mapped index subindex
    have hview : ∀ d : EL1258, d.outsideFilter.dictionary mapped = d.dictionary mapped :=
      fun _ => rfl
    have hframe := d.onSdoUpload_outsideFilter index subindex d.now
    show (d.onSdoUpload index subindex d.now).2.dictionary mapped = _
    rw [← hview, hframe, hview]
  download := by
    intro d mapped d' mapped' index subindex value nbytes h
    cases d
    cases d'
    simp only [EL1258.dictionary, EL1258.Dictionary.mk.injEq] at h
    obtain ⟨rfl, rfl, rfl, rfl, rfl, rfl, rfl⟩ := h
    simp only [SlaveDevice.onSdoDownload]
    by_cases hwritable : ∃ o : DictObject, o.index = index ∧ o.subindex = subindex
    · obtain ⟨o, rfl, rfl⟩ := hwritable
      rw [EL1258.onSdoDownload, EL1258.onSdoDownload, EL1258.storeObject_eq, EL1258.storeObject_eq]
      cases o <;> rfl
    · rw [not_exists] at hwritable
      rw [EL1258.onSdoDownload_of_not_writable _ _ hwritable,
        EL1258.onSdoDownload_of_not_writable _ _ hwritable]
      rfl

theorem El1258.dictionaryView : VirtualSlave.DictionaryView El1258.dictionary where
  upload _ _ _ _ := rfl
  download := by
    intro d mapped d' mapped' index subindex value nbytes h
    cases d
    cases d'
    simp only [El1258.dictionary, El1258.Dictionary.mk.injEq] at h
    obtain ⟨rfl, rfl, rfl, rfl, rfl, rfl, rfl⟩ := h
    simp only [SlaveDevice.onSdoDownload, El1258.onSdoDownload]
    repeat' split
    all_goals rfl

/-- For both classes of an EL1258, a write to the receive window changes the object dictionary
or the mapping flag only when the service of the message in the receive buffer is then an SDO
request and its command a download.  What it stores depends on the object and the four
payload bytes, and on nothing else in the message.  A message of at least 16 bytes that is
written at the start of the window is that message. -/
theorem onlyDownloadsChange :
    VirtualSlave.OnlyDownloadsChange EL1258.dictionary ∧
      VirtualSlave.OnlyDownloadsChange El1258.dictionary ∧
      (∀ (s : EL1258Slave) (msg : List UInt8), s.Sized → s.WritesMailbox s.mbRecvOffset msg →
        16 ≤ msg.length → s.received s.mbRecvOffset msg = SdoMessage.decode msg) ∧
      ∀ (s : El1258Slave) (msg : List UInt8), s.Sized → s.WritesMailbox s.mbRecvOffset msg →
        16 ≤ msg.length → s.received s.mbRecvOffset msg = SdoMessage.decode msg :=
  ⟨EL1258.dictionaryView.changes_by_download, El1258.dictionaryView.changes_by_download,
    fun _ _ h => h.received_eq, fun _ _ h => h.received_eq⟩

/-- A download of `value` to 0x8001:0.  `type` is the byte of the mailbox type and the
session handle, `flags` the first byte of the service data. -/
def downloadDebounce (type flags : UInt8) (value : UInt32) : List UInt8 :=
  [10, 0, 0, 0, 0, type, 0, 0x20, flags, 0x01, 0x80, 0] ++ bytes32 value

/-- What a fresh slave shows after a message. -/
def debounceAfter (msg : List UInt8) : UInt16 × UInt32 :=
  (((EL1258Slave.new 1 2 3 fun _ => 0).write 0x1000 msg).2.device.debounceMs,
    ((El1258Slave.new 1 2 3).write 0x1000 msg).2.device.debounceMs)

/-- A message that is not CoE sets the debounce time, and so does one that is not
expedited.  Two expedited messages that declare one payload byte, and agree in it,
set it to different values. -/
theorem genuineDownloads_false :
    debounceAfter [] = (0, 0) ∧
      ((SdoMessage.decode (downloadDebounce 0x12 0x23 5)).type ≠ mailboxCoE ∧
        debounceAfter (downloadDebounce 0x12 0x23 5) = (5, 5)) ∧
      ((SdoMessage.decode (downloadDebounce 0x13 0x21 5)).transferType = 0 ∧
        debounceAfter (downloadDebounce 0x13 0x21 5) = (5, 5)) ∧
      (SdoMessage.decode (downloadDebounce 0x13 0x2F 0x0105)).sizeIndicator = 1 ∧
      (SdoMessage.decode (downloadDebounce 0x13 0x2F 0x0105)).blockSize = 3 ∧
      (downloadDebounce 0x13 0x2F 0x0105).take 13 = (downloadDebounce 0x13 0x2F 0x0205).take 13 ∧
      debounceAfter (downloadDebounce 0x13 0x2F 0x0105) = (0x0105, 0x0105) ∧
      debounceAfter (downloadDebounce 0x13 0x2F 0x0205) = (0x0205, 0x0205) := by
  decide +kernel

end EthercatSim

import EthercatSim.Lib.UnixSocket
import EthercatSim.Transport.EndpointParser

/-!
# The addresses of Unix sockets

The model of `bindUDS_` of `apps/slaves/bus/slaves_endpoint.cpp`, of `connectUDS_` of
`apps/master/bus/master_socket.cpp` and of the creator for `uds` that
`core/communication/socket_factory.cpp` registers.  Each copies the path into a zeroed
`sockaddr_un` of its own.

A function is given the kernel, and returns the system calls that it makes along with
its result.

* `bindUDS_names`, `connectUDS_names` and `createUds_names`: the socket that each of
  them names in these calls.
* `sameSocket_iff`: they name the same one exactly when the path is not in the abstract
  namespace.  There the creator passes the size of the whole structure as the length, so
  that the NULs behind the path are part of the name.
-/

namespace EthercatSim

open UnixSocket

/-- The character in front of a path in the abstract namespace. -/
abbrev AT : UInt8 := 0x40

/-- `sun_path` after the path was copied to its start. -/
def copiedPath (path : List UInt8) : Cells UInt8 108 :=
  (Cells.fill 0).store 0 (strncpy path (108 - 1))

/-! ## The code -/

/-- The address of `bindUDS_` and `connectUDS_` for the path `@rest`. -/
def abstractAddress (rest : List UInt8) : SocketAddress where
  sunPath := ((Cells.fill 0).set 0 0).store 1 (strncpy rest (108 - 2))
  len := 2 + 1 + min (strlen rest) (108 - 2)
  len_le := by omega

/-- The address of `bindUDS_` and `connectUDS_` for any other path. -/
def pathnameAddress (path : List UInt8) : SocketAddress where
  sunPath := copiedPath path
  len := 2 + strlen ((copiedPath path).load 0 108)
  len_le := by
    have hle := strlen_le ((copiedPath path).load 0 108)
    rw [Cells.load_length] at hle
    omega

namespace SlavesEndpoint

/-- The members that `bindUDS_` assigns. -/
structure Listener where
  listenFd : Int
  udsIsAbstract : Bool
  boundDiskPath : List UInt8

/-- `bindUDS_` -/
def bindUDS (kernel : Kernel) (path : List UInt8) (s : Listener) :
    Bool × Listener × List SystemCall :=
  let fd := kernel.answer .socket
  let s := { s with listenFd := fd }
  if fd < 0 then (false, s, [.socket])
  else
    let (addr, s, calls) :=
      if path.head? = some AT then
        (abstractAddress path.tail, { s with udsIsAbstract := true }, [.socket])
      else
        -- unlink an existing path to avoid EADDRINUSE
        (pathnameAddress path, { s with boundDiskPath := path },
          [.socket, .unlink (cString path)])
    if kernel.answer (.bind fd addr) < 0 then (false, s, calls ++ [.bind fd addr, .close fd])
    else if kernel.answer (.listen fd) < 0 then
      (false, s, calls ++ [.bind fd addr, .listen fd, .close fd])
    else (true, s, calls ++ [.bind fd addr, .listen fd])

end SlavesEndpoint

/-- `connectUDS_`: the returned flag, and the descriptor that is left in `fd_`. -/
def MasterSocket.connectUDS (kernel : Kernel) (path : List UInt8) :
    Bool × Int × List SystemCall :=
  let fd := kernel.answer .socket
  if fd < 0 then (false, fd, [.socket])
  else
    let addr :=
      if path.head? = some AT then abstractAddress path.tail else pathnameAddress path
    if kernel.answer (.connect fd addr) < 0 then
      (false, -1, [.socket, .connect fd addr, .close fd])
    else (true, fd, [.socket, .connect fd addr])

namespace SocketFactory

/-- A `std::runtime_error`: its text is `what` with `detail` behind it. -/
structure RuntimeError where
  what : String
  detail : List UInt8

/-- The address of the creator.  Its length is the size of the structure. -/
def udsAddress (path : List UInt8) : SocketAddress where
  sunPath :=
    if path.headD 0 = AT then (copiedPath path).set 0 0 -- starts with a null byte
    else copiedPath path
  len := 2 + 108
  len_le := by omega

/-- The creator that is registered for `uds`. -/
def createUds (kernel : Kernel) (ep : List UInt8) :
    Except RuntimeError Int × List SystemCall :=
  match EndpointParser.parseUdsEndpoint ep [] with
  | (false, _) => (.error ⟨"Invalid UDS endpoint: ", ep⟩, [])
  | (true, path) =>
    let sock := kernel.answer .socket
    if sock < 0 then
      (.error ⟨"Failed to create UDS socket: ", kernel.strerror [.socket]⟩, [.socket])
    else if 108 ≤ path.length then
      (.error ⟨"UDS path too long: ", path⟩, [.socket, .close sock])
    else
      let addr := udsAddress path
      if kernel.answer (.connect sock addr) < 0 then
        let calls := [.socket, .connect sock addr, .close sock]
        (.error ⟨"Failed to connect to UDS endpoint: ", kernel.strerror calls⟩, calls)
      else (.ok sock, [.socket, .connect sock addr])

end SocketFactory

/-! ## The sockets that the addresses name -/

/-- What a path says: a name in the abstract namespace behind the `@`, or a file. -/
def udsName (path : List UInt8) : SocketName :=
  if path.head? = some AT then .abstractName path.tail else .pathname path

theorem abstractAddress_name {rest : List UInt8} (hlen : rest.length ≤ 106) (hnul : 0 ∉ rest) :
    (abstractAddress rest).name = .abstractName rest := by
  have hsize : (abstractAddress rest).len = 3 + rest.length := by
    show 2 + 1 + min (strlen rest) (108 - 2) = 3 + rest.length
    rw [strlen_of_no_nul hnul]
    omega
  apply SocketAddress.name_of_abstract hsize
  · rw [abstractAddress, Cells.set_fill, Cells.get_store_of_disjoint _ (.inl (by omega)),
      Cells.get_fill, if_pos (by omega)]
  · rw [abstractAddress, Cells.set_fill, load_strncpy hnul hlen (Nat.le_refl _) (by omega)]
    simp

section CopiedPath

variable {path : List UInt8} (hlen : path.length ≤ 107) (hnul : 0 ∉ path)

include hlen hnul

/-- What the start of `sun_path` holds after a path was copied there. -/
theorem load_copiedPath {k : Nat} (hk : path.length + k ≤ 108) :
    (copiedPath path).load 0 (path.length + k) = path ++ List.replicate k 0 := by
  rw [copiedPath, load_strncpy hnul hlen (by omega) (by omega), Nat.add_sub_cancel_left]

theorem pathnameAddress_name (hne : path ≠ []) :
    (pathnameAddress path).name = .pathname path := by
  have hall : (copiedPath path).load 0 108 = path ++ List.replicate (108 - path.length) 0 :=
    load_strncpy hnul hlen (by omega) (by omega)
  have hsize : (pathnameAddress path).len = 2 + (path.length + 0) := by
    show 2 + strlen ((copiedPath path).load 0 108) = 2 + path.length
    rw [hall, strlen_append_nuls hnul]
  exact SocketAddress.name_of_pathname hne hnul hsize (load_copiedPath hlen hnul (by omega))

/-- The length of the whole structure does no harm to the name of a file, which ends at
the first NUL. -/
theorem udsAddress_name_of_file (hne : path ≠ []) (hfile : path.head? ≠ some AT) :
    (SocketFactory.udsAddress path).name = .pathname path := by
  have hhead : path.headD 0 ≠ AT := by
    intro heq
    cases path with
    | nil => exact hne rfl
    | cons b rest => exact hfile (congrArg some heq)
  have hsun : (SocketFactory.udsAddress path).sunPath = copiedPath path := if_neg hhead
  have hsize : (SocketFactory.udsAddress path).len = 2 + (path.length + (108 - path.length)) := by
    show 2 + 108 = _
    omega
  apply SocketAddress.name_of_pathname hne hnul hsize
  rw [hsun]
  exact load_copiedPath hlen hnul (by omega)

end CopiedPath

/-- In front of an abstract name it makes the NULs of `sun_path` part of the name. -/
theorem udsAddress_name_of_at {rest : List UInt8} (hlen : rest.length ≤ 106) (hnul : 0 ∉ rest) :
    (SocketFactory.udsAddress (AT :: rest)).name =
      .abstractName (rest ++ List.replicate (107 - rest.length) 0) := by
  have hbytes : 0 ∉ AT :: rest := by
    rw [List.mem_cons]
    rintro (heq | hmem)
    · cases heq
    · exact hnul hmem
  have hpath : (AT :: rest).length ≤ 107 := by
    rw [List.length_cons]
    omega
  have hhead : (AT :: rest).headD 0 = AT := rfl
  have hsun : (SocketFactory.udsAddress (AT :: rest)).sunPath =
      (copiedPath (AT :: rest)).set 0 0 := by
    rw [SocketFactory.udsAddress, if_pos hhead]
  have hget : ∀ i < 107, ((copiedPath (AT :: rest)).set 0 0).get (1 + i) = rest.getD i 0 := by
    intro i hi
    have hcopied : (copiedPath (AT :: rest)).get (0 + (i + 1)) = (AT :: rest).getD (i + 1) 0 :=
      get_strncpy hbytes hpath (by omega)
    rw [Nat.zero_add, List.getD_cons_succ] at hcopied
    rw [Nat.add_comm 1 i, Cells.get_set, if_neg (by omega), hcopied]
  have hlength : (rest ++ List.replicate (107 - rest.length) (0 : UInt8)).length = 107 := by
    simp
    omega
  apply SocketAddress.name_of_abstract
  · rw [hlength]
    rfl
  · rw [hsun, Cells.get_set, if_pos ⟨rfl, by omega⟩]
  · rw [hsun, hlength]
    exact load_of_get hget (by omega)

/-! ## The calls of the three functions -/

section Calls

variable {kernel : Kernel} {path : List UInt8}

theorem no_nul_tail (hnul : 0 ∉ path) : 0 ∉ path.tail := fun h => hnul (List.mem_of_mem_tail h)

/-- The address that `bindUDS_` and `connectUDS_` choose. -/
theorem chosen_name (hne : path ≠ []) (hlen : path.length < 107) (hnul : 0 ∉ path) :
    (if path.head? = some AT then abstractAddress path.tail else pathnameAddress path).name =
      udsName path := by
  rw [udsName]
  split
  · apply abstractAddress_name _ (no_nul_tail hnul)
    rw [List.length_tail]
    omega
  · exact pathnameAddress_name (by omega) hnul hne

variable (hsocket : 0 ≤ kernel.answer .socket)

include hsocket

theorem bindUDS_names (s : SlavesEndpoint.Listener) (hne : path ≠ []) (hlen : path.length < 107)
    (hnul : 0 ∉ path) : names (SlavesEndpoint.bindUDS kernel path s).2.2 = [udsName path] := by
  have hopen : ¬kernel.answer .socket < 0 := by omega
  rw [← chosen_name hne hlen hnul, SlavesEndpoint.bindUDS]
  simp only [if_neg hopen]
  -- neither the bound path nor the answers of `bind` and `listen` change the address
  by_cases hat : path.head? = some AT
  · simp only [if_pos hat]
    split
    · rfl
    · split <;> rfl
  · simp only [if_neg hat]
    split
    · rfl
    · split <;> rfl

theorem connectUDS_names (hne : path ≠ []) (hlen : path.length < 107) (hnul : 0 ∉ path) :
    names (MasterSocket.connectUDS kernel path).2.2 = [udsName path] := by
  have hopen : ¬kernel.answer .socket < 0 := by omega
  rw [← chosen_name hne hlen hnul, MasterSocket.connectUDS]
  simp only [if_neg hopen]
  split
  · split <;> rfl
  · split <;> rfl

theorem createUds_names (hlen : path.length < 107) :
    names (SocketFactory.createUds kernel (EndpointParser.UDS_PREFIX ++ path)).2 =
      [(SocketFactory.udsAddress path).name] := by
  have hopen : ¬kernel.answer .socket < 0 := by omega
  have hshort : ¬108 ≤ path.length := by omega
  have hparse : EndpointParser.parseUdsEndpoint (EndpointParser.UDS_PREFIX ++ path) [] =
      (true, path) := rfl
  rw [SocketFactory.createUds, hparse]
  simp only [if_neg hopen, if_neg hshort]
  split <;> rfl

end Calls

/-- The three functions name one socket in the calls that they make for `path`, whenever
the kernel gives them a descriptor. -/
def SameSocket (path : List UInt8) : Prop :=
  ∃ name, ∀ (kernel : Kernel) (s : SlavesEndpoint.Listener), 0 ≤ kernel.answer .socket →
    names (SlavesEndpoint.bindUDS kernel path s).2.2 = [name] ∧
    names (MasterSocket.connectUDS kernel path).2.2 = [name] ∧
    names (SocketFactory.createUds kernel (EndpointParser.UDS_PREFIX ++ path)).2 = [name]

/-- A file has the same name in all three. -/
theorem sameSocket_of_file {path : List UInt8} (hne : path ≠ []) (hlen : path.length < 107)
    (hnul : 0 ∉ path) (hfile : path.head? ≠ some AT) : SameSocket path := by
  have hname : udsName path = .pathname path := if_neg hfile
  refine ⟨.pathname path, ?_⟩
  intro kernel s hsocket
  refine ⟨?_, ?_, ?_⟩
  · rw [bindUDS_names hsocket s hne hlen hnul, hname]
  · rw [connectUDS_names hsocket hne hlen hnul, hname]
  · rw [createUds_names hsocket hlen, udsAddress_name_of_file (by omega) hnul hne hfile]

/-- An abstract name is at most 105 bytes long in the server and in the master, and 107
bytes in the creator. -/
theorem not_sameSocket_of_at {path : List UInt8} (hlen : path.length < 107) (hnul : 0 ∉ path)
    (hat : path.head? = some AT) : ¬SameSocket path := by
  intro h
  obtain ⟨name, hsame⟩ := h
  obtain ⟨rest, rfl⟩ := List.head?_eq_some_iff.mp hat
  have hrest : 0 ∉ rest := no_nul_tail hnul
  have hlength : rest.length + 1 < 107 := hlen
  have hsocket : 0 ≤ (⟨fun _ => 0, fun _ => []⟩ : Kernel).answer .socket := Int.le_refl 0
  obtain ⟨hbind, -, hcreate⟩ := hsame _ ⟨-1, false, []⟩ hsocket
  rw [bindUDS_names hsocket _ (List.cons_ne_nil _ _) hlen hnul] at hbind
  rw [createUds_names hsocket hlen, udsAddress_name_of_at (by omega) hrest] at hcreate
  have hname : udsName (AT :: rest) = .abstractName rest := if_pos hat
  have heq : SocketName.abstractName rest =
      .abstractName (rest ++ List.replicate (107 - rest.length) 0) := by
    rw [← hname]
    exact List.head_eq_of_cons_eq (hbind.trans hcreate.symm)
  injection heq with hbytes
  have hcount := congrArg List.length hbytes
  simp at hcount
  omega

/-- The three copies of the code agree on the files, and on no abstract name. -/
theorem sameSocket_iff {path : List UInt8} (hne : path ≠ []) (hlen : path.length < 107)
    (hnul : 0 ∉ path) : SameSocket path ↔ path.head? ≠ some AT := by
  constructor
  · intro h hat
    exact not_sameSocket_of_at hlen hnul hat h
  · intro hfile
    exact sameSocket_of_file hne hlen hnul hfile

/-- The path `/a`. -/
theorem sameSocket_file : SameSocket [0x2F, 0x61] :=
  (sameSocket_iff (by decide) (by decide) (by decide)).mpr (by decide)

/-- The path `@a`. -/
theorem sameSocket_abstract_false :
    (([AT, 0x61] : List UInt8) ≠ [] ∧ ([AT, 0x61] : List UInt8).length < 107 ∧
      (0 : UInt8) ∉ [AT, 0x61]) ∧ ¬SameSocket [AT, 0x61] :=
  ⟨by decide, not_sameSocket_of_at (by decide) (by decide) rfl⟩

end EthercatSim

import Mathlib.Data.List.GetD
import EthercatSim.Lib.Cells

/-!
# C strings and the names of Unix sockets

A C string is a list of bytes, read up to its first NUL.  `strncpy` and `strlen` are
those of the C library.

* `load_strncpy`: what a zeroed memory shows after a string was copied into it.
* `SocketAddress`: a `sockaddr_un` with the length that is passed along with it, which
  does not run past its end.
* `SocketAddress.name`: the socket that the kernel finds under an address.  A name in
  the abstract namespace is every byte up to the length; the name of a file ends at the
  first NUL.
* `Kernel`: what the system calls return.
-/

namespace UnixSocket

/-! ## C strings -/

/-- The string that starts the bytes: what is in front of the first NUL. -/
def cString (s : List UInt8) : List UInt8 := s.takeWhile (· ≠ 0)

def strlen (s : List UInt8) : Nat := (cString s).length

/-- The `n` bytes that `strncpy` writes: the string without its NUL, cut at `n`, and
NULs up to `n`. -/
def strncpy (src : List UInt8) (n : Nat) : List UInt8 :=
  (cString src).take n ++ List.replicate (n - strlen src) 0

theorem strlen_le (s : List UInt8) : strlen s ≤ s.length :=
  (List.takeWhile_sublist _).length_le

/-- NULs behind a string are not part of it. -/
theorem cString_append_nuls {s : List UInt8} (h : 0 ∉ s) (k : Nat) :
    cString (s ++ List.replicate k 0) = s := by
  have hbytes : ∀ b ∈ s, decide (b ≠ 0) = true := by
    intro b hb
    rw [decide_eq_true_iff]
    exact fun heq => h (heq ▸ hb)
  rw [cString, List.takeWhile_append_of_pos hbytes, List.takeWhile_replicate]
  simp

theorem cString_of_no_nul {s : List UInt8} (h : 0 ∉ s) : cString s = s := by
  simpa using cString_append_nuls h 0

theorem strlen_append_nuls {s : List UInt8} (h : 0 ∉ s) (k : Nat) :
    strlen (s ++ List.replicate k 0) = s.length := by
  rw [strlen, cString_append_nuls h]

theorem strlen_of_no_nul {s : List UInt8} (h : 0 ∉ s) : strlen s = s.length := by
  rw [strlen, cString_of_no_nul h]

/-- A string that fits is copied whole. -/
theorem strncpy_of_le {s : List UInt8} {n : Nat} (h : 0 ∉ s) (hn : s.length ≤ n) :
    strncpy s n = s ++ List.replicate (n - s.length) 0 := by
  rw [strncpy, strlen_of_no_nul h, cString_of_no_nul h, List.take_of_length_le hn]

/-! ## Strings in a zeroed memory -/

section Memory

variable {n off len : Nat} {s : List UInt8}

/-- The bytes behind a string are NULs, whether it is padded or not. -/
theorem getD_append_nuls (s : List UInt8) (k i : Nat) :
    (s ++ List.replicate k 0).getD i 0 = s.getD i 0 := by
  by_cases hi : i < s.length
  · rw [List.getD_append _ _ _ _ hi]
  · have hle : s.length ≤ i := by omega
    rw [List.getD_append_right _ _ _ _ hle, List.getD_eq_default _ _ hle]
    simp

/-- A range that holds a string, and NULs behind it. -/
theorem load_of_get {m : Cells UInt8 n} (hget : ∀ i < len, m.get (off + i) = s.getD i 0)
    (hs : s.length ≤ len) : m.load off len = s ++ List.replicate (len - s.length) 0 := by
  have hlength : (s ++ List.replicate (len - s.length) 0).length = len := by
    simp
    omega
  apply List.ext_getElem (by rw [Cells.load_length, hlength])
  intro i hi hi'
  rw [Cells.load_length] at hi
  rw [← List.getD_eq_getElem _ 0, ← List.getD_eq_getElem _ 0, Cells.getD_load _ hi,
    getD_append_nuls, hget i hi]

/-- A byte of a zeroed memory after a string was copied into it. -/
theorem get_strncpy {k i : Nat} (h : 0 ∉ s) (hk : s.length ≤ k) (hn : off + i < n) :
    ((Cells.fill 0 : Cells UInt8 n).store off (strncpy s k)).get (off + i) = s.getD i 0 := by
  rw [strncpy_of_le h hk, Cells.get_store, Cells.get_fill, if_pos hn, Nat.add_sub_cancel_left]
  split
  · exact getD_append_nuls s (k - s.length) i
  · -- behind the copy the memory is still zero
    have hi : s.length ≤ i := by
      simp at *
      omega
    rw [List.getD_eq_default _ _ hi]

/-- A range of a zeroed memory into which a string was copied. -/
theorem load_strncpy {k : Nat} (h : 0 ∉ s) (hk : s.length ≤ k) (hs : s.length ≤ len)
    (hn : off + len ≤ n) :
    ((Cells.fill 0 : Cells UInt8 n).store off (strncpy s k)).load off len =
      s ++ List.replicate (len - s.length) 0 :=
  load_of_get (fun _ hi => get_strncpy h hk (by omega)) hs

end Memory

/-! ## Socket addresses -/

/-- A `sockaddr_un` of the family `AF_UNIX`, and the `socklen_t` that is passed with it.
The length counts the two bytes of the family as well. -/
structure SocketAddress where
  sunPath : Cells UInt8 108
  len : Nat
  len_le : len ≤ 2 + 108

/-- The names that the kernel tells apart. -/
inductive SocketName where
  | unnamed
  | abstractName (bytes : List UInt8)
  | pathname (path : List UInt8)
  deriving DecidableEq, Repr

/-- The name that an address stands for. -/
def SocketAddress.name (addr : SocketAddress) : SocketName :=
  if addr.len ≤ 2 then .unnamed
  else if addr.sunPath.get 0 = 0 then .abstractName (addr.sunPath.load 1 (addr.len - 3))
  else .pathname (cString (addr.sunPath.load 0 (addr.len - 2)))

namespace SocketAddress

variable {addr : SocketAddress}

/-- Every byte behind the leading NUL is part of an abstract name. -/
theorem name_of_abstract {bytes : List UInt8} (hlen : addr.len = 3 + bytes.length)
    (hfirst : addr.sunPath.get 0 = 0) (hload : addr.sunPath.load 1 bytes.length = bytes) :
    addr.name = .abstractName bytes := by
  rw [name, if_neg (by omega), if_pos hfirst, hlen, Nat.add_sub_cancel_left, hload]

/-- However many NULs follow, a path is the name of a file. -/
theorem name_of_pathname {path : List UInt8} {k : Nat} (hne : path ≠ []) (hnul : 0 ∉ path)
    (hlen : addr.len = 2 + (path.length + k))
    (hload : addr.sunPath.load 0 (path.length + k) = path ++ List.replicate k 0) :
    addr.name = .pathname path := by
  have hpos : 0 < path.length := List.length_pos_iff.mpr hne
  have hfirst : addr.sunPath.get 0 = path[0] := by
    have hbyte : (addr.sunPath.load 0 (path.length + k)).getD 0 0 = addr.sunPath.get 0 :=
      Cells.getD_load addr.sunPath (by omega) 0
    rw [hload, getD_append_nuls, List.getD_eq_getElem _ _ hpos] at hbyte
    exact hbyte.symm
  have hfile : addr.sunPath.get 0 ≠ 0 := by
    rw [hfirst]
    exact fun heq => hnul (heq ▸ List.getElem_mem hpos)
  rw [name, if_neg (by omega), if_neg hfile, hlen, Nat.add_sub_cancel_left, hload,
    cString_append_nuls hnul]

end SocketAddress

/-! ## System calls -/

/-- The system calls on a socket, with its descriptor, and those on its file. -/
inductive SystemCall where
  | socket
  | unlink (path : List UInt8)
  | bind (fd : Int) (addr : SocketAddress)
  | connect (fd : Int) (addr : SocketAddress)
  | listen (fd : Int)
  | close (fd : Int)

/-- The names in the calls that take an address. -/
def names (calls : List SystemCall) : List SocketName :=
  calls.filterMap fun
    | .bind _ addr => some addr.name
    | .connect _ addr => some addr.name
    | _ => none

/-- What a system call returns, where a negative value is a failure, and the text of
`errno` after some calls. -/
structure Kernel where
  answer : SystemCall → Int
  strerror : List SystemCall → List UInt8

end UnixSocket

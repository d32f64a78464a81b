import Mathlib.Data.Int.Basic
import Mathlib.Data.List.TakeWhile
import Mathlib.Tactic.Common

/-!
# The C types the sources use

Bytes and `std::string`, the conversion to `int`, `errno` values, poll flags and the address
structures. A `sockaddr_un` keeps `sun_path` as the list of bytes from its first byte on: `strcpy`
of a string that does not fit makes that list longer than the array (`strcpy_length`).
-/

namespace NET

/-- `std::string`: any bytes, NUL included. -/
abbrev Str := List UInt8

/-! ## Integers -/

/-- The largest `int`. -/
def intMax : ℕ := 2147483647

/-- The conversion of a wider integer to `int`. -/
def toInt (n : ℤ) : ℤ := n.bmod 4294967296

theorem toInt_of_range {n : ℤ} (h₁ : -1 ≤ n) (h₂ : n ≤ intMax) : toInt n = n := by
  unfold toInt intMax at *
  rw [Int.bmod_def]
  omega

theorem toInt_of_le {n : ℕ} (h : n ≤ intMax) : toInt n = n :=
  toInt_of_range (by omega) (by exact_mod_cast h)

@[simp] theorem toInt_neg_one : toInt (-1) = -1 := by decide

theorem toInt_le (n : ℤ) : toInt n ≤ intMax := by
  unfold toInt intMax
  rw [Int.bmod_def]
  omega

/-- Only a count that is an `int` is converted to itself. -/
theorem toInt_eq_self_iff {n : ℕ} : toInt n = n ↔ n ≤ intMax :=
  ⟨fun h => by have := toInt_le n; rw [h] at this; exact_mod_cast this, toInt_of_le⟩

/-! ## `errno` -/

abbrev Errno := ℕ

namespace Errno

def eintr : Errno := 4
def ebadf : Errno := 9
def epipe : Errno := 32
def econnreset : Errno := 104
def econnrefused : Errno := 111

end Errno

/-! ## Flags -/

def pollIn : BitVec 16 := 0x001
def pollPri : BitVec 16 := 0x002
def pollHup : BitVec 16 := 0x010
def pollRdHup : BitVec 16 := 0x2000

/-- `flags & flag`, as a condition. -/
def hasFlag (flags flag : BitVec 16) : Bool := flags &&& flag != 0

def msgWaitall : ℤ := 0x100

/-! ## Strings in memory -/

/-- The C string at the start of a piece of memory: up to the first NUL. -/
def cStr (s : List UInt8) : List UInt8 := s.takeWhile (· != 0)

/-- `memcpy` to the start of `dst`. -/
def overwrite (dst src : List UInt8) : List UInt8 := src ++ dst.drop src.length

/-- `strcpy(dst, s.c_str())`: the string and its NUL at the start of `dst`. -/
def strcpy (dst s : List UInt8) : List UInt8 := overwrite dst (cStr s ++ [0])

theorem cStr_length_le (s : List UInt8) : (cStr s).length ≤ s.length :=
  (List.takeWhile_sublist _).length_le

theorem cStr_of_no_nul {s : List UInt8} (h : 0 ∉ s) : cStr s = s := by
  apply List.takeWhile_eq_self_iff.2
  intro b hb
  have hb0 : b ≠ 0 := fun h0 => h (h0 ▸ hb)
  simp [hb0]

theorem cStr_no_nul (s : List UInt8) : 0 ∉ cStr s := by
  intro h
  have := List.mem_takeWhile_imp h
  simp at this

/-- What lies behind a NUL does not belong to the C string. -/
theorem cStr_append_cons (s rest : List UInt8) : cStr (s ++ 0 :: rest) = cStr s := by
  induction s with
  | nil => simp [cStr]
  | cons b s ih =>
    unfold cStr at ih ⊢
    by_cases hb : b = 0
    · simp [hb]
    · simp [hb, ih]

/-- The C string of a string followed by a NUL. -/
theorem cStr_append_nul {s : List UInt8} (h : 0 ∉ s) (rest : List UInt8) :
    cStr (s ++ 0 :: rest) = s := by
  rw [cStr_append_cons, cStr_of_no_nul h]

theorem overwrite_length {dst src : List UInt8} (h : src.length ≤ dst.length) :
    (overwrite dst src).length = dst.length := by
  simp only [overwrite, List.length_append, List.length_drop]
  omega

/-- `strcpy` stays inside the array when the string is shorter than it. -/
theorem strcpy_length {dst s : List UInt8} (h : s.length < dst.length) :
    (strcpy dst s).length = dst.length := by
  have := cStr_length_le s
  apply overwrite_length
  simp only [List.length_append, List.length_singleton]
  omega

theorem cStr_strcpy (dst s : List UInt8) : cStr (strcpy dst s) = cStr s := by
  unfold strcpy overwrite
  rw [List.append_assoc]
  exact cStr_append_nul (cStr_no_nul s) _

/-! ## Addresses -/

/-- `in_addr`: the four bytes in the order they lie in memory. -/
structure InAddr where
  b0 : UInt8
  b1 : UInt8
  b2 : UInt8
  b3 : UInt8
  deriving DecidableEq, Repr

def inAddrAny : InAddr := ⟨0, 0, 0, 0⟩

def afLocal : ℕ := 1
def afInet : ℕ := 2
def afCan : ℕ := 29

/-- `htons` and `ntohs` of a little-endian host. -/
def htons (port : BitVec 16) : BitVec 16 :=
  BitVec.ofNat 16 (port.toNat % 256 * 256 + port.toNat / 256)

def ntohs (port : BitVec 16) : BitVec 16 := htons port

theorem htons_toNat (port : BitVec 16) :
    (htons port).toNat = port.toNat % 256 * 256 + port.toNat / 256 := by
  have := port.isLt
  unfold htons
  rw [BitVec.toNat_ofNat]
  omega

theorem htons_ntohs (port : BitVec 16) : htons (ntohs port) = port := by
  apply BitVec.eq_of_toNat_eq
  have := port.isLt
  rw [ntohs, htons_toNat, htons_toNat]
  omega

/-- A port that was given is not the port 0 in network byte order either. -/
theorem htons_ne_zero {port : BitVec 16} (h : port ≠ 0) : htons port ≠ 0 := by
  intro h0
  apply h
  rw [← htons_ntohs port, ntohs, h0]
  rfl

/-- `sockaddr_in`; `sinPort` is in network byte order. -/
structure SockaddrIn where
  sinFamily : ℕ
  sinPort : BitVec 16
  sinAddr : InAddr
  deriving DecidableEq, Repr

/-- `sizeof(sockaddr_un::sun_path)`. -/
def sunPathSize : ℕ := 108

/-- `sockaddr_un`; `sunPath` is the memory from `sun_path` on. -/
structure SockaddrUn where
  sunFamily : ℕ
  sunPath : List UInt8
  deriving DecidableEq, Repr

/-- `sockaddr_can`. -/
structure SockaddrCan where
  canFamily : ℕ
  canIfindex : ℤ
  deriving DecidableEq, Repr

/-- An address handed to the kernel. -/
inductive Sockaddr
  | inet (a : SockaddrIn)
  | un (a : SockaddrUn)
  | can (a : SockaddrCan)
  | unspec
  deriving DecidableEq, Repr

/-- What the kernel writes into a `sockaddr_un`: the length it reports, and the bytes it puts at
`sun_path`. -/
structure UnName where
  len : ℕ
  path : List UInt8
  deriving DecidableEq, Repr

/-- `IF_NAMESIZE`, and the size of `ifr_name`. -/
def ifNameSize : ℕ := 16

/-- `ifreq`: the name, and the bytes of the union after it. -/
structure Ifreq where
  ifrName : List UInt8
  ifrIfru : List UInt8
  deriving DecidableEq, Repr

/-- The bytes of a 32-bit word in memory, least significant first. -/
def le32 (w : BitVec 32) : List UInt8 :=
  [w.toNat, w.toNat / 256, w.toNat / 65536, w.toNat / 16777216].map UInt8.ofNat

/-- The bytes of a 16-bit word in memory. -/
def le16 (w : BitVec 16) : List UInt8 :=
  [w.toNat, w.toNat / 256].map UInt8.ofNat

/-- The 32-bit word at the start of a piece of memory. -/
def word32 (m : List UInt8) : BitVec 32 :=
  BitVec.ofNat 32 ((m.getD 0 0).toNat + 256 * (m.getD 1 0).toNat + 65536 * (m.getD 2 0).toNat +
    16777216 * (m.getD 3 0).toNat)

@[simp] theorem le32_length (w : BitVec 32) : (le32 w).length = 4 := rfl

/-- A word is read back from the memory it was written to, whatever lies behind it. -/
theorem word32_le32 (w : BitVec 32) (rest : List UInt8) : word32 (le32 w ++ rest) = w := by
  apply BitVec.eq_of_toNat_eq
  have := w.isLt
  simp only [word32, le32, List.map_cons, List.map_nil, List.cons_append, List.nil_append,
    List.getD_cons_zero, List.getD_cons_succ, UInt8.toNat_ofNat', BitVec.toNat_ofNat]
  omega

/-- `ifr_ifindex` and `ifr_mtu`: the `int` at the start of the union. -/
def Ifreq.ifrIfindex (ifr : Ifreq) : ℤ := (word32 ifr.ifrIfru).toInt

def Ifreq.setIfindex (ifr : Ifreq) (index : ℤ) : Ifreq :=
  { ifr with ifrIfru := overwrite ifr.ifrIfru (le32 (BitVec.ofInt 32 index)) }

end NET

import SimpleSocket.Posix.Types

/-!
# Output streams

`std::ostringstream` with the part of its format state the sources use. A width pads the next
formatted output only; the other settings stay.
-/

namespace NET

/-- An `std::ostringstream`: what has been written, and the format state. -/
structure Ostream where
  text : Str
  hex : Bool
  uppercase : Bool
  width : ℕ
  fill : UInt8
  deriving DecidableEq, Repr

/-- A fresh stream: decimal, no width, filled with blanks. -/
def Ostream.new : Ostream := ⟨[], false, false, 0, 32⟩

/-- The digits of a number, most significant first. -/
def digitsOf (base : ℕ) (uppercase : Bool) (n : ℕ) : Str :=
  (Nat.toDigits base n).map fun c => UInt8.ofNat (if uppercase then c.toUpper else c).toNat

namespace Ostream

/-- Formatted output of a text: it is padded on the left, and the width is used up. -/
def pad (ss : Ostream) (s : Str) : Ostream :=
  { ss with
    text := ss.text ++ List.replicate (ss.width - s.length) ss.fill ++ s
    width := 0 }

/-- `<<` of an `int`; `std::hex` prints it as an unsigned number. -/
def putInt (ss : Ostream) (n : ℤ) : Ostream :=
  if ss.hex then ss.pad (digitsOf 16 ss.uppercase (n % 4294967296).toNat)
  else if n < 0 then ss.pad (45 :: digitsOf 10 ss.uppercase n.natAbs)
  else ss.pad (digitsOf 10 ss.uppercase n.natAbs)

/-- `<<` of a `char`. -/
def putChar (ss : Ostream) (c : UInt8) : Ostream := ss.pad [c]

/-- `std::hex`, `std::uppercase`, `std::setw` and `std::setfill`. -/
def setHex (ss : Ostream) : Ostream := { ss with hex := true }

def setUppercase (ss : Ostream) : Ostream := { ss with uppercase := true }

def setw (ss : Ostream) (width : ℕ) : Ostream := { ss with width := width }

def setfill (ss : Ostream) (fill : UInt8) : Ostream := { ss with fill := fill }

end Ostream

/-- A plain `char` as an `int`: it is signed. -/
def charToInt (c : UInt8) : ℤ := c.toBitVec.toInt

end NET

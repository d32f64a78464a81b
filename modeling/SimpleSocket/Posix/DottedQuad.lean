import SimpleSocket.Posix.Types

/-!
# Dotted quads

`inetNtoa` prints the four bytes of an address in decimal, `parseQuad` reads the standard form back.
-/

namespace NET

/-- A byte in decimal, without leading zeros. -/
def decimal (b : UInt8) : Str :=
  if b.toNat < 10 then [48 + b]
  else if b.toNat < 100 then [48 + b / 10, 48 + b % 10]
  else [48 + b / 100, 48 + b / 10 % 10, 48 + b % 10]

/-- `'.'`. -/
def dot : UInt8 := 46

def inetNtoa (a : InAddr) : Str :=
  decimal a.b0 ++ dot :: decimal a.b1 ++ dot :: decimal a.b2 ++ dot :: decimal a.b3

/-- A byte from its decimal form: the inverse image of `decimal`. -/
def parseByte (s : Str) : Option UInt8 :=
  let digits := s.map fun c => c.toNat - 48
  let n := digits.foldl (fun n d => 10 * n + d) 0
  if n < 256 ∧ decimal (UInt8.ofNat n) = s then some (UInt8.ofNat n) else none

/-- The text up to the first dot, and the text after it. -/
def splitDot (s : Str) : Str × Str :=
  (s.takeWhile (· != dot), (s.dropWhile (· != dot)).tail)

/-- The address whose standard dotted form the text is. -/
def parseQuad (s : Str) : Option InAddr := do
  let (w0, s) := splitDot s
  let (w1, s) := splitDot s
  let (w2, w3) := splitDot s
  return ⟨← parseByte w0, ← parseByte w1, ← parseByte w2, ← parseByte w3⟩

theorem forall_byte {P : UInt8 → Prop} (h : ∀ i : Fin 256, P (UInt8.ofNat i)) (b : UInt8) :
    P b := by
  have := h ⟨b.toNat, b.toNat_lt⟩
  simpa using this

theorem parseByte_decimal (b : UInt8) : parseByte (decimal b) = some b := by
  revert b
  apply forall_byte
  decide +kernel

theorem dot_not_mem_decimal (b : UInt8) : ∀ c ∈ decimal b, (c != dot) = true := by
  revert b
  apply forall_byte
  decide +kernel

theorem nul_not_mem_decimal (b : UInt8) : (0 : UInt8) ∉ decimal b := by
  revert b
  apply forall_byte
  decide +kernel

theorem splitDot_append {w : Str} (hw : ∀ c ∈ w, (c != dot) = true) (s : Str) :
    splitDot (w ++ dot :: s) = (w, s) := by
  unfold splitDot
  rw [List.takeWhile_append_of_pos hw, List.dropWhile_append_of_pos hw]
  simp

/-- Reading a printed address gives the address back. -/
theorem parseQuad_inetNtoa (a : InAddr) : parseQuad (inetNtoa a) = some a := by
  unfold parseQuad inetNtoa
  rw [List.append_assoc, List.append_assoc]
  simp only [List.cons_append, splitDot_append (dot_not_mem_decimal _), parseByte_decimal]
  rfl

theorem nul_not_mem_inetNtoa (a : InAddr) : (0 : UInt8) ∉ inetNtoa a := by
  have h (b : UInt8) := nul_not_mem_decimal b
  simp only [inetNtoa, List.mem_append, List.mem_cons, not_or]
  exact ⟨⟨⟨h _, by decide, h _⟩, by decide, h _⟩, by decide, h _⟩

theorem parseQuad_cStr_inetNtoa (a : InAddr) : parseQuad (cStr (inetNtoa a)) = some a := by
  rw [cStr_of_no_nul (nul_not_mem_inetNtoa a), parseQuad_inetNtoa]

end NET

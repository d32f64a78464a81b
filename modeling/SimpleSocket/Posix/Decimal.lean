import SimpleSocket.Posix.DottedQuad
import SimpleSocket.Posix.Ostream

/-!
# Numbers in decimal

`<<` prints an `int`, and `std::stoi` reads it back.
-/

namespace NET

/-- What `<<` prints of an `int`. -/
def intText (n : ℤ) : Str := (Ostream.new.putInt n).text

/-! ## `std::stoi` -/

inductive StdException
  | invalidArgument
  | outOfRange
  deriving DecidableEq, Repr

/-- `isspace`. -/
def isSpace (c : UInt8) : Bool := c = 32 || (9 ≤ c && c ≤ 13)

/-- `isdigit`. -/
def isDigit (c : UInt8) : Bool := 48 ≤ c && c ≤ 57

/-- The number a sequence of digits stands for. -/
def digitsValue (digits : Str) : ℕ := digits.foldl (fun n c => 10 * n + (c.toNat - 48)) 0

/-- An optional sign, and the text behind it. -/
def splitSign : Str → Bool × Str
  | 45 :: s => (true, s)
  | 43 :: s => (false, s)
  | s => (false, s)

/-- `stoi(s)`: what follows the number is ignored. -/
def stoi (s : Str) : Except StdException ℤ :=
  let (negative, s) := splitSign ((cStr s).dropWhile isSpace)
  let digits := s.takeWhile isDigit
  if digits = [] then .error .invalidArgument
  else
    let n : ℤ := if negative then -digitsValue digits else digitsValue digits
    if n < -2147483648 ∨ 2147483647 < n then .error .outOfRange else .ok n

/-! ## Reading what was printed -/

section Decimal

theorem toNat_of_mem_toDigits {n : ℕ} {c : Char} (h : c ∈ Nat.toDigits 10 n) :
    48 ≤ c.toNat ∧ c.toNat ≤ 57 := by
  have hdigit := Nat.isDigit_of_mem_toDigits (by decide) (by decide) h
  simpa [Char.isDigit, UInt32.le_iff_toNat_le] using hdigit

theorem isDigit_of_mem_digitsOf {n : ℕ} {c : UInt8} (h : c ∈ digitsOf 10 false n) :
    isDigit c = true := by
  obtain ⟨d, hd, rfl⟩ := List.mem_map.1 h
  have hle := toNat_of_mem_toDigits hd
  have hnat : (UInt8.ofNat d.toNat).toNat = d.toNat := by
    rw [UInt8.toNat_ofNat', Nat.mod_eq_of_lt (by omega)]
  simp only [isDigit, UInt8.le_iff_toNat_le, Bool.and_eq_true, decide_eq_true_eq,
    Bool.false_eq_true, if_false, hnat]
  exact hle

theorem digitsOf_ne_nil (n : ℕ) : digitsOf 10 false n ≠ [] := by
  unfold digitsOf
  simp [Nat.toDigits_ne_nil]

theorem digitsValue_digitsOf (n : ℕ) : digitsValue (digitsOf 10 false n) = n := by
  have hfold : ∀ (l : List Char) (m : ℕ), (∀ c ∈ l, c.toNat < 256) →
      (l.map fun c => UInt8.ofNat c.toNat).foldl (fun n c => 10 * n + (c.toNat - 48)) m =
        Nat.ofDigitChars 10 l m := by
    intro l
    induction l with
    | nil => exact fun m _ => rfl
    | cons c l ih =>
      intro m hl
      rw [List.map_cons, List.foldl_cons, ih _ fun c hc => hl c (.tail _ hc), Nat.ofDigitChars_cons,
        UInt8.toNat_ofNat', Nat.mod_eq_of_lt (hl c List.mem_cons_self)]
      rfl
  refine (hfold _ 0 fun c hc => ?_).trans Nat.ofDigitChars_ten_toDigits
  have := toNat_of_mem_toDigits hc
  omega

theorem intText_eq (n : ℤ) :
    intText n = (if n < 0 then [45] else []) ++ digitsOf 10 false n.natAbs := by
  unfold intText Ostream.putInt
  by_cases hn : n < 0
  · simp [Ostream.new, Ostream.pad, hn]
  · simp [Ostream.new, Ostream.pad, hn]

/-- A digit is neither a blank nor a sign. -/
theorem isDigit_sign (c : UInt8) :
    isDigit c = true → isSpace c = false ∧ c ≠ 45 ∧ c ≠ 43 := by
  revert c
  apply forall_byte
  decide +kernel

theorem splitSign_digits {digits : Str} (h : ∀ c ∈ digits, isDigit c = true) :
    splitSign (digits.dropWhile isSpace) = (false, digits) := by
  cases digits with
  | nil => rfl
  | cons c s =>
    obtain ⟨hspace, hminus, hplus⟩ := isDigit_sign c (h c List.mem_cons_self)
    rw [List.dropWhile_cons_of_neg (by simp [hspace])]
    unfold splitSign
    split
    · next heq => exact absurd (List.cons.inj heq).1 hminus
    · next heq => exact absurd (List.cons.inj heq).1 hplus
    · rfl

/-- `stoi` reads what `<<` has printed. -/
theorem stoi_intText {n : ℤ} (h : -2147483648 ≤ n) (h' : n ≤ 2147483647) :
    stoi (intText n) = .ok n := by
  have hdigit := @isDigit_of_mem_digitsOf n.natAbs
  have hvalue := digitsValue_digitsOf n.natAbs
  have hne := digitsOf_ne_nil n.natAbs
  rw [intText_eq]
  generalize digitsOf 10 false n.natAbs = digits at *
  have hnul : 0 ∉ (if n < 0 then [45] else []) ++ digits := by
    intro h0
    rcases List.mem_append.1 h0 with h0 | h0
    · split at h0 <;> simp at h0
    · cases hdigit h0
  have htake : digits.takeWhile isDigit = digits := List.takeWhile_eq_self_iff.2 fun c => hdigit
  have hsplit : splitSign (((if n < 0 then [45] else []) ++ digits).dropWhile isSpace) =
      (decide (n < 0), digits) := by
    by_cases hn : n < 0
    · simp [hn, splitSign, isSpace]
    · simp [hn, splitSign_digits fun c => hdigit]
  have hsigned : (if decide (n < 0) = true then -(n.natAbs : ℤ) else n.natAbs) = n := by
    split
    · next hn =>
      have := of_decide_eq_true hn
      omega
    · next hn =>
      have : ¬n < 0 := by simpa using hn
      omega
  unfold stoi
  rw [cStr_of_no_nul hnul, hsplit]
  dsimp only
  rw [htake, if_neg hne, hvalue, hsigned, if_neg (by omega)]

end Decimal
end NET

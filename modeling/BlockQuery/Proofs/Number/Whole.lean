import BlockQuery.Number.Double
import Mathlib.Data.Nat.Digits.Defs

/-!
# Whole numbers as doubles

The double nearest to a natural number need not be that number. **Below `2 ^ 52` it is, and no
greater number is rounded to less than `2 ^ 52`** (`exists_ofNat`), so whoever looks only at small
numbers may forget that there was a rounding.

A mantissa has 53 bits. A number that fits is shifted up to the last one, and nothing is rounded at
all (`ofNat_of_lt`). Of a number that does not fit only the last places are rounded, and its leading
53 bits, which stay or go up, are at least `2 ^ 52` (`exists_ofNat_of_le`).
-/

namespace BlockQuery.Double

/-! ### The parts of rounding -/

/-- Rounding never falls below the whole quotient. -/
theorem le_roundDiv (num den : ℕ) : num / den ≤ roundDiv num den := by
  unfold roundDiv
  dsimp only
  split_ifs <;> omega

/-- A whole number is not rounded. -/
@[simp] theorem roundDiv_one (n : ℕ) : roundDiv n 1 = n := by
  simp [roundDiv, Nat.mod_one]

theorem scaled_natCast (num den k : ℕ) : scaled num den k = (num * 2 ^ k, den) := by
  simp [scaled]

theorem scaled_neg_natCast (num den k : ℕ) : scaled num den (-k) = (num, den * 2 ^ k) := by
  simp [scaled]

/-- The exponent of a whole number is the place of its highest bit. -/
theorem binaryLog_one {n : ℕ} (hpos : 0 < n) : binaryLog n 1 = n.log2 := by
  have hle : 2 ^ n.log2 ≤ n := Nat.log2_self_le hpos.ne'
  have hlog : (n.log2 : ℤ) - Nat.log2 1 = n.log2 := Int.sub_zero _
  simp only [binaryLog, hlog, scaled_neg_natCast, Nat.one_mul]
  exact if_neg (Nat.not_lt.2 hle)

/-! ### Numbers that fit -/

variable {n : ℕ}

/-- **A number of at most 53 bits is its own double.** -/
theorem ofNat_of_lt (hpos : 0 < n) (h : n < 2 ^ 53) (negative : Bool) :
    ofNat negative n = some ⟨negative, n * 2 ^ (52 - n.log2), -((52 - n.log2 : ℕ) : ℤ)⟩ := by
  have hlog : n.log2 < 53 := (Nat.log2_lt hpos.ne').2 h
  have hexponent :
      max (binaryLog n 1 - (precision - 1 : ℕ)) minExponent = -((52 - n.log2 : ℕ) : ℤ) := by
    rw [binaryLog_one hpos, precision, minExponent]
    omega
  have hmantissa : n * 2 ^ (52 - n.log2) < 2 ^ 53 := by
    have hbits : n < 2 ^ (n.log2 + 1) := Nat.lt_log2_self
    calc n * 2 ^ (52 - n.log2) < 2 ^ (n.log2 + 1) * 2 ^ (52 - n.log2) :=
          Nat.mul_lt_mul_of_pos_right hbits (Nat.two_pow_pos _)
      _ = 2 ^ 53 := by rw [← Nat.pow_add]; congr 1; omega
  have hcarry : n * 2 ^ (52 - n.log2) ≠ Nat.pow 2 precision := hmantissa.ne
  have hsmall : -((52 - n.log2 : ℕ) : ℤ) ≤ maxExponent := by
    rw [maxExponent]
    omega
  simp only [ofNat, ofQuotient, if_neg hpos.ne', hexponent, Int.neg_neg, scaled_natCast,
    roundDiv_one, if_neg hcarry, if_pos hsmall]

/-- The double of a number that fits has no fraction to lose. -/
theorem floorAbs_shifted (negative : Bool) (n k : ℕ) :
    floorAbs ⟨negative, n * 2 ^ k, -(k : ℤ)⟩ = n := by
  simp only [floorAbs, quotient, scaled_neg_natCast, Nat.one_mul]
  exact Nat.mul_div_cancel n (Nat.two_pow_pos k)

/-! ### Numbers that do not fit -/

/-- **A number of more than 53 bits is rounded to no less than `2 ^ 52`.** -/
theorem exists_ofNat_of_le (h : 2 ^ 53 ≤ n) (hword : n < 2 ^ 64) (negative : Bool) :
    ∃ m k : ℕ, ofNat negative n = some ⟨negative, m, k⟩ ∧ 2 ^ 52 ≤ m := by
  have hpos : 0 < n := (Nat.two_pow_pos 53).trans_le h
  have hlow : 53 ≤ n.log2 := (Nat.le_log2 hpos.ne').2 h
  have hhigh : n.log2 < 64 := (Nat.log2_lt hpos.ne').2 hword
  obtain ⟨k, hk⟩ := Nat.exists_eq_add_of_le (Nat.le_of_succ_le hlow)
  have hexponent : max (binaryLog n 1 - (precision - 1 : ℕ)) minExponent = k := by
    rw [binaryLog_one hpos, precision, minExponent]
    omega
  have hleading : 2 ^ 52 ≤ roundDiv n (2 ^ k) := by
    have hquotient : 2 ^ 52 ≤ n / 2 ^ k := by
      rw [Nat.le_div_iff_mul_le (Nat.two_pow_pos k), ← Nat.pow_add, ← hk]
      exact Nat.log2_self_le hpos.ne'
    exact hquotient.trans (le_roundDiv n (2 ^ k))
  simp only [ofNat, ofQuotient, if_neg hpos.ne', hexponent, scaled_neg_natCast, Nat.one_mul]
  -- a carry out of the leading bits moves them by one place
  by_cases hcarry : roundDiv n (2 ^ k) = Nat.pow 2 precision
  · have hsmall : (k : ℤ) + 1 ≤ maxExponent := by
      rw [maxExponent]
      omega
    refine ⟨2 ^ 52, k + 1, ?_, le_rfl⟩
    simp only [if_pos hcarry, if_pos hsmall]
    rfl
  · have hsmall : (k : ℤ) ≤ maxExponent := by
      rw [maxExponent]
      omega
    exact ⟨roundDiv n (2 ^ k), k, by simp only [if_neg hcarry, if_pos hsmall], hleading⟩

/-! ### All numbers of 64 bits -/

/-- **Rounding a whole number does not show below `2 ^ 52`.** The sign stays as well. -/
theorem exists_ofNat (hpos : 0 < n) (hword : n < 2 ^ 64) (negative : Bool) :
    ∃ x, ofNat negative n = some x ∧ x.negative = negative ∧
      min (2 ^ 52) x.floorAbs = min (2 ^ 52) n := by
  obtain h | h := Nat.lt_or_ge n (2 ^ 53)
  · exact ⟨_, ofNat_of_lt hpos h negative, rfl, by rw [floorAbs_shifted]⟩
  · obtain ⟨m, k, hround, hm⟩ := exists_ofNat_of_le h hword negative
    have hfloor : floorAbs ⟨negative, m, k⟩ = m * 2 ^ k := by
      simp only [floorAbs, quotient, scaled_natCast, Nat.div_one]
    have hle : 2 ^ 52 ≤ m * 2 ^ k := hm.trans (Nat.le_mul_of_pos_right m (Nat.two_pow_pos k))
    refine ⟨_, hround, rfl, ?_⟩
    rw [hfloor, min_eq_left hle, min_eq_left (by omega)]

end BlockQuery.Double

import BlockQuery.Number.Numeral
import Mathlib.Data.List.TakeWhile
import Mathlib.Data.Nat.Digits.Defs
import Mathlib.Tactic.Positivity

/-!
# Digits

A run of digits ends where something else starts, so whoever takes digits off a text gets all that
were written and no more (`takeWhile_append_digits`). **The digits of a number denote this number,**
also with zeros in front, and a scanner that gathers digits as long as they fit gathers all of them
if the number fits (`Numeral.gather_toDigits`).
-/

namespace BlockQuery

/-- There are digits and nothing else. -/
def AllDigits (cs : List Char) : Prop :=
  ∀ c ∈ cs, c.isDigit = true

section Runs

variable {digits rest : List Char}

theorem allDigits_takeWhile (cs : List Char) : AllDigits (cs.takeWhile Char.isDigit) :=
  fun _ hc ↦ List.mem_takeWhile_imp hc

/-- Digits are taken off whatever does not start with another. -/
theorem takeWhile_append_digits (hdigits : AllDigits digits)
    (hrest : ∀ c ∈ rest.head?, c.isDigit = false) :
    (digits ++ rest).takeWhile Char.isDigit = digits ∧
      (digits ++ rest).dropWhile Char.isDigit = rest := by
  have hnone : rest.takeWhile Char.isDigit = [] ∧ rest.dropWhile Char.isDigit = rest := by
    cases rest with
    | nil => exact ⟨rfl, rfl⟩
    | cons c cs =>
      have hc := hrest c rfl
      rw [List.takeWhile_cons, List.dropWhile_cons, hc]
      exact ⟨rfl, rfl⟩
  rw [List.takeWhile_append_of_pos hdigits, List.dropWhile_append_of_pos hdigits, hnone.1, hnone.2,
    List.append_nil]
  exact ⟨rfl, rfl⟩

end Runs

/-! ### The digits of a number -/

/-- A number is written in digits. -/
theorem allDigits_toDigits (n : ℕ) : AllDigits (Nat.toDigits 10 n) :=
  fun _ hc ↦ Nat.isDigit_of_mem_toDigits (by decide) (by decide) hc

/-- Only zero is written with a zero in front. -/
theorem eq_zero_of_head?_toDigits {n : ℕ} (h : (Nat.toDigits 10 n).head? = some '0') : n = 0 := by
  induction n using Nat.strongRecOn with
  | _ n ih =>
    rw [Nat.toDigits_eq_if (by decide)] at h
    split at h
    · exact Nat.digitChar_eq_zero.1 (Option.some.inj h)
    · rw [List.head?_append_of_ne_nil _ Nat.toDigits_ne_nil] at h
      have hdiv := ih (n / 10) (by omega) h
      omega

/-- So a zero in front is all that there is. -/
theorem length_toDigits_of_head? {n : ℕ} (h : (Nat.toDigits 10 n).head? = some '0') :
    (Nat.toDigits 10 n).length = 1 := by
  rw [eq_zero_of_head?_toDigits h]
  rfl

theorem allDigits_zeros_append (zeros n : ℕ) :
    AllDigits (List.replicate zeros '0' ++ Nat.toDigits 10 n) := by
  refine List.forall_mem_append.2 ⟨fun c hc ↦ ?_, allDigits_toDigits n⟩
  rw [List.eq_of_mem_replicate hc]
  rfl

namespace Numeral

/-- Zeros in front of the digits of a number add nothing. -/
theorem ofDigits_zeros_append (zeros n : ℕ) :
    ofDigits (List.replicate zeros '0' ++ Nat.toDigits 10 n) = n := by
  have hzeros : Nat.ofDigitChars 10 (List.replicate zeros '0') 0 = 0 := by
    induction zeros with
    | zero => rfl
    | succ zeros ih =>
      rw [List.replicate_succ, Nat.ofDigitChars_cons]
      exact ih
  rw [ofDigits, Nat.ofDigitChars_append, hzeros]
  exact Nat.ofDigitChars_ten_toDigits

/-! ### Gathering digits -/

theorem le_ofDigitChars (ds : List Char) (m : ℕ) : m ≤ Nat.ofDigitChars 10 ds m := by
  rw [Nat.ofDigitChars_eq_ofDigitChars_zero]
  exact Nat.le_add_right_of_le (Nat.le_mul_of_pos_left m (by positivity))

/-- Digits are gathered to the end if the number that they denote fits. -/
theorem gather_eq (ds : List Char) {m : ℕ} (h : Nat.ofDigitChars 10 ds m ≤ maxSignificand) :
    gather m ds = (Nat.ofDigitChars 10 ds m, []) := by
  induction ds generalizing m with
  | nil => rfl
  | cons d ds ih =>
    rw [Nat.ofDigitChars_cons] at h ⊢
    rw [gather, if_pos (Nat.le_trans (le_ofDigitChars ds _) h), ih h]

/-- A number that fits is gathered as a whole, and no digit is left over. -/
theorem gather_toDigits {n : ℕ} (h : n ≤ maxSignificand) :
    gather 0 (Nat.toDigits 10 n) = (n, []) := by
  have hdigits : Nat.ofDigitChars 10 (Nat.toDigits 10 n) 0 = n := Nat.ofDigitChars_ten_toDigits
  rw [gather_eq _ (hdigits.symm ▸ h), hdigits]

end Numeral

end BlockQuery

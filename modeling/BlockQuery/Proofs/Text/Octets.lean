import BlockQuery.Proofs.Text.LetterCase
import BlockQuery.Text.Octets
import Mathlib.Algebra.Order.BigOperators.Group.List
import Mathlib.Algebra.Order.Ring.Nat

/-!
# Octets, digits and letter case

**Neither the size of a text nor the value of a digit depends on letter case**
(`octets_map_toLower`, `hexValue?_toLower`), and letter case aside the value of a digit says which
digit it is (`hexValue?_eq_some_iff`). A digit is one octet, so a text of digits has as many octets
as digits.
-/

namespace BlockQuery.Text

variable {cs : List Char} {c : Char} {n : ℕ}

/-! ### Sizes -/

theorem octets_eq_sum (cs : List Char) : octets cs = (cs.map Char.utf8Size).sum := by
  rw [octets, List.sum, List.foldr_map]

/-- A text of characters with one octet each is as long as it has characters. -/
theorem octets_eq_length (h : ∀ c ∈ cs, c.utf8Size = 1) : octets cs = cs.length := by
  rw [octets_eq_sum, List.map_congr_left h, List.map_const', List.sum_replicate_nat, Nat.mul_one]

/-- What is left of a text is no longer than the text. -/
theorem octets_le_of_sublist {as bs : List Char} (h : as.Sublist bs) : octets as ≤ octets bs := by
  rw [octets_eq_sum, octets_eq_sum]
  exact (h.map Char.utf8Size).sum_le_sum fun _ _ ↦ Nat.zero_le _

/-- A letter has as many octets in either case. -/
theorem utf8Size_toLower (c : Char) : c.toLower.utf8Size = c.utf8Size := by
  by_cases hc : c.toNat < 0x80
  · exact forall_ascii (P := fun c ↦ c.toLower.utf8Size = c.utf8Size) (by decide +kernel) c hc
  · rw [toLower_eq_self (Nat.not_lt.1 hc)]

/-- A text has as many octets in either letter case. -/
theorem octets_map_toLower (cs : List Char) : octets (cs.map Char.toLower) = octets cs := by
  simp only [octets, List.foldr_map, utf8Size_toLower]

/-- Texts that are alike but for letter case have one size. -/
theorem octets_of_map_toLower_eq {form : List Char} (h : cs.map Char.toLower = form) :
    octets cs = octets form := by
  rw [← octets_map_toLower, h]

/-! ### Digits -/

/-- What is relied on of a digit: its value, and that it is one octet. -/
theorem hexDigit_spec (hn : n < 16) :
    hexValue? (hexDigit n) = some n ∧ (hexDigit n).utf8Size = 1 := by
  have hall : ∀ n < 16, hexValue? (hexDigit n) = some n ∧ (hexDigit n).utf8Size = 1 := by decide
  exact hall n hn

/-- The character is a hexadecimal digit, in either letter case. -/
def IsHex (c : Char) : Prop :=
  (hexValue? c).isSome = true

instance (c : Char) : Decidable (IsHex c) :=
  inferInstanceAs (Decidable (_ = true))

theorem hexValue?_toLower (c : Char) : hexValue? c.toLower = hexValue? c := by
  rw [hexValue?, hexValue?, toLower_toLower]

theorem isHex_toLower : IsHex c.toLower ↔ IsHex c := by
  rw [IsHex, IsHex, hexValue?_toLower]

/-- **The value of a digit says which digit it is,** letter case aside. -/
theorem hexValue?_eq_some_iff : hexValue? c = some n ↔ n < 16 ∧ c.toLower = hexDigit n := by
  constructor
  · intro h
    obtain ⟨hn, hc, -⟩ := List.findIdx?_eq_some_iff_getElem.1 h
    refine ⟨hn, ?_⟩
    rw [← eq_of_beq hc, hexDigit, List.getD_eq_getElem?_getD, List.getElem?_eq_getElem hn,
      Option.getD_some]
  · rintro ⟨hn, hc⟩
    rw [← hexValue?_toLower, hc, (hexDigit_spec hn).1]

/-- What is written for a value is a digit. -/
theorem isHex_hexDigit (hn : n < 16) : IsHex (hexDigit n) := by
  rw [IsHex, (hexDigit_spec hn).1]
  rfl

/-- Every digit is one octet. -/
theorem utf8Size_of_isHex (hc : IsHex c) : c.utf8Size = 1 := by
  obtain ⟨n, hvalue⟩ := Option.isSome_iff_exists.1 hc
  obtain ⟨hn, hlower⟩ := hexValue?_eq_some_iff.1 hvalue
  rw [← utf8Size_toLower, hlower, (hexDigit_spec hn).2]

theorem octets_of_isHex (h : ∀ c ∈ cs, IsHex c) : octets cs = cs.length :=
  octets_eq_length fun c hc ↦ utf8Size_of_isHex (h c hc)

end BlockQuery.Text

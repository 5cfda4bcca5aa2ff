import BlockQuery.Proofs.Number.Typed
import BlockQuery.Proofs.Number.Whole
import BlockQuery.Proofs.Text.Comparison
import BlockQuery.Proofs.Text.Spacing
import BlockQuery.Search.Limit

/-!
# Limits brought within bounds

A search is asked for one to twenty tweets whatever limit was asked for, and a whole number that was
asked for gives the nearest of these, except that zero gives five. A number in a text counts as the
number itself, with blanks around it, a plus sign, and zeros in front.

**All numbers pass through a double,** and a number of 64 bits need not be one. That does not show:
what is rounded is far beyond twenty (`Double.exists_ofNat`), and the digits of a text are not
rounded before they have all been read, so zeros in front of them change nothing either.
-/

namespace BlockQuery

/-! ### All limits -/

/-- Whatever is asked for, between one and twenty are fetched. -/
theorem withinLimits_bounds (x : Double) : 1 ≤ withinLimits x ∧ withinLimits x ≤ 20 := by
  unfold withinLimits defaultLimit minLimit maxLimit
  repeat' split
  all_goals omega

/-- Whatever limit is asked for, a search is asked for one to twenty tweets. -/
theorem clampLimit_bounds (requested : Option Json) :
    1 ≤ clampLimit requested ∧ clampLimit requested ≤ 20 := by
  rw [clampLimit]
  cases requested.bind requestedLimit? with
  | none => exact ⟨by decide, by decide⟩
  | some x => exact withinLimits_bounds x

/-! ### Whole numbers -/

/-- The limit that is due to a whole number. -/
def limitOf (i : ℤ) : ℕ :=
  if i = 0 then defaultLimit else if i < 0 then minLimit else max minLimit (min maxLimit i.natAbs)

/-- The number is one of one to twenty, and none of the others is nearer to the integer. -/
def IsNearestLimit (i : ℤ) (limit : ℕ) : Prop :=
  (1 ≤ limit ∧ limit ≤ 20) ∧
    ∀ other : ℕ, 1 ≤ other → other ≤ 20 → (i - limit).natAbs ≤ (i - other).natAbs

/-- Clamping a number takes the nearest that is allowed. -/
theorem isNearestLimit_limitOf {i : ℤ} (hne : i ≠ 0) : IsNearestLimit i (limitOf i) := by
  simp only [IsNearestLimit, limitOf, if_neg hne, minLimit, maxLimit]
  split_ifs with hneg <;> refine ⟨⟨by omega, by omega⟩, fun other hlow hhigh ↦ by omega⟩

/-- **Rounding a whole number to a double does not change the limit.** -/
theorem map_withinLimits_ofNat {i : ℤ} (h : i.natAbs < 2 ^ 64) :
    (Double.ofNat (i < 0) i.natAbs).map withinLimits = some (limitOf i) := by
  obtain rfl | hne := eq_or_ne i 0
  · decide
  · have hpos : 0 < i.natAbs := Int.natAbs_pos.2 hne
    obtain ⟨x, hround, hsign, hfloor⟩ := Double.exists_ofNat hpos h (i < 0)
    -- only zero is rounded to zero, which alone would give the default
    have hzero : x.isZero = false := by
      refine decide_eq_false fun hmantissa ↦ ?_
      have hnone : x.floorAbs = 0 := by
        simp [Double.floorAbs, Double.quotient, Double.scaled, hmantissa]
      omega
    rw [hround, Option.map_some, withinLimits, hzero, hsign, limitOf, if_neg hne]
    simp only [Bool.false_eq_true, if_false, decide_eq_true_eq, minLimit, maxLimit]
    split_ifs
    · rfl
    · rw [Option.some_inj]
      omega

/-- An integer of 64 bits is not changed on its way to a double and back, as far as limits go. -/
theorem clampLimit_int {i : ℤ} (h : i.natAbs < 2 ^ 64) :
    clampLimit (some (.number (.int i))) = limitOf i := by
  have hwithin := map_withinLimits_ofNat h
  rw [clampLimit, Option.bind_some, requestedLimit?, Number.toDouble?, hwithin, Option.getD_some]

/-! ### Numbers in texts -/

/-- The characters spell the integer: a minus if it is negative and otherwise a plus or nothing, any
number of zeros, and its digits. -/
def SpellsInt (i : ℤ) (cs : List Char) : Prop :=
  ∃ sign zeros, sign ∈ (if i < 0 then [['-']] else [[], ['+']]) ∧
    cs = sign ++ (List.replicate zeros '0' ++ Nat.toDigits 10 i.natAbs)

/-- The text spells the integer, with any blanks around it. -/
def TextSpellsInt (i : ℤ) (s : String) : Prop :=
  ∃ before cs after, s.toList = before ++ (cs ++ after) ∧ SpellsInt i cs ∧
    (∀ c ∈ before, Text.isBlank c = true) ∧ ∀ c ∈ after, Text.isBlank c = true

variable {i : ℤ} {cs : List Char}

theorem isBlank_of_isDigit {c : Char} (hc : c.isDigit = true) : Text.isBlank c = false := by
  have hascii : c.toNat < 0x80 := by
    simp only [Char.isDigit, Bool.and_eq_true, decide_eq_true_eq] at hc
    have hle : c.toNat ≤ 0x39 := hc.2
    omega
  have hall : ∀ c : Char, c.toNat < 0x80 → c.isDigit = true → Text.isBlank c = false :=
    Text.forall_ascii (by decide)
  exact hall c hascii hc

/-- A text that spells an integer is a sign or none and digits that denote it, zeros included. -/
theorem SpellsInt.exists_digits (h : SpellsInt i cs) :
    ∃ sign digits, cs = sign ++ digits ∧ sign ∈ signs ∧ (sign == ['-']) = decide (i < 0) ∧
      AllDigits digits ∧ digits ≠ [] ∧ Numeral.ofDigits digits = i.natAbs := by
  obtain ⟨sign, zeros, hsign, rfl⟩ := h
  have hsigns : sign ∈ signs ∧ (sign == ['-']) = decide (i < 0) := by
    by_cases hneg : i < 0
    · rw [if_pos hneg, List.mem_singleton] at hsign
      simp [hsign, hneg, signs]
    · rw [if_neg hneg, List.mem_cons, List.mem_singleton] at hsign
      obtain rfl | rfl := hsign <;> simp [hneg, signs]
  exact ⟨sign, _, rfl, hsigns.1, hsigns.2, allDigits_zeros_append zeros _,
    List.append_ne_nil_of_right_ne_nil _ Nat.toDigits_ne_nil, Numeral.ofDigits_zeros_append zeros _⟩

/-- What spells an integer is flush, so that trimming finds it between blanks. -/
theorem SpellsInt.flush (h : SpellsInt i cs) : Text.Flush cs := by
  obtain ⟨sign, digits, rfl, hsign, -, hdigits, hne, -⟩ := h.exists_digits
  have hblank : ∀ c ∈ sign, Text.isBlank c = false := by
    simp only [signs, List.mem_cons, List.not_mem_nil, or_false] at hsign
    obtain rfl | rfl | rfl := hsign
    · exact List.forall_mem_nil _
    all_goals exact List.forall_mem_singleton.2 (by decide)
  exact Text.IsWord.flush ⟨List.append_ne_nil_of_right_ne_nil _ hne,
    List.forall_mem_append.2 ⟨hblank, fun c hc ↦ isBlank_of_isDigit (hdigits c hc)⟩⟩

/-- A whole number that is not too long is rounded once. -/
theorem nearest?_digits {digits : List Char} (negative : Bool)
    (h : Numeral.ofDigits digits < 2 ^ 64) :
    Numeral.nearest? ⟨negative, digits, [], 0, false⟩ =
      Double.ofNat negative (Numeral.ofDigits digits) := by
  rw [Numeral.nearest?, List.append_nil]
  generalize Numeral.ofDigits digits = n at h
  have hlength : (Nat.toDigits 10 n).length ≤ 20 :=
    Nat.toDigits_length 10 n 20 (by decide) (h.trans (by decide))
  have hexponent : (0 : ℤ) - ([] : List Char).length = 0 := rfl
  have hfar : ¬400 < ((Nat.toDigits 10 n).length : ℤ) + 0 := by omega
  rw [hexponent, Numeral.nearestDecimal?]
  simp only [if_neg hfar]
  split_ifs with hzero
  · obtain rfl : n = 0 := by omega
    rfl
  · rw [Int.toNat_zero, Int.neg_zero, Int.toNat_zero]
    exact congrArg (Double.ofQuotient negative · 1) (Nat.mul_one n)

/-- **A number in a text counts as the number,** however it is spelled. -/
theorem clampLimit_spelled {s : String} (h : TextSpellsInt i s) (hword : i.natAbs < 2 ^ 64) :
    clampLimit (some (.text s)) = limitOf i := by
  obtain ⟨before, cs, after, hs, hspells, hbefore, hafter⟩ := h
  have htrim := hspells.flush.trim_between hbefore hafter
  obtain ⟨sign, digits, rfl, hsign, hnegative, hdigits, hne, hvalue⟩ := hspells.exists_digits
  have hnearest := nearest?_digits (sign == ['-']) (hvalue.symm ▸ hword)
  rw [hnegative, hvalue] at hnearest
  have hwithin := map_withinLimits_ofNat hword
  rw [clampLimit, Option.bind_some, requestedLimit?, hs, htrim,
    typedDecimal?_digits hsign hdigits hne, Option.bind_some, hnegative, hnearest, hwithin,
    Option.getD_some]

/-- A text that is no decimal asks for nothing. -/
theorem clampLimit_of_not_isDecimal {s : String} (h : ¬IsDecimal (Text.trim s.toList)) :
    clampLimit (some (.text s)) = defaultLimit := by
  have hnone : typedDecimal? (Text.trim s.toList) = none :=
    Option.not_isSome_iff_eq_none.1 fun hsome ↦ h (typedDecimal?_isSome_iff.1 hsome)
  rw [clampLimit, Option.bind_some, requestedLimit?, hnone]
  rfl

/-! ### What limits there are -/

/-- **Limits are brought within bounds.** A search is asked for one to twenty tweets. An integer of
64 bits, with a sign or without one, gives the nearest of these, and zero gives five; a text that
spells the integer gives the same. No limit, `null`, truth values, lists, objects, and texts that
are no decimals give five. -/
theorem clampLimit_exact :
    (∀ requested, 1 ≤ clampLimit requested ∧ clampLimit requested ≤ 20) ∧
      (∀ i : ℤ, -2 ^ 63 ≤ i → i < 2 ^ 64 →
        (i = 0 → clampLimit (some (.number (.int i))) = 5) ∧
        (i ≠ 0 → IsNearestLimit i (clampLimit (some (.number (.int i))))) ∧
        ∀ s, TextSpellsInt i s →
          clampLimit (some (.text s)) = clampLimit (some (.number (.int i)))) ∧
      clampLimit none = 5 ∧ clampLimit (some .null) = 5 ∧
      (∀ b, clampLimit (some (.bool b)) = 5) ∧ (∀ vs, clampLimit (some (.list vs)) = 5) ∧
      (∀ ms, clampLimit (some (.object ms)) = 5) ∧
      ∀ s, ¬IsDecimal (Text.trim s.toList) → clampLimit (some (.text s)) = 5 := by
  refine ⟨clampLimit_bounds, fun i hlow hhigh ↦ ?_, rfl, rfl, fun _ ↦ rfl, fun _ ↦ rfl, fun _ ↦ rfl,
    fun s ↦ clampLimit_of_not_isDecimal⟩
  have hword : i.natAbs < 2 ^ 64 := by omega
  rw [clampLimit_int hword]
  refine ⟨?_, isNearestLimit_limitOf, fun s hs ↦ clampLimit_spelled hs hword⟩
  rintro rfl
  rfl

/-- The greatest number of 64 bits with a plus sign, zeros and blanks. -/
theorem clampLimit_exact_padded :
    TextSpellsInt (2 ^ 64 - 1) "\t +0018446744073709551615\u3000" ∧
      clampLimit (some (.text "\t +0018446744073709551615\u3000")) =
        clampLimit (some (.number (.int (2 ^ 64 - 1)))) ∧
      IsNearestLimit (2 ^ 64 - 1) (clampLimit (some (.number (.int (2 ^ 64 - 1))))) ∧
      ¬IsDecimal (Text.trim "7 or so".toList) ∧ clampLimit (some (.text "7 or so")) = 5 := by
  have hspells : TextSpellsInt (2 ^ 64 - 1) "\t +0018446744073709551615\u3000" :=
    ⟨['\t', ' '], "+0018446744073709551615".toList, ['\u3000'], by decide +kernel,
      ⟨['+'], 2, by decide, by decide +kernel⟩, List.all_eq_true.1 (by decide),
      List.all_eq_true.1 (by decide)⟩
  have hword : ¬IsDecimal (Text.trim "7 or so".toList) :=
    fun h ↦ absurd (typedDecimal?_isSome_iff.2 h) (by decide +kernel)
  obtain ⟨-, hnearest, htext⟩ := clampLimit_exact.2.1 (2 ^ 64 - 1) (by decide) (by decide)
  exact ⟨hspells, htext _ hspells, hnearest (by decide), hword,
    clampLimit_exact.2.2.2.2.2.2.2 _ hword⟩

end BlockQuery

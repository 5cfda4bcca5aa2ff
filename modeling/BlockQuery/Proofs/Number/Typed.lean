import BlockQuery.Number.Spelling
import BlockQuery.Proofs.Number.Digits

/-!
# Which texts are decimals

`IsDecimal` says how a decimal is typed: a sign or none, digits, a point or none with more digits
behind it, an exponent or none, and at least one digit on one side of the point. **These texts are
read as decimals and no others** (`typedDecimal?_isSome_iff`); in particular no word is one.

A text is read from left to right, and each part ends where the next one starts, so what is typed is
found again part by part (`typedDecimal?_append`).
-/

namespace BlockQuery

variable {cs sign whole behind fraction exponent : List Char}

/-- What may stand in front of a number. -/
def signs : List (List Char) :=
  [[], ['+'], ['-']]

/-- What may stand behind the digits in front of the point, and which digits it adds. -/
inductive IsFraction : List Char → List Char → Prop where
  | none : IsFraction [] []
  | point {digits : List Char} (hdigits : AllDigits digits) : IsFraction ('.' :: digits) digits

/-- What may stand behind all digits. -/
inductive IsExponent : List Char → Prop where
  | none : IsExponent []
  | power {mark : Char} {sign digits : List Char} (hmark : mark = 'e' ∨ mark = 'E')
      (hsign : sign ∈ signs) (hdigits : AllDigits digits) (hne : digits ≠ []) :
      IsExponent (mark :: (sign ++ digits))

/-- The text is a decimal. -/
def IsDecimal (cs : List Char) : Prop :=
  ∃ sign whole behind fraction exponent, cs = sign ++ (whole ++ (behind ++ exponent)) ∧
    sign ∈ signs ∧ AllDigits whole ∧ IsFraction behind fraction ∧ IsExponent exponent ∧
    (whole ≠ [] ∨ fraction ≠ [])

/-! ### Signs -/

/-- What is taken off in front is a sign or nothing. -/
theorem exists_sign (cs : List Char) : ∃ sign ∈ signs, cs = sign ++ (Numeral.splitSign cs).2 := by
  fun_cases Numeral.splitSign cs with
  | case1 cs => exact ⟨['+'], by simp [signs], rfl⟩
  | case2 cs => exact ⟨['-'], by simp [signs], rfl⟩
  | case3 => exact ⟨[], by simp [signs], rfl⟩

/-- A sign is taken off whatever does not start with another. -/
theorem splitSign_append (hsign : sign ∈ signs) (hcs : ∀ c ∈ cs.head?, c ≠ '+' ∧ c ≠ '-') :
    Numeral.splitSign (sign ++ cs) = (sign == ['-'], cs) := by
  simp only [signs, List.mem_cons, List.not_mem_nil, or_false] at hsign
  obtain rfl | rfl | rfl := hsign
  · rw [List.nil_append, Numeral.splitSign.eq_def]
    split
    · exact absurd rfl (hcs _ rfl).1
    · exact absurd rfl (hcs _ rfl).2
    · rfl
  · rfl
  · rfl

theorem not_sign_of_isDigit {c : Char} (hc : c.isDigit = true) : c ≠ '+' ∧ c ≠ '-' := by
  constructor <;> rintro rfl <;> exact absurd hc (by decide)

/-! ### Fractions and exponents -/

/-- What is taken off next is a point with digits or nothing. -/
theorem exists_behind (cs : List Char) :
    ∃ behind, IsFraction behind (typedFraction cs).1 ∧ cs = behind ++ (typedFraction cs).2 := by
  fun_cases typedFraction cs with
  | case1 cs =>
    refine ⟨'.' :: cs.takeWhile Char.isDigit, .point (allDigits_takeWhile cs), ?_⟩
    rw [List.cons_append, List.takeWhile_append_dropWhile]
  | case2 => exact ⟨[], .none, rfl⟩

/-- A fraction is taken off whatever does not go on with a digit or a point. -/
theorem typedFraction_append (hbehind : IsFraction behind fraction)
    (hcs : ∀ c ∈ cs.head?, c.isDigit = false ∧ c ≠ '.') :
    typedFraction (behind ++ cs) = (fraction, cs) := by
  cases hbehind with
  | none =>
    rw [List.nil_append, typedFraction.eq_def]
    split
    · exact absurd rfl (hcs _ rfl).2
    · rfl
  | point hdigits =>
    obtain ⟨htake, hdrop⟩ := takeWhile_append_digits hdigits fun c hc ↦ (hcs c hc).1
    rw [List.cons_append, typedFraction, htake, hdrop]

/-- An exponent is read exactly where there is one or nothing at all. -/
theorem exists_typedExponent?_iff : (∃ e, typedExponent? cs = some e) ↔ IsExponent cs := by
  constructor
  · rintro ⟨e, he⟩
    cases cs with
    | nil => exact .none
    | cons mark cs =>
      obtain ⟨sign, hsign, hcs⟩ := exists_sign cs
      simp only [typedExponent?] at he
      split at he
      · next hmark =>
        split at he
        · cases he
        · next hdigits =>
          simp only [Bool.or_eq_true, List.isEmpty_iff, Bool.not_eq_true', not_or,
            Bool.not_eq_false, List.all_eq_true] at hdigits
          rw [hcs]
          exact .power hmark hsign hdigits.2 hdigits.1
      · cases he
  · rintro (_ | ⟨hmark, hsign, hdigits, hne⟩)
    · exact ⟨0, rfl⟩
    · next mark sign digits =>
      have hhead : ∀ c ∈ digits.head?, c ≠ '+' ∧ c ≠ '-' :=
        fun c hc ↦ not_sign_of_isDigit (hdigits c (List.mem_of_mem_head? hc))
      have hall : digits.all Char.isDigit = true := List.all_eq_true.2 hdigits
      simp only [typedExponent?, if_pos hmark, splitSign_append hsign hhead, hall,
        List.isEmpty_eq_false_iff.2 hne, Bool.not_true, Bool.or_self, Bool.false_eq_true, if_false]
      exact ⟨_, rfl⟩

/-- An exponent does not run into the digits in front of it. -/
theorem IsExponent.not_continued (h : IsExponent exponent) :
    ∀ c ∈ exponent.head?, c.isDigit = false ∧ c ≠ '.' ∧ c ≠ '+' ∧ c ≠ '-' := by
  intro c hc
  cases h with
  | none => cases hc
  | power hmark =>
    obtain rfl := Option.some.inj hc
    obtain rfl | rfl := hmark <;> decide

/-! ### Decimals -/

/-- **What is typed is read part by part.** -/
theorem typedDecimal?_append (hsign : sign ∈ signs) (hwhole : AllDigits whole)
    (hbehind : IsFraction behind fraction) (hexponent : IsExponent exponent)
    (hne : whole ≠ [] ∨ fraction ≠ []) :
    typedDecimal? (sign ++ (whole ++ (behind ++ exponent))) =
      (typedExponent? exponent).map fun e ↦ ⟨sign == ['-'], whole, fraction, e, false⟩ := by
  -- no part starts with what could still belong to the one in front of it
  have hdigits : ∀ c ∈ (behind ++ exponent).head?, c.isDigit = false ∧ c ≠ '+' ∧ c ≠ '-' := by
    cases hbehind with
    | none =>
      exact fun c hc ↦ ⟨(hexponent.not_continued c hc).1, (hexponent.not_continued c hc).2.2⟩
    | point =>
      intro c hc
      obtain rfl := Option.some.inj hc
      decide
  have hhead : ∀ c ∈ (whole ++ (behind ++ exponent)).head?, c ≠ '+' ∧ c ≠ '-' := by
    cases whole with
    | nil => exact fun c hc ↦ (hdigits c hc).2
    | cons d whole =>
      intro c hc
      obtain rfl := Option.some.inj hc
      exact not_sign_of_isDigit (hwhole _ List.mem_cons_self)
  obtain ⟨htake, hdrop⟩ := takeWhile_append_digits hwhole fun c hc ↦ (hdigits c hc).1
  have hpoint : typedFraction (behind ++ exponent) = (fraction, exponent) :=
    typedFraction_append hbehind fun c hc ↦
      ⟨(hexponent.not_continued c hc).1, (hexponent.not_continued c hc).2.1⟩
  have hsome : (whole.isEmpty && fraction.isEmpty) = false := by
    rw [Bool.and_eq_false_iff, List.isEmpty_eq_false_iff, List.isEmpty_eq_false_iff]
    exact hne
  simp only [typedDecimal?, splitSign_append hsign hhead, htake, hdrop, hpoint, hsome,
    Bool.false_eq_true, if_false]

/-- **Decimals are read, and nothing else is.** -/
theorem typedDecimal?_isSome_iff : (typedDecimal? cs).isSome = true ↔ IsDecimal cs := by
  constructor
  · intro h
    obtain ⟨sign, hsign, hcs⟩ := exists_sign cs
    obtain ⟨behind, hbehind, hrest⟩ :=
      exists_behind ((Numeral.splitSign cs).2.dropWhile Char.isDigit)
    simp only [typedDecimal?] at h
    split at h
    · cases h
    · next hne =>
      rw [Option.isSome_map] at h
      refine ⟨sign, (Numeral.splitSign cs).2.takeWhile Char.isDigit, behind, _, _, ?_, hsign,
        allDigits_takeWhile _, hbehind, exists_typedExponent?_iff.1 (Option.isSome_iff_exists.1 h),
        ?_⟩
      · rwa [← hrest, List.takeWhile_append_dropWhile]
      · rwa [Bool.and_eq_true, List.isEmpty_iff, List.isEmpty_iff, not_and_or] at hne
  · rintro ⟨sign, whole, behind, fraction, exponent, rfl, hsign, hwhole, hbehind, hexponent, hne⟩
    obtain ⟨e, he⟩ := exists_typedExponent?_iff.2 hexponent
    rw [typedDecimal?_append hsign hwhole hbehind hexponent hne, he]
    rfl

/-- Digits with a sign are a decimal without fraction and exponent. -/
theorem typedDecimal?_digits (hsign : sign ∈ signs) (hwhole : AllDigits whole) (hne : whole ≠ []) :
    typedDecimal? (sign ++ whole) = some ⟨sign == ['-'], whole, [], 0, false⟩ := by
  have hread := typedDecimal?_append hsign hwhole .none .none (.inl hne)
  rwa [List.append_nil, List.append_nil] at hread

/-- Infinity is a word. -/
example : ¬IsDecimal "-infinity".toList :=
  fun h ↦ absurd (typedDecimal?_isSome_iff.2 h) (by decide)

end BlockQuery

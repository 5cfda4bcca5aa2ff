import BlockQuery.Proofs.Calendar.Relative
import BlockQuery.Proofs.Number.Typed

/-!
# The right day

A relative day is settled against a day of the calendar, and what comes out is the text of the day
that is meant: the day itself for `today`, and for `yesterday` the day of which it is the successor
(`next?_of_previous?`). Only the first day has no such day, and there the word stays.

**No two days have the same text** (`text_injective`). Month and day of the month have a fixed
width, so a text is read from behind. What is left is the year, whose sign is told by its first
character, and whose digits denote it however many there are.
-/

namespace BlockQuery

namespace Day

open Calendar

variable {d e : Day}

/-! ### The day before and the day after -/

/-- A day is known by its year, month and day of the month. -/
theorem of?_eq_some_iff {year : ℤ} {month day : ℕ} :
    of? year month day = some d ↔ d.year = year ∧ d.month = month ∧ d.day = day := by
  obtain ⟨y, m, n, hd⟩ := d
  rw [of?]
  split
  · simp only [Option.some.injEq, mk.injEq]
    exact and_congr eq_comm (and_congr eq_comm eq_comm)
  · next hnone =>
    simp only [reduceCtorEq, false_iff]
    rintro ⟨rfl, rfl, rfl⟩
    exact hnone hd

/-- **A day is the successor of the day before it.** -/
theorem next?_of_previous? (h : d.previous? = some e) : e.next? = some d := by
  obtain ⟨-, -, hmonth, hmonths, hday, hdays⟩ := d.isDay
  rw [previous?] at h
  split at h
  · -- within a month
    obtain ⟨hy, hm, hn⟩ := of?_eq_some_iff.1 h
    rw [next?, hy, hm, hn, if_pos (by omega), of?_eq_some_iff]
    omega
  split at h
  · -- the first day of a month comes behind the last one of the month before
    obtain ⟨hy, hm, hn⟩ := of?_eq_some_iff.1 h
    rw [next?, hy, hm, hn, if_neg (lt_irrefl _), if_pos (by omega), of?_eq_some_iff]
    omega
  · -- and that of a year behind the last one of December
    obtain ⟨hy, hm, hn⟩ := of?_eq_some_iff.1 h
    have hdecember : monthLength (d.year - 1) 12 = 31 := rfl
    rw [next?, hy, hm, hn, hdecember, if_neg (lt_irrefl _), if_neg (lt_irrefl _), of?_eq_some_iff]
    omega

/-- The first day of the calendar has no day before it. -/
theorem previous?_first : first.previous? = none := by
  decide

/-! ### Texts -/

/-- Zeros in front do not change what digits denote. -/
theorem ofDigits_padded (width n : ℕ) : Numeral.ofDigits (padded width n) = n :=
  Numeral.ofDigits_zeros_append _ n

/-- Different numbers are written differently, whatever the width. -/
theorem padded_inj {width m n : ℕ} : padded width m = padded width n ↔ m = n := by
  refine ⟨fun h ↦ ?_, fun h ↦ by rw [h]⟩
  rw [← ofDigits_padded width m, h, ofDigits_padded]

/-- Months and days of the month have two digits. -/
theorem length_padded_two {n : ℕ} (hn : n < 100) : (padded 2 n).length = 2 := by
  have hall : ∀ n < 100, (padded 2 n).length = 2 := by decide +kernel
  exact hall n hn

theorem month_lt (d : Day) : d.month < 100 := by
  obtain ⟨-, -, -, hmonths, -, -⟩ := d.isDay
  omega

theorem monthLength_le (year : ℤ) (month : ℕ) : monthLength year month ≤ 31 := by
  unfold monthLength
  split <;> split <;> decide

theorem day_lt (d : Day) : d.day < 100 := by
  obtain ⟨-, -, -, -, -, hdays⟩ := d.isDay
  have := monthLength_le d.year d.month
  omega

/-- A year is its sign, if it has one, and at least four digits. -/
theorem exists_yearSign (year : ℤ) :
    ∃ sign ∈ signs, yearChars year = sign ++ padded 4 year.natAbs ∧ (sign = ['-'] ↔ year < 0) := by
  rw [yearChars]
  split
  · next hneg => exact ⟨['-'], by simp [signs], rfl, by simp [hneg]⟩
  next hneg =>
  split
  · exact ⟨['+'], by simp [signs], rfl, by simp [hneg]⟩
  · exact ⟨[], by simp [signs], rfl, by simp [hneg]⟩

/-- **The sign and the digits of a year are found again.** -/
theorem splitSign_yearChars (year : ℤ) :
    Numeral.splitSign (yearChars year) = (decide (year < 0), padded 4 year.natAbs) := by
  obtain ⟨sign, hsign, hchars, hneg⟩ := exists_yearSign year
  have hdigits : AllDigits (padded 4 year.natAbs) := allDigits_zeros_append _ _
  have hhead : ∀ c ∈ (padded 4 year.natAbs).head?, c ≠ '+' ∧ c ≠ '-' :=
    fun c hc ↦ not_sign_of_isDigit (hdigits c (List.mem_of_mem_head? hc))
  rw [hchars, splitSign_append hsign hhead, Prod.mk.injEq, Bool.eq_iff_iff, beq_iff_eq,
    decide_eq_true_eq]
  exact ⟨hneg, rfl⟩

/-- Different years are written differently. -/
theorem yearChars_inj {year year' : ℤ} : yearChars year = yearChars year' ↔ year = year' := by
  refine ⟨fun h ↦ ?_, fun h ↦ by rw [h]⟩
  have hsigns := congrArg Numeral.splitSign h
  rw [splitSign_yearChars, splitSign_yearChars, Prod.mk.injEq, padded_inj, decide_eq_decide]
    at hsigns
  omega

/-- **A day is told by its text.** -/
theorem text_injective : Function.Injective text := by
  intro d e h
  have hchars := congrArg String.toList h
  rw [text, text, String.toList_ofList, String.toList_ofList] at hchars
  have hdays : (padded 2 d.day).length = (padded 2 e.day).length := by
    rw [length_padded_two d.day_lt, length_padded_two e.day_lt]
  have hmonths : (padded 2 d.month).length = (padded 2 e.month).length := by
    rw [length_padded_two d.month_lt, length_padded_two e.month_lt]
  obtain ⟨hyear, hbehind⟩ := List.append_inj' hchars (by simp [hdays, hmonths])
  obtain ⟨hmonth, hday⟩ := List.append_inj (List.tail_eq_of_cons_eq hbehind) hmonths
  have hsame : d.year = e.year ∧ d.month = e.month ∧ d.day = e.day :=
    ⟨yearChars_inj.1 hyear, padded_inj.1 hmonth, padded_inj.1 (List.tail_eq_of_cons_eq hday)⟩
  obtain ⟨y, m, n, hd⟩ := d
  obtain ⟨y', m', n', he⟩ := e
  obtain ⟨rfl, rfl, rfl⟩ := hsame
  rfl

end Day

/-! ### What the words name -/

section Words

variable {value : String}

/-- The two ways to put a value in lower case agree on the words. -/
theorem asciiLower_eq_of_lower_eq {word : String} (hword : word ∈ relativeWords)
    (h : Text.lower (Text.trimmed value) = word) : Text.asciiLower (Text.trimmed value) = word := by
  have hplain : ∀ w ∈ relativeWords, w.toList ⊆ Text.plainLetters := by decide
  exact (Text.lower_eq_iff_asciiLower_eq (hplain word hword)).1 h

theorem relativeDay?_today (h : Text.lower (Text.trimmed value) = "today") (today : Day) :
    relativeDay? value today = some today := by
  rw [relativeDay?, asciiLower_eq_of_lower_eq (by decide) h]
  rfl

theorem relativeDay?_yesterday (h : Text.lower (Text.trimmed value) = "yesterday") (today : Day) :
    relativeDay? value today = today.previous? := by
  rw [relativeDay?, asciiLower_eq_of_lower_eq (by decide) h]
  rfl

/-- **Relative days name the right day.** In a block that bounds a range of days, whatever blanks
stand around the word and whatever the case of its letters, `today` is settled as the text of the
day itself, and `yesterday` as that of the day whose successor it is; on the first day of the
calendar, which is no day's successor, it stays as given. A day is told by its text, whatever its
year. -/
theorem settled?_names_day (d : Day) :
    (∀ type ∈ dateTypes, ∀ value : String,
      (Text.lower (Text.trimmed value) = "today" → settled? type value d = some d.text) ∧
        (Text.lower (Text.trimmed value) = "yesterday" →
          (d ≠ Day.first → ∃ e : Day, e.next? = some d ∧ settled? type value d = some e.text) ∧
            (d = Day.first → settled? type value d = none ∧ settledValue type value d = value))) ∧
      ∀ e : Day, d.text = e.text → d = e := by
  refine ⟨fun type htype value ↦ ⟨fun h ↦ ?_, fun h ↦ ⟨fun hd ↦ ?_, ?_⟩⟩,
    fun e h ↦ Day.text_injective h⟩
  · rw [settled?_of_mem htype, relativeDay?_today h, Option.map_some]
  · obtain ⟨e, he⟩ := Day.exists_previous?_eq_some hd
    refine ⟨e, Day.next?_of_previous? he, ?_⟩
    rw [settled?_of_mem htype, relativeDay?_yesterday h, he, Option.map_some]
  · rintro rfl
    have hnone : settled? type value Day.first = none := by
      rw [settled?_of_mem htype, relativeDay?_yesterday h, Day.previous?_first, Option.map_none]
    exact ⟨hnone, by rw [settledValue, hnone, Option.getD_none]⟩

/-- The day before the first of March is a leap day in the year 0. Before the first day of all there
is none. -/
theorem settled?_names_day_leap :
    ∃ march leapDay : Day, (march.year, march.month, march.day) = (0, 3, 1) ∧
      leapDay.text = "0000-02-29" ∧
      Text.lower (Text.trimmed "\u3000YesterDAY\n") = "yesterday" ∧ march ≠ Day.first ∧
      (∃ e : Day, e.next? = some march ∧ settled? "since" "\u3000YesterDAY\n" march = some e.text) ∧
      settled? "since" "\u3000YesterDAY\n" march = some leapDay.text ∧
      settledValue "until" "yesterday" Day.first = "yesterday" := by
  let march : Day := ⟨0, 3, 1, by decide⟩
  have hword : Text.lower (Text.trimmed "\u3000YesterDAY\n") = "yesterday" := by decide +kernel
  have hplain : Text.lower (Text.trimmed "yesterday") = "yesterday" := by decide +kernel
  have hmarch : march ≠ Day.first := by decide
  have hbefore := (((settled?_names_day march).1 "since" (by decide) _).2 hword).1 hmarch
  have hfirst := (((settled?_names_day Day.first).1 "until" (by decide) _).2 hplain).2 rfl
  exact ⟨march, ⟨0, 2, 29, by decide⟩, rfl, by decide +kernel, hword, hmarch, hbefore,
    by decide +kernel, hfirst.2⟩

end Words

end BlockQuery

import BlockQuery.Calendar.Relative
import BlockQuery.Proofs.Text.Comparison

/-!
# Settling relative days

A value names a relative day if it is the word `today` or `yesterday`, blanks around it and the case
of its letters aside. On any day but the first of the calendar such a value is settled, and
**settling happens once**: the text of a day names no relative day, so whatever comes out is never
settled again, on no other day either.
-/

namespace BlockQuery

/-! ### The first day -/

namespace Day

open Calendar

theorem isDay_first : IsDay firstYear 1 1 := by
  decide

/-- The first day of the calendar. -/
def first : Day :=
  ⟨firstYear, 1, 1, isDay_first⟩

/-- Every date of the calendar is a day. -/
theorem exists_of?_eq_some {year : ℤ} {month day : ℕ} (h : IsDay year month day) :
    ∃ d, of? year month day = some d :=
  ⟨_, dif_pos h⟩

theorem one_le_monthLength (year : ℤ) (month : ℕ) : 1 ≤ monthLength year month := by
  unfold monthLength
  split <;> split <;> decide

/-- **Only the first day has no predecessor.** -/
theorem exists_previous?_eq_some {d : Day} (hd : d ≠ first) : ∃ e, d.previous? = some e := by
  obtain ⟨hfirst, hlast, hmonth, hmonths, hday, hdays⟩ := d.isDay
  unfold previous?
  split
  · exact exists_of?_eq_some ⟨hfirst, hlast, hmonth, hmonths, by omega, by omega⟩
  split
  · exact exists_of?_eq_some
      ⟨hfirst, hlast, by omega, by omega, one_le_monthLength _ _, le_refl _⟩
  · have hyear : d.year ≠ firstYear := by
      intro hyear
      refine hd ?_
      obtain ⟨year, month, day, hisDay⟩ := d
      have hone : month = 1 ∧ day = 1 := by simp only at *; omega
      obtain ⟨rfl, rfl⟩ := hone
      obtain rfl : year = firstYear := hyear
      rfl
    exact exists_of?_eq_some ⟨by omega, by omega, by decide, by decide, by decide, le_refl 31⟩

/-! ### The text of a day -/

/-- The text of a day has hyphens, which the words for relative days have not. -/
theorem hyphen_mem_text (d : Day) : '-' ∈ d.text.toList := by
  rw [text, String.toList_ofList, List.mem_append]
  exact .inr (List.mem_cons_self ..)

end Day

/-! ### Relative days -/

/-- The words for relative days. -/
def relativeWords : List String :=
  ["today", "yesterday"]

/-- The value is a word for a relative day, blanks around it and letter case aside. -/
def NamesRelativeDay (value : String) : Prop :=
  Text.lower (Text.trimmed value) ∈ relativeWords

instance (value : String) : Decidable (NamesRelativeDay value) :=
  inferInstanceAs (Decidable (Text.lower (Text.trimmed value) ∈ relativeWords))

/-- For these words it is enough to put ASCII letters in lower case. -/
theorem asciiLower_mem_relativeWords_iff {value : String} :
    Text.asciiLower (Text.trimmed value) ∈ relativeWords ↔ NamesRelativeDay value := by
  have hplain : ∀ w ∈ relativeWords, w.toList ⊆ Text.plainLetters := by decide
  constructor
  · intro h
    have hlower := (Text.lower_eq_iff_asciiLower_eq (hplain _ h)).2 rfl
    rwa [NamesRelativeDay, hlower]
  · intro h
    have hascii := (Text.lower_eq_iff_asciiLower_eq (hplain _ h)).1 rfl
    rwa [hascii]

/-- The text of a day is no word for a day. -/
theorem not_namesRelativeDay_text (d : Day) : ¬NamesRelativeDay d.text := by
  intro h
  have hletters : ∀ w ∈ relativeWords, '-' ∉ w.toList := by decide
  refine hletters _ (asciiLower_mem_relativeWords_iff.2 h) ?_
  have htrim := Text.mem_trim_of_isBlank_eq_false d.hyphen_mem_text (by decide)
  rw [Text.asciiLower, String.toList_ofList, Text.toList_trimmed]
  exact List.mem_map.2 ⟨'-', htrim, by decide⟩

/-- A relative day is some day, unless it would be the day before the first. -/
theorem exists_relativeDay?_eq_some {value : String} (h : NamesRelativeDay value) {today : Day}
    (htoday : today ≠ Day.first) : ∃ d, relativeDay? value today = some d := by
  rw [← asciiLower_mem_relativeWords_iff, relativeWords, List.mem_pair] at h
  rw [relativeDay?]
  rcases h with hword | hword
  · exact ⟨today, if_pos hword⟩
  · rw [hword]
    exact Day.exists_previous?_eq_some htoday

theorem relativeDay?_eq_none {value : String} (h : ¬NamesRelativeDay value) (today : Day) :
    relativeDay? value today = none := by
  rw [← asciiLower_mem_relativeWords_iff, relativeWords, List.mem_pair, not_or] at h
  rw [relativeDay?, if_neg h.1, if_neg h.2]

/-! ### Settling -/

/-- The value of a block of some type once a relative day in it is settled. -/
def settledValue (type value : String) (today : Day) : String :=
  (settled? type value today).getD value

section Settling

variable {type value : String} {today : Day}

theorem settled?_of_mem (htype : type ∈ dateTypes) :
    settled? type value today = (relativeDay? value today).map Day.text :=
  if_pos (List.contains_iff_mem.2 htype)

theorem settled?_of_notMem (htype : type ∉ dateTypes) : settled? type value today = none :=
  if_neg (by rwa [List.contains_iff_mem])

/-- Nothing but a relative day in a block that bounds a range of days is settled. -/
theorem settled?_eq_none_of_not_namesRelativeDay (today : Day)
    (h : type ∈ dateTypes → ¬NamesRelativeDay value) : settled? type value today = none := by
  by_cases htype : type ∈ dateTypes
  · rw [settled?_of_mem htype, relativeDay?_eq_none (h htype), Option.map_none]
  · exact settled?_of_notMem htype

/-- A value that names no relative day stays as it is. -/
theorem settledValue_eq_self (today : Day) (h : type ∈ dateTypes → ¬NamesRelativeDay value) :
    settledValue type value today = value := by
  rw [settledValue, settled?_eq_none_of_not_namesRelativeDay today h, Option.getD_none]

/-- A relative day is settled as the text of a day. -/
theorem exists_settledValue_eq_text (htype : type ∈ dateTypes) (h : NamesRelativeDay value)
    (htoday : today ≠ Day.first) : ∃ d : Day, settledValue type value today = d.text := by
  obtain ⟨d, hd⟩ := exists_relativeDay?_eq_some h htoday
  exact ⟨d, by rw [settledValue, settled?_of_mem htype, hd, Option.map_some, Option.getD_some]⟩

/-- **What is settled names no relative day.** -/
theorem not_namesRelativeDay_settledValue (htype : type ∈ dateTypes) (htoday : today ≠ Day.first) :
    ¬NamesRelativeDay (settledValue type value today) := by
  by_cases h : NamesRelativeDay value
  · obtain ⟨d, hd⟩ := exists_settledValue_eq_text htype h htoday
    rw [hd]
    exact not_namesRelativeDay_text d
  · rwa [settledValue_eq_self today fun _ ↦ h]

/-- A relative day does not stay as it is. -/
theorem settledValue_ne_self (htype : type ∈ dateTypes) (h : NamesRelativeDay value)
    (htoday : today ≠ Day.first) : settledValue type value today ≠ value := by
  intro heq
  rw [← heq] at h
  exact not_namesRelativeDay_settledValue htype htoday h

/-- **Nothing is settled twice,** on whatever day. -/
theorem settled?_settledValue (htoday : today ≠ Day.first) (later : Day) :
    settled? type (settledValue type value today) later = none :=
  settled?_eq_none_of_not_namesRelativeDay later fun htype ↦
    not_namesRelativeDay_settledValue htype htoday

end Settling

end BlockQuery

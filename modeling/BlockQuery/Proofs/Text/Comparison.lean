import BlockQuery.Text.Blank
import BlockQuery.Text.Lower
import Mathlib.Data.Int.Notation
import Mathlib.Data.List.Basic
import Mathlib.Data.List.TakeWhile

/-!
# Comparing a value with a word

A value is compared with a word after blanks around it are dropped and its letters are put in lower
case. The comparison may map the letters `A` to `Z` alone, or all letters by the Unicode standard.
**For words of plain letters this makes no difference** (`lower_eq_iff_asciiLower_eq`): no other
character has a lower case that occurs in such a word.

The letter `k` is not plain. The sign for kelvin is a capital of its own with this lower case.
-/

namespace BlockQuery.Text

/-! ### Plain letters -/

/-- The lower-case letters that have no capital beside the usual one. -/
def plainLetters : List Char :=
  ['a', 'b', 'c', 'd', 'e', 'f', 'g', 'h', 'i', 'j', 'l', 'm', 'n', 'o', 'p', 'q', 'r', 's', 't',
    'u', 'v', 'w', 'x', 'y', 'z']

/-- The run of the letters `A` to `Z`. -/
def latinRun : LowerRun :=
  ⟨0x41, 0x5a, 1, 32⟩

/-- The runs of all other letters. -/
def otherRuns : List LowerRun :=
  lowerRuns.tail

/-- The Latin letters of ASCII come first in the table. -/
theorem lowerRuns_eq_cons : lowerRuns = latinRun :: otherRuns :=
  rfl

/-- A number that stands for a character other than null is its code point. -/
theorem toNat_of_ofNat_eq {n : ℕ} {x : Char} (hx : x ≠ '\x00') (h : Char.ofNat n = x) :
    n = x.toNat := by
  subst h
  by_cases hvalid : n.isValidChar
  · have hchar : Char.ofNat n = Char.ofNatAux n hvalid := dif_pos hvalid
    rw [hchar]
    rfl
  · have hchar : Char.ofNat n = '\x00' := dif_neg hvalid
    exact absurd hchar hx

/-- What a run maps to a character stands in the run, at the run's offset from the character. -/
theorem LowerRun.preimage_of_image? {r : LowerRun} {c x : Char} (hx : x ≠ '\x00')
    (h : r.image? c = some x) :
    (r.first : ℤ) ≤ x.toNat - r.offset ∧ (x.toNat : ℤ) - r.offset ≤ r.last := by
  unfold image? at h
  simp only at h
  split at h
  · next hrun =>
    simp only [Bool.and_eq_true, decide_eq_true_eq] at hrun
    have hcode := toNat_of_ofNat_eq hx (Option.some.inj h)
    have hpos : x.toNat ≠ 0 := fun hzero ↦ hx (Char.toNat_inj.1 hzero)
    omega
  · cases h

/-- No run of other letters reaches a plain letter. -/
theorem image?_ne_some_plain {r : LowerRun} (hr : r ∈ otherRuns) {x : Char}
    (hx : x ∈ plainLetters) (c : Char) : r.image? c ≠ some x := by
  -- letters are listed by `all`, so that not every character there is gets tried
  have hall : ∀ r ∈ otherRuns, plainLetters.all fun x ↦
      ¬((r.first : ℤ) ≤ x.toNat - r.offset ∧ (x.toNat : ℤ) - r.offset ≤ r.last) := by
    decide +kernel
  have houtside := of_decide_eq_true (List.all_eq_true.1 (hall r hr) x hx)
  have hzero : x ≠ '\x00' := by
    rintro rfl
    exact absurd hx (by decide)
  exact fun h ↦ houtside (LowerRun.preimage_of_image? hzero h)

/-- No run of other letters holds a plain letter. -/
theorem image?_plain {r : LowerRun} (hr : r ∈ otherRuns) {x : Char} (hx : x ∈ plainLetters) :
    r.image? x = none := by
  have hall : ∀ r ∈ otherRuns, plainLetters.all fun x ↦ r.image? x = none := by decide +kernel
  exact of_decide_eq_true (List.all_eq_true.1 (hall r hr) x hx)

/-- What holds of the first 128 characters holds of every ASCII character. -/
theorem forall_ascii {P : Char → Prop} (h : ∀ n < 0x80, P (Char.ofNat n)) (c : Char)
    (hc : c.toNat < 0x80) : P c :=
  c.ofNat_toNat ▸ h c.toNat hc

theorem toLower_eq_self {c : Char} (hc : 0x80 ≤ c.toNat) : c.toLower = c := by
  refine dif_neg ?_
  rintro ⟨-, hz⟩
  have hle : c.toNat ≤ 0x5a := hz
  omega

/-- Mapping `A` to `Z` alone is what the first run does. -/
theorem toLower_eq_image?_latinRun (c : Char) : c.toLower = (latinRun.image? c).getD c := by
  by_cases hc : c.toNat < 0x80
  · exact forall_ascii (P := fun c ↦ c.toLower = (latinRun.image? c).getD c) (by decide) c hc
  · have hrun : latinRun.image? c = none := by
      have hlast : ¬c.toNat ≤ 0x5a := by omega
      simp [LowerRun.image?, latinRun, hlast]
    rw [hrun, Option.getD_none, toLower_eq_self (Nat.not_lt.1 hc)]

/-! ### One character -/

/-- The lower case of a character is a plain letter exactly if it is that letter where `A` to `Z`
alone are mapped. -/
theorem lowerChar_eq_singleton_iff {c x : Char} (hdot : c ≠ 'İ') (hx : x ∈ plainLetters) :
    lowerChar c = [x] ↔ c.toLower = x := by
  rw [lowerChar, if_neg hdot, List.singleton_inj, toLower_eq_image?_latinRun, lowerRuns_eq_cons,
    List.findSome?_cons]
  cases latinRun.image? c with
  | some d => rfl
  | none =>
    cases hother : otherRuns.findSome? (·.image? c) with
    | none => rfl
    | some d =>
      obtain ⟨r, hr, himage⟩ := List.exists_of_findSome?_eq_some hother
      have hd : d ≠ x := fun h ↦ image?_ne_some_plain hr hx c (h ▸ himage)
      have hc : c ≠ x := by
        rintro rfl
        rw [image?_plain hr hx] at himage
        cases himage
      simp [hd, hc]

/-- What a character is mapped to starts with a plain letter, and may go on like a word of plain
letters, exactly if the character is one letter that is mapped alone. -/
theorem lowerChar_append_eq_cons_iff {c x : Char} (hx : x ∈ plainLetters) {cs w : List Char}
    (hw : ∀ y ∈ w, y ∈ plainLetters) :
    lowerChar c ++ cs = x :: w ↔ c.toLower = x ∧ cs = w := by
  by_cases hdot : c = 'İ'
  · -- the dot is a character of its own and no letter
    have hcapital : ('İ').toLower ∉ plainLetters := by decide
    have hmark : '\u0307' ∉ plainLetters := by decide
    subst hdot
    refine ⟨fun h ↦ ?_, fun h ↦ absurd (h.1 ▸ hx) hcapital⟩
    obtain ⟨-, rfl⟩ := List.cons.inj h
    exact absurd (hw _ (List.mem_cons_self ..)) hmark
  · rw [← lowerChar_eq_singleton_iff hdot hx, lowerChar, if_neg hdot, List.singleton_append,
      List.cons.injEq, List.singleton_inj]

/-- No character vanishes in lower case. -/
theorem lowerChar_ne_nil (c : Char) : lowerChar c ≠ [] := by
  unfold lowerChar
  split <;> exact List.cons_ne_nil _ _

/-! ### Whole texts -/

theorem lowerAfter_cons {c : Char} (hsigma : c ≠ 'Σ') (before cs : List Char) :
    lowerAfter before (c :: cs) = lowerChar c ++ lowerAfter (c :: before) cs := by
  rw [lowerAfter, if_neg hsigma]

/-- Neither form of the small sigma is a plain letter. -/
theorem exists_lowerAfter_sigma (before cs : List Char) :
    ∃ y ∉ plainLetters, lowerAfter before ('Σ' :: cs) = y :: lowerAfter ('Σ' :: before) cs := by
  rw [lowerAfter, if_pos rfl]
  split
  · exact ⟨'ς', by decide, rfl⟩
  · exact ⟨'σ', by decide, rfl⟩

/-- **Only plain letters matter to a word of plain letters.** Either both ways to put a text in
lower case yield the word or neither does. -/
theorem lowerAfter_eq_iff {w : List Char} (hw : ∀ x ∈ w, x ∈ plainLetters) (before cs : List Char) :
    lowerAfter before cs = w ↔ cs.map Char.toLower = w := by
  induction cs generalizing before w with
  | nil => rfl
  | cons c cs ih =>
    by_cases hsigma : c = 'Σ'
    · -- sigma is no letter of the word, in either case
      subst hsigma
      have hcapital : ('Σ').toLower ∉ plainLetters := by decide
      obtain ⟨y, hy, hlower⟩ := exists_lowerAfter_sigma before cs
      rw [hlower, List.map_cons]
      refine ⟨fun h ↦ absurd (hw y ?_) hy, fun h ↦ absurd (hw _ ?_) hcapital⟩
      · exact h ▸ List.mem_cons_self ..
      · exact h ▸ List.mem_cons_self ..
    · rw [lowerAfter_cons hsigma, List.map_cons]
      cases w with
      | nil => simp [lowerChar_ne_nil]
      | cons x w =>
        obtain ⟨hx, hw⟩ := List.forall_mem_cons.1 hw
        rw [lowerChar_append_eq_cons_iff hx hw, List.cons.injEq, ih hw]

/-- **For a word of plain letters it does not matter which lower case is taken.** -/
theorem lower_eq_iff_asciiLower_eq {s w : String} (hw : ∀ x ∈ w.toList, x ∈ plainLetters) :
    lower s = w ↔ asciiLower s = w := by
  rw [lower, asciiLower, ← String.toList_inj, ← String.toList_inj, String.toList_ofList,
    String.toList_ofList]
  exact lowerAfter_eq_iff hw [] s.toList

/-! ### Trimming -/

/-- Dropping blanks in front leaves all else. -/
theorem filter_dropWhile_isBlank (cs : List Char) :
    (cs.dropWhile isBlank).filter (!isBlank ·) = cs.filter (!isBlank ·) := by
  induction cs with
  | nil => rfl
  | cons c cs ih => cases hc : isBlank c <;> simp [hc, ih]

/-- **Trimming takes nothing but blanks away.** -/
theorem filter_trim (cs : List Char) :
    (trim cs).filter (!isBlank ·) = cs.filter (!isBlank ·) := by
  rw [trim, List.filter_reverse, filter_dropWhile_isBlank, List.filter_reverse,
    List.reverse_reverse, filter_dropWhile_isBlank]

/-- What is not blank is not trimmed. -/
theorem mem_trim_of_isBlank_eq_false {c : Char} {cs : List Char} (hc : c ∈ cs)
    (hblank : isBlank c = false) : c ∈ trim cs := by
  have hleft : c ∈ cs.filter (!isBlank ·) := List.mem_filter.2 ⟨hc, by simp [hblank]⟩
  rw [← filter_trim] at hleft
  exact List.mem_of_mem_filter hleft

end BlockQuery.Text

import BlockQuery.Text.Blank
import Mathlib.Data.List.TakeWhile

/-!
# Words between blanks

A text is split into words at its blanks. **Everything about words follows from one equation**: a
blank ends the word in front of it and belongs to none (`words_append_blank`). So a run of blanks
does what a single space does, and words with single spaces between them are found again.

What is put between words may be more than a space. As long as it starts with a blank, the words
can be told from what they are joined to (`eq_of_intercalate_eq`), even if one of them looks like
what stands between them.
-/

namespace BlockQuery.Text

/-! ### Splitting at a blank -/

section Blank

variable {b : Char} (hb : isBlank b = true)
include hb

/-- A blank ends the word in front of it, so what follows the blank has no part in it. -/
theorem takeWhile_append_blank (cs ds : List Char) :
    (cs ++ b :: ds).takeWhile (!isBlank ·) = cs.takeWhile (!isBlank ·) := by
  induction cs with
  | nil => simp [hb]
  | cons c cs ih => by_cases hc : isBlank c = true <;> simp [hc, ih]

theorem dropWhile_append_blank (cs ds : List Char) :
    (cs ++ b :: ds).dropWhile (!isBlank ·) = cs.dropWhile (!isBlank ·) ++ b :: ds := by
  induction cs with
  | nil => simp [hb]
  | cons c cs ih => by_cases hc : isBlank c = true <;> simp [hc, ih]

end Blank

/-- Skipping blanks stops at a character that is none. -/
theorem isBlank_of_dropWhile_eq_cons {cs rest : List Char} {c : Char}
    (h : cs.dropWhile isBlank = c :: rest) : isBlank c = false := by
  have hhead := List.head?_dropWhile_not isBlank cs
  rwa [h] at hhead

/-- A text has no words exactly if it is blank. -/
theorem words_eq_nil_iff {cs : List Char} : words cs = [] ↔ ∀ c ∈ cs, isBlank c = true := by
  rw [← List.dropWhile_eq_nil_iff, words]
  split
  · next h => simp [h]
  · next c rest h => simp [h]

/-- The first word runs from the first character that is not blank to the next that is. -/
theorem words_eq_cons {cs rest : List Char} {c : Char} (h : cs.dropWhile isBlank = c :: rest) :
    words cs = (c :: rest.takeWhile (!isBlank ·)) :: words (rest.dropWhile (!isBlank ·)) := by
  rw [words]
  split
  · next hnil => simp [h] at hnil
  · next c' rest' hcons =>
    obtain ⟨rfl, rfl⟩ := List.cons.inj (h.symm.trans hcons)
    rfl

theorem words_dropWhile (cs : List Char) : words (cs.dropWhile isBlank) = words cs := by
  cases h : cs.dropWhile isBlank with
  | nil =>
    rw [words_eq_nil_iff.2 (List.forall_mem_nil _),
      words_eq_nil_iff.2 (List.dropWhile_eq_nil_iff.1 h)]
  | cons c rest =>
    have hagain : (c :: rest).dropWhile isBlank = c :: rest :=
      List.dropWhile_cons_of_neg (by simp [isBlank_of_dropWhile_eq_cons h])
    rw [words_eq_cons h, words_eq_cons hagain]

theorem words_cons_blank {b : Char} (hb : isBlank b = true) (cs : List Char) :
    words (b :: cs) = words cs := by
  rw [← words_dropWhile (b :: cs), List.dropWhile_cons_of_pos hb, words_dropWhile]

/-- **A blank splits a text.** The words in front of it and those behind it are all there are. -/
theorem words_append_blank (cs : List Char) {b : Char} (hb : isBlank b = true) (ds : List Char) :
    words (cs ++ b :: ds) = words cs ++ words ds := by
  fun_induction words cs with
  | case1 cs hblank =>
    rw [← words_dropWhile (cs ++ b :: ds), List.dropWhile_append, hblank, List.isEmpty_nil,
      if_pos rfl, words_dropWhile, words_cons_blank hb, List.nil_append]
  | case2 cs c rest hcs ih =>
    have hdrop : (cs ++ b :: ds).dropWhile isBlank = c :: (rest ++ b :: ds) := by
      rw [List.dropWhile_append, hcs, List.isEmpty_cons, if_neg Bool.false_ne_true,
        List.cons_append]
    rw [words_eq_cons hdrop, takeWhile_append_blank hb, dropWhile_append_blank hb, ih,
      List.cons_append]

/-- A run of blanks splits a text like a single one. -/
theorem words_append_run (cs : List Char) {run : List Char} (hne : run ≠ [])
    (hrun : ∀ c ∈ run, isBlank c = true) (ds : List Char) :
    words (cs ++ (run ++ ds)) = words cs ++ words ds := by
  have hbehind : ∀ run : List Char, (∀ c ∈ run, isBlank c = true) →
      words (run ++ ds) = words ds := by
    intro run hrun
    induction run with
    | nil => rfl
    | cons b run ih =>
      obtain ⟨hb, hrun⟩ := List.forall_mem_cons.1 hrun
      rw [List.cons_append, words_cons_blank hb, ih hrun]
  obtain ⟨b, run, rfl⟩ := List.exists_cons_of_ne_nil hne
  obtain ⟨hb, hrun⟩ := List.forall_mem_cons.1 hrun
  rw [List.cons_append, words_append_blank cs hb, hbehind run hrun]

/-! ### Words found again -/

/-- The characters make a word: there is one, and none is blank. -/
def IsWord (w : List Char) : Prop :=
  w ≠ [] ∧ ∀ c ∈ w, isBlank c = false

instance (w : List Char) : Decidable (IsWord w) :=
  decidable_of_iff ((!w.isEmpty && w.all (!isBlank ·)) = true) (by simp [IsWord])

/-- Words hold no blanks and are not empty. -/
theorem isWord_of_mem_words {cs w : List Char} (h : w ∈ words cs) : IsWord w := by
  fun_induction words cs with
  | case1 cs hblank => exact absurd h List.not_mem_nil
  | case2 cs c rest hcs ih =>
    rcases List.mem_cons.1 h with rfl | h
    · refine ⟨List.cons_ne_nil _ _, List.forall_mem_cons.2 ⟨?_, fun d hd ↦ ?_⟩⟩
      · exact isBlank_of_dropWhile_eq_cons hcs
      · simpa using List.mem_takeWhile_imp hd
    · exact ih h

/-- A word is its own only word. -/
theorem words_of_isWord {w : List Char} (hw : IsWord w) : words w = [w] := by
  obtain ⟨c, cs, rfl⟩ := List.exists_cons_of_ne_nil hw.1
  obtain ⟨hc, hcs⟩ := List.forall_mem_cons.1 hw.2
  have hall : ∀ d ∈ cs, (!isBlank d) = true := fun d hd ↦ by rw [hcs d hd, Bool.not_false]
  rw [words_eq_cons (List.dropWhile_cons_of_neg (by simp [hc])), List.takeWhile_eq_self_iff.2 hall,
    List.dropWhile_eq_nil_iff.2 hall, words_eq_nil_iff.2 (List.forall_mem_nil _)]

/-- **Words with single spaces between them are found again.** -/
theorem words_intercalate {ws : List (List Char)} (h : ∀ w ∈ ws, IsWord w) :
    words ([' '].intercalate ws) = ws := by
  induction ws with
  | nil => exact words_eq_nil_iff.2 (List.forall_mem_nil _)
  | cons w ws ih =>
    obtain ⟨hw, hws⟩ := List.forall_mem_cons.1 h
    cases ws with
    | nil => rw [List.intercalate_singleton, words_of_isWord hw]
    | cons v ws =>
      rw [List.intercalate_cons_cons, List.append_assoc, List.singleton_append,
        words_append_blank w (by decide), words_of_isWord hw, ih hws, List.singleton_append]

/-! ### Words told from what stands between them -/

/-- The first of some joined words is told by the blank behind it. -/
theorem takeWhile_intercalate {b : Char} (hb : isBlank b = true) (sep : List Char) {w : List Char}
    (hw : IsWord w) (ws : List (List Char)) :
    ((b :: sep).intercalate (w :: ws)).takeWhile (!isBlank ·) = w := by
  have hself : w.takeWhile (!isBlank ·) = w :=
    List.takeWhile_eq_self_iff.2 fun c hc ↦ by rw [hw.2 c hc, Bool.not_false]
  cases ws with
  | nil => rw [List.intercalate_singleton, hself]
  | cons v ws =>
    rw [List.intercalate_cons_cons, List.append_assoc, List.cons_append, takeWhile_append_blank hb,
      hself]

/-- **Words are told from what is put between them,** if that starts with a blank. -/
theorem eq_of_intercalate_eq {b : Char} (hb : isBlank b = true) {sep : List Char}
    {ws vs : List (List Char)} (hwne : ws ≠ []) (hvne : vs ≠ []) (hws : ∀ w ∈ ws, IsWord w)
    (hvs : ∀ v ∈ vs, IsWord v)
    (h : (b :: sep).intercalate ws = (b :: sep).intercalate vs) : ws = vs := by
  induction ws generalizing vs with
  | nil => exact absurd rfl hwne
  | cons w ws ih =>
    obtain ⟨v, vs, rfl⟩ := List.exists_cons_of_ne_nil hvne
    obtain ⟨hw, hws'⟩ := List.forall_mem_cons.1 hws
    obtain ⟨hv, hvs'⟩ := List.forall_mem_cons.1 hvs
    -- what stands in front of the first blank is the first word on either side
    obtain rfl : v = w := by
      rw [← takeWhile_intercalate hb sep hw ws, h, takeWhile_intercalate hb sep hv vs]
    cases ws with
    | nil =>
      cases vs with
      | nil => rfl
      | cons v' vs => simp at h
    | cons w' ws =>
      cases vs with
      | nil => simp at h
      | cons v' vs =>
        rw [List.intercalate_cons_cons, List.intercalate_cons_cons] at h
        rw [ih (List.cons_ne_nil _ _) (List.cons_ne_nil _ _) hws' hvs'
          (List.append_cancel_left h)]

/-! ### Terms -/

/-- The text can stand between blanks. -/
def IsTerm (t : String) : Prop :=
  IsWord t.toList

theorem isTerm_of_mem_terms {s t : String} (h : t ∈ terms s) : IsTerm t := by
  obtain ⟨w, hw, rfl⟩ := List.mem_map.1 h
  rw [IsTerm, String.toList_ofList]
  exact isWord_of_mem_words hw

/-- Blanks between two texts keep their terms apart, however many there are. -/
theorem terms_append_run (x y : String) {run : String} (hne : run ≠ "")
    (hrun : allBlank run = true) : terms (x ++ run ++ y) = terms x ++ terms y := by
  have hrun' : ∀ c ∈ run.toList, isBlank c = true := List.all_eq_true.1 hrun
  rw [terms, String.toList_append, String.toList_append, List.append_assoc,
    words_append_run _ (by simpa using hne) hrun', List.map_append, terms, terms]

/-- **Terms with single spaces between them are found again.** -/
theorem terms_intercalate {ts : List String} (h : ∀ t ∈ ts, IsTerm t) :
    terms (" ".intercalate ts) = ts := by
  have hwords : ∀ w ∈ ts.map String.toList, IsWord w := List.forall_mem_map.2 h
  rw [terms, String.toList_intercalate, show " ".toList = [' '] from rfl, words_intercalate hwords,
    List.map_map]
  simp

/-- Terms are told from a separator that starts with a blank. -/
theorem eq_of_intercalate_terms_eq {sep : String} {b : Char} {more : List Char}
    (hsep : sep.toList = b :: more) (hb : isBlank b = true) {ts us : List String} (htne : ts ≠ [])
    (hune : us ≠ []) (hts : ∀ t ∈ ts, IsTerm t) (hus : ∀ u ∈ us, IsTerm u)
    (h : sep.intercalate ts = sep.intercalate us) : ts = us := by
  rw [← String.toList_inj, String.toList_intercalate, String.toList_intercalate, hsep] at h
  have hchars := eq_of_intercalate_eq hb (by simpa using htne) (by simpa using hune)
    (List.forall_mem_map.2 hts) (List.forall_mem_map.2 hus) h
  exact (List.map_inj_right fun _ _ ↦ String.toList_inj.1).1 hchars

end BlockQuery.Text

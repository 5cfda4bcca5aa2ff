import BlockQuery.Proofs.Text.Words
import Mathlib.Data.List.Chain
import Mathlib.Data.List.DropRight

/-!
# Where blanks stand

Two properties of texts survive joining. A text is *flush* if it starts and ends with a character
that is not blank. It is *single-spaced* if all its blanks are spaces and no two of them are
neighbours.

**The two go together.** Single-spaced texts stay so when they are joined unless they meet blank on
blank, which flush texts never do. And a trimmed text is flush if anything is left of it.
-/

namespace BlockQuery.Text

variable {as bs cs : List Char}

/-! ### Flush texts -/

/-- The text starts and ends with a character that is not blank. -/
structure Flush (cs : List Char) : Prop where
  head : ∃ c, cs.head? = some c ∧ isBlank c = false
  last : ∃ c, cs.getLast? = some c ∧ isBlank c = false

theorem flush_of_ne_nil (hne : cs ≠ []) (hhead : isBlank (cs.head hne) = false)
    (hlast : isBlank (cs.getLast hne) = false) : Flush cs where
  head := ⟨_, List.head?_eq_some_head hne, hhead⟩
  last := ⟨_, List.getLast?_eq_some_getLast hne, hlast⟩

theorem IsWord.flush {w : List Char} (hw : IsWord w) : Flush w :=
  flush_of_ne_nil hw.1 (hw.2 _ (List.head_mem hw.1)) (hw.2 _ (List.getLast_mem hw.1))

/-- Whatever stands between them, texts that are flush make one that is. -/
theorem Flush.append (ha : Flush as) (mid : List Char) (hb : Flush bs) :
    Flush (as ++ mid ++ bs) where
  head := by
    obtain ⟨c, hc, hblank⟩ := ha.head
    exact ⟨c, by simp [List.head?_append, hc], hblank⟩
  last := by
    obtain ⟨c, hc, hblank⟩ := hb.last
    exact ⟨c, by simp [List.getLast?_append, hc], hblank⟩

/-- A text without blanks in front. -/
theorem Flush.append_left (ha : ∀ c ∈ as, isBlank c = false) (hb : Flush bs) :
    Flush (as ++ bs) := by
  cases as with
  | nil => exact hb
  | cons a as =>
    have hword : IsWord (a :: as) := ⟨List.cons_ne_nil _ _, ha⟩
    simpa using hword.flush.append [] hb

/-- Flush texts in a row are flush, whatever stands between them. -/
theorem Flush.intercalate {sep : List Char} {ts : List (List Char)} (hne : ts ≠ [])
    (hts : ∀ t ∈ ts, Flush t) : Flush (sep.intercalate ts) := by
  induction ts with
  | nil => exact absurd rfl hne
  | cons t ts ih =>
    obtain ⟨ht, hts⟩ := List.forall_mem_cons.1 hts
    cases ts with
    | nil => rwa [List.intercalate_singleton]
    | cons u ts =>
      rw [List.intercalate_cons_cons]
      exact ht.append sep (ih (List.cons_ne_nil _ _) hts)

/-- **What is left of a trimmed text is flush.** -/
theorem flush_trim (hne : trim cs ≠ []) : Flush (trim cs) := by
  -- trimming is `dropWhile` in front and then `rdropWhile` behind
  have hlast := List.rdropWhile_last_not isBlank (cs.dropWhile isBlank) hne
  have hfront : trim cs <+: cs.dropWhile isBlank := List.rdropWhile_prefix isBlank _
  refine flush_of_ne_nil hne ?_ (Bool.eq_false_iff.2 hlast)
  rw [List.IsPrefix.head hfront hne]
  exact List.head_dropWhile_not isBlank _

/-- A text that starts with a character that is not blank is not shortened in front. -/
theorem dropWhile_isBlank_of_head (h : ∃ c, cs.head? = some c ∧ isBlank c = false) :
    cs.dropWhile isBlank = cs := by
  obtain ⟨c, hc, hblank⟩ := h
  obtain ⟨rest, rfl⟩ := List.head?_eq_some_iff.1 hc
  rw [List.dropWhile_cons, hblank]
  rfl

/-- **Trimming takes away exactly the blanks around a flush text.** -/
theorem Flush.trim_between (h : Flush cs) {before after : List Char}
    (hbefore : ∀ c ∈ before, isBlank c = true) (hafter : ∀ c ∈ after, isBlank c = true) :
    trim (before ++ (cs ++ after)) = cs := by
  have hfront : ∃ c, (cs ++ after).head? = some c ∧ isBlank c = false := by
    obtain ⟨c, hc, hblank⟩ := h.head
    exact ⟨c, by rw [List.head?_append, hc]; rfl, hblank⟩
  have hback : ∃ c, cs.reverse.head? = some c ∧ isBlank c = false := by
    rw [List.head?_reverse]
    exact h.last
  have hblanks : ∀ c ∈ after.reverse, isBlank c = true :=
    fun c hc ↦ hafter c (List.mem_reverse.1 hc)
  rw [trim, List.dropWhile_append_of_pos hbefore, dropWhile_isBlank_of_head hfront,
    List.reverse_append, List.dropWhile_append_of_pos hblanks, dropWhile_isBlank_of_head hback,
    List.reverse_reverse]

/-! ### Single-spaced texts -/

/-- All blanks of the text are spaces, and no two of them are neighbours. -/
structure SingleSpaced (cs : List Char) : Prop where
  space : ∀ c ∈ cs, isBlank c = true → c = ' '
  apart : cs.IsChain fun a b ↦ ¬(isBlank a = true ∧ isBlank b = true)

instance (cs : List Char) : Decidable (SingleSpaced cs) :=
  have hspace : cs.all (fun c ↦ !isBlank c || c == ' ') = true ↔
      ∀ c ∈ cs, isBlank c = true → c = ' ' := by
    simp only [List.all_eq_true, Bool.or_eq_true, Bool.not_eq_true', beq_iff_eq, imp_iff_not_or,
      Bool.not_eq_true]
  decidable_of_iff (cs.all (fun c ↦ !isBlank c || c == ' ') = true ∧
      cs.IsChain fun a b ↦ ¬(isBlank a = true ∧ isBlank b = true))
    ⟨fun h ↦ ⟨hspace.1 h.1, h.2⟩, fun h ↦ ⟨hspace.2 h.space, h.apart⟩⟩

/-- Where there are no blanks none can follow another. -/
theorem singleSpaced_of_forall (h : ∀ c ∈ cs, isBlank c = false) : SingleSpaced cs where
  space c hc hblank := by
    rw [h c hc] at hblank
    cases hblank
  apart := by
    induction cs with
    | nil => exact .nil
    | cons c cs ih =>
      obtain ⟨hc, hcs⟩ := List.forall_mem_cons.1 h
      exact List.isChain_cons.2 ⟨fun d _ ↦ by simp [hc], ih hcs⟩

/-- Single-spaced texts stay so unless they meet blank on blank. -/
theorem SingleSpaced.append (ha : SingleSpaced as) (hb : SingleSpaced bs)
    (h : Flush as ∨ Flush bs) : SingleSpaced (as ++ bs) where
  space := List.forall_mem_append.2 ⟨ha.space, hb.space⟩
  apart := by
    refine List.isChain_append.2 ⟨ha.apart, hb.apart, fun x hx y hy hblank ↦ ?_⟩
    rcases h with h | h
    · obtain ⟨c, hc, hnot⟩ := h.last
      obtain rfl := Option.some.inj (hc.symm.trans hx)
      exact Bool.false_ne_true (hnot.symm.trans hblank.1)
    · obtain ⟨c, hc, hnot⟩ := h.head
      obtain rfl := Option.some.inj (hc.symm.trans hy)
      exact Bool.false_ne_true (hnot.symm.trans hblank.2)

/-- Words around a text. -/
theorem SingleSpaced.between {v w : List Char} (hv : IsWord v) (h : SingleSpaced cs)
    (hw : IsWord w) : SingleSpaced (v ++ cs ++ w) :=
  ((singleSpaced_of_forall hv.2).append h (.inl hv.flush)).append (singleSpaced_of_forall hw.2)
    (.inr hw.flush)

/-- Flush texts in a row are single-spaced if each is, and what stands between them is. -/
theorem SingleSpaced.intercalate {sep : List Char} (hsep : SingleSpaced sep)
    {ts : List (List Char)} (hts : ∀ t ∈ ts, SingleSpaced t) (hflush : ∀ t ∈ ts, Flush t) :
    SingleSpaced (sep.intercalate ts) := by
  induction ts with
  | nil => exact singleSpaced_of_forall (List.forall_mem_nil _)
  | cons t ts ih =>
    obtain ⟨ht, hts⟩ := List.forall_mem_cons.1 hts
    obtain ⟨htflush, hflush⟩ := List.forall_mem_cons.1 hflush
    cases ts with
    | nil => rwa [List.intercalate_singleton]
    | cons u ts =>
      have hrest : Flush (sep.intercalate (u :: ts)) := .intercalate (List.cons_ne_nil _ _) hflush
      rw [List.intercalate_cons_cons]
      exact (ht.append hsep (.inl htflush)).append (ih hts hflush) (.inr hrest)

end BlockQuery.Text

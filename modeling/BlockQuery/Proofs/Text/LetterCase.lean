import BlockQuery.Proofs.Text.Comparison
import BlockQuery.Proofs.Text.Spacing

/-!
# Searching a text in any letter case

A text contains a query in any letter case if some part of it differs from the query at most in the
case of its letters. This is settled by putting both in lower case (`containsAnyCase_iff`). **It is
not settled by putting the query in lower case alone:** then a text that has capitals does not even
contain itself (`map_toLower_eq_self_of_trim_infix`).
-/

namespace BlockQuery.Text

variable {cs part text : List Char}

/-! ### Lower case of ASCII -/

/-- All characters of the text are ASCII. -/
def IsAscii (cs : List Char) : Prop :=
  ∀ c ∈ cs, c.toNat < 0x80

-- Decided over the text, and not over all characters, of which there are finitely many as well.
instance (cs : List Char) : Decidable (IsAscii cs) :=
  List.decidableBAll (fun c : Char ↦ c.toNat < 0x80) cs

/-- An ASCII letter has one lower-case letter, the usual one. -/
theorem lowerChar_of_ascii {c : Char} (hc : c.toNat < 0x80) : lowerChar c = [c.toLower] := by
  have hfirst : ∀ r ∈ otherRuns, 0x80 ≤ r.first := by decide +kernel
  have hother : otherRuns.findSome? (·.image? c) = none := by
    refine List.findSome?_eq_none_iff.2 fun r hr ↦ ?_
    have houtside : ¬r.first ≤ c.toNat := by
      have := hfirst r hr
      omega
    simp [LowerRun.image?, houtside]
  have hdot : c ≠ 'İ' := by
    rintro rfl
    exact absurd hc (by decide)
  rw [lowerChar, if_neg hdot, toLower_eq_image?_latinRun, lowerRuns_eq_cons, List.findSome?_cons,
    hother]
  cases latinRun.image? c <;> rfl

/-- **In an ASCII text every letter has its own lower case,** whatever stands around it. -/
theorem lowerAfter_of_isAscii (h : IsAscii cs) (before : List Char) :
    lowerAfter before cs = cs.map Char.toLower := by
  induction cs generalizing before with
  | nil => rfl
  | cons c cs ih =>
    obtain ⟨hc, hcs⟩ := List.forall_mem_cons.1 h
    have hsigma : c ≠ 'Σ' := by
      rintro rfl
      exact absurd hc (by decide)
    rw [lowerAfter_cons hsigma, lowerChar_of_ascii hc, ih hcs, List.map_cons, List.singleton_append]

/-- No letter from outside ASCII gets into it by lower case. -/
theorem IsAscii.of_map_toLower (h : IsAscii (cs.map Char.toLower)) : IsAscii cs := by
  intro c hc
  by_contra hhigh
  have hlow := h _ (List.mem_map_of_mem hc)
  rw [toLower_eq_self (Nat.not_lt.1 hhigh)] at hlow
  exact hhigh hlow

theorem IsAscii.map_toLower (h : IsAscii cs) : IsAscii (cs.map Char.toLower) := by
  have hall := forall_ascii (P := fun c ↦ c.toLower.toNat < 0x80) (by decide)
  exact List.forall_mem_map.2 fun c hc ↦ hall c (h c hc)

theorem toList_lower (s : String) : (lower s).toList = lowerAfter [] s.toList :=
  String.toList_ofList

/-! ### Lower case and blanks -/

theorem toLower_toLower (c : Char) : c.toLower.toLower = c.toLower := by
  by_cases hc : c.toNat < 0x80
  · exact forall_ascii (P := fun c ↦ c.toLower.toLower = c.toLower) (by decide) c hc
  · rw [toLower_eq_self (Nat.not_lt.1 hc), toLower_eq_self (Nat.not_lt.1 hc)]

theorem map_toLower_map_toLower (cs : List Char) :
    (cs.map Char.toLower).map Char.toLower = cs.map Char.toLower := by
  rw [List.map_map]
  exact List.map_congr_left fun c _ ↦ toLower_toLower c

/-- No blank is a letter, in either case. -/
theorem isBlank_toLower (c : Char) :
    isBlank c.toLower = isBlank c ∧ (isBlank c = true → c.toLower = c) := by
  by_cases hc : c.toNat < 0x80
  · refine forall_ascii (P := fun c ↦ isBlank c.toLower = isBlank c ∧
      (isBlank c = true → c.toLower = c)) ?_ c hc
    decide +kernel
  · simp [toLower_eq_self (Nat.not_lt.1 hc)]

/-- What is left of a text without the blanks around it is a part of the text. -/
theorem trim_infix (cs : List Char) : trim cs <:+: cs := by
  have hfront : trim cs <+: cs.dropWhile isBlank := List.rdropWhile_prefix isBlank _
  exact hfront.isInfix.trans (List.dropWhile_suffix _).isInfix

/-- Blanks have no case, so they may be taken off first. -/
theorem trim_map_toLower (cs : List Char) :
    trim (cs.map Char.toLower) = (trim cs).map Char.toLower := by
  have hblank : isBlank ∘ Char.toLower = isBlank := funext fun c ↦ (isBlank_toLower c).1
  simp only [trim, List.dropWhile_map, hblank, ← List.map_reverse]

/-! ### Parts of a text -/

/-- The search for a part finds it exactly if it stands somewhere in one piece. -/
theorem occursIn_iff : occursIn part text = true ↔ part <:+: text := by
  induction text with
  | nil => rw [occursIn, List.isEmpty_iff, List.infix_nil]
  | cons c text ih =>
    rw [occursIn, Bool.or_eq_true, List.isPrefixOf_iff_prefix, ih, List.infix_cons_iff]

/-- The text has a part that differs from this one at most in the case of its letters. -/
def ContainsAnyCase (text part : List Char) : Prop :=
  ∃ run, run <:+: text ∧ run.map Char.toLower = part.map Char.toLower

/-- Letter case is settled by putting both texts in lower case. -/
theorem containsAnyCase_iff :
    ContainsAnyCase text part ↔ part.map Char.toLower <:+: text.map Char.toLower := by
  rw [List.infix_map_iff, ContainsAnyCase]
  simp only [eq_comm]

instance (text part : List Char) : Decidable (ContainsAnyCase text part) :=
  decidable_of_iff (occursIn (part.map Char.toLower) (text.map Char.toLower) = true)
    (occursIn_iff.trans containsAnyCase_iff.symm)

/-- A part that is found in lower case is found in any case. -/
theorem ContainsAnyCase.of_infix (h : part.map Char.toLower <:+: text) :
    ContainsAnyCase text part :=
  ⟨_, h, map_toLower_map_toLower part⟩

theorem ContainsAnyCase.trans {cs : List Char} (h : ContainsAnyCase text part)
    (h' : ContainsAnyCase part cs) : ContainsAnyCase text cs :=
  containsAnyCase_iff.2 ((containsAnyCase_iff.1 h').trans (containsAnyCase_iff.1 h))

/-- What does not start with a blank is not reached by dropping the blanks in front. -/
theorem infix_dropWhile_isBlank (hpart : ∃ c, part.head? = some c ∧ isBlank c = false)
    (h : part <:+: text) : part <:+: text.dropWhile isBlank := by
  obtain ⟨c, hc, hblank⟩ := hpart
  induction text with
  | nil => exact h
  | cons d text ih =>
    cases hd : isBlank d with
    | false => rwa [List.dropWhile_cons_of_neg (by simp [hd])]
    | true =>
      rw [List.dropWhile_cons_of_pos hd]
      refine ih ((List.infix_cons_iff.1 h).resolve_left fun hprefix ↦ ?_)
      -- a part in front would start with the blank
      obtain ⟨rest, hrest⟩ := hprefix
      have hhead : some c = some d := by
        rw [← hc, ← List.head?_cons, ← hrest, List.head?_append, hc, Option.some_or]
      obtain rfl := Option.some.inj hhead
      rw [hblank] at hd
      cases hd

/-- A part that is flush is not reached by trimming. -/
theorem Flush.infix_trim (hpart : Flush part) (h : part <:+: text) : part <:+: trim text := by
  have hfront := List.reverse_infix.2 (infix_dropWhile_isBlank hpart.head h)
  have hlast : ∃ c, part.reverse.head? = some c ∧ isBlank c = false := by
    rw [List.head?_reverse]
    exact hpart.last
  rw [← List.reverse_infix, trim, List.reverse_reverse]
  exact infix_dropWhile_isBlank hlast hfront

/-- Blanks around a text do not help to find what is trimmed. -/
theorem ContainsAnyCase.trim_left (h : ContainsAnyCase text (trim part)) :
    ContainsAnyCase (trim text) (trim part) := by
  rw [containsAnyCase_iff, ← trim_map_toLower] at h ⊢
  rw [← trim_map_toLower]
  by_cases hpart : trim (part.map Char.toLower) = []
  · rw [hpart]
    exact List.nil_infix
  · exact (flush_trim hpart).infix_trim h

/-- **Only a text without capitals contains itself in lower case,** trimmed or not. -/
theorem map_toLower_eq_self_of_trim_infix (h : (trim text).map Char.toLower <:+: text) :
    text.map Char.toLower = text := by
  have hblank : (!isBlank ·) ∘ Char.toLower = (!isBlank ·) :=
    funext fun c ↦ by simp [(isBlank_toLower c).1]
  -- the part has as many characters that are not blank as the text, so it has all of them
  have hall : (text.filter (!isBlank ·)).map Char.toLower = text.filter (!isBlank ·) := by
    have hsub := h.sublist.filter (!isBlank ·)
    rw [List.filter_map, hblank, filter_trim] at hsub
    exact hsub.eq_of_length (List.length_map _)
  have hself : ∀ c ∈ text, c.toLower = c := by
    intro c hc
    cases hc' : isBlank c with
    | true => exact (isBlank_toLower c).2 hc'
    | false =>
      have hmem : c ∈ text.filter (!isBlank ·) := List.mem_filter.2 ⟨hc, by simp [hc']⟩
      exact List.map_inj_left.1 (hall.trans (List.map_id _).symm) c hmem
  exact (List.map_congr_left hself).trans (List.map_id text)

end BlockQuery.Text

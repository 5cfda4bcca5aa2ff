import BlockQuery.Proofs.Text.Words
import BlockQuery.Query.Basic

/-!
# What fragments look like

A fragment is never the empty text. That is what allows a query to be put together in two steps,
within each half and then across the halves, without a stray separator.

Values contribute only what is there: neither a trimmed text that counts nor a term between blanks
is empty. The one rule that could write nothing is a fixed text, and no type has the empty one.
-/

namespace BlockQuery

/-! ### Trimmed values and terms -/

namespace Text

/-- A value counts as what is left of it without the blanks around it, if anything is. -/
theorem nonBlank?_eq_some_iff {s t : String} :
    nonBlank? s = some t ↔ trim s.toList ≠ [] ∧ trimmed s = t := by
  unfold nonBlank?
  split
  · next h => simp [h]
  · next h => simp [h]

theorem ne_empty_of_nonBlank? {s t : String} (h : nonBlank? s = some t) : t ≠ "" := by
  obtain ⟨hne, rfl⟩ := nonBlank?_eq_some_iff.1 h
  rwa [ne_eq, ← String.toList_eq_nil_iff, toList_trimmed]

/-- No term is empty. -/
theorem ne_empty_of_mem_terms {s t : String} (h : t ∈ terms s) : t ≠ "" := by
  rw [ne_eq, ← String.toList_eq_nil_iff]
  exact (isTerm_of_mem_terms h).1

end Text

/-- Joining texts yields nothing only if there is at most one text, and that is empty. -/
theorem intercalate_ne_empty {sep : String} {ts : List String} (hne : ts ≠ [])
    (h : ∀ t ∈ ts, t ≠ "") : String.intercalate sep ts ≠ "" := by
  obtain ⟨t, ts, rfl⟩ := List.exists_cons_of_ne_nil hne
  have ht : t ≠ "" := h t (List.mem_cons_self ..)
  cases ts with
  | nil => rwa [String.intercalate_singleton]
  | cons u ts =>
    rw [String.intercalate_cons_cons]
    intro hempty
    simp_all

/-! ### No fragment is empty -/

namespace Fragment

theorem ne_empty_of_tagged {mark value f : String} (h : tagged mark value = some f) : f ≠ "" := by
  obtain ⟨t, ht, rfl⟩ := Option.map_eq_some_iff.1 h
  have hne := Text.ne_empty_of_nonBlank? ht
  simp [hne]

/-- What the terms of a value make is made of terms, and of at least one. -/
theorem exists_terms_of_ofTerms {join : List String → String} {value f : String}
    (h : ofTerms join (Text.terms value) = some f) :
    ∃ ts, ts ≠ [] ∧ (∀ t ∈ ts, Text.IsTerm t) ∧ join ts = f := by
  unfold ofTerms at h
  split at h
  · cases h
  · next hne =>
    exact ⟨_, by simpa using hne, fun t ↦ Text.isTerm_of_mem_terms, Option.some.inj h⟩

/-- Each term is written behind its mark, so there is something to read. -/
theorem ne_empty_of_eachTerm {mark value f : String} (h : eachTerm mark value = some f) :
    f ≠ "" := by
  obtain ⟨ts, hne, hts, rfl⟩ := exists_terms_of_ofTerms h
  refine intercalate_ne_empty (by simpa using hne) (List.forall_mem_map.2 fun t ht ↦ ?_)
  have hterm : t ≠ "" := String.toList_eq_nil_iff.not.1 (hts t ht).1
  simp [hterm]

/-- Two parentheses are there in any case. -/
theorem oneOf_ne_empty (ts : List String) : oneOf ts ≠ "" := by
  simp [oneOf]

theorem ne_empty_of_anyTerm {mark value f : String} (h : anyTerm mark value = some f) :
    f ≠ "" := by
  obtain ⟨ts, -, -, rfl⟩ := exists_terms_of_ofTerms h
  exact oneOf_ne_empty _

/-- One alternative stands alone and several in parentheses, but none is never written. -/
theorem ne_empty_of_alternatives {value f : String} (h : alternatives value = some f) :
    f ≠ "" := by
  unfold alternatives at h
  split at h
  · simp at h
  · next t ht =>
    obtain rfl := Option.some.inj h
    exact Text.ne_empty_of_mem_terms (s := value) (by simp [ht])
  · obtain rfl := Option.some.inj h
    exact oneOf_ne_empty _

end Fragment

/-- A rule writes nothing only if it is a fixed text without characters. -/
theorem Rule.ne_empty_of_fragment? {rule : Rule} {value f : String}
    (h : rule.fragment? value = some f) (hrule : rule ≠ .fixed "") : f ≠ "" := by
  cases rule with
  | verbatim => exact Text.ne_empty_of_nonBlank? h
  | phrase =>
    obtain ⟨t, -, rfl⟩ := Option.map_eq_some_iff.1 h
    simp [toString]
  | alternatives => exact Fragment.ne_empty_of_alternatives h
  | eachTerm mark => exact Fragment.ne_empty_of_eachTerm h
  | anyTerm mark => exact Fragment.ne_empty_of_anyTerm h
  | tagged mark => exact Fragment.ne_empty_of_tagged h
  | fixed text =>
    obtain rfl := Option.some.inj h
    simpa using hrule

/-- The rule of a type is in the table. -/
theorem mem_rules_of_ruleOf? {type : String} {rule : Rule} (h : ruleOf? type = some rule) :
    (type, rule) ∈ rules := by
  obtain ⟨before, after, hsplit, -⟩ := List.lookup_eq_some_iff.1 h
  exact hsplit ▸ List.mem_append_right _ (List.mem_cons_self ..)

/-- **No rule of the table is the one that would write nothing.** -/
theorem ne_fixed_empty_of_ruleOf? {type : String} {rule : Rule} (h : ruleOf? type = some rule) :
    rule ≠ .fixed "" := by
  have hrules : ∀ p ∈ rules, p.2 ≠ .fixed "" := by decide
  exact hrules (type, rule) (mem_rules_of_ruleOf? h)

/-- A block has a fragment or none, and not an empty one. -/
theorem ne_empty_of_fragment? {type value f : String} {second : Option String}
    (h : fragment? type value second = some f) : f ≠ "" := by
  obtain ⟨rule, hrule, hf⟩ := Option.bind_eq_some_iff.1 h
  exact rule.ne_empty_of_fragment? hf (ne_fixed_empty_of_ruleOf? hrule)

end BlockQuery

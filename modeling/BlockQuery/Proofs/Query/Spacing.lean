import BlockQuery.Proofs.Query.Order
import BlockQuery.Proofs.Query.Value
import BlockQuery.Proofs.Text.Spacing

/-!
# No stray separators

A query has no blanks at its ends. Between them it has single spaces, and whatever blanks its values
bring in: values that are split into terms bring in none, so only those that are quoted as a whole
can.

Everything rests on what one fragment is like. **A fragment is flush whatever the value is**: a
trimmed value is, and so is a term, and no mark has blanks of its own. So the single spaces between
fragments stay single.
-/

namespace BlockQuery

/-! ### Texts that are flush and single-spaced -/

namespace Text

/-- What is left of a value that is not blank is flush. -/
theorem flush_of_nonBlank? {s t : String} (h : nonBlank? s = some t) : Flush t.toList := by
  obtain ⟨hne, rfl⟩ := nonBlank?_eq_some_iff.1 h
  rw [toList_trimmed]
  exact flush_trim hne

/-- A flush value is taken as it is. -/
theorem nonBlank?_of_flush {s : String} (h : Flush s.toList) : nonBlank? s = some s := by
  have htrim : trim s.toList = s.toList := by
    simpa using h.trim_between (List.forall_mem_nil _) (List.forall_mem_nil _)
  obtain ⟨c, hc, -⟩ := h.head
  refine nonBlank?_eq_some_iff.2 ⟨?_, ?_⟩
  · rw [htrim]
    exact List.ne_nil_of_mem (List.mem_of_mem_head? hc)
  · rw [trimmed, htrim, String.ofList_toList]

theorem singleSpaced_of_nonBlank? {s t : String} (h : nonBlank? s = some t)
    (hs : SingleSpaced (trim s.toList)) : SingleSpaced t.toList := by
  obtain ⟨-, rfl⟩ := nonBlank?_eq_some_iff.1 h
  rwa [toList_trimmed]

/-- Flush texts in a row are flush. -/
theorem flush_intercalate (sep : String) {ts : List String} (hne : ts ≠ [])
    (hts : ∀ t ∈ ts, Flush t.toList) : Flush (sep.intercalate ts).toList := by
  rw [String.toList_intercalate]
  exact .intercalate (by simpa using hne) (List.forall_mem_map.2 hts)

/-- A single-spaced separator keeps flush texts single-spaced. -/
theorem singleSpaced_intercalate {sep : String} (hsep : SingleSpaced sep.toList) {ts : List String}
    (hts : ∀ t ∈ ts, SingleSpaced t.toList) (hflush : ∀ t ∈ ts, Flush t.toList) :
    SingleSpaced (sep.intercalate ts).toList := by
  rw [String.toList_intercalate]
  exact hsep.intercalate (List.forall_mem_map.2 hts) (List.forall_mem_map.2 hflush)

/-- Terms have no blanks, so only the separator counts. -/
theorem singleSpaced_intercalate_terms {sep : String} (hsep : SingleSpaced sep.toList)
    {ts : List String} (hts : ∀ t ∈ ts, IsTerm t) : SingleSpaced (sep.intercalate ts).toList :=
  singleSpaced_intercalate hsep (fun t ht ↦ singleSpaced_of_forall (hts t ht).2)
    fun t ht ↦ (hts t ht).flush

end Text

open Text

/-! ### Fragments -/

namespace Fragment

variable {ts : List String} {value f : String}

theorem toList_oneOf (ts : List String) :
    (oneOf ts).toList = ['('] ++ (" OR ".intercalate ts).toList ++ [')'] := by
  rw [oneOf, String.toList_append, String.toList_append]
  rfl

/-- A list of alternatives opens and closes with a parenthesis, whatever stands in it. -/
theorem flush_oneOf (ts : List String) : Flush (oneOf ts).toList := by
  have hopen : IsWord ['('] := by decide
  have hclose : IsWord [')'] := by decide
  rw [toList_oneOf]
  exact hopen.flush.append _ hclose.flush

theorem singleSpaced_oneOf (hts : ∀ t ∈ ts, IsTerm t) : SingleSpaced (oneOf ts).toList := by
  rw [toList_oneOf]
  exact .between (by decide) (singleSpaced_intercalate_terms (by decide) hts) (by decide)

/-- With or without parentheses, alternatives have no blanks around them. -/
theorem flush_joinAlternatives (hts : ∀ t ∈ ts, IsTerm t) : Flush (joinAlternatives ts).toList := by
  match ts with
  | [t] => exact (hts t (List.mem_singleton_self t)).flush
  | [] | _ :: _ :: _ => exact flush_oneOf _

theorem singleSpaced_joinAlternatives (hts : ∀ t ∈ ts, IsTerm t) :
    SingleSpaced (joinAlternatives ts).toList := by
  match ts with
  | [t] => exact singleSpaced_of_forall (hts t (List.mem_singleton_self t)).2
  | [] | _ :: _ :: _ => exact singleSpaced_oneOf hts

theorem toList_quoted (t : String) : s!"\"{t}\"".toList = ['"'] ++ t.toList ++ ['"'] := by
  simp [toString]

end Fragment

namespace Rule

open Fragment

variable {rule : Rule} {value f : String}

/-- **A fragment is flush,** whatever the value is. -/
theorem flush_of_fragment? (h : rule.fragment? value = some f)
    (hown : ∀ c ∈ rule.ownText.toList, isBlank c = false) (hrule : rule ≠ .fixed "") :
    Flush f.toList := by
  cases rule with
  | verbatim => exact flush_of_nonBlank? h
  | phrase =>
    have hquote : IsWord ['"'] := by decide
    obtain ⟨t, -, rfl⟩ := Option.map_eq_some_iff.1 h
    rw [toList_quoted]
    exact hquote.flush.append _ hquote.flush
  | alternatives =>
    rw [fragment?, alternatives_eq_ofTerms] at h
    obtain ⟨ts, -, hts, rfl⟩ := exists_terms_of_ofTerms h
    exact flush_joinAlternatives hts
  | eachTerm mark =>
    rw [fragment?, Fragment.eachTerm] at h
    obtain ⟨ts, hne, hts, rfl⟩ := exists_terms_of_ofTerms h
    refine flush_intercalate " " (by simpa using hne) fun u hu ↦ ?_
    exact (isTerm_of_mem_map_append hown hts u hu).flush
  | anyTerm mark =>
    rw [fragment?, Fragment.anyTerm] at h
    obtain ⟨ts, -, -, rfl⟩ := exists_terms_of_ofTerms h
    exact flush_oneOf _
  | tagged mark =>
    obtain ⟨t, ht, rfl⟩ := Option.map_eq_some_iff.1 h
    rw [String.toList_append]
    exact .append_left hown (flush_of_nonBlank? ht)
  | fixed text =>
    obtain rfl := Option.some.inj h
    exact IsWord.flush ⟨by simpa using hrule, hown⟩

/-- A fragment is single-spaced if the value is, where the rule quotes it. -/
theorem singleSpaced_of_fragment? (h : rule.fragment? value = some f)
    (hown : ∀ c ∈ rule.ownText.toList, isBlank c = false)
    (hvalue : rule.quotesValue = true → SingleSpaced (trim value.toList)) :
    SingleSpaced f.toList := by
  cases rule with
  | verbatim => exact singleSpaced_of_nonBlank? h (hvalue rfl)
  | phrase =>
    obtain ⟨t, ht, rfl⟩ := Option.map_eq_some_iff.1 h
    rw [toList_quoted]
    exact .between (by decide) (singleSpaced_of_nonBlank? ht (hvalue rfl)) (by decide)
  | alternatives =>
    rw [fragment?, alternatives_eq_ofTerms] at h
    obtain ⟨ts, -, hts, rfl⟩ := exists_terms_of_ofTerms h
    exact singleSpaced_joinAlternatives hts
  | eachTerm mark =>
    rw [fragment?, Fragment.eachTerm] at h
    obtain ⟨ts, -, hts, rfl⟩ := exists_terms_of_ofTerms h
    exact singleSpaced_intercalate_terms (by decide) (isTerm_of_mem_map_append hown hts)
  | anyTerm mark =>
    rw [fragment?, Fragment.anyTerm] at h
    obtain ⟨ts, -, hts, rfl⟩ := exists_terms_of_ofTerms h
    exact singleSpaced_oneOf (isTerm_of_mem_map_append hown hts)
  | tagged mark =>
    obtain ⟨t, ht, rfl⟩ := Option.map_eq_some_iff.1 h
    rw [String.toList_append]
    exact (singleSpaced_of_forall hown).append (singleSpaced_of_nonBlank? ht (hvalue rfl))
      (.inr (flush_of_nonBlank? ht))
  | fixed text =>
    obtain rfl := Option.some.inj h
    exact singleSpaced_of_forall hown

end Rule

/-! ### Queries -/

/-- The types whose values are quoted as a whole. -/
def quotedTypes : List String :=
  ["all-words", "exact-phrase", "list", "url", "since", "until", "min-retweets", "min-faves",
    "min-replies"]

/-- The types that take their value as it is are those nine. -/
theorem mem_quotedTypes_of_quotesValue {type : String} {rule : Rule} (h : ruleOf? type = some rule)
    (hquotes : rule.quotesValue = true) : type ∈ quotedTypes := by
  have hrules : ∀ p ∈ rules, p.2.quotesValue = true → p.1 ∈ quotedTypes := by decide
  exact hrules _ (mem_rules_of_ruleOf? h) hquotes

/-- **Every fragment of a block is flush,** because no rule writes a blank of its own around one. -/
theorem Block.flush_of_fragment? {b : Block} {f : String} (h : b.fragment? = some f) :
    Flush f.toList := by
  obtain ⟨rule, hrule, hf⟩ := Option.bind_eq_some_iff.1 h
  exact rule.flush_of_fragment? hf (fun _ ↦ isBlank_of_mem_ownText hrule)
    (ne_fixed_empty_of_ruleOf? hrule)

/-- Only blocks that take their value as it is can have two blanks in a row. -/
theorem Block.singleSpaced_of_fragment? {b : Block} {f : String} (h : b.fragment? = some f)
    (hvalue : b.type ∈ quotedTypes → SingleSpaced (trim b.value.toList)) :
    SingleSpaced f.toList := by
  obtain ⟨rule, hrule, hf⟩ := Option.bind_eq_some_iff.1 h
  exact rule.singleSpaced_of_fragment? hf (fun _ ↦ isBlank_of_mem_ownText hrule)
    fun hquotes ↦ hvalue (mem_quotedTypes_of_quotesValue hrule hquotes)

namespace Registry

/-- **No stray separators.** The query of any blocks, for any registry, is empty or flush. If the
trimmed values of blocks that quote theirs as a whole are single-spaced, the query is too. -/
theorem compile_flush_singleSpaced (r : Registry) (bs : List Block) :
    (r.compile bs = "" ∨ Flush (r.compile bs).toList) ∧
      ((∀ b ∈ bs, b.type ∈ quotedTypes → SingleSpaced (trim b.value.toList)) →
        SingleSpaced (r.compile bs).toList) := by
  have hfragment : ∀ f ∈ (sortOn r.rank bs).filterMap Block.fragment?,
      ∃ b ∈ bs, b.fragment? = some f := by
    intro f hf
    obtain ⟨b, hb, hbf⟩ := List.mem_filterMap.1 hf
    exact ⟨b, (sortOn_perm r.rank bs).mem_iff.1 hb, hbf⟩
  have hflush : ∀ f ∈ (sortOn r.rank bs).filterMap Block.fragment?, Flush f.toList := by
    intro f hf
    obtain ⟨b, -, hbf⟩ := hfragment f hf
    exact b.flush_of_fragment? hbf
  rw [compile_eq_intercalate]
  constructor
  · by_cases hne : (sortOn r.rank bs).filterMap Block.fragment? = []
    · rw [hne]
      exact .inl String.intercalate_nil
    · exact .inr (flush_intercalate " " hne hflush)
  · intro hvalues
    refine singleSpaced_intercalate (by decide) (fun f hf ↦ ?_) hflush
    obtain ⟨b, hb, hbf⟩ := hfragment f hf
    exact b.singleSpaced_of_fragment? hbf (hvalues b hb)

/-- Line breaks and an ideographic space where terms are split, blanks around a date, single spaces
in a phrase, a value that is blank, and a type without a rule. -/
theorem compile_flush_singleSpaced_lineBreaks :
    ∃ bs, (∀ b ∈ bs, b.type ∈ quotedTypes → SingleSpaced (trim b.value.toList)) ∧
      builtin.compile bs = "\"to the moon\" (from:esa OR from:jaxa OR from:nasa) since:2024-03-21" ∧
      SingleSpaced (builtin.compile bs).toList := by
  let bs := builtin.instantiate (fun _ ↦ ⟨0⟩)
    [⟨"from", "\nesa\u3000 jaxa\r\nnasa", none, none⟩, ⟨"since", " 2024-03-21\t", none, none⟩,
      ⟨"url", "\u2003", none, none⟩, ⟨"near", "a  b", none, none⟩,
      ⟨"exact-phrase", " to the moon", none, none⟩]
  have hvalues : ∀ b ∈ bs, b.type ∈ quotedTypes → SingleSpaced (trim b.value.toList) := by
    decide +kernel
  exact ⟨bs, hvalues, by decide +kernel, (compile_flush_singleSpaced builtin bs).2 hvalues⟩

end Registry

end BlockQuery

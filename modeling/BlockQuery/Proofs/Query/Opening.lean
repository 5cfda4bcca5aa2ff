import BlockQuery.Proofs.Query.Spacing

/-!
# How a query opens

A query starts with the fragment of its leading block, the first one that has any in the order of
the query. Most rules write something of their own in front of a value: a quotation mark, a
parenthesis, or the mark of the type. **Only two rules let a value open its fragment**: the one that
takes it as it is, and the one for alternatives where there is but one. No rule writes a brace of
its own. So a query opens a brace exactly if its leading block echoes one
(`head?_compile_eq_brace_iff`).
-/

namespace BlockQuery

open Text

/-- What is joined opens as its first text does. -/
theorem head?_intercalate_cons {t : String} {c : Char} (ht : t.toList.head? = some c) (sep : String)
    (ts : List String) : (sep.intercalate (t :: ts)).toList.head? = some c := by
  rcases ts with _ | ⟨u, ts⟩
  · rwa [String.intercalate_singleton]
  · simp [String.intercalate_cons_cons, List.head?_append, ht]

/-! ### Fragments -/

namespace Fragment

/-- Several alternatives are put in parentheses, and a single one is not. -/
theorem head?_alternatives_eq_brace_iff {value f : String}
    (h : alternatives value = some f) :
    f.toList.head? = some '\x7b' ↔ ∃ t, terms value = [t] ∧ t.toList.head? = some '\x7b' := by
  unfold alternatives at h
  split at h
  · cases h
  · next t ht =>
    obtain rfl := Option.some.inj h
    simp [ht]
  · next hseveral =>
    obtain rfl := Option.some.inj h
    rw [toList_oneOf]
    exact iff_of_false (by simp) fun ⟨t, ht, _⟩ ↦ hseveral t ht

end Fragment

namespace Rule

/-- The character in front of whatever the value is. -/
def opening? : Rule → Option Char
  | verbatim | alternatives => none
  | phrase => some '"'
  | anyTerm _ => some '('
  | eachTerm mark | tagged mark => mark.toList.head?
  | fixed text => text.toList.head?

/-- What a rule opens with it opens with in every fragment. -/
theorem head?_of_opening? {rule : Rule} {value f : String} {c : Char}
    (h : rule.fragment? value = some f) (hc : rule.opening? = some c) :
    f.toList.head? = some c := by
  cases rule with
  | verbatim | alternatives => cases hc
  | phrase =>
    obtain rfl := Option.some.inj hc
    obtain ⟨t, -, rfl⟩ := Option.map_eq_some_iff.1 h
    rw [Fragment.toList_quoted]
    rfl
  | anyTerm mark =>
    obtain rfl := Option.some.inj hc
    rw [fragment?, Fragment.anyTerm] at h
    obtain ⟨ts, -, -, rfl⟩ := Fragment.exists_terms_of_ofTerms h
    rw [Fragment.toList_oneOf]
    rfl
  | eachTerm mark =>
    rw [fragment?, Fragment.eachTerm] at h
    obtain ⟨ts, hne, -, rfl⟩ := Fragment.exists_terms_of_ofTerms h
    obtain ⟨t, ts, rfl⟩ := List.exists_cons_of_ne_nil hne
    have hmark : (mark ++ t).toList.head? = some c := by
      rw [String.toList_append, List.head?_append, show mark.toList.head? = some c from hc]
      rfl
    exact head?_intercalate_cons hmark " " _
  | tagged mark =>
    obtain ⟨t, -, rfl⟩ := Option.map_eq_some_iff.1 h
    rw [String.toList_append, List.head?_append, show mark.toList.head? = some c from hc]
    rfl
  | fixed text =>
    obtain rfl := Option.some.inj h
    exact hc

end Rule

namespace Block

/-- The block writes a value that opens a brace, with nothing in front of it. -/
def EchoesBrace (b : Block) : Prop :=
  b.type = "all-words" ∧ (trimmed b.value).toList.head? = some '\x7b' ∨
    b.type = "or" ∧ ∃ t, terms b.value = [t] ∧ t.toList.head? = some '\x7b'

variable {b : Block} {f : String}

/-- **A fragment opens a brace exactly if it is a value that does.** -/
theorem head?_fragment?_eq_brace_iff (h : b.fragment? = some f) :
    f.toList.head? = some '\x7b' ↔ b.EchoesBrace := by
  obtain ⟨rule, hrule, hf⟩ := Option.bind_eq_some_iff.1 h
  have hrules : ∀ p ∈ rules, p = ("all-words", .verbatim) ∨ p = ("or", .alternatives) ∨
      p.1 ≠ "all-words" ∧ p.1 ≠ "or" ∧ p.2.opening?.isSome ∧ p.2.opening? ≠ some '\x7b' := by
    decide
  rcases hrules _ (mem_rules_of_ruleOf? hrule) with hp | hp | ⟨hwords, hor, hsome, hbrace⟩
  · obtain ⟨htype, rfl⟩ := Prod.mk.inj hp
    obtain ⟨-, rfl⟩ := nonBlank?_eq_some_iff.1 hf
    simp [EchoesBrace, htype]
  · obtain ⟨htype, rfl⟩ := Prod.mk.inj hp
    rw [Fragment.head?_alternatives_eq_brace_iff hf]
    simp [EchoesBrace, htype]
  · obtain ⟨c, hc⟩ := Option.isSome_iff_exists.1 hsome
    rw [Rule.head?_of_opening? hf hc, ← hc]
    simp [EchoesBrace, hwords, hor, hbrace]

end Block

/-! ### Queries -/

namespace Registry

variable (r : Registry) (bs : List Block)

/-- A query has no blanks around it. -/
theorem compile_eq_empty_or_flush : r.compile bs = "" ∨ Flush (r.compile bs).toList := by
  rw [compile_eq_intercalate]
  by_cases hsilent : (sortOn r.rank bs).filterMap Block.fragment? = []
  · rw [hsilent]
    exact .inl String.intercalate_nil
  · refine .inr (flush_intercalate " " hsilent fun f hf ↦ ?_)
    obtain ⟨b, -, hb⟩ := List.mem_filterMap.1 hf
    exact b.flush_of_fragment? hb

/-- The first block of a query that contributes to it. -/
def leading? : Option Block :=
  (sortOn r.rank bs).find? (·.fragment?.isSome)

variable {r bs} in
theorem mem_of_mem_leading? {b : Block} (h : b ∈ r.leading? bs) : b ∈ bs :=
  (sortOn_perm r.rank bs).mem_iff.1 (List.mem_of_find?_eq_some h)

/-- **A query opens a brace exactly if its leading block does.** -/
theorem head?_compile_eq_brace_iff :
    (r.compile bs).toList.head? = some '\x7b' ↔ ∃ b ∈ r.leading? bs, b.EchoesBrace := by
  rw [compile_eq_intercalate]
  rcases hleading : r.leading? bs with _ | b
  · have hsilent : (sortOn r.rank bs).filterMap Block.fragment? = [] :=
      List.filterMap_eq_nil_iff.2 fun b hb ↦ by simpa using List.find?_eq_none.1 hleading b hb
    rw [hsilent, String.intercalate_nil]
    simp
  · obtain ⟨hsome, before, after, hsplit, hbefore⟩ := List.find?_eq_some_iff_append.1 hleading
    obtain ⟨f, hf⟩ := Option.isSome_iff_exists.1 hsome
    obtain ⟨c, hc, -⟩ := (b.flush_of_fragment? hf).head
    have hsilent : before.filterMap Block.fragment? = [] :=
      List.filterMap_eq_nil_iff.2 fun b hb ↦ by simpa using hbefore b hb
    have hfragments : (sortOn r.rank bs).filterMap Block.fragment? =
        f :: after.filterMap Block.fragment? := by
      rw [hsplit, List.filterMap_append, hsilent, List.nil_append, List.filterMap_cons_some hf]
    rw [hfragments, head?_intercalate_cons hc, ← hc, Block.head?_fragment?_eq_brace_iff hf]
    simp

end Registry

end BlockQuery

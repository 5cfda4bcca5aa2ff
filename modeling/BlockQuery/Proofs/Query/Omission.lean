import BlockQuery.Proofs.Query.Entries
import BlockQuery.Proofs.Query.Fragment
import BlockQuery.Proofs.Registry.Resolve
import BlockQuery.Proofs.Text.Comparison

/-!
# Blocks without a fragment

Two tables have a say in whether a block contributes to a query. The flag of its kind says whether
the block needs a value. The rule of its type says what is made of the value, and does not ask for
the flag. They agree where the flag fits the rule (`Kind.FitsRule`): a rule that reads the value
yields nothing exactly of a blank one, and a rule that does not read the value always yields
something.

Rules look for blanks in two ways: some trim the value, some split it into terms. **Both leave
nothing exactly if there is nothing but blanks** (`trim_eq_nil_iff`, `words_eq_nil_iff`).

In the built-in registry all flags fit, and it has a kind for every rule. So there the catalogue
tells which blocks are silent.
-/

namespace BlockQuery

/-! ### Nothing but blanks -/

namespace Text

theorem allBlank_iff {s : String} : allBlank s = true ↔ ∀ c ∈ s.toList, isBlank c = true :=
  List.all_eq_true

/-- Nothing is left of a text without the blanks around it exactly if there is nothing else. -/
theorem trim_eq_nil_iff {cs : List Char} : trim cs = [] ↔ ∀ c ∈ cs, isBlank c = true := by
  constructor
  · intro h c hc
    by_contra hblank
    have htrim := mem_trim_of_isBlank_eq_false hc (Bool.eq_false_iff.2 hblank)
    rw [h] at htrim
    exact List.not_mem_nil htrim
  · intro h
    rw [trim, List.dropWhile_eq_nil_iff.2 h]
    rfl

theorem nonBlank?_eq_none_iff {s : String} : nonBlank? s = none ↔ allBlank s = true := by
  rw [allBlank_iff, ← trim_eq_nil_iff, nonBlank?]
  split
  · next h => simp [h]
  · next h => simp [h]

/-- Blank texts are those without terms. -/
theorem terms_eq_nil_iff {s : String} : terms s = [] ↔ allBlank s = true := by
  rw [allBlank_iff, ← words_eq_nil_iff, terms, List.map_eq_nil_iff]

end Text

theorem Block.hasValue_eq_false_iff {b : Block} :
    b.hasValue = false ↔ ∀ c ∈ b.value.toList, Text.isBlank c = true := by
  rw [hasValue, Bool.not_eq_false', Text.allBlank_iff]

/-! ### What rules make of blanks -/

/-- Rules that go by terms write nothing exactly if the value is blank. -/
theorem Fragment.ofTerms_terms_eq_none_iff {join : List String → String} {value : String} :
    ofTerms join (Text.terms value) = none ↔ Text.allBlank value = true := by
  rw [← Text.terms_eq_nil_iff, ofTerms]
  cases Text.terms value <;> simp

theorem Fragment.alternatives_eq_none_iff {value : String} :
    alternatives value = none ↔ Text.allBlank value = true := by
  rw [← Text.terms_eq_nil_iff, alternatives]
  split
  · next h => simp [h]
  · next t h => simp [h]
  · next ts hnil _ => simpa using hnil

namespace Rule

/-- Whether a fragment is made of the value. -/
def readsValue : Rule → Bool
  | fixed _ => false
  | _ => true

/-- **A rule yields nothing exactly if it reads a value that is blank.** -/
theorem fragment?_eq_none_iff {rule : Rule} {value : String} :
    rule.fragment? value = none ↔ rule.readsValue = true ∧ Text.allBlank value = true := by
  cases rule with
  | verbatim => simp [fragment?, readsValue, Text.nonBlank?_eq_none_iff]
  | phrase => simp [fragment?, readsValue, Text.nonBlank?_eq_none_iff]
  | alternatives => simp [fragment?, readsValue, Fragment.alternatives_eq_none_iff]
  | eachTerm mark =>
    simp [fragment?, readsValue, Fragment.eachTerm, Fragment.ofTerms_terms_eq_none_iff]
  | anyTerm mark =>
    simp [fragment?, readsValue, Fragment.anyTerm, Fragment.ofTerms_terms_eq_none_iff]
  | tagged mark =>
    simp [fragment?, readsValue, Fragment.tagged, Text.nonBlank?_eq_none_iff]
  | fixed text => simp [fragment?, readsValue]

/-- Rules that do not read the value write one text. -/
theorem fragment?_eq_of_readsValue_eq_false {rule : Rule} (h : rule.readsValue = false)
    (value value' : String) : rule.fragment? value = rule.fragment? value' := by
  cases rule with
  | fixed text => rfl
  | verbatim | phrase | alternatives | eachTerm | anyTerm | tagged => cases h

end Rule

/-! ### Flags and rules -/

namespace Kind

/-- The flag of a kind says whether the rule of its type reads the value, if there is a rule. -/
def FitsRule (k : Kind) : Prop :=
  ∀ rule ∈ ruleOf? k.type, rule.readsValue = k.needsValue

instance (k : Kind) : Decidable k.FitsRule :=
  inferInstanceAs (Decidable (∀ rule ∈ ruleOf? k.type, rule.readsValue = k.needsValue))

variable {k : Kind} {value : String} {second : Option String}

/-- **A kind whose flag fits has silent blocks exactly if they need a value and it is blank,**
unless all its blocks are silent. -/
theorem FitsRule.fragment?_eq_none_iff (hk : k.FitsRule) :
    fragment? k.type value second = none ↔
      ruleOf? k.type = none ∨ k.needsValue = true ∧ Text.allBlank value = true := by
  rw [fragment?]
  cases hrule : ruleOf? k.type with
  | none => simp
  | some rule =>
    rw [Option.bind_some, rule.fragment?_eq_none_iff, hk rule hrule]
    simp

/-- Kinds that need no value write one text. -/
theorem FitsRule.fragment?_eq (hk : k.FitsRule) (hneeds : k.needsValue = false)
    (value value' : String) (second second' : Option String) :
    fragment? k.type value second = fragment? k.type value' second' := by
  rw [fragment?, fragment?]
  cases hrule : ruleOf? k.type with
  | none => rfl
  | some rule =>
    have hreads : rule.readsValue = false := (hk rule hrule).trans hneeds
    exact rule.fragment?_eq_of_readsValue_eq_false hreads value value'

end Kind

namespace Registry

/-- **The flags of the built-in kinds are right about their rules.** This is asked of the table
once. -/
theorem fitsRule_of_mem_builtin {k : Kind} (hk : k ∈ builtin.kinds) : k.FitsRule := by
  have hall : ∀ k ∈ builtinKinds, k.FitsRule := by decide
  exact hall k hk

/-- The built-in types are the types that have a rule. -/
theorem ruleOf?_eq_none_iff {type : String} :
    ruleOf? type = none ↔ type ∉ builtin.kinds.map Kind.type := by
  have hall : ∀ k ∈ builtinKinds, ruleOf? k.type ≠ none := by decide
  constructor
  · intro h hmem
    obtain ⟨k, hk, rfl⟩ := List.mem_map.1 hmem
    exact hall k hk h
  · intro h
    by_contra hrule
    have hcontains := coversRules_builtin type (Option.isSome_iff_ne_none.2 hrule)
    exact h (contains_iff.1 hcontains)

/-- What a type resolves to in the built-in registry has that type, and its flag fits. -/
theorem builtin_resolve_fitsRule (type : String) (category : Option String)
    (needsValue : Option Bool) :
    (builtin.resolve type category needsValue).type = type ∧
      (builtin.resolve type category needsValue).FitsRule := by
  cases hfind : builtin.find? type with
  | some k =>
    have hk : k ∈ builtin.kinds := (type_or_id_of_find? hfind).1
    rw [resolve, hfind, Option.getD_some]
    exact ⟨type_eq_of_builtin_find? hfind, fitsRule_of_mem_builtin hk⟩
  | none =>
    -- a type that is not found is no built-in one, so it has no rule to fit
    have hrule : ruleOf? type = none := by
      refine ruleOf?_eq_none_iff.2 fun hmem ↦ ?_
      obtain ⟨k, hk, -⟩ := exists_find?_of_contains (contains_iff.2 hmem)
      rw [hfind] at hk
      cases hk
    rw [resolve, hfind, Option.getD_none]
    refine ⟨rfl, fun rule h ↦ ?_⟩
    have hsome : ruleOf? type = some rule := h
    rw [hrule] at hsome
    cases hsome

/-- **The catalogue tells which blocks are silent.** A type has no fragment exactly if it is not
built in, or if it resolves to a kind that needs a value and the value has nothing but blanks. A
value that is not needed does not matter, the second value never does, and no fragment is empty. So
the blocks without a fragment can be taken out of any list, for any registry, without a trace in
either half of the query. -/
theorem fragment?_eq_none_iff_builtin (type : String) (category : Option String)
    (needsValue : Option Bool) (value : String) (second : Option String) :
    (fragment? type value second = none ↔
        type ∉ builtin.kinds.map Kind.type ∨
          (builtin.resolve type category needsValue).needsValue = true ∧
            ∀ c ∈ value.toList, Text.isBlank c = true) ∧
      (∀ id, (Block.ofKind id (builtin.resolve type category needsValue) value).hasValue = false ↔
        ∀ c ∈ value.toList, Text.isBlank c = true) ∧
      ((builtin.resolve type category needsValue).needsValue = false →
        ∀ value', fragment? type value' second = fragment? type value second) ∧
      (∀ second', fragment? type value second' = fragment? type value second) ∧
      (∀ f, fragment? type value second = some f → f ≠ "") ∧
      ∀ (r : Registry) (bs : List Block),
        r.query (bs.filter (·.fragment?.isSome)) = r.query bs := by
  obtain ⟨htype, hfits⟩ := builtin_resolve_fitsRule type category needsValue
  refine ⟨?_, fun id ↦ Block.hasValue_eq_false_iff, fun hneeds value' ↦ ?_, fun _ ↦ rfl,
    fun f ↦ ne_empty_of_fragment?, query_filter_isSome⟩
  · have hnone : fragment? _ value second = none ↔ _ := hfits.fragment?_eq_none_iff
    rwa [htype, ruleOf?_eq_none_iff, Text.allBlank_iff] at hnone
  · have hsame := hfits.fragment?_eq hneeds value' value second second
    rwa [htype] at hsame

end Registry

end BlockQuery

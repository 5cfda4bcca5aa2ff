import BlockQuery.Proofs.Query.Omission

/-!
# What a fragment tells of its value

A rule that reads the value takes it as a whole, and then only the blanks at its ends are lost, or
takes it term by term, and then only the blanks between the terms are. **Nothing else is lost,**
even though terms are free to look like what is written around them: like a mark, a parenthesis or
the word between alternatives.

What stands between terms starts with a blank, and no term has one. So the first blank of a fragment
is where the first term ends. Marks have no blanks either, which the table of rules must be asked
for. And a single alternative, which stands without parentheses, is told from several by having no
blank at all.
-/

namespace BlockQuery

/-! ### Values as a whole -/

namespace Text

theorem nonBlank?_eq_ite (s : String) :
    nonBlank? s = if trimmed s = "" then none else some (trimmed s) := by
  have hempty : trimmed s = "" ↔ trim s.toList = [] := by
    rw [← String.toList_eq_nil_iff, toList_trimmed]
  simp only [nonBlank?, hempty]

theorem nonBlank?_eq_nonBlank?_iff {v w : String} :
    nonBlank? v = nonBlank? w ↔ trimmed v = trimmed w := by
  rw [nonBlank?_eq_ite, nonBlank?_eq_ite]
  constructor
  · intro h
    split at h <;> split at h <;> simp_all
  · intro h
    rw [h]

end Text

/-! ### Terms -/

namespace Fragment

/-- A term behind a mark is a term. -/
theorem isTerm_of_mem_map_append {mark : String}
    (hmark : ∀ c ∈ mark.toList, Text.isBlank c = false) {ts : List String}
    (hts : ∀ t ∈ ts, Text.IsTerm t) : ∀ u ∈ ts.map (mark ++ ·), Text.IsTerm u := by
  refine List.forall_mem_map.2 fun t ht ↦ ?_
  obtain ⟨hne, hblank⟩ := hts t ht
  rw [Text.IsTerm, String.toList_append]
  exact ⟨List.append_ne_nil_of_right_ne_nil _ hne, List.forall_mem_append.2 ⟨hmark, hblank⟩⟩

/-- Terms can be told behind a common mark. -/
theorem eq_of_map_append_eq (mark : String) {ts us : List String}
    (h : ts.map (mark ++ ·) = us.map (mark ++ ·)) : ts = us :=
  (List.map_inj_right fun _ _ ↦ (String.append_right_inj mark).1).1 h

/-- Terms are told from their joined text if they are where there are any. -/
theorem ofTerms_terms_eq_iff {join : List String → String}
    (hjoin : ∀ ts us : List String, ts ≠ [] → us ≠ [] → (∀ t ∈ ts, Text.IsTerm t) →
      (∀ u ∈ us, Text.IsTerm u) → join ts = join us → ts = us) {v w : String} :
    ofTerms join (Text.terms v) = ofTerms join (Text.terms w) ↔ Text.terms v = Text.terms w := by
  refine ⟨fun h ↦ ?_, fun h ↦ by rw [h]⟩
  have hterms : ∀ s, ∀ t ∈ Text.terms s, Text.IsTerm t := fun s t ↦ Text.isTerm_of_mem_terms
  by_cases hv : Text.terms v = [] <;> by_cases hw : Text.terms w = []
  · rw [hv, hw]
  · simp [ofTerms, hv, hw] at h
  · simp [ofTerms, hv, hw] at h
  · refine hjoin _ _ hv hw (hterms v) (hterms w) ?_
    simpa [ofTerms, hv, hw] using h

/-- Alternatives can be told from what is written of them, since the separator has blanks. -/
theorem eq_of_oneOf_eq {ts us : List String} (htne : ts ≠ []) (hune : us ≠ [])
    (hts : ∀ t ∈ ts, Text.IsTerm t) (hus : ∀ u ∈ us, Text.IsTerm u) (h : oneOf ts = oneOf us) :
    ts = us := by
  rw [oneOf, oneOf, String.append_left_inj, String.append_right_inj] at h
  exact Text.eq_of_intercalate_terms_eq rfl (by decide) htne hune hts hus h

section Marked

variable {mark : String} (hmark : ∀ c ∈ mark.toList, Text.isBlank c = false)
include hmark

/-- Terms that are all required can be told from the fragment. -/
theorem eachTerm_eq_iff {v w : String} :
    eachTerm mark v = eachTerm mark w ↔ Text.terms v = Text.terms w := by
  refine ofTerms_terms_eq_iff fun ts us htne hune hts hus h ↦ eq_of_map_append_eq mark ?_
  exact Text.eq_of_intercalate_terms_eq rfl (by decide) (by simpa using htne) (by simpa using hune)
    (isTerm_of_mem_map_append hmark hts) (isTerm_of_mem_map_append hmark hus) h

/-- Terms of which one is required can be told from the fragment, marks and all. -/
theorem anyTerm_eq_iff {v w : String} :
    anyTerm mark v = anyTerm mark w ↔ Text.terms v = Text.terms w := by
  refine ofTerms_terms_eq_iff fun ts us htne hune hts hus h ↦ eq_of_map_append_eq mark ?_
  exact eq_of_oneOf_eq (by simpa using htne) (by simpa using hune)
    (isTerm_of_mem_map_append hmark hts) (isTerm_of_mem_map_append hmark hus) h

end Marked

/-- Terms as alternatives, a single one as it is. -/
def joinAlternatives : List String → String
  | [t] => t
  | ts => oneOf ts

/-- Blank alternatives are left out like all blank values. -/
theorem alternatives_eq_ofTerms (value : String) :
    alternatives value = ofTerms joinAlternatives (Text.terms value) := by
  rw [alternatives]
  rcases Text.terms value with _ | ⟨t, _ | ⟨u, ts⟩⟩ <;> rfl

/-- Several alternatives have a blank. -/
theorem not_isTerm_oneOf (t u : String) (ts : List String) :
    ¬Text.IsTerm (oneOf (t :: u :: ts)) := by
  intro h
  have hspace : ' ' ∈ (oneOf (t :: u :: ts)).toList := by
    simp [oneOf, String.intercalate_cons_cons]
  exact absurd (h.2 ' ' hspace) (by decide)

/-- A single alternative is not taken for several, because it has no blanks. -/
theorem alternatives_eq_iff {v w : String} :
    alternatives v = alternatives w ↔ Text.terms v = Text.terms w := by
  rw [alternatives_eq_ofTerms, alternatives_eq_ofTerms]
  refine ofTerms_terms_eq_iff fun ts us htne hune hts hus h ↦ ?_
  match ts, us with
  | [t], [u] => rw [show t = u from h]
  | [t], u :: u' :: us =>
    refine absurd (hts t (List.mem_singleton_self t)) ?_
    rw [show t = oneOf (u :: u' :: us) from h]
    exact not_isTerm_oneOf u u' us
  | t :: t' :: ts, [u] =>
    refine absurd (hus u (List.mem_singleton_self u)) ?_
    rw [show u = oneOf (t :: t' :: ts) from h.symm]
    exact not_isTerm_oneOf t t' ts
  | t :: t' :: ts, u :: u' :: us =>
    exact eq_of_oneOf_eq htne hune hts hus h

end Fragment

/-! ### Two ways to read a value -/

namespace Rule

/-- Whether the value is split into terms. -/
def splitsValue : Rule → Bool
  | alternatives | eachTerm _ | anyTerm _ => true
  | verbatim | phrase | tagged _ | fixed _ => false

/-- Whether the trimmed value stands in the fragment as a whole. -/
def quotesValue : Rule → Bool
  | verbatim | phrase | tagged _ => true
  | alternatives | eachTerm _ | anyTerm _ | fixed _ => false

/-- What a rule has of its own to put in front of a value, of its terms, or in place of it. -/
def ownText : Rule → String
  | eachTerm mark | anyTerm mark | tagged mark => mark
  | fixed text => text
  | verbatim | phrase | alternatives => ""

variable {rule : Rule} {v w : String}

/-- Whoever reads a value splits it into terms or takes it as a whole. -/
theorem quotesValue_of_readsValue (hreads : rule.readsValue = true)
    (hsplits : rule.splitsValue = false) : rule.quotesValue = true := by
  cases rule <;> simp_all [readsValue, splitsValue, quotesValue]

/-- **Rules that split a value know it by its terms.** -/
theorem fragment?_eq_iff_terms (h : rule.splitsValue = true)
    (hown : ∀ c ∈ rule.ownText.toList, Text.isBlank c = false) :
    rule.fragment? v = rule.fragment? w ↔ Text.terms v = Text.terms w := by
  cases rule with
  | alternatives => exact Fragment.alternatives_eq_iff
  | eachTerm mark => exact Fragment.eachTerm_eq_iff hown
  | anyTerm mark => exact Fragment.anyTerm_eq_iff hown
  | verbatim | phrase | tagged | fixed => cases h

/-- **Rules that do not know it by what is left without the blanks around.** -/
theorem fragment?_eq_iff_trimmed (h : rule.quotesValue = true) :
    rule.fragment? v = rule.fragment? w ↔ Text.trimmed v = Text.trimmed w := by
  rw [← Text.nonBlank?_eq_nonBlank?_iff]
  cases rule with
  | verbatim => rfl
  | phrase =>
    refine Option.map_inj_right fun s t hst ↦ ?_
    simpa [toString] using hst
  | tagged mark => exact Option.map_inj_right fun s t ↦ (String.append_right_inj mark).1
  | alternatives | eachTerm | anyTerm | fixed => cases h

end Rule

/-- The types whose values are split into terms. -/
def splitTypes : List String :=
  ["or", "none-words", "hashtags", "from", "to", "mention"]

section Types

variable {type : String} {rule : Rule} (h : ruleOf? type = some rule)
include h

theorem splitsValue_eq : rule.splitsValue = decide (type ∈ splitTypes) := by
  have hrules : ∀ p ∈ rules, p.2.splitsValue = decide (p.1 ∈ splitTypes) := by decide
  exact hrules _ (mem_rules_of_ruleOf? h)

/-- No rule of the table writes blanks of its own. -/
theorem isBlank_of_mem_ownText {c : Char} (hc : c ∈ rule.ownText.toList) :
    Text.isBlank c = false := by
  have hrules : ∀ p ∈ rules, p.2.ownText.toList.all (!Text.isBlank ·) = true := by decide
  simpa using List.all_eq_true.1 (hrules _ (mem_rules_of_ruleOf? h)) c hc

end Types

namespace Registry

/-- A built-in kind that needs a value has a rule that reads it. -/
theorem exists_rule_of_needsValue {k : Kind} (hk : k ∈ builtin.kinds)
    (hneeds : k.needsValue = true) :
    ∃ rule, ruleOf? k.type = some rule ∧ rule.readsValue = true := by
  have hsome : ruleOf? k.type ≠ none := fun h ↦
    ruleOf?_eq_none_iff.1 h (List.mem_map_of_mem hk)
  obtain ⟨rule, hrule⟩ := Option.ne_none_iff_exists'.1 hsome
  exact ⟨rule, hrule, (fitsRule_of_mem_builtin hk rule hrule).trans hneeds⟩

/-- **A fragment loses nothing of its value but blanks.** Take a built-in type that needs a value,
and two values, blank ones included. If the type is one of those whose values are split, the two
have the same fragment exactly if they have the same terms; a run of blanks of any kind does what a
single space does, and terms that are written with spaces between them are told apart whatever they
look like. If it is another type, the two have the same fragment exactly if they are equal once they
are trimmed. -/
theorem fragment?_eq_fragment?_iff {k : Kind} (hk : k ∈ builtin.kinds)
    (hneeds : k.needsValue = true) (v w : String) (second second' : Option String) :
    (k.type ∈ splitTypes →
      (fragment? k.type v second = fragment? k.type w second' ↔ Text.terms v = Text.terms w) ∧
        (∀ x run y : String, run ≠ "" → Text.allBlank run = true →
          fragment? k.type (x ++ run ++ y) second = fragment? k.type (x ++ " " ++ y) second') ∧
        ∀ ts us : List String, (∀ t ∈ ts, Text.IsTerm t) → (∀ u ∈ us, Text.IsTerm u) →
          (fragment? k.type (" ".intercalate ts) second =
            fragment? k.type (" ".intercalate us) second' ↔ ts = us)) ∧
      (k.type ∉ splitTypes →
        (fragment? k.type v second = fragment? k.type w second' ↔
          Text.trimmed v = Text.trimmed w)) := by
  obtain ⟨rule, hrule, hreads⟩ := exists_rule_of_needsValue hk hneeds
  have hfragment : ∀ value second, fragment? k.type value second = rule.fragment? value := by
    intro value second
    rw [fragment?, hrule, Option.bind_some]
  have hsplits := splitsValue_eq hrule
  simp only [hfragment]
  refine ⟨fun hmem ↦ ?_, fun hmem ↦ ?_⟩
  · have hterms : ∀ {v w : String},
        rule.fragment? v = rule.fragment? w ↔ Text.terms v = Text.terms w :=
      Rule.fragment?_eq_iff_terms (by simpa [hmem] using hsplits)
        fun _ ↦ isBlank_of_mem_ownText hrule
    refine ⟨hterms, fun x run y hne hrun ↦ hterms.2 ?_, fun ts us hts hus ↦ ?_⟩
    · rw [Text.terms_append_run x y hne hrun, Text.terms_append_run x y (by decide) (by decide)]
    · rw [hterms, Text.terms_intercalate hts, Text.terms_intercalate hus]
  · exact Rule.fragment?_eq_iff_trimmed
      (Rule.quotesValue_of_readsValue hreads (by simpa [hmem] using hsplits))

/-- Terms that look like the parentheses around alternatives and the word between them, with an
ideographic space and a tab where others have single spaces. -/
theorem fragment?_eq_fragment?_iff_imitations :
    ∃ k ∈ builtin.kinds, k.needsValue = true ∧ k.type ∈ splitTypes ∧
      fragment? k.type "(OR\u3000OR\t)" none = fragment? k.type " (OR OR ) " (some "x") ∧
      fragment? k.type "(OR OR )" none ≠ fragment? k.type "(OR )" none := by
  have hk : builtinKinds[2] ∈ builtin.kinds := List.getElem_mem _
  have hsplit : builtinKinds[2].type ∈ splitTypes := by decide
  have hvalue := fun v w second ↦ ((fragment?_eq_fragment?_iff hk rfl v w none second).1 hsplit).1
  refine ⟨_, hk, rfl, hsplit, (hvalue _ _ _).2 ?_, (hvalue _ _ _).not.2 ?_⟩
  · decide +kernel
  · decide +kernel

end Registry

end BlockQuery

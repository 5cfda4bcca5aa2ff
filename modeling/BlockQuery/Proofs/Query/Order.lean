import BlockQuery.Proofs.Query.Arrangement
import BlockQuery.Proofs.Query.Fragment

/-!
# The order of a query

A query is made in two halves, each on shelves of its own. The same text comes out of one stable
sort: all blocks by `Registry.rank`, then their fragments with single spaces between them.

Two facts carry this. Arranging the halves apart is sorting the whole by half first
(`arrange_append_arrange`). And joining two joined halves is joining all fragments at once
(`Query.text_intercalate`), which **needs that no fragment is empty**: a half that is the empty text
must be one without fragments.
-/

namespace BlockQuery

/-! ### Joining in two steps -/

theorem intercalate_eq_empty_iff {sep : String} {ts : List String} (h : ∀ t ∈ ts, t ≠ "") :
    String.intercalate sep ts = "" ↔ ts = [] := by
  constructor
  · intro hempty
    by_contra hne
    exact intercalate_ne_empty hne h hempty
  · rintro rfl
    exact String.intercalate_nil

/-- **Joining in two steps is joining at once**, as long as no text is empty. -/
theorem Query.text_intercalate {ts us : List String} (hts : ∀ t ∈ ts, t ≠ "")
    (hus : ∀ u ∈ us, u ≠ "") :
    Query.text ⟨String.intercalate " " ts, String.intercalate " " us⟩ =
      String.intercalate " " (ts ++ us) := by
  have hisEmpty : ∀ {vs : List String}, (∀ v ∈ vs, v ≠ "") →
      (String.intercalate " " vs).isEmpty = decide (vs = []) := fun h ↦
    Bool.eq_iff_iff.2 (by rw [String.isEmpty_iff, intercalate_eq_empty_iff h, decide_eq_true_eq])
  by_cases ht : ts = [] <;> by_cases hu : us = []
  · subst ht hu
    rfl
  · subst ht
    simp [Query.text, hisEmpty hus, hu]
  · subst hu
    simp [Query.text, hisEmpty hts, ht]
  · simp [Query.text, hisEmpty hts, hisEmpty hus, ht, hu, String.intercalate_cons_cons,
      String.intercalate_append_of_ne_nil]

/-- Fragments are never empty, so joining them loses none. -/
theorem ne_empty_of_mem_fragments {bs : List Block} :
    ∀ f ∈ bs.filterMap Block.fragment?, f ≠ "" := by
  intro f hf
  obtain ⟨b, -, hb⟩ := List.mem_filterMap.1 hf
  exact ne_empty_of_fragment? hb

/-! ### One sort for both halves -/

namespace Registry

variable (r : Registry)

/-- What orders the blocks of a query: keyword types before all others, then the place of the
type. -/
def rank (b : Block) : Bool ×ₗ ℕ :=
  toLex (!isKeywordType b.type, r.slot b.type)

/-- The two halves of a query hold the blocks in the order of their ranks. -/
theorem arrange_append_arrange (bs : List Block) :
    r.arrange (bs.filter (isKeywordType ·.type)) ++ r.arrange (bs.filter (!isKeywordType ·.type)) =
      sortOn r.rank bs := by
  rw [arrange_eq_sortOn, arrange_eq_sortOn]
  exact sortOn_append_sortOn (isKeywordType ·.type) (r.slot ·.type) bs

/-- Each half of the sorted blocks is the half that is arranged apart. -/
theorem filter_sortOn_rank (bs : List Block) (q : Bool) :
    (sortOn r.rank bs).filter (isKeywordType ·.type == q) =
      r.arrange (bs.filter (isKeywordType ·.type == q)) := by
  have hhalf : ∀ q', (r.arrange (bs.filter (isKeywordType ·.type == q'))).filter
      (isKeywordType ·.type == q) =
        if q' = q then r.arrange (bs.filter (isKeywordType ·.type == q')) else [] := by
    intro q'
    have hclass : ∀ b ∈ r.arrange (bs.filter (isKeywordType ·.type == q')),
        isKeywordType b.type = q' := fun b hb ↦ by
      simpa using (List.mem_filter.1 ((r.arrange_perm _).mem_iff.1 hb)).2
    split
    · next hq => exact List.filter_eq_self.2 fun b hb ↦ by simp [hclass b hb, hq]
    · next hq => exact List.filter_eq_nil_iff.2 fun b hb ↦ by simp [hclass b hb, hq]
  have hpos : bs.filter (isKeywordType ·.type) = bs.filter (isKeywordType ·.type == true) := by
    simp
  have hneg : bs.filter (!isKeywordType ·.type) = bs.filter (isKeywordType ·.type == false) := by
    simp
  rw [← arrange_append_arrange, List.filter_append, hpos, hneg, hhalf, hhalf]
  cases q <;> simp

/-- The text of a query joins the fragments of all blocks, sorted by rank. -/
theorem compile_eq_intercalate (bs : List Block) :
    r.compile bs = String.intercalate " " ((sortOn r.rank bs).filterMap Block.fragment?) := by
  rw [compile, query, render, render,
    Query.text_intercalate ne_empty_of_mem_fragments ne_empty_of_mem_fragments,
    ← List.filterMap_append, r.arrange_append_arrange]

/-- The query of a single block is its fragment. -/
theorem compile_singleton (b : Block) : r.compile [b] = b.fragment?.getD "" := by
  rw [compile_eq_intercalate, List.perm_singleton.1 (sortOn_perm r.rank [b])]
  rcases hf : b.fragment? with _ | f <;> simp [hf]

/-- A query asks nothing exactly if all its blocks are silent. -/
theorem compile_eq_empty_iff {bs : List Block} :
    r.compile bs = "" ↔ ∀ b ∈ bs, b.fragment? = none := by
  rw [compile_eq_intercalate, intercalate_eq_empty_iff ne_empty_of_mem_fragments,
    List.filterMap_eq_nil_iff]
  simp only [(sortOn_perm r.rank bs).mem_iff]

/-- **A query is a stable sort.** Its text joins the fragments of all blocks, stably sorted by rank;
its two halves join those of the sorted blocks of keyword types and of the others, which stand one
behind the other. The blocks that are written are the given ones, each once, and whatever has been
put away before, there is a shelf for the place of every type. -/
theorem compile_eq_stable_sort (bs : List Block) :
    r.compile bs = String.intercalate " " ((sortOn r.rank bs).filterMap Block.fragment?) ∧
      (r.query bs).keywords = String.intercalate " "
        (((sortOn r.rank bs).filter (isKeywordType ·.type)).filterMap Block.fragment?) ∧
      (r.query bs).others = String.intercalate " "
        (((sortOn r.rank bs).filter (!isKeywordType ·.type)).filterMap Block.fragment?) ∧
      sortOn r.rank bs =
        (sortOn r.rank bs).filter (isKeywordType ·.type) ++
          (sortOn r.rank bs).filter (!isKeywordType ·.type) ∧
      (r.arrange (bs.filter (isKeywordType ·.type)) ++
        r.arrange (bs.filter (!isKeywordType ·.type))).Perm bs ∧
      ∀ (before : List Block) (b : Block) (i : ℕ), r.position? b.type = some i →
        i < (r.shelve before).known.length := by
  have hkeywords : (sortOn r.rank bs).filter (isKeywordType ·.type) =
      r.arrange (bs.filter (isKeywordType ·.type)) := by
    simpa using r.filter_sortOn_rank bs true
  have hothers : (sortOn r.rank bs).filter (!isKeywordType ·.type) =
      r.arrange (bs.filter (!isKeywordType ·.type)) := by
    simpa using r.filter_sortOn_rank bs false
  have hsorted := r.arrange_append_arrange bs
  refine ⟨?_, ?_, ?_, ?_, ?_, fun before b i h ↦ r.position?_lt_length_known before h⟩
  · exact r.compile_eq_intercalate bs
  · rw [hkeywords]
    rfl
  · rw [hothers]
    rfl
  · rw [hkeywords, hothers, hsorted]
  · rw [hsorted]
    exact sortOn_perm _ bs

end Registry

end BlockQuery

import BlockQuery.Proofs.Query.Opening
import BlockQuery.Proofs.Search.Link

/-!
# Queries that ask nothing

Whether a query asks nothing is tested in three ways: its two halves are looked at, its text, and
what is left of its text without the blanks. The first two agree on every query. The third is
stricter on texts in general, for which it is written, but **a query is empty or starts with a
character that is not blank**, so on queries it says the same. In the end all three say that no
block has a fragment.
-/

namespace BlockQuery

/-- The text of a query is empty exactly if both halves are, as they are joined by a blank only
where both are there. -/
theorem Query.text_eq_empty_iff (q : Query) : q.text = "" ↔ q.isEmpty = true := by
  obtain ⟨keywords, others⟩ := q
  by_cases hk : keywords = "" <;> by_cases ho : others = "" <;>
    simp [Query.text, Query.isEmpty, hk, ho]

theorem Text.Flush.exists_not_blank {cs : List Char} (h : Text.Flush cs) :
    ∃ c ∈ cs, Text.isBlank c = false := by
  obtain ⟨c, hc, hblank⟩ := h.head
  exact ⟨c, List.mem_of_mem_head? hc, hblank⟩

/-- Only blank texts have no link. -/
theorem searchLink?_eq_none_iff {base query : String} {mode : SearchMode} :
    searchLink? base query mode = none ↔ Text.allBlank query = true := by
  rw [searchLink?]
  split
  · next h => simp [h]
  · next h => simp [h]

namespace Registry

variable {r : Registry} {bs : List Block}

theorem isEmpty_query_iff : (r.query bs).isEmpty = true ↔ ∀ b ∈ bs, b.fragment? = none := by
  rw [← Query.text_eq_empty_iff]
  exact r.compile_eq_empty_iff

/-- **A query of nothing but blanks is empty,** because every fragment is flush. -/
theorem allBlank_compile_iff : Text.allBlank (r.compile bs) = true ↔ r.compile bs = "" := by
  refine ⟨fun hblank ↦ ?_, fun hempty ↦ by rw [hempty]; rfl⟩
  rcases r.compile_eq_empty_or_flush bs with hempty | hflush
  · exact hempty
  · obtain ⟨c, hc, hnot⟩ := hflush.exists_not_blank
    rw [Text.allBlank_iff.1 hblank c hc] at hnot
    cases hnot

/-- There is no link to a query exactly if no block has a fragment. -/
theorem searchLink?_compile_eq_none_iff {base : String} {mode : SearchMode} :
    searchLink? base (r.compile bs) mode = none ↔ ∀ b ∈ bs, b.fragment? = none := by
  rw [searchLink?_eq_none_iff, allBlank_compile_iff, r.compile_eq_empty_iff]

end Registry

end BlockQuery

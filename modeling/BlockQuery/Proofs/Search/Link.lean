import BlockQuery.Proofs.Text.Percent
import BlockQuery.Search.Link
import Mathlib.Data.List.Basic

/-!
# What a link carries

A link tells the base, the query and the mode that it was made of, the base but for the slashes at
its end. It is read from behind. Its last character tells the mode, and once what follows the query
is taken away, the query stands at the end.

**No encoded query has an equals sign,** so the last one is that of the link's own mark, even if the
base looks like a link itself.
-/

namespace BlockQuery

open Text.Percent

/-- A text is the same in front of its last separator and behind it. -/
theorem eq_and_eq_of_append_cons_eq {α : Type} {a : α} {xs ys ps qs : List α} (hps : a ∉ ps)
    (hqs : a ∉ qs) (h : xs ++ a :: ps = ys ++ a :: qs) : xs = ys ∧ ps = qs := by
  -- if one of the two were longer in front, its separator would stand behind that of the other
  rcases List.append_eq_append_iff.1 h with ⟨more, rfl, hback⟩ | ⟨more, rfl, hback⟩
  · cases more with
    | nil => exact ⟨(List.append_nil xs).symm, List.tail_eq_of_cons_eq hback⟩
    | cons b more =>
      obtain rfl := List.tail_eq_of_cons_eq hback
      exact absurd (List.mem_append_right more List.mem_cons_self) hps
  · cases more with
    | nil => exact ⟨List.append_nil ys, (List.tail_eq_of_cons_eq hback).symm⟩
    | cons b more =>
      obtain rfl := List.tail_eq_of_cons_eq hback
      exact absurd (List.mem_append_right more List.mem_cons_self) hqs

/-- An encoded query has no equals sign, so it ends where the next field starts. -/
theorem equals_notMem_encodeComponent (query : String) : '=' ∉ (encodeComponent query).toList := by
  rw [encodeComponent, String.toList_ofList]
  exact (spelled_component query.toList).notMem (by decide) (by decide)

/-- The end of a link tells the mode. -/
theorem mode_eq_of_append_eq {s s' : String} {mode mode' : SearchMode}
    (h : s ++ "&src=typed_query" ++ mode.linkSuffix =
      s' ++ "&src=typed_query" ++ mode'.linkSuffix) : mode = mode' := by
  have hlast : ∀ (s : String) (mode : SearchMode),
      (s ++ "&src=typed_query" ++ mode.linkSuffix).toList.getLast? =
        some (if mode = .latest then 'e' else 'y') := by
    intro s mode
    cases mode <;> simp [SearchMode.linkSuffix]
  have hsame := congrArg (·.toList.getLast?) h
  simp only [hlast] at hsame
  cases mode <;> cases mode' <;> simp_all

theorem searchLink?_eq_some_iff {base query link : String} {mode : SearchMode} :
    searchLink? base query mode = some link ↔
      Text.allBlank query = false ∧
        withoutSlashes base ++ "/search?q=" ++ encodeComponent query ++ "&src=typed_query" ++
          mode.linkSuffix = link := by
  rw [searchLink?]
  split
  · next h => simp [h]
  · next h => simp [h]

theorem link_eq_link_iff {base base' query query' : String} {mode mode' : SearchMode} :
    withoutSlashes base ++ "/search?q=" ++ encodeComponent query ++ "&src=typed_query" ++
          mode.linkSuffix =
        withoutSlashes base' ++ "/search?q=" ++ encodeComponent query' ++ "&src=typed_query" ++
          mode'.linkSuffix ↔
      withoutSlashes base = withoutSlashes base' ∧ query = query' ∧ mode = mode' := by
  constructor
  · intro h
    obtain rfl := mode_eq_of_append_eq h
    rw [String.append_left_inj, String.append_left_inj] at h
    have hchars : ((withoutSlashes base).toList ++ "/search?q".toList) ++
          '=' :: (encodeComponent query).toList =
        ((withoutSlashes base').toList ++ "/search?q".toList) ++
          '=' :: (encodeComponent query').toList := by
      simpa using congrArg String.toList h
    obtain ⟨hbase, hquery⟩ := eq_and_eq_of_append_cons_eq (equals_notMem_encodeComponent query)
      (equals_notMem_encodeComponent query') hchars
    exact ⟨String.toList_inj.1 (List.append_cancel_right hbase),
      encodeComponent_inj.1 (String.toList_inj.1 hquery), rfl⟩
  · rintro ⟨hbase, rfl, rfl⟩
    rw [hbase]

/-- **A link carries its query faithfully, and nothing else.** A query that is not blank has a link,
and what stands between `/search?q=` behind the base and `&src=typed_query` is made of unreserved
characters and escapes and reads back as the query. Two links are equal exactly if the bases are,
but for slashes at their ends, and the queries, and the modes. -/
theorem searchLink?_faithful (base query : String) (mode : SearchMode) :
    (Text.allBlank query = false → ∃ part : String,
        searchLink? base query mode =
            some (withoutSlashes base ++ "/search?q=" ++ part ++ "&src=typed_query" ++
              mode.linkSuffix) ∧
          Spelled part.toList ∧ decodeText? part = some query ∧
          looseText? part.toList = some query.toList) ∧
      ∀ (base' query' : String) (mode' : SearchMode) (link link' : String),
        searchLink? base query mode = some link → searchLink? base' query' mode' = some link' →
          (link = link' ↔
            withoutSlashes base = withoutSlashes base' ∧ query = query' ∧ mode = mode') := by
  refine ⟨fun hquery ↦ ⟨_, searchLink?_eq_some_iff.2 ⟨hquery, rfl⟩, ?_,
    decodeText?_encodeComponent query, looseText?_encodeComponent query⟩,
    fun base' query' mode' link link' h h' ↦ ?_⟩
  · rw [encodeComponent, String.toList_ofList]
    exact spelled_component query.toList
  · obtain ⟨-, rfl⟩ := searchLink?_eq_some_iff.1 h
    obtain ⟨-, rfl⟩ := searchLink?_eq_some_iff.1 h'
    exact link_eq_link_iff

/-- A base that looks like a link, a query that would end the component and change the mode, and
the same characters with the border between base and query elsewhere. -/
theorem searchLink?_faithful_lookalikes :
    ∃ part link link',
      searchLink? "https://x.com/search?q=a//" "100%\u00A0&f=live#" .top = some link ∧
        link = withoutSlashes "https://x.com/search?q=a//" ++ "/search?q=" ++ part ++
          "&src=typed_query" ++ SearchMode.top.linkSuffix ∧
        decodeText? part = some "100%\u00A0&f=live#" ∧
        searchLink? "https://x.com" "a/search?q=100%\u00A0&f=live#" .top = some link' ∧
        link ≠ link' := by
  have hfaithful := searchLink?_faithful "https://x.com/search?q=a//" "100%\u00A0&f=live#" .top
  obtain ⟨part, hlink, -, htext, -⟩ := hfaithful.1 (by decide)
  obtain ⟨part', hlink', -⟩ :=
    (searchLink?_faithful "https://x.com" "a/search?q=100%\u00A0&f=live#" .top).1 (by decide)
  exact ⟨part, _, _, hlink, rfl, htext, hlink',
    (hfaithful.2 _ _ _ _ _ hlink hlink').not.2 (by decide)⟩

end BlockQuery

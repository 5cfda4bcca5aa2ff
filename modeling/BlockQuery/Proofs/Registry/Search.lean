import BlockQuery.Proofs.Text.LetterCase
import BlockQuery.Registry.Builtin
import Mathlib.Data.List.Nodup

/-!
# Searching the kinds

A search is for the kinds whose type or label contains the query, in any letter case. The query is
put in lower case and so is every label, **but a type is taken as it is.** So a query is missed
where the type that contains it has capitals and the label does not contain it as well.

Whether this can happen to a kind is told by one query, the type of the kind itself: if that finds
the kind, every query does that the kind mentions (`search_finds_iff`). It always does where types
are in lower case, as those of the built-in kinds are.
-/

namespace BlockQuery

/-! ### What is searched for -/

namespace Kind

/-- The type or the label of the kind contains the query in any letter case, blanks around the query
left out. -/
def Mentions (k : Kind) (query : String) : Prop :=
  Text.ContainsAnyCase k.type.toList (Text.trim query.toList) ∨
    Text.ContainsAnyCase k.label.toList (Text.trim query.toList)

/-- The type has no capitals, or the label contains the type anyway. -/
def Searchable (k : Kind) : Prop :=
  Text.asciiLower k.type = k.type ∨
    Text.ContainsAnyCase k.label.toList (Text.trim k.type.toList)

instance (k : Kind) : Decidable k.Searchable :=
  inferInstanceAs (Decidable (_ ∨ _))

/-- What a search looks at: the query in lower case must stand in the type as it is, or in the label
in any letter case. -/
def Matches (k : Kind) (query : String) : Prop :=
  (Text.trim query.toList).map Char.toLower <:+: k.type.toList ∨
    Text.ContainsAnyCase k.label.toList (Text.trim query.toList)

variable {k : Kind} {query : String}

/-- A kind mentions its own type. -/
theorem mentions_type (k : Kind) : k.Mentions k.type :=
  .inl ⟨_, Text.trim_infix _, rfl⟩

/-- Whatever is looked at is also asked for. -/
theorem Matches.mentions (h : k.Matches query) : k.Mentions query :=
  h.imp_left Text.ContainsAnyCase.of_infix

/-- All that a searchable kind mentions matches it. -/
theorem Searchable.matches_of_mentions (hk : k.Searchable) (h : k.Mentions query) :
    k.Matches query := by
  refine h.elim (fun htype ↦ ?_) .inr
  rcases hk with hlower | hlabel
  · left
    have hself : k.type.toList.map Char.toLower = k.type.toList := by
      rw [Text.asciiLower, ← String.toList_inj, String.toList_ofList] at hlower
      exact hlower
    rwa [Text.containsAnyCase_iff, hself] at htype
  · exact .inr (hlabel.trans htype.trim_left)

/-- **A kind is searchable exactly if its own type matches it.** -/
theorem matches_type_iff : k.Matches k.type ↔ k.Searchable := by
  refine ⟨Or.imp_left fun htype ↦ ?_, fun hk ↦ hk.matches_of_mentions k.mentions_type⟩
  rw [Text.asciiLower, Text.map_toLower_eq_self_of_trim_infix htype, String.ofList_toList]

/-- The case of the letters of a query makes no difference. -/
theorem matches_congr {query' : String}
    (h : query.toList.map Char.toLower = query'.toList.map Char.toLower) :
    k.Matches query ↔ k.Matches query' := by
  simp only [Matches, Text.containsAnyCase_iff, ← Text.trim_map_toLower, h]

end Kind

namespace Registry

variable {r : Registry} {k : Kind} {query : String}

/-- All types and labels are ASCII. -/
def IsAscii (r : Registry) : Prop :=
  ∀ k ∈ r.kinds, Text.IsAscii k.type.toList ∧ Text.IsAscii k.label.toList

instance (r : Registry) : Decidable r.IsAscii :=
  inferInstanceAs (Decidable (∀ k ∈ r.kinds, _ ∧ _))

/-- The search lists the kinds that mention the query, each once and in registry order. -/
structure Finds (r : Registry) (query : String) : Prop where
  sublist : (r.search query).Sublist r.kinds
  nodup : (r.search query).Nodup
  mem_iff : ∀ k ∈ r.kinds, k ∈ r.search query ↔ k.Mentions query

/-! ### What is found -/

/-- Results come in the order of the registry, and each once. -/
theorem search_sublist (r : Registry) (query : String) : (r.search query).Sublist r.kinds :=
  List.filter_sublist

theorem search_nodup (r : Registry) (query : String) : (r.search query).Nodup :=
  r.types_nodup.of_map.sublist (r.search_sublist query)

/-- **A search finds the kinds that match,** with all kinds and the query in ASCII. -/
theorem mem_search_iff (hr : r.IsAscii) (hquery : Text.IsAscii query.toList) (hk : k ∈ r.kinds) :
    k ∈ r.search query ↔ k.Matches query := by
  have hwanted : (Text.lower (Text.trimmed query)).toList =
      (Text.trim query.toList).map Char.toLower := by
    rw [Text.toList_lower, Text.toList_trimmed, Text.lowerAfter_of_isAscii]
    exact fun c hc ↦ hquery c ((Text.trim_infix _).subset hc)
  have hlabel : (Text.lower k.label).toList = k.label.toList.map Char.toLower := by
    rw [Text.toList_lower, Text.lowerAfter_of_isAscii (hr k hk).2]
  simp only [search, List.mem_filter, hk, true_and, Bool.or_eq_true, Text.occursIn_iff, hwanted,
    hlabel, Kind.Matches, Text.containsAnyCase_iff]

/-- Where every kind is searchable, every search finds what it should. -/
theorem finds_of_searchable (hr : r.IsAscii) (hkinds : ∀ k ∈ r.kinds, k.Searchable)
    (hquery : Text.IsAscii query.toList) : r.Finds query where
  sublist := r.search_sublist query
  nodup := r.search_nodup query
  mem_iff k hk := by
    rw [mem_search_iff hr hquery hk]
    exact ⟨Kind.Matches.mentions, (hkinds k hk).matches_of_mentions⟩

/-- A query that is the type of a kind but for the case of its letters. -/
theorem mem_search_iff_searchable (hr : r.IsAscii) (hk : k ∈ r.kinds)
    (hquery : Text.asciiLower query = Text.asciiLower k.type) :
    k ∈ r.search query ↔ k.Searchable := by
  have hlower : query.toList.map Char.toLower = k.type.toList.map Char.toLower :=
    String.ofList_injective hquery
  have hascii : Text.IsAscii query.toList :=
    .of_map_toLower (hlower ▸ (hr k hk).1.map_toLower)
  rw [mem_search_iff hr hascii hk, Kind.matches_congr hlower, Kind.matches_type_iff]

/-- **When a search tells which kinds mention a query.** In an ASCII registry a search for an ASCII
query lists, each once and in order, the kinds that hold the query in lower case in their type, or
in any case in their label. These are the kinds that mention the query, whatever it is, exactly if
all kinds are searchable. A kind that is searchable is found by its own type in any mix of cases,
and no other kind is. -/
theorem search_finds_iff (r : Registry) (hr : r.IsAscii) :
    (∀ query : String, Text.IsAscii query.toList →
      (r.search query).Sublist r.kinds ∧ (r.search query).Nodup ∧
        ∀ k ∈ r.kinds, k ∈ r.search query ↔ k.Matches query) ∧
      ((∀ query : String, Text.IsAscii query.toList → r.Finds query) ↔
        ∀ k ∈ r.kinds, k.Searchable) ∧
      ∀ k ∈ r.kinds, ∀ query, Text.asciiLower query = Text.asciiLower k.type →
        (k ∈ r.search query ↔ k.Searchable) := by
  refine ⟨fun query hquery ↦ ⟨r.search_sublist query, r.search_nodup query,
    fun k hk ↦ mem_search_iff hr hquery hk⟩, ⟨fun h k hk ↦ ?_, fun hkinds query hquery ↦ ?_⟩,
    fun k hk query hquery ↦ mem_search_iff_searchable hr hk hquery⟩
  · have hfound := ((h k.type (hr k hk).1).mem_iff k hk).2 k.mentions_type
    exact (mem_search_iff_searchable hr hk rfl).1 hfound
  · exact finds_of_searchable hr hkinds hquery

/-- A kind whose type has capitals and does not stand in the label. -/
def shoutedFrom : Kind :=
  .named "FROM" "Authors" .user true

/-- A kind whose type has capitals and stands in the label. -/
def shoutedTo : Kind :=
  .named "TO" "To these Accounts" .user true

/-- The registry of these two kinds. -/
def shouted : Registry where
  kinds := [shoutedFrom, shoutedTo]
  type_not_blank := by decide +kernel
  id_not_blank := by decide +kernel
  label_not_blank := by decide +kernel
  types_nodup := by decide +kernel
  ids_nodup := by decide +kernel

theorem search_finds_shouted :
    shouted.IsAscii ∧ Text.asciiLower "tO" = Text.asciiLower shoutedTo.type ∧
      shoutedTo.Searchable ∧ shoutedTo ∈ shouted.search "tO" ∧ ¬shoutedFrom.Searchable ∧
      ¬∀ query : String, Text.IsAscii query.toList → shouted.Finds query := by
  have hascii : shouted.IsAscii := by decide +kernel
  have hquery : Text.asciiLower "tO" = Text.asciiLower shoutedTo.type := by decide +kernel
  have hto : shoutedTo.Searchable := by decide +kernel
  have hfrom : ¬shoutedFrom.Searchable := by decide +kernel
  obtain ⟨-, hall, hown⟩ := search_finds_iff shouted hascii
  refine ⟨hascii, hquery, hto, (hown shoutedTo (by decide) "tO" hquery).2 hto, hfrom, fun h ↦ ?_⟩
  exact hfrom (hall.1 h shoutedFrom (by decide))

/-- A kind is not found by its own type. -/
theorem shoutedFrom_not_found :
    shouted.IsAscii ∧ shoutedFrom ∈ shouted.kinds ∧ shoutedFrom.Mentions shoutedFrom.type ∧
      shoutedFrom ∉ shouted.search shoutedFrom.type := by
  refine ⟨by decide +kernel, by decide, shoutedFrom.mentions_type, ?_⟩
  decide +kernel

end Registry

end BlockQuery

import BlockQuery.Proofs.Query.Content

/-!
# What blocks put into a query

A block puts its fragment into a query, at the place of its type, or it puts in nothing.
`Block.entry?` is the type together with the fragment. **A query is made of the entries of its
blocks** (`query_eq_of_entries_eq`), whatever else there is to the blocks and however many of them
have no entry: sorting does not mind what is left out.

This holds for every registry and for every list of blocks, with types that repeat and types that
are not registered. So a block without a fragment might as well not be there, and a block might as
well be another one of the same type with the same fragment.
-/

namespace BlockQuery

/-- What a block puts into a query: its fragment, at the place of its type. -/
def Block.entry? (b : Block) : Option (String × String) :=
  b.fragment?.map (b.type, ·)

/-- The entries of the blocks of some types are the entries of these types. -/
theorem filterMap_entry?_filter (p : String → Bool) (bs : List Block) :
    (bs.filter (p ·.type)).filterMap Block.entry? =
      (bs.filterMap Block.entry?).filter (p ·.1) := by
  rw [List.filterMap_filter, List.filter_filterMap]
  refine List.filterMap_congr fun b _ ↦ ?_
  rw [Block.entry?]
  cases b.fragment? with
  | none => simp
  | some f => simp [Option.filter]

namespace Registry

variable (r : Registry)

/-- **The fragments of some blocks are their entries, sorted.** -/
theorem render_eq_sortOn_entries (bs : List Block) :
    r.render bs = String.intercalate " "
      ((sortOn (r.slot ·.1) (bs.filterMap Block.entry?)).map Prod.snd) := by
  have hslot : ∀ (b : Block) (e : String × String), b.entry? = some e →
      r.slot e.1 = r.slot b.type := by
    intro b e he
    obtain ⟨f, -, rfl⟩ := Option.map_eq_some_iff.1 he
    rfl
  have hfragment : ∀ b : Block, b.entry?.map Prod.snd = b.fragment? := by
    intro b
    rw [Block.entry?, Option.map_map]
    exact Option.map_id'
  rw [render, arrange_eq_sortOn, sortOn_filterMap hslot, List.map_filterMap]
  exact congrArg _ (List.filterMap_congr fun b _ ↦ (hfragment b).symm)

variable {r} {before after bs bs' : List Block} {b c : Block}

/-- **Blocks with the same entries have the same query.** -/
theorem query_eq_of_entries_eq (h : bs.filterMap Block.entry? = bs'.filterMap Block.entry?) :
    r.query bs = r.query bs' := by
  have hhalf : ∀ p : String → Bool,
      r.render (bs.filter (p ·.type)) = r.render (bs'.filter (p ·.type)) := by
    intro p
    rw [render_eq_sortOn_entries, render_eq_sortOn_entries, filterMap_entry?_filter,
      filterMap_entry?_filter, h]
  rw [query, query, hhalf isKeywordType, hhalf (!isKeywordType ·)]

/-! ### Blocks that are left out or exchanged -/

theorem entry?_eq_none (hb : b.fragment? = none) : b.entry? = none := by
  rw [Block.entry?, hb, Option.map_none]

/-- **The blocks without a fragment can be left out,** all of them at once. -/
theorem query_filter_isSome (r : Registry) (bs : List Block) :
    r.query (bs.filter (·.fragment?.isSome)) = r.query bs := by
  refine query_eq_of_entries_eq ?_
  rw [List.filterMap_filter]
  refine List.filterMap_congr fun b _ ↦ ?_
  cases hb : b.fragment? with
  | none => exact (entry?_eq_none hb).symm
  | some f => rfl

/-- A block without a fragment can be left out. -/
theorem query_append_cons_of_fragment?_eq_none (hb : b.fragment? = none) :
    r.query (before ++ b :: after) = r.query (before ++ after) := by
  refine query_eq_of_entries_eq ?_
  rw [List.filterMap_append, List.filterMap_append, List.filterMap_cons_none (entry?_eq_none hb)]

/-- A block can be exchanged for one of the same type with the same fragment. -/
theorem query_append_cons_of_fragment?_eq (htype : b.type = c.type)
    (hfragment : b.fragment? = c.fragment?) :
    r.query (before ++ b :: after) = r.query (before ++ c :: after) := by
  refine query_eq_of_entries_eq ?_
  have hentry : b.entry? = c.entry? := by rw [Block.entry?, Block.entry?, htype, hfragment]
  rw [List.filterMap_append, List.filterMap_append, List.filterMap_cons, List.filterMap_cons,
    hentry]

/-- Blocks with the same contents, one by one, have the same query. -/
theorem query_eq_of_content_eq (h : bs.map Block.content = bs'.map Block.content) :
    r.query bs = r.query bs' := by
  have hentries : ∀ bs : List Block, bs.filterMap Block.entry? =
      (bs.map Block.content).filterMap fun c ↦ (contentFragment? c).map (c.1, ·) := by
    intro bs
    rw [List.filterMap_map]
    rfl
  refine query_eq_of_entries_eq ?_
  rw [hentries, hentries, h]

end Registry

end BlockQuery

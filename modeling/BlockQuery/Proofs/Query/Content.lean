import BlockQuery.Proofs.Query.Arrangement

/-!
# What a query depends on

A query shows a block's type and its value, and nothing else of it. So two lists of blocks with the
same contents have the same query if blocks of one type cannot change places, that is, if types are
distinct.

There is one catch. Blocks of unregistered types keep their own order, so these must not show
either. That is the case in a registry with a kind for every type that has a rule
(`Registry.CoversRules`), such as the built-in one. There **the visible blocks stand in the order of
their places, strictly**, and a strictly sorted list is determined by its elements.
-/

namespace BlockQuery

/-- What a query can show of a block. -/
def Block.content (b : Block) : String × String :=
  (b.type, b.value)

/-- The fragment of a block with given contents. -/
def contentFragment? (c : String × String) : Option String :=
  fragment? c.1 c.2 none

/-- A fragment is written from the contents alone. -/
theorem filterMap_fragment?_eq (bs : List Block) :
    bs.filterMap Block.fragment? = (bs.map Block.content).filterMap contentFragment? := by
  rw [List.filterMap_map]
  rfl

/-- Contents of distinct types are contents of things of distinct types. -/
theorem types_nodup_of_perm {α : Type} {content : α → String × String} {as : List α}
    {contents : List (String × String)} (h : (as.map content).Perm contents)
    (hdistinct : (contents.map Prod.fst).Nodup) : (as.map fun a ↦ (content a).1).Nodup := by
  have htypes := h.map Prod.fst
  rw [List.map_map] at htypes
  exact htypes.nodup_iff.2 hdistinct

theorem map_content_filter (p : String → Bool) (bs : List Block) :
    (bs.filter (p ·.type)).map Block.content = (bs.map Block.content).filter (p ·.1) := by
  rw [List.filter_map]
  rfl

namespace Registry

variable {r : Registry}

/-- There is a kind for every type that has a rule. -/
def CoversRules (r : Registry) : Prop :=
  ∀ type, (ruleOf? type).isSome = true → r.contains type = true

/-- All types with a rule are registered in the built-in registry. -/
theorem coversRules_builtin : builtin.CoversRules := by
  have hall : ∀ p ∈ rules, builtin.contains p.1 = true := by decide
  intro type htype
  obtain ⟨rule, hrule⟩ := Option.isSome_iff_exists.1 htype
  obtain ⟨before, after, hsplit, -⟩ := List.lookup_eq_some_iff.1 hrule
  exact hall (type, rule) (hsplit ▸ List.mem_append_right _ (List.mem_cons_self ..))

/-- Contents that show are of a registered type. -/
theorem contains_of_contentFragment? (hr : r.CoversRules) {c : String × String} {f : String}
    (h : contentFragment? c = some f) : r.contains c.1 = true := by
  obtain ⟨rule, hrule, -⟩ := Option.bind_eq_some_iff.1 h
  exact hr c.1 (Option.isSome_iff_exists.2 ⟨rule, hrule⟩)

theorem slot_lt_size_iff {type : String} : r.slot type < r.size ↔ r.contains type = true := by
  rw [slot, size, List.findIdx_lt_length, contains, List.any_eq_true]

/-- The kind at the place of a registered type has that type. -/
theorem exists_kind_at_slot {type : String} (h : r.contains type = true) :
    ∃ k, r.kinds[r.slot type]? = some k ∧ k.type = type := by
  have hlt : r.kinds.findIdx (·.type == type) < r.kinds.length := slot_lt_size_iff.2 h
  have htype := List.findIdx_getElem (w := hlt)
  exact ⟨_, List.getElem?_eq_getElem hlt, by simpa using htype⟩

/-- Registered types have places of their own. -/
theorem eq_of_slot_eq {s t : String} (hs : r.contains s = true) (h : r.slot s = r.slot t) :
    s = t := by
  have ht : r.contains t = true := slot_lt_size_iff.1 (h ▸ slot_lt_size_iff.2 hs)
  obtain ⟨k, hk, rfl⟩ := exists_kind_at_slot hs
  obtain ⟨l, hl, rfl⟩ := exists_kind_at_slot ht
  rw [h, hl] at hk
  rw [Option.some.inj hk]

/-- The contents of registered types, in registry order. -/
def registeredContents (r : Registry) (bs : List Block) : List (String × String) :=
  ((r.arrange bs).map Block.content).filter (r.contains ·.1)

/-- **Registered contents stand in the strict order of their places** if types are distinct. -/
theorem pairwise_registeredContents {bs : List Block} (hbs : (bs.map Block.type).Nodup) :
    (r.registeredContents bs).Pairwise fun c c' ↦ r.slot c.1 < r.slot c'.1 := by
  have hle : ((r.arrange bs).map Block.content).Pairwise
      fun c c' ↦ r.slot c.1 ≤ r.slot c'.1 :=
    List.pairwise_map.2 (r.pairwise_arrange bs)
  have hne : ((r.arrange bs).map Block.content).Pairwise fun c c' ↦ c.1 ≠ c'.1 :=
    List.pairwise_map.2 (List.pairwise_map.1 (((r.arrange_perm bs).map Block.type).nodup_iff.2 hbs))
  refine ((hle.and hne).filter _).imp_of_mem fun {c c'} hc _ h ↦ ?_
  have hcontains : r.contains c.1 = true := (List.mem_filter.1 hc).2
  exact lt_of_le_of_ne h.1 fun heq ↦ h.2 (eq_of_slot_eq hcontains heq)

/-- **The contents in registry order are the same in whatever order they came,** as types are
distinct. -/
theorem registeredContents_eq_of_perm {bs bs' : List Block} (hbs : (bs.map Block.type).Nodup)
    (h : (bs.map Block.content).Perm (bs'.map Block.content)) :
    r.registeredContents bs = r.registeredContents bs' := by
  have hbs' : (bs'.map Block.type).Nodup :=
    types_nodup_of_perm h.symm (by rwa [List.map_map])
  have hperm : (r.registeredContents bs).Perm (r.registeredContents bs') :=
    ((((r.arrange_perm bs).map _).trans h).trans ((r.arrange_perm bs').map _).symm).filter _
  -- a strict order leaves a permutation nothing to exchange
  refine List.Perm.eq_of_pairwise ?_ (pairwise_registeredContents hbs)
    (pairwise_registeredContents hbs') hperm
  intro c c' _ _ hlt hgt
  exact absurd hgt (Nat.lt_asymm hlt)

/-- Where the registry covers the rules, the fragments are those of registered contents. -/
theorem render_eq_registeredContents (hr : r.CoversRules) (bs : List Block) :
    r.render bs =
      String.intercalate " " ((r.registeredContents bs).filterMap contentFragment?) := by
  have hvisible : ∀ c : String × String,
      contentFragment? c = if r.contains c.1 then contentFragment? c else none := by
    intro c
    split
    · rfl
    · next hc =>
      refine Option.eq_none_iff_forall_ne_some.2 fun f hf ↦ hc ?_
      exact contains_of_contentFragment? hr hf
  rw [render, filterMap_fragment?_eq, registeredContents, List.filterMap_filter]
  exact congrArg _ (List.filterMap_congr fun c _ ↦ hvisible c)

/-- **The query is the same for the same contents,** in whatever order the blocks stand and whatever
else they hold. -/
theorem query_eq_of_perm (hr : r.CoversRules) {bs bs' : List Block}
    (hbs : (bs.map Block.type).Nodup)
    (h : (bs.map Block.content).Perm (bs'.map Block.content)) : r.query bs = r.query bs' := by
  have hhalf : ∀ p : String → Bool,
      r.render (bs.filter (p ·.type)) = r.render (bs'.filter (p ·.type)) := by
    intro p
    have hnodup : ((bs.filter (p ·.type)).map Block.type).Nodup :=
      hbs.sublist (List.filter_sublist.map _)
    have hperm := h.filter (p ·.1)
    rw [← map_content_filter, ← map_content_filter] at hperm
    rw [render_eq_registeredContents hr, render_eq_registeredContents hr,
      registeredContents_eq_of_perm hnodup hperm]
  rw [query, query, hhalf isKeywordType, hhalf (!isKeywordType ·)]

end Registry

end BlockQuery

import BlockQuery.Proofs.Json.Pretty
import BlockQuery.Proofs.Query.StableSort
import BlockQuery.Proofs.Wire.Reports
import BlockQuery.Service.Catalog

/-!
# The whole catalogue

An interpreter is shown every kind of a registry once. The kinds are collected category by category
(`flatMap_filter_perm`), each category in a member of its own, and no two categories have the same
name; so **the members of the catalogue are those of the five categories, only sorted by name**
(`exists_catalog_members`).

What is shown is the catalogue on several lines, between two texts that are the same for every
registry. The catalogue is what is kept of these members (`catalog_eq_settled`), so one who keeps
anything reads it back from there as it is, whatever characters the types and labels hold.
-/

namespace BlockQuery

open Json

theorem intercalate_append_cons {sep : String} (ts us : List String) (t : String) (hts : ts ≠ [])
    (hus : us ≠ []) :
    String.intercalate sep (ts ++ t :: us) =
      String.intercalate sep ts ++ sep ++ t ++ (sep ++ String.intercalate sep us) := by
  rw [String.intercalate_append_of_ne_nil hts (List.cons_ne_nil t us),
    String.intercalate_cons_of_ne_nil hus]
  simp only [String.append_assoc]

/-! ### Entries -/

/-- The members of an entry are written in the order of their keys. -/
theorem Kind.settled_catalogEntry (k : Kind) : k.catalogEntry.settled = k.catalogEntry := by
  have hkeys : ["label", "requiresValue", "type"].Pairwise (· < ·) := by decide
  have hsorted : SortedMembers
      [("label", .text k.label), ("requiresValue", .bool k.needsValue), ("type", .text k.type)] :=
    List.pairwise_map.1 hkeys
  exact congrArg object (settledMembers_eq_append hsorted (by simp [settled]))

theorem settled_entries (ks : List Kind) :
    (list (ks.map Kind.catalogEntry)).settled = list (ks.map Kind.catalogEntry) :=
  congrArg list (settledItems_eq_self (List.forall_mem_map.2 fun k _ ↦ k.settled_catalogEntry))

/-- Categories have different names. -/
theorem Category.nodup_names : (Category.all.map Category.name).Nodup := by
  decide

namespace Registry

variable (r : Registry)

/-! ### Members -/

/-- What the catalogue says of each category, in palette order. -/
def catalogMembers : List (String × Json) :=
  Category.all.map fun c ↦ (c.name, .list ((r.inCategory c).map Kind.catalogEntry))

theorem map_fst_catalogMembers : r.catalogMembers.map Prod.fst = Category.all.map Category.name :=
  List.map_map

/-- Each category is settled, so only their order is left to be. -/
theorem settled_catalogMembers :
    (r.catalogMembers.map fun m ↦ (m.1, m.2.settled)) = r.catalogMembers := by
  rw [catalogMembers, List.map_map]
  exact List.map_congr_left fun c _ ↦ Prod.ext rfl (settled_entries (r.inCategory c))

/-- **The catalogue is what is kept of these members.** -/
theorem catalog_eq_settled : r.catalog = (object r.catalogMembers).settled := by
  have hmembers (cs : List Category) (before : List (String × Json)) :
      cs.foldl (fun members c ↦
          setMember c.name (list ((r.inCategory c).map Kind.catalogEntry)) members) before =
        settledMembers before
          (cs.map fun c ↦ (c.name, .list ((r.inCategory c).map Kind.catalogEntry))) := by
    induction cs generalizing before with
    | nil => rfl
    | cons c cs ih => rw [List.foldl_cons, ih, List.map_cons, settledMembers, settled_entries]
  exact congrArg object (hmembers Category.all [])

/-- The catalogue has these members, in another order, and no name twice. -/
theorem exists_catalog_members :
    ∃ members, r.catalog = object members ∧ (members.map Prod.fst).Nodup ∧
      members.Perm r.catalogMembers := by
  have hkeys : (([] ++ r.catalogMembers).map Prod.fst).Nodup := by
    rw [List.nil_append, map_fst_catalogMembers]
    exact Category.nodup_names
  have hperm := settledMembers_perm hkeys
  rw [settled_catalogMembers, List.nil_append] at hperm
  exact ⟨_, r.catalog_eq_settled, (hperm.map Prod.fst).nodup_iff.2 hkeys, hperm⟩

/-! ### Reading back -/

/-- The catalogue holds no numbers. -/
theorem numbers_catalog : r.catalog.numbers = [] := by
  obtain ⟨members, hcatalog, -, hperm⟩ := r.exists_catalog_members
  rw [hcatalog, numbers, memberNumbers_eq_flatMap, List.flatMap_eq_nil_iff]
  intro m hm
  obtain ⟨c, -, rfl⟩ := List.mem_map.1 (hperm.mem_iff.1 hm)
  exact numbers_list_map (fun _ ↦ rfl) (r.inCategory c)

theorem nesting_catalogMembers_le : (object r.catalogMembers).nesting ≤ 3 := by
  have hentry (k : Kind) : k.catalogEntry.nesting ≤ 1 := le_rfl
  refine Nat.succ_le_succ (membersNesting_le_iff.2 (List.forall_mem_map.2 fun c _ ↦ ?_))
  exact nesting_list_map_le hentry (r.inCategory c)

/-- The catalogue is read back from its text on several lines. -/
theorem run_pretty_catalog : Reader.run Reader.anything r.catalog.pretty = .ok r.catalog := by
  have hnumbers : ∀ n ∈ r.catalog.numbers, n.ReadsBack := by simp [numbers_catalog]
  have hdepth : (object r.catalogMembers).nesting ≤ Reader.maxDepth :=
    r.nesting_catalogMembers_le.trans (by decide)
  have hkept : Reader.anything Reader.maxDepth (object r.catalogMembers).toNode =
      .ok r.catalog := by
    rw [anything_toNode, if_pos hdepth, catalog_eq_settled]
  rw [Reader.run_pretty _ _ hnumbers]
  exact run_compact_of_anything hkept le_rfl hnumbers

/-! ### What is shown -/

/-- What is said in front of a catalogue and behind it is the same for every registry. -/
theorem exists_around_catalog : ∃ before after : String, ∀ r : Registry,
    r.interpreterPrompt = before ++ r.catalog.pretty ++ after :=
  ⟨_, _, fun r ↦
    intercalate_append_cons [_, _, _] (_ :: _) r.catalog.pretty (by simp) (by simp)⟩

/-- **The catalogue shows every kind once, and what is shown can be read back.** It has one member
for every category. The kinds in there are those of the category, in the order of the registry, with
their labels, flags and types; taken together in palette order they are the kinds of the registry,
rearranged. -/
theorem catalog_shows_kinds :
    (∃ before after : String, ∀ r : Registry,
      r.interpreterPrompt = before ++ r.catalog.pretty ++ after) ∧
    ∀ r : Registry,
      Reader.run Reader.anything r.catalog.pretty = .ok r.catalog ∧
      ∃ (members : List (String × Json)) (shown : Category → List Kind),
        r.catalog = object members ∧
        (members.map Prod.fst).Nodup ∧
        members.Perm (Category.all.map fun c ↦ (c.name, .list ((shown c).map fun k ↦ .object
          [("label", .text k.label), ("requiresValue", .bool k.needsValue),
            ("type", .text k.type)]))) ∧
        (∀ c, (shown c).Sublist r.kinds ∧ ∀ k, k ∈ shown c ↔ k ∈ r.kinds ∧ k.category = c) ∧
        (Category.all.flatMap shown).Perm r.kinds ∧ (Category.all.flatMap shown).Nodup := by
  refine ⟨exists_around_catalog, fun r ↦ ⟨r.run_pretty_catalog, ?_⟩⟩
  obtain ⟨members, hcatalog, hkeys, hperm⟩ := r.exists_catalog_members
  have hkinds : (Category.all.flatMap r.inCategory).Perm r.kinds :=
    flatMap_filter_perm (by decide) fun k _ ↦ k.category.mem_all
  refine ⟨members, r.inCategory, hcatalog, hkeys, hperm, fun c ↦ ⟨List.filter_sublist, ?_⟩,
    hkinds, ?_⟩
  · simp [inCategory]
  · exact hkinds.nodup_iff.2 (.of_map _ r.types_nodup)

end Registry

end BlockQuery

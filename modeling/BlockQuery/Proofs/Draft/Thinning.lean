import BlockQuery.Proofs.Draft.Types
import BlockQuery.Proofs.Intake.Types

/-!
# Two ways to keep the last

Proposals are thinned out before they become blocks, and blocks are thinned out when they replace
those of a draft. The one goes by the places of types, the other from the back by what it has kept
so far. Both keep the last of each type, so it should not matter which of them is used.

It matters in one case. Proposals are told apart by the types that they give and blocks by the types
that these resolve to, and **two types that are given can resolve to the same one.** Where no kind
is proposed in two ways, the two agree, block by block and in order, in everything but identifiers;
and only there (`renumbered_replaceAll_instantiate_iff`). A registry that calls every kind by its
type leaves no such choice.
-/

namespace BlockQuery

namespace Draft

/-- **Replacing the blocks by what a replacement left changes nothing.** -/
theorem replaceAll_blocks_replaceAll (d : Draft) (bs : List Block) :
    (d.replaceAll bs).replaceAll (d.replaceAll bs).blocks = d.replaceAll bs :=
  congrArg (Draft.mk d.registry) (foldr_keep_eq_self (foldr_keep_types_nodup bs))

end Draft

/-! ### Blocks for proposals -/

/-- The blocks with identifiers from a supply in place of their own. -/
def renumbered (ids : IdSupply) (bs : List Block) : List Block :=
  bs.mapIdx fun i b ↦ { b with id := ids i }

/-- New identifiers leave the types. -/
theorem map_type_renumbered (ids : IdSupply) (bs : List Block) :
    (renumbered ids bs).map Block.type = bs.map Block.type := by
  refine map_mapIdx_of_forall (fun i b ↦ ?_) bs
  rfl

theorem renumbered_cons (ids : IdSupply) (b : Block) (bs : List Block) :
    renumbered ids (b :: bs) = { b with id := ids 0 } :: renumbered (ids <| · + 1) bs :=
  List.mapIdx_cons

namespace Registry

variable {r : Registry} {ps : List Proposal}

theorem instantiate_cons (r : Registry) (ids : IdSupply) (p : Proposal) (ps : List Proposal) :
    r.instantiate ids (p :: ps) =
      .ofKind (ids 0) (r.kindOf p) p.value :: r.instantiate (ids <| · + 1) ps :=
  List.mapIdx_cons

/-- Blocks are of the types that the proposals are resolved to. -/
theorem map_type_instantiate (r : Registry) (ids : IdSupply) (ps : List Proposal) :
    (r.instantiate ids ps).map Block.type = (ps.map Proposal.type).map r.typeOf := by
  rw [List.map_map]
  refine map_mapIdx_of_forall (fun i p ↦ ?_) ps
  exact r.kindOf_type p

/-- A type that resolves to what another one does is that other one. -/
theorem typeOf_mem_map_iff {type : String} {types : List String}
    (hinj : ∀ t ∈ types, r.typeOf type = r.typeOf t → type = t) :
    r.typeOf type ∈ types.map r.typeOf ↔ type ∈ types := by
  refine ⟨fun h ↦ ?_, List.mem_map_of_mem⟩
  obtain ⟨t, ht, hsame⟩ := List.mem_map.1 h
  exact hinj t ht hsame.symm ▸ ht

/-- **Where types that are given resolve to types of their own, thinning out the blocks is thinning
out the proposals.** -/
theorem renumbered_foldr_keep_instantiate
    (hinj : ∀ s ∈ ps.map Proposal.type, ∀ t ∈ ps.map Proposal.type,
      r.typeOf s = r.typeOf t → s = t) (ids ids' : IdSupply) :
    renumbered ids' ((r.instantiate ids ps).foldr Draft.keep []) =
      r.instantiate ids' (lastOfEachType ps) := by
  induction ps generalizing ids ids' with
  | nil => rfl
  | cons p ps ih =>
    rw [List.map_cons] at hinj
    obtain ⟨hp, hps⟩ := List.forall_mem_cons.1 hinj
    have hrest := ih fun s hs t ht ↦ hps s hs t (List.mem_cons_of_mem _ ht)
    -- the block has a type that is kept behind it if the proposal gives a type that comes again
    have hagain : (Block.ofKind (ids 0) (r.kindOf p) p.value).type ∈
        ((r.instantiate (ids <| · + 1) ps).foldr Draft.keep []).map Block.type ↔
          p.type ∈ ps.map Proposal.type := by
      rw [Draft.mem_types_foldr_keep_iff, map_type_instantiate]
      refine Iff.trans ?_ (typeOf_mem_map_iff fun t ht ↦ hp t (List.mem_cons_of_mem _ ht))
      rw [← r.kindOf_type p]
      rfl
    rw [instantiate_cons, Draft.foldr_keep_cons, lastOfEachType_cons]
    by_cases htype : p.type ∈ ps.map Proposal.type
    · rw [if_pos (hagain.2 htype), if_pos htype]
      exact hrest _ _
    · rw [if_neg (hagain.not.2 htype), if_neg htype, renumbered_cons, hrest, instantiate_cons]
      rfl

/-- **The two ways agree exactly if no kind is proposed in two ways.** -/
theorem renumbered_replaceAll_instantiate_iff (d : Draft) (r : Registry) (ids ids' : IdSupply)
    (ps : List Proposal) :
    renumbered ids' (d.replaceAll (r.instantiate ids ps)).blocks =
        r.instantiate ids' (lastOfEachType ps) ↔ r.CalledOneWay ps := by
  constructor
  · intro h
    -- blocks that are kept have distinct types
    have htypes := Draft.foldr_keep_types_nodup (r.instantiate ids ps)
    rw [← map_type_renumbered ids'] at htypes
    rw [← map_typeOf_nodup_iff, ← map_type_instantiate r ids', ← h]
    exact htypes
  · intro h
    exact renumbered_foldr_keep_instantiate (calledOneWay_iff_inj.1 h) ids ids'

/-- No kind is proposed in two ways if what is found for a type is a kind of that type. -/
theorem calledOneWay_of_find?_type
    (h : ∀ p ∈ ps, ∀ k, r.find? p.type = some k → k.type = p.type) : r.CalledOneWay ps := by
  have hself : ∀ type ∈ ps.map Proposal.type, r.typeOf type = type := by
    intro type htype
    obtain ⟨p, hp, rfl⟩ := List.mem_map.1 htype
    rw [← kindOf_type]
    exact resolve_type (h p hp) _ _
  refine calledOneWay_iff_inj.2 fun s hs t ht hsame ↦ ?_
  rwa [hself s hs, hself t ht] at hsame

/-- **It does not matter whether proposals or blocks are thinned out** where a registry finds a type
as a kind of that type, if at all, as the built-in one always does: what a replacement leaves of the
blocks for all proposals are the blocks for the proposals that stay, in the same order and under
whatever identifiers. And thinning out is done once: replacing the blocks of a draft twice by the
same ones, or by those that a replacement left, is replacing them once. -/
theorem replaceAll_thinsOutAlike :
    (∀ (d : Draft) (r : Registry) (ids ids' : IdSupply) (ps : List Proposal),
      (∀ p ∈ ps, ∀ k, r.find? p.type = some k → k.type = p.type) →
        renumbered ids' (d.replaceAll (r.instantiate ids ps)).blocks =
          r.instantiate ids' (lastOfEachType ps)) ∧
    (∀ (p : Proposal) (k : Kind), builtin.find? p.type = some k → k.type = p.type) ∧
    ∀ (d : Draft) (bs : List Block),
      (d.replaceAll bs).replaceAll bs = d.replaceAll bs ∧
        (d.replaceAll bs).replaceAll (d.replaceAll bs).blocks = d.replaceAll bs := by
  refine ⟨fun d r ids ids' ps h ↦ ?_, fun p k ↦ type_eq_of_builtin_find?, fun d bs ↦ ⟨rfl, ?_⟩⟩
  · exact (renumbered_replaceAll_instantiate_iff d r ids ids' ps).2 (calledOneWay_of_find?_type h)
  · exact d.replaceAll_blocks_replaceAll bs

/-- Proposals that repeat two types, one of which no registry has, for a registry in which kinds go
by other names. -/
def repeatedByType : List Proposal :=
  [⟨"from", "esa", none, none⟩, ⟨"near", "Kourou", some "user", none⟩,
    ⟨"since", "2024-01-31", none, none⟩, ⟨"from", "nasa", some "media", none⟩,
    ⟨"near", "Houston", none, some false⟩]

theorem replaceAll_thinsOutAlike_repeatedByType :
    (∀ p ∈ repeatedByType, ∀ k, renamed.find? p.type = some k → k.type = p.type) ∧
      renumbered (fun _ ↦ ⟨7⟩)
          ((Draft.empty builtin).replaceAll
            (renamed.instantiate countedIds repeatedByType)).blocks =
        renamed.instantiate (fun _ ↦ ⟨7⟩) (lastOfEachType repeatedByType) := by
  have hfind : ∀ p ∈ repeatedByType, ∀ k, renamed.find? p.type = some k → k.type = p.type := by
    decide +kernel
  exact ⟨hfind, replaceAll_thinsOutAlike.1 _ _ _ _ _ hfind⟩

end Registry

end BlockQuery

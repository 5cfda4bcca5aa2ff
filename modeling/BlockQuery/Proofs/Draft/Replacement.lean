import BlockQuery.Proofs.Draft.Types
import BlockQuery.Proofs.Intake.Again
import BlockQuery.Proofs.Query.Entries
import BlockQuery.Proofs.Registry.Flags

/-!
# Replacing blocks by proposals

A draft is bound to a registry. Adding a block asks that registry, and so does the query. Taking
proposals in does not: **it asks the built-in registry, whatever registry the draft is bound to.**

So the blocks that come in are what the registry of the draft would make of the proposals only if it
has the same to say of them as the built-in one (`takeIn_asResolved_iff`). What counts is what shows
in a block (`Kind.Alike`); a kind may go by another name or have other hints. Any difference that
shows is a failure, even one that leaves the query alone.
-/

namespace BlockQuery

/-! ### Kinds that look alike -/

/-- Blocks of the two kinds cannot be told apart. -/
def Kind.Alike (k l : Kind) : Prop :=
  k.type = l.type ∧ k.label = l.label ∧ k.category = l.category ∧ k.needsValue = l.needsValue ∧
    k.takesSecond = l.takesSecond

instance (k l : Kind) : Decidable (k.Alike l) :=
  inferInstanceAs (Decidable (_ ∧ _))

/-- An instance of one kind is an instance of every kind that looks like it. -/
theorem Block.isOf_ofKind_iff {id : BlockId} {k l : Kind} {value : String} :
    (Block.ofKind id k value).IsOf l ↔ k.Alike l := by
  simp only [IsOf, ofKind, Kind.Alike, Block.mk.injEq, true_and, and_true]

/-- A block of the kind that a registry made of a proposal is of the kind that it finds for the
type of the block. -/
theorem Block.IsOf.of_find? {r : Registry} {p : Proposal} {b : Block} (hb : b.IsOf (r.kindOf p))
    {k : Kind} (hk : r.find? b.type = some k) : b.IsOf k := by
  cases hfind : r.find? p.type with
  | some l =>
    rw [Registry.kindOf_eq_of_find? hfind] at hb
    obtain ⟨hl, -⟩ := Registry.type_or_id_of_find? hfind
    rw [hb.type_eq, Registry.find?_type hl] at hk
    exact Option.some.inj hk ▸ hb
  | none =>
    -- an improvised kind has a type that the registry does not find
    have htype : b.type = p.type := by
      rw [hb.type_eq, Registry.kindOf_eq_improvised hfind]
      rfl
    rw [htype, hfind] at hk
    cases hk

namespace Draft

/-- The blocks of a draft are what its registry makes of proposals, and so is its query. -/
structure AsResolved (d : Draft) (ps : List Proposal) : Prop where
  kinds : List.Forall₂ (fun p b ↦ b.IsOf (d.registry.kindOf p)) (lastOfEachType ps) d.blocks
  /-- A block of a type that the registry knows looks like one that was added. -/
  likeAdded : ∀ b ∈ d.blocks, ∀ k, d.registry.find? b.type = some k → b.IsOf k
  query : ∀ ids today, d.compile = d.registry.compile (d.registry.intake ids today ps)

/-- The registry of a draft has the same to say of the proposals that stay as the built-in one. -/
def AgreesOn (d : Draft) (ps : List Proposal) : Prop :=
  ∀ p ∈ lastOfEachType ps, (Registry.builtin.kindOf p).Alike (d.registry.kindOf p)

instance (d : Draft) (ps : List Proposal) : Decidable (d.AgreesOn ps) :=
  inferInstanceAs (Decidable (∀ p ∈ lastOfEachType ps, _))

variable {d : Draft} {ps : List Proposal}

/-- Block by block, what is taken in is of the kinds of the draft's own registry exactly if the
registries agree on the proposals. -/
theorem forall₂_isOf_takeIn_iff (ids : IdSupply) (today : Day) :
    List.Forall₂ (fun p b ↦ b.IsOf (d.registry.kindOf p)) (lastOfEachType ps)
        (d.takeIn ids today ps).blocks ↔ d.AgreesOn ps := by
  refine forall₂_mapIdx_iff (fun i p ↦ ?_) (lastOfEachType ps)
  exact Block.isOf_ofKind_iff

/-- If the registries agree on the proposals, what is taken in looks as if it had been added by its
type. -/
theorem likeAdded_of_agreesOn (h : d.AgreesOn ps) {ids : IdSupply} {today : Day} {b : Block}
    (hb : b ∈ (d.takeIn ids today ps).blocks) {k : Kind} (hk : d.registry.find? b.type = some k) :
    b.IsOf k := by
  obtain ⟨i, hi, rfl⟩ := List.mem_mapIdx.1 hb
  exact (Block.isOf_ofKind_iff.2 (h _ (List.getElem_mem hi))).of_find? hk

/-- The two registries take in the same contents, on whatever days. -/
theorem map_content_intake_of_agreesOn (h : d.AgreesOn ps)
    (habsolute : ∀ p ∈ ps, p.type ∈ dateTypes → ¬NamesRelativeDay p.value) (ids ids' : IdSupply)
    (today today' : Day) :
    (Registry.builtin.intake ids today ps).map Block.content =
      (d.registry.intake ids' today' ps).map Block.content := by
  have hcontent : ∀ (r : Registry) (ids : IdSupply) (today : Day),
      (r.intake ids today ps).map Block.content =
        (lastOfEachType ps).map fun p ↦ ((r.kindOf p).type, settledValue p.type p.value today) := by
    intro r ids today
    refine map_mapIdx_of_forall (fun i p ↦ ?_) _
    rfl
  rw [hcontent, hcontent]
  refine List.map_congr_left fun p hp ↦ ?_
  have hvalue := habsolute p (mem_lastOfEachType hp)
  rw [(h p hp).1, settledValue_eq_self today hvalue, settledValue_eq_self today' hvalue]

/-- **When a replacement respects the registry of the draft.** Proposals without relative days that
are taken into a draft come out as the registry of the draft resolves them exactly if it has the
same to say of those that stay as the built-in registry. -/
theorem takeIn_asResolved_iff (d : Draft) (ids : IdSupply) (today : Day) {ps : List Proposal}
    (habsolute : ∀ p ∈ ps, p.type ∈ dateTypes → ¬NamesRelativeDay p.value) :
    (d.takeIn ids today ps).AsResolved ps ↔ d.AgreesOn ps := by
  refine ⟨fun h ↦ (forall₂_isOf_takeIn_iff ids today).1 h.kinds, fun h ↦ ?_⟩
  refine ⟨(forall₂_isOf_takeIn_iff ids today).2 h, fun b hb k ↦ likeAdded_of_agreesOn h hb, ?_⟩
  intro ids' today'
  refine congrArg Query.text (Registry.query_eq_of_content_eq ?_)
  exact map_content_intake_of_agreesOn h habsolute ids ids' today today'

/-- Proposals that call kinds by their types, and one that makes claims for a type that no registry
knows and speaks of a day that bounds nothing. -/
def byType : List Proposal :=
  [⟨"from", "esa", none, none⟩, ⟨"lang", "today", some "media", some false⟩,
    ⟨"since", "2024-01-31", some "user", none⟩, ⟨"from", "nasa", none, none⟩]

theorem takeIn_asResolved_byType :
    (∀ p ∈ byType, p.type ∈ dateTypes → ¬NamesRelativeDay p.value) ∧
      ((empty .renamed).takeIn Registry.countedIds Day.first byType).AsResolved byType := by
  have habsolute : ∀ p ∈ byType, p.type ∈ dateTypes → ¬NamesRelativeDay p.value := by
    decide +kernel
  refine ⟨habsolute, (takeIn_asResolved_iff _ _ _ habsolute).2 ?_⟩
  decide +kernel

/-- A kind that is proposed by the name that only the registry of the draft has for it is not
recognised, and its block does not show in the query. -/
theorem takeIn_not_asResolved :
    ¬((empty .renamed).takeIn Registry.countedIds Day.first
          [⟨"author", "nasa", none, none⟩]).AsResolved [⟨"author", "nasa", none, none⟩] ∧
      ((empty .renamed).takeIn Registry.countedIds Day.first
          [⟨"author", "nasa", none, none⟩]).compile = "" ∧
      Registry.renamed.compile (Registry.renamed.intake Registry.countedIds Day.first
          [⟨"author", "nasa", none, none⟩]) = "(from:nasa)" := by
  have hsilent : ((empty .renamed).takeIn Registry.countedIds Day.first
      [⟨"author", "nasa", none, none⟩]).compile = "" := by decide +kernel
  have hown : Registry.renamed.compile (Registry.renamed.intake Registry.countedIds Day.first
      [⟨"author", "nasa", none, none⟩]) = "(from:nasa)" := by decide +kernel
  refine ⟨fun h ↦ ?_, hsilent, hown⟩
  have hquery := h.query Registry.countedIds Day.first
  rw [hsilent, show (takeIn _ _ _ _ : Draft).registry = .renamed from rfl, hown] at hquery
  exact absurd hquery (by decide)

end Draft

end BlockQuery

import BlockQuery.Proofs.Intake.Days

/-!
# Taking in again

A block that was taken in can be reported to whoever takes proposals in. What comes of the report is
the block itself, under a new identifier, if three things hold:

* the report resolves to the kind that the block is of. **This is so for every registry**
  (`kindOf_toProposal`): a kind that was found is found again by its own type, and a kind that was
  improvised is improvised again, since all that was claimed of it is claimed once more, in full;
* no later report has the same type, so none takes the place of this one;
* the value is no relative day any more.

The last two may fail for a registry that calls kinds by other names than their types. They never
fail for the built-in one, on any day but the first of the calendar.
-/

namespace BlockQuery

/-! ### Kinds are resolved once -/

/-- A category is read back by its name. -/
theorem Category.read?_name (c : Category) : read? c.name = some c := by
  cases c <;> decide

namespace Registry

variable {r : Registry}

/-- What a proposal claims of its kind is not asked where the registry has one. -/
theorem kindOf_eq_of_find? {p : Proposal} {k : Kind} (h : r.find? p.type = some k) :
    r.kindOf p = k := by
  rw [kindOf, resolve, h, Option.getD_some]

/-- The category and the flag of an improvised kind are those that were claimed. -/
theorem kindOf_eq_improvised {p : Proposal} (h : r.find? p.type = none) :
    r.kindOf p = .improvised p.type ((p.category.bind Category.read?).getD .keyword)
      (p.needsValue.getD true) := by
  rw [kindOf, resolve, h, Option.getD_none]

/-- **A kind that was resolved is resolved again,** from the report of a block of that kind. -/
theorem kindOf_toProposal (r : Registry) (p : Proposal) (id : BlockId) (value : String) :
    r.kindOf (Block.ofKind id (r.kindOf p) value).toProposal = r.kindOf p := by
  cases hfind : r.find? p.type with
  | some k =>
    obtain ⟨hk, -⟩ := type_or_id_of_find? hfind
    rw [kindOf_eq_of_find? hfind]
    exact kindOf_eq_of_find? (find?_type hk)
  | none =>
    -- the improvised kind has the type that was not found
    have hagain := kindOf_eq_improvised hfind
    rw [hagain]
    have hreport : r.find? (Block.ofKind id (.improvised p.type
        ((p.category.bind Category.read?).getD .keyword) (p.needsValue.getD true))
        value).toProposal.type = none := hfind
    rw [kindOf_eq_improvised hreport]
    simp only [Block.toProposal, Block.ofKind, Kind.improvised, Kind.named, Option.bind_some,
      Category.read?_name, Option.getD_some]

/-! ### Blocks are made once -/

/-- The registry makes the same block of its report, but for the identifier. -/
def Remakes (r : Registry) (b : Block) : Prop :=
  ∀ id, Block.ofKind id (r.kindOf b.toProposal) b.value = { b with id := id }

/-- **A block that was taken in is made again from its report.** -/
theorem remakes_of_mem_intake {ids : IdSupply} {today : Day} {ps : List Proposal} {b : Block}
    (h : b ∈ r.intake ids today ps) : r.Remakes b := by
  obtain ⟨i, hi, rfl⟩ := List.mem_mapIdx.1 h
  intro id
  rw [kindOf_toProposal]
  rfl

/-- Blocks of distinct types that the registry remakes, without relative days, are taken in as they
are. -/
theorem intake_map_toProposal (ids : IdSupply) {today : Day} {bs : List Block}
    (htypes : (bs.map Block.type).Nodup) (hremakes : ∀ b ∈ bs, r.Remakes b)
    (hsettled : ∀ b ∈ bs, settled? b.type b.value today = none) :
    r.intake ids today (bs.map Block.toProposal) =
      bs.mapIdx fun i b ↦ { b with id := ids i } := by
  rw [intake, lastOfEachType_eq_self (by rwa [map_type_toProposal])]
  refine List.ext_getElem (by simp) fun i hi _ ↦ ?_
  rw [List.length_mapIdx, List.length_map] at hi
  have hb : bs[i] ∈ bs := List.getElem_mem hi
  have hvalue : settled? bs[i].toProposal.type bs[i].toProposal.value today = none :=
    hsettled _ hb
  rw [List.getElem_mapIdx, List.getElem_mapIdx, List.getElem_map, hvalue, Option.getD_none]
  exact hremakes _ hb (ids i)

/-- **Taking in is done once.** What the built-in registry took in on any day but the first, and
takes in again on whatever day, comes out as it was: the same blocks in the same order, in
everything but their identifiers. -/
theorem intake_toProposal_intake (ids ids' : IdSupply) {today : Day} (htoday : today ≠ Day.first)
    (later : Day) (ps : List Proposal) :
    builtin.intake ids' later ((builtin.intake ids today ps).map Block.toProposal) =
      (builtin.intake ids today ps).mapIdx fun i b ↦ { b with id := ids' i } := by
  have htypes := builtin_intake_types_nodup ids today ps
  refine intake_map_toProposal ids' htypes (fun b hb ↦ ?_) fun b hb ↦ ?_
  · exact remakes_of_mem_intake hb
  · exact builtin_settled?_of_mem_intake htoday hb later

/-- Proposals that repeat a type, speak of a relative day, claim what the registry knows better, and
name two types that it does not know, for which some claims are missing or no category. -/
def hastyProposals : List Proposal :=
  [⟨"from", "esa", none, none⟩, ⟨"until", " YESTERDAY\n", some "mood", some false⟩,
    ⟨"near", "Kourou", some " User ", none⟩, ⟨"from", "nasa", some "media", none⟩,
    ⟨"lang", "today", some "tongue", some false⟩]

theorem intake_toProposal_intake_hasty :
    (⟨2024, 3, 1, by decide⟩ : Day) ≠ Day.first ∧
      builtin.intake (fun _ ↦ ⟨7⟩) ⟨2031, 12, 24, by decide⟩
          ((builtin.intake countedIds ⟨2024, 3, 1, by decide⟩ hastyProposals).map
            Block.toProposal) =
        (builtin.intake countedIds ⟨2024, 3, 1, by decide⟩ hastyProposals).mapIdx
          fun _ b ↦ { b with id := ⟨7⟩ } :=
  have htoday : (⟨2024, 3, 1, by decide⟩ : Day) ≠ Day.first := by decide
  ⟨htoday, intake_toProposal_intake countedIds (fun _ ↦ ⟨7⟩) htoday _ hastyProposals⟩

end Registry

end BlockQuery

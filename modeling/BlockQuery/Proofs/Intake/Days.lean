import BlockQuery.Proofs.Intake.Types
import Mathlib.Data.List.Forall2

/-!
# Relative days that are taken in

Whether a value is settled depends on the type that its proposal gives, but the block has the type
that this resolves to. Where one of the two bounds a range of days and the other does not, a
relative day can get past, or a value that is none of a day's business can be replaced.

`settles_intake_iff` says that **these are the only ways to go wrong**: block by block, no relative
day stays and nothing else changes, exactly if the two types agree for every proposal that names a
relative day. In the built-in registry they always do, so what comes in there is never settled
again.
-/

namespace BlockQuery

/-! ### Block by block -/

/-- Items made by place, and related to their origins in a way that the place does not matter to. -/
theorem forall₂_mapIdx_iff {α β : Type} {R : α → β → Prop} {P : α → Prop} {f : ℕ → α → β}
    (h : ∀ i a, R a (f i a) ↔ P a) (l : List α) : List.Forall₂ R l (l.mapIdx f) ↔ ∀ a ∈ l, P a := by
  induction l generalizing f with
  | nil => simp
  | cons a l ih =>
    rw [List.mapIdx_cons, List.forall₂_cons, h, ih fun i ↦ h (i + 1), List.forall_mem_cons]

/-- What a block owes to its proposal: if it bounds a range of days it names no relative day, and
otherwise it holds what was proposed. -/
structure Settles (p : Proposal) (b : Block) : Prop where
  absolute : b.type ∈ dateTypes → ¬NamesRelativeDay b.value
  verbatim : b.type ∉ dateTypes → b.value = p.value

/-- Settling by one type does right by a block of another exactly if no relative day is proposed for
which it matters which of the two is asked. -/
theorem settles_iff {p : Proposal} {b : Block} {today : Day}
    (hvalue : b.value = settledValue p.type p.value today) (htoday : today ≠ Day.first) :
    Settles p b ↔ (NamesRelativeDay p.value → (p.type ∈ dateTypes ↔ b.type ∈ dateTypes)) := by
  by_cases hname : NamesRelativeDay p.value
  · by_cases hp : p.type ∈ dateTypes
    · -- the value is settled, which only a block that bounds a range of days may want
      have hne : b.value ≠ p.value := hvalue ▸ settledValue_ne_self hp hname htoday
      have habsolute : ¬NamesRelativeDay b.value :=
        hvalue ▸ not_namesRelativeDay_settledValue hp htoday
      constructor
      · intro h _
        exact iff_of_true hp (by_contra fun hb ↦ hne (h.verbatim hb))
      · intro h
        exact ⟨fun _ ↦ habsolute, fun hb ↦ absurd ((h hname).1 hp) hb⟩
    · -- the value stays, which a block that bounds a range of days must not have
      have hsame : b.value = p.value :=
        hvalue.trans (settledValue_eq_self today fun h ↦ absurd h hp)
      constructor
      · intro h _
        exact iff_of_false hp fun hb ↦ h.absolute hb (hsame ▸ hname)
      · intro h
        exact ⟨fun hb ↦ absurd ((h hname).2 hb) hp, fun _ ↦ hsame⟩
  · have hsame : b.value = p.value := hvalue.trans (settledValue_eq_self today fun _ ↦ hname)
    exact iff_of_true ⟨fun _ ↦ hsame ▸ hname, fun _ ↦ hsame⟩ fun h ↦ absurd h hname

namespace Registry

/-- **When relative days do not get past.** On any day but the first, for any registry, each block
that is taken in holds what it should exactly if every proposal that stays and names a relative day
gives a type that bounds a range of days just when the type that it resolves to does. -/
theorem settles_intake_iff (r : Registry) (ids : IdSupply) {today : Day}
    (htoday : today ≠ Day.first) (ps : List Proposal) :
    List.Forall₂ Settles (lastOfEachType ps) (r.intake ids today ps) ↔
      ∀ p ∈ lastOfEachType ps, NamesRelativeDay p.value →
        (p.type ∈ dateTypes ↔ (r.kindOf p).type ∈ dateTypes) := by
  refine forall₂_mapIdx_iff (fun i p ↦ ?_) (lastOfEachType ps)
  exact settles_iff rfl htoday

/-- Relative days where they are settled and where they are none of the block's business, and a day
in full behind a name. -/
def daysAsNamed : List Proposal :=
  [⟨"since", " Yesterday\n", none, none⟩, ⟨"author", "TODAY", none, none⟩,
    ⟨"start", "2024-01-31", none, none⟩]

theorem settles_intake_daysAsNamed :
    (⟨2024, 3, 21, by decide⟩ : Day) ≠ Day.first ∧
      List.Forall₂ Settles (lastOfEachType daysAsNamed)
        (renamed.intake countedIds ⟨2024, 3, 21, by decide⟩ daysAsNamed) := by
  have htoday : (⟨2024, 3, 21, by decide⟩ : Day) ≠ Day.first := by decide
  refine ⟨htoday, (renamed.settles_intake_iff countedIds htoday daysAsNamed).2 ?_⟩
  decide +kernel

/-- A relative day gets past behind a name, and what a name hides is taken for a day. -/
theorem relative_days_mistaken :
    (∃ b ∈ renamed.intake countedIds ⟨2024, 3, 21, by decide⟩
        [⟨"start", "yesterday", none, none⟩, ⟨"until", "Today", none, none⟩],
      b.type ∈ dateTypes ∧ NamesRelativeDay b.value) ∧
    ∃ b ∈ renamed.intake countedIds ⟨2024, 3, 21, by decide⟩
        [⟨"start", "yesterday", none, none⟩, ⟨"until", "Today", none, none⟩],
      b.type ∉ dateTypes ∧ b.value ∉ ["yesterday", "Today"] := by
  decide +kernel

/-! ### The built-in registry -/

/-- **What the built-in registry takes in is never settled again,** on whatever day. -/
theorem builtin_settled?_of_mem_intake {ids : IdSupply} {today : Day} (htoday : today ≠ Day.first)
    {ps : List Proposal} {b : Block} (h : b ∈ builtin.intake ids today ps) (later : Day) :
    settled? b.type b.value later = none := by
  obtain ⟨p, -, htype, hvalue⟩ := exists_proposal_of_mem_intake h
  rw [← kindOf_type, builtin_kindOf_type] at htype
  rw [htype, hvalue]
  exact settled?_settledValue htoday later

end Registry

end BlockQuery

import BlockQuery.Proofs.Calendar.Relative
import BlockQuery.Proofs.Registry.Resolve

/-!
# The types of blocks that are taken in

Proposals are thinned out by the types that they give, but the blocks made of them have the types
that these resolve to. A registry can know a kind by two types: by its own, and by its name, where
that is not the type of a kind. **So two proposals can stay that come to blocks of the same type.**

This happens exactly if a kind is proposed in both ways (`intake_types_distinct_iff`). Otherwise the
types of the blocks are distinct, and each block holds what the last proposal of its type says.
-/

namespace BlockQuery

namespace Registry

variable {r : Registry}

/-! ### What types resolve to -/

/-- The type of the kind that a type resolves to. -/
def typeOf (r : Registry) (key : String) : String :=
  ((r.find? key).map Kind.type).getD key

/-- A proposal is made a block of the type that its own type is resolved to. -/
theorem kindOf_type (r : Registry) (p : Proposal) : (r.kindOf p).type = r.typeOf p.type := by
  rw [kindOf, resolve, typeOf]
  cases r.find? p.type <;> rfl

/-- The type of a kind is resolved to itself. -/
theorem typeOf_of_contains {key : String} (h : r.contains key = true) : r.typeOf key = key := by
  obtain ⟨k, hk, htype⟩ := exists_find?_of_contains h
  rw [typeOf, hk, Option.map_some, Option.getD_some, htype]

/-- A type resolves to itself, unless it is the name of a kind and no type. -/
theorem typeOf_eq_self_or (r : Registry) (key : String) :
    r.typeOf key = key ∨
      r.contains key = false ∧ ∃ k ∈ r.kinds, k.id = key ∧ r.typeOf key = k.type := by
  cases hkey : r.contains key with
  | true => exact .inl (typeOf_of_contains hkey)
  | false =>
    cases hfind : r.find? key with
    | none => exact .inl (by rw [typeOf, hfind, Option.map_none, Option.getD_none])
    | some k =>
      obtain ⟨hk, hid⟩ := id_of_find? hkey hfind
      refine .inr ⟨rfl, k, hk, hid, ?_⟩
      rw [typeOf, hfind, Option.map_some, Option.getD_some]

/-- The name of a kind resolves to the type of the kind, unless it is a type itself. -/
theorem typeOf_id {k : Kind} (hk : k ∈ r.kinds) (hname : r.contains k.id = false) :
    r.typeOf k.id = k.type := by
  rw [typeOf, find?_eq_some_iff.2 ⟨hk, .inr ⟨hname, rfl⟩⟩, Option.map_some, Option.getD_some]

/-- **Two types resolve to the same one only if they are the type and the name of one kind.** -/
theorem exists_kind_of_typeOf_eq {s t : String} (hne : s ≠ t) (h : r.typeOf s = r.typeOf t) :
    ∃ k ∈ r.kinds, r.contains k.id = false ∧ (k.type = s ∧ k.id = t ∨ k.type = t ∧ k.id = s) := by
  rcases r.typeOf_eq_self_or s with hs | ⟨hnew, k, hk, rfl, hs⟩ <;>
    rcases r.typeOf_eq_self_or t with ht | ⟨hnew', l, hl, rfl, ht⟩
  · exact absurd (hs.symm.trans (h.trans ht)) hne
  · exact ⟨l, hl, hnew', .inl ⟨ht.symm.trans (h.symm.trans hs), rfl⟩⟩
  · exact ⟨k, hk, hnew, .inr ⟨hs.symm.trans (h.trans ht), rfl⟩⟩
  · obtain rfl : k = l := eq_of_type_eq hk hl (hs.symm.trans (h.trans ht))
    exact absurd rfl hne

/-! ### Proposals for one kind -/

/-- No kind is proposed by its type and also by its name, where that is not a type itself. -/
def CalledOneWay (r : Registry) (ps : List Proposal) : Prop :=
  ∀ k ∈ r.kinds, r.contains k.id = false →
    k.type ∈ ps.map Proposal.type → k.id ∉ ps.map Proposal.type

/-- Types are called one way if none of two different names leads to the same type. -/
theorem calledOneWay_iff_inj {ps : List Proposal} :
    r.CalledOneWay ps ↔ ∀ s ∈ ps.map Proposal.type, ∀ t ∈ ps.map Proposal.type,
      r.typeOf s = r.typeOf t → s = t := by
  constructor
  · intro hone s hs t ht h
    by_contra hne
    obtain ⟨k, hk, hname, ⟨rfl, rfl⟩ | ⟨rfl, rfl⟩⟩ := exists_kind_of_typeOf_eq hne h
    · exact hone k hk hname hs ht
    · exact hone k hk hname ht hs
  · intro hinj k hk hname htype hid
    have hsame : r.typeOf k.type = r.typeOf k.id := by
      rw [typeOf_of_contains (contains_type hk), typeOf_id hk hname]
    have hnamed := hinj _ htype _ hid hsame
    rw [← hnamed, contains_type hk] at hname
    cases hname

/-! ### The blocks -/

/-- A block that is taken in is made of a proposal that stays. -/
theorem exists_proposal_of_mem_intake {r : Registry} {ids : IdSupply} {today : Day}
    {ps : List Proposal} {b : Block} (h : b ∈ r.intake ids today ps) :
    ∃ p ∈ lastOfEachType ps,
      b.type = r.typeOf p.type ∧ b.value = settledValue p.type p.value today := by
  obtain ⟨i, hi, rfl⟩ := List.mem_mapIdx.1 h
  exact ⟨_, List.getElem_mem hi, r.kindOf_type _, rfl⟩

/-- The types that the proposals that stay resolve to are distinct exactly if no kind is proposed in
two ways. -/
theorem map_typeOf_nodup_iff (r : Registry) (ps : List Proposal) :
    (((lastOfEachType ps).map Proposal.type).map r.typeOf).Nodup ↔ r.CalledOneWay ps := by
  rw [List.nodup_map_iff_inj_on (lastOfEachType_types_nodup ps), calledOneWay_iff_inj]
  simp only [mem_types_lastOfEachType_iff]

/-- **Types of blocks taken in are distinct exactly if no type is called in two ways.** -/
theorem intake_types_nodup_iff (r : Registry) (ids : IdSupply) (today : Day) (ps : List Proposal) :
    ((r.intake ids today ps).map Block.type).Nodup ↔ r.CalledOneWay ps := by
  have htypes : (r.intake ids today ps).map Block.type =
      ((lastOfEachType ps).map Proposal.type).map r.typeOf := by
    rw [map_type_intake, List.map_map]
    exact List.map_congr_left fun p _ ↦ r.kindOf_type p
  rw [htypes, map_typeOf_nodup_iff]

/-- A block holds what is said by the last of the proposals that resolve to its type. -/
def HoldsLast (r : Registry) (today : Day) (ps : List Proposal) (b : Block) : Prop :=
  ∃ before p after, ps = before ++ p :: after ∧ (r.kindOf p).type = b.type ∧
    (∀ q ∈ after, (r.kindOf q).type ≠ b.type) ∧ b.value = settledValue p.type p.value today

/-- If no type is called in two ways, each block holds the last value proposed for its type. -/
theorem holdsLast_of_mem_intake {r : Registry} {ids : IdSupply} {today : Day} {ps : List Proposal}
    (hone : r.CalledOneWay ps) {b : Block} (h : b ∈ r.intake ids today ps) :
    r.HoldsLast today ps b := by
  obtain ⟨p, hp, htype, hvalue⟩ := exists_proposal_of_mem_intake h
  obtain ⟨before, after, hps, hafter⟩ := exists_split_of_mem_lastOfEachType hp
  have hkind : (r.kindOf p).type = b.type := by rw [htype, kindOf_type]
  refine ⟨before, p, after, hps, hkind, fun q hq hsame ↦ hafter q hq ?_, hvalue⟩
  -- a later proposal with another type cannot come to the same one
  rw [kindOf_type, htype] at hsame
  exact calledOneWay_iff_inj.1 hone _ (List.mem_map.2 ⟨q, by simp [hps, hq], rfl⟩) _
    (List.mem_map.2 ⟨p, by simp [hps], rfl⟩) hsame

/-- **When blocks that are taken in have distinct types.** For any registry this is the case exactly
if no kind is proposed both by its type and by its name. Then every block holds what is said by the
last of the proposals that resolve to its type. -/
theorem intake_types_distinct_iff (r : Registry) (ids : IdSupply) (today : Day)
    (ps : List Proposal) :
    ((r.intake ids today ps).Pairwise (fun a b ↦ a.type ≠ b.type) ↔ r.CalledOneWay ps) ∧
      (r.CalledOneWay ps → ∀ b ∈ r.intake ids today ps, r.HoldsLast today ps b) := by
  refine ⟨?_, fun hone b hb ↦ holdsLast_of_mem_intake hone hb⟩
  rw [← intake_types_nodup_iff r ids today ps, List.Nodup, List.pairwise_map]

/-- Kinds that go by names of their own. The name of the third one is the type of a block elsewhere,
but no type here. -/
def renamedKinds : List Kind :=
  [{ Kind.named "from" "From these Accounts" .user true with id := "author" },
    { Kind.named "since" "Since Date" .date true with id := "start" },
    { Kind.named "all-words" "All of these words" .keyword true with id := "until" }]

/-- The registry of these kinds. -/
def renamed : Registry :=
  have hfault : firstFault? [] renamedKinds = none := by decide +kernel
  have sound := sound_of_firstFault?_eq_none hfault .nil .nil
  ⟨renamedKinds, sound.1, sound.2.1, sound.2.2.1, sound.2.2.2.1, sound.2.2.2.2⟩

/-- Proposals that call every kind in one way only, one of them twice. -/
def calledByName : List Proposal :=
  [⟨"author", "nasa", none, none⟩, ⟨"since", "today", none, none⟩, ⟨"lang", "en", none, none⟩,
    ⟨"author", "esa", none, none⟩]

/-- Identifiers that count the blocks of a batch. -/
def countedIds : IdSupply :=
  fun i ↦ ⟨.ofNat 128 i⟩

theorem intake_types_distinct_calledByName :
    renamed.CalledOneWay calledByName ∧
      (renamed.intake countedIds ⟨2024, 3, 21, by decide⟩ calledByName).Pairwise
        (fun a b ↦ a.type ≠ b.type) ∧
      ∀ b ∈ renamed.intake countedIds ⟨2024, 3, 21, by decide⟩ calledByName,
        renamed.HoldsLast ⟨2024, 3, 21, by decide⟩ calledByName b := by
  have hone : renamed.CalledOneWay calledByName := by
    unfold CalledOneWay
    decide
  have h := renamed.intake_types_distinct_iff countedIds ⟨2024, 3, 21, by decide⟩ calledByName
  exact ⟨hone, h.1.2 hone, h.2 hone⟩

/-- A kind that is proposed by its name and by its type comes in twice. -/
theorem intake_types_not_distinct :
    ¬(renamed.intake countedIds ⟨2024, 3, 21, by decide⟩
        [⟨"author", "nasa", none, none⟩, ⟨"from", "esa", none, none⟩]).Pairwise
      fun a b ↦ a.type ≠ b.type := by
  decide +kernel

end Registry

end BlockQuery

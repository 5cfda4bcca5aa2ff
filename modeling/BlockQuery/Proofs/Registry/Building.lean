import BlockQuery.Registry.Basic
import Mathlib.Data.List.Basic
import Mathlib.Order.Bounds.Basic

/-!
# Building a registry

A list of kinds is *sound* if none of its types, names and labels is blank, and no two kinds share a
type or a name. **Exactly the sound lists make registries** (`ofKinds_verdict`), and a registry
keeps the list that it was built from.

Of a list that is not sound, some first kind is to blame: up to there every prefix is sound. The
fault of that kind is reported, and no other. A kind can have several faults, so they are ranked:
what is blank comes before what is repeated.
-/

namespace BlockQuery

/-! ### Sound lists -/

/-- The text has a character that is not blank. -/
def Text.Filled (s : String) : Prop :=
  ∃ c ∈ s.toList, isBlank c = false

/-- A text is filled if it has a character that is not blank. -/
theorem Text.allBlank_eq_false_iff {s : String} : allBlank s = false ↔ Filled s := by
  rw [allBlank, List.all_eq_false, Filled]
  simp only [Bool.not_eq_true]

theorem Text.allBlank_eq_true_iff {s : String} : allBlank s = true ↔ ¬Filled s := by
  rw [← allBlank_eq_false_iff, Bool.not_eq_false]

/-- No text of the kind that must say something is blank. -/
structure Kind.Filled (k : Kind) : Prop where
  type : Text.Filled k.type
  id : Text.Filled k.id
  label : Text.Filled k.label

namespace Registry

variable {before ks : List Kind} {k : Kind} {f : Fault}

/-- No text of the kinds is blank, and they have distinct types and distinct names. -/
structure Sound (ks : List Kind) : Prop where
  filled : ∀ k ∈ ks, k.Filled
  types_ne : ks.Pairwise (·.type ≠ ·.type)
  ids_ne : ks.Pairwise (·.id ≠ ·.id)

theorem sound_nil : Sound [] :=
  ⟨by simp, .nil, .nil⟩

/-- Leaving kinds out does no harm. -/
theorem Sound.sublist {ls : List Kind} (h : Sound ks) (hsub : ls.Sublist ks) : Sound ls :=
  ⟨fun k hk ↦ h.filled k (hsub.subset hk), h.types_ne.sublist hsub, h.ids_ne.sublist hsub⟩

/-- A registry is built from a sound list. -/
theorem sound_kinds (r : Registry) : Sound r.kinds where
  filled k hk :=
    ⟨Text.allBlank_eq_false_iff.1 (r.type_not_blank k hk),
      Text.allBlank_eq_false_iff.1 (r.id_not_blank k hk),
      Text.allBlank_eq_false_iff.1 (r.label_not_blank k hk)⟩
  types_ne := List.pairwise_map.1 r.types_nodup
  ids_ne := List.pairwise_map.1 r.ids_nodup

/-! ### The fault of one kind -/

/-- What is reported of a kind that stands behind others: the first of its faults in this order. -/
inductive Reported (before : List Kind) (k : Kind) : Fault → Prop where
  | blankType (htype : ¬Text.Filled k.type) : Reported before k .blankType
  | blankId (htype : Text.Filled k.type) (hid : ¬Text.Filled k.id) :
      Reported before k (.blankId k.type)
  | blankLabel (htype : Text.Filled k.type) (hid : Text.Filled k.id)
      (hlabel : ¬Text.Filled k.label) : Reported before k (.blankLabel k.type)
  | repeatedType (hk : k.Filled) (htype : ∃ l ∈ before, l.type = k.type) :
      Reported before k (.repeatedType k.type)
  | repeatedId (hk : k.Filled) (htype : ∀ l ∈ before, l.type ≠ k.type)
      (hid : ∃ l ∈ before, l.id = k.id) : Reported before k (.repeatedId k.id)

/-- A fault that is found is the first in the order of the checks. -/
theorem reported_of_faultBehind? (h : faultBehind? before k = some f) : Reported before k f := by
  simp only [faultBehind?, List.mem_map] at h
  split at h
  · next htype =>
    cases h
    exact .blankType (Text.allBlank_eq_true_iff.1 htype)
  next htype =>
  rw [Text.allBlank_eq_true_iff, not_not] at htype
  split at h
  · next hid =>
    cases h
    exact .blankId htype (Text.allBlank_eq_true_iff.1 hid)
  next hid =>
  rw [Text.allBlank_eq_true_iff, not_not] at hid
  split at h
  · next hlabel =>
    cases h
    exact .blankLabel htype hid (Text.allBlank_eq_true_iff.1 hlabel)
  next hlabel =>
  rw [Text.allBlank_eq_true_iff, not_not] at hlabel
  split at h
  · next hsame =>
    cases h
    exact .repeatedType ⟨htype, hid, hlabel⟩ hsame
  next hnew =>
  split at h
  · next hsame =>
    cases h
    exact .repeatedId ⟨htype, hid, hlabel⟩ (fun l hl hlk ↦ hnew ⟨l, hl, hlk⟩) hsame
  · cases h

/-- The first fault in the order of the checks is found. -/
theorem faultBehind?_of_reported (h : Reported before k f) : faultBehind? before k = some f := by
  have hblank {s : String} (hs : ¬Text.Filled s) := Text.allBlank_eq_true_iff.2 hs
  have hfilled {s : String} (hs : Text.Filled s) := Text.allBlank_eq_false_iff.2 hs
  simp only [faultBehind?, List.mem_map]
  cases h with
  | blankType htype => simp [hblank htype]
  | blankId htype hid => simp [hfilled htype, hblank hid]
  | blankLabel htype hid hlabel => simp [hfilled htype, hfilled hid, hblank hlabel]
  | repeatedType hk htype => simp [hfilled hk.type, hfilled hk.id, hfilled hk.label, htype]
  | repeatedId hk htype hid =>
    have hnew : ¬∃ l ∈ before, l.type = k.type := fun ⟨l, hl, hlk⟩ ↦ htype l hl hlk
    simp [hfilled hk.type, hfilled hk.id, hfilled hk.label, hnew, hid]

theorem faultBehind?_eq_some_iff : faultBehind? before k = some f ↔ Reported before k f :=
  ⟨reported_of_faultBehind?, faultBehind?_of_reported⟩

/-- A kind of which something is reported breaks the list that ends with it. -/
theorem Reported.not_sound (h : Reported before k f) : ¬Sound (before ++ [k]) := by
  intro hsound
  have hk := hsound.filled k (by simp)
  have htypes := (List.pairwise_append.1 hsound.types_ne).2.2
  have hids := (List.pairwise_append.1 hsound.ids_ne).2.2
  cases h with
  | blankType htype => exact htype hk.type
  | blankId _ hid => exact hid hk.id
  | blankLabel _ _ hlabel => exact hlabel hk.label
  | repeatedType _ hsame =>
    obtain ⟨l, hl, hlk⟩ := hsame
    exact htypes l hl k (List.mem_singleton_self k) hlk
  | repeatedId _ _ hsame =>
    obtain ⟨l, hl, hlk⟩ := hsame
    exact hids l hl k (List.mem_singleton_self k) hlk

/-! ### The first fault of a list -/

theorem take_succ_of_getElem? {i : ℕ} (h : ks[i]? = some k) :
    ks.take (i + 1) = ks.take i ++ [k] := by
  rw [List.take_add_one, h, Option.toList_some]

/-- The first fault is that of a kind, behind kinds that have none. -/
theorem firstFault?_eq_some_iff :
    firstFault? before ks = some f ↔
      ∃ i k, ks[i]? = some k ∧ firstFault? before (ks.take i) = none ∧
        faultBehind? (before ++ ks.take i) k = some f := by
  induction ks generalizing before with
  | nil => simp [firstFault?]
  | cons l ks ih =>
    rw [firstFault?, Option.or_eq_some_iff, ih]
    constructor
    · rintro (h | ⟨hl, i, k, hk, hfront, h⟩)
      · exact ⟨0, l, rfl, rfl, by simpa using h⟩
      · refine ⟨i + 1, k, hk, ?_, by simpa using h⟩
        rw [List.take_succ_cons, firstFault?, hl, hfront, Option.or_none]
    · rintro ⟨i, k, hk, hfront, h⟩
      cases i with
      | zero =>
        obtain rfl : l = k := Option.some.inj hk
        exact .inl (by simpa using h)
      | succ i =>
        rw [List.take_succ_cons, firstFault?, Option.or_eq_none_iff] at hfront
        exact .inr ⟨hfront.1, i, k, hk, hfront.2, by simpa using h⟩

/-- A list is refused exactly for its first fault. -/
theorem ofKinds_eq_error_iff : ofKinds ks = .error f ↔ firstFault? [] ks = some f := by
  unfold ofKinds
  split
  · next g hg => simp [hg]
  · next hnone => simp [hnone]

/-- A list without a fault makes the registry that holds it. -/
theorem exists_ofKinds (h : firstFault? [] ks = none) : ∃ r, ofKinds ks = .ok r ∧ r.kinds = ks := by
  unfold ofKinds
  split
  · next f hf =>
    rw [h] at hf
    cases hf
  · exact ⟨_, rfl, rfl⟩

/-- **A list has no fault exactly if it is sound.** -/
theorem firstFault?_eq_none_iff : firstFault? [] ks = none ↔ Sound ks := by
  constructor
  · intro h
    obtain ⟨r, -, rfl⟩ := exists_ofKinds h
    exact r.sound_kinds
  · intro hsound
    by_contra h
    obtain ⟨f, hf⟩ := Option.ne_none_iff_exists'.1 h
    obtain ⟨i, k, hk, -, hfault⟩ := firstFault?_eq_some_iff.1 hf
    refine (faultBehind?_eq_some_iff.1 hfault).not_sound (hsound.sublist ?_)
    rw [List.nil_append, ← take_succ_of_getElem? hk]
    exact List.take_sublist _ _

/-- A registry is told by its kinds. -/
theorem ofKinds_eq_ok_iff {r : Registry} : ofKinds ks = .ok r ↔ r.kinds = ks := by
  constructor
  · unfold ofKinds
    split
    · rintro ⟨⟩
    · rintro ⟨⟩
      rfl
  · rintro rfl
    obtain ⟨r', hr', hkinds⟩ := exists_ofKinds (firstFault?_eq_none_iff.2 r.sound_kinds)
    obtain rfl : r' = r := by
      cases r'
      cases r
      cases hkinds
      rfl
    exact hr'

/-- A prefix is the first that is not sound if it is not while the prefix before it is. -/
theorem isLeast_not_sound_iff {i : ℕ} :
    IsLeast {j | ¬Sound (ks.take (j + 1))} i ↔ Sound (ks.take i) ∧ ¬Sound (ks.take (i + 1)) := by
  constructor
  · rintro ⟨hi, hleast⟩
    refine ⟨?_, hi⟩
    cases i with
    | zero => exact sound_nil
    | succ i => exact by_contra fun h ↦ absurd (hleast h) (Nat.not_succ_le_self i)
  · rintro ⟨hfront, hi⟩
    refine ⟨hi, fun j hj ↦ ?_⟩
    by_contra hlt
    exact hj (hfront.sublist (List.take_sublist_take_left (by omega)))

/-- **Which lists make registries.** They are the sound ones, and a registry holds the list that it
was made from. What is reported of any other list is the fault of the kind with which the first
prefix that is not sound ends. -/
theorem ofKinds_verdict (ks : List Kind) :
    ((∃ r, ofKinds ks = .ok r) ↔ Sound ks) ∧ (∀ r, ofKinds ks = .ok r ↔ r.kinds = ks) ∧
      ∀ f, ofKinds ks = .error f ↔
        ∃ i k, IsLeast {j | ¬Sound (ks.take (j + 1))} i ∧ ks[i]? = some k ∧
          Reported (ks.take i) k f := by
  refine ⟨⟨?_, fun hsound ↦ ?_⟩, fun r ↦ ofKinds_eq_ok_iff, fun f ↦ ?_⟩
  · rintro ⟨r, hr⟩
    exact ofKinds_eq_ok_iff.1 hr ▸ r.sound_kinds
  · obtain ⟨r, hr, -⟩ := exists_ofKinds (firstFault?_eq_none_iff.2 hsound)
    exact ⟨r, hr⟩
  · rw [ofKinds_eq_error_iff, firstFault?_eq_some_iff]
    refine exists_congr fun i ↦ exists_congr fun k ↦ ?_
    rw [isLeast_not_sound_iff, firstFault?_eq_none_iff, faultBehind?_eq_some_iff, List.nil_append]
    constructor
    · rintro ⟨hk, hfront, hreported⟩
      refine ⟨⟨hfront, ?_⟩, hk, hreported⟩
      rw [take_succ_of_getElem? hk]
      exact hreported.not_sound
    · rintro ⟨⟨hfront, -⟩, hk, hreported⟩
      exact ⟨hk, hfront, hreported⟩

end Registry

end BlockQuery

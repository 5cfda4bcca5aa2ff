import BlockQuery.Registry.Basic
import Mathlib.Data.List.Nodup

/-!
# Looking kinds up

A kind goes by its type and by its name. No two kinds share a type and no two share a name, but the
name of one kind may be the type of another. **Types go before names** (`find?_eq_some_iff`). So
every kind is found by its type, and it is found by its name unless that is the type of another
kind, which is then found in its place.

Places are told by types alone, and so is whether a registry contains something.
-/

namespace BlockQuery

namespace Registry

variable {r : Registry} {key : String} {k l : Kind}

/-! ### Types -/

/-- A registry contains the types of its kinds. -/
theorem contains_iff {type : String} :
    r.contains type = true ↔ type ∈ r.kinds.map Kind.type := by
  rw [contains, List.any_eq_true, List.mem_map]
  simp only [beq_iff_eq]

theorem contains_type (hk : k ∈ r.kinds) : r.contains k.type = true :=
  contains_iff.2 (List.mem_map_of_mem hk)

/-- A type is found at the place of its kind. -/
theorem position?_type {i : ℕ} (h : r.kinds[i]? = some k) : r.position? k.type = some i := by
  obtain ⟨hi, rfl⟩ := List.getElem?_eq_some_iff.1 h
  rw [position?, List.findIdx?_eq_some_iff_getElem]
  refine ⟨hi, beq_self_eq_true _, fun j hj hsame ↦ ?_⟩
  -- a kind further in front has another type
  have hj' : j < (r.kinds.map Kind.type).length := by
    rw [List.length_map]
    omega
  have hi' : i < (r.kinds.map Kind.type).length := by rwa [List.length_map]
  have htypes : (r.kinds.map Kind.type)[j] = (r.kinds.map Kind.type)[i] := by
    rw [List.getElem_map, List.getElem_map]
    exact beq_iff_eq.1 hsame
  exact absurd (r.types_nodup.getElem_inj_iff.1 htypes) (Nat.ne_of_lt hj)

theorem position?_eq_none (h : r.contains key = false) : r.position? key = none := by
  rw [position?, List.findIdx?_eq_none_iff]
  simpa [contains] using h

/-! ### Types and names -/

/-- Two kinds of the same type are one kind. -/
theorem eq_of_type_eq (hk : k ∈ r.kinds) (hl : l ∈ r.kinds) (h : k.type = l.type) : k = l :=
  List.inj_on_of_nodup_map r.types_nodup hk hl h

/-- What is found by a key that no two kinds share. -/
theorem find?_key_eq_some_iff {ks : List Kind} {f : Kind → String} (hks : (ks.map f).Nodup) :
    ks.find? (f · == key) = some k ↔ k ∈ ks ∧ f k = key := by
  constructor
  · intro h
    exact ⟨List.mem_of_find?_eq_some h, by simpa using List.find?_some h⟩
  · rintro ⟨hk, rfl⟩
    obtain ⟨l, hl⟩ : ∃ l, ks.find? (f · == f k) = some l :=
      Option.isSome_iff_exists.1 (List.find?_isSome.2 ⟨k, hk, beq_self_eq_true (f k)⟩)
    have hsame : f l = f k := by simpa using List.find?_some hl
    rw [hl, List.inj_on_of_nodup_map hks (List.mem_of_find?_eq_some hl) hk hsame]

/-- **A key finds the kind of that type or, if it is no type, the kind with that name.** -/
theorem find?_eq_some_iff :
    r.find? key = some k ↔
      k ∈ r.kinds ∧ (k.type = key ∨ r.contains key = false ∧ k.id = key) := by
  have hnone : r.kinds.find? (·.type == key) = none ↔ r.contains key = false := by
    rw [List.find?_eq_none, contains, List.any_eq_false]
  rw [find?, Option.or_eq_some_iff, find?_key_eq_some_iff r.types_nodup, hnone,
    find?_key_eq_some_iff r.ids_nodup]
  tauto

/-- A key is looked up in vain exactly if it is neither the type nor the name of a kind. -/
theorem find?_eq_none_iff : r.find? key = none ↔ ∀ k ∈ r.kinds, k.type ≠ key ∧ k.id ≠ key := by
  rw [find?, Option.or_eq_none_iff, List.find?_eq_none, List.find?_eq_none, ← forall₂_and]
  simp only [beq_iff_eq, ne_eq]

/-- What is found has the key as its type or as its name. -/
theorem type_or_id_of_find? (h : r.find? key = some k) :
    k ∈ r.kinds ∧ (k.type = key ∨ k.id = key) :=
  (find?_eq_some_iff.1 h).imp_right (Or.imp_right And.right)

/-- What is found for a key that is no type is the kind with that name. -/
theorem id_of_find? (hkey : r.contains key = false) (h : r.find? key = some k) :
    k ∈ r.kinds ∧ k.id = key := by
  obtain ⟨hk, htype | ⟨-, hid⟩⟩ := find?_eq_some_iff.1 h
  · rw [← htype, contains_type hk] at hkey
    cases hkey
  · exact ⟨hk, hid⟩

/-- A kind is found by its type, whatever the others are called. -/
theorem find?_type (hk : k ∈ r.kinds) : r.find? k.type = some k :=
  find?_eq_some_iff.2 ⟨hk, .inl rfl⟩

/-- A registered type is found as a kind of that type. -/
theorem exists_find?_of_contains {type : String} (h : r.contains type = true) :
    ∃ k, r.find? type = some k ∧ k.type = type := by
  obtain ⟨k, hk, rfl⟩ := List.mem_map.1 (contains_iff.1 h)
  exact ⟨k, find?_type hk, rfl⟩

/-- **A kind is found by its name unless that is the type of another kind.** -/
theorem find?_id_eq_some_iff (hk : k ∈ r.kinds) :
    r.find? k.id = some k ↔ ∀ l ∈ r.kinds, l.type = k.id → l = k := by
  constructor
  · intro h l hl htype
    rw [← htype, find?_type hl] at h
    exact Option.some.inj h
  · intro h
    cases hname : r.contains k.id with
    | false => exact find?_eq_some_iff.2 ⟨hk, .inr ⟨hname, rfl⟩⟩
    | true =>
      obtain ⟨l, hl, htype⟩ := List.mem_map.1 (contains_iff.1 hname)
      obtain rfl := h l hl htype
      exact find?_eq_some_iff.2 ⟨hk, .inl htype⟩

/-! ### All keys -/

/-- The key is neither the type nor the name of a kind. -/
def Unknown (r : Registry) (key : String) : Prop :=
  ∀ k ∈ r.kinds, k.type ≠ key ∧ k.id ≠ key

theorem Unknown.contains_eq_false (h : r.Unknown key) : r.contains key = false := by
  rw [← Bool.not_eq_true, contains_iff, List.mem_map]
  rintro ⟨k, hk, htype⟩
  exact (h k hk).1 htype

/-- **What keys lead to.** The type of a kind leads to the kind and to its place. So does the name
of a kind, as far as the kind goes, unless it is the type of another kind: then it leads to that
one. A key that is neither leads nowhere and is its own label. -/
theorem lookup_exact (r : Registry) :
    (∀ i k, r.kinds[i]? = some k →
      r.find? k.type = some k ∧ r.position? k.type = some i ∧ r.contains k.type = true ∧
        (r.find? k.id = some k ↔ ∀ l ∈ r.kinds, l.type = k.id → l = k) ∧
        ∀ l ∈ r.kinds, l.type = k.id → r.find? k.id = some l) ∧
      ∀ key, r.Unknown key →
        r.find? key = none ∧ r.position? key = none ∧ r.labelOf key = key := by
  constructor
  · intro i k hplace
    have hk := List.mem_of_getElem? hplace
    refine ⟨find?_type hk, position?_type hplace, contains_type hk, find?_id_eq_some_iff hk, ?_⟩
    intro l hl htype
    rw [← htype, find?_type hl]
  · intro key hkey
    have hnone : r.find? key = none := find?_eq_none_iff.2 hkey
    refine ⟨hnone, position?_eq_none hkey.contains_eq_false, ?_⟩
    rw [labelOf, hnone, Option.map_none, Option.getD_none]

/-- A kind whose name is the type of another. -/
def crossedFrom : Kind :=
  { Kind.named "from" "From these Accounts" .user true with id := "author" }

/-- The kind with that type, which has a name of its own. -/
def crossedAuthor : Kind :=
  { Kind.named "author" "Authors of quoted Posts" .user true with id := "quoted" }

/-- The registry of these two kinds. -/
def crossed : Registry where
  kinds := [crossedFrom, crossedAuthor]
  type_not_blank := by decide +kernel
  id_not_blank := by decide +kernel
  label_not_blank := by decide +kernel
  types_nodup := by decide +kernel
  ids_nodup := by decide +kernel

theorem lookup_exact_crossed :
    crossed.kinds[0]? = some crossedFrom ∧ crossedAuthor ∈ crossed.kinds ∧
      crossedAuthor.type = crossedFrom.id ∧ crossed.Unknown "to" ∧
      crossed.find? crossedFrom.type = some crossedFrom ∧
      crossed.position? crossedFrom.type = some 0 ∧
      crossed.find? crossedFrom.id = some crossedAuthor ∧
      crossed.find? "to" = none ∧ crossed.labelOf "to" = "to" := by
  have hplace : crossed.kinds[0]? = some crossedFrom := rfl
  have hauthor : crossedAuthor ∈ crossed.kinds := by decide
  have hkey : crossed.Unknown "to" := by
    unfold Unknown
    decide
  obtain ⟨hkinds, hothers⟩ := lookup_exact crossed
  obtain ⟨htype, hindex, -, -, hid⟩ := hkinds 0 crossedFrom hplace
  obtain ⟨hnone, -, hlabel⟩ := hothers "to" hkey
  exact ⟨hplace, hauthor, rfl, hkey, htype, hindex, hid crossedAuthor hauthor rfl, hnone, hlabel⟩

/-- Not every kind is found by its name. -/
theorem find?_id_crossed :
    ¬∀ k ∈ crossed.kinds, crossed.find? k.type = some k ∧ crossed.find? k.id = some k := by
  decide +kernel

end Registry

end BlockQuery

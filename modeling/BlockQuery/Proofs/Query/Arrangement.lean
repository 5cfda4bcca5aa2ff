import BlockQuery.Proofs.Query.StableSort
import BlockQuery.Query.Basic
import Mathlib.Data.List.Induction

/-!
# Registry order is a stable sort

`Registry.arrange` never compares two blocks: it puts each block on the shelf of its type's place
and reads the shelves off. Here that is shown to be the stable sort by `Registry.slot`, the place of
a type among the kinds of the registry, where all types without a place share one behind the last.

The invariant is that of putting blocks away one after another: behind any number of blocks, the
shelf of a place holds those of them whose type has that place, in their order (`known_shelve`), and
the last shelf those whose type has none (`unknown_shelve`). There is a shelf for every place at all
times (`position?_lt_length_known`), so no block is dropped on the way.
-/

namespace BlockQuery

namespace Registry

variable (r : Registry)

/-! ### Places -/

/-- The place of a type among the kinds of the registry; behind all of them if the type is not
registered. -/
def slot (type : String) : ℕ :=
  r.kinds.findIdx (·.type == type)

theorem slot_le_size (type : String) : r.slot type ≤ r.size :=
  List.findIdx_le_length

/-- A type has a position exactly if its slot is that of a kind. -/
theorem position?_eq_some_iff {type : String} {i : ℕ} :
    r.position? type = some i ↔ i < r.size ∧ r.slot type = i :=
  List.findIdx?_eq_some_iff_findIdx_eq

/-- A type without a position is put behind all kinds. -/
theorem position?_eq_none_iff {type : String} :
    r.position? type = none ↔ r.slot type = r.size :=
  List.findIdx?_eq_none_iff_findIdx_eq

theorem position?_lt_size {type : String} {i : ℕ} (h : r.position? type = some i) : i < r.size :=
  (r.position?_eq_some_iff.1 h).1

/-! ### What stands on the shelves -/

@[simp] theorem shelve_nil : r.shelve [] = .empty r.size := rfl

/-- Blocks are put on the shelves one by one. -/
@[simp] theorem shelve_concat (bs : List Block) (b : Block) :
    r.shelve (bs ++ [b]) = (r.shelve bs).put (r.position? b.type) b := by
  simp [shelve, List.foldl_append]

/-- **The shelf of a place holds the blocks of that place, in their order.** -/
theorem known_shelve (bs : List Block) :
    (r.shelve bs).known =
      (List.range r.size).map fun i ↦ bs.filter (r.position? ·.type = some i) := by
  induction bs using List.reverseRecOn with
  | nil => simp [Shelves.empty, List.map_const']
  | append_singleton bs b ih =>
    rw [shelve_concat]
    cases hb : r.position? b.type with
    | none =>
      rw [show ((r.shelve bs).put none b).known = (r.shelve bs).known from rfl, ih]
      simp [List.filter_append, hb]
    | some i =>
      rw [show ((r.shelve bs).put (some i) b).known =
        (r.shelve bs).known.modify i (· ++ [b]) from rfl, ih]
      -- only the shelf of `i` grows, by a block that no other place claims
      refine List.ext_getElem (by simp) fun j hj _ ↦ ?_
      have hsize : j < r.size := by simpa using hj
      rw [List.getElem_modify]
      by_cases hij : i = j
      · subst hij
        simp [hb]
      · simp [hb, hij]

/-- The shelf behind all others holds the blocks without a place, in their order. -/
theorem unknown_shelve (bs : List Block) :
    (r.shelve bs).unknown = bs.filter (r.position? ·.type = none) := by
  induction bs using List.reverseRecOn with
  | nil => rfl
  | append_singleton bs b ih =>
    rw [shelve_concat]
    cases hb : r.position? b.type with
    | none =>
      rw [show ((r.shelve bs).put none b).unknown = (r.shelve bs).unknown ++ [b] from rfl, ih]
      simp [hb]
    | some i =>
      rw [show ((r.shelve bs).put (some i) b).unknown = (r.shelve bs).unknown from rfl, ih]
      simp [hb]

/-- Whatever has been put away, there is a shelf for every place that a type can have. -/
theorem position?_lt_length_known (bs : List Block) {type : String} {i : ℕ}
    (h : r.position? type = some i) : i < (r.shelve bs).known.length := by
  simpa [known_shelve] using r.position?_lt_size h

/-! ### Reading the shelves off -/

/-- **Arranging is stable sorting by the place of the type.** -/
theorem arrange_eq_sortOn (bs : List Block) : r.arrange bs = sortOn (r.slot ·.type) bs := by
  have hmem : ∀ b ∈ bs, r.slot b.type ∈ List.range (r.size + 1) := fun b _ ↦
    List.mem_range.2 (Nat.lt_succ_of_le (r.slot_le_size b.type))
  rw [← flatMap_filter_eq_sortOn List.pairwise_lt_range hmem, List.range_succ,
    List.flatMap_append, List.flatMap_singleton, arrange, Shelves.blocks, known_shelve,
    unknown_shelve, ← List.flatMap_def]
  congr 1
  · refine List.flatMap_congr fun i hi ↦ List.filter_congr fun b _ ↦ ?_
    simp only [r.position?_eq_some_iff, List.mem_range.1 hi, true_and]
  · exact List.filter_congr fun b _ ↦ by simp only [r.position?_eq_none_iff]

/-- No block is lost and none is doubled. -/
theorem arrange_perm (bs : List Block) : (r.arrange bs).Perm bs :=
  r.arrange_eq_sortOn bs ▸ sortOn_perm _ bs

/-- Blocks come in the order of their slots. -/
theorem pairwise_arrange (bs : List Block) :
    (r.arrange bs).Pairwise fun a b ↦ r.slot a.type ≤ r.slot b.type :=
  r.arrange_eq_sortOn bs ▸ pairwise_sortOn _ bs

end Registry

end BlockQuery

import BlockQuery.Proofs.Intake.LastOfEach
import BlockQuery.Proofs.Registry.Lookup

/-!
# Resolving types

A type that a registry finds need not be the type of the kind that it finds: a kind can also be
found by its name. In the built-in registry the two are the same, so there every type resolves to a
kind of that same type, known or improvised. This is why taking proposals in by the built-in
registry keeps their types apart.
-/

namespace BlockQuery

namespace Registry

variable {r : Registry}

/-- What a type resolves to has that type, if the kind that is found has. -/
theorem resolve_type {type : String} (h : ∀ k, r.find? type = some k → k.type = type)
    (category : Option String) (needsValue : Option Bool) :
    (r.resolve type category needsValue).type = type := by
  unfold resolve
  cases hk : r.find? type with
  | none => rfl
  | some k => exact h k hk

/-! ### The built-in registry -/

/-- Built-in kinds are named by their types. -/
theorem id_eq_type_of_mem_builtin {k : Kind} (hk : k ∈ builtin.kinds) : k.id = k.type := by
  have hall : ∀ k ∈ builtinKinds, k.id = k.type := by decide
  exact hall k hk

/-- What the built-in registry finds has the key as its type. -/
theorem type_eq_of_builtin_find? {key : String} {k : Kind} (h : builtin.find? key = some k) :
    k.type = key := by
  obtain ⟨hk, htype | hid⟩ := type_or_id_of_find? h
  · exact htype
  · rw [← id_eq_type_of_mem_builtin hk, hid]

/-- In the built-in registry a proposal keeps the type that it came with. -/
@[simp] theorem builtin_kindOf_type (p : Proposal) : (builtin.kindOf p).type = p.type :=
  resolve_type (fun _ ↦ type_eq_of_builtin_find?) _ _

end Registry

/-! ### Blocks for proposals -/

/-- Mapping what was made of the items of a list, when their places do not show in it. -/
theorem map_mapIdx_of_forall {α β γ : Type} {f : ℕ → α → β} {g : β → γ} {h : α → γ}
    (hfg : ∀ i a, g (f i a) = h a) (l : List α) : (l.mapIdx f).map g = l.map h :=
  List.ext_getElem (by simp) fun i _ _ ↦ by simp [hfg]

/-- A report tells the type of its block. -/
theorem map_type_toProposal (bs : List Block) :
    (bs.map Block.toProposal).map Proposal.type = bs.map Block.type := by
  rw [List.map_map]
  rfl

theorem Registry.map_type_intake (r : Registry) (ids : IdSupply) (today : Day)
    (ps : List Proposal) :
    (r.intake ids today ps).map Block.type =
      (lastOfEachType ps).map fun p ↦ (r.kindOf p).type := by
  refine map_mapIdx_of_forall (fun i p ↦ ?_) _
  rfl

/-- **Blocks taken in by the built-in registry have distinct types.** -/
theorem Registry.builtin_intake_types_nodup (ids : IdSupply) (today : Day) (ps : List Proposal) :
    ((builtin.intake ids today ps).map Block.type).Nodup := by
  rw [map_type_intake]
  simp only [builtin_kindOf_type]
  exact lastOfEachType_types_nodup ps

end BlockQuery

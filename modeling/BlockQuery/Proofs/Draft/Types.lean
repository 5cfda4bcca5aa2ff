import BlockQuery.Draft.Basic
import BlockQuery.Proofs.Registry.Resolve

/-!
# One block of each type

Whatever is done to a draft, no two of its blocks have the same type.

Every operation has its own reason. A block is put behind the others only if its type is free;
values are changed in place; a block that is taken away leaves the others as they were. A list that
replaces all blocks is thinned out to the last block of each type, and proposals to the last one of
each type, which the built-in registry then resolves to kinds of those same types.

What an edit can come to is said once, by `Change`. Whatever edits keep is then proved of a change.
-/

namespace BlockQuery

namespace Draft

variable {d after : Draft}

/-! ### What the operations do to the types -/

theorem hasType_eq_true_iff {type : String} : d.hasType type = true ↔ type ∈ d.usedTypes := by
  simp [hasType, usedTypes]

/-- A block is inserted behind all others, and only if its type is free. -/
theorem insert_eq_ok_iff {b : Block} :
    d.insert b = .ok after ↔
      b.type ∉ d.usedTypes ∧ after = { d with blocks := d.blocks ++ [b] } := by
  unfold insert
  rw [← hasType_eq_true_iff]
  split
  · next h => simp [h]
  · next h => simp [h, eq_comm]

/-- An insertion is refused exactly if the type is in use. -/
theorem insert_eq_error_iff {b : Block} {f : Fault} :
    d.insert b = .error f ↔ b.type ∈ d.usedTypes ∧ f = .typeInUse b.type := by
  unfold insert
  rw [← hasType_eq_true_iff]
  split
  · next h => simp [h, eq_comm]
  · next h => simp [h]

/-- Adding is inserting a block of a kind that was found. -/
theorem add_eq_ok_iff {fresh : BlockId} {key : String} :
    d.add fresh key = .ok after ↔
      ∃ k, d.registry.find? key = some k ∧ d.insert (.ofKind fresh k "") = .ok after := by
  unfold add
  cases d.registry.find? key with
  | none => simp
  | some k => simp

/-- An addition is refused for a key that nothing has, or for a type in use. -/
theorem add_eq_error_iff {fresh : BlockId} {key : String} {f : Fault} :
    d.add fresh key = .error f ↔
      d.registry.find? key = none ∧ f = .unknownType key ∨
        ∃ k, d.registry.find? key = some k ∧ k.type ∈ d.usedTypes ∧ f = .typeInUse k.type := by
  unfold add
  cases d.registry.find? key with
  | none => simp [eq_comm]
  | some k =>
    rw [insert_eq_error_iff]
    simp [Block.ofKind]

/-- Setting values does not change what they do not decide. -/
theorem map_setFirst {α : Type} {f : Block → α} {value : String} {second : Option String}
    (hf : ∀ b, f (withValues value second b) = f b) (id : BlockId) (bs : List Block) :
    (setFirst id value second bs).map f = bs.map f := by
  induction bs with
  | nil => rfl
  | cons b bs ih =>
    rw [setFirst]
    split
    · rw [List.map_cons, List.map_cons, hf]
    · rw [List.map_cons, List.map_cons, ih]

/-! ### The blocks that are kept -/

section Kept

variable {bs : List Block}

/-- A block is kept if no block of its type is kept behind it. -/
theorem foldr_keep_cons (b : Block) (bs : List Block) :
    (b :: bs).foldr keep [] =
      if b.type ∈ (bs.foldr keep []).map Block.type then bs.foldr keep []
      else b :: bs.foldr keep [] := by
  have hany : (bs.foldr keep []).any (·.type == b.type) = true ↔
      b.type ∈ (bs.foldr keep []).map Block.type := by
    simp [List.any_eq_true, List.mem_map]
  rw [List.foldr_cons, keep]
  exact if_congr hany rfl rfl

/-- What is kept stands in the order in which it came. -/
theorem foldr_keep_sublist (bs : List Block) : (bs.foldr keep []).Sublist bs := by
  induction bs with
  | nil => exact List.Sublist.slnil
  | cons b bs ih =>
    rw [foldr_keep_cons]
    split
    · exact ih.cons b
    · exact ih.cons_cons b

/-- The blocks that are kept have distinct types. -/
theorem foldr_keep_types_nodup (bs : List Block) : ((bs.foldr keep []).map Block.type).Nodup := by
  induction bs with
  | nil => exact List.nodup_nil
  | cons b bs ih =>
    rw [foldr_keep_cons]
    split
    · exact ih
    · next hnew => exact List.nodup_cons.2 ⟨hnew, ih⟩

/-- Of every type one block is kept. -/
theorem mem_types_foldr_keep_iff {type : String} :
    type ∈ (bs.foldr keep []).map Block.type ↔ type ∈ bs.map Block.type := by
  induction bs with
  | nil => rfl
  | cons b bs ih =>
    rw [foldr_keep_cons, List.map_cons, List.mem_cons, ← ih]
    split
    · next hagain =>
      refine ⟨.inr, fun h ↦ h.elim ?_ id⟩
      rintro rfl
      exact hagain
    · rw [List.map_cons, List.mem_cons]

/-- Where types are distinct, every block is kept. -/
theorem foldr_keep_eq_self (h : (bs.map Block.type).Nodup) : bs.foldr keep [] = bs := by
  induction bs with
  | nil => rfl
  | cons b bs ih =>
    obtain ⟨hb, hbs⟩ := List.nodup_cons.1 h
    rw [foldr_keep_cons, ih hbs, if_neg hb]

end Kept

/-! ### What an edit can come to -/

/-- The block that an edit puts behind the others, unless it is refused. -/
def Edit.newBlock? (r : Registry) : Edit → Option Block
  | .add fresh key => (r.find? key).map fun k ↦ .ofKind fresh k ""
  | .insert b => some b
  | _ => none

/-- The blocks that an edit puts in place of all others. -/
def Edit.newBlocks? : Edit → Option (List Block)
  | .replaceAll bs => some (bs.foldr keep [])
  | .takeIn ids today ps => some (Registry.builtin.intake ids today ps)
  | .clear => some []
  | _ => none

/-- What an edit of a draft can come to. -/
inductive Change (d : Draft) : Edit → Outcome × Draft → Prop where
  | refused (e : Edit) (f : Fault) : Change d e (.refused f, d)
  /-- A block of a free type was put behind the others. -/
  | added {e : Edit} (b : Block) (hnew : e.newBlock? d.registry = some b)
      (hfree : b.type ∉ d.usedTypes) :
      Change d e (.added b.id, { d with blocks := d.blocks ++ [b] })
  | valuesSet (id : BlockId) (value : String) (second : Option String) :
      Change d (.setValue id value second)
        (.done, { d with blocks := setFirst id value second d.blocks })
  /-- The first block with an identifier was taken away. -/
  | removed (id : BlockId) (b : Block) (hfound : d.get? id = some b) :
      Change d (.remove id) (.removed b, { d with blocks := d.blocks.eraseP (·.id = id) })
  /-- All blocks were replaced. -/
  | replaced {e : Edit} (bs : List Block) (hnew : e.newBlocks? = some bs) :
      Change d e (.done, { d with blocks := bs })

/-- Inserting a block that the edit makes is a change, done or refused. -/
theorem Change.of_settle_insert {e : Edit} {b : Block} (h : e.newBlock? d.registry = some b) :
    d.Change e (d.settle (.added b.id) (d.insert b)) := by
  cases hinsert : d.insert b with
  | error f => exact .refused e f
  | ok after =>
    obtain ⟨hfree, rfl⟩ := insert_eq_ok_iff.1 hinsert
    exact .added b h hfree

/-- **An edit is refused, or it changes the blocks in one of four ways.** -/
theorem change_step (d : Draft) (e : Edit) : d.Change e (d.step e) := by
  cases e with
  | add fresh key =>
    rw [step, add]
    cases hfind : d.registry.find? key with
    | none => exact .refused _ _
    | some k => exact .of_settle_insert (b := .ofKind fresh k "") (by simp [Edit.newBlock?, hfind])
  | insert b => exact .of_settle_insert rfl
  | setValue id value second =>
    rw [step, setValue]
    split
    · exact .refused _ _
    · exact .valuesSet id value second
  | remove id =>
    rw [step, remove]
    cases hfound : d.get? id with
    | none => exact .refused _ _
    | some b => exact .removed id b hfound
  | replaceAll bs => exact .replaced _ rfl
  | takeIn ids today ps => exact .replaced _ rfl
  | clear => exact .replaced _ rfl

/-! ### Traces -/

@[simp] theorem trace_nil (d : Draft) : d.trace [] = ([], d) := rfl

theorem trace_cons (d : Draft) (e : Edit) (es : List Edit) :
    d.trace (e :: es) =
      ((d.step e).1 :: ((d.step e).2.trace es).1, ((d.step e).2.trace es).2) := rfl

theorem trace_append (d : Draft) (es es' : List Edit) :
    d.trace (es ++ es') =
      ((d.trace es).1 ++ ((d.trace es).2.trace es').1, ((d.trace es).2.trace es').2) := by
  induction es generalizing d with
  | nil => rfl
  | cons e es ih => rw [List.cons_append, trace_cons, trace_cons, ih, List.cons_append]

/-! ### One step and many -/

/-- Whatever takes the place of all blocks has distinct types. -/
theorem types_nodup_of_newBlocks? {e : Edit} {bs : List Block} (h : e.newBlocks? = some bs) :
    (bs.map Block.type).Nodup := by
  cases e with
  | replaceAll given =>
    obtain rfl := Option.some.inj h
    exact foldr_keep_types_nodup given
  | takeIn ids today ps =>
    obtain rfl := Option.some.inj h
    exact Registry.builtin_intake_types_nodup ids today ps
  | clear =>
    obtain rfl := Option.some.inj h
    exact List.nodup_nil
  | add | insert | setValue | remove => cases h

/-- **An edit keeps types apart,** whether it is done or refused. -/
theorem Change.usedTypes_nodup {e : Edit} {result : Outcome × Draft} (h : d.Change e result)
    (hd : d.usedTypes.Nodup) : result.2.usedTypes.Nodup := by
  cases h with
  | refused => exact hd
  | added b hnew hfree =>
    rw [usedTypes, List.map_append]
    refine List.Nodup.append hd (List.nodup_singleton _) fun t ht hnew ↦ hfree ?_
    rwa [← List.mem_singleton.1 hnew]
  | valuesSet => rwa [usedTypes, map_setFirst fun _ ↦ rfl]
  | removed => exact hd.sublist (List.eraseP_sublist.map Block.type)
  | replaced bs hnew => exact types_nodup_of_newBlocks? hnew

/-- What every edit keeps holds after any number of edits. -/
theorem run_induction {P : Draft → Prop} (hstep : ∀ d e, P d → P (d.step e).2) (hd : P d)
    (es : List Edit) : P (d.run es) := by
  induction es generalizing d with
  | nil => exact hd
  | cons e es ih => exact ih (hstep d e hd)

/-- **Types stay distinct under any edits.** -/
theorem usedTypes_nodup_run (hd : d.usedTypes.Nodup) (es : List Edit) :
    (d.run es).usedTypes.Nodup :=
  run_induction (P := fun d ↦ d.usedTypes.Nodup)
    (fun d e h ↦ (d.change_step e).usedTypes_nodup h) hd es

/-- **At most one block of each type,** whatever edits are done to a draft that was empty. -/
theorem types_distinct_of_edits (r : Registry) (es : List Edit) :
    ((empty r).run es).blocks.Pairwise fun a b ↦ a.type ≠ b.type := by
  have hempty : (empty r).usedTypes.Nodup := List.nodup_nil
  exact List.pairwise_map.1 (usedTypes_nodup_run hempty es)

end Draft

end BlockQuery

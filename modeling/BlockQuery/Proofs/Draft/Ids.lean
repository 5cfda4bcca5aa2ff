import BlockQuery.Proofs.Draft.Types

/-!
# Blocks by their identifiers

Blocks are looked up, changed and taken away by their identifiers, and always the *first* block with
an identifier is meant. No edit looks at the identifiers that it brings in, so nothing but these
identifiers can keep two blocks from sharing one.

`NewIds` is what must be asked of an edit. Identifiers that are made for new blocks must be new.
Blocks that come with an identifier, behind those that are there or in place of them, may share it
with a block of their own type only: **one of the two never stays**, because no type is ever there
twice. If every edit is like that, an identifier means one block (`ids_mean_blocks`).
-/

namespace BlockQuery

/-- The identifiers of blocks that are taken in are the first ones of the supply. -/
theorem Registry.map_id_intake (r : Registry) (ids : IdSupply) (today : Day) (ps : List Proposal) :
    (r.intake ids today ps).map Block.id = (List.range (lastOfEachType ps).length).map ids := by
  refine List.ext_getElem (by simp [intake]) fun i _ _ ↦ ?_
  simp [intake, Block.ofKind]

namespace Draft

variable {d : Draft} {e : Edit}

/-- The identifiers of the blocks, in order. -/
def usedIds (d : Draft) : List BlockId :=
  d.blocks.map Block.id

/-! ### Looking up and taking away -/

/-- The first block with an identifier is taken away. -/
theorem remove_eq_ok_iff {id : BlockId} {b : Block} {after : Draft} :
    d.remove id = .ok (b, after) ↔
      d.get? id = some b ∧ after = { d with blocks := d.blocks.eraseP (·.id = id) } := by
  rw [remove]
  cases d.get? id with
  | none => simp
  | some c => simp [eq_comm]

/-- An identifier is looked up in vain exactly if no block has it. -/
theorem get?_eq_none_iff {id : BlockId} : d.get? id = none ↔ id ∉ d.usedIds := by
  simp [get?, usedIds]

/-- A removal is refused exactly if no block has the identifier. -/
theorem remove_eq_error_iff {id : BlockId} {f : Fault} :
    d.remove id = .error f ↔ id ∉ d.usedIds ∧ f = .noSuchBlock id := by
  rw [← get?_eq_none_iff, remove]
  cases d.get? id with
  | none => simp [eq_comm]
  | some b => simp

/-- Values are refused exactly if no block has the identifier. -/
theorem setValue_eq_error_iff {id : BlockId} {value : String} {second : Option String} {f : Fault} :
    d.setValue id value second = .error f ↔ id ∉ d.usedIds ∧ f = .noSuchBlock id := by
  rw [← get?_eq_none_iff, setValue]
  cases d.get? id with
  | none => simp [eq_comm]
  | some b => simp

/-- A block is found by its identifier if no other block has it. -/
theorem get?_id_of_mem (hd : d.usedIds.Nodup) {b : Block} (hb : b ∈ d.blocks) :
    d.get? b.id = some b := by
  have hsome : (d.get? b.id).isSome = true :=
    List.find?_isSome.2 ⟨b, hb, decide_eq_true rfl⟩
  obtain ⟨c, hc⟩ := Option.isSome_iff_exists.1 hsome
  have hid : c.id = b.id := by simpa using List.find?_some hc
  rw [hc, List.inj_on_of_nodup_map hd (List.mem_of_find?_eq_some hc) hb hid]

/-- A block that is put behind the others is found and taken away by its identifier if none of them
has it, and the others are left. -/
theorem remove_concat {b : Block} (h : b.id ∉ d.usedIds) :
    get? { d with blocks := d.blocks ++ [b] } b.id = some b ∧
      remove { d with blocks := d.blocks ++ [b] } b.id = .ok (b, d) := by
  have hothers : ∀ c ∈ d.blocks, ¬decide (c.id = b.id) = true := by simpa [usedIds] using h
  have hget : get? { d with blocks := d.blocks ++ [b] } b.id = some b := by
    rw [get?, List.find?_append, List.find?_eq_none.2 hothers, Option.none_or]
    exact List.find?_cons_of_pos (decide_eq_true rfl)
  have herase : (d.blocks ++ [b]).eraseP (·.id = b.id) = d.blocks := by
    rw [List.eraseP_append_right _ hothers]
    simp
  exact ⟨hget, remove_eq_ok_iff.2 ⟨hget, by rw [herase]⟩⟩

/-- The identifier of a block that is taken away goes with it. -/
theorem notMem_usedIds_of_remove (hd : d.usedIds.Nodup) {id : BlockId} {b : Block} {after : Draft}
    (h : d.remove id = .ok (b, after)) : id ∉ after.usedIds := by
  obtain ⟨-, rfl⟩ := remove_eq_ok_iff.1 h
  have herase : (d.blocks.eraseP (·.id = id)).map Block.id = d.usedIds.erase id := by
    rw [usedIds, List.erase_eq_eraseP', List.eraseP_map]
    rfl
  rw [usedIds, herase]
  exact hd.not_mem_erase

/-! ### The identifiers that edits bring in -/

/-- The identifiers of the blocks that an edit can bring in. -/
def Edit.ids : Edit → List BlockId
  | .add fresh _ => [fresh]
  | .insert b => [b.id]
  | .replaceAll bs => bs.map Block.id
  | .takeIn ids _ ps => (List.range (lastOfEachType ps).length).map ids
  | .setValue .. | .remove _ | .clear => []

/-- The identifiers that an edit brings in can be told apart, from each other and from those of the
blocks that stay. -/
def NewIds (d : Draft) : Edit → Prop
  | .add fresh _ => fresh ∉ d.usedIds
  | .insert b => ∀ c ∈ d.blocks, c.id = b.id → c.type = b.type
  | .replaceAll bs => ∀ b ∈ bs, ∀ c ∈ bs, b.id = c.id → b.type = c.type
  | .takeIn ids _ ps => ((List.range (lastOfEachType ps).length).map ids).Nodup
  | .setValue .. | .remove _ | .clear => True

instance (d : Draft) : (e : Edit) → Decidable (d.NewIds e)
  | .add fresh _ => inferInstanceAs (Decidable (fresh ∉ d.usedIds))
  | .insert b => inferInstanceAs (Decidable (∀ c ∈ d.blocks, c.id = b.id → c.type = b.type))
  | .replaceAll bs =>
    inferInstanceAs (Decidable (∀ b ∈ bs, ∀ c ∈ bs, b.id = c.id → b.type = c.type))
  | .takeIn ids _ ps =>
    inferInstanceAs (Decidable ((List.range (lastOfEachType ps).length).map ids).Nodup)
  | .setValue .. | .remove _ | .clear => .isTrue trivial

/-- Each of some edits brings in identifiers that can be told apart when its turn comes. -/
def AllNewIds : Draft → List Edit → Prop
  | _, [] => True
  | d, e :: es => d.NewIds e ∧ AllNewIds (d.step e).2 es

instance decidableAllNewIds : (d : Draft) → (es : List Edit) → Decidable (d.AllNewIds es)
  | _, [] => .isTrue trivial
  | d, e :: es =>
    have := decidableAllNewIds (d.step e).2 es
    inferInstanceAs (Decidable (d.NewIds e ∧ AllNewIds (d.step e).2 es))

/-- A block that is put behind the others has none of their identifiers. -/
theorem NewIds.id_notMem (h : d.NewIds e) {b : Block} (hnew : e.newBlock? d.registry = some b)
    (hfree : b.type ∉ d.usedTypes) : b.id ∉ d.usedIds := by
  cases e with
  | add fresh key =>
    obtain ⟨k, -, rfl⟩ := Option.map_eq_some_iff.1 hnew
    exact h
  | insert c =>
    obtain rfl := Option.some.inj hnew
    intro hmem
    obtain ⟨a, ha, hid⟩ := List.mem_map.1 hmem
    exact hfree (List.mem_map.2 ⟨a, ha, h a ha hid⟩)
  | setValue | remove | replaceAll | takeIn | clear => cases hnew

/-- Blocks of distinct types that share identifiers within a type only share none. -/
theorem ids_nodup_of_types_nodup {bs : List Block} (htypes : (bs.map Block.type).Nodup)
    (h : ∀ b ∈ bs, ∀ c ∈ bs, b.id = c.id → b.type = c.type) : (bs.map Block.id).Nodup := by
  refine List.pairwise_map.2 ((List.pairwise_map.1 htypes).imp_of_mem ?_)
  intro b c hb hc htype hid
  exact htype (h b hb c hc hid)

/-- Blocks that are put in place of all others have distinct identifiers. -/
theorem NewIds.ids_nodup (h : d.NewIds e) {bs : List Block} (hnew : e.newBlocks? = some bs) :
    (bs.map Block.id).Nodup := by
  have htypes := types_nodup_of_newBlocks? hnew
  cases e with
  | replaceAll given =>
    obtain rfl := Option.some.inj hnew
    refine ids_nodup_of_types_nodup htypes fun b hb c hc ↦ ?_
    have hmem := (foldr_keep_sublist given).subset
    exact h b (hmem hb) c (hmem hc)
  | takeIn ids today ps =>
    obtain rfl := Option.some.inj hnew
    rw [Registry.map_id_intake]
    exact h
  | clear =>
    obtain rfl := Option.some.inj hnew
    exact List.nodup_nil
  | add | insert | setValue | remove => cases hnew

/-- An identifier of a new block is one that the edit brings in. -/
theorem mem_ids_of_newBlock? {b : Block} (h : e.newBlock? d.registry = some b) : b.id ∈ e.ids := by
  cases e with
  | add fresh key =>
    obtain ⟨k, -, rfl⟩ := Option.map_eq_some_iff.1 h
    exact List.mem_singleton_self fresh
  | insert c =>
    obtain rfl := Option.some.inj h
    exact List.mem_singleton_self _
  | setValue | remove | replaceAll | takeIn | clear => cases h

theorem mem_ids_of_newBlocks? {bs : List Block} (h : e.newBlocks? = some bs) {id : BlockId}
    (hid : id ∈ bs.map Block.id) : id ∈ e.ids := by
  cases e with
  | replaceAll given =>
    obtain rfl := Option.some.inj h
    obtain ⟨b, hb, rfl⟩ := List.mem_map.1 hid
    exact List.mem_map_of_mem ((foldr_keep_sublist given).subset hb)
  | takeIn ids today ps =>
    obtain rfl := Option.some.inj h
    rwa [Registry.map_id_intake] at hid
  | clear =>
    obtain rfl := Option.some.inj h
    exact hid
  | add | insert | setValue | remove => cases h

/-! ### One edit and many -/

section Change

variable {result : Outcome × Draft}

/-- **An edit keeps identifiers apart** if those that it brings in can be told apart. -/
theorem Change.usedIds_nodup (h : d.Change e result) (hd : d.usedIds.Nodup) (he : d.NewIds e) :
    result.2.usedIds.Nodup := by
  cases h with
  | refused => exact hd
  | added b hnew hfree =>
    rw [usedIds, List.map_append]
    refine List.Nodup.append hd (List.nodup_singleton _) fun id hid hlast ↦ ?_
    rw [List.mem_singleton.1 hlast] at hid
    exact he.id_notMem hnew hfree hid
  | valuesSet => rwa [usedIds, map_setFirst fun _ ↦ rfl]
  | removed => exact hd.sublist (List.eraseP_sublist.map Block.id)
  | replaced bs hnew => exact he.ids_nodup hnew

/-- No identifier comes in but those that the edit brings in. -/
theorem Change.notMem_usedIds (h : d.Change e result) {id : BlockId} (hd : id ∉ d.usedIds)
    (he : id ∉ e.ids) : id ∉ result.2.usedIds := by
  cases h with
  | refused => exact hd
  | added b hnew =>
    rw [usedIds, List.map_append, List.mem_append, not_or]
    refine ⟨hd, fun hlast ↦ he ?_⟩
    rw [List.mem_singleton.1 hlast]
    exact mem_ids_of_newBlock? hnew
  | valuesSet => rwa [usedIds, map_setFirst fun _ ↦ rfl]
  | removed => exact fun hmem ↦ hd ((List.eraseP_sublist.map Block.id).subset hmem)
  | replaced bs hnew => exact fun hmem ↦ he (mem_ids_of_newBlocks? hnew hmem)

end Change

/-- **Identifiers stay distinct if each that is brought in is new.** -/
theorem usedIds_nodup_run (hd : d.usedIds.Nodup) {es : List Edit} (h : d.AllNewIds es) :
    (d.run es).usedIds.Nodup := by
  induction es generalizing d with
  | nil => exact hd
  | cons e es ih => exact ih ((d.change_step e).usedIds_nodup hd h.1) h.2

/-- An identifier that no edit brings in does not come about. -/
theorem notMem_usedIds_run {id : BlockId} (hd : id ∉ d.usedIds) {es : List Edit}
    (hes : ∀ e ∈ es, id ∉ e.ids) : id ∉ (d.run es).usedIds := by
  induction es generalizing d with
  | nil => exact hd
  | cons e es ih =>
    obtain ⟨he, hes⟩ := List.forall_mem_cons.1 hes
    exact ih ((d.change_step e).notMem_usedIds hd he) hes

/-! ### What an identifier means -/

/-- Identifiers mean blocks: no two blocks share one, and each block is found by its own. -/
structure IdsMeanBlocks (d : Draft) : Prop where
  distinct : d.blocks.Pairwise fun a b ↦ a.id ≠ b.id
  found : ∀ b ∈ d.blocks, d.get? b.id = some b
  /-- The identifier under which a block is added finds this block and takes it away again. -/
  added : ∀ e id after, d.NewIds e → d.step e = (.added id, after) →
    ∃ b, e.newBlock? d.registry = some b ∧ b.id = id ∧ after.get? id = some b ∧
      after.remove id = .ok (b, d)
  /-- The identifier of a block that was taken away takes nothing away until it comes in again. -/
  removed : ∀ id b after later, d.remove id = .ok (b, after) → (∀ e ∈ later, id ∉ e.ids) →
    b.id = id ∧ (after.run later).remove id = .error (.noSuchBlock id)

/-- **An identifier means one block** in a draft that was empty, if each of the edits since then
brought in identifiers that could be told apart. -/
theorem ids_mean_blocks (r : Registry) (es : List Edit) (h : (empty r).AllNewIds es) :
    IdsMeanBlocks ((empty r).run es) := by
  have hempty : (empty r).usedIds.Nodup := List.nodup_nil
  have hnodup := usedIds_nodup_run hempty h
  generalize (empty r).run es = d at hnodup
  refine ⟨List.pairwise_map.1 hnodup, fun b hb ↦ get?_id_of_mem hnodup hb, ?_, ?_⟩
  · -- an edit that gives an identifier put a block behind the others, and did nothing else
    intro e id after hids hstep
    have hchange := d.change_step e
    rw [hstep] at hchange
    cases hchange with
    | added b hnew hfree =>
      obtain ⟨hget, hremove⟩ := remove_concat (hids.id_notMem hnew hfree)
      exact ⟨b, hnew, rfl, hget, hremove⟩
  · -- the block was the only one with this identifier, which only a later edit can bring back
    intro id b after later hremove hlater
    have hget : d.get? id = some b := (remove_eq_ok_iff.1 hremove).1
    refine ⟨by simpa using List.find?_some hget, remove_eq_error_iff.2 ⟨?_, rfl⟩⟩
    exact notMem_usedIds_run (notMem_usedIds_of_remove hnodup hremove) hlater

/-- Edits of all kinds. The second `from` block is refused, the other one comes again with another
value, and identifiers come again once their blocks are gone. -/
def told : List Edit :=
  [.add ⟨1⟩ "from", .setValue ⟨1⟩ "nasa" none, .add ⟨2⟩ "from",
    .insert ⟨⟨1⟩, "from", "", .user, true, none, "esa", none⟩,
    .insert ⟨⟨3⟩, "lang", "Language", .user, true, none, "en", none⟩, .remove ⟨3⟩, .add ⟨3⟩ "or",
    .takeIn (fun i ↦ ⟨.ofNat 128 (i + 1)⟩) ⟨2024, 3, 21, by decide⟩
      [⟨"to", "esa", none, none⟩, ⟨"since", "today", none, none⟩, ⟨"to", "nasa", none, none⟩],
    .replaceAll
      [⟨⟨1⟩, "from", "", .user, true, none, "nasa", none⟩,
        ⟨⟨2⟩, "question", "", .media, false, none, "", none⟩,
        ⟨⟨1⟩, "from", "", .user, true, none, "esa", none⟩]]

theorem ids_mean_blocks_told :
    (empty .builtin).AllNewIds told ∧ IdsMeanBlocks ((empty .builtin).run told) ∧
      ∃ b after, ((empty .builtin).run told).step (.add ⟨3⟩ "url") = (.added ⟨3⟩, after) ∧
        after.get? ⟨3⟩ = some b ∧ after.remove ⟨3⟩ = .ok (b, (empty .builtin).run told) := by
  have hnew : (empty .builtin).AllNewIds told := by decide +kernel
  have hmean := ids_mean_blocks .builtin told hnew
  have hadd : ((empty .builtin).run told).NewIds (.add ⟨3⟩ "url") := by decide +kernel
  have hdone : (((empty .builtin).run told).step (.add ⟨3⟩ "url")).1 = .added ⟨3⟩ := by
    decide +kernel
  have hstep := Prod.ext hdone (Eq.refl (((empty .builtin).run told).step (.add ⟨3⟩ "url")).2)
  obtain ⟨b, -, -, hget, hremove⟩ := hmean.added _ _ _ hadd hstep
  exact ⟨hnew, hmean, b, _, hstep, hget, hremove⟩

/-- Two prepared blocks with one identifier. -/
def shared : List Edit :=
  [.insert ⟨⟨1⟩, "from", "", .user, true, none, "nasa", none⟩,
    .insert ⟨⟨1⟩, "to", "", .user, true, none, "esa", none⟩]

/-- Nothing keeps two prepared blocks from sharing an identifier. It then finds the first block
only, and takes away both, one after the other. -/
theorem ids_shared :
    ¬((empty .builtin).run shared).blocks.Pairwise (fun a b ↦ a.id ≠ b.id) ∧
      ((empty .builtin).trace shared).1 = [.added ⟨1⟩, .added ⟨1⟩] ∧
      (((empty .builtin).run shared).get? ⟨1⟩).map Block.type = some "from" ∧
      ∃ a b, (((empty .builtin).run shared).trace [.remove ⟨1⟩, .remove ⟨1⟩]).1 =
        [.removed a, .removed b] := by
  refine ⟨by decide +kernel, by decide +kernel, by decide +kernel, ?_⟩
  exact ⟨_, _, rfl⟩

end Draft

end BlockQuery

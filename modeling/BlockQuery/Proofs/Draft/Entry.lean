import BlockQuery.Proofs.Draft.Values
import BlockQuery.Proofs.Query.Content

/-!
# Typing blocks in

A block is typed into a draft in two edits: it is added by its type, and then its values are set
under the identifier that adding it gave. `Entry` holds what these edits need.

Nothing of this is refused as long as types are registered and no type comes twice
(`Draft.Accepts`). It is also asked that no identifier is given twice, because values are set in the
*first* block with an identifier. **Each entry then puts one block with its contents at the end of
the draft** (`exists_trace_edits`), and a list of entries puts such blocks there in its order.
-/

namespace BlockQuery

/-- What is typed in for one block, and the identifier that the block gets. -/
structure Entry where
  fresh : BlockId
  type : String
  value : String
  second : Option String := none

namespace Entry

/-- The contents of the block that is typed in. -/
def content (e : Entry) : String × String :=
  (e.type, e.value)

/-- The edits that type a block in. -/
def edits (e : Entry) : List Draft.Edit :=
  [.add e.fresh e.type, .setValue e.fresh e.value e.second]

/-- What comes of these edits when none is refused. -/
def outcomes (e : Entry) : List Draft.Outcome :=
  [.added e.fresh, .done]

end Entry

namespace Draft

variable {d : Draft}

/-! ### One edit -/

/-- A known type that is not in use is added, as an empty block at the end. -/
theorem add_of_contains {type : String} (fresh : BlockId) (hknown : d.registry.contains type = true)
    (hfree : type ∉ d.usedTypes) :
    ∃ k : Kind, k.type = type ∧
      d.add fresh type = .ok { d with blocks := d.blocks ++ [.ofKind fresh k ""] } := by
  obtain ⟨k, hk, rfl⟩ := Registry.exists_find?_of_contains hknown
  exact ⟨k, rfl, add_eq_ok_iff.2 ⟨k, hk, insert_eq_ok_iff.2 ⟨hfree, rfl⟩⟩⟩

/-- Values are set in the last block if no block in front of it has its identifier. -/
theorem setValue_concat {b : Block} (h : b.id ∉ d.blocks.map Block.id) (value : String)
    (second : Option String) :
    setValue { d with blocks := d.blocks ++ [b] } b.id value second =
      .ok { d with blocks := d.blocks ++ [withValues value second b] } := by
  rw [setValue, if_neg, setFirst_append_cons h rfl]
  simp [get?]

/-! ### Entries that are not refused -/

/-- What keeps entries from being refused: their types are registered and free, and their
identifiers are new. -/
structure Accepts (d : Draft) (es : List Entry) : Prop where
  known : ∀ e ∈ es, d.registry.contains e.type = true
  types : (d.usedTypes ++ es.map Entry.type).Nodup
  fresh : (d.blocks.map Block.id ++ es.map Entry.fresh).Nodup

section Accepts

variable {e : Entry} {es : List Entry}

theorem Accepts.type_notMem (h : d.Accepts (e :: es)) : e.type ∉ d.usedTypes := by
  intro hmem
  exact (List.nodup_append.1 h.types).2.2 _ hmem _ (List.mem_cons_self ..) rfl

theorem Accepts.fresh_notMem (h : d.Accepts (e :: es)) : e.fresh ∉ d.blocks.map Block.id := by
  intro hmem
  exact (List.nodup_append.1 h.fresh).2.2 _ hmem _ (List.mem_cons_self ..) rfl

/-- Behind the block of the first entry, the other entries are still accepted. -/
theorem Accepts.concat {b : Block} (h : d.Accepts (e :: es)) (hid : b.id = e.fresh)
    (hcontent : b.content = e.content) :
    Accepts { d with blocks := d.blocks ++ [b] } es where
  known e' he' := h.known e' (List.mem_cons_of_mem _ he')
  types := by
    have hb : b.type = e.type := congrArg Prod.fst hcontent
    simpa [usedTypes, hb] using h.types
  fresh := by simpa [hid] using h.fresh

/-- **An entry puts one block with its contents at the end.** -/
theorem exists_trace_edits (h : d.Accepts (e :: es)) :
    ∃ b : Block, b.id = e.fresh ∧ b.content = e.content ∧
      d.trace e.edits = (e.outcomes, { d with blocks := d.blocks ++ [b] }) := by
  obtain ⟨k, hk, hadd⟩ :=
    add_of_contains e.fresh (h.known e (List.mem_cons_self ..)) h.type_notMem
  have hset := setValue_concat (b := .ofKind e.fresh k "") h.fresh_notMem e.value e.second
  refine ⟨withValues e.value e.second (.ofKind e.fresh k ""), rfl, ?_, ?_⟩
  · exact congrArg (·, e.value) hk
  · rw [Entry.edits, trace_cons, step, hadd, settle, trace_cons, step,
      show setValue _ e.fresh e.value e.second = _ from hset]
    rfl

/-- **Entries put blocks with their contents at the end,** in the order in which they are typed. -/
theorem exists_trace_entries (h : d.Accepts es) :
    ∃ bs : List Block, bs.map Block.content = es.map Entry.content ∧
      d.trace (es.flatMap Entry.edits) =
        (es.flatMap Entry.outcomes, { d with blocks := d.blocks ++ bs }) := by
  induction es generalizing d with
  | nil => exact ⟨[], rfl, by simp⟩
  | cons e es ih =>
    obtain ⟨b, hid, hcontent, htrace⟩ := exists_trace_edits h
    obtain ⟨bs, hcontents, hrest⟩ := ih (h.concat hid hcontent)
    refine ⟨b :: bs, by rw [List.map_cons, List.map_cons, hcontent, hcontents], ?_⟩
    rw [List.flatMap_cons, List.flatMap_cons, trace_append, htrace, hrest, List.append_assoc,
      List.singleton_append]

end Accepts

end Draft

end BlockQuery

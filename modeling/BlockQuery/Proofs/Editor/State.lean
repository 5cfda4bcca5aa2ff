import BlockQuery.Proofs.Agreement
import BlockQuery.Proofs.Editor
import BlockQuery.Proofs.Wire.Reports

/-!
# The state of an editor as a text

An editor shows its draft as a text: the blocks with all that there is to them, the types in use,
and the query. The text is also a payload, since it has a member `blocks`, and whoever reads
proposals from it finds the reports of the blocks (`ofText_stateAnswer`). Identifiers, labels and
second values are skipped on the way.

**None of what is skipped shows in a query,** so the payload has the query of the draft. That takes
no more of the draft than that it is bound to the built-in registry: types may be unregistered and
values may hold any characters.
-/

namespace BlockQuery

open Json

theorem Block.numbers_toJson (b : Block) : b.toJson.numbers = [] := by
  obtain ⟨id, type, label, category, needsValue, takesSecond, value, second⟩ := b
  cases takesSecond <;> cases second <;> rfl

namespace Editor

/-! ### The text of a state -/

theorem numbers_state (d : Draft) : (Json.object (stateMembers d)).numbers = [] := by
  have hblocks : (Json.list (d.blocks.map Block.toJson)).numbers = [] :=
    numbers_list_map Block.numbers_toJson d.blocks
  have htypes : (Json.list (d.usedTypes.map Json.text)).numbers = [] :=
    numbers_list_map (fun _ ↦ rfl) d.usedTypes
  rw [stateMembers, numbers, memberNumbers, memberNumbers, memberNumbers, memberNumbers, hblocks,
    htypes]
  rfl

/-- A state holds no numbers, so nothing is asked of it to be read back. -/
theorem readsBack_state (d : Draft) :
    ∀ n ∈ (Json.object (stateMembers d)).numbers, n.ReadsBack := by
  rw [numbers_state]
  exact List.forall_mem_nil _

/-- Whoever reads proposals from the text of a state finds the reports of its blocks. -/
theorem ofText_stateAnswer (d : Draft) :
    Proposal.ofText (stateAnswer d) = .ok (d.blocks.map Block.toProposal) :=
  Proposal.ofText_object_of_listReader
    (Proposal.listReader_toNode_of_isWrittenAs (isWrittenAs_map_toJson d.blocks) 124) []
    [("usedTypes", .list (d.usedTypes.map .text)), ("query", .text d.compile)]
    (List.forall_mem_nil _) (by simp) (readsBack_state d)

/-- Reads the query of a state. -/
def queryMember : Reader String :=
  (Record.required "query" Reader.text).read "EditorState"

/-- The text of a state tells the query of its draft. -/
theorem queryMember_stateAnswer (d : Draft) : queryMember.run (stateAnswer d) = .ok d.compile := by
  have hbefore : ∀ m ∈ [("blocks", Json.list (d.blocks.map Block.toJson)),
      ("usedTypes", .list (d.usedTypes.map .text))], m.1 ≠ "query" := by simp
  have hquery := Record.read_required_toNode "query" Reader.text 126 "EditorState" hbefore
    (List.forall_mem_nil _) (.text d.compile)
  rw [stateAnswer, Reader.run_compact _ _ (readsBack_state d)]
  exact hquery

/-- The text of a state has the query of its draft. -/
theorem queryOf_stateAnswer {d : Draft} (hd : d.registry = .builtin) (place : Json.Place) :
    queryOf (stateAnswer d) place = d.compile := by
  rw [queryOf_of_ofText (ofText_stateAnswer d), Draft.compile, hd]
  exact Registry.compile_instantiate_toProposal anonymous d.blocks

/-- **The state of an editor survives as a text.** Whatever calls an editor has answered, if it has
a draft, the text of its state is a payload with the query of the editor, and that query is also the
member `query` of the text. -/
theorem queryOf_blocks_of_run {calls : List Call}
    (hstarted : (closed.run calls).draft.isSome = true) (place : Json.Place) :
    queryOf (closed.run calls).blocks place = (closed.run calls).query ∧
      queryMember.run (closed.run calls).blocks = .ok (closed.run calls).query := by
  obtain ⟨d, hd⟩ := Option.isSome_iff_exists.1 hstarted
  have hblocks : (closed.run calls).blocks = stateAnswer d := by
    rw [blocks, current_eq_ok.2 hd]
  have hquery : (closed.run calls).query = d.compile := by
    rw [query, hd, Option.map_some, Option.getD_some]
  rw [hblocks, hquery]
  exact ⟨queryOf_stateAnswer (registry_of_run hd) place, queryMember_stateAnswer d⟩

/-- Calls of which the first comes too early. They leave a type that no registry has, a value with
quotes, a backslash and control characters, and a second value. -/
def sessionCalls : List Call :=
  [.add ⟨1⟩ "from", .start,
    .replace anonymous Day.first
      ("[\x7b\"type\":\"near\",\"value\":\"Kourou\"\x7d," ++
        "\x7b\"type\":\"until\",\"value\":\"today\"\x7d]"),
    .add ⟨2⟩ "exact-phrase",
    .update "00000000-0000-0000-0000-000000000002" "the \"Artemis\\II\" plan\n\u0001" (some "x")]

/-- The session leaves a draft, so there is something to survive. -/
theorem queryOf_blocks_of_run_session :
    (closed.run sessionCalls).draft.isSome = true ∧
      queryOf (closed.run sessionCalls).blocks = (closed.run sessionCalls).query ∧
      queryMember.run (closed.run sessionCalls).blocks = .ok (closed.run sessionCalls).query := by
  have hstarted : (closed.run sessionCalls).draft.isSome = true := by decide +kernel
  exact ⟨hstarted, queryOf_blocks_of_run hstarted _⟩

end Editor

end BlockQuery

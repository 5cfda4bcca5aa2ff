import BlockQuery.Proofs.Agreement
import BlockQuery.Proofs.Draft.History
import BlockQuery.Proofs.Editor
import BlockQuery.Proofs.Intake.Days
import BlockQuery.Service.Requests

/-!
# Interpretations stand by their queries

An answer to free text holds the blocks that were made of it and their query. Whoever gets the
answer can make blocks of it once more and has two ways to do so, neither of which needs to know
that the text is an answer and not a mere list: proposals can be taken as they are, or taken in.

Either way the query comes out that the answer states. The text says of each block its type and its
value, and no more of a block shows in a query. **Taking in twice is taking in once:** the types are
distinct already, and relative days that were settled are not relative any more, so it does not
matter on which day the answer is read.
-/

namespace BlockQuery

/-! ### Blocks reported and taken in again -/

/-- **What was taken in and is taken in again** comes to the same query, on whatever day. -/
theorem Registry.compile_intake_toProposal_intake {ids ids' : IdSupply} {today later : Day}
    {ps : List Proposal} (htoday : today ≠ Day.first) :
    builtin.compile
        (builtin.intake ids' later ((builtin.intake ids today ps).map Block.toProposal)) =
      builtin.compile (builtin.intake ids today ps) := by
  refine congrArg Query.text (query_eq_of_content_eq ?_)
  rw [map_content_intake ids', map_content_toProposal]
  · rw [map_type_toProposal]
    exact builtin_intake_types_nodup ids today ps
  · -- whatever was relative has been settled, so the later day is never asked for
    intro p hp
    obtain ⟨b, hb, rfl⟩ := List.mem_map.1 hp
    exact builtin_settled?_of_mem_intake htoday hb later

/-! ### Answers -/

namespace InterpretationAnswer

/-- Whoever gets the text of the answer finds what the answer says. -/
structure StandsByQuery (a : InterpretationAnswer) : Prop where
  distinct : a.blocks.Pairwise fun p q ↦ p.type ≠ q.type
  blocks : Proposal.ofText a.toJson.compact = .ok a.blocks
  query : ∀ place, Editor.queryOf a.toJson.compact place = a.query
  /-- An editor with a draft takes the answer in, on whatever day, and then has its query. -/
  replaced : ∀ calls d ids later place, (Editor.closed.run calls).draft = some d →
    ∃ after, (Editor.closed.run calls).replace ids later a.toJson.compact place =
        (Editor.stateAnswer after, ⟨some after⟩) ∧
      Editor.query ⟨some after⟩ = a.query

/-- An answer holds no numbers, so nothing is asked of it to be read back. -/
theorem numbers_toJson (a : InterpretationAnswer) : a.toJson.numbers = [] := by
  simp only [toJson, Json.numbers, Json.memberNumbers, List.nil_append, List.append_nil]
  exact Json.numbers_list_map Proposal.numbers_toJson a.blocks

/-- The blocks are found among the other members. -/
theorem ofText_toJson (a : InterpretationAnswer) :
    Proposal.ofText a.toJson.compact = .ok a.blocks := by
  refine Proposal.ofText_object a.blocks [("received", .bool true), ("query", .text a.text)]
    [("generatedQuery", .text a.query), ("timestamp", .text a.timestamp)] (by simp) (by simp)
    fun n hn ↦ ?_
  have hnone : n ∈ a.toJson.numbers := hn
  rw [numbers_toJson] at hnone
  exact absurd hnone List.not_mem_nil

/-- The answer that reports blocks. -/
def reporting (bs : List Block) (text timestamp : String) : InterpretationAnswer :=
  ⟨text, bs.map Block.toProposal, Registry.builtin.compile bs, timestamp⟩

/-- An answer that reports what was taken in stands by its query, if the day had a day before it. -/
theorem standsByQuery_reporting_intake (ids : IdSupply) {today : Day} (htoday : today ≠ Day.first)
    (ps : List Proposal) (text timestamp : String) :
    (reporting (Registry.builtin.intake ids today ps) text timestamp).StandsByQuery where
  distinct := by
    have htypes := Registry.builtin_intake_types_nodup ids today ps
    rw [← map_type_toProposal] at htypes
    exact List.pairwise_map.1 htypes
  blocks := ofText_toJson _
  query place := by
    rw [queryOf_of_ofText (ofText_toJson _)]
    exact Registry.compile_instantiate_toProposal _ _
  replaced := by
    intro calls d ids' later place hd
    refine ⟨_, Editor.replace_of_ofText hd (ofText_toJson _) ids' later place, ?_⟩
    rw [Editor.query, Option.map_some, Option.getD_some, Draft.compile, Draft.takeIn,
      Editor.registry_of_run hd]
    exact Registry.compile_intake_toProposal_intake htoday

end InterpretationAnswer

namespace InterpretationRequest

open InterpretationAnswer

/-- **Interpretations stand by their queries.** A request with a text that is not blank is answered
whenever the interpreter answers, whatever it proposes, and on any day but the first the answer
stands by its query. -/
theorem exists_answer_standsByQuery (s : Services) {r : InterpretationRequest} {text : String}
    (hquery : r.query = some (.text text)) (htext : Text.allBlank text = false)
    {ps : List Proposal} (hps : s.interpret text = .ok ps) (ids : IdSupply) {today : Day}
    (htoday : today ≠ Day.first) (timestamp : String) :
    ∃ a : InterpretationAnswer,
      r.answer s ids today timestamp = ⟨[.interpret text], .ok a⟩ ∧ a.StandsByQuery := by
  have hrequested : requestedQuery? r.query = some text := by
    rw [hquery, requestedQuery?, htext]
    rfl
  have hanswer : r.answer s ids today timestamp =
      ⟨[.interpret text],
        .ok (reporting (Registry.builtin.intake ids today ps) text timestamp)⟩ := by
    simp only [answer, hrequested, hps]
    rfl
  exact ⟨_, hanswer, standsByQuery_reporting_intake ids htoday ps text timestamp⟩

/-- Services of which only the interpreter answers. It proposes a block twice, makes claims, speaks
of a relative day and knows a type that no registry has. -/
def onlyInterpreting : Services where
  fetch _ := .error (.fetch "no answer")
  analyze _ _ := .error (.analysis "no answer")
  interpret _ := .ok
    [⟨"from", "esa", none, none⟩, ⟨"since", " Yesterday", some "date", some true⟩,
      ⟨"exact-phrase", "the \"Artemis\\II\" plan\n", none, none⟩,
      ⟨"from", "nasa", some "mood", none⟩, ⟨"near", "Kourou", some "user", some false⟩]

theorem exists_answer_standsByQuery_onlyInterpreting :
    ∃ a : InterpretationAnswer,
      answer onlyInterpreting Editor.anonymous ⟨2024, 3, 21, by decide⟩ "noon"
          ⟨some (.text " what of Artemis? ")⟩ =
        ⟨[.interpret " what of Artemis? "], .ok a⟩ ∧ a.StandsByQuery :=
  exists_answer_standsByQuery onlyInterpreting rfl (by decide) rfl _ (by decide) _

end InterpretationRequest

end BlockQuery

import BlockQuery.Editor
import BlockQuery.Proofs.Calendar.Relative
import BlockQuery.Proofs.Draft.Entry
import BlockQuery.Proofs.Query.Entries
import BlockQuery.Proofs.Wire.Proposals

/-!
# Three ways to a query

The same contents can be typed into a draft block by block, taken in as proposals, or sent to the
editor as text. Each way makes blocks in its own order and with its own identifiers, labels and
second values, but **the contents of the blocks are the same** in all three, and nothing else of
them shows in a query.

Taking in is the one way that may change contents. It keeps only the last proposal of a type, and it
settles relative days. Where types are distinct and no day is relative there is nothing to do.
-/

namespace BlockQuery

/-- What a proposal says of the contents of its block. -/
def Proposal.content (p : Proposal) : String × String :=
  (p.type, p.value)

/-! ### Contents of blocks for proposals -/

/-- A block and its report have the same content. -/
theorem map_content_toProposal (bs : List Block) :
    (bs.map Block.toProposal).map Proposal.content = bs.map Block.content := by
  rw [List.map_map]
  rfl

/-- Words that are neither `today` nor `yesterday` stay as they are. -/
theorem settled?_eq_none {type value : String} (today : Day)
    (h : type = "since" ∨ type = "until" →
      Text.asciiLower (Text.trimmed value) ≠ "today" ∧
        Text.asciiLower (Text.trimmed value) ≠ "yesterday") :
    settled? type value today = none := by
  refine settled?_eq_none_of_not_namesRelativeDay today fun htype ↦ ?_
  rw [← asciiLower_mem_relativeWords_iff, relativeWords, List.mem_pair, not_or]
  exact h (by simpa [dateTypes] using htype)

namespace Registry

/-- Proposals keep their contents when they are made blocks. -/
theorem map_content_instantiate (ids : IdSupply) (ps : List Proposal) :
    (builtin.instantiate ids ps).map Block.content = ps.map Proposal.content := by
  refine map_mapIdx_of_forall (fun i p ↦ ?_) _
  exact congrArg (·, p.value) (builtin_kindOf_type p)

/-- **Blocks that are reported and made again have the same query.** -/
theorem compile_instantiate_toProposal (ids : IdSupply) (bs : List Block) :
    builtin.compile (builtin.instantiate ids (bs.map Block.toProposal)) = builtin.compile bs := by
  refine congrArg Query.text (query_eq_of_content_eq ?_)
  rw [map_content_instantiate, map_content_toProposal]

/-- Proposals of distinct types without relative days are taken in as they are. -/
theorem map_content_intake (ids : IdSupply) {today : Day} {ps : List Proposal}
    (htypes : (ps.map Proposal.type).Nodup)
    (hsettled : ∀ p ∈ ps, settled? p.type p.value today = none) :
    (builtin.intake ids today ps).map Block.content = ps.map Proposal.content := by
  have hcontent : (builtin.intake ids today ps).map Block.content =
      ps.map fun p ↦ (p.type, (settled? p.type p.value today).getD p.value) := by
    rw [intake, lastOfEachType_eq_self htypes]
    refine map_mapIdx_of_forall (fun i p ↦ ?_) _
    exact congrArg (·, _) (builtin_kindOf_type p)
  rw [hcontent]
  refine List.map_congr_left fun p hp ↦ ?_
  rw [hsettled p hp, Option.getD_none, Proposal.content]

end Registry

/-! ### The three ways -/

section Ways

variable {contents : List (String × String)}

/-- Contents of known and distinct types are accepted in any order. -/
theorem accepts_of_perm {r : Registry} {typed : List Entry}
    (hdistinct : (contents.map Prod.fst).Nodup) (hknown : ∀ c ∈ contents, r.contains c.1 = true)
    (htyped : (typed.map Entry.content).Perm contents) (hfresh : (typed.map Entry.fresh).Nodup) :
    (Draft.empty r).Accepts typed where
  known e he := hknown e.content (htyped.mem_iff.1 (List.mem_map_of_mem he))
  types := types_nodup_of_perm htyped hdistinct
  fresh := hfresh

/-- Typing in succeeds and leaves blocks with these contents. -/
theorem exists_typed {r : Registry} {typed : List Entry}
    (hdistinct : (contents.map Prod.fst).Nodup) (hknown : ∀ c ∈ contents, r.contains c.1 = true)
    (htyped : (typed.map Entry.content).Perm contents) (hfresh : (typed.map Entry.fresh).Nodup) :
    ∃ bs : List Block, (bs.map Block.content).Perm contents ∧
      (Draft.empty r).trace (typed.flatMap Entry.edits) =
        (typed.flatMap Entry.outcomes, ⟨r, bs⟩) := by
  obtain ⟨bs, hbs, htrace⟩ :=
    Draft.exists_trace_entries (accepts_of_perm hdistinct hknown htyped hfresh)
  exact ⟨bs, hbs ▸ htyped, htrace⟩

/-- The query of a payload is that of the proposals that are read from it. -/
theorem queryOf_of_ofText {payload : String} {ps : List Proposal}
    (h : Proposal.ofText payload = .ok ps) {place : Json.Place} :
    Editor.queryOf payload place =
      Registry.builtin.compile (Registry.builtin.instantiate Editor.anonymous ps) := by
  rw [Editor.queryOf, Editor.readProposals, h, Except.mapError]

/-- **Typing in, taking in and sending agree.** From contents with distinct built-in types and no
relative days, in whatever orders, the three ways lead to the same query. None of the edits of
typing in is refused. That new identifiers are distinct is the promise of whoever hands them out;
the identifiers and the day of taking in do not matter at all, nor does what is given with a payload
in case it cannot be read. -/
theorem query_eq_on_all_ways (hdistinct : (contents.map Prod.fst).Nodup)
    (hknown : ∀ c ∈ contents, Registry.builtin.contains c.1 = true)
    (habsolute : ∀ c ∈ contents, c.1 = "since" ∨ c.1 = "until" →
      Text.asciiLower (Text.trimmed c.2) ≠ "today" ∧
        Text.asciiLower (Text.trimmed c.2) ≠ "yesterday")
    {taken sent : List Proposal} {typed : List Entry}
    (htaken : (taken.map Proposal.content).Perm contents)
    (htyped : (typed.map Entry.content).Perm contents)
    (hsent : (sent.map Proposal.content).Perm contents)
    (hfresh : (typed.map Entry.fresh).Nodup) (ids : IdSupply) (today : Day) (place : Json.Place) :
    ∃ draft : Draft,
      (Draft.empty .builtin).trace (typed.flatMap Entry.edits) =
          (typed.flatMap Entry.outcomes, draft) ∧
        Registry.builtin.compile (Registry.builtin.intake ids today taken) = draft.compile ∧
        Editor.queryOf (Json.list (sent.map Proposal.toJson)).compact place = draft.compile ∧
        Editor.queryOf (Proposal.replyToJson sent).compact place = draft.compile := by
  obtain ⟨bs, hbs, htrace⟩ := exists_typed hdistinct hknown htyped hfresh
  have hquery : ∀ bs' : List Block, (bs'.map Block.content).Perm contents →
      Registry.builtin.compile bs' = Registry.builtin.compile bs := by
    intro bs' hbs'
    have htypes : (bs'.map Block.type).Nodup := types_nodup_of_perm hbs' hdistinct
    exact congrArg Query.text
      (Registry.query_eq_of_perm Registry.coversRules_builtin htypes (hbs'.trans hbs.symm))
  -- each way is now a matter of the contents of its blocks
  refine ⟨⟨.builtin, bs⟩, htrace, hquery _ ?_, ?_, ?_⟩
  · rwa [Registry.map_content_intake ids (types_nodup_of_perm htaken hdistinct)]
    intro p hp
    exact settled?_eq_none today (habsolute p.content (htaken.mem_iff.1 (List.mem_map_of_mem hp)))
  · rw [queryOf_of_ofText (Proposal.ofText_list sent)]
    exact hquery _ (by rwa [Registry.map_content_instantiate])
  · rw [queryOf_of_ofText (Proposal.ofText_replyToJson sent)]
    exact hquery _ (by rwa [Registry.map_content_instantiate])

/-- Contents whose text needs quotes, a backslash and control characters to be escaped. -/
def missionContents : List (String × String) :=
  [("exact-phrase", "the \"Artemis\\II\" plan\n"), ("since", "2024-03-21"),
    ("from", "@nasa\tesa\u0001"), ("question", "")]

/-- The contents as proposals, back to front, where two make wrong claims about their kinds. -/
def missionTaken : List Proposal :=
  [⟨"question", "", some "user", some true⟩, ⟨"from", "@nasa\tesa\u0001", none, none⟩,
    ⟨"since", "2024-03-21", none, some false⟩,
    ⟨"exact-phrase", "the \"Artemis\\II\" plan\n", some "keyword", none⟩]

/-- The contents as they are typed in, with a second value that is not wanted. -/
def missionTyped : List Entry :=
  [⟨⟨3⟩, "since", "2024-03-21", none⟩,
    ⟨⟨1⟩, "exact-phrase", "the \"Artemis\\II\" plan\n", some "x"⟩,
    ⟨⟨2⟩, "question", "", none⟩, ⟨⟨0⟩, "from", "@nasa\tesa\u0001", none⟩]

theorem query_eq_on_all_ways_mission :
    ∃ draft : Draft,
      (Draft.empty .builtin).trace (missionTyped.flatMap Entry.edits) =
          (missionTyped.flatMap Entry.outcomes, draft) ∧
        Registry.builtin.compile
            (Registry.builtin.intake Editor.anonymous ⟨2024, 3, 22, by decide⟩ missionTaken) =
          draft.compile ∧
        Editor.queryOf (Json.list (missionTaken.reverse.map Proposal.toJson)).compact =
          draft.compile ∧
        Editor.queryOf (Proposal.replyToJson missionTaken.reverse).compact = draft.compile :=
  query_eq_on_all_ways (show (missionContents.map Prod.fst).Nodup by decide) (by decide +kernel)
    (by decide +kernel) (by decide) (by decide) (by decide) (by decide) _ _ _

end Ways

end BlockQuery

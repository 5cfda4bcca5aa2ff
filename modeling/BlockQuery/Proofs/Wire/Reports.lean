import BlockQuery.Proofs.Wire.RoundTrip

/-!
# Blocks read as proposals

Whoever has blocks can send them as they are to someone who wants proposals. A block states more
than a proposal asks for, and some of the names are the same: what a proposal is made of is the
type, the value, the category and the flag, **and that is all that its fields find among the members
of a block** (`Proposal.makes_toProposal`). The identifier, the label and the second value are
skipped.

Members are looked up by name, so it does not matter in which order they stand. What comes of a list
of blocks are the reports of the blocks, one by one.
-/

namespace BlockQuery

open Json Json.Record

/-! ### One block -/

/-- A JSON value that writes a block, with the members in some order. -/
def Block.IsWrittenAs (b : Block) (v : Json) : Prop :=
  ∃ ms, ms.Perm b.members ∧ v = .object (stated ms)

/-- What a block is written as is one way to write it. -/
theorem Block.isWrittenAs_toJson (b : Block) : b.IsWrittenAs b.toJson :=
  ⟨b.members, .refl _, b.toJson_eq_stated⟩

/-- **The fields of a proposal make the report of a block** of what the block states. -/
theorem Proposal.makes_toProposal (b : Block) (depth : ℕ) :
    record.Makes depth (givenBy b.members) b.toProposal := by
  obtain ⟨id, type, label, category, needsValue, takesSecond, value, second⟩ := b
  iterate 3 refine Makes.seq ?_ ?_
  · exact (makes_required rfl rfl).map _
  · exact makes_optional rfl rfl _
  · exact makes_of_given rfl rfl
  · exact makes_of_given rfl rfl

variable {b : Block} {v : Json}

/-- **Who reads a proposal from a block finds its report,** and skips all else. -/
theorem Block.IsWrittenAs.reader_toNode (h : b.IsWrittenAs v) (depth : ℕ) :
    Proposal.reader (depth + 1) v.toNode = .ok b.toProposal := by
  obtain ⟨ms, hms, rfl⟩ := h
  have hkeys : (ms.map Prod.fst).Nodup := (hms.map Prod.fst).nodup_iff.2 (by simp [members])
  refine read_object_toNode hkeys ?_ "RawBlock"
  rw [givenBy_eq_of_perm hms hkeys]
  exact Proposal.makes_toProposal b depth

theorem Block.IsWrittenAs.readsBack (h : b.IsWrittenAs v) : ∀ n ∈ v.numbers, n.ReadsBack := by
  obtain ⟨ms, hms, rfl⟩ := h
  have hmembers : ∀ m ∈ b.members, ReadsBack m.2 := by
    simp [members, numbers]
  exact readsBack_stated fun m hm ↦ hmembers m (hms.mem_iff.1 hm)

/-! ### Lists of blocks -/

variable {bs : List Block} {vs : List Json}

theorem isWrittenAs_map_toJson (bs : List Block) :
    List.Forall₂ Block.IsWrittenAs bs (bs.map Block.toJson) :=
  List.forall₂_map_right_iff.2 (List.forall₂_same.2 fun b _ ↦ b.isWrittenAs_toJson)

theorem readsBack_list_of_isWrittenAs (h : List.Forall₂ Block.IsWrittenAs bs vs) :
    ∀ n ∈ (list vs).numbers, n.ReadsBack := by
  rw [numbers]
  induction h with
  | nil => exact List.forall_mem_nil _
  | cons hb _ ih => exact List.forall_mem_append.2 ⟨hb.readsBack, ih⟩

namespace Proposal

/-- Lists of blocks are read as their reports. -/
theorem listReader_toNode_of_isWrittenAs (h : List.Forall₂ Block.IsWrittenAs bs vs) (depth : ℕ) :
    listReader (depth + 2) (list vs).toNode = .ok (bs.map Block.toProposal) :=
  Reader.listOf_toNode_of_forall₂ (h.imp fun _ _ hb ↦ hb.reader_toNode depth)

/-- **A list of blocks is read as the list of their reports,** as it is. -/
theorem ofText_list_of_isWrittenAs (h : List.Forall₂ Block.IsWrittenAs bs vs) :
    ofText (list vs).compact = .ok (bs.map Block.toProposal) :=
  ofText_of_listReader (listReader_toNode_of_isWrittenAs h 125) (readsBack_list_of_isWrittenAs h)

/-- **A list of blocks is read as the list of their reports,** as the member `blocks` of an
object. -/
theorem ofText_object_of_isWrittenAs (h : List.Forall₂ Block.IsWrittenAs bs vs) :
    ofText (object [("blocks", list vs)]).compact = .ok (bs.map Block.toProposal) := by
  refine ofText_object_of_listReader (listReader_toNode_of_isWrittenAs h 124) [] []
    (List.forall_mem_nil _) (List.forall_mem_nil _) ?_
  rw [List.nil_append, numbers, memberNumbers, memberNumbers, List.append_nil]
  exact readsBack_list_of_isWrittenAs h

end Proposal

/-! ### What shows of a block -/

/-- The blocks agree in what is reported of them. -/
def Block.ReportedAlike (b c : Block) : Prop :=
  b.type = c.type ∧ b.value = c.value ∧ b.category = c.category ∧ b.needsValue = c.needsValue

/-- Names tell categories apart. -/
theorem Category.name_inj {c d : Category} : c.name = d.name ↔ c = d := by
  refine ⟨fun h ↦ ?_, congrArg name⟩
  have hread := c.reader_toNode 0
  rw [h, d.reader_toNode] at hread
  exact (Except.ok.inj hread).symm

/-- Blocks are reported alike if they agree in what a report tells. -/
theorem Block.toProposal_eq_iff {b c : Block} :
    b.toProposal = c.toProposal ↔ b.ReportedAlike c := by
  simp only [toProposal, ReportedAlike, Proposal.mk.injEq, Option.some.injEq, Category.name_inj]

theorem map_toProposal_eq_iff {cs : List Block} :
    bs.map Block.toProposal = cs.map Block.toProposal ↔
      List.Forall₂ Block.ReportedAlike bs cs := by
  rw [← List.forall₂_eq_eq_eq, List.forall₂_map_left_iff, List.forall₂_map_right_iff]
  simp only [Block.toProposal_eq_iff]

/-- **Blocks that are sent are read as their reports.** The text of a list of blocks, as it is or as
the member `blocks` of an object, is read as the reports of the blocks in their order. The members
of the blocks may stand in any order. Nothing shows of a block but its type, its value, its category
and its flag: two lists are read alike exactly if they agree in these block by block. -/
theorem ofText_blocks_eq_reports (bs : List Block) :
    Proposal.ofText (list (bs.map Block.toJson)).compact = .ok (bs.map Block.toProposal) ∧
      Proposal.ofText (object [("blocks", list (bs.map Block.toJson))]).compact =
        .ok (bs.map Block.toProposal) ∧
      (∀ vs, List.Forall₂ Block.IsWrittenAs bs vs →
        Proposal.ofText (list vs).compact = .ok (bs.map Block.toProposal) ∧
          Proposal.ofText (object [("blocks", list vs)]).compact =
            .ok (bs.map Block.toProposal)) ∧
      ∀ cs : List Block,
        Proposal.ofText (list (bs.map Block.toJson)).compact =
            Proposal.ofText (list (cs.map Block.toJson)).compact ↔
          List.Forall₂ Block.ReportedAlike bs cs := by
  have hlist (bs : List Block) := Proposal.ofText_list_of_isWrittenAs (isWrittenAs_map_toJson bs)
  refine ⟨hlist bs, Proposal.ofText_object_of_isWrittenAs (isWrittenAs_map_toJson bs),
    fun vs h ↦ ⟨Proposal.ofText_list_of_isWrittenAs h, Proposal.ofText_object_of_isWrittenAs h⟩,
    fun cs ↦ ?_⟩
  rw [hlist bs, hlist cs, Except.ok.injEq, map_toProposal_eq_iff]

/-- A block that states all that a block can state, in characters that are escaped. -/
def Block.wordy : Block where
  id := ⟨1⟩
  type := "lang"
  label := "\"Language\""
  category := .media
  needsValue := false
  takesSecond := some true
  value := "the \"Artemis\\II\" plan\n\u0001"
  second := some "x"

/-- The block with its members back to front. -/
def Block.wordyReversed : Json :=
  .object (stated Block.wordy.members.reverse)

theorem ofText_blocks_eq_reports_wordy :
    List.Forall₂ Block.IsWrittenAs [Block.wordy] [Block.wordyReversed] ∧
      Proposal.ofText (list [Block.wordyReversed]).compact = .ok [Block.wordy.toProposal] ∧
        Proposal.ofText (object [("blocks", list [Block.wordyReversed])]).compact =
          .ok [Block.wordy.toProposal] := by
  have hwritten : List.Forall₂ Block.IsWrittenAs [Block.wordy] [Block.wordyReversed] :=
    .cons ⟨_, List.reverse_perm _, rfl⟩ .nil
  exact ⟨hwritten, (ofText_blocks_eq_reports [Block.wordy]).2.2.1 _ hwritten⟩

end BlockQuery

import BlockQuery.Proofs.Json.Members
import BlockQuery.Proofs.Wire.Shapes

/-!
# Reading proposals back

A proposal that was written is read as it was, whichever optional members it has and whatever
characters are in its type and value. The same goes for a list of proposals, as it is or as the
member `blocks` of an object.

A list as it is takes a detour: its text is first read as if it were the object. That must fail, or
what it yields would count, and it does, since **a text that is read as a list is not read as the
object.** So either way it is enough to follow the reading that fits.
-/

namespace BlockQuery.Proposal

open Json

/-! ### One proposal -/

theorem numbers_toJson (p : Proposal) : p.toJson.numbers = [] := by
  obtain ⟨type, value, category, needsValue⟩ := p
  cases category <;> cases needsValue <;> rfl

/-- **A proposal is read back,** with or without its optional members. -/
theorem reader_toNode (p : Proposal) (depth : ℕ) :
    reader (depth + 1) p.toJson.toNode = .ok p := by
  obtain ⟨type, value, category, needsValue⟩ := p
  cases category <;> cases needsValue <;> rfl

/-! ### Lists of proposals -/

/-- Proposals are read back from a list. -/
theorem listReader_toNode (ps : List Proposal) (depth : ℕ) :
    listReader (depth + 2) (Json.list (ps.map toJson)).toNode = .ok ps := by
  have hlist := Reader.listOf_toNode (fun p ↦ reader_toNode p depth) ps
  rwa [List.map_id'] at hlist

/-! ### Texts -/

/-- Proposals hold no numbers, so nothing is asked of a list of them to be read back. -/
theorem readsBack_list (ps : List Proposal) :
    ∀ n ∈ (Json.list (ps.map toJson)).numbers, n.ReadsBack := by
  intro n hn
  rw [numbers_list_map numbers_toJson] at hn
  exact absurd hn List.not_mem_nil

theorem readsBack_replyToJson (ps : List Proposal) :
    ∀ n ∈ (replyToJson ps).numbers, n.ReadsBack := by
  intro n hn
  rw [replyToJson, numbers, memberNumbers, memberNumbers, List.append_nil] at hn
  exact readsBack_list ps n hn

/-- **What is read as a list of proposals is read from the text of the list,** as it is. -/
theorem ofText_of_listReader {ps : List Proposal} {v : Json} (hv : listReader 127 v.toNode = .ok ps)
    (hnumbers : ∀ n ∈ v.numbers, n.ReadsBack) : ofText v.compact = .ok ps := by
  have hlist : listReader.run v.compact = .ok ps := by
    rw [Reader.run_compact _ _ hnumbers]
    exact hv
  exact ofText_eq_ok_iff.2 (.inr hlist)

/-- **A list of proposals is read back from its text,** as it is. -/
theorem ofText_list (ps : List Proposal) :
    ofText (Json.list (ps.map toJson)).compact = .ok ps :=
  ofText_of_listReader (listReader_toNode ps 125) (readsBack_list ps)

/-- **What is read from the member `blocks` of an object is read from its text,** whatever other
members are written around it. -/
theorem ofText_object_of_listReader {ps : List Proposal} {v : Json}
    (hv : listReader 126 v.toNode = .ok ps) (before after : List (String × Json))
    (hbefore : ∀ m ∈ before, m.1 ≠ "blocks") (hafter : ∀ m ∈ after, m.1 ≠ "blocks")
    (hnumbers : ∀ n ∈ (Json.object (before ++ ("blocks", v) :: after)).numbers, n.ReadsBack) :
    ofText (Json.object (before ++ ("blocks", v) :: after)).compact = .ok ps := by
  have hreply :
      replyReader.run (Json.object (before ++ ("blocks", v) :: after)).compact = .ok ps := by
    rw [Reader.run_compact _ _ hnumbers]
    exact (Record.read_required_toNode "blocks" listReader 126 "NaturalLanguageReply" hbefore hafter
      v).trans hv
  exact ofText_eq_ok_iff.2 (.inl hreply)

/-- **A list of proposals is read back from its text,** as the member `blocks` of an object. -/
theorem ofText_object (ps : List Proposal) (before after : List (String × Json))
    (hbefore : ∀ m ∈ before, m.1 ≠ "blocks") (hafter : ∀ m ∈ after, m.1 ≠ "blocks")
    (hnumbers : ∀ n ∈ (Json.object (before ++ ("blocks", .list (ps.map toJson)) :: after)).numbers,
      n.ReadsBack) :
    ofText (Json.object (before ++ ("blocks", .list (ps.map toJson)) :: after)).compact =
      .ok ps :=
  ofText_object_of_listReader (listReader_toNode ps 124) before after hbefore hafter hnumbers

/-- Proposals are read back from an object that has their list as a member. -/
theorem ofText_replyToJson (ps : List Proposal) :
    ofText (replyToJson ps).compact = .ok ps :=
  ofText_object ps [] [] (List.forall_mem_nil _) (List.forall_mem_nil _) (readsBack_replyToJson ps)

end BlockQuery.Proposal

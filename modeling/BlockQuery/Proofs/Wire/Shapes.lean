import BlockQuery.Proofs.Json.Accepted
import BlockQuery.Wire.Blocks

/-!
# Two shapes of a payload

A payload holds its proposals as a list or as the member `blocks` of an object. Records may be
spelled as lists, the object included and every proposal too. So a list of lists could be either,
and `Proposal.ofText` tries the object first.

**No text is both.** Suppose that one were. As an object spelled as a list it has one item, a list
of proposals; as a list of proposals this item is a proposal. A proposal that is spelled as a list
starts with its type, a text, so the list of proposals starts with a text, and no text is a
proposal. An empty list is none either, since the type is missing.

So the order in which the two readings are tried decides nothing but what is said of a text that is
neither.
-/

namespace BlockQuery

open Json

namespace Proposal

variable {depth : ℕ} {n : Node} {items : List Node} {ending : ListEnd} {p : Proposal}
  {ps qs : List Proposal}

/-! ### Lists that stand for records -/

/-- A list that is read as a proposal starts with a text. -/
theorem exists_type_of_reader_list (h : reader depth (.list items ending) = .ok p) :
    ∃ type rest, items = .text (.ok type) :: rest := by
  obtain ⟨-, -, outer, n, rest, -, rfl, hcheck⟩ :=
    Record.exists_items_of_read_list rfl (by decide) h
  obtain ⟨type, htype, -⟩ := map_eq_ok.1 hcheck
  exact ⟨type, rest, by rw [Reader.text_eq_ok htype]⟩

/-- A list that is read as an object with the member `blocks` has one item, the list of
proposals. -/
theorem exists_item_of_replyReader_list (h : replyReader depth (.list items ending) = .ok ps) :
    ∃ outer n, items = [n] ∧ listReader outer n = .ok ps := by
  obtain ⟨rfl, hlength, outer, n, rest, rfl, rfl, -⟩ :=
    Record.exists_items_of_read_list rfl (by decide) h
  obtain rfl : rest = [] :=
    List.eq_nil_of_length_eq_zero (Nat.le_zero.1 (Nat.le_of_succ_le_succ hlength))
  exact ⟨outer, n, rfl, (Record.read_required_singleton _ _ _ _ _).symm.trans h⟩

/-- A text is no proposal. -/
theorem reader_text_ne_ok (t : Except Fault String) : reader depth (.text t) ≠ .ok p := by
  intro h
  rcases Record.isObject_or_isList_of_read h with ⟨_, _, h⟩ | ⟨_, _, h⟩ <;> cases h

/-! ### Two readings of one tree -/

/-- **What is read as an object with the member `blocks` is no list of proposals.** -/
theorem not_listReader_of_replyReader (hreply : replyReader depth n = .ok ps)
    (hlist : listReader depth n = .ok qs) : False := by
  obtain ⟨outer, items, rfl, rfl, hitems⟩ := Reader.listOf_eq_ok_iff.1 hlist
  obtain ⟨inner, item, rfl, hitem⟩ := exists_item_of_replyReader_list hreply
  -- the one item is a list of proposals and a proposal at once
  obtain ⟨_, rest, rfl, rfl, hrest⟩ := Reader.listOf_eq_ok_iff.1 hitem
  obtain ⟨p, _, hp, -, -⟩ := List.forall₂_cons_left_iff.1 hitems
  obtain ⟨type, rest, rfl⟩ := exists_type_of_reader_list hp
  obtain ⟨q, _, hq, -, -⟩ := List.forall₂_cons_left_iff.1 hrest
  exact reader_text_ne_ok _ hq

end Proposal

/-! ### Two readings of one text -/

/-- Reads a text in one way, or else in another. -/
def Json.Reader.firstOf {α : Type} (read read' : Reader α) (s : String) : Except Fault α :=
  match read.run s with
  | .ok a => .ok a
  | .error _ => read'.run s

/-- Where not both ways lead anywhere, either is found. -/
theorem Json.Reader.firstOf_eq_ok_iff {α : Type} {read read' : Reader α} {s : String}
    (hone : ∀ a b, read.run s = .ok a → read'.run s ≠ .ok b) {a : α} :
    firstOf read read' s = .ok a ↔ read.run s = .ok a ∨ read'.run s = .ok a := by
  unfold firstOf
  cases hread : read.run s with
  | error f => simp
  | ok b => simp [hone b a hread]

namespace Proposal

/-- The reply is tried before the list. -/
theorem ofText_eq_firstOf (payload : String) :
    ofText payload = Reader.firstOf replyReader listReader payload := by
  rw [ofText, Reader.firstOf]
  cases replyReader.run payload <;> rfl

/-- No text is read both ways. -/
theorem run_listReader_ne_ok {payload : String} (h : replyReader.run payload = .ok ps) :
    listReader.run payload ≠ .ok qs :=
  fun hlist ↦ not_listReader_of_replyReader (Reader.run_eq_ok h) (Reader.run_eq_ok hlist)

theorem ofText_eq_ok_iff {payload : String} :
    ofText payload = .ok ps ↔
      replyReader.run payload = .ok ps ∨ listReader.run payload = .ok ps := by
  rw [ofText_eq_firstOf]
  exact Reader.firstOf_eq_ok_iff fun _ _ ↦ run_listReader_ne_ok

/-- **A payload has one shape.** No text is read both as an object with the member `blocks` and as a
list of proposals. Its proposals are those of the reading that succeeds, if one does, whichever is
tried first. -/
theorem ofText_hasOneShape (payload : String) :
    (¬∃ ps qs, replyReader.run payload = .ok ps ∧ listReader.run payload = .ok qs) ∧
      (∀ ps, ofText payload = .ok ps ↔
        replyReader.run payload = .ok ps ∨ listReader.run payload = .ok ps) ∧
      ∀ ps, Reader.firstOf listReader replyReader payload = .ok ps ↔ ofText payload = .ok ps := by
  refine ⟨fun ⟨ps, qs, hreply, hlist⟩ ↦ run_listReader_ne_ok hreply hlist,
    fun ps ↦ ofText_eq_ok_iff, fun ps ↦ ?_⟩
  have hone : ∀ qs ps, listReader.run payload = .ok qs → replyReader.run payload ≠ .ok ps :=
    fun qs ps hlist hreply ↦ run_listReader_ne_ok hreply hlist
  rw [Reader.firstOf_eq_ok_iff hone, ofText_eq_ok_iff, or_comm]

/-- A list of two lists is a list of proposals. -/
example :
    (ofText "[[\"from\",\"nasa\"],[\"to\",7]]").toOption =
      some [⟨"from", "nasa", none, none⟩, ⟨"to", "7", none, none⟩] := by
  decide +kernel

/-- One list deeper it is the member `blocks`. -/
example :
    (ofText "[[[\"from\",\"nasa\"],[\"to\",7]]]").toOption =
      some [⟨"from", "nasa", none, none⟩, ⟨"to", "7", none, none⟩] := by
  decide +kernel

end Proposal

end BlockQuery

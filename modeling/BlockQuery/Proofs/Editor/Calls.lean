import BlockQuery.Proofs.Draft.Ids
import BlockQuery.Proofs.Editor.State

/-!
# Calls that ask for an edit

Four calls ask an editor for an edit of its draft. Each answers with a JSON object. If that has the
member `error`, it has no other, and the editor is as it was. If not, the draft has done the edit,
as it does the edit without an editor.

`Fails` lists what can go wrong, and in which words the answer says so. What is wrong with the text
of a call comes first, then that there is no draft, then that the draft refuses. **The list is
complete and its entries exclude each other,** so a call fails in one way or does its edit.

A payload that cannot be read is reported with its fault and the place where reading stopped. The
fault depends on the payload. The place is the one that the call carries, and nothing is assumed of
it.
-/

namespace BlockQuery

open Json

namespace Editor

variable {e : Editor} {c : Call} {d : Draft} {problem : String}

/-! ### What calls ask for -/

namespace Call

/-- Whether the call asks for an edit of the draft. -/
def asksForEdit : Call → Bool
  | add .. | update .. | remove _ | replace .. => true
  | start | stop | blocks | query | queryOf .. | link .. | kinds | categories => false

/-- The text of the identifier of the block that is to be edited. -/
def idText? : Call → Option String
  | update id .. | remove id => some id
  | _ => none

/-- The call asks for an edit, and its text can be read. -/
inductive Readable : Call → Prop where
  | add (fresh : BlockId) (key : String) : Readable (.add fresh key)
  | update {id : String} {i : BlockId} (hid : BlockId.parse id = .ok i) (value : String)
      (second : Option String) : Readable (.update id value second)
  | remove {id : String} {i : BlockId} (hid : BlockId.parse id = .ok i) : Readable (.remove id)
  | replace {payload : String} {ps : List Proposal} (hps : Proposal.ofText payload = .ok ps)
      (ids : IdSupply) (today : Day) (place : Json.Place) :
      Readable (.replace ids today payload place)

end Call

/-- What makes a call that asks for an edit go wrong, and what is then said. -/
inductive Fails (e : Editor) : Call → String → Prop where
  | malformedId {c : Call} {id : String} {f : BlockId.Fault} (hc : c.idText? = some id)
      (hid : BlockId.parse id = .error f) :
      Fails e c s!"Invalid block id '{id}': {f.message}"
  | malformedBlocks {payload : String} {f : Json.Fault} (hps : Proposal.ofText payload = .error f)
      (ids : IdSupply) (today : Day) (place : Json.Place) :
      Fails e (.replace ids today payload place) s!"Invalid blocks JSON: {f.messageAt place}"
  | notStarted {c : Call} (hc : c.Readable) (hd : e.draft = none) :
      Fails e c "Editor not initialized. Call init_editor() first."
  | unknownType {d : Draft} {key : String} (hd : e.draft = some d)
      (hkey : d.registry.find? key = none) (fresh : BlockId) :
      Fails e (.add fresh key) s!"Unknown block type: {key}"
  | typeInUse {d : Draft} {key : String} {k : Kind} (hd : e.draft = some d)
      (hkey : d.registry.find? key = some k) (hused : k.type ∈ d.usedTypes) (fresh : BlockId) :
      Fails e (.add fresh key) s!"Block type already in use: {k.type}"
  | unknownId {c : Call} {d : Draft} {id : String} {i : BlockId} (hc : c.idText? = some id)
      (hid : BlockId.parse id = .ok i) (hd : e.draft = some d) (hunused : i ∉ d.usedIds) :
      Fails e c s!"Block not found: {i.text}"

/-- What a call answers when its edit is done, and the draft that it leaves. -/
inductive Done (d : Draft) : Call → Json → Draft → Prop where
  | add {fresh : BlockId} {key : String} {after : Draft} (h : d.add fresh key = .ok after) :
      Done d (.add fresh key) (.object [("id", .text fresh.text)]) after
  | update {id value : String} {second : Option String} {i : BlockId} {after : Draft}
      (hid : BlockId.parse id = .ok i) (h : d.setValue i value second = .ok after) :
      Done d (.update id value second) (.object [("id", .text id)]) after
  | remove {id : String} {i : BlockId} {b : Block} {after : Draft}
      (hid : BlockId.parse id = .ok i) (h : d.remove i = .ok (b, after)) :
      Done d (.remove id) (.object [("id", .text id)]) after
  | replace {payload : String} {ps : List Proposal} (hps : Proposal.ofText payload = .ok ps)
      (ids : IdSupply) (today : Day) (place : Json.Place) :
      Done d (.replace ids today payload place) (.object (stateMembers (d.takeIn ids today ps)))
        (d.takeIn ids today ps)

/-! ### One call -/

/-- A call fails and leaves the editor as it was, or does its edit. -/
inductive Comes (e : Editor) (c : Call) : String × Editor → Prop where
  | wrong {problem : String} (h : e.Fails c problem) : Comes e c (errorAnswer problem, e)
  | done {d after : Draft} {answer : Json} (hd : e.draft = some d) (h : Done d c answer after) :
      Comes e c (answer.compact, ⟨some after⟩)

/-- A call reads its text, looks for the draft, and edits that. What these three steps come to is
what it comes to. -/
theorem Comes.of_steps {α β : Type} (read : Except String α)
    (edit : α → Draft → Except Draft.Fault β) (answer : α → β → Json) (after : β → Draft)
    (hmisread : ∀ problem, read = .error problem → e.Fails c problem)
    (hread : ∀ a, read = .ok a → c.Readable)
    (hrefused : ∀ a d f, read = .ok a → e.draft = some d → edit a d = .error f →
      e.Fails c f.message)
    (hdone : ∀ a d b, read = .ok a → edit a d = .ok b → Done d c (answer a b) (after b)) :
    e.Comes c (e.conclude do
      let a ← read
      let d ← e.current
      let b ← explained (edit a d)
      return ((answer a b).compact, after b)) := by
  cases ha : read with
  | error problem => exact .wrong (hmisread problem ha)
  | ok a =>
    cases hd : e.draft with
    | none =>
      rw [current_eq_error hd]
      exact .wrong (.notStarted (hread a ha) hd)
    | some d =>
      rw [current_eq_ok.2 hd]
      -- with a text that was read and a draft, nothing but the edit is left to go wrong
      change e.Comes c (e.conclude (explained (edit a d) >>= _))
      cases hb : edit a d with
      | error f => exact .wrong (hrefused a d f ha hd hb)
      | ok b => exact .done hd (hdone a d b ha hb)

/-- A text that is no identifier makes the calls fail that name a block by it. -/
theorem fails_of_readId {id : String} (hc : c.idText? = some id) (h : readId id = .error problem) :
    e.Fails c problem := by
  obtain ⟨f, hid, rfl⟩ := mapError_eq_error.1 h
  exact .malformedId hc hid

/-- The four calls take the three steps, each with an edit of its own. -/
theorem comes_add (e : Editor) (fresh : BlockId) (key : String) :
    e.Comes (.add fresh key) (e.add fresh key) := by
  refine .of_steps (.ok ()) (fun _ d ↦ d.add fresh key)
    (fun _ _ ↦ .object [("id", .text fresh.text)]) (fun after ↦ after) ?_ ?_ ?_ ?_
  · exact fun problem h ↦ nomatch h
  · exact fun _ _ ↦ .add fresh key
  · intro _ d f _ hd hrefused
    rcases Draft.add_eq_error_iff.1 hrefused with ⟨hkey, rfl⟩ | ⟨k, hkey, hused, rfl⟩
    · exact .unknownType hd hkey fresh
    · exact .typeInUse hd hkey hused fresh
  · exact fun _ d after _ hdone ↦ .add hdone

theorem comes_update (e : Editor) (id value : String) (second : Option String) :
    e.Comes (.update id value second) (e.update id value second) := by
  refine .of_steps (readId id) (fun i d ↦ d.setValue i value second)
    (fun _ _ ↦ .object [("id", .text id)]) (fun after ↦ after) ?_ ?_ ?_ ?_
  · exact fun problem h ↦ fails_of_readId rfl h
  · exact fun i hid ↦ .update (mapError_eq_ok.1 hid) value second
  · intro i d f hid hd hrefused
    obtain ⟨hunused, rfl⟩ := Draft.setValue_eq_error_iff.1 hrefused
    exact .unknownId rfl (mapError_eq_ok.1 hid) hd hunused
  · exact fun i d after hid hdone ↦ .update (mapError_eq_ok.1 hid) hdone

theorem comes_remove (e : Editor) (id : String) : e.Comes (.remove id) (e.remove id) := by
  refine .of_steps (readId id) (fun i d ↦ d.remove i) (fun _ _ ↦ .object [("id", .text id)])
    Prod.snd ?_ ?_ ?_ ?_
  · exact fun problem h ↦ fails_of_readId rfl h
  · exact fun i hid ↦ .remove (mapError_eq_ok.1 hid)
  · intro i d f hid hd hrefused
    obtain ⟨hunused, rfl⟩ := Draft.remove_eq_error_iff.1 hrefused
    exact .unknownId rfl (mapError_eq_ok.1 hid) hd hunused
  · exact fun i d after hid hdone ↦ .remove (mapError_eq_ok.1 hid) hdone

theorem comes_replace (e : Editor) (ids : IdSupply) (today : Day) (payload : String)
    (place : Json.Place) :
    e.Comes (.replace ids today payload place) (e.replace ids today payload place) := by
  refine .of_steps (readProposals payload place) (fun ps d ↦ .ok (d.takeIn ids today ps))
    (fun _ after ↦ .object (stateMembers after)) (fun after ↦ after) ?_ ?_ ?_ ?_
  · intro problem h
    obtain ⟨f, hps, rfl⟩ := mapError_eq_error.1 h
    exact .malformedBlocks hps ids today place
  · exact fun ps hps ↦ .replace (mapError_eq_ok.1 hps) ids today place
  · exact fun ps d f _ _ hrefused ↦ nomatch hrefused
  · intro ps d after hps hdone
    obtain rfl := Except.ok.inj hdone
    exact .replace (mapError_eq_ok.1 hps) ids today place

/-- Every call that asks for an edit fails or does it. -/
theorem comes_call (e : Editor) (hc : c.asksForEdit = true) :
    ∃ result, e.Comes c result ∧ e.call c = (some result.1, result.2) := by
  cases c with
  | add fresh key => exact ⟨_, comes_add e fresh key, rfl⟩
  | update id value second => exact ⟨_, comes_update e id value second, rfl⟩
  | remove id => exact ⟨_, comes_remove e id, rfl⟩
  | replace ids today payload place => exact ⟨_, comes_replace e ids today payload place, rfl⟩
  | start | stop | blocks | query | queryOf | link | kinds | categories => cases hc

section Refused

variable {f : Draft.Fault} (hd : e.draft = some d)
include hd

theorem add_of_refused {fresh : BlockId} {key : String} (hf : d.add fresh key = .error f) :
    e.add fresh key = (errorAnswer f.message, e) := by
  rw [add, current_eq_ok.2 hd]
  change e.conclude (explained (d.add fresh key) >>= _) = _
  rw [hf]
  rfl

/-- Whatever a draft refuses, the editor passes on in the draft's words. -/
theorem update_of_refused {id value : String} {second : Option String} {i : BlockId}
    (hid : BlockId.parse id = .ok i) (hf : d.setValue i value second = .error f) :
    e.update id value second = (errorAnswer f.message, e) := by
  rw [update, readId, hid, current_eq_ok.2 hd]
  change e.conclude (explained (d.setValue i value second) >>= _) = _
  rw [hf]
  rfl

theorem remove_of_refused {id : String} {i : BlockId} (hid : BlockId.parse id = .ok i)
    (hf : d.remove i = .error f) : e.remove id = (errorAnswer f.message, e) := by
  rw [remove, readId, hid, current_eq_ok.2 hd]
  change e.conclude (explained (d.remove i) >>= _) = _
  rw [hf]
  rfl

end Refused

/-- A call that can fail does so, and leaves the editor as it was. -/
theorem Fails.call_eq (h : e.Fails c problem) : e.call c = (some (errorAnswer problem), e) := by
  cases h with
  | @malformedId _ id f hc hid =>
    have hread : readId id = .error s!"Invalid block id '{id}': {f.message}" :=
      mapError_eq_error.2 ⟨f, hid, rfl⟩
    cases c <;> cases hc
    · rw [call, update, hread]
      rfl
    · rw [call, remove, hread]
      rfl
  | malformedBlocks hps =>
    rw [call, replace, readProposals, hps]
    rfl
  | notStarted hc hd =>
    cases hc with
    | add =>
      rw [call, add, current_eq_error hd]
      rfl
    | update hid =>
      rw [call, update, readId, hid, current_eq_error hd]
      rfl
    | remove hid =>
      rw [call, remove, readId, hid, current_eq_error hd]
      rfl
    | replace hps =>
      rw [call, replace, readProposals, hps, current_eq_error hd]
      rfl
  | unknownType hd hkey fresh =>
    rw [call, add_of_refused hd (Draft.add_eq_error_iff.2 (.inl ⟨hkey, rfl⟩))]
    rfl
  | typeInUse hd hkey hused fresh =>
    rw [call, add_of_refused hd (Draft.add_eq_error_iff.2 (.inr ⟨_, hkey, hused, rfl⟩))]
    rfl
  | unknownId hc hid hd hunused =>
    cases c <;> cases hc
    · rw [call, update_of_refused hd hid (Draft.setValue_eq_error_iff.2 ⟨hunused, rfl⟩)]
      rfl
    · rw [call, remove_of_refused hd hid (Draft.remove_eq_error_iff.2 ⟨hunused, rfl⟩)]
      rfl

/-- A word that is none of JSON's, reported where it was found not to be one. -/
example :
    closed.call (.replace anonymous Day.first "not json" ⟨1, 2⟩) =
      (some (errorAnswer "Invalid blocks JSON: expected ident at line 1 column 2"), closed) := by
  have hread : Proposal.ofText "not json" = .error .expectedLiteral := by decide +kernel
  exact Fails.call_eq (.malformedBlocks hread anonymous Day.first ⟨1, 2⟩)

/-- No answer holds a number, so each is read back as it was written. -/
theorem numbers_of_done {after : Draft} {answer : Json} (h : Done d c answer after) :
    answer.numbers = [] := by
  cases h with
  | add | update | remove => rfl
  | replace => exact numbers_state _

/-- No answer of a call that did its edit is taken for an error. -/
theorem errorAnswer_ne_of_done {after : Draft} {answer : Json} (h : Done d c answer after) :
    errorAnswer problem ≠ answer.compact := by
  intro hsame
  have htree := toNode_eq_of_compact_eq rfl (numbers_of_done h) hsame
  cases h <;> simp [stateMembers, toNode, memberNodes] at htree

/-- The reason can be read off the answer. -/
theorem errorAnswer_inj {problem' : String} (h : errorAnswer problem = errorAnswer problem') :
    problem = problem' := by
  have htree := toNode_eq_of_compact_eq rfl rfl h
  simpa [toNode, memberNodes] using htree

/-- An answer tells of a problem exactly if the call fails for it. -/
theorem call_eq_errorAnswer_iff (hc : c.asksForEdit = true) :
    (e.call c).1 = some (errorAnswer problem) ↔ e.Fails c problem := by
  refine ⟨fun h ↦ ?_, fun h ↦ by rw [h.call_eq]⟩
  obtain ⟨result, hcomes, hcall⟩ := comes_call e hc
  rw [hcall] at h
  cases hcomes with
  | wrong hfails =>
    obtain rfl := errorAnswer_inj (Option.some.inj h)
    exact hfails
  | done hd hdone => exact absurd (Option.some.inj h).symm (errorAnswer_ne_of_done hdone)

/-- **Calls are all or nothing.** Whatever an editor has been through, a call that asks for an edit
answers with the text of a JSON object. Either the call fails, its only member is `error` with the
reason, and the editor is as it was; or there is a draft, and what is left of it is what the edit
makes of it. The answer is that of an error exactly if the call fails for that reason. Other calls
leave the editor as it was, unless they start over or stop. -/
theorem call_all_or_nothing (e : Editor) (c : Call) :
    (c.asksForEdit = true →
      (∃ answer : Json, (e.call c).1 = some answer.compact ∧
        Document.ofText answer.compact = ⟨answer.toNode, false⟩ ∧
        ((∃ problem, e.Fails c problem ∧ answer = .object [("error", .text problem)] ∧
            (e.call c).2 = e) ∨
          ∃ d after, e.draft = some d ∧ Done d c answer after ∧ (e.call c).2 = ⟨some after⟩)) ∧
      ∀ problem, (e.call c).1 = some (Json.object [("error", .text problem)]).compact ↔
        e.Fails c problem) ∧
    (c.asksForEdit = false → c ≠ .start → c ≠ .stop → (e.call c).2 = e) := by
  refine ⟨fun hc ↦ ⟨?_, fun problem ↦ call_eq_errorAnswer_iff hc⟩, fun hc hstart hstop ↦ ?_⟩
  · obtain ⟨result, hcomes, hcall⟩ := comes_call e hc
    rw [hcall]
    cases hcomes with
    | wrong h =>
      exact ⟨_, rfl, ofText_compact_of_numbers_eq_nil rfl, .inl ⟨_, h, rfl, rfl⟩⟩
    | done hd h =>
      exact ⟨_, rfl, ofText_compact_of_numbers_eq_nil (numbers_of_done h), .inr ⟨_, _, hd, h, rfl⟩⟩
  · cases c with
    | start => exact absurd rfl hstart
    | stop => exact absurd rfl hstop
    | blocks | query | queryOf | link | kinds | categories => rfl
    | add | update | remove | replace => cases hc

/-- After the calls of a session, a second block of a type is refused, and nothing has changed. -/
theorem call_all_or_nothing_session :
    (Call.add ⟨3⟩ "until").asksForEdit = true ∧
      (closed.run sessionCalls).call (.add ⟨3⟩ "until") =
        (some (Json.object [("error", .text "Block type already in use: until")]).compact,
          closed.run sessionCalls) := by
  have hfind : Registry.builtin.find? "until" = some builtinKinds[15] := by decide +kernel
  have htypes : (closed.run sessionCalls).draft.map Draft.usedTypes =
      some ["near", "until", "exact-phrase"] := by decide +kernel
  obtain ⟨d, hd, hused⟩ := Option.map_eq_some_iff.1 htypes
  have hfails : (closed.run sessionCalls).Fails (.add ⟨3⟩ "until")
      "Block type already in use: until" :=
    .typeInUse hd (registry_of_run hd ▸ hfind) (by rw [hused]; decide) ⟨3⟩
  obtain ⟨hedit, -⟩ := call_all_or_nothing (closed.run sessionCalls) (.add ⟨3⟩ "until")
  exact ⟨rfl, Prod.ext ((hedit rfl).2 _ |>.2 hfails) (congrArg Prod.snd hfails.call_eq)⟩

end Editor

end BlockQuery

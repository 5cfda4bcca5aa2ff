import BlockQuery.Editor
import BlockQuery.Proofs.Draft.History
import BlockQuery.Proofs.Json.Accepted

/-!
# The drafts of an editor

An editor is spoken to by text, and much can be wrong with a text. But all that a call can do in
the end is to start over, to stop, or to do one edit of the draft that is there (`move_call`). **So
every draft of an editor is one that edits lead to** from an empty draft on the built-in registry
(`exists_edits_of_run`), and what holds of all these drafts need not be proved for editors again.
-/

namespace BlockQuery.Editor

variable {e : Editor} {d : Draft}

/-! ### One call -/

/-- What a call can do to an editor. -/
inductive Move : Editor → Editor → Prop where
  | stay (e : Editor) : Move e e
  | start (e : Editor) : Move e start
  | stop (e : Editor) : Move e closed
  | edit (d : Draft) (edit : Draft.Edit) : Move ⟨some d⟩ ⟨some (d.step edit).2⟩

/-- Wording a fault in another way changes no result. -/
theorem mapError_eq_ok {ε ε' α : Type} {g : ε → ε'} {r : Except ε α} {a : α} :
    r.mapError g = .ok a ↔ r = .ok a := by
  cases r <;> simp [Except.mapError]

/-- What goes wrong in other words went wrong before. -/
theorem mapError_eq_error {ε ε' α : Type} {g : ε → ε'} {r : Except ε α} {f' : ε'} :
    r.mapError g = .error f' ↔ ∃ f, r = .error f ∧ g f = f' := by
  cases r <;> simp [Except.mapError]

/-- There is a draft to edit exactly if the editor has started. -/
theorem current_eq_ok : e.current = .ok d ↔ e.draft = some d := by
  unfold current
  cases e.draft <;> simp

theorem current_eq_error (hd : e.draft = none) : e.current = .error notStarted := by
  rw [current, hd]

theorem explained_eq_ok {α : Type} {r : Except Draft.Fault α} {a : α} :
    explained r = .ok a ↔ r = .ok a :=
  mapError_eq_ok

/-- A call that leaves a draft only if an edit of the current draft does. -/
theorem Move.of_conclude {r : Except String (String × Draft)}
    (h : ∀ answer after, r = .ok (answer, after) →
      ∃ d edit, e.draft = some d ∧ (d.step edit).2 = after) : e.Move (e.conclude r).2 := by
  match r with
  | .error problem => exact .stay e
  | .ok (answer, after) =>
    obtain ⟨d, edit, hd, rfl⟩ := h answer after rfl
    obtain rfl : e = ⟨some d⟩ := congrArg Editor.mk hd
    exact .edit d edit

/-- A call that adds, changes, removes or replaces does that one edit or leaves the editor as it
was. -/
theorem move_add (e : Editor) (fresh : BlockId) (key : String) : e.Move (e.add fresh key).2 := by
  refine .of_conclude fun answer after h ↦ ?_
  obtain ⟨d, hd, h⟩ := bind_eq_ok.1 h
  obtain ⟨after', hadd, h⟩ := bind_eq_ok.1 h
  obtain ⟨-, rfl⟩ := Prod.mk.inj (Except.ok.inj h)
  refine ⟨d, .add fresh key, current_eq_ok.1 hd, ?_⟩
  rw [Draft.step, explained_eq_ok.1 hadd, Draft.settle]

theorem move_update (e : Editor) (id value : String) (second : Option String) :
    e.Move (e.update id value second).2 := by
  refine .of_conclude fun answer after h ↦ ?_
  obtain ⟨blockId, -, h⟩ := bind_eq_ok.1 h
  obtain ⟨d, hd, h⟩ := bind_eq_ok.1 h
  obtain ⟨after', hset, h⟩ := bind_eq_ok.1 h
  obtain ⟨-, rfl⟩ := Prod.mk.inj (Except.ok.inj h)
  refine ⟨d, .setValue blockId value second, current_eq_ok.1 hd, ?_⟩
  rw [Draft.step, explained_eq_ok.1 hset, Draft.settle]

theorem move_remove (e : Editor) (id : String) : e.Move (e.remove id).2 := by
  refine .of_conclude fun answer after h ↦ ?_
  obtain ⟨blockId, -, h⟩ := bind_eq_ok.1 h
  obtain ⟨d, hd, h⟩ := bind_eq_ok.1 h
  obtain ⟨⟨b, after'⟩, hremove, h⟩ := bind_eq_ok.1 h
  obtain ⟨-, rfl⟩ := Prod.mk.inj (Except.ok.inj h)
  refine ⟨d, .remove blockId, current_eq_ok.1 hd, ?_⟩
  rw [Draft.step, explained_eq_ok.1 hremove]

theorem move_replace (e : Editor) (ids : IdSupply) (today : Day) (payload : String)
    (place : Json.Place) : e.Move (e.replace ids today payload place).2 := by
  refine .of_conclude fun answer after h ↦ ?_
  obtain ⟨ps, -, h⟩ := bind_eq_ok.1 h
  obtain ⟨d, hd, h⟩ := bind_eq_ok.1 h
  obtain ⟨-, rfl⟩ := Prod.mk.inj (Except.ok.inj h)
  exact ⟨d, .takeIn ids today ps, current_eq_ok.1 hd, rfl⟩

/-- **A call starts over, stops, does one edit, or leaves the editor as it was.** -/
theorem move_call (e : Editor) (c : Call) : e.Move (e.call c).2 := by
  cases c with
  | start => exact .start e
  | stop => exact .stop e
  | add fresh key => exact move_add e fresh key
  | update id value second => exact move_update e id value second
  | remove id => exact move_remove e id
  | replace ids today payload place => exact move_replace e ids today payload place
  | blocks | query | queryOf | link | kinds | categories => exact .stay e

/-! ### Many calls -/

/-- Edits lead to the draft of the editor, if there is one. -/
def Edited (e : Editor) : Prop :=
  ∀ d, e.draft = some d → ∃ es, d = (Draft.empty .builtin).run es

/-- A move keeps the draft one that edits lead to. -/
theorem Edited.move {e' : Editor} (he : e.Edited) (h : e.Move e') : e'.Edited := by
  cases h with
  | stay => exact he
  | start =>
    rintro d hd
    obtain rfl := Option.some.inj hd
    exact ⟨[], rfl⟩
  | stop => exact fun d hd ↦ nomatch hd
  | edit d edit =>
    rintro d' hd'
    obtain rfl := Option.some.inj hd'
    obtain ⟨es, rfl⟩ := he d rfl
    exact ⟨es ++ [edit], by simp [Draft.run]⟩

/-- **Any number of calls keeps the draft one that edits lead to.** -/
theorem Edited.run (he : e.Edited) (calls : List Call) : (e.run calls).Edited := by
  induction calls generalizing e with
  | nil => exact he
  | cons c calls ih => exact ih (he.move (e.move_call c))

/-- **Every draft of an editor is one that edits lead to.** -/
theorem exists_edits_of_run {calls : List Call} (h : (closed.run calls).draft = some d) :
    ∃ es, d = (Draft.empty .builtin).run es := by
  have hclosed : closed.Edited := fun d hd ↦ nomatch hd
  exact hclosed.run calls d h

/-- A draft of an editor is bound to the built-in registry. -/
theorem registry_of_run {calls : List Call} (h : (closed.run calls).draft = some d) :
    d.registry = .builtin := by
  obtain ⟨es, rfl⟩ := exists_edits_of_run h
  exact Draft.registry_run _ es

/-! ### Payloads -/

/-- Proposals that are read from a text replace the blocks of a draft. -/
theorem replace_of_ofText (hd : e.draft = some d) {payload : String} {ps : List Proposal}
    (h : Proposal.ofText payload = .ok ps) (ids : IdSupply) (today : Day) (place : Json.Place) :
    e.replace ids today payload place =
      (stateAnswer (d.takeIn ids today ps), ⟨some (d.takeIn ids today ps)⟩) := by
  rw [replace, readProposals, h, current_eq_ok.2 hd]
  rfl

end BlockQuery.Editor

import BlockQuery.Draft.Basic

/-!
# Shared drafts

Several people may hold a handle of the same draft. Every edit takes hold of the draft as a whole,
so whatever they do comes to one order of their edits; a handle only says who did an edit. All
handles see the same draft.
-/

namespace BlockQuery

/-- A draft behind a number of handles. -/
structure SharedDraft where
  draft : Draft

namespace SharedDraft

/-- An edit and the handle through which it is done. -/
structure Action where
  handle : Nat
  edit : Draft.Edit

/-- What is seen through a handle. -/
def view (s : SharedDraft) (_handle : Nat) : Draft :=
  s.draft

/-- Does an edit through a handle. -/
def act (s : SharedDraft) (a : Action) : Draft.Outcome × SharedDraft :=
  let (outcome, after) := s.draft.step a.edit
  (outcome, ⟨after⟩)

/-- Does edits in the order in which they took hold of the draft. -/
def trace (s : SharedDraft) (as : List Action) : List Draft.Outcome × SharedDraft :=
  let (outcomes, last) := s.draft.trace (as.map Action.edit)
  (outcomes, ⟨last⟩)

end SharedDraft

end BlockQuery

import BlockQuery.Draft.Basic
import BlockQuery.Search.Link
import BlockQuery.Wire.Blocks

/-!
# The editor

An editor holds at most one draft, on the built-in registry, and is spoken to by text alone. Calls
that change the draft answer with a JSON object: the identifier concerned, the whole state, or the
member `error` with what went wrong. A call that answers with an error leaves the editor as it was.

What is wrong with the text of a call is reported before it is asked whether there is a draft at
all. A payload that cannot be read is reported with the place where reading stopped. Like new
identifiers and the day, that place is not the editor's to know, and a call is given it.
-/

namespace BlockQuery

/-- An editor, with a draft once it has been started. -/
structure Editor where
  draft : Option Draft

namespace Editor

/-! ### Answers -/

/-- The answer that names a block. -/
def idAnswer (id : String) : String :=
  (Json.object [("id", .text id)]).compact

/-- The answer that says what went wrong. -/
def errorAnswer (problem : String) : String :=
  (Json.object [("error", .text problem)]).compact

/-- The members that show a draft: its blocks, their types, and its query. -/
def stateMembers (d : Draft) : List (String × Json) :=
  [("blocks", .list (d.blocks.map Block.toJson)),
    ("usedTypes", .list (d.usedTypes.map .text)),
    ("query", .text d.compile)]

/-- The answer that shows a draft. -/
def stateAnswer (d : Draft) : String :=
  (Json.object (stateMembers d)).compact

/-- What is said when there is no draft. -/
def notStarted : String :=
  "Editor not initialized. Call init_editor() first."

/-- Reads an identifier. -/
def readId (id : String) : Except String BlockId :=
  (BlockId.parse id).mapError fun f ↦ s!"Invalid block id '{id}': {f.message}"

/-- Reads proposals. If they cannot be read, `place` is where that showed. -/
def readProposals (payload : String) (place : Json.Place := .unknown) :
    Except String (List Proposal) :=
  (Proposal.ofText payload).mapError fun f ↦ s!"Invalid blocks JSON: {f.messageAt place}"

/-- The draft, if there is one. -/
def current (e : Editor) : Except String Draft :=
  match e.draft with
  | some d => .ok d
  | none => .error notStarted

/-- The answer and the editor after a call that either goes wrong or leaves a draft. -/
def conclude (e : Editor) : Except String (String × Draft) → String × Editor
  | .ok (answer, d) => (answer, ⟨some d⟩)
  | .error problem => (errorAnswer problem, e)

/-- A refused edit in words. -/
def explained {α : Type} (r : Except Draft.Fault α) : Except String α :=
  r.mapError Draft.Fault.message

/-! ### Calls -/

/-- An editor that has not been started. -/
def closed : Editor :=
  ⟨none⟩

/-- Starts over with an empty draft. -/
def start : Editor :=
  ⟨some (.empty .builtin)⟩

variable (e : Editor)

/-- Adds a block of the kind with a type or name. -/
def add (fresh : BlockId) (key : String) : String × Editor :=
  e.conclude do
    let d ← e.current
    let after ← explained (d.add fresh key)
    return (idAnswer fresh.text, after)

/-- Changes the values of a block. -/
def update (id value : String) (second : Option String) : String × Editor :=
  e.conclude do
    let blockId ← readId id
    let d ← e.current
    let after ← explained (d.setValue blockId value second)
    return (idAnswer id, after)

/-- Takes a block away. -/
def remove (id : String) : String × Editor :=
  e.conclude do
    let blockId ← readId id
    let d ← e.current
    let (_, after) ← explained (d.remove blockId)
    return (idAnswer id, after)

/-- Puts the blocks of proposals in place of all blocks. -/
def replace (ids : IdSupply) (today : Day) (payload : String) (place : Json.Place := .unknown) :
    String × Editor :=
  e.conclude do
    let ps ← readProposals payload place
    let d ← e.current
    let after := d.takeIn ids today ps
    return (stateAnswer after, after)

/-- The whole state. -/
def blocks : String :=
  match e.current with
  | .ok d => stateAnswer d
  | .error problem => errorAnswer problem

/-- The query of the draft; nothing without a draft. -/
def query : String :=
  (e.draft.map Draft.compile).getD ""

/-! ### Calls that need no draft -/

/-- All kinds of the built-in registry. -/
def kinds : String :=
  (Json.list (Registry.builtin.kinds.map Kind.toJson)).compact

/-- All categories with their headings and colours. -/
def categories : String :=
  (Json.list (Category.all.map fun c ↦
    .object [("category", .text c.name), ("title", .text c.title),
      ("palette", .text c.accent)])).compact

/-- An identifier for blocks whose identifiers are never seen. -/
def anonymous : IdSupply :=
  fun _ ↦ ⟨0⟩

/-- The query of proposals as they are, or what is wrong with their text. -/
def queryOf (payload : String) (place : Json.Place := .unknown) : String :=
  match readProposals payload place with
  | .ok ps => Registry.builtin.compile (Registry.builtin.instantiate anonymous ps)
  | .error problem => errorAnswer problem

/-- The address of a query's results. A mode that is unknown counts as `latest`. -/
def link? (query mode : String) : Option String :=
  searchLink? defaultFrontEnd query ((SearchMode.ofName? mode).getD .latest)

/-! ### Any call -/

/-- A call of the editor. -/
inductive Call where
  | start
  | stop
  | add (fresh : BlockId) (key : String)
  | update (id value : String) (second : Option String)
  | remove (id : String)
  | replace (ids : IdSupply) (today : Day) (payload : String) (place : Json.Place := .unknown)
  | blocks
  | query
  | queryOf (payload : String) (place : Json.Place := .unknown)
  | link (query mode : String)
  | kinds
  | categories

/-- Answers a call, and the editor afterwards. Starting, stopping and links may have no answer. -/
def call : Call → Option String × Editor
  | .start => (none, .start)
  | .stop => (none, .closed)
  | .add fresh key => let (answer, after) := e.add fresh key; (some answer, after)
  | .update id value second =>
    let (answer, after) := e.update id value second; (some answer, after)
  | .remove id => let (answer, after) := e.remove id; (some answer, after)
  | .replace ids today payload place =>
    let (answer, after) := e.replace ids today payload place; (some answer, after)
  | .blocks => (some e.blocks, e)
  | .query => (some e.query, e)
  | .queryOf payload place => (some (queryOf payload place), e)
  | .link query mode => (link? query mode, e)
  | .kinds => (some kinds, e)
  | .categories => (some categories, e)

/-- The editor after calls. -/
def run (calls : List Call) : Editor :=
  calls.foldl (fun e c ↦ (e.call c).2) e

end Editor

end BlockQuery

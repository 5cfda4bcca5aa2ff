import BlockQuery.Intake

/-!
# Drafts

A draft is the list of blocks that someone is working on, bound to a registry. No two of its blocks
have the same type: adding a second block of a type is refused, and when the whole list is replaced
the last block of each type stays.

An `Edit` is one thing done to a draft, and `Draft.step` does it: it answers with an `Outcome` and
the draft afterwards, which is the draft as it was if the edit is refused. Identifiers of new
blocks, and the day on which proposals are taken in, are part of the edit.

**Proposals are taken in by the built-in registry,** whatever registry the draft is bound to.
-/

namespace BlockQuery

/-- A list of blocks that is being worked on. -/
structure Draft where
  registry : Registry
  blocks : List Block

namespace Draft

/-- Why an edit is refused. -/
inductive Fault where
  /-- No kind has that type or name. -/
  | unknownType (key : String)
  /-- A block of that type is there already. -/
  | typeInUse (type : String)
  /-- No block has that identifier. -/
  | noSuchBlock (id : BlockId)
  deriving DecidableEq, Repr

/-- The wording of a fault. -/
def Fault.message : Fault → String
  | unknownType key => s!"Unknown block type: {key}"
  | typeInUse type => s!"Block type already in use: {type}"
  | noSuchBlock id => s!"Block not found: {id.text}"

/-- A draft without blocks. -/
def empty (r : Registry) : Draft :=
  ⟨r, []⟩

variable (d : Draft)

/-! ### Looking -/

/-- The block with an identifier. -/
def get? (id : BlockId) : Option Block :=
  d.blocks.find? (·.id = id)

/-- Whether there is a block of a type. -/
def hasType (type : String) : Bool :=
  d.blocks.any (·.type == type)

/-- The types of the blocks, in order. -/
def usedTypes : List String :=
  d.blocks.map Block.type

/-- The query of the draft. -/
def query : Query :=
  d.registry.query d.blocks

/-- The text of the draft's query. -/
def compile : String :=
  d.registry.compile d.blocks

/-! ### Editing -/

/-- Puts a block at the end. -/
def insert (b : Block) : Except Fault Draft :=
  if d.hasType b.type then .error (.typeInUse b.type)
  else .ok { d with blocks := d.blocks ++ [b] }

/-- Puts a new block without a value at the end, of the kind with that type or name. -/
def add (fresh : BlockId) (key : String) : Except Fault Draft :=
  match d.registry.find? key with
  | none => .error (.unknownType key)
  | some k => d.insert (.ofKind fresh k "")

/-- The block with other values. A block of alternatives has no second value. -/
def withValues (value : String) (second : Option String) (b : Block) : Block :=
  { b with value := value, second := if b.type = "or" then none else second }

/-- Changes the values of the first block with an identifier. -/
def setFirst (id : BlockId) (value : String) (second : Option String) : List Block → List Block
  | [] => []
  | b :: bs =>
    if b.id = id then withValues value second b :: bs else b :: setFirst id value second bs

/-- Changes the values of the block with an identifier. -/
def setValue (id : BlockId) (value : String) (second : Option String) : Except Fault Draft :=
  if (d.get? id).isNone then .error (.noSuchBlock id)
  else .ok { d with blocks := setFirst id value second d.blocks }

/-- Takes the block with an identifier away. -/
def remove (id : BlockId) : Except Fault (Block × Draft) :=
  match d.get? id with
  | none => .error (.noSuchBlock id)
  | some b => .ok (b, { d with blocks := d.blocks.eraseP (·.id = id) })

/-- One more block in front of those that stay, unless one of them has its type. -/
def keep (b : Block) (kept : List Block) : List Block :=
  if kept.any (·.type == b.type) then kept else b :: kept

/-- Puts other blocks in place of those of the draft. The last of each type stays. -/
def replaceAll (bs : List Block) : Draft :=
  { d with blocks := bs.foldr keep [] }

/-- Puts the blocks of proposals in place of those of the draft. -/
def takeIn (ids : IdSupply) (today : Day) (ps : List Proposal) : Draft :=
  { d with blocks := Registry.builtin.intake ids today ps }

/-- Takes all blocks away. -/
def clear : Draft :=
  { d with blocks := [] }

/-! ### Edits -/

/-- One thing done to a draft. -/
inductive Edit where
  | add (fresh : BlockId) (key : String)
  | insert (b : Block)
  | setValue (id : BlockId) (value : String) (second : Option String)
  | remove (id : BlockId)
  | replaceAll (bs : List Block)
  | takeIn (ids : IdSupply) (today : Day) (ps : List Proposal)
  | clear

/-- What comes of an edit. -/
inductive Outcome where
  /-- A block was added under this identifier. -/
  | added (id : BlockId)
  /-- This block was taken away. -/
  | removed (b : Block)
  /-- The edit was done. -/
  | done
  /-- The edit was refused. -/
  | refused (f : Fault)
  deriving DecidableEq, Repr

/-- The outcome of an edit that yields a draft, and that draft. -/
def settle (outcome : Outcome) : Except Fault Draft → Outcome × Draft
  | .ok after => (outcome, after)
  | .error f => (.refused f, d)

/-- Does an edit. -/
def step : Edit → Outcome × Draft
  | .add fresh key => d.settle (.added fresh) (d.add fresh key)
  | .insert b => d.settle (.added b.id) (d.insert b)
  | .setValue id value second => d.settle .done (d.setValue id value second)
  | .remove id =>
    match d.remove id with
    | .ok (b, after) => (.removed b, after)
    | .error f => (.refused f, d)
  | .replaceAll bs => (.done, d.replaceAll bs)
  | .takeIn ids today ps => (.done, d.takeIn ids today ps)
  | .clear => (.done, d.clear)

/-- Does edits one after another. -/
def trace (d : Draft) : List Edit → List Outcome × Draft
  | [] => ([], d)
  | e :: es =>
    let (outcome, after) := d.step e
    let (outcomes, last) := after.trace es
    (outcome :: outcomes, last)

/-- The draft after edits. -/
def run (es : List Edit) : Draft :=
  es.foldl (fun d e ↦ (d.step e).2) d

end Draft

end BlockQuery

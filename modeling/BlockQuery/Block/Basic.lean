import BlockQuery.Block.Id
import BlockQuery.Block.Kind

/-!
# Blocks and proposals

A `Block` is one constraint of a draft: an instance of a kind, with an identifier of its own and
the values typed into it. A `Proposal` is what an outside producer says of a block, by type and
value alone, with optional claims about the kind in case no registry knows the type.
-/

namespace BlockQuery

/-- A block placed in a draft. -/
structure Block where
  id : BlockId
  type : String
  label : String
  category : Category
  needsValue : Bool
  takesSecond : Option Bool := none
  /-- What was typed. -/
  value : String := ""
  /-- What was typed into the second input. -/
  second : Option String := none
  deriving DecidableEq, Repr

namespace Block

/-- An instance of a kind, with its value. -/
def ofKind (id : BlockId) (k : Kind) (value : String) : Block where
  id := id
  type := k.type
  label := k.label
  category := k.category
  needsValue := k.needsValue
  takesSecond := k.takesSecond
  value := value

/-- Whether the value has a character that is not blank. -/
def hasValue (b : Block) : Bool :=
  !Text.allBlank b.value

end Block

/-- A block as an outside producer reports it. -/
structure Proposal where
  type : String
  value : String
  /-- The category the producer claims. -/
  category : Option String := none
  /-- Whether the producer claims that the block needs a value. -/
  needsValue : Option Bool := none
  deriving DecidableEq, Repr

/-- The proposal that reports a block. -/
def Block.toProposal (b : Block) : Proposal where
  type := b.type
  value := b.value
  category := some b.category.name
  needsValue := some b.needsValue

end BlockQuery

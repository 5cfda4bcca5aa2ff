import BlockQuery.Block.Basic
import BlockQuery.Json.Record

/-!
# Blocks in data exchange

The JSON forms of kinds, blocks and proposals. Members that hold nothing are left out when they are
written and may be left out when they are read.

A list of proposals comes either as it is or as the member `blocks` of an object. `proposalsOf`
reads both; a text that is neither is reported as if it were to be the list itself.
-/

namespace BlockQuery

open Json

/-- Reads a category by its name. -/
def Category.reader : Reader Category :=
  .oneOf all name

/-- Reads a kind of input by its name. -/
def InputKind.reader : Reader InputKind :=
  .oneOf all name

/-- Reads an identifier. -/
def BlockId.reader : Reader BlockId
  | _, .text (.ok s) => (BlockId.parse s).mapError fun f ↦ .malformedId f.message
  | _, n => .error (n.wrongType "a formatted UUID string")

/-! ### Kinds -/

namespace Kind

/-- The members of a kind. -/
def toJson (k : Kind) : Json :=
  .object <|
    [("id", .text k.id), ("type", .text k.type), ("label", .text k.label),
      ("category", .text k.category.name), ("requiresValue", .bool k.needsValue)] ++
    optionalMember "requiresSecondValue" (k.takesSecond.map .bool) ++
    optionalMember "placeholder" (k.hint.map .text) ++
    optionalMember "placeholder2" (k.secondHint.map .text) ++
    optionalMember "inputType" (k.input.map fun i ↦ .text i.name)

/-- The fields of a kind. -/
def record : Record Kind :=
  Kind.mk <$> .required "id" Reader.text <*> .required "type" Reader.text <*>
    .required "label" Reader.text <*> .required "category" Category.reader <*>
    .required "requiresValue" Reader.bool <*> .maybe "requiresSecondValue" Reader.bool <*>
    .maybe "placeholder" Reader.text <*> .maybe "placeholder2" Reader.text <*>
    .maybe "inputType" InputKind.reader

/-- Reads a kind. -/
def reader : Reader Kind :=
  record.read "BlockDefinition"

end Kind

/-! ### Blocks -/

namespace Block

/-- The members of a block. -/
def toJson (b : Block) : Json :=
  .object <|
    [("id", .text b.id.text), ("type", .text b.type), ("label", .text b.label),
      ("category", .text b.category.name), ("requiresValue", .bool b.needsValue)] ++
    optionalMember "requiresSecondValue" (b.takesSecond.map .bool) ++
    [("value", .text b.value)] ++
    optionalMember "value2" (b.second.map .text)

/-- The fields of a block. -/
def record : Record Block :=
  Block.mk <$> .required "id" BlockId.reader <*> .required "type" Reader.text <*>
    .required "label" Reader.text <*> .required "category" Category.reader <*>
    .required "requiresValue" Reader.bool <*> .maybe "requiresSecondValue" Reader.bool <*>
    .optional "value" Reader.text "" <*> .maybe "value2" Reader.text

/-- Reads a block. -/
def reader : Reader Block :=
  record.read "ActiveBlock"

end Block

/-! ### Proposals -/

namespace Proposal

/-- The members of a proposal. -/
def toJson (p : Proposal) : Json :=
  .object <|
    [("type", .text p.type), ("value", .text p.value)] ++
    optionalMember "category" (p.category.map .text) ++
    optionalMember "requiresValue" (p.needsValue.map .bool)

/-- The fields of a proposal. -/
def record : Record Proposal :=
  Proposal.mk <$> .required "type" Reader.text <*> .optional "value" Reader.lenientText "" <*>
    .maybe "category" Reader.text <*> .maybe "requiresValue" Reader.bool

/-- Reads a proposal. -/
def reader : Reader Proposal :=
  record.read "RawBlock"

/-- Reads a list of proposals. -/
def listReader : Reader (List Proposal) :=
  .listOf reader

/-- Reads the proposals of an object with the member `blocks`. -/
def replyReader : Reader (List Proposal) :=
  (Record.required "blocks" listReader).read "NaturalLanguageReply"

/-- The object with the member `blocks`. -/
def replyToJson (ps : List Proposal) : Json :=
  .object [("blocks", .list (ps.map toJson))]

/-- The proposals of a producer's reply. -/
def ofReply (payload : String) : Except Fault (List Proposal) :=
  replyReader.run payload

/-- The proposals of a list or of an object that holds one. -/
def ofText (payload : String) : Except Fault (List Proposal) :=
  match replyReader.run payload with
  | .ok ps => .ok ps
  | .error _ => listReader.run payload

end Proposal

end BlockQuery

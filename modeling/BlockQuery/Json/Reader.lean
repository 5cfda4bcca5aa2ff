import BlockQuery.Json.Node
import BlockQuery.Json.Value
import BlockQuery.Text.Quoted

/-!
# Readers

A `Reader` makes a value of some type out of a tree, or reports the first fault in the order of the
text. It is told how many more brackets and braces may be opened.

Readers of scalars look at one node. `Reader.listOf` reads a list item by item. `Reader.oneOf` reads
a name out of a fixed list, which may be spelled as a text or as an object with that one key and
`null` behind it. `Reader.anything` takes whatever value there is; of members with the same key it
keeps the last, and it sorts members by their keys.

`Reader.run` reads a whole text. At most 127 brackets and braces may be open at once.
-/

namespace BlockQuery.Json

/-- Makes a value out of a tree, with a bound on the brackets that may still be opened. -/
abbrev Reader (α : Type) := (depth : Nat) → Node → Except Fault α

/-! ### Naming what was found -/

/-- A number as a message names it. -/
def foundNumber : Number → String
  | .int i => s!"integer `{String.ofList (intChars i)}`"
  | .double x => s!"floating point `{String.ofList x.chars}`"

/-- The fault of a node where something else is wanted. A node whose own text is faulty is reported
for that. -/
def Node.wrongType (wanted : String) : Node → Fault
  | .null => .wrongType "null" wanted
  | .bool b => .wrongType s!"boolean `{b}`" wanted
  | .number none => .numberOutOfRange
  | .number (some n) => .wrongType (foundNumber n) wanted
  | .text (.error f) => f
  | .text (.ok s) => .wrongType s!"string {Text.quoted s}" wanted
  | .list _ _ => .wrongType "sequence" wanted
  | .object _ _ => .wrongType "map" wanted
  | .broken b => b.reading

/-- Succeeds unless there is a fault. -/
def Fault.raise? : Option Fault → Except Fault Unit
  | none => .ok ()
  | some f => .error f

namespace Reader

/-! ### Scalars -/

/-- A text. -/
def text : Reader String
  | _, .text t => t
  | _, n => .error (n.wrongType "a string")

/-- A truth value. -/
def bool : Reader Bool
  | _, .bool b => .ok b
  | _, n => .error (n.wrongType "a boolean")

/-- A natural number below `2 ^ 64`. -/
def count : Reader Nat
  | _, .number (some (.int i)) =>
    if 0 ≤ i then .ok i.toNat else .error (.wrongValue (foundNumber (.int i)) "u64")
  | _, n => .error (n.wrongType "u64")

/-- Nothing at all. -/
def unit : Reader Unit
  | _, .null => .ok ()
  | _, n => .error (n.wrongType "unit")

/-- A value or `null`. What starts like `null` is taken for it. -/
def optional {α : Type} (read : Reader α) : Reader (Option α)
  | _, .null => .ok none
  | _, .broken (.literal true cut) => .error (Break.literal true cut).reading
  | depth, n => (read depth n).map some

/-! ### Names out of a list -/

/-- The value with a name, if the name is allowed. -/
def named {α : Type} (all : List α) (name : α → String) (s : String) : Except Fault α :=
  match all.find? (name · == s) with
  | some a => .ok a
  | none => .error (.unknownVariant s (all.map name))

/-- One of several values by its name. -/
def oneOf {α : Type} (all : List α) (name : α → String) : Reader α
  | _, .text t => t.bind (named all name)
  | 0, .object _ _ => .error .tooDeep
  | depth + 1, .object ((key, n) :: more) ending => do
    let a ← key.bind (named all name)
    unit depth n
    match more, ending with
    | [], .closed => return a
    | [], .endOfText => .error .endInObject
    | _, _ => .error .expectedValue
  | _, .object [] .closed => .error .expectedValue
  | _, .object [] ending => .error (ending.fault?.getD .endInObject)
  | _, .broken (.text reading _) => .error reading
  | _, .broken .endOfText => .error .endInValue
  | _, .broken (.noColon cut) => .error (Break.noColon cut).reading
  | _, _ => .error .expectedValue

/-! ### Lists -/

/-- A list of values that are all read alike. -/
def listOf {α : Type} (read : Reader α) : Reader (List α)
  | 0, .list _ _ => .error .tooDeep
  | depth + 1, .list items ending => do
    let as ← items.mapM (read depth)
    Fault.raise? ending.fault?
    return as
  | _, n => .error (n.wrongType "a sequence")

/-! ### Any value -/

mutual

/-- Whatever value there is. -/
def anything (depth : Nat) : Node → Except Fault Json
  | .null => .ok .null
  | .bool b => .ok (.bool b)
  | .number none => .error .numberOutOfRange
  | .number (some n) => .ok (.number n)
  | .text t => t.map .text
  | .list items ending =>
    match depth with
    | 0 => .error .tooDeep
    | depth + 1 => do
      let values ← anyItems depth items
      Fault.raise? ending.fault?
      return .list values
  | .object members ending =>
    match depth with
    | 0 => .error .tooDeep
    | depth + 1 => do
      let members ← anyMembers depth [] members
      Fault.raise? ending.fault?
      return .object members
  | .broken b => .error b.reading

/-- Whatever values there are. -/
def anyItems (depth : Nat) : List Node → Except Fault (List Json)
  | [] => .ok []
  | n :: ns => do
    let v ← anything depth n
    let vs ← anyItems depth ns
    return v :: vs

/-- Whatever members there are, set one after another. -/
def anyMembers (depth : Nat) (members : List (String × Json)) :
    List (Key × Node) → Except Fault (List (String × Json))
  | [] => .ok members
  | (key, n) :: ms => do
    let k ← key
    let v ← anything depth n
    anyMembers depth (setMember k v members) ms

end

/-- Any value as text: a text as it is, `null` as nothing, and all else as its JSON text. -/
def lenientText : Reader String := fun depth n ↦ do
  match ← anything depth n with
  | .text s => return s
  | .null => return ""
  | v => return v.compact

/-! ### Whole texts -/

/-- How many brackets and braces may be open at once. -/
def maxDepth : Nat :=
  127

/-- Reads a document. -/
def runDocument {α : Type} (read : Reader α) (d : Document) : Except Fault α := do
  let a ← read maxDepth d.root
  if d.trailing then .error .trailingCharacters
  return a

/-- Reads a whole text. -/
def run {α : Type} (read : Reader α) (s : String) : Except Fault α :=
  read.runDocument (.ofText s)

end Reader

end BlockQuery.Json

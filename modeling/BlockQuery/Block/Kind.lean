import BlockQuery.Category

/-!
# Kinds of blocks

A `Kind` is a registry's entry for one type of block: what the block is called, which category it
is grouped under, and what an editor asks for. Kinds never change; a block placed in a draft is an
instance of one.
-/

namespace BlockQuery

/-- The input an editor offers for a block's value. -/
inductive InputKind where
  /-- A calendar day. -/
  | date
  /-- A non-negative integer. -/
  | number
  deriving DecidableEq, Repr

namespace InputKind

/-- All kinds of input. -/
def all : List InputKind :=
  [date, number]

/-- The name used in data exchange. -/
def name : InputKind → String
  | date => "date"
  | number => "number"

/-- The kind of input with exactly this name. -/
def ofName? (s : String) : Option InputKind :=
  all.find? (·.name == s)

end InputKind

/-- A registry's entry for one type of block. -/
structure Kind where
  /-- The name of the entry in its registry. -/
  id : String
  /-- The type of the blocks of this kind. -/
  type : String
  /-- What people read. -/
  label : String
  category : Category
  /-- Whether a block of this kind says nothing while its value is blank. -/
  needsValue : Bool
  /-- Whether a block of this kind takes a second value, if stated. -/
  takesSecond : Option Bool := none
  /-- The hint in the empty input of the value. -/
  hint : Option String := none
  /-- The hint in the empty input of the second value. -/
  secondHint : Option String := none
  input : Option InputKind := none
  deriving DecidableEq, Repr

namespace Kind

/-- A kind whose entry is named by its type. -/
def named (type label : String) (category : Category) (needsValue : Bool) : Kind where
  id := type
  type := type
  label := label
  category := category
  needsValue := needsValue

/-- The least kind for a type that no registry knows: the type is its own label. -/
def improvised (type : String) (category : Category) (needsValue : Bool) : Kind :=
  named type type category needsValue

/-- The kind with a hint for its value. -/
def withHint (k : Kind) (hint : String) : Kind :=
  { k with hint := some hint }

/-- The kind with a second value and a hint for it. -/
def withSecond (k : Kind) (hint : String) : Kind :=
  { k with takesSecond := some true, secondHint := some hint }

/-- The kind with a particular input. -/
def withInput (k : Kind) (input : InputKind) : Kind :=
  { k with input := some input }

/-- Whether blocks of this kind take a second value. -/
def hasSecond (k : Kind) : Bool :=
  k.takesSecond.getD false

end Kind

end BlockQuery

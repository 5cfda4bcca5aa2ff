import BlockQuery.Json.Reader

/-!
# Records

A record is read by the names of its fields. It may be spelled as an object, or as a list of the
values of its fields in the order in which they are declared.

As an object, its members may come in any order. Members without a field are skipped, a field must
not be given twice, and fields that are left out are looked for when the object has ended. As a
list, fields at its end may be left out if they have a value of their own to fall back on.

`Record α` describes the fields of a record of type `α`. Records are put together with `<*>`, one
field at a time, in the order of declaration:

```
Point.mk <$> .required "x" number <*> .required "y" number <*> .optional "name" text none
```
-/

namespace BlockQuery.Json

/-- What is made of a field that is not given. -/
inductive Presence where
  /-- It must be given. -/
  | required
  /-- It may be left out of an object but not of a list. -/
  | nullable
  /-- It may be left out. -/
  | optional
  deriving DecidableEq, Repr

/-- The name of a field, how to tell whether a value fits it, and whether it may be left out. -/
structure Field where
  name : String
  check : Reader Unit
  presence : Presence

/-- The fields of a record, and the record made from the values that were given. -/
structure Record (α : Type) where
  fields : List Field
  build : (depth : Nat) → (given? : String → Option Node) → Except Fault α

namespace Record

variable {α β : Type}

/-! ### Putting records together -/

/-- A record of one field. -/
def field (name : String) (read : Reader α) (presence : Presence) (absent : Except Fault α) :
    Record α where
  fields := [⟨name, fun depth n ↦ (read depth n).map fun _ ↦ (), presence⟩]
  build depth given? := ((given? name).map (read depth)).getD absent

/-- A field that must be given. -/
def required (name : String) (read : Reader α) : Record α :=
  field name read .required (.error (.missingField name))

/-- A field that falls back on a value. -/
def optional (name : String) (read : Reader α) (fallback : α) : Record α :=
  field name read .optional (.ok fallback)

/-- A field that may be left out or `null`. -/
def maybe (name : String) (read : Reader α) : Record (Option α) :=
  optional name read.optional none

/-- A field that may be `null`, and may be left out of an object. -/
def nullable (name : String) (read : Reader α) : Record (Option α) :=
  field name read.optional .nullable (.ok none)

instance : Functor Record where
  map f r := { fields := r.fields, build := fun depth given? ↦ (r.build depth given?).map f }

instance : Seq Record where
  seq f r :=
    { fields := f.fields ++ (r ()).fields
      build := fun depth given? ↦ do
        let g ← f.build depth given?
        let a ← (r ()).build depth given?
        return g a }

/-! ### Reading records -/

/-- The members of an object that belong to fields, last first. Members are checked in the order of
the text. -/
def gather (fields : List Field) (depth : Nat) (given : List (String × Node)) :
    List (Key × Node) → Except Fault (List (String × Node))
  | [] => .ok given
  | (key, n) :: ms => do
    let name ← key
    match fields.find? (·.name == name) with
    | none =>
      Fault.raise? n.skipFault?
      gather fields depth given ms
    | some f =>
      if (List.lookup name given).isSome then .error (.duplicateField name)
      f.check depth n
      gather fields depth ((name, n) :: given) ms

/-- How many fields a record has, in words. -/
def sizeText (title : String) (size : Nat) : String :=
  let noun := if size = 1 then "element" else "elements"
  s!"struct {title} with {size} {noun}"

/-- Deals the items of a list out to fields, counted from `index`, of a record with `size` of
them. -/
def deal (title : String) (size : Nat) (depth : Nat) (ending : ListEnd) (index : Nat) :
    List Field → List Node → Except Fault (List (String × Node))
  | [], [] => .ok []
  -- whether more items may follow is asked when all that were wanted have been read
  | [], _ :: _ => .ok []
  | f :: fs, n :: ns => do
    f.check depth n
    let given ← deal title size depth ending (index + 1) fs ns
    return (f.name, n) :: given
  | f :: fs, [] => do
    Fault.raise? ending.fault?
    if f.presence = .optional then deal title size depth ending (index + 1) fs []
    else .error (.wrongLength index (sizeText title size))

/-- The fault behind the items that a record takes. -/
def surplusFault? (size : Nat) (items : List Node) (ending : ListEnd) : Option Fault :=
  if size < items.length then some .trailingCharacters else ending.surplusFault?

/-- Reads a record, which messages call by its title. -/
def read (title : String) (r : Record α) : Reader α
  | 0, .list _ _ => .error .tooDeep
  | 0, .object _ _ => .error .tooDeep
  | depth + 1, .list items ending => do
    let given ← deal title r.fields.length depth ending 0 r.fields items
    let a ← r.build depth (List.lookup · given)
    Fault.raise? (surplusFault? r.fields.length items ending)
    return a
  | depth + 1, .object members ending => do
    let given ← gather r.fields depth [] members
    Fault.raise? ending.fault?
    r.build depth (List.lookup · given)
  | _, n => .error (n.wrongType s!"struct {title}")

end Record

end BlockQuery.Json

/-!
# What can be wrong with a JSON text

`Json.Fault` lists the ways in which a text is not a value of the type that is wanted. Faults come
in three classes: the text ended too early, it is not JSON, or it is JSON of another shape.

A fault is told with the place where reading stopped, a line and a column. **The place is not
computed here.** It belongs to the parser that walks over the text, and whoever tells of a fault is
given it, as days and identifiers are given. `Fault.messageAt` is the whole text that is told.
-/

namespace BlockQuery.Json

/-- Why a text is not a value of the wanted type. -/
inductive Fault where
  /-- The text ended where a value should stand, or within a literal or number. -/
  | endInValue
  /-- The text ended between quotes. -/
  | endInText
  /-- The text ended before the closing bracket of a list. -/
  | endInList
  /-- The text ended before the closing brace of an object. -/
  | endInObject
  /-- Something else stands where a value should stand. -/
  | expectedValue
  /-- A word that starts like `null`, `true` or `false` and is none of them. -/
  | expectedLiteral
  | expectedColon
  | expectedCommaOrBrace
  | expectedCommaOrBracket
  /-- Something else stands where a key should stand. -/
  | keyNotText
  /-- A comma in front of a closing bracket or brace. -/
  | trailingComma
  /-- Something stands behind the value. -/
  | trailingCharacters
  | invalidNumber
  /-- A number beyond the greatest double. -/
  | numberOutOfRange
  | invalidEscape
  | controlCharacter
  /-- A high surrogate without another escape behind it. -/
  | unfinishedSurrogate
  /-- A low surrogate first, or a high one without a low one behind it. -/
  | loneSurrogate
  /-- Too many brackets and braces are open. -/
  | tooDeep
  /-- A value of another type, as it is named. -/
  | wrongType (found wanted : String)
  /-- A value of the right type that the type does not hold. -/
  | wrongValue (found wanted : String)
  /-- A list with too few items to stand for a record. -/
  | wrongLength (found : Nat) (wanted : String)
  | missingField (name : String)
  | duplicateField (name : String)
  /-- A name that is not among those allowed. -/
  | unknownVariant (name : String) (allowed : List String)
  /-- A text that is not an identifier, with what is wrong with it. -/
  | malformedId (problem : String)
  deriving DecidableEq, Repr

/-- Where reading stopped. Lines count from one; line zero stands for no place. -/
structure Place where
  line : Nat
  column : Nat
  deriving DecidableEq, Repr

/-- No place. -/
def Place.unknown : Place :=
  ⟨0, 0⟩

/-- Where reading stops in each text that is refused. -/
abbrev Places :=
  String → Place

/-- No place in any text. -/
def Places.unknown : Places :=
  fun _ ↦ .unknown

namespace Fault

/-- The three classes of faults. -/
inductive Class where
  /-- The text ended too early. -/
  | cutShort
  /-- The text is not JSON. -/
  | illFormed
  /-- The text is JSON so far, of another shape. -/
  | misshapen
  deriving DecidableEq, Repr

/-- The class of a fault. -/
def kind : Fault → Class
  | endInValue | endInText | endInList | endInObject => .cutShort
  | wrongType .. | wrongValue .. | wrongLength .. | missingField _ | duplicateField _
  | unknownVariant .. | malformedId _ => .misshapen
  | _ => .illFormed

/-- The allowed names as a message lists them. -/
def allowedNames : List String → String
  | [] => "there are no variants"
  | [a] => s!"expected `{a}`"
  | [a, b] => s!"expected `{a}` or `{b}`"
  | names => "expected one of " ++ String.intercalate ", " (names.map fun a ↦ s!"`{a}`")

/-- The wording of a fault, without its place. -/
def message : Fault → String
  | endInValue => "EOF while parsing a value"
  | endInText => "EOF while parsing a string"
  | endInList => "EOF while parsing a list"
  | endInObject => "EOF while parsing an object"
  | expectedValue => "expected value"
  | expectedLiteral => "expected ident"
  | expectedColon => "expected `:`"
  | expectedCommaOrBrace => "expected `,` or `\x7d`"
  | expectedCommaOrBracket => "expected `,` or `]`"
  | keyNotText => "key must be a string"
  | trailingComma => "trailing comma"
  | trailingCharacters => "trailing characters"
  | invalidNumber => "invalid number"
  | numberOutOfRange => "number out of range"
  | invalidEscape => "invalid escape"
  | controlCharacter => "control character (\\u0000-\\u001F) found while parsing a string"
  | unfinishedSurrogate => "unexpected end of hex escape"
  | loneSurrogate => "lone leading surrogate in hex escape"
  | tooDeep => "recursion limit exceeded"
  | wrongType found wanted => s!"invalid type: {found}, expected {wanted}"
  | wrongValue found wanted => s!"invalid value: {found}, expected {wanted}"
  | wrongLength found wanted => s!"invalid length {found}, expected {wanted}"
  | missingField name => s!"missing field `{name}`"
  | duplicateField name => s!"duplicate field `{name}`"
  | unknownVariant name allowed => s!"unknown variant `{name}`, {allowedNames allowed}"
  | malformedId problem => s!"UUID parsing failed: {problem}"

/-- What is told of a fault at a place. -/
def messageAt (f : Fault) (place : Place) : String :=
  if place.line = 0 then f.message
  else s!"{f.message} at line {place.line} column {place.column}"

end Fault

end BlockQuery.Json

import BlockQuery.Number.Numeral
import BlockQuery.Number.Shortest

/-!
# JSON values and their text

A JSON value, and the two ways to write it. `compact` writes no blanks at all. `pretty` puts every
item and member on a line of its own, two spaces deeper than the brackets around it, and leaves
empty lists and objects as `[]` and `{}`.

Members of an object are kept in the order in which they are written.
-/

namespace BlockQuery

/-- A JSON value. -/
inductive Json where
  | null
  | bool (b : Bool)
  | number (n : Number)
  | text (s : String)
  | list (items : List Json)
  | object (members : List (String × Json))
  deriving Inhabited, Repr

namespace Json

/-- The value of a natural number. -/
def ofNat (n : Nat) : Json :=
  .number (.int n)

/-! ### Scalars -/

/-- The four hexadecimal digits of a control character. -/
def controlDigits (n : Nat) : List Char :=
  ['0', '0', (n / 16).digitChar, (n % 16).digitChar]

/-- What stands for a character between quotes. Quotes, backslashes and control characters are
escaped; all else stands as it is. -/
def escapeChar (c : Char) : List Char :=
  if c = '"' ∨ c = '\\' then ['\\', c]
  else if c = '\x08' then ['\\', 'b']
  else if c = '\x0c' then ['\\', 'f']
  else if c = '\n' then ['\\', 'n']
  else if c = '\r' then ['\\', 'r']
  else if c = '\t' then ['\\', 't']
  else if c.toNat < 0x20 then '\\' :: 'u' :: controlDigits c.toNat
  else [c]

/-- A text between quotes. -/
def textChars (s : String) : List Char :=
  '"' :: s.toList.flatMap escapeChar ++ ['"']

/-- The digits of an integer, with a sign if it is negative. -/
def intChars (i : Int) : List Char :=
  let digits := Nat.toDigits 10 i.natAbs
  if i < 0 then '-' :: digits else digits

/-- A number. -/
def numberChars : Number → List Char
  | .int i => intChars i
  | .double x => x.chars

/-! ### Without blanks -/

mutual

/-- The value without blanks. -/
def compactChars : Json → List Char
  | null => ['n', 'u', 'l', 'l']
  | bool true => ['t', 'r', 'u', 'e']
  | bool false => ['f', 'a', 'l', 's', 'e']
  | number n => numberChars n
  | text s => textChars s
  | list items => '[' :: compactItems items ++ [']']
  | object members => '\x7b' :: compactMembers members ++ ['\x7d']

/-- Values with commas between them. -/
def compactItems : List Json → List Char
  | [] => []
  | [v] => v.compactChars
  | v :: vs => v.compactChars ++ ',' :: compactItems vs

/-- Members with commas between them. -/
def compactMembers : List (String × Json) → List Char
  | [] => []
  | [(k, v)] => textChars k ++ ':' :: v.compactChars
  | (k, v) :: ms => textChars k ++ ':' :: (v.compactChars ++ ',' :: compactMembers ms)

end

/-- The text of a value without blanks. -/
def compact (v : Json) : String :=
  String.ofList v.compactChars

/-! ### On several lines -/

/-- A line break and the indentation of a depth. -/
def newLine (depth : Nat) : List Char :=
  '\n' :: List.replicate (2 * depth) ' '

mutual

/-- The value on several lines, where the line it starts on is indented by `depth`. -/
def prettyChars (depth : Nat) : Json → List Char
  | list [] => ['[', ']']
  | list items => '[' :: prettyItems (depth + 1) items ++ newLine depth ++ [']']
  | object [] => ['\x7b', '\x7d']
  | object members =>
    '\x7b' :: prettyMembers (depth + 1) members ++ newLine depth ++ ['\x7d']
  | null => ['n', 'u', 'l', 'l']
  | bool true => ['t', 'r', 'u', 'e']
  | bool false => ['f', 'a', 'l', 's', 'e']
  | number n => numberChars n
  | text s => textChars s

/-- Values on lines of their own. -/
def prettyItems (depth : Nat) : List Json → List Char
  | [] => []
  | [v] => newLine depth ++ prettyChars depth v
  | v :: vs => newLine depth ++ prettyChars depth v ++ ',' :: prettyItems depth vs

/-- Members on lines of their own. -/
def prettyMembers (depth : Nat) : List (String × Json) → List Char
  | [] => []
  | [(k, v)] => newLine depth ++ textChars k ++ ':' :: ' ' :: prettyChars depth v
  | (k, v) :: ms =>
    newLine depth ++ textChars k ++ ':' :: ' ' :: prettyChars depth v ++
      ',' :: prettyMembers depth ms

end

/-- The text of a value on several lines. -/
def pretty (v : Json) : String :=
  String.ofList (prettyChars 0 v)

/-! ### Members -/

/-- Sets a member among members sorted by their keys. -/
def setMember (k : String) (v : Json) : List (String × Json) → List (String × Json)
  | [] => [(k, v)]
  | (l, w) :: ms =>
    if k = l then (k, v) :: ms
    else if k < l then (k, v) :: (l, w) :: ms
    else (l, w) :: setMember k v ms

/-- The member of an object with a key. -/
def member? (key : String) : Json → Option Json
  | object members => members.lookup key
  | _ => none

/-- A member that is left out when there is nothing to say. -/
def optionalMember (key : String) (v : Option Json) : List (String × Json) :=
  match v with
  | none => []
  | some v => [(key, v)]

end Json

end BlockQuery

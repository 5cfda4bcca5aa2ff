import BlockQuery.Text.Octets

/-!
# Block identifiers

A block placed in a draft carries a 128-bit identifier. Its text is thirty-two hexadecimal digits
in five groups, `67e55044-10b1-426f-9247-bb680e5fe0c8`; it is always written in lower case.

Four spellings are read, in either letter case: the grouped one, the same between braces or after
`urn:uuid:`, and the thirty-two digits without hyphens. `BlockId.parse` says of any other text what
is wrong with it first: a character that is neither a digit nor a hyphen, then the number of
groups, then the length of the first group that is not as long as it should be.

**The size of a text decides how it is taken.** A text of the size of one of the four spellings is
read as that spelling, and places are counted within the digits and hyphens. A text longer than all
of them is just too long. Any other text is no identifier, and places are counted within the whole.
-/

namespace BlockQuery

/-- The identifier of a block in a draft. -/
structure BlockId where
  bits : BitVec 128
  deriving DecidableEq, Repr

namespace BlockId

open Text

/-! ### Hexadecimal digits -/

/-- The last `width` hexadecimal digits of a number. -/
def hexDigits : (width : Nat) → Nat → List Char
  | 0, _ => []
  | width + 1, n => hexDigits width (n / 16) ++ [hexDigit (n % 16)]

/-- The number that hexadecimal digits denote; other characters count as zero. -/
def hexNumber (cs : List Char) : Nat :=
  cs.foldl (fun n c ↦ 16 * n + (hexValue? c).getD 0) 0

/-! ### Writing -/

/-- The lengths of the five groups. -/
def groupLengths : List Nat :=
  [8, 4, 4, 4, 12]

/-- The digits cut into groups of the given lengths with hyphens between them. -/
def hyphenated : List Nat → List Char → List Char
  | [], _ => []
  | [_], cs => cs
  | n :: ns, cs => cs.take n ++ '-' :: hyphenated ns (cs.drop n)

/-- The characters of the identifier's text. -/
def chars (i : BlockId) : List Char :=
  hyphenated groupLengths (hexDigits 32 i.bits.toNat)

/-- The identifier's text. -/
def text (i : BlockId) : String :=
  String.ofList i.chars

/-! ### Reading -/

/-- Why a text is not an identifier. -/
inductive Fault where
  /-- A character that is neither a hexadecimal digit nor a hyphen, and where it stands. -/
  | badCharacter (c : Char) (index : Nat)
  /-- Digits without hyphens, but not thirty-two of them. -/
  | badLength (found : Nat)
  /-- Not five groups. -/
  | badGroupCount (found : Nat)
  /-- A group that is too short or too long. -/
  | badGroup (group expected found : Nat)
  deriving DecidableEq, Repr

/-- The wording of a fault. -/
def Fault.message : Fault → String
  | badCharacter c index => s!"invalid character: found `{c}` at {index}"
  | badLength found => s!"invalid length: found {found}"
  | badGroupCount found => s!"invalid group count: expected 5, found {found}"
  | badGroup group expected found =>
    s!"invalid group length in group {group}: expected {expected}, found {found}"

/-- The runs of characters between hyphens. -/
def groups : List Char → List (List Char)
  | [] => [[]]
  | c :: cs =>
    if c = '-' then [] :: groups cs
    else match groups cs with
      | [] => [[c]]
      | g :: gs => (c :: g) :: gs

/-- What stands around the digits and hyphens. -/
inductive Wrapping where
  | bare
  | braced
  | urn
  deriving DecidableEq, Repr

/-- The marker that may stand in front of an identifier, in either letter case. -/
def urnMarker : List Char :=
  ['u', 'r', 'n', ':', 'u', 'u', 'i', 'd', ':']

/-- How many characters the wrapping puts in front. -/
def Wrapping.width : Wrapping → Nat
  | bare => 0
  | braced => 1
  | urn => urnMarker.length

/-- A text's wrapping and what it wraps. -/
def unwrap (cs : List Char) : Wrapping × List Char :=
  if cs.head? = some '\x7b' && cs.tail.getLast? = some '\x7d' then
    (.braced, cs.tail.dropLast)
  else if (cs.take urnMarker.length).map Char.toLower = urnMarker then
    (.urn, cs.drop urnMarker.length)
  else
    (.bare, cs)

/-- The first character, counted from `index`, that is neither a digit nor a hyphen. -/
def strayFrom? (index : Nat) : List Char → Option (Char × Nat)
  | [] => none
  | c :: cs =>
    if c = '-' || (hexValue? c).isSome then strayFrom? (index + 1) cs else some (c, index)

/-- The first group, counted from `group`, whose length is not the one expected. -/
def badGroupFrom? (group : Nat) : List Nat → List (List Char) → Option (Nat × Nat × Nat)
  | n :: ns, g :: gs =>
    if g.length = n then badGroupFrom? (group + 1) ns gs else some (group, n, g.length)
  | _, _ => none

/-- How many octets the grouped spelling has. -/
def groupedSize : Nat :=
  36

/-- How many octets the longest spelling has. -/
def maxSize : Nat :=
  45

/-- The part of a text that has the size of the grouped spelling, where the wrapping leaves such a
part. -/
def groupedPart? (cs : List Char) : Option (List Char) :=
  if octets cs = groupedSize then some cs
  else
    let (_, body) := unwrap cs
    if octets body = groupedSize then some body else none

/-- Reads digits in groups, of which the first stands at the place `start` of a text with `size`
octets.

The last group is measured by what is left of the whole text, its wrapping included, after the
twenty-four characters that the first four groups take. -/
def readGroups (start size : Nat) (cs : List Char) : Except Fault BlockId :=
  match strayFrom? start cs with
  | some (c, index) => .error (.badCharacter c index)
  | none =>
    let parts := groups cs
    if parts.length ≠ 5 then .error (.badGroupCount parts.length)
    else match badGroupFrom? 0 groupLengths parts with
      | some (4, expected, _) => .error (.badGroup 4 expected (size - 24))
      | some (group, expected, found) => .error (.badGroup group expected found)
      | none => .ok ⟨.ofNat 128 (hexNumber parts.flatten)⟩

/-- Reads an identifier. -/
def parseChars (cs : List Char) : Except Fault BlockId :=
  let size := octets cs
  if maxSize < size then .error (.badLength size)
  else match groupedPart? cs with
    | some body => readGroups 0 groupedSize body
    | none =>
      let (wrapping, body) := if size = 32 then (.bare, cs) else unwrap cs
      if wrapping = .bare && !body.contains '-' then
        match strayFrom? 0 body with
        | some (c, index) => .error (.badCharacter c index)
        | none =>
          if size = 32 then .ok ⟨.ofNat 128 (hexNumber body)⟩ else .error (.badLength size)
      else readGroups wrapping.width size body

/-- Reads an identifier from text. -/
def parse (s : String) : Except Fault BlockId :=
  parseChars s.toList

end BlockId

end BlockQuery

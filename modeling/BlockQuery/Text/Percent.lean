import BlockQuery.Text.Octets

/-!
# Percent encoding

A character that may not stand in an address is written as the octets of its UTF-8 form, each as
`%` and two upper-case hexadecimal digits. Two conventions differ in what may stand as it is:
`encodeComponent` keeps ASCII letters, digits, hyphen, underscore, dot and tilde; `encodeForm`
keeps letters, digits, star, hyphen, dot and underscore, and writes a space as a plus sign.

`decodeOctets?` undoes the escapes of the first convention. `looseOctets` undoes whatever looks like
an escape, with digits in either letter case, and takes all else as it is.
-/

namespace BlockQuery.Text.Percent

/-- The upper-case hexadecimal digits, in order of value. -/
def alphabet : List Char :=
  ['0', '1', '2', '3', '4', '5', '6', '7', '8', '9', 'A', 'B', 'C', 'D', 'E', 'F']

/-- The digit of a value below sixteen. -/
def digit (n : Nat) : Char :=
  alphabet.getD n '0'

/-- The value of an upper-case digit. -/
def value? (c : Char) : Option Nat :=
  alphabet.findIdx? (· == c)

/-- The three characters that stand for an octet. -/
def escape (octet : UInt8) : List Char :=
  ['%', digit (octet.toNat / 16), digit (octet.toNat % 16)]

/-! ### Writing -/

/-- Whether a character is an ASCII letter or digit. -/
def isAlphanumeric (c : Char) : Bool :=
  c.isAlphanum

/-- Whether a character of a component stands as it is. -/
def isUnreserved (c : Char) : Bool :=
  isAlphanumeric c || c = '-' || c = '_' || c = '.' || c = '~'

/-- What stands for a character of a component. -/
def componentChar (c : Char) : List Char :=
  if isUnreserved c then [c] else (String.utf8EncodeChar c).flatMap escape

/-- The characters of a component, encoded. -/
def component (cs : List Char) : List Char :=
  cs.flatMap componentChar

/-- A component of an address, encoded. -/
def encodeComponent (s : String) : String :=
  String.ofList (component s.toList)

/-- Whether a character of a form field stands as it is. -/
def isFormSafe (c : Char) : Bool :=
  isAlphanumeric c || c = '*' || c = '-' || c = '.' || c = '_'

/-- What stands for a character of a form field. -/
def formChar (c : Char) : List Char :=
  if c = ' ' then ['+']
  else if isFormSafe c then [c]
  else (String.utf8EncodeChar c).flatMap escape

/-- A name or value of a form field, encoded. -/
def encodeForm (s : String) : String :=
  String.ofList (s.toList.flatMap formChar)

/-- The fields of a form, encoded. -/
def encodeFields (fields : List (String × String)) : String :=
  String.intercalate "&" (fields.map fun f ↦ encodeForm f.1 ++ "=" ++ encodeForm f.2)

/-! ### Reading -/

/-- The octets that an encoded component stands for. -/
def decodeOctets? : List Char → Option (List UInt8)
  | [] => some []
  | '%' :: high :: low :: cs => do
    let h ← value? high
    let l ← value? low
    let rest ← decodeOctets? cs
    return .ofNat (16 * h + l) :: rest
  | c :: cs => if isUnreserved c then (decodeOctets? cs).map (.ofNat c.toNat :: ·) else none

/-- The octets of a text in which escapes are undone. -/
def looseOctets : List Char → List UInt8
  | [] => []
  | '%' :: high :: low :: cs =>
    match hexValue? high, hexValue? low with
    | some h, some l => .ofNat (16 * h + l) :: looseOctets cs
    | _, _ => .ofNat '%'.toNat :: looseOctets (high :: low :: cs)
  | c :: cs => String.utf8EncodeChar c ++ looseOctets cs

/-- A text in which escapes are undone, if the octets make a text. -/
def looseText? (cs : List Char) : Option (List Char) :=
  (String.fromUTF8? ⟨(looseOctets cs).toArray⟩).map String.toList

end BlockQuery.Text.Percent

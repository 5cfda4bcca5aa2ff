/-!
# Octets and hexadecimal digits

How long a text is in octets, and the digits that octets and longer runs of bits are spelled in.
Digits are read in either letter case.
-/

namespace BlockQuery.Text

/-- How many octets the characters take in UTF-8. -/
def octets (cs : List Char) : Nat :=
  cs.foldr (fun c n ↦ c.utf8Size + n) 0

/-! ### Hexadecimal digits -/

/-- The lower-case hexadecimal digits, in order of value. -/
def hexAlphabet : List Char :=
  ['0', '1', '2', '3', '4', '5', '6', '7', '8', '9', 'a', 'b', 'c', 'd', 'e', 'f']

/-- The digit of a value below sixteen. -/
def hexDigit (n : Nat) : Char :=
  hexAlphabet.getD n '0'

/-- The value of a hexadecimal digit in either letter case. -/
def hexValue? (c : Char) : Option Nat :=
  hexAlphabet.findIdx? (· == c.toLower)

end BlockQuery.Text

import BlockQuery.DomainName.Image
import BlockQuery.DomainName.Label
import BlockQuery.DomainName.Punycode

/-!
# Domain names

`ascii?` brings a domain name into the form in which it is looked up: in one spelling, and with each
label that holds characters beyond ASCII written by Punycode behind the marker `xn--`. A label that
has the marker already must stand for a label in the chosen spelling.

A name may have empty labels, and labels of any length that can be written.
-/

namespace BlockQuery.DomainName

/-- Whether a character belongs to ASCII. -/
def isAscii (c : Char) : Bool :=
  c.toNat < 128

/-- Whether a character separates parts of an address, or is not seen, and so has no place in a
name. -/
def isRefused (c : Char) : Bool :=
  c.toNat ≤ 0x20 || c.toNat = 0x7f ||
    ['%', '#', '/', ':', '<', '>', '?', '@', '[', '\\', ']', '^', '|'].contains c

/-- What stands in front of a label that is written by Punycode. -/
def marker : List Char :=
  ['x', 'n', '-', '-']

/-- How long a label may be that is written by Punycode, and how long one that is read. -/
def maxWritten : Nat :=
  1000

@[inherit_doc maxWritten]
def maxRead : Nat :=
  2000

/-- The label that is meant by one in the chosen spelling. -/
def meant? (label : List Char) : Option (List Char) :=
  if marker.isPrefixOf label then do
    let written := label.drop marker.length
    let meant ← if written.length ≤ maxRead then Punycode.decode? written else none
    if !meant.all isAscii && spelling? meant = some meant then return meant else none
  else some label

/-- A label in ASCII. -/
def asciiLabel? (label : List Char) : Option (List Char) :=
  if label.all isAscii then some label
  else if label.length ≤ maxWritten then some (marker ++ Punycode.encode label)
  else none

/-- The form of a name in which it is looked up. -/
def ascii? (cs : List Char) : Option (List Char) := do
  let spelled ← spelling? cs
  if spelled.any isRefused then none
  let labels ← (spelled.splitOn '.').mapM meant?
  let fit := labels.all isLabel && (!labels.any turns || labels.all runsOneWay)
  if !fit then none
  let written ← labels.mapM asciiLabel?
  return ['.'].intercalate written

end BlockQuery.DomainName

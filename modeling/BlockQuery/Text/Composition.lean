import BlockQuery.Text.CharRange
import BlockQuery.Text.CompositionTable
import BlockQuery.Text.MarkTable

/-!
# Composed text

A letter with a mark can be written as one character or as two, and marks that do not touch can
follow each other in any order. `composed` chooses one spelling of each text: every character is
taken apart, marks are put into the order of their classes, and what belongs together is put
together again. This is the Unicode standard's normal form C for texts without characters that are
mere copies of another one.

Korean syllables are composed of two or three letters by arithmetic, all else by a table.
-/

namespace BlockQuery.Text

/-- The combining class of a character. -/
def combiningClass (c : Char) : Nat :=
  if c.toNat < 0x300 then 0
  else ((combiningClasses.find? fun row ↦ inRanges row.2 c).map (·.1)).getD 0

/-! ### Korean syllables -/

/-- The first syllable. -/
def firstSyllable : Nat :=
  0xac00

/-- How many syllables there are. -/
def syllableCount : Nat :=
  11172

/-- The first leading consonant, of 19. -/
def firstLead : Nat :=
  0x1100

/-- The first vowel, of 21. -/
def firstVowel : Nat :=
  0x1161

/-- The trailing consonants, of 27, follow this character. -/
def beforeTrail : Nat :=
  0x11a7

/-- The letters of a syllable. -/
def syllableLetters? (c : Char) : Option (List Char) :=
  let s := c.toNat - firstSyllable
  if c.toNat < firstSyllable || syllableCount ≤ s then none
  else
    let lead := Char.ofNat (firstLead + s / 588)
    let vowel := Char.ofNat (firstVowel + s % 588 / 28)
    let trail := s % 28
    some ([lead, vowel] ++ if trail = 0 then [] else [Char.ofNat (beforeTrail + trail)])

/-- The syllable of a leading consonant and a vowel, or of a syllable without a trailing consonant
and such a consonant. -/
def syllable? (first second : Char) : Option Char :=
  let lead := first.toNat - firstLead
  let vowel := second.toNat - firstVowel
  let open_ := first.toNat - firstSyllable
  let trail := second.toNat - beforeTrail
  if firstLead ≤ first.toNat && lead < 19 && firstVowel ≤ second.toNat && vowel < 21 then
    some (Char.ofNat (firstSyllable + (lead * 21 + vowel) * 28))
  else if firstSyllable ≤ first.toNat && open_ < syllableCount && open_ % 28 = 0 &&
      beforeTrail < second.toNat && trail < 28 then
    some (Char.ofNat (first.toNat + trail))
  else none

/-! ### Pairs -/

/-- The first character of the pair that composes to `whole` in a row of the table. -/
def firstIn? (whole : Char) : List Char → Option Char
  | first :: c :: row => if c = whole then some first else firstIn? whole row
  | _ => none

/-- What `first` and the second character of a row compose to. -/
def wholeIn? (first : Char) : List Char → Option Char
  | c :: whole :: row => if c = first then some whole else wholeIn? first row
  | _ => none

/-- The two characters that a character is composed of. -/
def pairOf? (whole : Char) : Option (Char × Char) :=
  compositions.findSome? fun (second, row) ↦
    (firstIn? whole row.toList).map fun first ↦ (first, Char.ofNat second)

/-- The character that two characters compose to. -/
def wholeOf? (first second : Char) : Option Char :=
  (syllable? first second).or <| compositions.findSome? fun row ↦
    if row.1 = second.toNat then wholeIn? first row.2.toList else none

/-! ### Normal form -/

/-- A character taken apart, where `depth` bounds how often that can be done. -/
def apart : (depth : Nat) → Char → List Char
  | 0, c => [c]
  | depth + 1, c =>
    match syllableLetters? c, pairOf? c with
    | some letters, _ => letters
    | none, some (first, second) => apart depth first ++ [second]
    | none, none => [c]

/-- How often a character can be taken apart: no letter is composed with more than four marks. -/
def maxDepth : Nat :=
  4

/-- Puts a mark behind the marks of lower classes that follow it. -/
def placeMark (c : Char) : List Char → List Char
  | [] => [c]
  | d :: ds =>
    if combiningClass d ≠ 0 && combiningClass d < combiningClass c then d :: placeMark c ds
    else c :: d :: ds

/-- The characters with marks in the order of their classes. -/
def marksOrdered (cs : List Char) : List Char :=
  cs.foldr placeMark []

/-- Puts `start` and the characters behind it together. The marks in between that did not fit are
listed last first; a mark of the same or a higher class among them is in the way. -/
def together (start : Char) (marks : List Char) : List Char → List Char
  | [] => start :: marks.reverse
  | c :: cs =>
    let reachable := marks.head?.all fun m ↦ combiningClass m < combiningClass c
    match if reachable then wholeOf? start c else none with
    | some whole => together whole marks cs
    | none =>
      if combiningClass c = 0 then start :: marks.reverse ++ together c [] cs
      else together start (c :: marks) cs

/-- The composed spelling of a text. -/
def composed (cs : List Char) : List Char :=
  let parts := marksOrdered (cs.flatMap (apart maxDepth))
  let leading := parts.takeWhile (combiningClass · ≠ 0)
  match parts.dropWhile (combiningClass · ≠ 0) with
  | [] => leading
  | c :: cs => leading ++ together c [] cs

end BlockQuery.Text

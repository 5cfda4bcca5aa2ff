import BlockQuery.DomainName.DirectionTable
import BlockQuery.DomainName.JoiningTable
import BlockQuery.Text.Composition

/-!
# Labels of domain names

A domain name consists of labels with full stops between them. Not every row of letters makes a
label: a mark needs a letter before it, the invisible characters that join letters or keep them
apart have a place only where the script knows them, and letters must be readable in one direction.

`isLabel` holds what is asked of one label by itself. `runsOneWay` holds what is asked of every
label of a name in which anything runs from right to left.
-/

namespace BlockQuery.DomainName

open Text

/-! ### Marks and joiners -/

/-- Whether a character attaches to the one before it. -/
def isMark (c : Char) : Bool :=
  inRanges nonspacingRanges c || inRanges spacingRanges c

/-- Whether a character silences the vowel of the letter before it. -/
def isVirama (c : Char) : Bool :=
  combiningClass c = 9

/-- Whether letters join over a character as if it were not there. -/
def isTransparent (c : Char) : Bool :=
  inRanges nonspacingRanges c || c.toNat = 0x1e94b

/-- Whether the first letter that is not looked through joins with the one behind it. The letters
are listed last first. -/
def joinsForward (before : List Char) : Bool :=
  match before.dropWhile isTransparent with
  | [] => false
  | c :: _ => inRanges dualJoiningRanges c || inRanges leftJoiningRanges c

/-- Whether the first letter that is not looked through joins with the one before it. -/
def joinsBackward (behind : List Char) : Bool :=
  match behind.dropWhile isTransparent with
  | [] => false
  | c :: _ => inRanges dualJoiningRanges c || inRanges rightJoiningRanges c

/-- Keeps letters apart that would join. -/
def nonJoiner : Char :=
  '\u200c'

/-- Joins letters that would stay apart. -/
def joiner : Char :=
  '\u200d'

/-- Whether the joiners stand where they have a meaning: behind a virama, or, if they keep apart,
between letters that would join. What stands before is listed last first. -/
def joinersFit (before : List Char) : List Char → Bool
  | [] => true
  | c :: cs =>
    let afterVirama := before.head?.any isVirama
    let fits :=
      if c = joiner then afterVirama
      else if c = nonJoiner then afterVirama || (joinsForward before && joinsBackward cs)
      else true
    fits && joinersFit (c :: before) cs

/-- Whether characters make a label. -/
def isLabel (cs : List Char) : Bool :=
  !cs.head?.any isMark && joinersFit [] cs

/-! ### Directions -/

/-- How a character is written. -/
inductive Direction where
  | leftToRight
  | rightToLeft
  | europeanDigit
  | arabicDigit
  /-- As its neighbours are. -/
  | neutral
  /-- As the letter that it attaches to. -/
  | attached
  deriving DecidableEq, Repr

/-- How a character is written. -/
def Direction.of (c : Char) : Direction :=
  if inRanges leftMarkRanges c then leftToRight
  else if inRanges nonspacingRanges c then attached
  else if inRanges rightToLeftRanges c then rightToLeft
  else if inRanges europeanDigitRanges c then europeanDigit
  else if inRanges arabicDigitRanges c then arabicDigit
  else if inRanges neutralRanges c then neutral
  else leftToRight

/-- Whether a label makes a name one with two directions. -/
def turns (cs : List Char) : Bool :=
  cs.any fun c ↦ [Direction.rightToLeft, .arabicDigit].contains (.of c)

/-- The direction that a label ends with. -/
def lastDirection? (ds : List Direction) : Option Direction :=
  (ds.reverse.dropWhile (· = .attached)).head?

/-- Whether a label runs one way. It starts with a letter of that way and ends with such a letter or
a digit, it has no letter of the other way, and it does not mix two kinds of digits. -/
def runsOneWay (cs : List Char) : Bool :=
  let ds := cs.map Direction.of
  let endsWith (allowed : List Direction) : Bool := (lastDirection? ds).any allowed.contains
  match ds with
  | [] => true
  | .leftToRight :: _ =>
    ds.all [.leftToRight, .europeanDigit, .neutral, .attached].contains &&
      endsWith [.leftToRight, .europeanDigit]
  | .rightToLeft :: _ =>
    ds.all [.rightToLeft, .arabicDigit, .europeanDigit, .neutral, .attached].contains &&
      endsWith [.rightToLeft, .arabicDigit, .europeanDigit] &&
      !(ds.contains .arabicDigit && ds.contains .europeanDigit)
  | _ => false

end BlockQuery.DomainName

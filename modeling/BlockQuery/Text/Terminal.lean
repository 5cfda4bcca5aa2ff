/-!
# Text without terminal controls

A text may hold sequences that a terminal does not show but obeys: they start with the escape
character and set colours, titles and the like. `shown` is what remains of a text where there is no
terminal: its characters without such sequences, and of the controls only those that are blank.

A blank control within a sequence is shown. What follows it is shown as well, up to the next
control, which is then read as a part of the sequence.
-/

namespace BlockQuery.Text

namespace Terminal

/-- The kind of sequence that is being read. -/
inductive Mode where
  /-- None. -/
  | plain
  /-- One that has just begun. -/
  | escape
  /-- One with more than one character behind the escape. -/
  | escapeMore
  /-- One with numbers and a letter at its end. -/
  | control
  /-- A command for the terminal's surroundings. -/
  | command
  /-- A text for the terminal itself. -/
  | message
  deriving DecidableEq, Repr

/-- Starts a sequence. -/
def escapeChar : Char :=
  '\x1b'

/-- Whether a character breaks off any sequence. -/
def isCancel (c : Char) : Bool :=
  c = '\x18' || c = '\x1a'

/-- Whether a character is a control that is blank. -/
def isBlankControl (c : Char) : Bool :=
  c = '\t' || c = '\n' || c = '\x0c' || c = '\r'

/-- Whether a character is shown outside of sequences. -/
def isShown (c : Char) : Bool :=
  isBlankControl c || (0x20 ≤ c.toNat && c.toNat ≠ 0x7f)

/-- Whether the octets of a character hold the old mark for the end of a message. -/
def endsMessage (c : Char) : Bool :=
  (String.utf8EncodeChar c).contains 0x9c

/-- Whether a character ends a sequence of a mode that lets characters up to `last` go by. -/
def endsBehind (last c : Char) : Bool :=
  last < c && c.toNat < 0x7f

/-- The mode behind the first character of a sequence. -/
def Mode.begin (c : Char) : Mode :=
  if c = '[' then control
  else if c = ']' then command
  else if c = 'P' || c = 'X' || c = '^' || c = '_' then message
  else if 0x20 ≤ c.toNat && c.toNat < 0x30 then escapeMore
  else if 0x30 ≤ c.toNat && c.toNat < 0x7f then plain
  else escape

/-- The mode behind a character. -/
def Mode.next (mode : Mode) (c : Char) : Mode :=
  if c = escapeChar then escape
  else if isCancel c then plain
  else match mode with
    | plain => plain
    | escape => .begin c
    | escapeMore => if endsBehind '/' c then plain else escapeMore
    | control => if endsBehind '?' c then plain else control
    | command => if c = '\x07' then plain else command
    | message => if endsMessage c then plain else message

/-- Whether a character is shown in a mode. -/
def Mode.shows (mode : Mode) (c : Char) : Bool :=
  match mode with
  | plain => isShown c
  | escape | escapeMore | control => isBlankControl c
  | command | message => false

/-- What is shown of a text in a mode. If the character before was shown, so is what follows. -/
def shownFrom (mode : Mode) (wasShown : Bool) : List Char → List Char
  | [] => []
  | c :: cs =>
    if wasShown && isShown c then c :: shownFrom mode true cs
    else if mode.shows c then c :: shownFrom (mode.next c) true cs
    else shownFrom (mode.next c) false cs

end Terminal

/-- What a text shows. -/
def shown (s : String) : String :=
  String.ofList (Terminal.shownFrom .plain false s.toList)

end BlockQuery.Text

import BlockQuery.Json.Token

/-!
# The tree of a JSON text

The second step of reading builds a tree from tokens. `Document.ofText` never fails. A text that is
not JSON has a tree too: it ends in a place that says how reading broke off there.

**Which fault is reported is decided later,** by the reader that walks the tree. Readers want
different things, and each reports the first fault that it comes across in the order of the text, be
it that a value has another shape or that the text breaks off. What a reader has no name for, it
skips with `Node.skipFault?`.

The tree is built by `State.step`, one token at a time. A state holds the lists and objects that are
still open as a stack of frames, innermost first, and what may come next.
-/

namespace BlockQuery.Json

/-! ### Trees -/

/-- How a list ends. -/
inductive ListEnd where
  | closed
  /-- With the whole input. -/
  | endOfText
  /-- With a comma in front of the bracket. -/
  | danglingComma
  /-- With something that is neither a comma nor a bracket. -/
  | junk
  deriving DecidableEq, Repr

namespace ListEnd

/-- The fault for one who reads the list. -/
def fault? : ListEnd → Option Fault
  | closed => none
  | endOfText => some .endInList
  | danglingComma => some .trailingComma
  | junk => some .expectedCommaOrBracket

/-- The fault for one who skips the list. -/
def skipFault? : ListEnd → Option Fault
  | danglingComma => some .expectedValue
  | e => e.fault?

/-- The fault for one who has all the items that are wanted. -/
def surplusFault? : ListEnd → Option Fault
  | junk => some .trailingCharacters
  | e => e.fault?

end ListEnd

/-- How an object ends. -/
inductive ObjectEnd where
  | closed
  /-- With the whole input. -/
  | endOfText
  /-- With a comma in front of the brace. -/
  | danglingComma
  /-- With a comma and the whole input. -/
  | commaAtEnd
  /-- With a token that is not a key. -/
  | badKey (t : Token)
  /-- With something that is neither a comma nor a brace. -/
  | junk

namespace ObjectEnd

/-- The fault for one who reads the object. -/
def fault? : ObjectEnd → Option Fault
  | closed => none
  | endOfText => some .endInObject
  | danglingComma => some .trailingComma
  | commaAtEnd => some .endInValue
  | badKey (.broken (.text reading _)) => some reading
  | badKey _ => some .keyNotText
  | junk => some .expectedCommaOrBrace

/-- The fault for one who skips the object. -/
def skipFault? : ObjectEnd → Option Fault
  | danglingComma => some .keyNotText
  | commaAtEnd => some .endInObject
  | badKey (.broken (.text _ skipping)) => some skipping
  | e => e.fault?

end ObjectEnd

/-- The key of a member, unless its surrogates do not fit. -/
abbrev Key := Except Fault String

/-- The tree of a text, broken off where the text is not JSON. -/
inductive Node where
  | null
  | bool (b : Bool)
  | number (n : Option Number)
  | text (t : Except Fault String)
  | list (items : List Node) (ending : ListEnd)
  | object (members : List (Key × Node)) (ending : ObjectEnd)
  | broken (b : Break)

namespace Node

mutual

/-- The fault for one who skips the value. -/
def skipFault? : Node → Option Fault
  | null => none
  | bool _ => none
  | number _ => none
  | text _ => none
  | list items ending => (skipItems items).or ending.skipFault?
  | object members ending => (skipMembers members).or ending.skipFault?
  | broken b => some b.skipping

/-- The first fault for one who skips values. -/
def skipItems : List Node → Option Fault
  | [] => none
  | n :: ns => n.skipFault?.or (skipItems ns)

/-- The first fault for one who skips members. -/
def skipMembers : List (Key × Node) → Option Fault
  | [] => none
  | (_, n) :: ms => n.skipFault?.or (skipMembers ms)

end

end Node

/-! ### Building -/

/-- A list or an object that is still open. -/
inductive Frame where
  /-- A list, with the items before the one that is being read, last first. -/
  | list (before : List Node)
  /-- An object, with the members before the one that is being read, last first, and its key. -/
  | object (before : List (Key × Node)) (key : Key)

namespace Frame

/-- Closes a list or object at a place where reading broke off. -/
def breakOff (n : Node) : Frame → Node
  | list before => .list (before.reverse ++ [n]) .endOfText
  | object before key => .object (before.reverse ++ [(key, n)]) .endOfText

end Frame

/-- A text as one tree, and whether anything stands behind it. -/
structure Document where
  root : Node
  trailing : Bool

/-- What has been read, and what may come next. -/
inductive State where
  /-- A value. -/
  | value (frames : List Frame)
  /-- The first item of a list, or its end. -/
  | listStart (frames : List Frame)
  /-- The item behind a comma. -/
  | nextItem (before : List Node) (frames : List Frame)
  /-- A comma or the end of a list. -/
  | afterItem (before : List Node) (frames : List Frame)
  /-- The first key of an object, or its end. -/
  | objectStart (frames : List Frame)
  /-- The key behind a comma. -/
  | nextKey (before : List (Key × Node)) (frames : List Frame)
  /-- The colon behind a key. -/
  | afterKey (before : List (Key × Node)) (key : Key) (frames : List Frame)
  /-- A comma or the end of an object. -/
  | afterMember (before : List (Key × Node)) (frames : List Frame)
  /-- Nothing more. -/
  | whole (root : Node)
  /-- Anything; it is not looked at. -/
  | stuck (d : Document)

namespace State

/-- Reading breaks off at a node within some frames. -/
def breakOff (frames : List Frame) (n : Node) : State :=
  .stuck ⟨frames.foldl Frame.breakOff n, false⟩

/-- A node within some frames is complete. -/
def complete (n : Node) : List Frame → State
  | [] => whole n
  | .list before :: frames => afterItem (n :: before) frames
  | .object before key :: frames => afterMember ((key, n) :: before) frames

/-- A token where a value is wanted. -/
def startValue (frames : List Frame) : Token → State
  | .openList => listStart frames
  | .openObject => objectStart frames
  | .null => complete .null frames
  | .bool b => complete (.bool b) frames
  | .number n => complete (.number n) frames
  | .text t => complete (.text t) frames
  | .broken b => breakOff frames (.broken b)
  | _ => breakOff frames (.broken .stray)

/-- Reads one more token. -/
def step : State → Token → State
  | value frames, t => startValue frames t
  | listStart frames, .closeList => complete (.list [] .closed) frames
  -- a list becomes a frame with its first item, so that an empty one never is
  | listStart frames, t => startValue (.list [] :: frames) t
  | nextItem before frames, .closeList => breakOff frames (.list before.reverse .danglingComma)
  | nextItem before frames, t => startValue (.list before :: frames) t
  | afterItem before frames, .closeList => complete (.list before.reverse .closed) frames
  | afterItem before frames, .comma => nextItem before frames
  | afterItem before frames, _ => breakOff frames (.list before.reverse .junk)
  | objectStart frames, .closeObject => complete (.object [] .closed) frames
  | objectStart frames, .text k => afterKey [] k frames
  | objectStart frames, t => breakOff frames (.object [] (.badKey t))
  | nextKey before frames, .closeObject =>
    breakOff frames (.object before.reverse .danglingComma)
  | nextKey before frames, .text k => afterKey before k frames
  | nextKey before frames, t => breakOff frames (.object before.reverse (.badKey t))
  | afterKey before k frames, .colon => value (.object before k :: frames)
  | afterKey before k frames, _ =>
    breakOff (.object before k :: frames) (.broken (.noColon false))
  | afterMember before frames, .closeObject => complete (.object before.reverse .closed) frames
  | afterMember before frames, .comma => nextKey before frames
  | afterMember before frames, _ => breakOff frames (.object before.reverse .junk)
  | whole root, _ => stuck ⟨root, true⟩
  | stuck d, _ => stuck d

/-- The tree of what lies within some frames when the input has ended. -/
def closeOff (frames : List Frame) (n : Node) : Document :=
  ⟨frames.foldl Frame.breakOff n, false⟩

/-- The document when the input has ended. -/
def finish : State → Document
  | value frames => closeOff frames (.broken .endOfText)
  | listStart frames => closeOff frames (.list [] .endOfText)
  | nextItem before frames => closeOff (.list before :: frames) (.broken .endOfText)
  | afterItem before frames => closeOff frames (.list before.reverse .endOfText)
  | objectStart frames => closeOff frames (.object [] .endOfText)
  | nextKey before frames => closeOff frames (.object before.reverse .commaAtEnd)
  | afterKey before k frames =>
    closeOff (.object before k :: frames) (.broken (.noColon true))
  | afterMember before frames => closeOff frames (.object before.reverse .endOfText)
  | whole root => ⟨root, false⟩
  | stuck d => d

end State

namespace Document

/-- The document of a list of tokens. -/
def ofTokens (ts : List Token) : Document :=
  (ts.foldl State.step (.value [])).finish

/-- The document of a text. -/
def ofText (s : String) : Document :=
  ofTokens (Token.ofText s)

end Document

end BlockQuery.Json

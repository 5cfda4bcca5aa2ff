import BlockQuery.Text.CaseTable

/-!
# Lower-casing

`lower` maps a text to lower case by the Unicode standard's full mapping. Every character is mapped
by itself, with two exceptions. A capital I with a dot above becomes two characters. A capital sigma
becomes the final sigma `ς` where it ends a word, and `σ` elsewhere: it ends a word when, ignorable
characters passed over, a cased character stands before it and none stands after it.

`asciiLower` maps the letters `A` to `Z` only.
-/

namespace BlockQuery.Text

/-- Whether a letter is cased. -/
def isCased (c : Char) : Bool :=
  inRanges casedRanges c

/-- Whether a character is passed over when looking for a cased neighbour. -/
def isIgnorable (c : Char) : Bool :=
  inRanges ignorableRanges c

/-- The lower-case form of one character, apart from its neighbours. -/
def lowerChar (c : Char) : List Char :=
  if c = 'İ' then ['i', '\u0307']
  else [(lowerRuns.findSome? (·.image? c)).getD c]

/-- Whether the first character that is not passed over is cased. -/
def startsCased (cs : List Char) : Bool :=
  match cs.dropWhile isIgnorable with
  | [] => false
  | c :: _ => isCased c

/-- Lower case of the characters that follow `before`, which is listed nearest first. -/
def lowerAfter (before : List Char) : List Char → List Char
  | [] => []
  | c :: cs =>
    let here :=
      if c = 'Σ' then
        [if startsCased before && !startsCased cs then 'ς' else 'σ']
      else
        lowerChar c
    here ++ lowerAfter (c :: before) cs

/-- The text in lower case. -/
def lower (s : String) : String :=
  String.ofList (lowerAfter [] s.toList)

/-- The text with the letters `A` to `Z` in lower case and all else as it is. -/
def asciiLower (s : String) : String :=
  String.ofList (s.toList.map Char.toLower)

/-! ### Searching -/

/-- Whether the characters occur in a row somewhere in a text. -/
def occursIn (needle : List Char) : List Char → Bool
  | [] => needle.isEmpty
  | c :: cs => needle.isPrefixOf (c :: cs) || occursIn needle cs

end BlockQuery.Text

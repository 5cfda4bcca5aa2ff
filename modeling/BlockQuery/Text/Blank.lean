import BlockQuery.Text.CharRange

/-!
# Blank characters, trimming and terms

A value typed into a block is trimmed or split at blank characters before it reaches a query.
*Blank* means Unicode's `White_Space` property, so a no-break space or an ideographic space
separates terms just as an ASCII space does, while a zero-width space does not.

The work is done on lists of characters: `trim` drops blanks at both ends, `words` lists the
maximal runs of characters that are not blank. `terms` and `nonBlank?` are the same two on text.
-/

namespace BlockQuery.Text

/-- The twenty-five characters with the `White_Space` property. -/
def blankRanges : List CharRange :=
  CharRange.table [(0x9, 0xd), (0x20, 0x20), (0x85, 0x85), (0xa0, 0xa0), (0x1680, 0x1680),
    (0x2000, 0x200a), (0x2028, 0x2029), (0x202f, 0x202f), (0x205f, 0x205f), (0x3000, 0x3000)]

/-- Whether a character is blank. -/
def isBlank (c : Char) : Bool :=
  inRanges blankRanges c

/-! ### Trimming -/

/-- The characters without the blanks at either end. -/
def trim (cs : List Char) : List Char :=
  ((cs.dropWhile isBlank).reverse.dropWhile isBlank).reverse

/-- The text without the blanks at either end. -/
def trimmed (s : String) : String :=
  String.ofList (trim s.toList)

@[simp] theorem toList_trimmed (s : String) : (trimmed s).toList = trim s.toList := by
  simp [trimmed]

/-- The trimmed text, if anything is left of it. -/
def nonBlank? (s : String) : Option String :=
  if trim s.toList = [] then none else some (trimmed s)

/-- Whether a text has no character other than blanks. -/
def allBlank (s : String) : Bool :=
  s.toList.all isBlank

/-! ### Terms -/

/-- The maximal runs of characters that are not blank, from left to right. -/
def words (cs : List Char) : List (List Char) :=
  match _h : cs.dropWhile isBlank with
  | [] => []
  | c :: rest =>
    (c :: rest.takeWhile (!isBlank ·)) :: words (rest.dropWhile (!isBlank ·))
termination_by cs.length
decreasing_by
  have outer : (cs.dropWhile isBlank).length ≤ cs.length :=
    (List.dropWhile_sublist _).length_le
  have inner : (rest.dropWhile (!isBlank ·)).length ≤ rest.length :=
    (List.dropWhile_sublist _).length_le
  rw [_h, List.length_cons] at outer
  omega

/-- The blank-separated terms of a text. -/
def terms (s : String) : List String :=
  (words s.toList).map String.ofList

end BlockQuery.Text

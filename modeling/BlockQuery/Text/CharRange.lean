/-!
# Sets of characters given by ranges

Character properties of the Unicode standard are long lists of ranges of code points. A
`CharRange` is one inclusive range, a property is a list of them, and `inRanges` is membership.
-/

namespace BlockQuery.Text

/-- The characters whose code points lie between `first` and `last`, both included. -/
structure CharRange where
  first : Nat
  last : Nat
  deriving DecidableEq, Repr

namespace CharRange

/-- Whether a character lies in the range. -/
def contains (r : CharRange) (c : Char) : Bool :=
  r.first ≤ c.toNat && c.toNat ≤ r.last

/-- A table of ranges written as pairs of end points. -/
def table (ends : List (Nat × Nat)) : List CharRange :=
  ends.map fun e ↦ ⟨e.1, e.2⟩

end CharRange

/-- Whether a character lies in one of the ranges. -/
def inRanges (ranges : List CharRange) (c : Char) : Bool :=
  ranges.any (·.contains c)

end BlockQuery.Text

import BlockQuery.Json.Value
import BlockQuery.Number.Spelling
import BlockQuery.Text.Blank

/-!
# Limits of a search

How many tweets a search may return. A limit comes as a number or as a text that spells one; it is
cut down to a whole number and brought between 1 and 20. Zero, and whatever is no number, gives the
default of 5.
-/

namespace BlockQuery

/-- The limit if none is given. -/
def defaultLimit : Nat :=
  5

/-- The least limit. -/
def minLimit : Nat :=
  1

/-- The greatest limit. -/
def maxLimit : Nat :=
  20

/-- The double nearest to a number. -/
def Number.toDouble? : Number → Option Double
  | .int i => Double.ofNat (i < 0) i.natAbs
  | .double x => some x

/-- The number that a limit asks for, where it asks for one that a double can hold. -/
def requestedLimit? : Json → Option Double
  | .number n => n.toDouble?
  | .text s => (typedDecimal? (Text.trim s.toList)).bind Numeral.nearest?
  | _ => none

/-- A number brought within the limits; zero gives the default. -/
def withinLimits (x : Double) : Nat :=
  if x.isZero then defaultLimit
  else if x.negative then minLimit
  else max minLimit (min maxLimit x.floorAbs)

/-- The limit to use for the limit that was asked for. -/
def clampLimit (requested : Option Json) : Nat :=
  ((requested.bind requestedLimit?).map withinLimits).getD defaultLimit

end BlockQuery

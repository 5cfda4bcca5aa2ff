import BlockQuery.Number.Numeral

/-!
# Numbers typed by people

Whole numbers and decimals as they are typed into an option, a variable or a text field: digits with
an optional sign, and for decimals an optional point and exponent. Nothing else may stand around
them.
-/

namespace BlockQuery

/-- The natural number that is typed, with or without a plus sign. -/
def typedNat? (cs : List Char) : Option Nat :=
  let digits := if cs.head? = some '+' then cs.tail else cs
  if digits.isEmpty || !digits.all Char.isDigit then none else some (Numeral.ofDigits digits)

/-- The exponent behind the digits of a decimal; zero if there is none. -/
def typedExponent? : List Char → Option Int
  | [] => some 0
  | c :: cs =>
    if c = 'e' ∨ c = 'E' then
      let (minus, digits) := Numeral.splitSign cs
      let size : Int := Numeral.ofDigits digits
      if digits.isEmpty || !digits.all Char.isDigit then none
      else some (if minus then -size else size)
    else none

/-- The digits behind the point of a decimal, if there is a point, and what follows. -/
def typedFraction : List Char → List Char × List Char
  | '.' :: cs => (cs.takeWhile Char.isDigit, cs.dropWhile Char.isDigit)
  | cs => ([], cs)

/-- The decimal that is typed. There must be a digit on one side of the point. -/
def typedDecimal? (cs : List Char) : Option Numeral :=
  let (negative, cs) := Numeral.splitSign cs
  let whole := cs.takeWhile Char.isDigit
  let (fraction, rest) := typedFraction (cs.dropWhile Char.isDigit)
  if whole.isEmpty && fraction.isEmpty then none
  else (typedExponent? rest).map fun e ↦ ⟨negative, whole, fraction, e, false⟩

end BlockQuery

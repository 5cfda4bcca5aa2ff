import BlockQuery.Number.Double

/-!
# Shortest decimal text of a double

The text of a double is the decimal with the fewest digits that reads back as the same double; of
several with as few digits, the one nearest to its exact value; of two as near, the one with the
even last digit.

A decimal reads back as the double when it lies in the interval of numbers that round to it. The
ends of that interval lie half-way to the neighbouring doubles, and belong to it if the mantissa is
even. The search looks at one grid of decimals after another, from one digit upwards: if any point
of a grid lies in the interval, so does one of the two around the exact value.
-/

namespace BlockQuery

/-- A decimal, `digits * 10 ^ exponent`. -/
structure Decimal where
  digits : Nat
  exponent : Int
  deriving DecidableEq, Repr

namespace Double

/-! ### The interval of a double -/

/-- A positive double and the ends of its interval, in units of a quarter of its last binary
place. The lower neighbour of a power of two is only half as far away as the upper one. -/
structure Interval where
  low : Nat
  exact : Nat
  high : Nat
  /-- Whether the ends belong to the interval. -/
  closed : Bool
  /-- The binary exponent of the unit. -/
  unit : Int

/-- The numbers that round to a double. -/
def interval (x : Double) : Interval where
  low :=
    if x.mantissa = Nat.pow 2 (precision - 1) ∧ minExponent < x.exponent then 4 * x.mantissa - 1
    else 4 * x.mantissa - 2
  exact := 4 * x.mantissa
  high := 4 * x.mantissa + 2
  closed := x.mantissa % 2 = 0
  unit := x.exponent - 2

/-- Numerator and denominator of `n * 10 ^ e`. -/
def decimalQuotient (n : Nat) (e : Int) : Nat × Nat :=
  (n * Nat.pow 10 e.toNat, Nat.pow 10 (-e).toNat)

/-- The integer `e` with `10 ^ e ≤ num / den < 10 ^ (e + 1)`, for positive `num` and `den`. -/
def decimalLog (num den : Nat) : Int :=
  if den ≤ num then ((Nat.toDigits 10 (num / den)).length : Int) - 1
  else -((Nat.toDigits 10 ((den + num - 1) / num - 1)).length : Int)

namespace Interval

variable (i : Interval)

/-- Whether `n * 10 ^ e` lies in the interval. -/
def containsDecimal (n : Nat) (e : Int) : Bool :=
  let (a, b) := decimalQuotient n e
  let (c, d) := scaled 1 1 i.unit
  let point := a * d
  let low := i.low * c * b
  let high := i.high * c * b
  if i.closed then low ≤ point && point ≤ high else low < point && point < high

/-- The distance of `n * 10 ^ e` from the exact value, in units that depend on `e` alone. -/
def distance (n : Nat) (e : Int) : Nat :=
  let (a, b) := decimalQuotient n e
  let (c, d) := scaled 1 1 i.unit
  let point := a * d
  let exact := i.exact * c * b
  (point - exact) + (exact - point)

/-- The point of the grid `10 ^ e` in the interval that is nearest to the exact value. -/
def nearestOn? (e : Int) : Option Decimal :=
  let (c, d) := scaled i.exact 1 i.unit
  let (p, q) := decimalQuotient 1 e
  let below := c * q / (d * p)
  let above := below + 1
  match i.containsDecimal below e, i.containsDecimal above e with
  | false, false => none
  | true, false => some ⟨below, e⟩
  | false, true => some ⟨above, e⟩
  | true, true =>
    let nearer := compare (i.distance below e) (i.distance above e)
    if nearer = .lt ∨ nearer = .eq ∧ below % 2 = 0 then some ⟨below, e⟩ else some ⟨above, e⟩

end Interval

/-- A decimal without zeros at its end. -/
def stripZeros : (fuel : Nat) → Decimal → Decimal
  | 0, x => x
  | fuel + 1, x =>
    if x.digits % 10 = 0 then stripZeros fuel ⟨x.digits / 10, x.exponent + 1⟩ else x

/-- The shortest decimal that reads back as a positive double. Seventeen digits are always
enough. -/
def shortest (x : Double) : Decimal :=
  let (a, b) := x.quotient
  let top := decimalLog a b
  let found := (List.range 17).findSome? fun (n : Nat) ↦ x.interval.nearestOn? (top - n)
  stripZeros 20 (found.getD ⟨0, 0⟩)

/-! ### The text -/

/-- How an exponent of ten is written: with its sign either way. -/
def exponentText (e : Int) : List Char :=
  let sign := if e < 0 then '-' else '+'
  'e' :: sign :: Nat.toDigits 10 e.natAbs

/-- The digits of a decimal with a point in them. From `1e-5` up to but not including `1e16` they
are written in full, with at least one digit on either side of the point; otherwise the point
stands behind the first digit, if there are more, and an exponent follows. -/
def decimalChars (x : Decimal) : List Char :=
  let ds := Nat.toDigits 10 x.digits
  let top := x.exponent + ds.length - 1
  if top < -5 ∨ 16 ≤ top then
    ds.take 1 ++ (if ds.length = 1 then [] else '.' :: ds.drop 1) ++ exponentText top
  else if 0 ≤ x.exponent then
    ds ++ List.replicate x.exponent.toNat '0' ++ ['.', '0']
  else if 0 ≤ top then
    ds.take (top.toNat + 1) ++ '.' :: ds.drop (top.toNat + 1)
  else
    '0' :: '.' :: List.replicate (-top - 1).toNat '0' ++ ds

/-- The characters of a double's text. -/
def chars (x : Double) : List Char :=
  let size := if x.isZero then ['0', '.', '0'] else decimalChars x.shortest
  if x.negative then '-' :: size else size

end Double

end BlockQuery

/-!
# Double-precision numbers

A `Double` is a finite number of the binary64 format, held exactly: a sign and
`mantissa * 2 ^ exponent` with a mantissa below `2 ^ 53`. All arithmetic is on integers. There is
one rounding function, `Double.ofQuotient`, which takes a quotient to the nearest double and a tie
to the one with the even mantissa; products and quotients of doubles go through it.

A quotient that is too large for the format has no double.
-/

namespace BlockQuery

/-- A finite binary64 number, `± mantissa * 2 ^ exponent`. -/
structure Double where
  negative : Bool
  mantissa : Nat
  exponent : Int
  deriving DecidableEq, Repr

namespace Double

/-- The number of bits of a mantissa. -/
def precision : Nat :=
  53

/-- The exponent of the least mantissas. -/
def minExponent : Int :=
  -1074

/-- The exponent of the greatest mantissas. -/
def maxExponent : Int :=
  971

/-! ### Quotients of natural numbers -/

/-- `num / den` as a natural number, to the nearest one, a tie to the even one. -/
def roundDiv (num den : Nat) : Nat :=
  let q := num / den
  let twice := 2 * (num % den)
  if twice < den then q
  else if den < twice then q + 1
  else q + q % 2

/-- Numerator and denominator of `num / den * 2 ^ e`. -/
def scaled (num den : Nat) (e : Int) : Nat × Nat :=
  (num * Nat.pow 2 e.toNat, den * Nat.pow 2 (-e).toNat)

/-- The integer `e` with `2 ^ e ≤ num / den < 2 ^ (e + 1)`, for positive `num` and `den`. -/
def binaryLog (num den : Nat) : Int :=
  let e : Int := (num.log2 : Int) - den.log2
  let (n, d) := scaled num den (-e)
  if n < d then e - 1 else e

/-! ### Rounding -/

/-- Zero with a sign. -/
def zero (negative : Bool) : Double :=
  ⟨negative, 0, minExponent⟩

/-- The double nearest to `± num / den`, for positive `den`. -/
def ofQuotient (negative : Bool) (num den : Nat) : Option Double :=
  if num = 0 then some (zero negative)
  else
    let e := max (binaryLog num den - (precision - 1 : Nat)) minExponent
    let (n, d) := scaled num den (-e)
    let m := roundDiv n d
    let (m, e) :=
      if m = Nat.pow 2 precision then (Nat.pow 2 (precision - 1), e + 1) else (m, e)
    if e ≤ maxExponent then some ⟨negative, m, e⟩ else none

/-- The double nearest to a natural number with a sign. -/
def ofNat (negative : Bool) (n : Nat) : Option Double :=
  ofQuotient negative n 1

/-! ### Arithmetic -/

variable (x y : Double)

/-- Numerator and denominator of the absolute value. -/
def quotient : Nat × Nat :=
  scaled x.mantissa 1 x.exponent

/-- Whether the number is zero, of either sign. -/
def isZero : Bool :=
  x.mantissa = 0

/-- The product, rounded. -/
def mul : Option Double :=
  let (a, b) := x.quotient
  let (c, d) := y.quotient
  ofQuotient (x.negative != y.negative) (a * c) (b * d)

/-- The quotient by a number other than zero, rounded. -/
def div : Option Double :=
  let (a, b) := x.quotient
  let (c, d) := y.quotient
  ofQuotient (x.negative != y.negative) (a * d) (b * c)

/-- The absolute value without its fraction. -/
def floorAbs : Nat :=
  let (a, b) := x.quotient
  a / b

/-- The double nearest to a power of ten, where there is one. -/
def powerOfTen (n : Nat) : Option Double :=
  ofNat false (Nat.pow 10 n)

end Double

end BlockQuery

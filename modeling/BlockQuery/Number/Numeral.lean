import BlockQuery.Number.Double

/-!
# Numerals

A numeral is a number as it is spelled: a sign, digits before and behind a point, and an exponent
of ten. Two rules give it a value.

* `Numeral.nearest?` takes the double nearest to the number that is spelled.
* `Numeral.value?` is the rule of the JSON reader. A numeral without point and exponent is an
  integer if it fits in 64 bits. All others are doubles, and these are not always the nearest ones:
  the digits are gathered into a significand only as long as it fits in 64 bits, the significand is
  rounded to a double, and that is multiplied or divided by a rounded power of ten.
-/

namespace BlockQuery

/-- A number as it is spelled. -/
structure Numeral where
  negative : Bool
  /-- The digits before the point. -/
  whole : List Char
  /-- The digits behind the point. -/
  fraction : List Char
  /-- The exponent of ten. -/
  exponent : Int
  /-- Whether there is neither a point nor an exponent. -/
  isPlain : Bool
  deriving DecidableEq, Repr

/-- The value of a numeral: an integer in 64 bits, or a double. -/
inductive Number where
  | int (i : Int)
  | double (x : Double)
  deriving DecidableEq, Repr

namespace Numeral

/-- The number that decimal digits denote. -/
def ofDigits (ds : List Char) : Nat :=
  Nat.ofDigitChars 10 ds 0

/-- A sign in front of digits: whether it is a minus, and what follows. -/
def splitSign : List Char → Bool × List Char
  | '+' :: cs => (false, cs)
  | '-' :: cs => (true, cs)
  | cs => (false, cs)

theorem length_splitSign_le (cs : List Char) : (splitSign cs).2.length ≤ cs.length := by
  fun_cases splitSign cs <;> simp

/-! ### The nearest double -/

/-- The double nearest to `± n * 10 ^ e`. Numbers far outside the format are not worked out. -/
def nearestDecimal? (negative : Bool) (n : Nat) (e : Int) : Option Double :=
  let length : Int := (Nat.toDigits 10 n).length
  if n = 0 ∨ length + e < -400 then some (.zero negative)
  else if 400 < length + e then none
  else Double.ofQuotient negative (n * Nat.pow 10 e.toNat) (Nat.pow 10 (-e).toNat)

/-- The double nearest to the number that is spelled, where there is one. -/
def nearest? (x : Numeral) : Option Double :=
  nearestDecimal? x.negative (ofDigits (x.whole ++ x.fraction)) (x.exponent - x.fraction.length)

/-! ### The significand -/

/-- The greatest significand. -/
def maxSignificand : Nat :=
  Nat.pow 2 64 - 1

/-- Appends digits to a significand as long as it fits, and gives back the digits left over. -/
def gather (significand : Nat) : List Char → Nat × List Char
  | [] => (significand, [])
  | d :: ds =>
    let next := 10 * significand + (d.toNat - '0'.toNat)
    if next ≤ maxSignificand then gather next ds else (significand, d :: ds)

/-- The absolute value of a double times a power of ten. Powers that the format does not hold are
divided out in steps; a double that they leave at zero stays there. -/
def timesPowerOfTen (x : Double) (e : Int) : Option Double :=
  if 0 ≤ e then
    if e ≤ 308 then (Double.powerOfTen e.toNat).bind x.mul
    else if x.isZero then some x
    else none
  else if -308 ≤ e then (Double.powerOfTen (-e).toNat).bind x.div
  else if x.isZero then some x
  else do
    let smaller ← (Double.powerOfTen 308).bind x.div
    timesPowerOfTen smaller (e + 308)
termination_by e.natAbs

/-- The double of a significand and an exponent of ten. -/
def scaledDouble? (negative : Bool) (significand : Nat) (e : Int) : Option Double :=
  (Double.ofNat negative significand).bind (timesPowerOfTen · e)

/-- The value of a numeral, unless it is out of range. -/
def value? (x : Numeral) : Option Number :=
  let (whole, left) := gather 0 x.whole
  if x.isPlain ∧ left.isEmpty then
    if !x.negative then some (.int whole)
    -- minus zero keeps its sign, which no integer has
    else if 0 < whole ∧ whole ≤ Nat.pow 2 63 then some (.int (-whole))
    else (Double.ofNat true whole).map .double
  else
    let (significand, ignored) := gather whole x.fraction
    let behind := x.fraction.length - ignored.length
    (scaledDouble? x.negative significand (x.exponent + left.length - behind)).map .double

end Numeral

end BlockQuery

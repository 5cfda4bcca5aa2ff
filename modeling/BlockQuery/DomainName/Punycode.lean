/-!
# Punycode

A label of a domain name that holds characters beyond ASCII is written with ASCII letters, digits
and hyphens. The ASCII characters come first, and a hyphen if there are any. Then each other
character is told by a number, in the order of code points: how many steps a pointer takes that runs
over the places of the label for one code point after another.

Numbers are written in base 36, least digit first. A digit below its *threshold* is the last one, so
that numbers need no space between them. Thresholds depend on the *bias*, which follows the size
of the numbers before.

`encode` and `decode?` write and read the form of RFC 3492.
-/

namespace BlockQuery.DomainName.Punycode

/-! ### Digits -/

/-- The digits, in order of value. -/
def alphabet : List Char :=
  ['a', 'b', 'c', 'd', 'e', 'f', 'g', 'h', 'i', 'j', 'k', 'l', 'm', 'n', 'o', 'p', 'q', 'r', 's',
    't', 'u', 'v', 'w', 'x', 'y', 'z', '0', '1', '2', '3', '4', '5', '6', '7', '8', '9']

/-- The digit of a value below 36. -/
def digit (n : Nat) : Char :=
  alphabet.getD n 'a'

/-- The value of a digit in lower case. -/
def value? (c : Char) : Option Nat :=
  alphabet.findIdx? (· == c)

/-! ### Thresholds -/

/-- The threshold of the digit at a place that is counted in steps of 36. -/
def threshold (bias place : Nat) : Nat :=
  if place ≤ bias then 1 else min (place - bias) 26

theorem threshold_bounds (bias place : Nat) :
    0 < threshold bias place ∧ threshold bias place ≤ 26 := by
  unfold threshold
  split <;> omega

/-- The bias for numbers of about the size of `n`, where `place` is as for `threshold`. -/
def settleBias (place n : Nat) : Nat :=
  if n ≤ 455 then place + 36 * n / (n + 38) else settleBias (place + 36) (n / 35)
termination_by n

/-- The bias after a number has been written for one of `count` characters. -/
def nextBias (first : Bool) (n count : Nat) : Nat :=
  let n := n / if first then 700 else 2
  settleBias 0 (n + n / count)

/-- The bias before any number. -/
def firstBias : Nat :=
  72

/-- The first code point beyond ASCII. -/
def firstCode : Nat :=
  128

/-! ### Writing -/

/-- The digits of a number from a place on. -/
def number (bias place n : Nat) : List Char :=
  let t := threshold bias place
  if n < t then [digit n]
  else digit (t + (n - t) % (36 - t)) :: number bias (place + 36) ((n - t) / (36 - t))
termination_by n
decreasing_by
  have bounds := threshold_bounds bias place
  have fewer := Nat.div_le_self (n - threshold bias place) (36 - threshold bias place)
  omega

/-- Where the pointer stands, and what has been written. -/
structure Writer where
  /-- The steps since the last number. -/
  steps : Nat
  bias : Nat
  /-- How many characters have been told. -/
  told : Nat
  written : List Char

namespace Writer

/-- The pointer runs over one character of the label on its round for the code point `code`. -/
def pass (basic code : Nat) (w : Writer) (c : Char) : Writer :=
  if c.toNat < code then { w with steps := w.steps + 1 }
  else if c.toNat = code then
    { steps := 0
      bias := nextBias (w.told = basic) w.steps (w.told + 1)
      told := w.told + 1
      written := w.written ++ number w.bias 36 w.steps }
  else w

/-- The rounds of the pointer for the code points of a label. The next round that has not been made
is that for `next`; rounds on which nothing is told take one step for each place. -/
def rounds (label : List Char) (basic next : Nat) : List Nat → Writer → Writer
  | [], w => w
  | code :: codes, w =>
    let w := { w with steps := w.steps + (code - next) * (w.told + 1) }
    let w := label.foldl (pass basic code) w
    rounds label basic (code + 1) codes { w with steps := w.steps + 1 }

end Writer

/-- The ASCII form of a label. -/
def encode (label : List Char) : List Char :=
  let basic := label.filter (·.toNat < firstCode)
  let codes := (((label.map Char.toNat).filter (firstCode ≤ ·)).mergeSort).eraseDups
  let start : Writer := ⟨0, firstBias, basic.length, []⟩
  let numbers := (start.rounds label basic.length firstCode codes).written
  basic ++ (if basic.isEmpty then [] else ['-']) ++ numbers

/-! ### Reading -/

/-- A character for a code point, if there is one. -/
def charOf? (n : Nat) : Option Char :=
  if n.isValidChar then some (Char.ofNat n) else none

/-- What has been read, and the number that is being read. -/
structure Scan where
  label : List Char
  /-- The code point of the pointer's last round. -/
  code : Nat
  /-- Where the pointer stands in the label. -/
  place : Nat
  bias : Nat
  /-- The number so far. -/
  sum : Nat
  /-- What the next digit counts. -/
  weight : Nat
  /-- The place of the next digit, in steps of 36. -/
  digitPlace : Nat

namespace Scan

/-- The pointer has taken its steps and a character is told. -/
def tell? (s : Scan) : Option Scan := do
  let count := s.label.length + 1
  let target := s.place + s.sum
  let code := s.code + target / count
  let c ← charOf? code
  let place := target % count
  let bias := nextBias (s.place = 0) s.sum count
  return ⟨s.label.insertIdx place c, code, place + 1, bias, 0, 1, 36⟩

/-- Reads one more digit. -/
def digit? (s : Scan) (c : Char) : Option Scan := do
  let d ← value? c
  let t := threshold s.bias s.digitPlace
  let sum := s.sum + d * s.weight
  if d < t then tell? { s with sum }
  else return { s with sum, weight := s.weight * (36 - t), digitPlace := s.digitPlace + 36 }

/-- Whether no number has been begun. -/
def isBetween (s : Scan) : Bool :=
  s.digitPlace = 36

end Scan

/-- What stands before the last hyphen, and what stands behind it. A hyphen in front of all else
counts as a digit, though it is none. -/
def splitBasic (cs : List Char) : List Char × List Char :=
  let behind := (cs.reverse.takeWhile (· ≠ '-')).reverse
  match cs.take (cs.length - behind.length) with
  | [] => ([], behind)
  | ['-'] => ([], cs)
  | before => (before.dropLast, behind)

/-- The label that an ASCII form stands for. -/
def decode? (cs : List Char) : Option (List Char) := do
  let (basic, digits) := splitBasic cs
  let start : Scan := ⟨basic, firstCode, 0, firstBias, 0, 1, 36⟩
  let s ← digits.foldlM Scan.digit? start
  if s.isBetween then return s.label else none

end BlockQuery.DomainName.Punycode

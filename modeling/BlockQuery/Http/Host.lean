import BlockQuery.DomainName.Basic
import BlockQuery.Text.Percent

/-!
# Hosts

Where an address leads: to a name, to four octets, or to eight 16-bit pieces between brackets.

Addresses of the web and their kin read hosts with care. Escapes are undone, a domain name is
brought into its ASCII form, and a name whose last label is a number must be four octets, which may
be typed in fewer than four numbers, and in octal or hexadecimal ones. Other addresses take a name
as it is.
-/

namespace BlockQuery.Http

/-- Where an address leads. -/
inductive Host where
  | name (cs : List Char)
  | octets (n : Nat)
  | pieces (ps : List Nat)
  deriving DecidableEq, Repr

namespace Host

/-! ### Four octets -/

/-- The number that digits of a base denote, unless one of them is no digit. -/
def numberIn? (base : Nat) (cs : List Char) : Option Nat :=
  cs.foldlM (fun n c ↦ do
    let d ← Text.hexValue? c
    if d < base then return base * n + d else none) 0

/-- A number, in hexadecimal behind `0x` and in octal behind another zero. Nothing behind `0x`
counts as zero. -/
def number? : List Char → Option Nat
  | [] => none
  | '0' :: 'x' :: cs => numberIn? 16 cs
  | '0' :: 'X' :: cs => numberIn? 16 cs
  | '0' :: d :: cs => numberIn? 8 (d :: cs)
  | cs => numberIn? 10 cs

/-- The parts of a name between full stops, less an empty one at the end. -/
def numberParts (cs : List Char) : List (List Char) :=
  let parts := cs.splitOn '.'
  if parts.getLast? = some [] then parts.dropLast else parts

/-- Whether the last part of a name is meant as a number. -/
def endsInNumber (cs : List Char) : Bool :=
  match (numberParts cs).getLast? with
  | none => false
  | some part => (!part.isEmpty && part.all Char.isDigit) || (number? part).isSome

/-- The octets of a name that is meant as a number. All parts but the last stand for one octet
each, and the last one for the rest. -/
def octets? (cs : List Char) : Option Host := do
  let numbers ← (numberParts cs).mapM number?
  let last ← numbers.getLast?
  let firsts := numbers.dropLast
  if 3 < firsts.length || !firsts.all (· < 256) || Nat.pow 256 (4 - firsts.length) ≤ last then none
  else
    let high := firsts.foldl (fun n i ↦ 256 * n + i) 0
    return octets (high * Nat.pow 256 (4 - firsts.length) + last)

/-! ### Eight pieces -/

/-- A decimal octet without zeros in front. -/
def decimalOctet? (cs : List Char) : Option Nat := do
  if cs.isEmpty || (cs.head? = some '0' && 1 < cs.length) || !cs.all Char.isDigit then none
  let n := Nat.ofDigitChars 10 cs 0
  if n < 256 then return n else none

/-- The last two pieces, typed as four octets. -/
def octetPieces? (cs : List Char) : Option (List Nat) := do
  match ← (cs.splitOn '.').mapM decimalOctet? with
  | [a, b, c, d] => return [256 * a + b, 256 * c + d]
  | _ => none

/-- The hexadecimal digits at the start of a text, at most four. -/
def pieceDigits (cs : List Char) : List Char :=
  (cs.take 4).takeWhile fun c ↦ (Text.hexValue? c).isSome

/-- Reads pieces behind those that have been seen, which are listed last first. Two colons stand for
a piece of zero, behind which is room for more: there is the `gap`. -/
def piecesFrom? (seen : List Nat) (gap : Option Nat) (cs : List Char) :
    Option (List Nat × Option Nat) :=
  match cs with
  | [] => some (seen.reverse, gap)
  | ':' :: rest =>
    if seen.length = 8 || gap.isSome then none
    else piecesFrom? (0 :: seen) (some (seen.length + 1)) rest
  | c :: rest =>
    let digits := pieceDigits (c :: rest)
    let seen' := (numberIn? 16 digits).getD 0 :: seen
    if seen.length = 8 || digits.isEmpty then none
    else match _after : rest.drop (digits.length - 1) with
      | [] => some (seen'.reverse, gap)
      | '.' :: _ =>
        if 6 < seen.length then none
        else (octetPieces? (c :: rest)).map fun last ↦ (seen.reverse ++ last, gap)
      | ':' :: behind =>
        if behind.isEmpty then none else piecesFrom? seen' gap behind
      | _ => none
termination_by cs.length
decreasing_by
  · simp
  · have fewer : (rest.drop (digits.length - 1)).length ≤ rest.length := by simp
    rw [_after, List.length_cons] at fewer
    rw [List.length_cons]
    omega

/-- The pieces in a text, of which there must be eight once the gap has been filled. -/
def pieces? (cs : List Char) : Option Host := do
  let (seen, gap) ← match cs with
    | ':' :: ':' :: rest => piecesFrom? [0] (some 1) rest
    | ':' :: _ => none
    | cs => piecesFrom? [] none cs
  match gap with
  | some n =>
    if 8 < seen.length then none
    else return pieces (seen.take n ++ List.replicate (8 - seen.length) 0 ++ seen.drop n)
  | none => if seen.length = 8 then return pieces seen else none

/-! ### Reading -/

/-- The pieces between brackets. -/
def bracketed? (cs : List Char) : Option Host :=
  if cs.getLast? = some ']' then pieces? cs.tail.dropLast else none

/-- The host in an address of the web. -/
def web? (cs : List Char) : Option Host :=
  if cs.head? = some '[' then bracketed? cs
  else do
    let ascii ← DomainName.ascii? (← Text.Percent.looseText? cs)
    if ascii.isEmpty then none
    else if endsInNumber ascii then octets? ascii
    else return name ascii

/-- Whether a character separates parts of an address. -/
def isSeparator (c : Char) : Bool :=
  ['\x00', '\t', '\n', '\r', ' ', '#', '/', ':', '<', '>', '?', '@', '[', '\\', ']', '^',
    '|'].contains c

/-- Whether a character has to be escaped in any part of an address. -/
def isUnprintable (c : Char) : Bool :=
  c.toNat < 0x20 || 0x7e < c.toNat

/-- The host in any other address. -/
def other? (cs : List Char) : Option Host :=
  if cs.head? = some '[' then bracketed? cs
  else if cs.any isSeparator then none
  else some <| name <| cs.flatMap fun c ↦
    if isUnprintable c then (String.utf8EncodeChar c).flatMap Text.Percent.escape else [c]

/-! ### Writing -/

/-- The number of zeros at the start of some pieces. -/
def zeros (ps : List Nat) : Nat :=
  (ps.takeWhile (· = 0)).length

/-- Where the first one of the longest rows of zeros starts, and its length. -/
def longestZeros (ps : List Nat) : Nat × Nat :=
  (List.range ps.length).foldl (fun best i ↦
    let found := zeros (ps.drop i)
    if best.2 < found then (i, found) else best) (0, 0)

/-- Pieces in hexadecimal with colons between them. -/
def pieceRow (ps : List Nat) : List Char :=
  [':'].intercalate (ps.map (Nat.toDigits 16))

/-- The text of a host. Two colons stand for the longest row of zeros, if it is longer than one. -/
def text : Host → List Char
  | name cs => cs
  | octets n =>
    ['.'].intercalate ([16777216, 65536, 256, 1].map fun unit ↦ Nat.toDigits 10 (n / unit % 256))
  | pieces ps =>
    let (start, count) := longestZeros ps
    let row :=
      if count < 2 then pieceRow ps
      else pieceRow (ps.take start) ++ [':', ':'] ++ pieceRow (ps.drop (start + count))
    '[' :: row ++ [']']

end Host

end BlockQuery.Http

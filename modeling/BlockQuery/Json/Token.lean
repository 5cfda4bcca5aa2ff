import BlockQuery.Json.Fault
import BlockQuery.Number.Numeral
import BlockQuery.Text.Octets

/-!
# Tokens of a JSON text

The first step of reading cuts a text into tokens. `Token.ofText` never fails: where the text cannot
be cut any further it ends with a `broken` token that says why.

**A text or number token may be well spelled and still have no value.** An escaped surrogate without
its partner, or a number beyond the greatest double, matters only to a reader who wants the value.
A reader who skips it does not look that closely. So a text token holds its characters *or* a
fault, and a number token holds a number or nothing. Likewise `Break.reading` and
`Break.skipping` tell the faults that the two readers see at the place where tokens end.
-/

namespace BlockQuery.Json

/-! ### Texts between quotes -/

/-- One step of a text: a character as it is or escaped, or an escaped 16-bit code. -/
inductive Piece where
  | char (c : Char)
  | code (n : Nat)
  deriving DecidableEq, Repr

/-- How the pieces of a text end. -/
inductive TextEnd where
  /-- With a quote. -/
  | closed (rest : List Char)
  /-- With the whole input. -/
  | ended
  /-- At a control character. -/
  | control
  /-- At a backslash and a character that cannot be escaped. -/
  | badEscape
  /-- At an escape that lacks its four digits. -/
  | badCode
  deriving DecidableEq, Repr

/-- The fault in how a text ends. -/
def TextEnd.fault? : TextEnd → Option Fault
  | closed _ => none
  | ended => some .endInText
  | control => some .controlCharacter
  | badEscape => some .invalidEscape
  | badCode => some .invalidEscape

/-- The pieces of a text behind its opening quote, and how they end. -/
structure TextScan where
  pieces : List Piece
  ending : TextEnd
  deriving DecidableEq, Repr

/-- One more piece in front. -/
def TextScan.cons (p : Piece) (s : TextScan) : TextScan :=
  { s with pieces := p :: s.pieces }

/-- The character that a backslash and another character stand for. -/
def unescape? : Char → Option Char
  | '"' => some '"'
  | '\\' => some '\\'
  | '/' => some '/'
  | 'b' => some '\x08'
  | 'f' => some '\x0c'
  | 'n' => some '\n'
  | 'r' => some '\r'
  | 't' => some '\t'
  | _ => none

/-- The value of four hexadecimal digits. -/
def hexCode? (a b c d : Char) : Option Nat := do
  let a ← Text.hexValue? a
  let b ← Text.hexValue? b
  let c ← Text.hexValue? c
  let d ← Text.hexValue? d
  return ((a * 16 + b) * 16 + c) * 16 + d

/-- Cuts the characters behind an opening quote into pieces. An escape needs four digits; if fewer
than four octets are left at all, the text has ended. -/
def scanText : List Char → TextScan
  | [] => ⟨[], .ended⟩
  | '"' :: cs => ⟨[], .closed cs⟩
  | ['\\'] => ⟨[], .ended⟩
  | '\\' :: 'u' :: a :: b :: c :: d :: cs =>
    match hexCode? a b c d with
    | some n => (scanText cs).cons (.code n)
    | none => ⟨[], .badCode⟩
  | '\\' :: 'u' :: cs => ⟨[], if Text.octets cs < 4 then .ended else .badCode⟩
  | '\\' :: e :: cs =>
    match unescape? e with
    | some c => (scanText cs).cons (.char c)
    | none => ⟨[], .badEscape⟩
  | c :: cs => if c.toNat < 0x20 then ⟨[], .control⟩ else (scanText cs).cons (.char c)

/-- Whether a code is the first half of a pair. -/
def isHighSurrogate (n : Nat) : Bool :=
  0xd800 ≤ n && n ≤ 0xdbff

/-- Whether a code is the second half of a pair. -/
def isLowSurrogate (n : Nat) : Bool :=
  0xdc00 ≤ n && n ≤ 0xdfff

/-- The character of a pair of surrogates. -/
def pairChar (high low : Nat) : Char :=
  Char.ofNat (0x10000 + (high - 0xd800) * 0x400 + (low - 0xdc00))

/-- The characters that the pieces of a text stand for. -/
def pieceChars (ending : TextEnd) : List Piece → Except Fault (List Char)
  | [] =>
    match ending.fault? with
    | some f => .error f
    | none => .ok []
  | .char c :: ps => (pieceChars ending ps).map (c :: ·)
  | .code n :: ps =>
    if isLowSurrogate n then .error .loneSurrogate
    else if isHighSurrogate n then
      match ps with
      | .code m :: ps =>
        if isLowSurrogate m then (pieceChars ending ps).map (pairChar n m :: ·)
        else .error .loneSurrogate
      | .char _ :: _ => .error .unfinishedSurrogate
      | [] =>
        match ending with
        | .ended => .error .endInText
        | .badCode => .error .invalidEscape
        | _ => .error .unfinishedSurrogate
    else (pieceChars ending ps).map (Char.ofNat n :: ·)

/-- What is wrong with a text that does not end with a quote, to one who reads it. -/
def TextScan.readingFault (s : TextScan) : Fault :=
  match pieceChars s.ending s.pieces with
  | .error f => f
  | .ok _ => s.ending.fault?.getD .endInText

/-! ### Numbers -/

/-- What a number's characters come to. -/
inductive NumeralScan where
  | numeral (n : Numeral) (rest : List Char)
  /-- Not a number; `cut` if only because the input ended. -/
  | malformed (cut : Bool)
  deriving DecidableEq, Repr

/-- Reads the exponent of a numeral, if there is one. -/
def scanExponent (n : Numeral) : List Char → NumeralScan
  | [] => .numeral n []
  | c :: cs =>
    if c = 'e' ∨ c = 'E' then
      let (minus, cs) := Numeral.splitSign cs
      let digits := cs.takeWhile Char.isDigit
      let size : Int := Numeral.ofDigits digits
      if digits.isEmpty then .malformed cs.isEmpty
      else
        .numeral { n with exponent := if minus then -size else size, isPlain := false }
          (cs.dropWhile Char.isDigit)
    else .numeral n (c :: cs)

/-- Reads the digits behind the point of a numeral and its exponent, if they are there. -/
def scanFraction (n : Numeral) : List Char → NumeralScan
  | '.' :: cs =>
    let digits := cs.takeWhile Char.isDigit
    if digits.isEmpty then .malformed cs.isEmpty
    else
      scanExponent { n with fraction := digits, isPlain := false } (cs.dropWhile Char.isDigit)
  | cs => scanExponent n cs

/-- Reads a numeral behind its sign. No zero stands in front of other digits. -/
def scanNumeral (negative : Bool) (cs : List Char) : NumeralScan :=
  let digits := cs.takeWhile Char.isDigit
  if digits.isEmpty then .malformed cs.isEmpty
  else if digits.head? = some '0' ∧ 1 < digits.length then .malformed false
  else scanFraction ⟨negative, digits, [], 0, true⟩ (cs.dropWhile Char.isDigit)

/-! ### Tokens -/

/-- Why reading cannot go on. -/
inductive Break where
  /-- The input ended where a value should stand. -/
  | endOfText
  /-- A character that no value starts with. -/
  | stray
  /-- A misspelt literal; `ofNull` if it starts like `null`, `cut` if only the end of the input cuts
  it short. -/
  | literal (ofNull cut : Bool)
  /-- A malformed number; `cut` if only because the input ended. -/
  | numeral (cut : Bool)
  /-- A text without its closing quote, and what is wrong with it to one who reads it and to one
  who skips it. -/
  | text (reading skipping : Fault)
  /-- A key without a colon; `cut` if only because the input ended. -/
  | noColon (cut : Bool)
  deriving DecidableEq, Repr

namespace Break

/-- The fault for one who wants the value. -/
def reading : Break → Fault
  | endOfText => .endInValue
  | stray => .expectedValue
  | literal _ cut => if cut then .endInValue else .expectedLiteral
  | numeral cut => if cut then .endInValue else .invalidNumber
  | text f _ => f
  | noColon cut => if cut then .endInObject else .expectedColon

/-- The fault for one who skips the value. -/
def skipping : Break → Fault
  | numeral _ => .invalidNumber
  | text _ f => f
  | b => b.reading

end Break

/-- A token. -/
inductive Token where
  | openList
  | closeList
  | openObject
  | closeObject
  | comma
  | colon
  | null
  | bool (b : Bool)
  /-- A well spelled number, and its value unless it is out of range. -/
  | number (n : Option Number)
  /-- A closed text, and what it says unless its surrogates do not fit. -/
  | text (t : Except Fault String)
  /-- No token can be made out. -/
  | broken (b : Break)

namespace Token

/-- Whether a character may stand between tokens. -/
def isSpace (c : Char) : Bool :=
  c = ' ' || c = '\n' || c = '\t' || c = '\r'

/-- Whether the token is `null`. -/
def isNull : Token → Bool
  | null => true
  | _ => false

/-- A literal of which the first character has been read. -/
def scanLiteral (token : Token) (word cs : List Char) : Token × List Char :=
  if word.isPrefixOf cs then (token, cs.drop word.length)
  else (.broken (.literal token.isNull (cs.isPrefixOf word)), [])

/-- A text of which the opening quote has been read. -/
def ofTextScan (s : TextScan) : Token × List Char :=
  match s.ending with
  | .closed rest => (.text ((pieceChars s.ending s.pieces).map String.ofList), rest)
  | ending => (.broken (.text s.readingFault (ending.fault?.getD .endInText)), [])

/-- A number. -/
def ofNumeralScan : NumeralScan → Token × List Char
  | .numeral n rest => (.number n.value?, rest)
  | .malformed cut => (.broken (.numeral cut), [])

/-- The token that starts with a character, and what follows it. -/
def scan (c : Char) (cs : List Char) : Token × List Char :=
  match c with
  | '[' => (openList, cs)
  | ']' => (closeList, cs)
  | '\x7b' => (openObject, cs)
  | '\x7d' => (closeObject, cs)
  | ',' => (comma, cs)
  | ':' => (colon, cs)
  | '"' => ofTextScan (scanText cs)
  | 'n' => scanLiteral null ['u', 'l', 'l'] cs
  | 't' => scanLiteral (bool true) ['r', 'u', 'e'] cs
  | 'f' => scanLiteral (bool false) ['a', 'l', 's', 'e'] cs
  | '-' => ofNumeralScan (scanNumeral true cs)
  | c => if c.isDigit then ofNumeralScan (scanNumeral false (c :: cs)) else (broken .stray, [])

/-! ### Every token takes at least one character -/

theorem length_rest_scanText {cs rest : List Char} (h : (scanText cs).ending = .closed rest) :
    rest.length ≤ cs.length := by
  fun_induction scanText cs <;> simp_all [TextScan.cons] <;> grind

theorem length_rest_scanExponent {n m : Numeral} {cs rest : List Char}
    (h : scanExponent n cs = .numeral m rest) : rest.length ≤ cs.length := by
  cases cs with
  | nil => simp_all [scanExponent]
  | cons c cs =>
    have sign := Numeral.length_splitSign_le cs
    have digits : (List.dropWhile Char.isDigit (Numeral.splitSign cs).2).length ≤ _ :=
      (List.dropWhile_sublist _).length_le
    simp only [scanExponent] at h
    split at h
    · split at h
      · simp at h
      · obtain ⟨-, rfl⟩ := NumeralScan.numeral.inj h
        rw [List.length_cons]
        omega
    · obtain ⟨-, rfl⟩ := NumeralScan.numeral.inj h
      exact Nat.le_refl _

theorem length_rest_scanFraction {n m : Numeral} {cs rest : List Char}
    (h : scanFraction n cs = .numeral m rest) : rest.length ≤ cs.length := by
  unfold scanFraction at h
  split at h
  · next cs =>
    have digits : (cs.dropWhile Char.isDigit).length ≤ cs.length :=
      (List.dropWhile_sublist _).length_le
    simp only at h
    split at h
    · simp at h
    · have := length_rest_scanExponent h
      rw [List.length_cons]
      omega
  · exact length_rest_scanExponent h

theorem length_rest_scanNumeral {negative : Bool} {cs rest : List Char} {n : Numeral}
    (h : scanNumeral negative cs = .numeral n rest) :
    rest.length ≤ (cs.dropWhile Char.isDigit).length ∧ cs.takeWhile Char.isDigit ≠ [] := by
  simp only [scanNumeral] at h
  split at h
  · simp at h
  · split at h
    · simp at h
    · exact ⟨length_rest_scanFraction h, by simp_all⟩

theorem length_rest_ofTextScan (cs : List Char) :
    (ofTextScan (scanText cs)).2.length ≤ cs.length := by
  unfold ofTextScan
  split
  · next h => exact length_rest_scanText h
  · simp

theorem length_rest_scanLiteral (t : Token) (word cs : List Char) :
    (scanLiteral t word cs).2.length ≤ cs.length := by
  unfold scanLiteral
  split <;> simp

theorem length_rest_scan (c : Char) (cs : List Char) : (scan c cs).2.length ≤ cs.length := by
  unfold scan
  split
  all_goals try first
    | exact Nat.le_refl _
    | exact length_rest_ofTextScan _
    | exact length_rest_scanLiteral _ _ _
  · cases h : scanNumeral true cs with
    | malformed => simp [ofNumeralScan]
    | numeral n rest =>
      exact Nat.le_trans (length_rest_scanNumeral h).1 (List.dropWhile_sublist _).length_le
  · split
    · next digit =>
      cases h : scanNumeral false (_ :: cs) with
      | malformed => simp [ofNumeralScan]
      | numeral n rest =>
        have taken := (length_rest_scanNumeral h).1
        rw [List.dropWhile_cons, if_pos digit] at taken
        exact Nat.le_trans taken (List.dropWhile_sublist _).length_le
    · simp

/-- The tokens of a text. -/
def ofChars (cs : List Char) : List Token :=
  match _spaces : cs.dropWhile isSpace with
  | [] => []
  | c :: behind =>
    match _scanned : scan c behind with
    | (.broken b, _) => [.broken b]
    | (token, rest) => token :: ofChars rest
termination_by cs.length
decreasing_by
  have outer : (cs.dropWhile isSpace).length ≤ cs.length :=
    (List.dropWhile_sublist _).length_le
  have inner := length_rest_scan c behind
  rw [_spaces, List.length_cons] at outer
  rw [_scanned] at inner
  exact Nat.lt_of_le_of_lt inner outer

/-- The tokens of a text. -/
def ofText (s : String) : List Token :=
  ofChars s.toList

end Token

end BlockQuery.Json

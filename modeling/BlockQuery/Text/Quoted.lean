import BlockQuery.Text.UnseenTable

/-!
# Quoted text in messages

`quoted` writes a text between double quotes so that every character of it can be told from a
message: quotes and backslashes get a backslash, tab, line feed, carriage return and the null
character their short escapes, and characters that are not seen on their own their code points in
hexadecimal.
-/

namespace BlockQuery.Text

/-- Lower-case hexadecimal digits of a number. -/
def hexDigits (n : Nat) : List Char :=
  Nat.toDigits 16 n

/-- The characters that stand for one character of a quoted text. -/
def quotedChar (c : Char) : List Char :=
  if c = '\x00' then ['\\', '0']
  else if c = '\t' then ['\\', 't']
  else if c = '\r' then ['\\', 'r']
  else if c = '\n' then ['\\', 'n']
  else if c = '"' || c = '\\' then ['\\', c]
  else if inRanges unseenRanges c then
    ['\\', 'u', '\x7b'] ++ hexDigits c.toNat ++ ['\x7d']
  else [c]

/-- The text as a message shows it. -/
def quoted (s : String) : String :=
  String.ofList ('"' :: s.toList.flatMap quotedChar ++ ['"'])

end BlockQuery.Text

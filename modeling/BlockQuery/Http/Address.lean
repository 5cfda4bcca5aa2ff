import BlockQuery.Http.Host

/-!
# Web addresses

An address that a request is sent to, in the form in which it is shown. The scheme is written in
lower case, and characters that may not stand in a part of an address are percent-encoded. An
address without a scheme is no address.

Three kinds of addresses are told apart by their schemes. Those of the **web** and its kin always
have a host; however many slashes stand in front of it, two are written, backslashes count as
slashes, and the usual socket is left out. Those of **files** may have a host, and their first step
may be the letter of a drive. **Other** ones have a host behind two slashes, a path behind one
slash, and else a text of their own.
-/

namespace BlockQuery.Http

/-- An address. -/
structure Address where
  scheme : List Char
  /-- The host, with its socket number if it is not the usual one, where there is a host. -/
  authority : Option (List Char)
  path : List Char
  /-- What follows a question mark. -/
  query : Option (List Char)
  /-- What follows a hash. -/
  fragment : Option (List Char)
  deriving DecidableEq, Repr

namespace Address

/-! ### Parts of a text -/

/-- What stands before the first of some characters, and what stands from there on. -/
def splitAt (stop : Char → Bool) (cs : List Char) : List Char × List Char :=
  (cs.takeWhile (!stop ·), cs.dropWhile (!stop ·))

/-- Whether a character may stand in a scheme behind its first letter. -/
def isSchemeChar (c : Char) : Bool :=
  c.isAlphanum || c = '+' || c = '-' || c = '.'

/-- The scheme of a text and what follows its colon. -/
def scheme? (cs : List Char) : Option (List Char × List Char) :=
  let (name, rest) := splitAt (!isSchemeChar ·) cs
  match name.head?, rest with
  | some c, ':' :: rest => if c.isAlpha then some (name.map Char.toLower, rest) else none
  | _, _ => none

/-- A part of an address with the characters escaped that may not stand in it: those in `extra`, and
all that cannot be printed in ASCII. -/
def escaped (extra cs : List Char) : List Char :=
  cs.flatMap fun c ↦
    if Host.isUnprintable c || extra.contains c then
      (String.utf8EncodeChar c).flatMap Text.Percent.escape
    else [c]

/-- The characters that are escaped in a fragment. -/
def fragmentEscapes : List Char :=
  [' ', '"', '<', '>', '\x60']

/-- The characters that are escaped in a query. -/
def queryEscapes : List Char :=
  [' ', '"', '#', '<', '>']

/-- The characters that are escaped in a path. -/
def pathEscapes : List Char :=
  fragmentEscapes ++ ['#', '?', '\x7b', '\x7d']

/-- The characters that are escaped in a name or password. -/
def credentialEscapes : List Char :=
  pathEscapes ++ ['/', ':', ';', '=', '@', '[', '\\', ']', '^', '|']

/-! ### Schemes -/

/-- What is special about the addresses of a scheme. -/
inductive Kind where
  /-- Addresses of the web and its kin, with the number of the usual socket. -/
  | web (socket : Nat)
  | file
  | other
  deriving DecidableEq, Repr

/-- The schemes of the web and its kin. -/
def webSchemes : List (String × Nat) :=
  [("http", 80), ("https", 443), ("ws", 80), ("wss", 443), ("ftp", 21)]

/-- The kind of a scheme. -/
def Kind.of (scheme : List Char) : Kind :=
  let scheme := String.ofList scheme
  if scheme = "file" then file
  else match webSchemes.lookup scheme with
    | some socket => web socket
    | none => other

/-- Whether a scheme is one that requests can be sent by. -/
def isWeb (scheme : List Char) : Bool :=
  scheme = ['h', 't', 't', 'p'] || scheme = ['h', 't', 't', 'p', 's']

/-! ### Paths -/

/-- Whether a character separates the steps of a path. -/
def Kind.isSlash (kind : Kind) (c : Char) : Bool :=
  c = '/' || (c = '\\' && kind ≠ other)

/-- The steps of a path between slashes. -/
def Kind.steps (kind : Kind) (cs : List Char) : List (List Char) :=
  cs.splitOnP kind.isSlash

/-- Whether a step stays where it is. -/
def isHere (s : List Char) : Bool :=
  s = ['.'] || s.map Char.toLower = ['%', '2', 'e']

/-- Whether a step goes one up. -/
def isUp (s : List Char) : Bool :=
  let s := s.map Char.toLower
  s = ['.', '.'] || s = ['.', '%', '2', 'e'] || s = ['%', '2', 'e', '.'] ||
    s = ['%', '2', 'e', '%', '2', 'e']

/-- Whether a step is the letter of a drive. -/
def isDrive : List Char → Bool
  | [c, mark] => c.isAlpha && (mark = ':' || mark = '|')
  | _ => false

/-- The steps behind a step up; what was taken is listed last first. A drive is not left. -/
def goUp : List (List Char) → List (List Char)
  | [] => []
  | s :: taken => if isDrive s then s :: taken else taken

/-- A step as it is taken. The drive of a file is written with a colon. -/
def Kind.taken (kind : Kind) (isFirst : Bool) (s : List Char) : List Char :=
  if kind = file && isFirst && isDrive s then s.take 1 ++ [':'] else s

/-- The steps left when those that stay or go up have been taken; `taken` is last first. -/
def Kind.walk (kind : Kind) (taken : List (List Char)) : List (List Char) → List (List Char)
  | [] => taken.reverse
  | s :: ss =>
    let taken :=
      if isUp s then goUp taken
      else if isHere s then taken
      else kind.taken taken.isEmpty s :: taken
    if ss.isEmpty && (isUp s || isHere s) then ([] :: taken).reverse else kind.walk taken ss

/-- A text without the slash at its start. -/
def Kind.behindSlash (kind : Kind) : List Char → List Char
  | [] => []
  | c :: cs => if kind.isSlash c then cs else c :: cs

/-- The steps of a path, taken. -/
def Kind.pathSteps (kind : Kind) (cs : List Char) : List (List Char) :=
  kind.walk [] (kind.steps (kind.behindSlash cs))

/-- Steps with slashes in front of them, escaped. -/
def writtenSteps (steps : List (List Char)) : List Char :=
  steps.flatMap fun s ↦ '/' :: escaped pathEscapes s

/-! ### Authorities -/

/-- What stands before the last at sign, if there is one, and what stands behind it. -/
def splitCredentials (cs : List Char) : Option (List Char) × List Char :=
  let host := (cs.reverse.takeWhile (· ≠ '@')).reverse
  if host.length = cs.length then (none, cs)
  else (some (cs.take (cs.length - host.length - 1)), host)

/-- What is shown of a name and password. They are sent in a header instead, unless what they stand
for is no text. -/
def shownCredentials (cs : List Char) : List Char :=
  let (name, rest) := splitAt (· = ':') cs
  let password := rest.drop 1
  let isReadable (part : List Char) : Bool := (Text.Percent.looseText? part).isSome
  let isHidden := isReadable name && (!name.isEmpty || isReadable password)
  if isHidden then []
  else
    escaped credentialEscapes name ++
      (if password.isEmpty then [] else ':' :: escaped credentialEscapes password) ++ ['@']

/-- A host, brackets and all, and what follows it. -/
def splitHost (inBrackets : Bool) : List Char → List Char × List Char
  | [] => ([], [])
  | c :: cs =>
    if c = ':' && !inBrackets then ([], c :: cs)
    else
      let (host, rest) := splitHost (c = '[' || (inBrackets && c ≠ ']')) cs
      (c :: host, rest)

/-- What is written of a socket number, and what follows it. -/
def socket? (usual : Option Nat) : List Char → Option (List Char × List Char)
  | ':' :: cs =>
    let digits := cs.takeWhile Char.isDigit
    let rest := cs.dropWhile Char.isDigit
    let n := Nat.ofDigitChars 10 digits 0
    if 65535 < n || !rest.head?.all (· = '\\') then none
    else if digits.isEmpty || usual = some n then some ([], rest)
    else some (':' :: Nat.toDigits 10 n, rest)
  | cs => some ([], cs)

/-- The authority in an address of the web. -/
def webAuthority? (usual : Nat) (cs : List Char) : Option (List Char) := do
  let (credentials, cs) := splitCredentials cs
  let (host, rest) := splitHost false cs
  let host ← Host.web? host
  let (socket, _) ← socket? (some usual) rest
  return (credentials.map shownCredentials).getD [] ++ host.text ++ socket

/-- Whether nothing is said by a name and password. -/
def isBlankCredentials (cs : List Char) : Bool :=
  cs = [':']

/-- The authority in another address, and what follows it. It may be empty if it is nothing but a
host. -/
def otherAuthority? (cs : List Char) : Option (List Char × List Char) := do
  let (credentials, cs) := splitCredentials cs
  let (host, rest) := splitHost false cs
  if host.isEmpty then
    if rest.isEmpty && credentials.all isBlankCredentials then return ([], []) else none
  else
    let host ← Host.other? host
    let (socket, rest) ← socket? none rest
    return ((credentials.map shownCredentials).getD [] ++ host.text ++ socket, rest)

/-! ### Whole addresses -/

/-- What stands between the scheme and the query: the authority, if there is one, and the path. -/
abbrev Place := Option (List Char) × List Char

/-- The place in an address of the web. -/
def webPlace? (usual : Nat) (cs : List Char) : Option Place := do
  let kind := Kind.web usual
  let (authority, path) := splitAt kind.isSlash (cs.dropWhile kind.isSlash)
  return (some (← webAuthority? usual authority), writtenSteps (kind.pathSteps path))

/-- The host of a file; the machine itself needs no name. -/
def fileHost? (cs : List Char) : Option (List Char) :=
  if cs.isEmpty then some []
  else (Host.web? cs).map fun host ↦ if host.text = "localhost".toList then [] else host.text

/-- The place of a file. The slashes at the start of the path are written as one, and where there is
a drive there is no host. -/
def filePlace? (cs : List Char) : Option Place := do
  let kind := Kind.file
  let (host, path) ← match cs with
    | c :: d :: rest =>
      if kind.isSlash c && kind.isSlash d then
        let (host, path) := splitAt kind.isSlash rest
        if isDrive host then pure ([], rest) else pure (← fileHost? host, path)
      else pure ([], cs)
    | _ => pure ([], cs)
  let steps := kind.pathSteps path
  return (some (if steps.head?.any isDrive then [] else host),
    '/' :: (writtenSteps steps).dropWhile (· = '/'))

/-- The place in another address. -/
def otherPlace? (cs : List Char) : Option Place :=
  match cs with
  | '/' :: '/' :: rest => do
    let (authority, path) := splitAt (· = '/') rest
    let (authority, before) ← otherAuthority? authority
    let path := before ++ path
    return (some authority,
      if path.isEmpty then [] else writtenSteps (Kind.other.pathSteps path))
  | '/' :: path => some (none, writtenSteps (Kind.other.pathSteps path))
  | _ => some (none, escaped [] cs)

/-- The text without control characters and spaces around it, and without tabs and line ends in
it. -/
def cleaned (cs : List Char) : List Char :=
  let outer (c : Char) : Bool := c.toNat ≤ 0x20
  let inner := ((cs.dropWhile outer).reverse.dropWhile outer).reverse
  inner.filter fun c ↦ c ≠ '\t' && c ≠ '\n' && c ≠ '\r'

/-- The address that a text denotes. -/
def parse? (s : String) : Option Address := do
  let (scheme, rest) ← scheme? (cleaned s.toList)
  let (beforeHash, hash) := splitAt (· = '#') rest
  let (beforeMark, mark) := splitAt (· = '?') beforeHash
  let kind := Kind.of scheme
  let (authority, path) ← match kind with
    | .web usual => webPlace? usual beforeMark
    | .file => filePlace? beforeMark
    | .other => otherPlace? beforeMark
  let escapes := queryEscapes ++ if kind = .other then [] else ['\'']
  let query := if mark.isEmpty then none else some (escaped escapes mark.tail)
  let fragment := if hash.isEmpty then none else some (escaped fragmentEscapes hash.tail)
  return ⟨scheme, authority, path, query, fragment⟩

/-- The address with further fields in its query. -/
def withFields (a : Address) (fields : List (String × String)) : Address :=
  let more := (Text.Percent.encodeFields fields).toList
  { a with
    query := some <| match a.query with
      | none => more
      | some [] => more
      | some q => q ++ '&' :: more }

/-- Whether the address names a host. -/
def hasHost (a : Address) : Bool :=
  a.authority.any (!·.isEmpty)

/-- The text of an address. A path that starts with two slashes is kept from looking like a host. -/
def text (a : Address) : String :=
  let host := match a.authority with
    | none => if ['/', '/'].isPrefixOf a.path then ['/', '.'] else []
    | some host => '/' :: '/' :: host
  let query := match a.query with
    | none => []
    | some q => '?' :: q
  let fragment := match a.fragment with
    | none => []
    | some f => '#' :: f
  String.ofList (a.scheme ++ ':' :: host ++ a.path ++ query ++ fragment)

/-- How many octets the text of an address may have that a request is sent to. -/
def maxSize : Nat :=
  65534

/-- Whether a request can be sent to the address. Not every name that may be typed can be sent. -/
def isSendable (a : Address) : Bool :=
  isWeb a.scheme && a.text.utf8ByteSize ≤ maxSize &&
    !(a.authority.getD []).any ['"', '\x60', '\x7b', '\x7d'].contains

end Address

end BlockQuery.Http

import BlockQuery.CommandLine.Help
import BlockQuery.Number.Spelling
import BlockQuery.Search.Link

/-!
# Commands

The three things that can be asked for on the command line: the query of some blocks, the blocks of
some free text, and the tweets that a query finds. `Command.parse` understands the arguments; what
is not given comes from variables or has a default.
-/

namespace BlockQuery

open CommandLine

/-- What is asked for. -/
inductive Command where
  /-- The query of blocks, and where its results are. -/
  | compile (file : Option String) (mode : SearchMode) (base : String)
  /-- The blocks of free text. -/
  | interpret (text : String)
  /-- The tweets that a query finds. -/
  | search (query mode : String) (limit : Nat)
  deriving DecidableEq, Repr

namespace Command

/-! ### Options -/

/-- The value is taken as it is. -/
def anyValue (_ : String) : Option Complaint :=
  none

/-- The value is a path, which is not empty. -/
def pathValue (s : String) : Option Complaint :=
  if s.isEmpty then some .empty else none

/-- The value is a search mode. -/
def modeValue (s : String) : Option Complaint :=
  if (SearchMode.ofName? s).isSome then none
  else some (.unfit (SearchMode.unknownMessage s))

/-- Reads digits as an integer of 64 bits, one by one, behind what has been read. -/
def readDigits (negative : Bool) (n : Nat) : List Char → Except String Int
  | [] => .ok (if negative then -n else n)
  | c :: cs =>
    if !c.isDigit then .error "invalid digit found in string"
    else
      let n := 10 * n + (c.toNat - '0'.toNat)
      if negative then
        if n ≤ Nat.pow 2 63 then readDigits negative n cs
        else .error "number too small to fit in target type"
      else if n < Nat.pow 2 63 then readDigits negative n cs
      else .error "number too large to fit in target type"

/-- Reads an integer of 64 bits. -/
def readInteger (cs : List Char) : Except String Int :=
  match cs with
  | [] => .error "cannot parse integer from empty string"
  | ['+'] => .error "invalid digit found in string"
  | ['-'] => .error "invalid digit found in string"
  | cs =>
    let (negative, digits) := Numeral.splitSign cs
    readDigits negative 0 digits

/-- The greatest limit that can be typed. -/
def maxTypedLimit : Int :=
  4294967295

/-- Reads a limit. -/
def readLimit (s : String) : Except String Nat := do
  let i ← readInteger s.toList
  if 0 ≤ i ∧ i ≤ maxTypedLimit then return i.toNat
  else .error s!"{i} is not in 0..={maxTypedLimit}"

/-- The value is a limit. -/
def limitValue (s : String) : Option Complaint :=
  match readLimit s with
  | .ok _ => none
  | .error reason => some (.unfit reason)

/-! ### Forms -/

/-- What stands in front of the subcommand. -/
def mainForm : Form where
  name := ""
  about := "Compile search blocks into a query string"
  options := [⟨"log-level", "LOG_LEVEL", "Log level (trace, debug, info, warn, error)",
    some "LOG_LEVEL", some "info", anyValue⟩]
  offersHelp := true
  operands := []
  subcommands := ["compile", "translate", "search", "help"]

/-- The arguments of `compile`. -/
def compileForm : Form where
  name := "compile"
  about := "Compile blocks from a JSON file (or stdin) into a query"
  options := [
    ⟨"file", "FILE",
      "\x60\x7b\"blocks\": [...]\x7d\x60 or a bare array of \x60\x7btype, value\x7d\x60 objects",
      none, none, pathValue⟩,
    ⟨"mode", "MODE", "Result ordering for the search URL (latest, top)", none, some "latest",
      modeValue⟩,
    ⟨"base-url", "BASE_URL", "Search front-end base URL", some "SEARCH_BASE_URL",
      some defaultFrontEnd, anyValue⟩]
  offersHelp := true
  operands := []
  subcommands := []

/-- The arguments of the command that interprets free text. -/
def interpretForm : Form where
  name := "translate"
  about := "Convert a natural-language request into blocks and a query"
  options := []
  offersHelp := true
  operands := [⟨"<TEXT>", ""⟩]
  subcommands := []

/-- The limit of a search that asks for none. -/
def usualLimit : Nat :=
  5

/-- The arguments of `search`. -/
def searchForm : Form where
  name := "search"
  about := "Fetch and analyze tweets for a compiled query"
  options := [⟨"section", "SECTION", "", none, some "latest", anyValue⟩,
    ⟨"limit", "LIMIT", "", none, some (toString usualLimit), limitValue⟩]
  offersHelp := true
  operands := [⟨"<QUERY>", ""⟩]
  subcommands := []

/-- The arguments of `help`. -/
def helpForm : Form where
  name := "help"
  about := "Print this message or the help of the given subcommand(s)"
  options := []
  offersHelp := false
  operands := [⟨"[COMMAND]...", "Print help for the subcommand(s)"⟩]
  subcommands := []

/-- All forms. -/
def forms : List Form :=
  [mainForm, compileForm, interpretForm, searchForm, helpForm]

/-- The help page of the form with a name. -/
def helpPage (lookup : String → Option String) (name : String) : String :=
  ((forms.find? (·.name == name)).getD mainForm).helpPage lookup forms

/-! ### Understanding arguments -/

/-- All arguments of a subcommand. -/
def gather (f : Form) (args : List String) : Except UsageFault Progress := do
  let (p, _) ← f.scan .start args
  if p.operands.length < f.operands.length then .error .missingOperand
  return p

/-- Asking for help on topics. No subcommand has subcommands of its own. -/
def helpOn : List String → UsageFault
  | [] => .help mainForm.name
  | topic :: more =>
    if mainForm.subcommands.contains topic then
      match more with
      | [] => .help topic
      | next :: _ => .unknownSubcommand next
    else .unknownSubcommand topic

/-- The command named by a subcommand. -/
def ofSubcommand (lookup : String → Option String) (name : String) (args : List String) :
    Except UsageFault Command :=
  match name with
  | "compile" => do
    let p ← gather compileForm args
    let mode := ((p.value? "mode").bind SearchMode.ofName?).getD .latest
    let base := ((p.value? "base-url").or (lookup "SEARCH_BASE_URL")).getD defaultFrontEnd
    return .compile (p.value? "file") mode base
  | "translate" => do
    let p ← gather interpretForm args
    return .interpret (p.operands.headD "")
  | "search" => do
    let p ← gather searchForm args
    let limit := ((p.value? "limit").bind fun s ↦ (readLimit s).toOption).getD usualLimit
    return .search (p.operands.headD "") ((p.value? "section").getD "latest") limit
  | _ => .error (helpOn args)

/-- The command that arguments ask for. Help is all there is to give when neither an argument nor a
variable says anything. -/
def parse (lookup : String → Option String) (args : List String) : Except UsageFault Command := do
  let (p, subcommand) ← mainForm.scan .start args
  match subcommand with
  | some (name, rest) => do
    let command ← ofSubcommand lookup name rest
    let _ ← p.settle
    return command
  | none =>
    .error (if p.settled.isEmpty && (lookup "LOG_LEVEL").isNone then .nothingAsked
      else .missingSubcommand)

end Command

end BlockQuery

import BlockQuery.CommandLine.Command
import BlockQuery.Http.Clients
import BlockQuery.Text.Terminal

/-!
# Running commands

What a command prints, and with which status it ends. Everything a command may depend on is in its
`World`: variables, files, the day, and the network. Only where reading stops in a text that is
refused is told beside it, by `places`.
-/

namespace BlockQuery

/-- Why a file cannot be read. -/
inductive FileFault where
  | missing
  | forbidden
  /-- A step of the path leads through a file. -/
  | notFolder
  | folder
  | longName
  deriving DecidableEq, Repr

/-- The wording of a fault, with the number that the system has for it. -/
def FileFault.message : FileFault → String
  | missing => "No such file or directory (os error 2)"
  | forbidden => "Permission denied (os error 13)"
  | notFolder => "Not a directory (os error 20)"
  | folder => "Is a directory (os error 21)"
  | longName => "File name too long (os error 36)"

/-- What commands depend on. -/
structure World where
  /-- The variables. -/
  lookup : String → Option String
  /-- What comes on the standard input. -/
  input : String
  /-- The content of a file, or why it cannot be read. -/
  fileText : (path : String) → Except String String
  today : Day
  timestamp : String
  ids : IdSupply
  network : Http.Transport

/-- What comes of a command. -/
structure CommandOutcome where
  code : Nat
  /-- What is printed, each text on a line of its own. -/
  printed : List String
  error : Option String
  deriving DecidableEq, Repr

namespace CommandOutcome

/-- The command was done. -/
def success (printed : List String) : CommandOutcome :=
  ⟨0, printed, none⟩

/-- The command failed. -/
def failure (problem : String) : CommandOutcome :=
  ⟨1, [], some s!"Error: {problem}\n"⟩

/-- A problem with what caused it. The lines of the cause are indented. -/
def caused (problem cause : String) : String :=
  let indented := String.intercalate "\n    " (cause.splitOn "\n")
  s!"{problem}\n\nCaused by:\n    {indented}"

/-- The arguments were not understood, or help was asked for. Of a message only the first line
counts. -/
def misuse (lookup : String → Option String) (f : CommandLine.UsageFault) : CommandOutcome :=
  let printed := match f with
    | .help form => [Text.shown (Command.helpPage lookup form)]
    | _ => []
  ⟨f.code, printed, f.message?.map fun m ↦
    String.ofList ((Text.shown ("error: " ++ m ++ "\n")).toList.takeWhile (· ≠ '\n'))⟩

/-- The outcome of something that may fail. -/
def ofExcept : Except String (List String) → CommandOutcome
  | .ok printed => success printed
  | .error problem => failure problem

end CommandOutcome

namespace Command

variable (w : World)

/-- The proposals in a file or on the standard input. -/
def readProposals (file : Option String) (places : Json.Places := Json.Places.unknown) :
    Except String (List Proposal) := do
  let payload ← match file with
    | none => .ok w.input
    | some path => (w.fileText path).mapError fun cause ↦
        CommandOutcome.caused s!"reading {path}" cause
  (Proposal.ofText payload).mapError fun f ↦
    CommandOutcome.caused "expected \x7b\"blocks\": [...]\x7d or an array of blocks"
      (f.messageAt (places payload))

/-- Prints a query and the address of its results. -/
def compiled (file : Option String) (mode : SearchMode) (base : String)
    (places : Json.Places := Json.Places.unknown) : Except String (List String) := do
  let ps ← readProposals w file places
  let query := Registry.builtin.compile (Registry.builtin.intake w.ids w.today ps)
  if query.isEmpty then .error "blocks compile to an empty query"
  return query :: (searchLink? base query mode).toList

/-- The settings in the variables. -/
def settings : Except String Settings :=
  (Settings.ofLookup w.lookup).mapError SettingsFault.message

/-- Prints the blocks of free text. -/
def interpreted (text : String) (places : Json.Places := Json.Places.unknown) :
    Except String (List String) := do
  let s ← settings w
  let request : InterpretationRequest := ⟨some (.text text)⟩
  match (request.answer (Http.services w.network s places) w.ids w.today w.timestamp).result with
  | .ok answer => return [answer.toJson.pretty]
  | .error f => .error f.publicMessage

/-- A failed search in words. -/
def searchProblem (s : Settings) (query : String) (f : Failure) : String :=
  let body := SearchRequest.failureBody s.development query f
  body.error ++ (body.detail.map (": " ++ ·)).getD ""

/-- Prints the tweets that a query finds. -/
def searched (query mode : String) (limit : Nat) (places : Json.Places := Json.Places.unknown) :
    Except String (List String) := do
  let s ← settings w
  let request : SearchRequest := ⟨some (.text query), some mode, some (.ofNat limit)⟩
  match (request.answer (Http.services w.network s places)).result with
  | .ok answer => return [answer.toJson.pretty]
  | .error f => .error (searchProblem s query f)

/-- Does a command. -/
def run (command : Command) (places : Json.Places := Json.Places.unknown) : CommandOutcome :=
  match command with
  | compile file mode base => .ofExcept (compiled w file mode base places)
  | interpret text => .ofExcept (interpreted w text places)
  | search query mode limit => .ofExcept (searched w query mode limit places)

/-- Does what arguments ask for. -/
def runArguments (args : List String) (places : Json.Places := Json.Places.unknown) :
    CommandOutcome :=
  match parse w.lookup args with
  | .ok command => run w command places
  | .error f => .misuse w.lookup f

end Command

end BlockQuery

/-!
# Arguments of a command line

Arguments come as options with a value, `--mode top` or `--mode=top`, as operands, and as the name
of a subcommand, which takes all arguments behind it. Two hyphens on their own end the options.

`Form.scan` reads arguments from left to right. **An option is settled only when the next one
starts, when an operand comes, when help is asked for, or at the end;** only then is it asked
whether its value is there, whether the option has been given before, and whether the value will do.
So a mistake in an option may be overtaken by an argument behind it that nobody expects, or by a
mistake in the arguments of a subcommand.
-/

namespace BlockQuery.CommandLine

/-- What may be wrong with an option's value. -/
inductive Complaint where
  /-- An empty value is no value. -/
  | empty
  /-- The value will not do. -/
  | unfit (reason : String)
  deriving DecidableEq, Repr

/-- An option that takes a value. -/
structure ValueOption where
  name : String
  placeholder : String
  /-- What the option is for, in the words of its help. -/
  about : String
  /-- The variable that stands in for the option. -/
  environment : Option String
  /-- The value that is taken if none is given. -/
  usual : Option String
  complaint? : String → Option Complaint

/-- The option as messages show it. -/
def ValueOption.shown (o : ValueOption) : String :=
  s!"--{o.name} <{o.placeholder}>"

/-- An operand. -/
structure Operand where
  /-- The operand as its help shows it. -/
  shown : String
  about : String
  deriving DecidableEq, Repr

/-- The options, operands and subcommands that are expected. -/
structure Form where
  /-- The name of the subcommand, which is empty for the program itself. -/
  name : String
  about : String
  options : List ValueOption
  /-- Whether help can be asked for by an option. -/
  offersHelp : Bool
  operands : List Operand
  subcommands : List String

/-- Why arguments are not understood. -/
inductive UsageFault where
  | unexpected (argument : String)
  | unknownSubcommand (name : String)
  | missingSubcommand
  | missingOperand
  | missingValue (option : String)
  /-- A value for an option that takes none. -/
  | surplusValue (value option : String)
  | repeated (option : String)
  | unfitValue (value option reason : String)
  /-- Help on a form was asked for. -/
  | help (form : String)
  /-- There is nothing but help to give. -/
  | nothingAsked
  deriving DecidableEq, Repr

/-- The name of the program. -/
def programName : String :=
  "search-blocks"

namespace UsageFault

/-- The wording of a fault; help has none. -/
def message? : UsageFault → Option String
  | unexpected argument => some s!"unexpected argument '{argument}' found"
  | unknownSubcommand name => some s!"unrecognized subcommand '{name}'"
  | missingSubcommand =>
    some s!"'{programName}' requires a subcommand but one was not provided"
  | missingOperand => some "the following required arguments were not provided:"
  | missingValue option => some s!"a value is required for '{option}' but none was supplied"
  | surplusValue value option =>
    some s!"unexpected value '{value}' for '{option}' found; no more were expected"
  | repeated option => some s!"the argument '{option}' cannot be used multiple times"
  | unfitValue value option reason => some s!"invalid value '{value}' for '{option}': {reason}"
  | help _ => none
  | nothingAsked => none

/-- The status to end with. -/
def code : UsageFault → Nat
  | help _ => 0
  | _ => 2

end UsageFault

/-- What has been understood so far. -/
structure Progress where
  /-- The options that are settled. -/
  settled : List (String × String)
  /-- The last option, with its value once that has come. -/
  open? : Option (ValueOption × Option String)
  operands : List String
  /-- Whether the options have ended. -/
  literal : Bool

namespace Progress

/-- Nothing yet. -/
def start : Progress :=
  ⟨[], none, [], false⟩

/-- Whether the last option still waits for its value. -/
def awaits (p : Progress) : Bool :=
  match p.open? with
  | some (_, none) => true
  | _ => false

/-- Settles the last option. -/
def settle (p : Progress) : Except UsageFault Progress :=
  match p.open? with
  | none => .ok p
  | some (o, none) => .error (.missingValue o.shown)
  | some (o, some value) =>
    if p.settled.any (·.1 == o.name) then .error (.repeated o.shown)
    else match o.complaint? value with
      | some .empty => .error (.missingValue o.shown)
      | some (.unfit reason) => .error (.unfitValue value o.shown reason)
      | none => .ok { p with settled := p.settled ++ [(o.name, value)], open? := none }

/-- The value of an option. -/
def value? (p : Progress) (name : String) : Option String :=
  p.settled.lookup name

end Progress

/-- An argument by the look of it. -/
inductive Shape where
  /-- Two hyphens on their own. -/
  | endOfOptions
  /-- Two hyphens and a name, perhaps with a value behind an equals sign. -/
  | long (name : String) (value : Option String)
  /-- One hyphen and more. -/
  | short (c : Char)
  | plain
  deriving DecidableEq, Repr

/-- The look of an argument. -/
def Shape.of (argument : String) : Shape :=
  match argument.toList with
  | ['-', '-'] => endOfOptions
  | '-' :: '-' :: cs =>
    let name := String.ofList (cs.takeWhile (· ≠ '='))
    match cs.dropWhile (· ≠ '=') with
    | [] => long name none
    | _ :: value => long name (some (String.ofList value))
  | '-' :: c :: _ => short c
  | _ => plain

namespace Form

/-- One more operand, if it is expected. -/
def takeOperand (f : Form) (p : Progress) (a : String) : Except UsageFault Progress :=
  if p.operands.length < f.operands.length then do
    let p ← p.settle
    return { p with operands := p.operands ++ [a] }
  else if f.subcommands.isEmpty || (p.literal && f.subcommands.contains a) then
    .error (.unexpected a)
  else .error (.unknownSubcommand a)

/-- Help was asked for, perhaps with a value, which help does not take. -/
def takeHelp (f : Form) (p : Progress) (value : Option String) : Except UsageFault Progress :=
  match value with
  | some value => .error (.surplusValue value "--help")
  | none => do
    let _ ← p.settle
    .error (.help f.name)

/-- One more long option, if it is expected. -/
def takeLong (f : Form) (p : Progress) (name : String) (value : Option String) :
    Except UsageFault Progress :=
  if name = "help" then f.takeHelp p value
  else match f.options.find? (·.name == name) with
    | none => .error (.unexpected ("--" ++ name))
    | some o => do
      let p ← p.settle
      let p := { p with open? := some (o, value) }
      if value.isSome then p.settle else return p

/-- Reads arguments up to the end or up to a subcommand, and gives back the arguments of that. In
front of a subcommand the last option is left unsettled. -/
def scan (f : Form) (p : Progress) :
    List String → Except UsageFault (Progress × Option (String × List String))
  | [] => return (← p.settle, none)
  | a :: rest =>
    if p.literal then do f.scan (← f.takeOperand p a) rest
    -- the value of an option may look like a subcommand
    else if !p.awaits && f.subcommands.contains a then return (p, some (a, rest))
    else match Shape.of a with
      | .endOfOptions => f.scan { p with literal := true } rest
      | .long name value => do f.scan (← f.takeLong p name value) rest
      | .short c => do
        let p ← if c = 'h' then f.takeHelp p none
          else .error (.unexpected (String.ofList ['-', c]))
        f.scan p rest
      | .plain =>
        match p.open? with
        | some (o, none) => f.scan { p with open? := some (o, some a) } rest
        | _ => do f.scan (← f.takeOperand p a) rest

end Form

end BlockQuery.CommandLine

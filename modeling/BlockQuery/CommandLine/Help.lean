import BlockQuery.CommandLine.Usage

/-!
# Help pages

The page that explains a form: what it is about, how it is called, and a table for each kind of
thing that may be given. The right-hand columns of a table stand below each other, also in the lines
that a text is continued on.

The page says what the variables hold that stand in for options.
-/

namespace BlockQuery.CommandLine

/-- A row of a table. -/
structure HelpRow where
  label : String
  text : String
  deriving DecidableEq, Repr

/-- The text with line ends where it asks for them. -/
def withLineEnds (s : String) : String :=
  String.intercalate "\n" (s.splitOn "\x7bn\x7d")

/-- The rows of a table with two columns. -/
def tableText (rows : List HelpRow) : String :=
  let width := rows.foldl (fun n row ↦ max n row.label.length) 0
  let blanks (n : Nat) : String := String.ofList (List.replicate n ' ')
  let rowText (row : HelpRow) : String :=
    let text := String.intercalate ("\n" ++ blanks (width + 4)) (row.text.splitOn "\n")
    "  " ++ row.label ++ blanks (width - row.label.length) ++ "  " ++ text
  String.intercalate "\n" (rows.map rowText)

/-- The option with what it is for, the variable that stands in for it, and its usual value. -/
def ValueOption.helpRow (lookup : String → Option String) (o : ValueOption) : HelpRow :=
  let environment := o.environment.map fun name ↦
    let value := (lookup name).getD ""
    s!"[env: {name}={value}]"
  let usual := o.usual.map fun value ↦ s!"[default: {value}]"
  let about := if o.about.isEmpty then none else some o.about
  let text := String.intercalate " " ([about, environment, usual].filterMap id)
  -- a short name could stand in front, for which there is room
  ⟨"    " ++ o.shown, withLineEnds text⟩

namespace Form

/-- How a form is called. -/
def usage (f : Form) : String :=
  let words := [programName] ++ (if f.name.isEmpty then [] else [f.name]) ++
    (if f.options.isEmpty then [] else ["[OPTIONS]"]) ++ f.operands.map Operand.shown ++
    (if f.subcommands.isEmpty then [] else ["<COMMAND>"])
  String.intercalate " " words

/-- The help page of a form, where `all` are the forms of the subcommands. -/
def helpPage (lookup : String → Option String) (all : List Form) (f : Form) : String :=
  let commands := f.subcommands.filterMap fun name ↦
    (all.find? (·.name == name)).map fun g ↦ HelpRow.mk name g.about
  let operands := f.operands.map fun o ↦ HelpRow.mk o.shown o.about
  let options := f.options.map (·.helpRow lookup) ++
    if f.offersHelp then [⟨"-h, --help", "Print help"⟩] else []
  let table (title : String) (rows : List HelpRow) : String :=
    if rows.isEmpty then "" else s!"\n\n{title}:\n{tableText rows}"
  f.about ++ "\n\nUsage: " ++ f.usage ++ table "Commands" commands ++
    table "Arguments" operands ++ table "Options" options

end Form

end BlockQuery.CommandLine

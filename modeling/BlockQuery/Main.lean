import BlockQuery.CommandLine.Run
import Std.Time.Format
import Std.Time.Zoned

/-!
# The command line program

Collects what commands depend on, does the command, and prints what comes of it. There is no network
here, so services are never reached.
-/

namespace BlockQuery

/-- The variables that commands look up. -/
def variableNames : List String :=
  ["LOG_LEVEL", "SEARCH_BASE_URL", "OPENAI_API_KEY", "OPENAI_BASE_URL", "OPENAI_MODEL",
    "RAPIDAPI_KEY", "RAPIDAPI_HOST", "REQUEST_TIMEOUT_SECS", "NODE_ENV"]

/-- The variables that are set. -/
def readVariables : IO (List (String × String)) := do
  let found ← variableNames.mapM fun name ↦ do
    return (← IO.getEnv name).map fun value ↦ (name, value)
  return found.filterMap id

/-- Today, or the first day of the calendar if the clock is off it. -/
def readToday : IO Day := do
  let d ← Std.Time.PlainDate.now
  let fallback : Day := ⟨Calendar.firstYear, 1, 1, by decide⟩
  return (Day.of? d.year d.month.toNat d.day.toNat).getD fallback

/-- The time, to the millisecond. -/
def readTimestamp : IO String := do
  let now := Std.Time.DateTime.ofTimestamp (← Std.Time.Timestamp.now) .UTC
  return now.format "uuuu-MM-dd'T'HH:mm:ss.SSS'Z'"

/-- The number that the system has for a fault. -/
def systemCode : IO.Error → Nat
  | .noFileOrDirectory _ code _ => code.toNat
  | .permissionDenied _ code _ => code.toNat
  | .inappropriateType _ code _ => code.toNat
  | .invalidArgument _ code _ => code.toNat
  | _ => 0

/-- Why a file cannot be read. -/
def causeText (e : IO.Error) : String :=
  match systemCode e with
  | 2 => FileFault.missing.message
  | 13 => FileFault.forbidden.message
  | 20 => FileFault.notFolder.message
  | 21 => FileFault.folder.message
  | 36 => FileFault.longName.message
  | _ => toString e

/-- The content of the file that a command reads. -/
def readNamedFile (path : String) : IO (Except String String) := do
  try
    return .ok (← IO.FS.readFile path)
  catch e =>
    return .error (causeText e)

/-- The path of the file that a command reads. -/
def Command.file? : Except CommandLine.UsageFault Command → Option String
  | .ok (.compile file _ _) => file
  | _ => none

/-- Whether a command reads the standard input. -/
def Command.readsInput : Except CommandLine.UsageFault Command → Bool
  | .ok (.compile none _ _) => true
  | _ => false

end BlockQuery

open BlockQuery in
/-- Runs the command line program. -/
def main (args : List String) : IO UInt32 := do
  let found ← readVariables
  let lookup (name : String) : Option String := found.lookup name
  let command := Command.parse lookup args
  let content ← match Command.file? command with
    | some path => readNamedFile path
    | none => pure (.error "")
  let input ← if Command.readsInput command then (← IO.getStdin).readToEnd else pure ""
  let world : World :=
    { lookup, input, fileText := fun _ ↦ content, today := ← readToday
      timestamp := ← readTimestamp, ids := fun i ↦ ⟨.ofNat 128 i⟩, network := Http.unreachable }
  let outcome := Command.runArguments world args
  outcome.printed.forM IO.println
  match outcome.error with
  | some problem => if problem.endsWith "\n" then IO.eprint problem else IO.eprintln problem
  | none => if outcome.code ≠ 0 then IO.eprintln (Command.helpPage lookup "")
  return .ofNat outcome.code

import BlockQuery.Number.Spelling
import BlockQuery.Search.Link

/-!
# Settings of the services

Settings come from named variables. Two keys must be given; the rest has defaults. A variable that
is blank counts as not given, with two exceptions: the timeout, which must be a number as soon as it
is given at all, and the environment's name, which is compared as it is.
-/

namespace BlockQuery

/-- Where the services are and how to speak to them. -/
structure Settings where
  chatKey : String
  chatBase : String
  chatModel : String
  tweetKey : String
  tweetHost : String
  frontEnd : String
  /-- How long to wait for an answer, in seconds. -/
  timeout : Nat
  /-- Whether callers are told the details of failures. -/
  development : Bool
  deriving DecidableEq, Repr

/-- Why there are no settings. -/
inductive SettingsFault where
  | missing (name : String)
  | invalid (name value : String)
  deriving DecidableEq, Repr

/-- The wording of a fault. -/
def SettingsFault.message : SettingsFault → String
  | missing name => s!"{name} is not set"
  | invalid name value => s!"Invalid value for {name}: '{value}'"

namespace Settings

variable (lookup : String → Option String)

/-- A variable that is given and not blank. -/
def given? (name : String) : Option String :=
  (lookup name).filter (!Text.allBlank ·)

/-- A variable that must be given. -/
def required (name : String) : Except SettingsFault String :=
  match given? lookup name with
  | some value => .ok value
  | none => .error (.missing name)

/-- The timeout if none is given. -/
def defaultTimeout : Nat :=
  30

/-- The timeout, a number of seconds below `2 ^ 64`. -/
def readTimeout : Except SettingsFault Nat :=
  match lookup "REQUEST_TIMEOUT_SECS" with
  | none => .ok defaultTimeout
  | some value =>
    match (typedNat? (Text.trim value.toList)).filter (· < Nat.pow 2 64) with
    | some seconds => .ok seconds
    | none => .error (.invalid "REQUEST_TIMEOUT_SECS" value)

/-- The settings that variables make. -/
def ofLookup : Except SettingsFault Settings := do
  let timeout ← readTimeout lookup
  let chatKey ← required lookup "OPENAI_API_KEY"
  let tweetKey ← required lookup "RAPIDAPI_KEY"
  return {
    chatKey
    chatBase := (given? lookup "OPENAI_BASE_URL").getD "https://api.openai.com/v1"
    chatModel := (given? lookup "OPENAI_MODEL").getD "gpt-4-turbo-preview"
    tweetKey
    tweetHost := (given? lookup "RAPIDAPI_HOST").getD "twitter154.p.rapidapi.com"
    frontEnd := (given? lookup "SEARCH_BASE_URL").getD defaultFrontEnd
    timeout
    development := lookup "NODE_ENV" == some "development" }

end Settings

end BlockQuery

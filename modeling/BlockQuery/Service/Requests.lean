import BlockQuery.Intake
import BlockQuery.Service.Failure
import BlockQuery.Wire.Blocks
import BlockQuery.Wire.Searches

/-!
# Answering requests

Two requests are answered with the help of three services: a search for tweets together with their
analysis, and the interpretation of free text as blocks.

The services are given as functions, so what an answer depends on can be seen from its arguments.
The outcome of a request lists the calls that were made, in order, beside the answer or the failure.

**A failed analysis never fails a search;** it is replaced by `Analysis.unavailable`. Tweets or
blocks that cannot be had do fail the request, and the failure holds the message of the service's
own failure.
-/

namespace BlockQuery

/-- The services that requests are answered with. -/
structure Services where
  fetch : TweetQuery → Except Failure (List Tweet)
  analyze : (query : String) → List Tweet → Except Failure Analysis
  interpret : (text : String) → Except Failure (List Proposal)

/-- A call of a service. -/
inductive ServiceCall where
  | fetch (q : TweetQuery)
  | analyze (query : String) (tweets : List Tweet)
  | interpret (text : String)
  deriving DecidableEq, Repr

/-- The calls that were made for a request, and what came of it. -/
structure RequestOutcome (α : Type) where
  calls : List ServiceCall
  result : Except Failure α

/-- The query of a request, which must be a text that is not blank. -/
def requestedQuery? : Option Json → Option String
  | some (.text s) => if Text.allBlank s then none else some s
  | _ => none

/-! ### Searches -/

/-- Tweets and their analysis. -/
structure SearchAnswer where
  query : String
  tweets : List Tweet
  analysis : Analysis
  deriving DecidableEq, Repr

namespace SearchAnswer

/-- The members of an answer. -/
def toJson (a : SearchAnswer) : Json :=
  .object
    [("originalQuery", .text a.query),
      ("results", .object [("results", .list (a.tweets.map Tweet.toJson))]),
      ("analysis", a.analysis.toJson)]

end SearchAnswer

namespace SearchRequest

/-- The order of results that a request asks for, newest first unless stated. -/
def requestedMode (r : SearchRequest) : Except Failure SearchMode :=
  match r.mode with
  | none => .ok .latest
  | some given =>
    match SearchMode.ofName? given with
    | some mode => .ok mode
    | none => .error (.invalidMode given)

/-- What the search service is asked for, unless the request is wrong. -/
def toQuery (r : SearchRequest) : Except Failure TweetQuery :=
  match requestedQuery? r.query with
  | none => .error .invalidQuery
  | some query => r.requestedMode.map fun mode ↦ ⟨query, mode, clampLimit r.limit⟩

/-- The analysis of tweets that were found, and the calls made for it. -/
def analysisOf (s : Services) (query : String) (tweets : List Tweet) :
    List ServiceCall × Analysis :=
  if tweets.isEmpty then ([], .empty)
  else
    ([.analyze query tweets],
      match s.analyze query tweets with
      | .ok a => a
      | .error _ => .unavailable)

/-- Answers a request for a search. -/
def answer (s : Services) (r : SearchRequest) : RequestOutcome SearchAnswer :=
  match r.toQuery with
  | .error f => ⟨[], .error f⟩
  | .ok q =>
    match s.fetch q with
    | .error f => ⟨[.fetch q], .error (.fetch f.message)⟩
    | .ok tweets =>
      let (calls, analysis) := analysisOf s q.query tweets
      ⟨.fetch q :: calls, .ok ⟨q.query, tweets, analysis⟩⟩

/-- The body of a failed search: with the query, unless the request was wrong. -/
def failureBody (development : Bool) (query : String) (f : Failure) : FailureBody :=
  let body := f.body development
  if f.isValidation then body else body.withQuery query

end SearchRequest

/-! ### Interpretations -/

/-- Blocks made from free text, and their query. -/
structure InterpretationAnswer where
  text : String
  blocks : List Proposal
  query : String
  /-- When the answer was given. -/
  timestamp : String
  deriving DecidableEq, Repr

namespace InterpretationAnswer

/-- The members of an answer. -/
def toJson (a : InterpretationAnswer) : Json :=
  .object
    [("received", .bool true), ("query", .text a.text),
      ("blocks", .list (a.blocks.map Proposal.toJson)), ("generatedQuery", .text a.query),
      ("timestamp", .text a.timestamp)]

end InterpretationAnswer

namespace InterpretationRequest

/-- Answers a request for blocks on a day. What the interpreter proposes is taken in as any
proposals are. -/
def answer (s : Services) (ids : IdSupply) (today : Day) (timestamp : String)
    (r : InterpretationRequest) : RequestOutcome InterpretationAnswer :=
  match requestedQuery? r.query with
  | none => ⟨[], .error .invalidQuery⟩
  | some text =>
    match s.interpret text with
    | .error f => ⟨[.interpret text], .error (.interpretation f.message)⟩
    | .ok ps =>
      let blocks := Registry.builtin.intake ids today ps
      ⟨[.interpret text],
        .ok ⟨text, blocks.map Block.toProposal, Registry.builtin.compile blocks, timestamp⟩⟩

end InterpretationRequest

end BlockQuery

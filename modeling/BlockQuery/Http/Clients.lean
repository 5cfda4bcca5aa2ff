import BlockQuery.Http.Exchange
import BlockQuery.Service.Catalog
import BlockQuery.Service.Requests
import BlockQuery.Service.Settings

/-!
# Clients of the web services

How the three services are spoken to: a search service for tweets, and a chat model that analyses
tweets and interprets free text. Every call is at most one request, which the functions named
`…Request` build; what its response comes to is said beside them. The chat model answers with JSON
in a text, and `places` tells where reading stops in one that is refused.
-/

namespace BlockQuery.Http

/-! ### Tweets -/

/-- Where the search service listens. -/
def tweetBase (s : Settings) : String :=
  s!"https://{s.tweetHost}"

/-- The address that searches are sent to. -/
def tweetUrl (base : String) : String :=
  withoutSlashes base ++ "/search/search"

/-- The request for a search. -/
def tweetRequest (s : Settings) (base : String) (q : TweetQuery) : Except Failure Request :=
  build "GET" (tweetUrl base)
    [("query", q.query), ("section", q.mode.name), ("limit", toString q.limit)]
    [("x-rapidapi-key", s.tweetKey), ("x-rapidapi-host", s.tweetHost)] none

/-- Searches for tweets. -/
def fetchTweets (t : Transport) (s : Settings) (base : String) (q : TweetQuery) :
    Except Failure (List Tweet) := do
  let request ← tweetRequest s base q
  let response ← t request
  response.read Tweet.answerReader (tweetUrl base)

/-! ### Chats -/

/-- How long an answer of the chat model may be. -/
def interpretationTokens : Nat :=
  500

/-- How long an analysis may be. -/
def analysisTokens : Nat :=
  1000

/-- One fifth, the temperature of the chat model. -/
def temperature : Json :=
  .number (.double ((Double.ofQuotient false 1 5).getD (.zero false)))

/-- One message of a chat. -/
def chatMessage (role content : String) : Json :=
  .object [("role", .text role), ("content", .text content)]

/-- The address that chats are sent to. -/
def chatUrl (s : Settings) : String :=
  withoutSlashes s.chatBase ++ "/chat/completions"

/-- The request for an answer of the chat model in JSON. -/
def chatRequest (s : Settings) (system user : String) (tokens : Nat) : Except Failure Request :=
  build "POST" (chatUrl s) []
    [("authorization", s!"Bearer {s.chatKey}"), ("content-type", "application/json")]
    (some (.object
      [("model", .text s.chatModel),
        ("messages", .list [chatMessage "system" system, chatMessage "user" user]),
        ("temperature", temperature), ("max_tokens", .ofNat tokens),
        ("response_format", .object [("type", .text "json_object")])]))

/-- Reads the contents of the choices that the chat model offers. -/
def choicesReader : Json.Reader (List (Option String)) :=
  let message : Json.Reader (Option String) :=
    (Json.Record.nullable "content" Json.Reader.text).read "ChoiceMessage"
  let choice : Json.Reader (Option String) :=
    (Json.Record.required "message" message).read "Choice"
  (Json.Record.required "choices" (.listOf choice)).read "ChatResponse"

/-- Asks the chat model. Its answer is the content of the first choice. -/
def chat (t : Transport) (s : Settings) (system user : String) (tokens : Nat) :
    Except Failure String := do
  let request ← chatRequest s system user tokens
  let response ← t request
  let choices ← response.read choicesReader (chatUrl s)
  match choices.head?.join with
  | some content => return content
  | none => .error (.malformed "completion has no content")

/-- Asks for an analysis. There is nothing to ask about no tweets. -/
def analyzeTweets (t : Transport) (s : Settings) (query : String) (tweets : List Tweet)
    (places : Json.Places := Json.Places.unknown) : Except Failure Analysis :=
  if tweets.isEmpty then .ok .empty
  else do
    let content ← (chat t s Analysis.systemPrompt (Analysis.prompt query tweets)
      analysisTokens).mapError fun f ↦ .analysis f.message
    (Analysis.reader.run content).mapError (.ofFault · (places content))

/-- Asks for an interpretation. -/
def interpretText (t : Transport) (s : Settings) (text : String)
    (places : Json.Places := Json.Places.unknown) : Except Failure (List Proposal) := do
  let content ← chat t s Registry.builtin.interpreterPrompt text interpretationTokens
  (Proposal.ofReply content).mapError (.ofFault · (places content))

/-- The services behind a transport. -/
def services (t : Transport) (s : Settings) (places : Json.Places := Json.Places.unknown) :
    Services where
  fetch := fetchTweets t s (tweetBase s)
  analyze query tweets := analyzeTweets t s query tweets places
  interpret text := interpretText t s text places

end BlockQuery.Http

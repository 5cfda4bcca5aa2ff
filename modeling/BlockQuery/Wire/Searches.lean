import BlockQuery.Json.Record
import BlockQuery.Search.Analysis
import BlockQuery.Search.Limit

/-!
# Searches in data exchange

The JSON forms of tweets and analyses, of what a search service and an analyst answer, and of the
requests that ask for a search or for blocks.
-/

namespace BlockQuery

open Json

/-- Reads a search mode by its name. -/
def SearchMode.reader : Reader SearchMode :=
  .oneOf all name

/-! ### Tweets -/

namespace Tweet

/-- The members of a tweet. -/
def toJson (t : Tweet) : Json :=
  .object
    [("id", .text t.id), ("user_name", .text t.userName),
      ("user_screen_name", .text t.screenName), ("text", .text t.text),
      ("created_at", .text t.createdAt), ("retweet_count", .ofNat t.retweets),
      ("favorite_count", .ofNat t.favorites), ("reply_count", .ofNat t.replies),
      ("user_profile_image_url", (t.picture.map .text).getD .null)]

/-- The fields of a tweet. -/
def record : Record Tweet :=
  Tweet.mk <$> .required "id" Reader.text <*> .required "user_name" Reader.text <*>
    .required "user_screen_name" Reader.text <*> .required "text" Reader.text <*>
    .required "created_at" Reader.text <*> .required "retweet_count" Reader.count <*>
    .required "favorite_count" Reader.count <*> .required "reply_count" Reader.count <*>
    .nullable "user_profile_image_url" Reader.text

/-- Reads a tweet. -/
def reader : Reader Tweet :=
  record.read "Tweet"

end Tweet

/-- The fields of what a search service says of an author. -/
def UserRecord.record : Record UserRecord :=
  UserRecord.mk <$> .maybe "name" Reader.text <*> .maybe "username" Reader.text <*>
    .maybe "profile_pic_url" Reader.text

/-- Reads what a search service says of an author. -/
def UserRecord.reader : Reader UserRecord :=
  record.read "UpstreamUser"

/-- The fields of what a search service says of a tweet. -/
def TweetRecord.record : Record TweetRecord :=
  TweetRecord.mk <$> .optional "tweet_id" Reader.lenientText "" <*>
    .maybe "user" UserRecord.reader <*> .maybe "text" Reader.text <*>
    .maybe "creation_date" Reader.text <*> .maybe "retweet_count" Reader.count <*>
    .maybe "favorite_count" Reader.count <*> .maybe "reply_count" Reader.count

/-- Reads what a search service says of a tweet. -/
def TweetRecord.reader : Reader TweetRecord :=
  record.read "UpstreamTweet"

/-- Reads the tweets of a search service's answer. An answer without results has none. -/
def Tweet.answerReader : Reader (List Tweet) := fun depth n ↦ do
  let records ← (Record.maybe "results" (.listOf TweetRecord.reader)).read "UpstreamSearch" depth n
  return (records.getD []).map TweetRecord.tweet

/-! ### Analyses -/

namespace Analysis

/-- The members of an analysis. -/
def toJson (a : Analysis) : Json :=
  .object <|
    [("summary", .text a.summary), ("topics", .list (a.topics.map .text)),
      ("sentiment", .text a.sentiment), ("insights", .list (a.insights.map .text))] ++
    optionalMember "relatedQuestions" (a.relatedQuestions.map fun qs ↦ .list (qs.map .text))

/-- The sentiment that a value states. Of a list it is the first item; an empty first item states
none. -/
def sentimentOf : Json → String
  | .text s => s
  | .list (.text s :: _) => if s.isEmpty then neutral else s
  | _ => neutral

/-- Reads a sentiment. -/
def sentimentReader : Reader String := fun depth n ↦
  (Reader.anything depth n).map sentimentOf

/-- The fields of an analysis. -/
def record : Record Analysis :=
  Analysis.mk <$> .optional "summary" Reader.text "" <*>
    .optional "topics" (.listOf Reader.text) [] <*>
    .optional "sentiment" sentimentReader neutral <*>
    .optional "insights" (.listOf Reader.text) [] <*>
    .maybe "relatedQuestions" (.listOf Reader.text)

/-- Reads an analysis. -/
def reader : Reader Analysis :=
  record.read "Analysis"

end Analysis

/-! ### Requests -/

/-- A request for tweets and their analysis, as it comes in. -/
structure SearchRequest where
  query : Option Json
  mode : Option String
  limit : Option Json

/-- Reads a request for a search. -/
def SearchRequest.reader : Reader SearchRequest :=
  (SearchRequest.mk <$> .maybe "query" Reader.anything <*> .maybe "section" Reader.text <*>
    .maybe "limit" Reader.anything : Record SearchRequest).read "AiSearchRequest"

/-- A request for blocks, as it comes in. -/
structure InterpretationRequest where
  query : Option Json

/-- Reads a request for blocks. -/
def InterpretationRequest.reader : Reader InterpretationRequest :=
  (InterpretationRequest.mk <$> .maybe "query" Reader.anything : Record InterpretationRequest).read
    "NaturalLanguageRequest"

end BlockQuery

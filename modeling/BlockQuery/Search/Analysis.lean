import BlockQuery.Search.Tweet

/-!
# Analyses of tweets

What an analyst says of the tweets that a search has found, and what the analyst is asked. An
analysis is an extra: there is one to put in its place when nothing was found and one for when the
analyst fails.
-/

namespace BlockQuery

/-- An analysis of tweets. -/
structure Analysis where
  summary : String
  topics : List String
  /-- A single word. -/
  sentiment : String
  insights : List String
  relatedQuestions : Option (List String)
  deriving DecidableEq, Repr

namespace Analysis

/-- The sentiment if none is stated. -/
def neutral : String :=
  "neutral"

/-- The analysis of no tweets. -/
def empty : Analysis where
  summary := "No tweets found to analyze."
  topics := []
  sentiment := neutral
  insights := ["No data available for analysis"]
  relatedQuestions := some []

/-- The analysis in place of one that could not be had. -/
def unavailable : Analysis where
  summary := "An error occurred during analysis."
  topics := []
  sentiment := "unknown"
  insights := ["Analysis service temporarily unavailable"]
  relatedQuestions := some []

/-- What the analyst is told beforehand. -/
def systemPrompt : String :=
  "You analyze search results from a social network. " ++
  "Answer with a single JSON object with the keys: " ++
  "\"summary\" (string, two or three sentences), " ++
  "\"topics\" (array of short strings), " ++
  "\"sentiment\" (one of \"positive\", \"negative\", \"neutral\", \"mixed\"), " ++
  "\"insights\" (array of strings), " ++
  "\"relatedQuestions\" (array of follow-up questions a researcher might ask)."

/-- A tweet as the analyst sees it. -/
def promptLine (t : Tweet) : String :=
  s!"Tweet by {t.userName} (@{t.screenName}): \"{t.text}\""

/-- What the analyst is asked. -/
def prompt (query : String) (tweets : List Tweet) : String :=
  let lines := String.intercalate "\n\n" (tweets.map promptLine)
  s!"Search query: {query}\n\nTweets:\n{lines}\n\nAnalyze these tweets."

end Analysis

end BlockQuery

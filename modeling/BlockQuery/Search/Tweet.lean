import BlockQuery.Search.Mode

/-!
# Tweets

What a search finds, and the request that finds it. A `Tweet` is complete: a search service may
leave out nearly everything, and `TweetRecord.tweet` says what stands in for what is missing.
-/

namespace BlockQuery

/-- What a search service is asked for. -/
structure TweetQuery where
  query : String
  mode : SearchMode
  limit : Nat
  deriving DecidableEq, Repr

/-- A tweet. -/
structure Tweet where
  id : String
  userName : String
  screenName : String
  text : String
  createdAt : String
  retweets : Nat
  favorites : Nat
  replies : Nat
  picture : Option String
  deriving DecidableEq, Repr

/-- What a search service says of the author of a tweet. -/
structure UserRecord where
  name : Option String
  screenName : Option String
  picture : Option String
  deriving DecidableEq, Repr

/-- What a search service says of a tweet. -/
structure TweetRecord where
  id : String
  user : Option UserRecord
  text : Option String
  createdAt : Option String
  retweets : Option Nat
  favorites : Option Nat
  replies : Option Nat
  deriving DecidableEq, Repr

/-- The tweet of a record. An author without a name is called `Unknown`, texts that are missing are
empty, and counts that are missing are zero. -/
def TweetRecord.tweet (r : TweetRecord) : Tweet where
  id := r.id
  userName := (r.user.bind UserRecord.name).getD "Unknown"
  screenName := (r.user.bind UserRecord.screenName).getD "unknown"
  text := r.text.getD ""
  createdAt := r.createdAt.getD ""
  retweets := r.retweets.getD 0
  favorites := r.favorites.getD 0
  replies := r.replies.getD 0
  picture := r.user.bind UserRecord.picture

end BlockQuery

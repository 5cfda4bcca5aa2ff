import BlockQuery.Registry.Basic

/-!
# The built-in kinds

The twenty-one kinds that every editor starts from, in palette order.
-/

namespace BlockQuery

/-- The types that come before all others in a query. -/
def keywordTypes : List String :=
  ["all-words", "exact-phrase", "or", "none-words", "hashtags"]

/-- Whether blocks of a type come before those of the others in a query. -/
def isKeywordType (type : String) : Bool :=
  keywordTypes.contains type

/-- The built-in kinds. -/
def builtinKinds : List Kind :=
  let accounts := "Enter space-separated usernames"
  [(Kind.named "all-words" "All of these words" .keyword true).withHint
      "Enter space-separated words",
    (Kind.named "exact-phrase" "Exact Phrase" .keyword true).withHint "Enter exact phrase",
    (Kind.named "or" "Any of these words (OR)" .keyword true).withHint
      "Enter space-separated words/phrases",
    (Kind.named "none-words" "None of these words" .keyword true).withHint
      "Enter space-separated words to exclude",
    (Kind.named "hashtags" "These Hashtags" .keyword true).withHint
      "Enter space-separated hashtags (without #)",
    (Kind.named "from" "From these Accounts" .user true).withHint accounts,
    (Kind.named "to" "To these Accounts" .user true).withHint accounts,
    (Kind.named "mention" "Mentioning these Accounts" .user true).withHint accounts,
    (Kind.named "list" "List" .user true).withHint "username/listname",
    Kind.named "filter-media" "Has Media" .media false,
    Kind.named "filter-images" "Has Images" .media false,
    Kind.named "filter-video" "Has Videos" .media false,
    Kind.named "filter-links" "Has Links" .media false,
    (Kind.named "url" "URL Contains" .media true).withHint "URL text",
    ((Kind.named "since" "Since Date" .date true).withHint "YYYY-MM-DD").withInput .date,
    ((Kind.named "until" "Until Date" .date true).withHint "YYYY-MM-DD").withInput .date,
    ((Kind.named "min-retweets" "Min Retweets" .engagement true).withHint "Number").withInput
      .number,
    ((Kind.named "min-faves" "Min Likes" .engagement true).withHint "Number").withInput .number,
    ((Kind.named "min-replies" "Min Replies" .engagement true).withHint "Number").withInput
      .number,
    Kind.named "no-retweets" "No Retweets" .engagement false,
    Kind.named "question" "Is Question" .engagement false]

theorem firstFault?_builtinKinds : Registry.firstFault? [] builtinKinds = none := by
  decide +kernel

/-- The built-in registry. -/
def Registry.builtin : Registry :=
  have sound := sound_of_firstFault?_eq_none firstFault?_builtinKinds .nil .nil
  ⟨builtinKinds, sound.1, sound.2.1, sound.2.2.1, sound.2.2.2.1, sound.2.2.2.2⟩

end BlockQuery

import BlockQuery.Text.Blank

/-!
# Fragments

A fragment is what one block contributes to a query. The search engine's grammar has seven shapes
of fragment, and `ruleOf?` says which shape each type of block takes. Six of them are built from
the block's value and yield nothing when the value is blank; a `fixed` fragment ignores the value.

Types without a rule contribute nothing.
-/

namespace BlockQuery

/-! ### Building fragments from a value -/

namespace Fragment

/-- The trimmed value behind a mark. -/
def tagged (mark value : String) : Option String :=
  (Text.nonBlank? value).map (mark ++ ·)

/-- The given terms, if there is at least one, put together. -/
def ofTerms (join : List String → String) (ts : List String) : Option String :=
  if ts.isEmpty then none else some (join ts)

/-- Every term behind a mark, with single spaces between them. -/
def eachTerm (mark value : String) : Option String :=
  ofTerms (fun ts ↦ String.intercalate " " (ts.map (mark ++ ·))) (Text.terms value)

/-- Terms as alternatives in parentheses. -/
def oneOf (ts : List String) : String :=
  "(" ++ String.intercalate " OR " ts ++ ")"

/-- Every term behind a mark, as alternatives in parentheses, even if there is only one. -/
def anyTerm (mark value : String) : Option String :=
  ofTerms (fun ts ↦ oneOf (ts.map (mark ++ ·))) (Text.terms value)

/-- A single term as it is, several as alternatives in parentheses. -/
def alternatives (value : String) : Option String :=
  match Text.terms value with
  | [] => none
  | [t] => some t
  | ts => some (oneOf ts)

end Fragment

/-! ### Rules -/

/-- The shape of a fragment. -/
inductive Rule where
  /-- The trimmed value. -/
  | verbatim
  /-- The trimmed value between double quotes. -/
  | phrase
  /-- The terms as alternatives. -/
  | alternatives
  /-- Every term behind a mark. -/
  | eachTerm (mark : String)
  /-- Every term behind a mark, as alternatives in parentheses. -/
  | anyTerm (mark : String)
  /-- The trimmed value behind a mark. -/
  | tagged (mark : String)
  /-- The same text whatever the value. -/
  | fixed (text : String)
  deriving DecidableEq, Repr

namespace Rule

/-- The fragment of a value. -/
def fragment? : Rule → String → Option String
  | verbatim, value => Text.nonBlank? value
  | phrase, value => (Text.nonBlank? value).map fun v ↦ s!"\"{v}\""
  | alternatives, value => Fragment.alternatives value
  | eachTerm mark, value => Fragment.eachTerm mark value
  | anyTerm mark, value => Fragment.anyTerm mark value
  | tagged mark, value => Fragment.tagged mark value
  | fixed text, _ => some text

end Rule

/-- The rule of each type of block that has one. -/
def rules : List (String × Rule) :=
  [("all-words", .verbatim),
    ("exact-phrase", .phrase),
    ("or", .alternatives),
    ("none-words", .eachTerm "-"),
    ("hashtags", .eachTerm "#"),
    ("from", .anyTerm "from:"),
    ("to", .anyTerm "to:"),
    ("mention", .anyTerm "@"),
    ("list", .tagged "list:"),
    ("filter-media", .fixed "filter:media"),
    ("filter-images", .fixed "filter:images"),
    ("filter-video", .fixed "filter:native_video"),
    ("filter-links", .fixed "filter:links"),
    ("url", .tagged "url:"),
    ("since", .tagged "since:"),
    ("until", .tagged "until:"),
    ("min-retweets", .tagged "min_retweets:"),
    ("min-faves", .tagged "min_faves:"),
    ("min-replies", .tagged "min_replies:"),
    ("no-retweets", .fixed "-filter:retweets"),
    ("question", .fixed "?")]

/-- The rule of a type. -/
def ruleOf? (type : String) : Option Rule :=
  rules.lookup type

/-- The fragment of a block, given by its type and its two values. No rule reads the second. -/
def fragment? (type value : String) (_second : Option String) : Option String :=
  (ruleOf? type).bind (·.fragment? value)

end BlockQuery

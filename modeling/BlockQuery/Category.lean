import BlockQuery.Text.Blank
import BlockQuery.Text.Lower

/-!
# Block categories

Every kind of block belongs to one of five categories. A category groups blocks in an editor's
palette; it has no say in how a query is written.
-/

namespace BlockQuery

/-- What a block constrains. -/
inductive Category where
  /-- Words, phrases and hashtags. -/
  | keyword
  /-- Authors, recipients, mentions and lists. -/
  | user
  /-- Media, links and addresses. -/
  | media
  /-- Ranges of days. -/
  | date
  /-- Thresholds of engagement and the shape of a post. -/
  | engagement
  deriving DecidableEq, Repr

namespace Category

/-- All categories, in palette order. -/
def all : List Category :=
  [keyword, user, media, date, engagement]

theorem mem_all (c : Category) : c ∈ all := by
  cases c <;> simp [all]

/-- The name used in data exchange. -/
def name : Category → String
  | keyword => "keyword"
  | user => "user"
  | media => "media"
  | date => "date"
  | engagement => "engagement"

/-- The heading above the category's blocks. -/
def title : Category → String
  | keyword => "Keywords & Phrases"
  | user => "User-Related"
  | media => "Media & Links"
  | date => "Date Ranges"
  | engagement => "Engagement & Sentiment"

/-- The colour an editor tints the category's blocks with. -/
def accent : Category → String
  | keyword => "blue"
  | user => "green"
  | media => "purple"
  | date => "orange"
  | engagement => "red"

/-- The category with exactly this name. -/
def ofName? (s : String) : Option Category :=
  all.find? (·.name == s)

/-- The category a text names, blanks around it and the case of ASCII letters aside. -/
def read? (s : String) : Option Category :=
  ofName? (Text.asciiLower (Text.trimmed s))

/-- What is said of a text that names no category. -/
def unknownMessage (s : String) : String :=
  s!"Unknown block category: {s}"

end Category

end BlockQuery

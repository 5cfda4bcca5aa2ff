/-!
# Search modes

A search lists its results newest first or ranked.
-/

namespace BlockQuery

/-- The order of search results. -/
inductive SearchMode where
  /-- Newest first. -/
  | latest
  /-- Ranked by relevance. -/
  | top
  deriving DecidableEq, Repr

namespace SearchMode

/-- All modes. -/
def all : List SearchMode :=
  [latest, top]

/-- The name used in data exchange and on the command line. -/
def name : SearchMode → String
  | latest => "latest"
  | top => "top"

/-- The mode with exactly this name. -/
def ofName? (s : String) : Option SearchMode :=
  all.find? (·.name == s)

theorem ofName?_name (m : SearchMode) : ofName? m.name = some m := by
  cases m <;> decide

/-- What is said of a text that names no mode. -/
def unknownMessage (s : String) : String :=
  s!"Unknown search mode: '{s}'"

end SearchMode

end BlockQuery

import BlockQuery.Search.Mode
import BlockQuery.Text.Blank
import BlockQuery.Text.Percent

/-!
# Search links

The address at which people see the results of a query. There is none for a blank query.
-/

namespace BlockQuery

/-- The front end that searches are sent to. -/
def defaultFrontEnd : String :=
  "https://x.com"

/-- A base address without the slashes at its end. -/
def withoutSlashes (base : String) : String :=
  String.ofList (base.toList.reverse.dropWhile (· = '/')).reverse

/-- What a link says of its mode. -/
def SearchMode.linkSuffix : SearchMode → String
  | latest => "&f=live"
  | top => ""

/-- The address of a query's results. -/
def searchLink? (base query : String) (mode : SearchMode) : Option String :=
  if Text.allBlank query then none
  else
    some (withoutSlashes base ++ "/search?q=" ++ Text.Percent.encodeComponent query ++
      "&src=typed_query" ++ mode.linkSuffix)

end BlockQuery

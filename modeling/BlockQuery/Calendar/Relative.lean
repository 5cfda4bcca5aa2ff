import BlockQuery.Calendar.Day
import BlockQuery.Text.Blank
import BlockQuery.Text.Lower

/-!
# Relative days

The value of a block that bounds a range of days may be the word `today` or `yesterday`. Such a
value is settled against a calendar day when it comes in. Values of other types are left alone, and
so is `yesterday` on the first day of the calendar.
-/

namespace BlockQuery

/-- The types of blocks that bound a range of days. -/
def dateTypes : List String :=
  ["since", "until"]

/-- The day that a word names, blanks around it and the case of letters aside. -/
def relativeDay? (value : String) (today : Day) : Option Day :=
  let word := Text.asciiLower (Text.trimmed value)
  if word = "today" then some today
  else if word = "yesterday" then today.previous?
  else none

/-- The value that replaces the value of a block, if it is to be replaced. -/
def settled? (type value : String) (today : Day) : Option String :=
  if dateTypes.contains type then (relativeDay? value today).map Day.text else none

end BlockQuery

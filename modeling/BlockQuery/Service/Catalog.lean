import BlockQuery.Json.Value
import BlockQuery.Registry.Builtin

/-!
# The catalogue shown to an interpreter

An interpreter turns free text into proposals. It is told which blocks there are by a JSON object
with one member per category; members, and the members of their entries, are sorted by their keys.
-/

namespace BlockQuery

/-- What an interpreter is told about a kind. -/
def Kind.catalogEntry (k : Kind) : Json :=
  .object
    [("label", .text k.label), ("requiresValue", .bool k.needsValue), ("type", .text k.type)]

namespace Registry

/-- The kinds of every category. -/
def catalog (r : Registry) : Json :=
  .object <| Category.all.foldl
    (fun members c ↦
      Json.setMember c.name (.list ((r.inCategory c).map Kind.catalogEntry)) members) []

/-- What an interpreter is told beforehand. -/
def interpreterPrompt (r : Registry) : String :=
  String.intercalate "\n"
    ["You are a Twitter search query builder. Your task is to convert natural language queries " ++
        "into structured search blocks.",
      "",
      "Available blocks and their formats:",
      r.catalog.pretty,
      "",
      "Return a JSON object with a \"blocks\" array, where each block contains:",
      "- type: the block type from the available blocks",
      "- value: the value for the block (if requiresValue is true)",
      "- category: the category the block belongs to",
      "",
      "Dates must be YYYY-MM-DD, or the words \"today\" / \"yesterday\".",
      "",
      "Example input: \"Find tweets about climate change with at least 100 likes\"",
      "Example output:",
      "\x7b",
      "  \"blocks\": [",
      "    \x7b \"type\": \"all-words\", \"value\": \"climate change\", \"category\": " ++
        "\"keyword\" \x7d,",
      "    \x7b \"type\": \"min-faves\", \"value\": \"100\", \"category\": \"engagement\" \x7d",
      "  ]",
      "\x7d"]

end Registry

end BlockQuery

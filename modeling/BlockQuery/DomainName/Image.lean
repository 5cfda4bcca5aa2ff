import BlockQuery.DomainName.ImageTable
import BlockQuery.Text.Composition
import BlockQuery.Text.Lower

/-!
# One spelling of a domain name

The same domain name can be typed in many ways: in capitals, with wide or circled letters, with
marks of its own or composed ones. `spelling?` chooses one of them. Each character is replaced by
its image, and the result is composed. A character that may not be typed in a name has no image.
-/

namespace BlockQuery.DomainName

open Text

/-- What the tables make of a character, if they speak of it. -/
def tableImage? (c : Char) : Option (List Char) :=
  let inRun := imageRuns.findSome? fun (first, images) ↦
    if first ≤ c.toNat then images.toList[c.toNat - first]? else none
  let inWords := imageWords.findSome? fun (first, images) ↦
    if first ≤ c.toNat then (images.splitOn " ")[c.toNat - first]? else none
  (inRun.map ([·])).or (inWords.map String.toList)

/-- What a character becomes. -/
def image? (c : Char) : Option (List Char) :=
  if c.toNat < 128 then some [c.toLower]
  else if !inRanges knownRanges c then none
  else if inRanges ignoredRanges c then some []
  else some ((tableImage? c).getD (lowerChar c))

/-- The chosen spelling of a name. -/
def spelling? (cs : List Char) : Option (List Char) := do
  let images ← cs.mapM image?
  return composed images.flatten

end BlockQuery.DomainName

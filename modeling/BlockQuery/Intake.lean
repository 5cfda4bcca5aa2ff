import BlockQuery.Calendar.Relative
import BlockQuery.Query.Basic

/-!
# Taking proposals in

Proposals come in no particular order, may repeat a type, may name types that no registry has, and
may speak of today. Taking them in makes blocks of them that can stand in a draft: of several
proposals of one type the last one stays, each is resolved against a registry, and relative days are
settled.

**Which proposals stay is found in two passes.** The first notes the place of every proposal by its
type, so that later notes hide earlier ones; the second keeps those that stand where the note of
their type says.

Every block gets an identifier from a supply, `ids`, which gives the `i`-th block of a batch its
identifier.
-/

namespace BlockQuery

/-- The places of proposals by their types. Of the notes for one type the first is the latest. -/
def notedPlaces (ps : List Proposal) : List (String × Nat) :=
  ps.zipIdx.foldl (fun noted m ↦ (m.1.type, m.2) :: noted) []

/-- Whether a proposal stands at the place that was noted last for its type. -/
def isNoted (noted : List (String × Nat)) (m : Proposal × Nat) : Bool :=
  noted.lookup m.1.type == some m.2

/-- The proposals that no later one of the same type takes the place of. -/
def lastOfEachType (ps : List Proposal) : List Proposal :=
  (ps.zipIdx.filter (isNoted (notedPlaces ps))).map Prod.fst

/-- Identifiers for the blocks of a batch. -/
abbrev IdSupply := Nat → BlockId

namespace Registry

variable (r : Registry)

/-- The kind of the block that is proposed. -/
def kindOf (p : Proposal) : Kind :=
  r.resolve p.type p.category p.needsValue

/-- Blocks for proposals as they are. -/
def instantiate (ids : IdSupply) (ps : List Proposal) : List Block :=
  ps.mapIdx fun i p ↦ .ofKind (ids i) (r.kindOf p) p.value

/-- Blocks for the proposals that stay, with relative days settled. -/
def intake (ids : IdSupply) (today : Day) (ps : List Proposal) : List Block :=
  (lastOfEachType ps).mapIdx fun i p ↦
    .ofKind (ids i) (r.kindOf p) ((settled? p.type p.value today).getD p.value)

end Registry

end BlockQuery

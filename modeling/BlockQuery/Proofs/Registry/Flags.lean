import BlockQuery.Proofs.Query.Omission
import BlockQuery.Proofs.Query.Order

/-!
# Flags that govern

The flag of a block says whether it needs a value. It governs the block if it tells what becomes of
the value: a block that needs a value says nothing without one, and a block that needs none says the
same with any. Both are meant among any other blocks.

**Queries are made without a look at the flag.** The rule of a block is chosen by its type alone,
and a registry takes kinds with any flag, so a kind can promise what the rule of its type does not
keep. `flag_governs_iff` says that this is the only way for a flag not to govern: in any registry,
the flag of a kind governs the instances of the kind exactly if it fits the rule (`Kind.FitsRule`).
The flags of all built-in kinds do.
-/

namespace BlockQuery

/-! ### Instances -/

/-- The block is an instance of the kind. Only its identifier and its values are its own. -/
def Block.IsOf (b : Block) (k : Kind) : Prop :=
  b = { Block.ofKind b.id k b.value with second := b.second }

theorem Block.isOf_ofKind (id : BlockId) (k : Kind) (value : String) :
    (ofKind id k value).IsOf k :=
  rfl

theorem Block.IsOf.type_eq {b : Block} {k : Kind} (h : b.IsOf k) : b.type = k.type :=
  congrArg Block.type h

theorem Block.IsOf.needsValue_eq {b : Block} {k : Kind} (h : b.IsOf k) :
    b.needsValue = k.needsValue :=
  congrArg Block.needsValue h

namespace Registry

/-! ### What a flag promises -/

/-- The flag of a block governs what the block says between others: if it needs a value and has
none, the block might as well not be there, and if it needs none, the value might as well be
another. -/
structure FlagGoverns (r : Registry) (before : List Block) (b : Block) (after : List Block) :
    Prop where
  silent : b.needsValue = true → Text.allBlank b.value = true →
    r.compile (before ++ after) = r.compile (before ++ b :: after)
  steady : b.needsValue = false → ∀ value,
    r.compile (before ++ { b with value := value } :: after) = r.compile (before ++ b :: after)

variable {r : Registry} {k : Kind}

/-- **A flag that fits the rule governs,** wherever the block stands. -/
theorem flagGoverns_of_fitsRule (hk : k.FitsRule) {b : Block} (hb : b.IsOf k)
    (before after : List Block) : r.FlagGoverns before b after where
  silent := by
    intro hneeds hblank
    have hnone : b.fragment? = none := by
      rw [Block.fragment?, hb.type_eq, hk.fragment?_eq_none_iff]
      exact .inr ⟨hb.needsValue_eq ▸ hneeds, hblank⟩
    exact congrArg Query.text (query_append_cons_of_fragment?_eq_none hnone).symm
  steady := by
    intro hneeds value
    have hsame : ({ b with value := value } : Block).fragment? = b.fragment? := by
      rw [Block.fragment?, Block.fragment?, hb.type_eq]
      exact hk.fragment?_eq (hb.needsValue_eq ▸ hneeds) value b.value b.second b.second
    exact congrArg Query.text (query_append_cons_of_fragment?_eq rfl hsame)

/-- A block alone shows whether the rule of its type reads its value. -/
theorem compile_singleton_eq_empty_iff {rule : Rule} (hrule : ruleOf? k.type = some rule)
    (id : BlockId) (value : String) :
    r.compile [.ofKind id k value] = "" ↔
      rule.readsValue = true ∧ Text.allBlank value = true := by
  have hfragment : (Block.ofKind id k value).fragment? = rule.fragment? value := by
    show (ruleOf? k.type).bind (·.fragment? value) = rule.fragment? value
    rw [hrule, Option.bind_some]
  rw [compile_eq_empty_iff, List.forall_mem_singleton, hfragment, rule.fragment?_eq_none_iff]

/-- A flag that does not fit fails to govern already where its block stands alone, without a value
or with one of a single letter. -/
theorem fitsRule_of_flagGoverns (id : BlockId)
    (h : ∀ value, r.FlagGoverns [] (.ofKind id k value) []) : k.FitsRule := by
  intro rule hrule
  have hempty : r.compile [] = "" := r.compile_eq_empty_iff.2 (List.forall_mem_nil _)
  have hblank : r.compile [.ofKind id k ""] = "" ↔ rule.readsValue = true := by
    rw [compile_singleton_eq_empty_iff hrule]
    exact and_iff_left (by decide)
  have hletter : r.compile [.ofKind id k "x"] ≠ "" := by
    rw [ne_eq, compile_singleton_eq_empty_iff hrule, not_and]
    exact fun _ ↦ by decide
  cases hneeds : k.needsValue with
  | true =>
    have hsilent : r.compile [] = r.compile [.ofKind id k ""] :=
      (h "").silent hneeds (show Text.allBlank "" = true by decide)
    exact hblank.1 (hsilent.symm.trans hempty)
  | false =>
    have hsteady : r.compile [.ofKind id k "x"] = r.compile [.ofKind id k ""] :=
      (h "").steady hneeds "x"
    exact Bool.eq_false_iff.2 fun hreads ↦ hletter (hsteady.trans (hblank.2 hreads))

/-- **When the flag of a kind governs its blocks.** In any registry the flag of a kind governs all
instances of the kind, among whatever other blocks, exactly if it fits the rule of the kind's type.
The flags of all built-in kinds do. -/
theorem flag_governs_iff (r : Registry) (k : Kind) :
    ((∀ b : Block, b.IsOf k → ∀ before after, r.FlagGoverns before b after) ↔ k.FitsRule) ∧
      (k ∈ builtin.kinds → k.FitsRule) := by
  refine ⟨⟨fun h ↦ ?_, fun hk b hb ↦ flagGoverns_of_fitsRule hk hb⟩, fitsRule_of_mem_builtin⟩
  exact fitsRule_of_flagGoverns ⟨0⟩ fun value ↦ h _ (Block.isOf_ofKind ⟨0⟩ k value) [] []

/-- A kind that is said to need a value, though its rule is a fixed text. -/
def needyQuestion : Kind :=
  .named "question" "Is Question" .engagement true

/-- A kind that is said to need no value, though its rule is made of one. -/
def carefreeFrom : Kind :=
  .named "from" "From these Accounts" .user false

/-- A registry of these two kinds. -/
def misflagged : Registry where
  kinds := [needyQuestion, carefreeFrom]
  type_not_blank := by decide +kernel
  id_not_blank := by decide +kernel
  label_not_blank := by decide +kernel
  types_nodup := by decide +kernel
  ids_nodup := by decide +kernel

/-- Neither flag governs: the question is asked without a value, and the accounts are read. -/
theorem flags_not_governing :
    (∃ k ∈ misflagged.kinds, ∃ b : Block, b.IsOf k ∧ b.needsValue = true ∧
        Text.allBlank b.value = true ∧ misflagged.compile [] ≠ misflagged.compile [b]) ∧
      ∃ k ∈ misflagged.kinds, ∃ b : Block, b.IsOf k ∧ b.needsValue = false ∧
        misflagged.compile [{ b with value := "nasa" }] ≠ misflagged.compile [b] := by
  refine ⟨⟨needyQuestion, by decide, .ofKind ⟨1⟩ needyQuestion "", rfl, rfl, by decide, ?_⟩,
    carefreeFrom, by decide, .ofKind ⟨2⟩ carefreeFrom "", rfl, rfl, ?_⟩
  · decide +kernel
  · decide +kernel

end Registry

end BlockQuery

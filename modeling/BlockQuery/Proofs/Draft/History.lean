import BlockQuery.Proofs.Draft.Types
import BlockQuery.Proofs.Query.Content

/-!
# A query does not tell its history

Two drafts on the built-in registry that hold the same contents have the same query, whatever was
done to get there. Identifiers, labels, categories and second values do not show, and neither does
the order in which blocks came in.

The one thing that a history must guarantee is that types are distinct; `usedTypes_nodup_run` says
that every history does.
-/

namespace BlockQuery

namespace Draft

/-! ### Edits stay within the registry -/

/-- No edit changes what registry a draft is bound to. -/
theorem Change.registry_eq {d : Draft} {e : Edit} {result : Outcome × Draft}
    (h : d.Change e result) : result.2.registry = d.registry := by
  cases h <;> rfl

@[simp] theorem registry_run (d : Draft) (es : List Edit) : (d.run es).registry = d.registry :=
  run_induction (P := fun d' ↦ d'.registry = d.registry)
    (fun d' e h ↦ (d'.change_step e).registry_eq.trans h) rfl es

/-! ### The query of a run -/

/-- Runs that leave the same contents leave one query, for any registry that has a kind for each
rule. -/
theorem query_run_eq_of_perm {r : Registry} (hr : r.CoversRules) {es es' : List Edit}
    (h : (((empty r).run es).blocks.map Block.content).Perm
      (((empty r).run es').blocks.map Block.content)) :
    ((empty r).run es).query = ((empty r).run es').query := by
  have hempty : (empty r).usedTypes.Nodup := List.nodup_nil
  have hnodup : (((empty r).run es).blocks.map Block.type).Nodup := usedTypes_nodup_run hempty es
  rw [query, query, registry_run, registry_run]
  exact Registry.query_eq_of_perm hr hnodup h

/-- **History independence.** Two runs of edits on the built-in registry that reach the same
contents, in whatever order, reach the same query in both halves and the same text. -/
theorem query_eq_of_same_contents (es es' : List Edit)
    (h : (((empty .builtin).run es).blocks.map Block.content).Perm
      (((empty .builtin).run es').blocks.map Block.content)) :
    ((empty .builtin).run es).query = ((empty .builtin).run es').query ∧
      ((empty .builtin).run es).compile = ((empty .builtin).run es').compile := by
  have hquery := query_run_eq_of_perm Registry.coversRules_builtin h
  exact ⟨hquery, congrArg Query.text hquery⟩

/-- Edits by hand, one of them refused, and the second of two `from` blocks taken away. -/
def typedIn : List Edit :=
  [.add ⟨1⟩ "question", .add ⟨2⟩ "from", .setValue ⟨2⟩ "nasa" (some "x"), .add ⟨3⟩ "from",
    .insert ⟨⟨4⟩, "lang", "Language", .user, true, none, "en", none⟩, .add ⟨5⟩ "or",
    .setValue ⟨5⟩ "cats dogs" none, .add ⟨6⟩ "url", .remove ⟨6⟩]

/-- The same contents in another order, under other identifiers and labels, behind blocks that are
replaced. -/
def putIn : List Edit :=
  [.add ⟨7⟩ "hashtags",
    .replaceAll
      [⟨⟨8⟩, "or", "Any", .date, false, some true, "old", some "y"⟩,
        ⟨⟨9⟩, "lang", "lang", .media, false, none, "en", none⟩,
        ⟨⟨8⟩, "or", "Any", .date, false, some true, "cats dogs", some "y"⟩,
        ⟨⟨8⟩, "from", "", .keyword, false, none, "nasa", none⟩],
    .insert ⟨⟨8⟩, "question", "?", .media, true, none, "", none⟩]

theorem query_typedIn_eq_query_putIn :
    (((empty .builtin).run typedIn).blocks.map Block.content).Perm
        (((empty .builtin).run putIn).blocks.map Block.content) ∧
      ((empty .builtin).run typedIn).query = ((empty .builtin).run putIn).query ∧
      ((empty .builtin).run typedIn).compile = ((empty .builtin).run putIn).compile := by
  have h : (((empty .builtin).run typedIn).blocks.map Block.content).Perm
      (((empty .builtin).run putIn).blocks.map Block.content) := by
    decide +kernel
  exact ⟨h, query_eq_of_same_contents typedIn putIn h⟩

end Draft

end BlockQuery

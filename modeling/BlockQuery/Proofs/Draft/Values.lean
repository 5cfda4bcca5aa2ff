import BlockQuery.Proofs.Draft.Ids
import BlockQuery.Proofs.Query.Entries

/-!
# Setting values

Setting values is the one edit that reaches into a block. It changes the two values of the first
block with an identifier and nothing else, or it is refused because no block has the identifier.

**Both cases are one equation** (`step_setValue`): where an identifier is not used, `setFirst` finds
no block to change, so the draft afterwards is written the same way, and only the outcome asks
whether the identifier is used. No such edit changes which identifiers are used. So the outcomes of
two of them do not depend on each other, and the laws are those of `setFirst`: of two pairs of
values under one identifier the second stays, and different identifiers lead to different blocks.

A block of alternatives loses its second value whenever its values are set, even to what they were.
No query shows a second value, so none shows that it is gone.
-/

namespace BlockQuery

/-- The block without what was typed into it. -/
def Block.untyped (b : Block) : Block :=
  { b with value := "", second := none }

namespace Draft

variable {d : Draft} {id id' : BlockId} {value value' : String} {second second' : Option String}
  {b : Block} {bs : List Block}

/-! ### Values in a list of blocks -/

theorem setFirst_cons_of_eq (hid : b.id = id) (bs : List Block) :
    setFirst id value second (b :: bs) = withValues value second b :: bs :=
  if_pos hid

theorem setFirst_cons_of_ne (hid : b.id ≠ id) (bs : List Block) :
    setFirst id value second (b :: bs) = b :: setFirst id value second bs :=
  if_neg hid

/-- Without a block of that identifier nothing is set. -/
theorem setFirst_of_notMem (h : id ∉ bs.map Block.id) : setFirst id value second bs = bs := by
  induction bs with
  | nil => rfl
  | cons b bs ih =>
    rw [List.map_cons, List.mem_cons, not_or] at h
    obtain ⟨hne, htail⟩ := h
    rw [setFirst_cons_of_ne (Ne.symm hne), ih htail]

/-- The first block with the identifier gets the values. -/
theorem setFirst_append_cons {before : List Block} (hbefore : id ∉ before.map Block.id)
    (hid : b.id = id) (after : List Block) :
    setFirst id value second (before ++ b :: after) =
      before ++ withValues value second b :: after := by
  induction before with
  | nil => exact setFirst_cons_of_eq hid after
  | cons c before ih =>
    rw [List.map_cons, List.mem_cons, not_or] at hbefore
    obtain ⟨hne, hbefore⟩ := hbefore
    rw [List.cons_append, setFirst_cons_of_ne (Ne.symm hne), ih hbefore, List.cons_append]

/-- **Of two pairs of values under one identifier the second stays.** -/
theorem setFirst_setFirst (bs : List Block) :
    setFirst id value' second' (setFirst id value second bs) = setFirst id value' second' bs := by
  induction bs with
  | nil => rfl
  | cons b bs ih =>
    by_cases hid : b.id = id
    · rw [setFirst_cons_of_eq hid, setFirst_cons_of_eq hid]
      exact if_pos hid
    · rw [setFirst_cons_of_ne hid, setFirst_cons_of_ne hid, setFirst_cons_of_ne hid, ih]

/-- **Values under different identifiers are set in either order.** -/
theorem setFirst_comm (hne : id' ≠ id) (bs : List Block) :
    setFirst id' value' second' (setFirst id value second bs) =
      setFirst id value second (setFirst id' value' second' bs) := by
  induction bs with
  | nil => rfl
  | cons b bs ih =>
    -- the block has one of the identifiers, and then not the other, or it has neither
    by_cases hid : b.id = id
    · have hid' : b.id ≠ id' := fun h ↦ hne (h.symm.trans hid)
      rw [setFirst_cons_of_eq hid, setFirst_cons_of_ne hid', setFirst_cons_of_eq hid]
      exact if_neg hid'
    · by_cases hid' : b.id = id'
      · rw [setFirst_cons_of_ne hid, setFirst_cons_of_eq hid', setFirst_cons_of_eq hid']
        exact (if_neg hid).symm
      · rw [setFirst_cons_of_ne hid, setFirst_cons_of_ne hid', setFirst_cons_of_ne hid',
          setFirst_cons_of_ne hid, ih]

/-! ### Values in a draft -/

/-- What comes of setting values: it is done if a block has the identifier. -/
def setOutcome (d : Draft) (id : BlockId) : Outcome :=
  if id ∈ d.usedIds then .done else .refused (.noSuchBlock id)

/-- **Setting values in one equation,** whether it is refused or not. -/
theorem step_setValue (d : Draft) (id : BlockId) (value : String) (second : Option String) :
    d.step (.setValue id value second) =
      (d.setOutcome id, { d with blocks := setFirst id value second d.blocks }) := by
  rw [step, setValue, setOutcome]
  by_cases hid : id ∈ d.usedIds
  · have hfound : ¬(d.get? id).isNone = true := by simpa [get?_eq_none_iff] using hid
    rw [if_neg hfound, if_pos hid, settle]
  · have hmissing : (d.get? id).isNone = true := by simpa [get?_eq_none_iff] using hid
    rw [if_pos hmissing, if_neg hid, settle, setFirst_of_notMem hid]

/-- Values do not decide what comes of setting others. -/
theorem setOutcome_setFirst (d : Draft) (id id' : BlockId) (value : String)
    (second : Option String) :
    setOutcome { d with blocks := setFirst id value second d.blocks } id' = d.setOutcome id' := by
  rw [setOutcome, setOutcome, usedIds, usedIds, map_setFirst fun _ ↦ rfl]

/-- A used identifier is that of a first block. -/
theorem exists_first_of_mem_usedIds (h : id ∈ d.usedIds) :
    ∃ before b after, d.blocks = before ++ b :: after ∧ b.id = id ∧
      id ∉ before.map Block.id := by
  obtain ⟨b, hb⟩ := Option.ne_none_iff_exists'.1 (get?_eq_none_iff.not.2 (not_not.2 h))
  obtain ⟨hid, before, after, hblocks, hbefore⟩ := List.find?_eq_some_iff_append.1 hb
  refine ⟨before, b, after, hblocks, of_decide_eq_true hid, fun hmem ↦ ?_⟩
  obtain ⟨c, hc, hcid⟩ := List.mem_map.1 hmem
  simpa [hcid] using hbefore c hc

/-- **A block that is set to what it holds shows the same in a query,** whether its identifier leads
to it or to another block. -/
theorem compile_withValues_self {before after : List Block}
    (hblocks : d.blocks = before ++ b :: after) :
    compile { d with blocks := before ++ withValues b.value b.second b :: after } = d.compile := by
  -- what a query shows of the block is its type and its value, and these are the same
  have hcontent : (before ++ withValues b.value b.second b :: after).map Block.content =
      d.blocks.map Block.content := by
    rw [hblocks, List.map_append, List.map_append, List.map_cons, List.map_cons]
    rfl
  exact congrArg Query.text (Registry.query_eq_of_content_eq hcontent)

/-- **Edits of values are local, the last one counts, and they commute.** Values are set in one
block, the first with the identifier, or else it is refused and nothing has changed. All else about
all blocks stays as it was, their number and order included. Values that are set under the same
identifier afterwards might as well be the only ones, and values under another identifier might as
well be set before. If the values were those of the block already, the query is the same; and it is
for any block that gets its own values, also where another block has the identifier first. -/
theorem setValue_local (d : Draft) (id : BlockId) (value : String) (second : Option String) :
    (id ∉ d.usedIds ∧
          d.step (.setValue id value second) = (.refused (.noSuchBlock id), d) ∨
        ∃ before b after, d.blocks = before ++ b :: after ∧ b.id = id ∧
          id ∉ before.map Block.id ∧
          d.step (.setValue id value second) =
            (.done, { d with blocks := before ++
              { b with value := value, second := if b.type = "or" then none else second } ::
                after }) ∧
          (value = b.value → second = b.second →
            (d.step (.setValue id value second)).2.compile = d.compile)) ∧
      (d.step (.setValue id value second)).2.blocks.map Block.untyped =
        d.blocks.map Block.untyped ∧
      (∀ value' second',
        (d.step (.setValue id value second)).2.step (.setValue id value' second') =
          d.step (.setValue id value' second')) ∧
      (∀ id' value' second', id' ≠ id →
        d.trace [.setValue id' value' second', .setValue id value second] =
          ((d.trace [.setValue id value second, .setValue id' value' second']).1.reverse,
            (d.trace [.setValue id value second, .setValue id' value' second']).2)) ∧
      ∀ before b after, d.blocks = before ++ b :: after →
        compile { d with blocks := before ++
          { b with value := b.value, second := if b.type = "or" then none else b.second } ::
            after } = d.compile := by
  refine ⟨?_, ?_, fun value' second' ↦ ?_, fun id' value' second' hne ↦ ?_,
    fun before b after hblocks ↦ compile_withValues_self hblocks⟩
  · by_cases hid : id ∈ d.usedIds
    · obtain ⟨before, b, after, hblocks, hb, hbefore⟩ := exists_first_of_mem_usedIds hid
      have hstep : d.step (.setValue id value second) =
          (.done, { d with blocks := before ++ withValues value second b :: after }) := by
        rw [step_setValue, setOutcome, if_pos hid, hblocks, setFirst_append_cons hbefore hb]
      refine .inr ⟨before, b, after, hblocks, hb, hbefore, hstep, ?_⟩
      rintro rfl rfl
      rw [hstep]
      exact compile_withValues_self hblocks
    · refine .inl ⟨hid, ?_⟩
      rw [step_setValue, setOutcome, if_neg hid, setFirst_of_notMem hid]
  · rw [step_setValue]
    exact map_setFirst (fun _ ↦ rfl) id d.blocks
  · rw [step_setValue, step_setValue, setOutcome_setFirst, setFirst_setFirst, step_setValue]
  · simp only [trace_cons, trace_nil, step_setValue, setOutcome_setFirst]
    rw [setFirst_comm hne]
    rfl

/-- Two blocks with one identifier, the first of them a block of alternatives with a second value,
which is set to what it holds. Its second value goes, and the query stays. -/
theorem setValue_local_alternatives :
    ∃ d : Draft, ∃ b c : Block, d.blocks = [b, c] ∧ b.id = c.id ∧ b.second ≠ none ∧
      (d.step (.setValue b.id b.value b.second)).2.blocks = [{ b with second := none }, c] ∧
      (d.step (.setValue b.id b.value b.second)).2.compile = d.compile := by
  let b : Block := ⟨⟨1⟩, "or", "", .keyword, true, none, "esa  nasa", some "jaxa"⟩
  let c : Block := ⟨⟨1⟩, "to", "", .user, true, none, "esa", none⟩
  let d : Draft := ⟨.builtin, [b, c]⟩
  refine ⟨d, b, c, rfl, rfl, by decide, by decide +kernel, ?_⟩
  rcases (setValue_local d b.id b.value b.second).1 with ⟨hunused, -⟩ | ⟨before, b', after, hsplit,
    hid, hbefore, -, hsame⟩
  · exact absurd (show b.id ∈ d.usedIds by decide) hunused
  · cases before with
    | nil =>
      obtain ⟨rfl, -⟩ := List.cons.inj hsplit
      exact hsame rfl rfl
    | cons a before =>
      obtain ⟨rfl, -⟩ := List.cons.inj hsplit
      exact absurd List.mem_cons_self hbefore

end Draft

end BlockQuery

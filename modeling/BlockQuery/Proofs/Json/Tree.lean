import BlockQuery.Proofs.Json.Accepted
import BlockQuery.Proofs.Json.Tokens

/-!
# The tree of a written value

`Json.toNode` is the tree of a value, with every list and object closed. Building a tree from the
tokens of a value gives this one (`foldl_tokens`), in whatever surroundings the value stands: a
state that wants a value within some frames ends up where the complete node leaves these frames.

With the tokens of a text this says that **a text that was written is read as what was written**
(`ofText_compact_eq`), without trailing characters. Readers then never see the text, only the tree.
-/

namespace BlockQuery.Json

mutual

/-- The tree of a value. -/
def toNode : Json → Node
  | null => .null
  | bool b => .bool b
  | number n => .number (some n)
  | text s => .text (.ok s)
  | list items => .list (itemNodes items) .closed
  | object members => .object (memberNodes members) .closed

/-- The trees of values. -/
def itemNodes : List Json → List Node
  | [] => []
  | v :: vs => v.toNode :: itemNodes vs

/-- The trees of members. -/
def memberNodes : List (String × Json) → List (Key × Node)
  | [] => []
  | (k, v) :: ms => (.ok k, v.toNode) :: memberNodes ms

end

/-! ### What a state waits for -/

namespace State

/-- Any token but a closing bracket is taken as the start of a value within these frames. -/
def Awaits (s : State) (frames : List Frame) : Prop :=
  ∀ t, t ≠ .closeList → s.step t = startValue frames t

theorem awaits_value (frames : List Frame) : (value frames).Awaits frames :=
  fun _ _ ↦ rfl

/-- A list that was opened awaits an item. -/
theorem awaits_listStart (frames : List Frame) :
    (listStart frames).Awaits (.list [] :: frames) := by
  intro t ht
  cases t <;> first | rfl | exact absurd rfl ht

/-- Behind a comma a list awaits another item. -/
theorem awaits_nextItem (before : List Node) (frames : List Frame) :
    (nextItem before frames).Awaits (.list before :: frames) := by
  intro t ht
  cases t <;> first | rfl | exact absurd rfl ht

/-- A text is taken as the key of a member behind these. -/
def AwaitsKey (s : State) (before : List (Key × Node)) (frames : List Frame) : Prop :=
  ∀ k, s.step (.text k) = afterKey before k frames

/-- An object that was opened awaits a key. -/
theorem awaitsKey_objectStart (frames : List Frame) : (objectStart frames).AwaitsKey [] frames :=
  fun _ ↦ rfl

/-- Behind a comma an object awaits another key. -/
theorem awaitsKey_nextKey (before : List (Key × Node)) (frames : List Frame) :
    (nextKey before frames).AwaitsKey before frames :=
  fun _ ↦ rfl

end State

/-! ### Building the tree -/

mutual

/-- **The tokens of a value complete its tree,** wherever a value is awaited. -/
theorem foldl_tokens (v : Json) {s : State} {frames : List Frame} (hs : s.Awaits frames) :
    v.tokens.foldl State.step s = State.complete v.toNode frames := by
  match v with
  | null => exact hs _ (by simp)
  | bool b => exact hs _ (by simp)
  | number n => exact hs _ (by simp)
  | text t => exact hs _ (by simp)
  | list items =>
    rw [tokens, List.cons_append, List.foldl_cons, hs _ (by simp), List.foldl_append,
      State.startValue]
    -- an empty list is closed where its first item could start, any other behind its last item
    by_cases hne : items = []
    · subst hne
      rfl
    · rw [foldl_itemTokens items hne (State.awaits_listStart frames), List.append_nil,
        List.foldl_cons, State.step, List.reverse_reverse]
      rfl
  | object members =>
    rw [tokens, List.cons_append, List.foldl_cons, hs _ (by simp), List.foldl_append,
      State.startValue]
    by_cases hne : members = []
    · subst hne
      rfl
    · rw [foldl_memberTokens members hne (State.awaitsKey_objectStart frames), List.append_nil,
        List.foldl_cons, State.step, List.reverse_reverse]
      rfl

/-- The tokens of items are put before those that a list holds already. -/
theorem foldl_itemTokens (vs : List Json) (hne : vs ≠ []) {s : State} {before : List Node}
    {frames : List Frame} (hs : s.Awaits (.list before :: frames)) :
    (itemTokens vs).foldl State.step s =
      .afterItem ((itemNodes vs).reverse ++ before) frames := by
  match vs with
  | [] => exact absurd rfl hne
  | [v] => exact foldl_tokens v hs
  | v :: w :: vs =>
    have hv := foldl_tokens v hs
    have htail := foldl_itemTokens (w :: vs) (List.cons_ne_nil w vs)
      (State.awaits_nextItem (v.toNode :: before) frames)
    rw [itemTokens, List.foldl_append, hv, List.foldl_cons, State.complete, State.step, htail]
    · simp [itemNodes]
    · simp

/-- The tokens of members are put before those that an object holds already. -/
theorem foldl_memberTokens (ms : List (String × Json)) (hne : ms ≠ []) {s : State}
    {before : List (Key × Node)} {frames : List Frame} (hs : s.AwaitsKey before frames) :
    (memberTokens ms).foldl State.step s =
      .afterMember ((memberNodes ms).reverse ++ before) frames := by
  match ms with
  | [] => exact absurd rfl hne
  | [(k, v)] =>
    have hv := foldl_tokens v (State.awaits_value (.object before (.ok k) :: frames))
    rw [memberTokens, List.foldl_cons, hs, List.foldl_cons, State.step, hv]
    rfl
  | (k, v) :: m :: ms =>
    have hv := foldl_tokens v (State.awaits_value (.object before (.ok k) :: frames))
    have htail := foldl_memberTokens (m :: ms) (List.cons_ne_nil m ms)
      (State.awaitsKey_nextKey ((.ok k, v.toNode) :: before) frames)
    rw [memberTokens, List.foldl_cons, hs, List.foldl_cons, State.step, List.foldl_append, hv,
      List.foldl_cons, State.complete, State.step, htail]
    · simp [memberNodes]
    · simp

end

/-! ### Whole texts -/

/-- **A text that was written is read as what was written.** -/
theorem ofText_compact_eq (v : Json) (hv : ∀ n ∈ v.numbers, n.ReadsBack) :
    Document.ofText v.compact = ⟨v.toNode, false⟩ := by
  rw [Document.ofText, ofText_compact v hv, Document.ofTokens,
    foldl_tokens v (State.awaits_value [])]
  rfl

/-- The text of a value without numbers is the text of that value and of nothing else. -/
theorem ofText_compact_of_numbers_eq_nil {v : Json} (hv : v.numbers = []) :
    Document.ofText v.compact = ⟨v.toNode, false⟩ :=
  ofText_compact_eq v (hv ▸ List.forall_mem_nil _)

/-- Values without numbers that are written alike have one tree. -/
theorem toNode_eq_of_compact_eq {v w : Json} (hv : v.numbers = []) (hw : w.numbers = [])
    (h : v.compact = w.compact) : v.toNode = w.toNode := by
  have htext := ofText_compact_of_numbers_eq_nil hv
  rw [h, ofText_compact_of_numbers_eq_nil hw] at htext
  exact (congrArg Document.root htext).symm

/-- Reading what was written is reading the tree. -/
theorem Reader.run_compact {α : Type} (read : Reader α) (v : Json)
    (hv : ∀ n ∈ v.numbers, n.ReadsBack) :
    read.run v.compact = read maxDepth v.toNode := by
  rw [run, ofText_compact_eq v hv, runDocument]
  cases read maxDepth v.toNode <;> rfl

/-! ### Numbers of members -/

theorem memberNumbers_eq_flatMap (ms : List (String × Json)) :
    memberNumbers ms = ms.flatMap fun m ↦ m.2.numbers := by
  induction ms with
  | nil => rfl
  | cons m ms ih =>
    obtain ⟨k, v⟩ := m
    rw [memberNumbers, ih, List.flatMap_cons]

section Lists

variable {α β : Type} {write : α → Json}

theorem numbers_list_map (h : ∀ a, (write a).numbers = []) (as : List α) :
    (list (as.map write)).numbers = [] := by
  rw [numbers]
  induction as with
  | nil => rfl
  | cons a as ih => rw [List.map_cons, itemNumbers, h, ih, List.append_nil]

/-- A list is read item by item, one bracket deeper. What is made of an item may be less than what
was written. -/
theorem Reader.listOf_toNode_of_forall₂ {read : Reader β} {f : α → β} {depth : ℕ} {as : List α}
    {vs : List Json} (h : List.Forall₂ (fun a v ↦ read depth v.toNode = .ok (f a)) as vs) :
    listOf read (depth + 1) (list vs).toNode = .ok (as.map f) := by
  refine listOf_eq_ok_iff.2 ⟨depth, itemNodes vs, rfl, rfl, ?_⟩
  induction h with
  | nil => exact .nil
  | cons ha _ ih => exact .cons ha ih

/-- Lists are read back if their items are. -/
theorem Reader.listOf_toNode {read : Reader β} {f : α → β} {depth : ℕ}
    (h : ∀ a, read depth (write a).toNode = .ok (f a)) (as : List α) :
    listOf read (depth + 1) (list (as.map write)).toNode = .ok (as.map f) :=
  listOf_toNode_of_forall₂ (List.forall₂_map_right_iff.2 (List.forall₂_same.2 fun a _ ↦ h a))

end Lists

end BlockQuery.Json

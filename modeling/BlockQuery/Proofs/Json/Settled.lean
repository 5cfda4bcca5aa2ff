import BlockQuery.Proofs.Json.Tree
import Mathlib.Data.String.Basic

/-!
# Values as they are kept

A reader that takes whatever value there is keeps the members of an object sorted by their keys, and
of members with the same key the last one. `settled` is the value that is kept, and `nesting` says
how many brackets and braces are open in its innermost place. **A value that was written is kept as
its settled form, or is refused because it nests too deep** (`anything_toNode`).

What is kept, of whatever text, is settled already (`settled_of_anything`). So it is read back from
its own text as it is, with its numbers if these are read back (`run_compact_of_anything`).
-/

namespace BlockQuery.Json

/-! ### Nesting and settling -/

mutual

/-- How many brackets and braces are open in the innermost place of a value. -/
def nesting : Json → ℕ
  | list items => itemsNesting items + 1
  | object members => membersNesting members + 1
  | _ => 0

/-- The deepest nesting of values. -/
def itemsNesting : List Json → ℕ
  | [] => 0
  | v :: vs => max v.nesting (itemsNesting vs)

/-- The deepest nesting of members. -/
def membersNesting : List (String × Json) → ℕ
  | [] => 0
  | (_, v) :: ms => max v.nesting (membersNesting ms)

end

mutual

/-- The value with the members of its objects sorted, the last of each key. -/
def settled : Json → Json
  | list items => list (settledItems items)
  | object members => object (settledMembers [] members)
  | v => v

/-- The values, settled. -/
def settledItems : List Json → List Json
  | [] => []
  | v :: vs => v.settled :: settledItems vs

/-- The members, settled and set one after another among others. -/
def settledMembers (before : List (String × Json)) : List (String × Json) → List (String × Json)
  | [] => before
  | (k, v) :: ms => settledMembers (setMember k v.settled before) ms

end

/-! ### Values that were written -/

open Reader

mutual

/-- **A value that was written is kept in its settled form,** unless it nests too deep. -/
theorem anything_toNode (v : Json) (depth : ℕ) :
    anything depth v.toNode = if v.nesting ≤ depth then .ok v.settled else .error .tooDeep := by
  match v with
  | null | bool _ | number _ | text _ => rfl
  | list items =>
    rw [toNode, anything.eq_def, nesting, settled]
    cases depth with
    | zero => rfl
    | succ depth =>
      simp only [anyItems_itemNodes items depth, Nat.add_le_add_iff_right]
      split <;> rfl
  | object members =>
    rw [toNode, anything.eq_def, nesting, settled]
    cases depth with
    | zero => rfl
    | succ depth =>
      simp only [anyMembers_memberNodes members depth, Nat.add_le_add_iff_right]
      split <;> rfl

/-- Items are settled one by one, unless one is nested too deep. -/
theorem anyItems_itemNodes (vs : List Json) (depth : ℕ) :
    anyItems depth (itemNodes vs) =
      if itemsNesting vs ≤ depth then .ok (settledItems vs) else .error .tooDeep := by
  match vs with
  | [] => rfl
  | v :: vs =>
    rw [itemNodes, anyItems, anything_toNode v, anyItems_itemNodes vs, itemsNesting, settledItems]
    by_cases hv : v.nesting ≤ depth <;> by_cases hvs : itemsNesting vs ≤ depth <;>
      simp [hv, hvs, bind, Except.bind, pure, Except.pure]

theorem anyMembers_memberNodes (ms : List (String × Json)) (depth : ℕ)
    (before : List (String × Json)) :
    anyMembers depth before (memberNodes ms) =
      if membersNesting ms ≤ depth then .ok (settledMembers before ms) else .error .tooDeep := by
  match ms with
  | [] => rfl
  | (k, v) :: ms =>
    rw [memberNodes, anyMembers, anything_toNode v, membersNesting, settledMembers]
    by_cases hv : v.nesting ≤ depth
    · simp [hv, bind, Except.bind, anyMembers_memberNodes ms]
    · simp [hv, bind, Except.bind]

end

/-! ### Sorted members -/

/-- The keys of the members rise. -/
def SortedMembers (ms : List (String × Json)) : Prop :=
  ms.Pairwise fun m m' ↦ m.1 < m'.1

variable {k : String} {v : Json} {ms before : List (String × Json)}

/-- Setting a member adds that one and no other. -/
theorem mem_of_mem_setMember {m : String × Json} (h : m ∈ setMember k v ms) :
    m = (k, v) ∨ m ∈ ms := by
  fun_induction setMember k v ms <;> grind

/-- Sorted members stay sorted when one is set. -/
theorem SortedMembers.setMember (h : SortedMembers ms) : SortedMembers (setMember k v ms) := by
  induction ms with
  | nil => exact List.pairwise_singleton _ _
  | cons m ms ih =>
    obtain ⟨l, w⟩ := m
    obtain ⟨hl, hms⟩ := List.pairwise_cons.1 h
    rw [Json.setMember]
    split_ifs with heq hlt
    · exact List.pairwise_cons.2 ⟨heq ▸ hl, hms⟩
    · refine List.pairwise_cons.2 ⟨List.forall_mem_cons.2 ⟨hlt, fun m hm ↦ ?_⟩, h⟩
      exact hlt.trans (hl m hm)
    · refine List.pairwise_cons.2 ⟨fun m hm ↦ ?_, ih hms⟩
      obtain rfl | hm := mem_of_mem_setMember hm
      · exact lt_of_le_of_ne (not_lt.1 hlt) (Ne.symm heq)
      · exact hl m hm

/-- A member with the greatest key is set behind the others. -/
theorem setMember_of_forall_lt (h : ∀ m ∈ ms, m.1 < k) : setMember k v ms = ms ++ [(k, v)] := by
  induction ms with
  | nil => rfl
  | cons m ms ih =>
    obtain ⟨l, w⟩ := m
    obtain ⟨hl, hms⟩ := List.forall_mem_cons.1 h
    rw [setMember, if_neg hl.ne', if_neg hl.asymm, ih hms, List.cons_append]

/-- Members that are sorted and settled stay as they are. -/
theorem settledMembers_eq_append (hsorted : SortedMembers (before ++ ms))
    (hms : ∀ m ∈ ms, m.2.settled = m.2) : settledMembers before ms = before ++ ms := by
  induction ms generalizing before with
  | nil => rw [settledMembers, List.append_nil]
  | cons m ms ih =>
    obtain ⟨k, v⟩ := m
    obtain ⟨hv, hms⟩ := List.forall_mem_cons.1 hms
    have hlast : ∀ m ∈ before, m.1 < k :=
      fun m hm ↦ (List.pairwise_append.1 hsorted).2.2 m hm _ List.mem_cons_self
    rw [settledMembers, hv, setMember_of_forall_lt hlast, ih (by simpa using hsorted) hms,
      List.append_assoc, List.singleton_append]

/-- A new key adds a member and replaces none. -/
theorem setMember_perm (h : k ∉ ms.map Prod.fst) : (setMember k v ms).Perm ((k, v) :: ms) := by
  induction ms with
  | nil => rfl
  | cons m ms ih =>
    obtain ⟨l, w⟩ := m
    obtain ⟨hl, hms⟩ := not_or.1 (List.mem_cons.not.1 h)
    rw [setMember, if_neg hl]
    split_ifs
    · rfl
    · exact ((ih hms).cons (l, w)).trans (.swap ..)

/-- **Members with different keys are only rearranged and settled.** -/
theorem settledMembers_perm (h : ((before ++ ms).map Prod.fst).Nodup) :
    (settledMembers before ms).Perm (before ++ ms.map fun m ↦ (m.1, m.2.settled)) := by
  induction ms generalizing before with
  | nil => rw [settledMembers, List.map_nil, List.append_nil]
  | cons m ms ih =>
    obtain ⟨k, v⟩ := m
    rw [List.map_append, List.map_cons] at h
    have hk : k ∉ before.map Prod.fst :=
      fun hmem ↦ (List.nodup_append.1 h).2.2 k hmem k List.mem_cons_self rfl
    have hset : (setMember k v.settled before).Perm ((k, v.settled) :: before) := setMember_perm hk
    have hnodup : ((setMember k v.settled before ++ ms).map Prod.fst).Nodup := by
      refine (((hset.append_right ms).map Prod.fst).nodup_iff).2 ?_
      rw [List.cons_append, List.map_cons, List.map_append]
      exact List.perm_middle.nodup_iff.1 h
    rw [settledMembers, List.map_cons]
    exact ((ih hnodup).trans (hset.append_right _)).trans List.perm_middle.symm

/-- Settled items are settled as they are. -/
theorem settledItems_eq_self {vs : List Json} (h : ∀ v ∈ vs, v.settled = v) :
    settledItems vs = vs := by
  induction vs with
  | nil => rfl
  | cons v vs ih =>
    obtain ⟨hv, hvs⟩ := List.forall_mem_cons.1 h
    rw [settledItems, hv, ih hvs]

/-- Members are nested as deep as the deepest of them. -/
theorem membersNesting_le_iff {depth : ℕ} :
    membersNesting ms ≤ depth ↔ ∀ m ∈ ms, m.2.nesting ≤ depth := by
  induction ms with
  | nil => simp [membersNesting]
  | cons m ms ih => rw [membersNesting, Nat.max_le, ih, List.forall_mem_cons]

/-- A list is nested one deeper than its items. -/
theorem nesting_list_map_le {α : Type} {write : α → Json} {depth : ℕ}
    (h : ∀ a, (write a).nesting ≤ depth) (as : List α) :
    (list (as.map write)).nesting ≤ depth + 1 := by
  rw [nesting, Nat.add_le_add_iff_right]
  induction as with
  | nil => exact Nat.zero_le depth
  | cons a as ih =>
    rw [List.map_cons, itemsNesting]
    exact Nat.max_le.2 ⟨h a, ih⟩

/-! ### What is kept -/

/-- The value is settled and nests no deeper than this. -/
def KeptWithin (depth : ℕ) (v : Json) : Prop :=
  v.nesting ≤ depth ∧ v.settled = v

mutual

/-- **What is kept is settled,** whatever text it was kept of. -/
theorem settled_of_anything (n : Node) {depth : ℕ} {v : Json} (h : anything depth n = .ok v) :
    KeptWithin depth v := by
  match n with
  | .null | .bool _ | .number (some _) =>
    rw [anything] at h
    obtain rfl := Except.ok.inj h
    exact ⟨Nat.zero_le _, rfl⟩
  | .number none => cases h
  | .text t =>
    rw [anything] at h
    obtain ⟨s, -, rfl⟩ := map_eq_ok.1 h
    exact ⟨Nat.zero_le _, rfl⟩
  | .list items ending =>
    obtain ⟨outer, vs, rfl, hitems, rfl⟩ := exists_items_of_anything h
    obtain ⟨hnesting, hsettled⟩ := settled_of_anyItems items hitems
    exact ⟨Nat.succ_le_succ hnesting, congrArg list hsettled⟩
  | .object members ending =>
    obtain ⟨outer, ms, rfl, hmembers, rfl⟩ := exists_members_of_anything h
    obtain ⟨hsorted, hkept⟩ :=
      settled_of_anyMembers members List.Pairwise.nil (List.forall_mem_nil _) hmembers
    have hsame : settledMembers [] ms = [] ++ ms :=
      settledMembers_eq_append hsorted fun m hm ↦ (hkept m hm).2
    exact ⟨Nat.succ_le_succ (membersNesting_le_iff.2 fun m hm ↦ (hkept m hm).1),
      congrArg object hsame⟩
  | .broken b => cases h

/-- What is read as items is settled, and within the depth that was allowed. -/
theorem settled_of_anyItems (ns : List Node) {depth : ℕ} {vs : List Json}
    (h : anyItems depth ns = .ok vs) : itemsNesting vs ≤ depth ∧ settledItems vs = vs := by
  match ns with
  | [] =>
    obtain rfl := Except.ok.inj h
    exact ⟨Nat.zero_le _, rfl⟩
  | n :: ns =>
    rw [anyItems] at h
    obtain ⟨v, hv, h⟩ := bind_eq_ok.1 h
    obtain ⟨rest, hrest, h⟩ := bind_eq_ok.1 h
    obtain rfl := Except.ok.inj h
    obtain ⟨hnesting, hsettled⟩ := settled_of_anything n hv
    obtain ⟨hnestings, hsettleds⟩ := settled_of_anyItems ns hrest
    rw [itemsNesting, settledItems, hsettled, hsettleds]
    exact ⟨Nat.max_le.2 ⟨hnesting, hnestings⟩, rfl⟩

theorem settled_of_anyMembers (ns : List (Key × Node)) {depth : ℕ}
    {before ms : List (String × Json)} (hsorted : SortedMembers before)
    (hbefore : ∀ m ∈ before, KeptWithin depth m.2) (h : anyMembers depth before ns = .ok ms) :
    SortedMembers ms ∧ ∀ m ∈ ms, KeptWithin depth m.2 := by
  match ns with
  | [] =>
    obtain rfl := Except.ok.inj h
    exact ⟨hsorted, hbefore⟩
  | (key, n) :: ns =>
    rw [anyMembers] at h
    obtain ⟨k, -, h⟩ := bind_eq_ok.1 h
    obtain ⟨v, hv, h⟩ := bind_eq_ok.1 h
    refine settled_of_anyMembers ns hsorted.setMember (fun m hm ↦ ?_) h
    obtain rfl | hm := mem_of_mem_setMember hm
    · exact settled_of_anything n hv
    · exact hbefore m hm

end

/-- **What is kept is read back from its own text,** if its numbers are. -/
theorem run_compact_of_anything {n : Node} {depth : ℕ} {v : Json} (h : anything depth n = .ok v)
    (hdepth : depth ≤ maxDepth) (hnumbers : ∀ x ∈ v.numbers, x.ReadsBack) :
    Reader.run anything v.compact = .ok v := by
  obtain ⟨hnesting, hsettled⟩ := settled_of_anything n h
  rw [Reader.run_compact _ _ hnumbers, anything_toNode, if_pos (hnesting.trans hdepth), hsettled]

end BlockQuery.Json

import Mathlib.Data.List.Nodup
import Mathlib.Data.Prod.Lex
import Mathlib.Order.BooleanAlgebra.Basic

/-!
# Stable sorting by a key

Facts about lists, without blocks or registries: `sortOn key` sorts a list by a key and leaves
elements with equal keys in the order in which they stood.

The one tool here is `eq_of_filter_key_eq`. **A list that is sorted by a key is determined by its
elements of each key**, taken in order. So whatever is sorted, and has for every key the same
elements in the same order as a list, is the stable sort of that list (`eq_sortOn`). Collecting the
elements key by key is one way to get there (`flatMap_filter_eq_sortOn`), sorting two classes of
elements apart is another (`sortOn_append_sortOn`). Elements can be left out or renamed before or
after sorting (`sortOn_filterMap`). Keys that have no order can be taken in any: the elements are
only rearranged (`flatMap_filter_perm`).
-/

namespace BlockQuery

variable {α κ : Type} [LinearOrder κ] {key : α → κ}

/-- The list sorted by a key. Elements with equal keys keep their order. -/
def sortOn (key : α → κ) (l : List α) : List α :=
  l.mergeSort fun a b ↦ decide (key a ≤ key b)

theorem sortOn_perm (key : α → κ) (l : List α) : (sortOn key l).Perm l :=
  List.mergeSort_perm _ _

theorem decide_key_le_trans (a b c : α) (hab : decide (key a ≤ key b) = true)
    (hbc : decide (key b ≤ key c) = true) : decide (key a ≤ key c) = true := by
  rw [decide_eq_true_eq] at *
  exact hab.trans hbc

theorem decide_key_le_total (a b : α) :
    (decide (key a ≤ key b) || decide (key b ≤ key a)) = true := by
  simpa using le_total (key a) (key b)

/-- What is sorted comes in the order of its keys. -/
theorem pairwise_sortOn (key : α → κ) (l : List α) :
    (sortOn key l).Pairwise fun a b ↦ key a ≤ key b :=
  (List.pairwise_mergeSort decide_key_le_trans decide_key_le_total l).imp of_decide_eq_true

/-- **Stability.** Elements that are all alike to the key come out as they went in. -/
theorem filter_sortOn {p : α → Bool} (hp : ∀ a b, p a → p b → key a = key b) (l : List α) :
    (sortOn key l).filter p = l.filter p := by
  have hsorted : (l.filter p).Pairwise fun a b ↦ decide (key a ≤ key b) = true := by
    refine List.pairwise_of_forall_mem_list fun a ha b hb ↦ ?_
    rw [decide_eq_true_eq, hp a b (List.mem_filter.1 ha).2 (List.mem_filter.1 hb).2]
  have hsub : (l.filter p).Sublist (sortOn key l) :=
    List.sublist_mergeSort decide_key_le_trans decide_key_le_total hsorted List.filter_sublist
  have hfilter := hsub.filter p
  simp only [List.filter_filter, Bool.and_self] at hfilter
  exact (hfilter.eq_of_length ((sortOn_perm key l).filter p).length_eq.symm).symm

/-! ### What determines a sorted list -/

/-- The least key of a sorted list is that of its head. -/
theorem key_head_le {a b : α} {l : List α}
    (hsorted : (a :: l).Pairwise fun a b ↦ key a ≤ key b) (hb : b ∈ a :: l) : key a ≤ key b := by
  rcases List.mem_cons.1 hb with rfl | hb
  · exact le_rfl
  · exact (List.pairwise_cons.1 hsorted).1 b hb

/-- Two sorted lists with the same elements of each key, in the same order, are equal. -/
theorem eq_of_filter_key_eq {l m : List α} (hl : l.Pairwise fun a b ↦ key a ≤ key b)
    (hm : m.Pairwise fun a b ↦ key a ≤ key b)
    (h : ∀ k, (l.filter fun a ↦ key a = k) = m.filter fun a ↦ key a = k) : l = m := by
  have hmem : ∀ a, a ∈ l ↔ a ∈ m := by
    intro a
    have hiff : a ∈ l.filter (fun b ↦ key b = key a) ↔ a ∈ m.filter fun b ↦ key b = key a := by
      rw [h]
    simpa using hiff
  induction l generalizing m with
  | nil => exact (List.eq_nil_iff_forall_not_mem.2 fun a ha ↦ by simpa using (hmem a).2 ha).symm
  | cons a l ih =>
    cases m with
    | nil => simpa using (hmem a).1 (List.mem_cons_self ..)
    | cons b m =>
      -- the heads have the least key, and are the first elements of that key
      have hkey : key a = key b :=
        le_antisymm (key_head_le hl ((hmem b).2 (List.mem_cons_self ..)))
          (key_head_le hm ((hmem a).1 (List.mem_cons_self ..)))
      have hhead := h (key a)
      rw [List.filter_cons_of_pos (by simp), List.filter_cons_of_pos (by simp [hkey])] at hhead
      obtain ⟨rfl, -⟩ := List.cons.inj hhead
      have htail : ∀ k, (l.filter fun c ↦ key c = k) = m.filter fun c ↦ key c = k := by
        intro k
        have hk := h k
        by_cases hak : key a = k
        · rw [List.filter_cons_of_pos (by simpa), List.filter_cons_of_pos (by simpa)] at hk
          exact (List.cons.inj hk).2
        · rwa [List.filter_cons_of_neg (by simpa), List.filter_cons_of_neg (by simpa)] at hk
      refine congrArg _ (ih hl.of_cons hm.of_cons htail ?_)
      intro c
      have hiff : c ∈ l.filter (fun d ↦ key d = key c) ↔ c ∈ m.filter fun d ↦ key d = key c := by
        rw [htail]
      simpa using hiff

/-- **The stable sort is the only sorted list that keeps, for each key, the elements of that key in
their order.** -/
theorem eq_sortOn {l m : List α} (hm : m.Pairwise fun a b ↦ key a ≤ key b)
    (h : ∀ k, (m.filter fun a ↦ key a = k) = l.filter fun a ↦ key a = k) : m = sortOn key l := by
  refine eq_of_filter_key_eq hm (pairwise_sortOn key l) fun k ↦ (h k).trans ?_
  refine (filter_sortOn (fun a b ha hb ↦ ?_) l).symm
  rw [decide_eq_true_eq] at ha hb
  rw [ha, hb]

/-! ### Leaving out and renaming -/

/-- **Sorting does not mind what is left out or renamed,** as long as what is left keeps its key. -/
theorem sortOn_filterMap {β : Type} {f : β → Option α} {old : β → κ}
    (hf : ∀ b a, f b = some a → key a = old b) (l : List β) :
    sortOn key (l.filterMap f) = (sortOn old l).filterMap f := by
  have hpick : ∀ (k : κ) (m : List β), (m.filterMap f).filter (fun a ↦ key a = k) =
      (m.filter fun b ↦ old b = k).filterMap f := by
    intro k m
    rw [List.filter_filterMap, List.filterMap_filter]
    refine List.filterMap_congr fun b _ ↦ ?_
    cases hb : f b with
    | none => simp
    | some a => simp [hf b a hb, Option.filter]
  refine (eq_sortOn ?_ fun k ↦ ?_).symm
  · refine List.pairwise_filterMap.2 ((pairwise_sortOn old l).imp ?_)
    intro b c hbc a ha a' ha'
    rwa [hf b a ha, hf c a' ha']
  · -- the elements of one key are picked out before they are renamed
    have hstable : (sortOn old l).filter (fun b ↦ old b = k) = l.filter fun b ↦ old b = k := by
      refine filter_sortOn (fun b c hb hc ↦ ?_) l
      rw [of_decide_eq_true hb, of_decide_eq_true hc]
    rw [hpick, hpick, hstable]

/-! ### Two ways to sort -/

omit [LinearOrder κ] in
/-- Of lists chosen by keys without repetition, only that of one key is kept. -/
theorem flatMap_ite_eq [DecidableEq κ] {ks : List κ} (hks : ks.Nodup) (k : κ) (l : List α) :
    (ks.flatMap fun j ↦ if j = k then l else []) = if k ∈ ks then l else [] := by
  induction ks with
  | nil => rfl
  | cons j ks ih =>
    obtain ⟨hj, hks⟩ := List.nodup_cons.1 hks
    rw [List.flatMap_cons, ih hks]
    by_cases hjk : j = k
    · subst hjk
      rw [if_pos rfl, if_neg hj, if_pos (List.mem_cons_self ..), List.append_nil]
    · simp [hjk, Ne.symm hjk]

omit [LinearOrder κ] in
/-- Collecting the elements key by key picks, for each key, the elements of that key. -/
theorem filter_flatMap_filter [DecidableEq κ] {ks : List κ} (hks : ks.Nodup) {l : List α}
    (hmem : ∀ a ∈ l, key a ∈ ks) (k : κ) :
    ((ks.flatMap fun j ↦ l.filter fun a ↦ key a = j).filter fun a ↦ key a = k) =
      l.filter fun a ↦ key a = k := by
  have hone : ∀ j, ((l.filter fun a ↦ key a = j).filter fun a ↦ key a = k) =
      if j = k then l.filter fun a ↦ key a = k else [] := by
    intro j
    rw [List.filter_filter]
    split
    · next hjk => simp [hjk]
    · next hjk =>
      refine List.filter_eq_nil_iff.2 fun a _ ↦ ?_
      simp only [Bool.and_eq_true, decide_eq_true_eq, not_and]
      rintro rfl rfl
      exact hjk rfl
  rw [List.filter_flatMap]
  simp only [hone]
  rw [flatMap_ite_eq hks]
  split
  · rfl
  · next hk =>
    refine (List.filter_eq_nil_iff.2 fun a ha ↦ ?_).symm
    rw [decide_eq_true_eq]
    rintro rfl
    exact hk (hmem a ha)

omit [LinearOrder κ] in
/-- **Collecting the elements key by key loses none and repeats none.** -/
theorem flatMap_filter_perm [DecidableEq κ] {ks : List κ} (hks : ks.Nodup) {l : List α}
    (hmem : ∀ a ∈ l, key a ∈ ks) : (ks.flatMap fun k ↦ l.filter fun a ↦ key a = k).Perm l := by
  classical
  refine List.perm_iff_count.2 fun a ↦ ?_
  -- an element stands among those of its key as often as in the whole list
  have hcount (m : List α) : m.count a = (m.filter fun b ↦ key b = key a).count a :=
    (List.count_filter (by simp)).symm
  rw [hcount, hcount l, filter_flatMap_filter hks hmem]

/-- **Collecting the elements key by key sorts them.** -/
theorem flatMap_filter_eq_sortOn {ks : List κ} (hks : ks.Pairwise (· < ·)) {l : List α}
    (hmem : ∀ a ∈ l, key a ∈ ks) :
    (ks.flatMap fun k ↦ l.filter fun a ↦ key a = k) = sortOn key l := by
  refine eq_sortOn ?_ (filter_flatMap_filter (hks.imp ne_of_lt) hmem)
  refine List.pairwise_flatMap.2 ⟨fun k _ ↦ ?_, hks.imp fun hjk a ha b hb ↦ ?_⟩
  · refine List.pairwise_of_forall_mem_list fun a ha b hb ↦ ?_
    simp only [List.mem_filter, decide_eq_true_eq] at ha hb
    rw [ha.2, hb.2]
  · simp only [List.mem_filter, decide_eq_true_eq] at ha hb
    rw [ha.2, hb.2]
    exact hjk.le

omit [LinearOrder κ] in
/-- Splitting by a condition on which all elements agree splits nothing off. -/
theorem filter_append_filter_of_eq {p : α → Bool} {q : Bool} {l : List α}
    (h : ∀ a ∈ l, p a = q) : l.filter (p · == true) ++ l.filter (p · == false) = l := by
  cases q with
  | false =>
    rw [List.filter_eq_nil_iff.2 (by simpa using h), List.filter_eq_self.2 (by simpa using h),
      List.nil_append]
  | true =>
    rw [List.filter_eq_self.2 (by simpa using h), List.filter_eq_nil_iff.2 (by simpa using h),
      List.append_nil]

/-- **Sorting those that satisfy a condition apart from the others** is sorting the whole list by
the condition first and by the key second. -/
theorem sortOn_append_sortOn (p : α → Bool) (key : α → κ) (l : List α) :
    sortOn key (l.filter p) ++ sortOn key (l.filter (!p ·)) =
      sortOn (fun a ↦ toLex (!p a, key a)) l := by
  have hclass : ∀ (q : Bool) a, a ∈ sortOn key (l.filter (p · == q)) → p a = q := by
    intro q a ha
    simpa using (List.mem_filter.1 ((sortOn_perm ..).mem_iff.1 ha)).2
  have hpos : l.filter p = l.filter (p · == true) := by simp
  have hneg : (l.filter (!p ·)) = l.filter (p · == false) := by simp
  have hhalf : ∀ q, (sortOn key (l.filter (p · == q))).Pairwise
      fun a b ↦ toLex (!p a, key a) ≤ toLex (!p b, key b) := by
    intro q
    refine (pairwise_sortOn key _).imp_of_mem fun {a b} ha hb hab ↦ ?_
    rw [hclass q a ha, hclass q b hb]
    exact Prod.Lex.toLex_le_toLex.2 (.inr ⟨rfl, hab⟩)
  rw [hpos, hneg]
  refine eq_sortOn (List.pairwise_append.2 ⟨hhalf true, hhalf false, ?_⟩) fun k ↦ ?_
  · intro a ha b hb
    rw [hclass true a ha, hclass false b hb]
    exact Prod.Lex.toLex_le_toLex.2 (.inl Bool.false_lt_true)
  · -- each half is stable, and the elements of one key are all in the same half
    have hstable : ∀ q, ((sortOn key (l.filter (p · == q))).filter
        fun a ↦ toLex (!p a, key a) = k) =
          (l.filter fun a ↦ toLex (!p a, key a) = k).filter (p · == q) := by
      intro q
      rw [filter_sortOn, List.filter_filter, List.filter_filter]
      · simp only [Bool.and_comm]
      · intro a b ha hb
        simp only [decide_eq_true_eq] at ha hb
        exact congrArg (fun c ↦ (ofLex c).2) (ha.trans hb.symm)
    rw [List.filter_append, hstable, hstable]
    have hsame : ∀ a ∈ l.filter fun a ↦ toLex (!p a, key a) = k, p a = !(ofLex k).1 := by
      intro a ha
      have hk := of_decide_eq_true (List.mem_filter.1 ha).2
      simp [← hk]
    exact filter_append_filter_of_eq hsame

end BlockQuery

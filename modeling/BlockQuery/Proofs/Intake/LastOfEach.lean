import BlockQuery.Intake
import Mathlib.Data.List.Induction
import Mathlib.Data.List.Nodup

/-!
# The last proposal of each type

The first pass over proposals notes a place for every type; the second keeps the proposals at the
noted places. What the two passes come to is said one proposal at a time: **a proposal behind all
others takes the place of those of its type and leaves the rest alone** (`lastOfEachType_concat`).
Its own note hides the earlier ones for its type, and the notes for other types are where they were.

All else follows from this step by going through the proposals once. The step also says what comes
of two lists one behind the other (`lastOfEachType_append`), and with that, that thinning out is
done once.
-/

namespace BlockQuery

variable {p : Proposal} {ps : List Proposal}

/-! ### One more proposal -/

theorem zipIdx_concat (ps : List Proposal) (p : Proposal) :
    (ps ++ [p]).zipIdx = ps.zipIdx ++ [(p, ps.length)] := by
  rw [List.zipIdx_append, Nat.zero_add]
  rfl

/-- One more proposal notes one more place, in front of those noted before. -/
theorem notedPlaces_concat (ps : List Proposal) (p : Proposal) :
    notedPlaces (ps ++ [p]) = (p.type, ps.length) :: notedPlaces ps := by
  rw [notedPlaces, zipIdx_concat, List.foldl_append]
  rfl

/-- The proposal behind all others stands where its type is noted. -/
theorem isNoted_concat_self (ps : List Proposal) (p : Proposal) :
    isNoted (notedPlaces (ps ++ [p])) (p, ps.length) = true := by
  rw [isNoted, notedPlaces_concat, List.lookup_cons_self, beq_self_eq_true]

/-- A proposal in front of it does so if it did before and has another type. -/
theorem isNoted_concat_of_mem {m : Proposal × ℕ} (hm : m ∈ ps.zipIdx) (p : Proposal) :
    isNoted (notedPlaces (ps ++ [p])) m =
      (decide (m.1.type ≠ p.type) && isNoted (notedPlaces ps) m) := by
  have hplace : m.2 < ps.length := List.snd_lt_of_mem_zipIdx hm
  rw [isNoted, notedPlaces_concat, List.lookup_cons]
  by_cases htype : m.1.type = p.type
  · -- the note that is found is the new one, and its place is behind all others
    have hne : ps.length ≠ m.2 := by omega
    simp [htype, hne]
  · simp [htype, beq_false_of_ne htype, isNoted]

/-- **A proposal behind all others takes the place of those of its type.** -/
theorem lastOfEachType_concat (ps : List Proposal) (p : Proposal) :
    lastOfEachType (ps ++ [p]) = (lastOfEachType ps).filter (·.type ≠ p.type) ++ [p] := by
  rw [lastOfEachType, zipIdx_concat, List.filter_append, List.map_append,
    List.filter_cons_of_pos (isNoted_concat_self ps p), List.filter_nil, lastOfEachType,
    List.filter_map, List.filter_filter,
    List.filter_congr fun m hm ↦ isNoted_concat_of_mem hm p]
  rfl

/-! ### Two lists of proposals -/

/-- **Of two lists, the second takes the place of its types in the first.** -/
theorem lastOfEachType_append (ps qs : List Proposal) :
    lastOfEachType (ps ++ qs) =
      (lastOfEachType ps).filter (·.type ∉ qs.map Proposal.type) ++ lastOfEachType qs := by
  induction qs using List.reverseRecOn with
  | nil =>
    have hall : (lastOfEachType ps).filter (·.type ∉ [].map Proposal.type) = lastOfEachType ps :=
      List.filter_eq_self.2 (by simp)
    rw [hall, List.append_nil]
    exact (List.append_nil _).symm
  | append_singleton qs q ih =>
    have hfilter : ∀ p : Proposal, (decide (p.type ≠ q.type) &&
        decide (p.type ∉ qs.map Proposal.type)) =
          decide (p.type ∉ (qs ++ [q]).map Proposal.type) := by
      intro p
      rw [← Bool.decide_and, decide_eq_decide, List.map_append, List.map_singleton,
        List.mem_append, List.mem_singleton, not_or, and_comm]
    rw [← List.append_assoc, lastOfEachType_concat, ih, lastOfEachType_concat, List.filter_append,
      List.filter_filter, List.append_assoc, List.filter_congr fun p _ ↦ hfilter p]

/-- The same from the front: a proposal stays if its type does not come again. -/
theorem lastOfEachType_cons (p : Proposal) (ps : List Proposal) :
    lastOfEachType (p :: ps) =
      if p.type ∈ ps.map Proposal.type then lastOfEachType ps else p :: lastOfEachType ps := by
  have hone : lastOfEachType [p] = [p] := lastOfEachType_concat [] p
  rw [← List.singleton_append, lastOfEachType_append, hone]
  split
  · next hagain =>
    rw [List.filter_cons_of_neg (by simpa using hagain)]
    rfl
  · next hnew =>
    rw [List.filter_cons_of_pos (by simpa using hnew)]
    rfl

/-! ### The proposals that stay -/

/-- Proposals that stay keep their order. -/
theorem lastOfEachType_sublist (ps : List Proposal) : (lastOfEachType ps).Sublist ps := by
  have hkept := (List.filter_sublist (p := isNoted (notedPlaces ps)) (l := ps.zipIdx)).map Prod.fst
  rwa [List.zipIdx_map_fst] at hkept

theorem mem_lastOfEachType (h : p ∈ lastOfEachType ps) : p ∈ ps :=
  (lastOfEachType_sublist ps).subset h

/-- Of every type that is proposed one proposal stays. -/
theorem mem_types_lastOfEachType_iff {type : String} :
    type ∈ (lastOfEachType ps).map Proposal.type ↔ type ∈ ps.map Proposal.type := by
  induction ps with
  | nil => rfl
  | cons p ps ih =>
    rw [lastOfEachType_cons, List.map_cons, List.mem_cons, ← ih]
    split
    · next hagain =>
      refine ⟨.inr, fun h ↦ h.elim ?_ id⟩
      rintro rfl
      exact ih.2 hagain
    · rw [List.map_cons, List.mem_cons]

/-- **The proposals that stay have distinct types.** -/
theorem lastOfEachType_types_nodup (ps : List Proposal) :
    ((lastOfEachType ps).map Proposal.type).Nodup := by
  induction ps with
  | nil => exact List.nodup_nil
  | cons p ps ih =>
    rw [lastOfEachType_cons]
    split
    · exact ih
    · next hnew => exact List.nodup_cons.2 ⟨fun h ↦ hnew (mem_types_lastOfEachType_iff.1 h), ih⟩

/-- Where types are distinct, every proposal stays. -/
theorem lastOfEachType_eq_self (h : (ps.map Proposal.type).Nodup) : lastOfEachType ps = ps := by
  induction ps with
  | nil => rfl
  | cons p ps ih =>
    obtain ⟨hp, hps⟩ := List.nodup_cons.1 h
    rw [lastOfEachType_cons, if_neg hp, ih hps]

/-! ### Places -/

/-- No proposal behind this place has the type of the one that stands there. -/
def IsLastOfType (ps : List Proposal) (m : Proposal × ℕ) : Prop :=
  ∀ q ∈ ps.drop (m.2 + 1), q.type ≠ m.1.type

instance (ps : List Proposal) (m : Proposal × ℕ) : Decidable (IsLastOfType ps m) :=
  inferInstanceAs (Decidable (∀ q ∈ ps.drop (m.2 + 1), _))

/-- **The place noted for a type is the last one at which it is proposed.** -/
theorem isNoted_iff_isLastOfType {m : Proposal × ℕ} (hm : m ∈ ps.zipIdx) :
    isNoted (notedPlaces ps) m = true ↔ IsLastOfType ps m := by
  induction ps using List.reverseRecOn with
  | nil => exact absurd hm List.not_mem_nil
  | append_singleton ps p ih =>
    rw [zipIdx_concat, List.mem_append, List.mem_singleton] at hm
    rcases hm with hm | rfl
    · have hplace : m.2 + 1 ≤ ps.length := List.snd_lt_of_mem_zipIdx hm
      rw [isNoted_concat_of_mem hm, Bool.and_eq_true, ih hm, IsLastOfType, IsLastOfType,
        List.drop_append_of_le_length hplace, List.forall_mem_append, List.forall_mem_singleton,
        decide_eq_true_iff, and_comm, ne_comm]
    · have hbehind : (ps ++ [p]).drop (ps.length + 1) = [] := List.drop_eq_nil_of_le (by simp)
      rw [isNoted_concat_self, IsLastOfType, hbehind]
      exact iff_of_true rfl (List.forall_mem_nil _)

/-- The proposals that stay are those at the last place of their type. -/
theorem lastOfEachType_eq_filter (ps : List Proposal) :
    lastOfEachType ps = (ps.zipIdx.filter (IsLastOfType ps ·)).map Prod.fst := by
  rw [lastOfEachType]
  refine congrArg _ (List.filter_congr fun m hm ↦ ?_)
  rw [Bool.eq_iff_iff, decide_eq_true_iff]
  exact isNoted_iff_isLastOfType hm

/-- **A proposal that stays is the last one of its type.** -/
theorem exists_split_of_mem_lastOfEachType (h : p ∈ lastOfEachType ps) :
    ∃ before after, ps = before ++ p :: after ∧ ∀ q ∈ after, q.type ≠ p.type := by
  rw [lastOfEachType_eq_filter] at h
  obtain ⟨⟨q, i⟩, hm, rfl⟩ := List.mem_map.1 h
  obtain ⟨hplace, hlast⟩ := List.mem_filter.1 hm
  obtain ⟨hi, hget⟩ := List.getElem?_eq_some_iff.1 (List.mem_zipIdx_iff_getElem?.1 hplace)
  refine ⟨ps.take i, ps.drop (i + 1), ?_, of_decide_eq_true hlast⟩
  rw [← hget, List.getElem_cons_drop, List.take_append_drop]

/-! ### Thinning out -/

/-- **Of each type exactly the last proposal stays.** Of two lists the second takes the place of its
types in the first. The proposals that stay are in order, have distinct types, leave no type out and
are those that stand at the last place of their type; thinning them out again changes nothing. -/
theorem lastOfEachType_exact (ps qs : List Proposal) :
    lastOfEachType (ps ++ qs) =
        (lastOfEachType ps).filter (·.type ∉ qs.map Proposal.type) ++ lastOfEachType qs ∧
      (lastOfEachType ps).Sublist ps ∧
      ((lastOfEachType ps).map Proposal.type).Nodup ∧
      (∀ type, type ∈ (lastOfEachType ps).map Proposal.type ↔ type ∈ ps.map Proposal.type) ∧
      lastOfEachType ps = (ps.zipIdx.filter (IsLastOfType ps ·)).map Prod.fst ∧
      lastOfEachType (lastOfEachType ps) = lastOfEachType ps :=
  ⟨lastOfEachType_append ps qs, lastOfEachType_sublist ps, lastOfEachType_types_nodup ps,
    fun _ ↦ mem_types_lastOfEachType_iff, lastOfEachType_eq_filter ps,
    lastOfEachType_eq_self (lastOfEachType_types_nodup ps)⟩

/-- The last one stays where it stands, even if the same was proposed before. -/
example :
    lastOfEachType
        [⟨"from", "esa", none, none⟩, ⟨"to", "nasa", none, none⟩, ⟨"from", "jaxa", none, none⟩,
          ⟨"from", "esa", none, none⟩] =
      [⟨"to", "nasa", none, none⟩, ⟨"from", "esa", none, none⟩] := by
  decide

end BlockQuery

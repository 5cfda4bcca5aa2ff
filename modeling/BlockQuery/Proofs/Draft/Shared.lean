import BlockQuery.Draft.Shared
import BlockQuery.Proofs.Draft.Entry
import BlockQuery.Proofs.Draft.History
import BlockQuery.Proofs.Intake.Types

/-!
# Keeping count between handles

Several handles put blocks into one draft and take blocks out of it, in some order that none of them
sees. All that they have is what came of their own actions. **Together these outcomes account for
the draft:** the blocks of a type that were put in, less those that were taken out, are what the
draft gained of that type (`Accounts`).

The count is kept by the type that a block turns out to have. A block may be asked for by the name
of its kind instead of its type, and it is taken out by its identifier.

An edit that replaces all blocks says nothing of those that it drops, so it is left out here. Every
other edit changes how often a type occurs by what its outcome says (`Change.count_usedTypes`). That
does not take distinct types. These are what makes the count one or zero, and so the presence of a
type.
-/

namespace BlockQuery

namespace Draft

variable {d : Draft} {e : Edit}

/-! ### What outcomes say of a type -/

/-- The type of the block that an edit asks for. -/
def Edit.newType? (r : Registry) (e : Edit) : Option String :=
  (e.newBlock? r).map Block.type

/-- Whether an edit with this outcome put a block of a type in. -/
def Edit.putIn (r : Registry) (type : String) (e : Edit) : Outcome → Bool
  | .added _ => e.newType? r = some type
  | _ => false

/-- Whether a block of a type was taken out. -/
def Outcome.tookOut (type : String) : Outcome → Bool
  | .removed b => b.type = type
  | _ => false

/-! ### One edit -/

/-- The types of the others are left when the first block with an identifier is taken away. -/
theorem count_map_type_eraseP {bs : List Block} {b : Block} {p : Block → Bool}
    (h : bs.find? p = some b) (type : String) :
    ((bs.eraseP p).map Block.type).count type + (if b.type = type then 1 else 0) =
      (bs.map Block.type).count type := by
  obtain ⟨hb, before, after, rfl, hbefore⟩ := List.find?_eq_some_iff_append.1 h
  have hkept : ∀ c ∈ before, ¬p c = true := by simpa using hbefore
  rw [List.eraseP_append_right _ hkept, List.eraseP_cons_of_pos hb]
  simp only [List.map_append, List.map_cons, List.count_append, List.count_cons, beq_iff_eq]
  omega

/-- **An edit changes how often a type occurs by what its outcome says,** unless it replaces all
blocks. -/
theorem Change.count_usedTypes {result : Outcome × Draft} (h : d.Change e result)
    (he : e.newBlocks? = none) (type : String) :
    result.2.usedTypes.count type + (if result.1.tookOut type then 1 else 0) =
      d.usedTypes.count type + if e.putIn d.registry type result.1 then 1 else 0 := by
  cases h with
  | refused => rfl
  | added b hnew =>
    have hput : e.putIn d.registry type (.added b.id) = decide (b.type = type) := by
      simp [Edit.putIn, Edit.newType?, hnew]
    rw [hput, usedTypes, List.map_append, List.count_append]
    simp [usedTypes, Outcome.tookOut, List.count_cons]
  | valuesSet =>
    rw [usedTypes, map_setFirst fun _ ↦ rfl]
    rfl
  | removed id b hfound =>
    have herase := count_map_type_eraseP hfound type
    simpa [usedTypes, Outcome.tookOut, Edit.putIn] using herase
  | replaced bs hnew => rw [he] at hnew; cases hnew

/-- A type that was asked for is there: its block was put in, or another one of the type was in the
way. -/
theorem mem_usedTypes_of_newType? {type : String} (h : e.newType? d.registry = some type) :
    type ∈ (d.step e).2.usedTypes := by
  have hinsert : ∀ (b : Block) (o : Outcome), b.type ∈ (d.settle o (d.insert b)).2.usedTypes := by
    intro b o
    cases hb : d.insert b with
    | ok after =>
      obtain ⟨-, rfl⟩ := insert_eq_ok_iff.1 hb
      simp [settle, usedTypes]
    | error f => exact (insert_eq_error_iff.1 hb).1
  cases e with
  | add fresh key =>
    obtain ⟨b, hb, rfl⟩ := Option.map_eq_some_iff.1 h
    obtain ⟨k, hk, rfl⟩ := Option.map_eq_some_iff.1 hb
    rw [step, add, hk]
    exact hinsert _ _
  | insert b =>
    obtain rfl := Option.some.inj h
    exact hinsert _ _
  | setValue | remove | replaceAll | takeIn | clear => cases h

/-- To add by what resolves to a registered type is to ask for that type. -/
theorem newType?_add {r : Registry} {key type : String} (htype : r.contains type = true)
    (hkey : r.typeOf key = type) (fresh : BlockId) :
    (Edit.add fresh key).newType? r = some type := by
  subst hkey
  rw [Registry.typeOf] at htype
  cases hfind : r.find? key with
  | none =>
    rw [hfind] at htype
    obtain ⟨k, hk, -⟩ := Registry.exists_find?_of_contains htype
    rw [Option.map_none, Option.getD_none, hfind] at hk
    cases hk
  | some k => simp [Edit.newType?, Edit.newBlock?, Registry.typeOf, hfind, Block.ofKind]

theorem trace_snd (d : Draft) (es : List Edit) : (d.trace es).2 = d.run es := by
  induction es generalizing d with
  | nil => rfl
  | cons e es ih => exact ih _

end Draft

namespace SharedDraft

variable {s : SharedDraft} {as : List Action}

/-! ### Many actions -/

/-- What was done, by whom, and what came of it. -/
def log (s : SharedDraft) (as : List Action) : List (Action × Draft.Outcome) :=
  as.zip (s.trace as).1

/-- How many blocks of a type were put in. -/
def putIn (r : Registry) (type : String) (log : List (Action × Draft.Outcome)) : ℕ :=
  log.countP fun entry ↦ entry.1.edit.putIn r type entry.2

/-- How many blocks of a type were taken out. -/
def tookOut (type : String) (log : List (Action × Draft.Outcome)) : ℕ :=
  log.countP fun entry ↦ entry.2.tookOut type

theorem putIn_cons (r : Registry) (type : String) (a : Action) (o : Draft.Outcome)
    (log : List (Action × Draft.Outcome)) :
    putIn r type ((a, o) :: log) =
      putIn r type log + if a.edit.putIn r type o then 1 else 0 :=
  List.countP_cons

theorem tookOut_cons (type : String) (a : Action) (o : Draft.Outcome)
    (log : List (Action × Draft.Outcome)) :
    tookOut type ((a, o) :: log) = tookOut type log + if o.tookOut type then 1 else 0 :=
  List.countP_cons

theorem tookOut_append (type : String) (log log' : List (Action × Draft.Outcome)) :
    tookOut type (log ++ log') = tookOut type log + tookOut type log' :=
  List.countP_append

theorem log_cons (s : SharedDraft) (a : Action) (as : List Action) :
    s.log (a :: as) = (a, (s.act a).1) :: (s.act a).2.log as :=
  rfl

theorem trace_cons_snd (s : SharedDraft) (a : Action) (as : List Action) :
    (s.trace (a :: as)).2 = ((s.act a).2.trace as).2 :=
  rfl

/-- A log goes on with the draft that was left. -/
theorem log_append (s : SharedDraft) (as as' : List Action) :
    s.log (as ++ as') = s.log as ++ (s.trace as).2.log as' := by
  induction as generalizing s with
  | nil => rfl
  | cons a as ih => rw [List.cons_append, log_cons, ih, log_cons, trace_cons_snd, List.cons_append]

theorem trace_append_snd (s : SharedDraft) (as as' : List Action) :
    (s.trace (as ++ as')).2 = ((s.trace as).2.trace as').2 := by
  induction as generalizing s with
  | nil => rfl
  | cons a as ih => rw [List.cons_append, trace_cons_snd, ih, trace_cons_snd]

/-- **Whoever acts, the draft is that of the edits in their order.** -/
theorem draft_trace (s : SharedDraft) (as : List Action) :
    (s.trace as).2.draft = s.draft.run (as.map Action.edit) :=
  Draft.trace_snd _ _

theorem registry_trace (s : SharedDraft) (as : List Action) :
    (s.trace as).2.draft.registry = s.draft.registry := by
  rw [draft_trace, Draft.registry_run]

/-- Types stay distinct under any actions. -/
theorem usedTypes_nodup_trace (hs : s.draft.usedTypes.Nodup) (as : List Action) :
    (s.trace as).2.draft.usedTypes.Nodup := by
  rw [draft_trace]
  exact Draft.usedTypes_nodup_run hs _

/-- **Outcomes account for how often a type occurs,** whoever did what and in whatever order. -/
theorem count_usedTypes_trace (s : SharedDraft) (has : ∀ a ∈ as, a.edit.newBlocks? = none)
    (type : String) :
    (s.trace as).2.draft.usedTypes.count type + tookOut type (s.log as) =
      s.draft.usedTypes.count type + putIn s.draft.registry type (s.log as) := by
  induction as generalizing s with
  | nil => rfl
  | cons a as ih =>
    obtain ⟨ha, has⟩ := List.forall_mem_cons.1 has
    have hchange : s.draft.Change a.edit ((s.act a).1, (s.act a).2.draft) :=
      s.draft.change_step a.edit
    have hstep := hchange.count_usedTypes ha type
    have hrest := ih (s.act a).2 has
    rw [hchange.registry_eq] at hrest
    rw [trace_cons_snd, log_cons, tookOut_cons, putIn_cons]
    dsimp only at hstep
    omega

/-- A type that is asked for is there in the end, unless a block of it was taken out. -/
theorem one_le_count_of_asked (has : ∀ a ∈ as, a.edit.newBlocks? = none) {type : String}
    {a : Action} (ha : a ∈ as) (hasked : a.edit.newType? s.draft.registry = some type)
    (hkept : tookOut type (s.log as) = 0) :
    1 ≤ (s.trace as).2.draft.usedTypes.count type := by
  obtain ⟨before, after, rfl⟩ := List.append_of_mem ha
  rw [log_append, tookOut_append, log_cons, tookOut_cons] at hkept
  have hafter : ∀ c ∈ after, c.edit.newBlocks? = none := fun c hc ↦ has c (by simp [hc])
  have hcount := count_usedTypes_trace ((s.trace before).2.act a).2 hafter type
  -- right behind the action the type is there, and nothing takes it away
  rw [← registry_trace s before] at hasked
  have hthere : type ∈ ((s.trace before).2.act a).2.draft.usedTypes :=
    Draft.mem_usedTypes_of_newType? hasked
  have hpos := List.one_le_count_iff.2 hthere
  rw [trace_append_snd, trace_cons_snd]
  omega

/-! ### The account of a type -/

/-- One for a draft with a block of a type, and zero for one without. -/
def presence (d : Draft) (type : String) : ℤ :=
  if d.hasType type then 1 else 0

/-- With distinct types, how often a type is there is whether it is. -/
theorem presence_eq_count {d : Draft} (hd : d.usedTypes.Nodup) (type : String) :
    presence d type = d.usedTypes.count type := by
  simp only [presence, hd.count, Draft.hasType_eq_true_iff]
  split <;> rfl

/-- The outcomes of actions account for a type in the draft behind the handles. -/
structure Accounts (s : SharedDraft) (as : List Action) (type : String) : Prop where
  /-- What was put in less what was taken out is what the draft gained. -/
  balance : (putIn s.draft.registry type (s.log as) : ℤ) - tookOut type (s.log as) =
    presence (s.trace as).2.draft type - presence s.draft type
  /-- While no block of the type is taken out, at most one is put in. -/
  atMostOne : ∀ before during after, as = before ++ during ++ after →
    tookOut type ((s.trace before).2.log during) = 0 →
      putIn s.draft.registry type ((s.trace before).2.log during) ≤ 1
  /-- If meanwhile a registered type that was absent is added at all, exactly one is put in. It may
  be added by the name of its kind. -/
  exactlyOne : ∀ before during after, as = before ++ during ++ after →
    tookOut type ((s.trace before).2.log during) = 0 →
      s.draft.registry.contains type = true → (s.trace before).2.draft.hasType type = false →
        ∀ a ∈ during, ∀ fresh key, a.edit = .add fresh key →
          s.draft.registry.typeOf key = type →
            putIn s.draft.registry type ((s.trace before).2.log during) = 1

/-- The balance of a type, when types are distinct. -/
theorem putIn_sub_tookOut (hs : s.draft.usedTypes.Nodup)
    (has : ∀ a ∈ as, a.edit.newBlocks? = none) (type : String) :
    (putIn s.draft.registry type (s.log as) : ℤ) - tookOut type (s.log as) =
      presence (s.trace as).2.draft type - presence s.draft type := by
  have hcount := count_usedTypes_trace s has type
  rw [presence_eq_count hs, presence_eq_count (usedTypes_nodup_trace hs as)]
  omega

/-- A type occurs once at most, so it is put in once at most if it is not taken out. -/
theorem putIn_le_one (hs : s.draft.usedTypes.Nodup) (has : ∀ a ∈ as, a.edit.newBlocks? = none)
    {type : String} (hkept : tookOut type (s.log as) = 0) :
    putIn s.draft.registry type (s.log as) ≤ 1 := by
  have hcount := count_usedTypes_trace s has type
  have hone := List.nodup_iff_count_le_one.1 (usedTypes_nodup_trace hs as) type
  omega

/-- A type that was absent and is asked for is put in once if it is not taken out. -/
theorem putIn_eq_one (hs : s.draft.usedTypes.Nodup) (has : ∀ a ∈ as, a.edit.newBlocks? = none)
    {type : String} (hkept : tookOut type (s.log as) = 0) (habsent : s.draft.hasType type = false)
    {a : Action} (ha : a ∈ as) (hasked : a.edit.newType? s.draft.registry = some type) :
    putIn s.draft.registry type (s.log as) = 1 := by
  have hnone : s.draft.usedTypes.count type = 0 := by
    rw [List.count_eq_zero, ← Draft.hasType_eq_true_iff, habsent]
    exact Bool.false_ne_true
  have hcount := count_usedTypes_trace s has type
  have hthere := one_le_count_of_asked has ha hasked hkept
  have hone := putIn_le_one hs has hkept
  omega

/-- **No block is lost or put in twice between handles.** From any draft with distinct types, in
whatever order blocks are added, changed and taken out through any number of handles, the outcomes
account for every type. -/
theorem outcomes_account (s : SharedDraft) (hs : s.draft.usedTypes.Nodup) (as : List Action)
    (has : ∀ a ∈ as, a.edit.newBlocks? = none) (type : String) : Accounts s as type where
  balance := putIn_sub_tookOut hs has type
  atMostOne := by
    rintro before during after rfl hkept
    have hduring : ∀ a ∈ during, a.edit.newBlocks? = none := fun a ha ↦ has a (by simp [ha])
    rw [← registry_trace s before]
    exact putIn_le_one (usedTypes_nodup_trace hs before) hduring hkept
  exactlyOne := by
    rintro before during after rfl hkept hknown habsent a ha fresh key hadd hkey
    have hduring : ∀ a ∈ during, a.edit.newBlocks? = none := fun a ha ↦ has a (by simp [ha])
    have hasked : a.edit.newType? s.draft.registry = some type := by
      rw [hadd]
      exact Draft.newType?_add hknown hkey fresh
    rw [← registry_trace s before] at hasked ⊢
    exact putIn_eq_one (usedTypes_nodup_trace hs before) hduring hkept habsent ha hasked

/-- A draft of a block that no registry knows. -/
def sharedStart : SharedDraft :=
  ⟨⟨.renamed, [⟨⟨9⟩, "lang", "lang", .keyword, true, none, "en", none⟩]⟩⟩

/-- Three handles take turns. A type is added by the name of its kind and by itself. -/
def firstTurns : List Action :=
  [⟨0, .add ⟨1⟩ "author"⟩, ⟨1, .add ⟨2⟩ "from"⟩, ⟨2, .setValue ⟨1⟩ "nasa" none⟩,
    ⟨1, .remove ⟨1⟩⟩, ⟨1, .remove ⟨1⟩⟩]

/-- Two of them add the type once more, under one identifier. -/
def lastTurns : List Action :=
  [⟨0, .remove ⟨9⟩⟩, ⟨2, .add ⟨1⟩ "from"⟩, ⟨0, .add ⟨1⟩ "author"⟩]

theorem outcomes_account_turns :
    sharedStart.draft.usedTypes.Nodup ∧
      (∀ a ∈ firstTurns ++ lastTurns, a.edit.newBlocks? = none) ∧
      Accounts sharedStart (firstTurns ++ lastTurns) "from" ∧
      putIn .renamed "from" (sharedStart.log (firstTurns ++ lastTurns)) = 2 ∧
      putIn .renamed "from" ((sharedStart.trace firstTurns).2.log lastTurns) = 1 := by
  have hdistinct : sharedStart.draft.usedTypes.Nodup := by decide
  have hturns : ∀ a ∈ firstTurns ++ lastTurns, a.edit.newBlocks? = none := by decide
  have haccounts := outcomes_account sharedStart hdistinct (firstTurns ++ lastTurns) hturns "from"
  refine ⟨hdistinct, hturns, haccounts, by decide +kernel, ?_⟩
  exact haccounts.exactlyOne firstTurns lastTurns [] (by rw [List.append_nil]) (by decide +kernel)
    (by decide +kernel) (by decide +kernel) ⟨2, .add ⟨1⟩ "from"⟩ (by simp [lastTurns]) ⟨1⟩ "from"
    rfl (by decide +kernel)

end SharedDraft

end BlockQuery

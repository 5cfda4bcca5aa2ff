import BlockQuery.Proofs.Block.Spelling
import BlockQuery.Proofs.Draft.Ids
import BlockQuery.Proofs.Editor.State

/-!
# Calls that name a block

Two calls name the block that they are about by a text. They read the identifier first and go on
with that, and **nothing but the answer of a call that is done repeats the text**. So it does not
matter how the identifier is spelled: the draft is left the same, and what goes wrong is the same.
-/

namespace BlockQuery

namespace Editor

variable {e : Editor} {i : BlockId} {id id' : String}

/-- What a call comes to for a block that is named by either of two texts. It is done if there is a
draft that has the block, and then each answer repeats the text; or it is refused for one reason. -/
inductive SameFate (e : Editor) (i : BlockId) (id id' : String) :
    String × Editor → String × Editor → Prop where
  | done {d : Draft} (hd : e.draft = some d) (hi : i ∈ d.usedIds) (after : Draft) :
      SameFate e i id id' (idAnswer id, ⟨some after⟩) (idAnswer id', ⟨some after⟩)
  | refused (hi : ∀ d, e.draft = some d → i ∉ d.usedIds) (problem : String) :
      SameFate e i id id' (errorAnswer problem, e) (errorAnswer problem, e)

/-- A call reads the identifier, looks for the draft, and edits that, which is refused exactly if no
block has the identifier. -/
theorem SameFate.of_edit {β : Type} (edit : BlockId → Draft → Except Draft.Fault β)
    (after : β → Draft)
    (hedit : ∀ d, (∃ f, edit i d = .error f) ↔ i ∉ d.usedIds)
    (hid : BlockId.parse id = .ok i) (hid' : BlockId.parse id' = .ok i) :
    SameFate e i id id'
      (e.conclude do
        let blockId ← readId id
        let d ← e.current
        let b ← explained (edit blockId d)
        return (idAnswer id, after b))
      (e.conclude do
        let blockId ← readId id'
        let d ← e.current
        let b ← explained (edit blockId d)
        return (idAnswer id', after b)) := by
  rw [readId, readId, hid, hid']
  cases hd : e.draft with
  | none =>
    rw [current_eq_error hd]
    exact .refused (fun d hd' ↦ by rw [hd] at hd'; cases hd') notStarted
  | some d =>
    rw [current_eq_ok.2 hd]
    change SameFate e i id id' (e.conclude (explained (edit i d) >>= _))
      (e.conclude (explained (edit i d) >>= _))
    cases hb : edit i d with
    | error f =>
      refine .refused (fun d' hd' ↦ ?_) f.message
      obtain rfl := Option.some.inj (hd.symm.trans hd')
      exact (hedit d).1 ⟨f, hb⟩
    | ok b =>
      have hi : i ∈ d.usedIds := by
        by_contra hunused
        obtain ⟨f, hf⟩ := (hedit d).2 hunused
        rw [hb] at hf
        cases hf
      exact .done hd hi (after b)

/-- Changing values depends on the identifier and not on its text. -/
theorem sameFate_update (hid : BlockId.parse id = .ok i) (hid' : BlockId.parse id' = .ok i)
    (e : Editor) (value : String) (second : Option String) :
    SameFate e i id id' (e.update id value second) (e.update id' value second) := by
  refine .of_edit (fun blockId d ↦ d.setValue blockId value second) (fun after ↦ after)
    (fun d ↦ ?_) hid hid'
  simp only [Draft.setValue_eq_error_iff, exists_and_left, exists_eq, and_true]

/-- Removal depends on the identifier and not on its text, either. -/
theorem sameFate_remove (hid : BlockId.parse id = .ok i) (hid' : BlockId.parse id' = .ok i)
    (e : Editor) : SameFate e i id id' (e.remove id) (e.remove id') := by
  refine .of_edit (fun blockId d ↦ d.remove blockId) Prod.snd (fun d ↦ ?_) hid hid'
  simp only [Draft.remove_eq_error_iff, exists_and_left, exists_eq, and_true]

/-- **How an identifier is spelled does not matter.** Its text is read as this identifier, and so is
each of its four forms in any mix of letter case, and no other text. Calls of any editor that name a
block by two of these texts leave the same draft, and are done or refused alike. And two texts that
are read name the same identifier exactly if they have the same digits in the same order, letter
case and the marker in front aside. -/
theorem spelling_immaterial (i : BlockId) :
    BlockId.parse i.text = .ok i ∧
      (∀ s : String, BlockId.parse s = .ok i ↔ BlockId.Spells s i) ∧
      (∀ s s' : String, BlockId.Spells s i → BlockId.Spells s' i →
        ∀ (e : Editor) (value : String) (second : Option String),
          SameFate e i s s' (e.update s value second) (e.update s' value second) ∧
            SameFate e i s s' (e.remove s) (e.remove s')) ∧
      ∀ (s s' : String) (i' : BlockId), BlockId.parse s = .ok i → BlockId.parse s' = .ok i' →
        (BlockId.digitsOf s = BlockId.digitsOf s' ↔ i = i') := by
  refine ⟨i.parse_text, fun s ↦ BlockId.parse_eq_ok_iff, fun s s' hs hs' e value second ↦ ?_,
    fun s s' i' hs hs' ↦ ?_⟩
  · have hid := BlockId.parse_eq_ok_iff.2 hs
    have hid' := BlockId.parse_eq_ok_iff.2 hs'
    exact ⟨sameFate_update hid hid' e value second, sameFate_remove hid hid' e⟩
  · rw [BlockId.digitsOf_of_spells (BlockId.parse_eq_ok_iff.1 hs),
      BlockId.digitsOf_of_spells (BlockId.parse_eq_ok_iff.1 hs'), BlockId.digits_inj]

/-- Letters in mixed case behind a marker in capitals, and digits alone. Once the marker is taken
off, these are the same digits, although the marker has a letter that is one. -/
theorem spelling_immaterial_mixed :
    ∃ (i : BlockId) (s s' : String), BlockId.Spells s i ∧ BlockId.Spells s' i ∧
      (∀ e value second,
        SameFate e i s s' (Editor.update e s value second) (Editor.update e s' value second)) ∧
      BlockId.digitsOf s = BlockId.digitsOf s' ∧ 'D' ∈ s.toList ∧ 'D' ∉ s'.toList := by
  let i : BlockId := ⟨0x67e5504410b1426f9247bb680e5fe0c8⟩
  let s := "URN:UUID:67e55044-10B1-426f-9247-bB680e5fE0c8"
  let s' := "67E5504410B1426F9247BB680E5FE0C8"
  have hs : BlockId.Spells s i := by decide +kernel
  have hs' : BlockId.Spells s' i := by decide +kernel
  obtain ⟨-, hread, hcalls, hdigits⟩ := spelling_immaterial i
  have hsame := (hdigits s s' i ((hread s).2 hs) ((hread s').2 hs')).2 rfl
  exact ⟨i, s, s', hs, hs', fun e value second ↦ (hcalls s s' hs hs' e value second).1, hsame,
    by decide, by decide⟩

end Editor

end BlockQuery

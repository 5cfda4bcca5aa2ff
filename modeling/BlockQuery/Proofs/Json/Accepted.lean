import BlockQuery.Json.Record
import Mathlib.Data.List.Forall2

/-!
# What readers accept

A reader that yields a value came across no fault, and this says what the tree in front of it looks
like. A list that is read as a list is closed, and each of its items is read (`listOf_eq_ok_iff`). A
record is read from an object or from a list. **As a list it is closed as well, it has no more items
than there are fields, and it starts with a value of the first field** unless that field may be left
out (`exists_items_of_read_list`).
-/

namespace BlockQuery

theorem bind_eq_ok {ε α β : Type} {x : Except ε α} {f : α → Except ε β} {b : β} :
    (x >>= f) = .ok b ↔ ∃ a, x = .ok a ∧ f a = .ok b := by
  cases x <;> simp [bind, Except.bind]

theorem map_eq_ok {ε α β : Type} {x : Except ε α} {f : α → β} {b : β} :
    x.map f = .ok b ↔ ∃ a, x = .ok a ∧ f a = b := by
  cases x <;> simp [Except.map]

namespace Json

variable {α : Type}

/-! ### No fault -/

theorem Fault.raise?_eq_ok {fault? : Option Fault} {u : Unit} :
    Fault.raise? fault? = .ok u ↔ fault? = none := by
  cases fault? <;> simp [raise?]

theorem ListEnd.fault?_eq_none {ending : ListEnd} : ending.fault? = none ↔ ending = .closed := by
  cases ending <;> simp [fault?]

theorem ListEnd.surplusFault?_eq_none {ending : ListEnd} :
    ending.surplusFault? = none ↔ ending = .closed := by
  cases ending <;> simp [surplusFault?, fault?]

/-! ### Scalars and lists -/

namespace Reader

/-- A text that is read is the whole payload, and its tree is read. -/
theorem run_eq_ok {read : Reader α} {s : String} {a : α} (h : read.run s = .ok a) :
    read maxDepth (Document.ofText s).root = .ok a := by
  obtain ⟨b, hread, h⟩ := bind_eq_ok.1 h
  split at h
  · cases h
  · rwa [← Except.ok.inj h]

theorem text_eq_ok {depth : ℕ} {n : Node} {s : String} (h : text depth n = .ok s) :
    n = .text (.ok s) := by
  cases n with
  | text t => exact congrArg _ h
  | _ => cases h

/-- A list is taken as the list of what its items are taken as. -/
theorem exists_items_of_anything {depth : ℕ} {items : List Node} {ending : ListEnd} {v : Json}
    (h : anything depth (.list items ending) = .ok v) :
    ∃ outer vs, depth = outer + 1 ∧ anyItems outer items = .ok vs ∧ v = .list vs := by
  cases depth with
  | zero => cases h
  | succ outer =>
    rw [anything] at h
    obtain ⟨vs, hitems, h⟩ := bind_eq_ok.1 h
    obtain ⟨_, -, h⟩ := bind_eq_ok.1 h
    exact ⟨outer, vs, rfl, hitems, (Except.ok.inj h).symm⟩

/-- An object is taken as the object of its members, set one after another. -/
theorem exists_members_of_anything {depth : ℕ} {members : List (Key × Node)} {ending : ObjectEnd}
    {v : Json} (h : anything depth (.object members ending) = .ok v) :
    ∃ outer ms, depth = outer + 1 ∧ anyMembers outer [] members = .ok ms ∧ v = .object ms := by
  cases depth with
  | zero => cases h
  | succ outer =>
    rw [anything] at h
    obtain ⟨ms, hmembers, h⟩ := bind_eq_ok.1 h
    obtain ⟨_, -, h⟩ := bind_eq_ok.1 h
    exact ⟨outer, ms, rfl, hmembers, (Except.ok.inj h).symm⟩

/-- Only a text is taken as this text. -/
theorem anything_eq_ok_text {depth : ℕ} {n : Node} {s : String}
    (h : anything depth n = .ok (.text s)) : n = .text (.ok s) := by
  cases n with
  | text t =>
    rw [anything] at h
    obtain ⟨s, rfl, htext⟩ := map_eq_ok.1 h
    rw [Json.text.inj htext]
  | list items ending =>
    obtain ⟨_, _, -, -, hlist⟩ := exists_items_of_anything h
    cases hlist
  | object members ending =>
    obtain ⟨_, _, -, -, hobject⟩ := exists_members_of_anything h
    cases hobject
  | number x => cases x <;> cases h
  | _ => cases h

/-- Only `null` is read as nothing. -/
theorem optional_eq_ok_none {read : Reader α} {depth : ℕ} {n : Node}
    (h : read.optional depth n = .ok none) : n = .null := by
  unfold optional at h
  split at h
  · rfl
  · cases h
  · obtain ⟨_, -, h⟩ := map_eq_ok.1 h
    cases h

/-- A value that may be `null` and is there was read as such. -/
theorem optional_eq_ok_some {read : Reader α} {depth : ℕ} {n : Node} {a : α}
    (h : read.optional depth n = .ok (some a)) : read depth n = .ok a := by
  unfold optional at h
  split at h
  · cases h
  · cases h
  · obtain ⟨b, hread, h⟩ := map_eq_ok.1 h
    rwa [← Option.some.inj h]

/-- Items are read one by one, and all of them or none. -/
theorem mapM_eq_ok_iff {β : Type} {f : β → Except Fault α} {bs : List β} {as : List α} :
    bs.mapM f = .ok as ↔ List.Forall₂ (fun b a ↦ f b = .ok a) bs as := by
  induction bs generalizing as with
  | nil =>
    rw [List.mapM_nil, List.forall₂_nil_left_iff]
    exact ⟨fun h ↦ (Except.ok.inj h).symm, fun h ↦ congrArg _ h.symm⟩
  | cons b bs ih =>
    rw [List.mapM_cons, List.forall₂_cons_left_iff]
    constructor
    · intro h
      obtain ⟨a, ha, h⟩ := bind_eq_ok.1 h
      obtain ⟨rest, hrest, h⟩ := bind_eq_ok.1 h
      exact ⟨a, rest, ha, ih.1 hrest, (Except.ok.inj h).symm⟩
    · rintro ⟨a, rest, ha, hrest, rfl⟩
      rw [ha, ih.2 hrest]
      rfl

/-- **A list that is read is closed,** and its items are read one by one, one bracket deeper. -/
theorem listOf_eq_ok_iff {read : Reader α} {depth : ℕ} {n : Node} {as : List α} :
    listOf read depth n = .ok as ↔
      ∃ outer items, depth = outer + 1 ∧ n = .list items .closed ∧
        List.Forall₂ (fun n a ↦ read outer n = .ok a) items as := by
  constructor
  · intro h
    cases n with
    | list items ending =>
      cases depth with
      | zero => cases h
      | succ outer =>
        obtain ⟨bs, hitems, h⟩ := bind_eq_ok.1 h
        obtain ⟨_, hend, h⟩ := bind_eq_ok.1 h
        obtain rfl := Except.ok.inj h
        obtain rfl := ListEnd.fault?_eq_none.1 (Fault.raise?_eq_ok.1 hend)
        exact ⟨outer, items, rfl, rfl, mapM_eq_ok_iff.1 hitems⟩
    | _ => cases depth <;> cases h
  · rintro ⟨outer, items, rfl, rfl, hitems⟩
    rw [listOf, mapM_eq_ok_iff.2 hitems]
    rfl

end Reader

namespace Record

variable {title : String} {r : Record α} {depth : ℕ} {n : Node} {items : List Node}
  {ending : ListEnd} {a : α}

/-- A record is read from an object or from a list. -/
theorem isObject_or_isList_of_read (h : r.read title depth n = .ok a) :
    (∃ members ending, n = .object members ending) ∨ ∃ items ending, n = .list items ending := by
  cases n with
  | object members ending => exact .inl ⟨members, ending, rfl⟩
  | list items ending => exact .inr ⟨items, ending, rfl⟩
  | _ => cases depth <;> cases h

/-- The items of a list are dealt out only if the first one passes the check of the first field,
unless that may be left out. -/
theorem exists_items_of_deal {f : Field} {fs : List Field} {size index : ℕ}
    {given : List (String × Node)} (hf : f.presence ≠ .optional)
    (h : deal title size depth ending index (f :: fs) items = .ok given) :
    ∃ n rest, items = n :: rest ∧ f.check depth n = .ok () := by
  cases items with
  | nil =>
    obtain ⟨_, -, h⟩ := bind_eq_ok.1 h
    rw [if_neg hf] at h
    cases h
  | cons n rest =>
    obtain ⟨_, hcheck, -⟩ := bind_eq_ok.1 h
    exact ⟨n, rest, rfl, hcheck⟩

/-- **A list that is read as a record** is closed, is not longer than the record, and starts with a
value of the first field, unless that may be left out. -/
theorem exists_items_of_read_list {f : Field} {fs : List Field} (hfields : r.fields = f :: fs)
    (hf : f.presence ≠ .optional) (h : r.read title depth (.list items ending) = .ok a) :
    ending = .closed ∧ items.length ≤ r.fields.length ∧
      ∃ outer n rest, depth = outer + 1 ∧ items = n :: rest ∧ f.check outer n = .ok () := by
  cases depth with
  | zero => cases h
  | succ outer =>
    obtain ⟨given, hdeal, h⟩ := bind_eq_ok.1 h
    obtain ⟨b, -, h⟩ := bind_eq_ok.1 h
    obtain ⟨_, hsurplus, -⟩ := bind_eq_ok.1 h
    have hend := Fault.raise?_eq_ok.1 hsurplus
    unfold surplusFault? at hend
    split at hend
    · cases hend
    · next hlength =>
      rw [hfields] at hdeal
      obtain ⟨n, rest, hitems, hcheck⟩ := exists_items_of_deal hf hdeal
      exact ⟨ListEnd.surplusFault?_eq_none.1 hend, Nat.not_lt.1 hlength, outer, n, rest, rfl,
        hitems, hcheck⟩

/-- **A record of one field may be spelled as a list of its value.** -/
theorem read_required_singleton (title name : String) (read : Reader α) (depth : ℕ) (n : Node) :
    (required name read).read title (depth + 1) (.list [n] .closed) = read depth n := by
  cases h : read depth n with
  | error f => simp [Record.read, required, field, deal, h, bind, Except.bind, Except.map]
  | ok a =>
    have hsurplus : surplusFault? 1 [n] .closed = none := rfl
    simp [Record.read, required, field, deal, h, bind, Except.bind, Except.map, pure, Except.pure,
      hsurplus, Fault.raise?]

end Record

end Json

end BlockQuery

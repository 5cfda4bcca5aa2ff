import BlockQuery.Proofs.Json.Records
import Mathlib.Logic.Function.Basic

/-!
# Members that are read alike

A record is built from what is given under the names of its fields, and each field sees only what is
given under its own name. So a member may be exchanged for another one that its field reads alike,
and where a field takes `null` for nothing, a member that is `null` may be left out.

**The rest of the object does not notice,** whatever it looks like: members in front and behind, in
any number, known or unknown, faulty or sound. The object is read as the same value, or is refused
for the same reason (`read_exchange`, `read_leaveOut`).

`Record.Alike` is what has to be known of a record. Like `Record.Makes` it is put together with
`<$>` and `<*>`, one field at a time.
-/

namespace BlockQuery.Json

open Function (update)

variable {α β : Type} {name : String} {o o' : Option Node} {n n' : Node} {depth : ℕ}

/-- What the check of a field says of what is given; nothing, if nothing is given. -/
def Field.checkGiven (f : Field) (depth : ℕ) : Option Node → Except Fault Unit
  | none => .ok ()
  | some n => f.check depth n

namespace Record

/-! ### What a record tells apart -/

/-- A record does not tell apart what is given under a name. -/
structure Alike (r : Record α) (depth : ℕ) (name : String) (o o' : Option Node) : Prop where
  checked : ∀ f ∈ r.fields, f.name = name → f.checkGiven depth o = f.checkGiven depth o'
  built : ∀ given?, r.build depth (update given? name o) = r.build depth (update given? name o')

section Field

variable {key : String} {read : Reader α} {presence : Presence} {absent : Except Fault α}

/-- A field reads what is given under its own name only. -/
theorem alike_of_ne (hne : key ≠ name) :
    (field key read presence absent).Alike depth name o o' where
  checked f hf hname := by
    obtain rfl := List.mem_singleton.1 hf
    exact absurd hname hne
  built given? := by
    show ((update given? name o key).map _).getD _ = ((update given? name o' key).map _).getD _
    rw [Function.update_of_ne hne, Function.update_of_ne hne]

/-- A field does not tell apart what it reads alike. -/
theorem alike_of_read_eq (h : read depth n = read depth n') :
    (field key read presence absent).Alike depth name (some n) (some n') where
  checked f hf _ := by
    obtain rfl := List.mem_singleton.1 hf
    show (read depth n).map _ = (read depth n').map _
    rw [h]
  built given? := by
    by_cases hname : key = name
    · subst hname
      show ((update given? key (some n) key).map _).getD _ =
        ((update given? key (some n') key).map _).getD _
      rw [Function.update_self, Function.update_self, Option.map_some, Option.map_some, h]
    · exact (alike_of_ne hname).built given?

/-- A field does not tell `null` from nothing if it reads `null` as the value that it falls back
on. -/
theorem alike_null {a : α} (h : read depth .null = .ok a) :
    (field key read presence (.ok a)).Alike depth name (some .null) none where
  checked f hf _ := by
    obtain rfl := List.mem_singleton.1 hf
    show (read depth .null).map _ = .ok ()
    rw [h]
    rfl
  built given? := by
    by_cases hname : key = name
    · subst hname
      show ((update given? key (some .null) key).map _).getD _ =
        ((update given? key none key).map _).getD _
      rw [Function.update_self, Function.update_self, Option.map_some, Option.map_none,
        Option.getD_some, Option.getD_none, h]
    · exact (alike_of_ne hname).built given?

end Field

/-- What is made of a record tells no more apart than the record. -/
theorem Alike.map {r : Record α} (h : r.Alike depth name o o') (f : α → β) :
    (f <$> r).Alike depth name o o' where
  checked := h.checked
  built given? := congrArg (Except.map f) (h.built given?)

/-- Two records together tell no more apart than each of them. -/
theorem Alike.seq {r : Record (α → β)} {s : Record α} (hr : r.Alike depth name o o')
    (hs : s.Alike depth name o o') : (r <*> s).Alike depth name o o' where
  checked := List.forall_mem_append.2 ⟨hr.checked, hs.checked⟩
  built given? := by
    show (do let f ← r.build depth _; let a ← s.build depth _; return f a) =
      (do let f ← r.build depth _; let a ← s.build depth _; return f a)
    rw [hr.built, hs.built]

/-! ### What is given is the same but under one name -/

/-- The lists give the same but under a name, where one of them gives this and the other one
that. -/
structure GiveBut (name : String) (o o' : Option Node) (given given' : List (String × Node)) :
    Prop where
  elsewhere : ∀ key ≠ name, given.lookup key = given'.lookup key
  here : given.lookup name = o
  here' : given'.lookup name = o'

/-- One more member under another name leaves the rest the same. -/
theorem GiveBut.cons {given given' : List (String × Node)} (h : GiveBut name o o' given given')
    {key : String} (hkey : key ≠ name) (m : Node) :
    GiveBut name o o' ((key, m) :: given) ((key, m) :: given') where
  elsewhere k hk := by
    rw [List.lookup_cons, List.lookup_cons, h.elsewhere k hk]
  here := (lookup_cons_of_ne hkey.symm).trans h.here
  here' := (lookup_cons_of_ne hkey.symm).trans h.here'

/-- One more member under the name itself hides what was given for it before. -/
theorem giveBut_cons (name : String) (n n' : Node) (given : List (String × Node)) :
    GiveBut name (some n) (some n') ((name, n) :: given) ((name, n') :: given) where
  elsewhere key hkey := by
    rw [lookup_cons_of_ne hkey, lookup_cons_of_ne hkey]
  here := List.lookup_cons_self
  here' := List.lookup_cons_self

/-- **A record that takes two nodes alike makes the same of what is given with either.** -/
theorem GiveBut.build_eq {r : Record α} (hr : r.Alike depth name o o')
    {given given' : List (String × Node)} (h : GiveBut name o o' given given') :
    r.build depth (List.lookup · given) = r.build depth (List.lookup · given') := by
  have hhere : (List.lookup · given) = update (List.lookup · given) name o := by
    rw [← h.here, Function.update_eq_self]
  have hhere' : (List.lookup · given') = update (List.lookup · given) name o' := by
    funext key
    by_cases hkey : key = name
    · subst hkey
      rw [Function.update_self, h.here']
    · rw [Function.update_of_ne hkey, h.elsewhere key hkey]
  rw [hhere, hhere']
  exact hr.built _

/-! ### Gathering, member by member -/

section Gather

variable {fields : List Field} {given given' : List (String × Node)} {key : String} {f : Field}

/-- A key that cannot be read is reported at once. -/
theorem gather_cons_of_fault (fault : Fault) (depth : ℕ) (given : List (String × Node)) (m : Node)
    (rest : List (Key × Node)) :
    gather fields depth given ((.error fault, m) :: rest) = .error fault := by
  rw [gather]
  rfl

/-- A member that no field asks for is skipped. -/
theorem gather_cons_of_unasked (hfield : fields.find? (·.name == key) = none) (depth : ℕ)
    (given : List (String × Node)) (m : Node) (rest : List (Key × Node)) :
    gather fields depth given ((.ok key, m) :: rest) =
      (Fault.raise? m.skipFault?).bind fun _ ↦ gather fields depth given rest := by
  rw [gather]
  simp only [hfield, bind, Except.bind]

/-- A member that is given twice is refused. -/
theorem gather_cons_of_twice (hfield : fields.find? (·.name == key) = some f) (depth : ℕ)
    (hgiven : given.lookup key ≠ none) (m : Node) (rest : List (Key × Node)) :
    gather fields depth given ((.ok key, m) :: rest) = .error (.duplicateField key) := by
  rw [gather]
  simp only [hfield, Option.isSome_iff_ne_none.2 hgiven, if_true, bind, Except.bind]

/-- Members are gathered one after another. -/
theorem gather_cons (fields : List Field) (depth : ℕ) (given : List (String × Node))
    (m : Key × Node) (ms : List (Key × Node)) :
    gather fields depth given (m :: ms) =
      (gather fields depth given [m]).bind fun given ↦ gather fields depth given ms := by
  obtain ⟨key, m⟩ := m
  cases key with
  | error fault => rw [gather_cons_of_fault, gather_cons_of_fault]; rfl
  | ok key =>
    cases hfield : fields.find? (·.name == key) with
    | none =>
      rw [gather_cons_of_unasked hfield, gather_cons_of_unasked hfield]
      cases Fault.raise? m.skipFault? <;> rfl
    | some f =>
      by_cases hgiven : given.lookup key = none
      · rw [gather_cons_of_asked hfield depth hgiven, gather_cons_of_asked hfield depth hgiven]
        cases f.check depth m <;> rfl
      · rw [gather_cons_of_twice hfield depth hgiven, gather_cons_of_twice hfield depth hgiven]
        rfl

/-- Members are gathered in two goes as in one. -/
theorem gather_append (fields : List Field) (depth : ℕ) (given : List (String × Node))
    (before after : List (Key × Node)) :
    gather fields depth given (before ++ after) =
      (gather fields depth given before).bind fun given ↦ gather fields depth given after := by
  induction before generalizing given with
  | nil => rfl
  | cons m before ih =>
    rw [List.cons_append, gather_cons, gather_cons fields depth given m before]
    cases gather fields depth given [m] with
    | error fault => rfl
    | ok given => exact ih given

/-- The field of a name. -/
theorem exists_find?_eq_some (hname : name ∈ fields.map Field.name) :
    ∃ f ∈ fields, f.name = name ∧ fields.find? (·.name == name) = some f := by
  obtain ⟨g, hg, hgname⟩ := List.mem_map.1 hname
  have hsome : (fields.find? (·.name == name)).isSome = true :=
    List.find?_isSome.2 ⟨g, hg, by simpa using hgname⟩
  obtain ⟨f, hf⟩ := Option.isSome_iff_exists.1 hsome
  exact ⟨f, List.mem_of_find?_eq_some hf, by simpa using List.find?_some hf, hf⟩

/-- A member that is gathered has a key. If there is no field for it nothing changes, and otherwise
it is new and is put in front. -/
theorem gather_singleton_eq_ok {m : Key × Node}
    (h : gather fields depth given [m] = .ok given') :
    ∃ key, m.1 = .ok key ∧ (fields.find? (·.name == key) = none ∧ given' = given ∨
      given.lookup key = none ∧ given' = (key, m.2) :: given) := by
  obtain ⟨key, m⟩ := m
  cases key with
  | error fault => rw [gather_cons_of_fault] at h; cases h
  | ok key =>
    refine ⟨key, rfl, ?_⟩
    cases hfield : fields.find? (·.name == key) with
    | none =>
      rw [gather_cons_of_unasked hfield] at h
      obtain ⟨_, -, h⟩ := bind_eq_ok.1 h
      exact .inl ⟨rfl, (Except.ok.inj h).symm⟩
    | some f =>
      by_cases hgiven : given.lookup key = none
      · rw [gather_cons_of_asked hfield depth hgiven] at h
        obtain ⟨_, -, h⟩ := bind_eq_ok.1 h
        exact .inr ⟨hgiven, (Except.ok.inj h).symm⟩
      · rw [gather_cons_of_twice hfield depth hgiven] at h
        cases h

/-- What no member is called is not gathered. -/
theorem lookup_gather_of_notMem {ms : List (Key × Node)} (hname : ∀ m ∈ ms, m.1 ≠ .ok name)
    (h : gather fields depth given ms = .ok given') : given'.lookup name = given.lookup name := by
  induction ms generalizing given with
  | nil => rw [← Except.ok.inj h]
  | cons m ms ih =>
    obtain ⟨hm, hms⟩ := List.forall_mem_cons.1 hname
    rw [gather_cons] at h
    obtain ⟨between, hone, h⟩ := bind_eq_ok.1 h
    rw [ih hms h]
    obtain ⟨key, hkey, ⟨-, rfl⟩ | ⟨-, rfl⟩⟩ := gather_singleton_eq_ok hone
    · rfl
    · exact lookup_cons_of_ne fun heq ↦ hm (heq ▸ hkey)

/-- What was gathered stays. -/
theorem lookup_gather_of_lookup {ms : List (Key × Node)} (hn : given.lookup name = some n)
    (h : gather fields depth given ms = .ok given') : given'.lookup name = some n := by
  induction ms generalizing given with
  | nil => rwa [← Except.ok.inj h]
  | cons m ms ih =>
    rw [gather_cons] at h
    obtain ⟨between, hone, h⟩ := bind_eq_ok.1 h
    refine ih ?_ h
    obtain ⟨key, -, ⟨-, rfl⟩ | ⟨hnew, rfl⟩⟩ := gather_singleton_eq_ok hone
    · exact hn
    · have hne : name ≠ key := by
        rintro rfl
        rw [hnew] at hn
        cases hn
      rw [lookup_cons_of_ne hne, hn]

/-- A member that there is a field for is gathered. -/
theorem lookup_gather_of_mem (hname : name ∈ fields.map Field.name) {ms : List (Key × Node)}
    (hn : (.ok name, n) ∈ ms) (h : gather fields depth given ms = .ok given') :
    given'.lookup name = some n := by
  obtain ⟨before, after, rfl⟩ := List.append_of_mem hn
  rw [gather_append] at h
  obtain ⟨between, -, h⟩ := bind_eq_ok.1 h
  rw [gather_cons] at h
  obtain ⟨behind, hone, h⟩ := bind_eq_ok.1 h
  refine lookup_gather_of_lookup ?_ h
  obtain ⟨key, hkey, ⟨hfield, -⟩ | ⟨-, rfl⟩⟩ := gather_singleton_eq_ok hone
  · obtain rfl := Except.ok.inj hkey
    obtain ⟨f, -, -, hf⟩ := exists_find?_eq_some hname
    cases hf.symm.trans hfield
  · obtain rfl := Except.ok.inj hkey
    exact List.lookup_cons_self

/-- What is gathered under the name of a field is what a member of this name gives. Without such a
member it is nothing. -/
theorem lookup_gather_cases (hname : name ∈ fields.map Field.name) {ms : List (Key × Node)}
    (h : gather fields depth [] ms = .ok given') :
    (∃ n, (.ok name, n) ∈ ms ∧ given'.lookup name = some n) ∨
      (∀ m ∈ ms, m.1 ≠ .ok name) ∧ given'.lookup name = none := by
  by_cases hn : ∃ n, (.ok name, n) ∈ ms
  · obtain ⟨n, hn⟩ := hn
    exact .inl ⟨n, hn, lookup_gather_of_mem hname hn h⟩
  · have hnone : ∀ m ∈ ms, m.1 ≠ .ok name := fun m hm heq ↦ hn ⟨m.2, heq ▸ hm⟩
    exact .inr ⟨hnone, lookup_gather_of_notMem hnone h⟩

/-- A new member behind others is checked and gathered. -/
theorem gather_append_cons {between : List (String × Node)} {before : List (Key × Node)}
    (hbefore : gather fields depth [] before = .ok between)
    (hfield : fields.find? (·.name == name) = some f) (hnew : between.lookup name = none)
    (n : Node) (after : List (Key × Node)) :
    gather fields depth [] (before ++ (.ok name, n) :: after) =
      (f.check depth n).bind fun _ ↦ gather fields depth ((name, n) :: between) after := by
  rw [gather_append, hbefore]
  exact gather_cons_of_asked hfield depth hnew n after

/-- A member that was gathered was new. -/
theorem exists_between_of_gather (hfield : fields.find? (·.name == name) = some f)
    {before after : List (Key × Node)}
    (h : gather fields depth [] (before ++ (.ok name, n) :: after) = .ok given') :
    ∃ between, gather fields depth [] before = .ok between ∧ between.lookup name = none ∧
      gather fields depth ((name, n) :: between) after = .ok given' := by
  have hsplit := h
  rw [gather_append] at hsplit
  obtain ⟨between, hbefore, hsplit⟩ := bind_eq_ok.1 hsplit
  by_cases hnew : between.lookup name = none
  · rw [gather_append_cons hbefore hfield hnew] at h
    obtain ⟨_, -, h⟩ := bind_eq_ok.1 h
    exact ⟨between, hbefore, hnew, h⟩
  · rw [gather_cons_of_twice hfield depth hnew] at hsplit
    cases hsplit

/-! ### Gathering the same but under one name -/

/-- Two gatherings fail for the same reason, or both succeed and give the same but under a name. -/
inductive GatherBut (name : String) (o o' : Option Node) :
    Except Fault (List (String × Node)) → Except Fault (List (String × Node)) → Prop where
  | failed (fault : Fault) : GatherBut name o o' (.error fault) (.error fault)
  | given {given given' : List (String × Node)} (h : GiveBut name o o' given given') :
      GatherBut name o o' (.ok given) (.ok given')

/-- One more member does not notice what is given under the name, unless it has this name too and
finds it taken in one list only. -/
theorem gatherBut_singleton {m : Key × Node} (h : GiveBut name o o' given given')
    (hname : o ≠ none ∧ o' ≠ none ∨ m.1 ≠ .ok name) :
    GatherBut name o o' (gather fields depth given [m]) (gather fields depth given' [m]) := by
  obtain ⟨key, m⟩ := m
  cases key with
  | error fault =>
    rw [gather_cons_of_fault, gather_cons_of_fault]
    exact .failed fault
  | ok key =>
    cases hfield : fields.find? (·.name == key) with
    | none =>
      rw [gather_cons_of_unasked hfield, gather_cons_of_unasked hfield]
      cases Fault.raise? m.skipFault? with
      | error fault => exact .failed fault
      | ok _ => exact .given h
    | some f =>
      -- one more of the name is one too many in both lists; elsewhere both lists give the same
      by_cases hkey : key = name
      · subst hkey
        obtain ⟨hsome, hsome'⟩ := hname.resolve_right fun hne ↦ hne rfl
        rw [gather_cons_of_twice hfield depth (h.here ▸ hsome),
          gather_cons_of_twice hfield depth (h.here' ▸ hsome')]
        exact .failed _
      · have hsame := h.elsewhere key hkey
        by_cases hgiven : given.lookup key = none
        · rw [gather_cons_of_asked hfield depth hgiven,
            gather_cons_of_asked hfield depth (hsame ▸ hgiven)]
          cases f.check depth m with
          | error fault => exact .failed fault
          | ok _ => exact .given (h.cons hkey m)
        · rw [gather_cons_of_twice hfield depth hgiven,
            gather_cons_of_twice hfield depth (hsame ▸ hgiven)]
          exact .failed _

/-- **Gathering goes on alike,** as long as the name does not come again. -/
theorem gatherBut_of_giveBut (ms : List (Key × Node)) (h : GiveBut name o o' given given')
    (hname : o ≠ none ∧ o' ≠ none ∨ ∀ m ∈ ms, m.1 ≠ .ok name) :
    GatherBut name o o' (gather fields depth given ms) (gather fields depth given' ms) := by
  induction ms generalizing given given' with
  | nil => exact .given h
  | cons m ms ih =>
    have hone : GatherBut name o o' (gather fields depth given [m])
        (gather fields depth given' [m]) :=
      gatherBut_singleton h (hname.imp_right fun h ↦ h m List.mem_cons_self)
    have hrest := hname.imp_right fun h m hm ↦ h m (List.mem_cons_of_mem _ hm)
    rw [gather_cons, gather_cons fields depth given']
    -- the member fails in both lists, or it leaves two that again give the same but there
    generalize gather fields depth given [m] = x at hone
    generalize gather fields depth given' [m] = x' at hone
    cases hone with
    | failed fault => exact .failed fault
    | given h => exact ih h hrest

variable {before after : List (Key × Node)}

/-- **A member may be exchanged** for one that passes the check of its field as well or as badly. -/
theorem gatherBut_exchange (hname : name ∈ fields.map Field.name)
    (hcheck : ∀ f ∈ fields, f.name = name → f.check depth n = f.check depth n') :
    GatherBut name (some n) (some n') (gather fields depth [] (before ++ (.ok name, n) :: after))
      (gather fields depth [] (before ++ (.ok name, n') :: after)) := by
  rw [gather_append, gather_append]
  cases gather fields depth [] before with
  | error fault => exact .failed fault
  | ok given =>
    show GatherBut _ _ _ (gather fields depth given _) (gather fields depth given _)
    obtain ⟨f, hf, hfname, hfield⟩ := exists_find?_eq_some hname
    by_cases hgiven : given.lookup name = none
    · rw [gather_cons_of_asked hfield depth hgiven, gather_cons_of_asked hfield depth hgiven,
        hcheck f hf hfname]
      cases f.check depth n' with
      | error fault => exact .failed fault
      | ok _ =>
        exact gatherBut_of_giveBut after (giveBut_cons name n n' given) (.inl ⟨nofun, nofun⟩)
    · rw [gather_cons_of_twice hfield depth hgiven, gather_cons_of_twice hfield depth hgiven]
      exact .failed _

/-- **A member that passes the check of its field may be left out,** if there is no other of its
name. -/
theorem gatherBut_leaveOut (hname : name ∈ fields.map Field.name)
    (hcheck : ∀ f ∈ fields, f.name = name → f.check depth n = .ok ())
    (hbefore : ∀ m ∈ before, m.1 ≠ .ok name) (hafter : ∀ m ∈ after, m.1 ≠ .ok name) :
    GatherBut name (some n) none (gather fields depth [] (before ++ (.ok name, n) :: after))
      (gather fields depth [] (before ++ after)) := by
  rw [gather_append, gather_append]
  cases hgather : gather fields depth [] before with
  | error fault => exact .failed fault
  | ok given =>
    show GatherBut _ _ _ (gather fields depth given _) (gather fields depth given _)
    have hgiven : given.lookup name = none := lookup_gather_of_notMem hbefore hgather
    obtain ⟨f, hf, hfname, hfield⟩ := exists_find?_eq_some hname
    rw [gather_cons_of_asked hfield depth hgiven, hcheck f hf hfname]
    refine gatherBut_of_giveBut after ⟨fun key hkey ↦ ?_, ?_, hgiven⟩ (.inr hafter)
    · rw [lookup_cons_of_ne hkey]
    · exact List.lookup_cons_self

end Gather

/-! ### Reading objects -/

variable {r : Record α} {before after : List (Key × Node)}

/-- Objects whose members are gathered alike are read alike. -/
theorem read_eq_of_gatherBut (hr : r.Alike depth name o o') {ms ms' : List (Key × Node)}
    (h : GatherBut name o o' (gather r.fields depth [] ms) (gather r.fields depth [] ms'))
    (title : String) (ending : ObjectEnd) :
    r.read title (depth + 1) (.object ms ending) =
      r.read title (depth + 1) (.object ms' ending) := by
  rw [Record.read, Record.read]
  generalize gather r.fields depth [] ms = x at h
  generalize gather r.fields depth [] ms' = x' at h
  cases h with
  | failed fault => rfl
  | @given given given' h =>
    show (do Fault.raise? ending.fault?; r.build depth (List.lookup · given)) =
      (do Fault.raise? ending.fault?; r.build depth (List.lookup · given'))
    rw [h.build_eq hr]

/-- **A member may be exchanged for one that its field reads alike,** whatever else there is. -/
theorem read_exchange (hname : name ∈ r.fields.map Field.name)
    (h : r.Alike (depth - 1) name (some n) (some n')) (title : String) (ending : ObjectEnd) :
    r.read title depth (.object (before ++ (.ok name, n) :: after) ending) =
      r.read title depth (.object (before ++ (.ok name, n') :: after) ending) := by
  cases depth with
  | zero => rfl
  | succ depth => exact read_eq_of_gatherBut h (gatherBut_exchange hname h.checked) title ending

/-- **A member that is taken for nothing may be left out,** whatever else there is. -/
theorem read_leaveOut (hname : name ∈ r.fields.map Field.name)
    (h : r.Alike (depth - 1) name (some n) none) (hbefore : ∀ m ∈ before, m.1 ≠ .ok name)
    (hafter : ∀ m ∈ after, m.1 ≠ .ok name) (title : String) (ending : ObjectEnd) :
    r.read title depth (.object (before ++ (.ok name, n) :: after) ending) =
      r.read title depth (.object (before ++ after) ending) := by
  cases depth with
  | zero => rfl
  | succ depth =>
    exact read_eq_of_gatherBut h (gatherBut_leaveOut hname h.checked hbefore hafter) title ending

/-! ### Exchanging a member of a record that is read -/

section Exchange

variable {f : Field} {title : String} {ending : ObjectEnd} {a : α}

/-- If the other member does not pass the check of its field, then this is what is wrong. -/
theorem read_exchange_of_error {fault : Fault}
    (hfield : r.fields.find? (·.name == name) = some f) (hcheck : f.check depth n' = .error fault)
    (h : r.read title (depth + 1) (.object (before ++ (.ok name, n) :: after) ending) = .ok a) :
    r.read title (depth + 1) (.object (before ++ (.ok name, n') :: after) ending) =
      .error fault := by
  obtain ⟨given, hgather, -⟩ := bind_eq_ok.1 h
  obtain ⟨between, hbefore, hnew, -⟩ := exists_between_of_gather hfield hgather
  rw [Record.read, gather_append_cons hbefore hfield hnew, hcheck]
  rfl

/-- If it does, then the record is built anew, from the same under all other names. -/
theorem exists_giveBut_of_read (hfield : r.fields.find? (·.name == name) = some f)
    (hcheck : f.check depth n' = .ok ())
    (h : r.read title (depth + 1) (.object (before ++ (.ok name, n) :: after) ending) = .ok a) :
    ∃ given given', GiveBut name (some n) (some n') given given' ∧
      r.build depth (List.lookup · given) = .ok a ∧
      r.read title (depth + 1) (.object (before ++ (.ok name, n') :: after) ending) =
        r.build depth (List.lookup · given') := by
  obtain ⟨given, hgather, h⟩ := bind_eq_ok.1 h
  obtain ⟨_, hend, hbuild⟩ := bind_eq_ok.1 h
  obtain ⟨between, hbefore, hnew, hafter⟩ := exists_between_of_gather hfield hgather
  have hrest : GatherBut name (some n) (some n') _
      (gather r.fields depth ((name, n') :: between) after) :=
    gatherBut_of_giveBut after (giveBut_cons name n n' between) (.inl ⟨nofun, nofun⟩)
  rw [hafter] at hrest
  rw [Record.read, gather_append_cons hbefore hfield hnew, hcheck]
  show ∃ given given', _ ∧ _ ∧
    (gather r.fields depth ((name, n') :: between) after >>= fun _ ↦ _) = _
  generalize gather r.fields depth ((name, n') :: between) after = x at hrest
  cases hrest with
  | @given _ given' hgiven =>
    refine ⟨given, given', hgiven, hbuild, ?_⟩
    rw [Fault.raise?_eq_ok.1 hend]
    rfl

end Exchange

/-! ### What was given -/

/-- A record that is read from an object is built from what its members give. -/
theorem exists_given_of_read {title : String} {ms : List (Key × Node)} {ending : ObjectEnd} {a : α}
    (h : r.read title depth (.object ms ending) = .ok a) :
    ∃ outer given, depth = outer + 1 ∧ gather r.fields outer [] ms = .ok given ∧
      ending.fault? = none ∧ r.build outer (List.lookup · given) = .ok a := by
  cases depth with
  | zero => cases h
  | succ outer =>
    obtain ⟨given, hgather, h⟩ := bind_eq_ok.1 h
    obtain ⟨_, hend, h⟩ := bind_eq_ok.1 h
    exact ⟨outer, given, rfl, hgather, Fault.raise?_eq_ok.1 hend, h⟩

theorem build_map_eq_ok_iff {given? : String → Option Node} {f : α → β} {b : β} :
    (f <$> r).build depth given? = .ok b ↔ ∃ a, r.build depth given? = .ok a ∧ f a = b :=
  map_eq_ok

theorem build_seq_eq_ok_iff {given? : String → Option Node} {r : Record (α → β)} {s : Record α}
    {b : β} :
    (r <*> s).build depth given? = .ok b ↔
      ∃ f a, r.build depth given? = .ok f ∧ s.build depth given? = .ok a ∧ f a = b := by
  constructor
  · intro h
    obtain ⟨f, hf, h⟩ := bind_eq_ok.1 h
    obtain ⟨a, ha, h⟩ := bind_eq_ok.1 h
    exact ⟨f, a, hf, ha, Except.ok.inj h⟩
  · rintro ⟨f, a, hf, ha, rfl⟩
    exact bind_eq_ok.2 ⟨f, hf, bind_eq_ok.2 ⟨a, ha, rfl⟩⟩

end Record

end BlockQuery.Json

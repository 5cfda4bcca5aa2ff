import BlockQuery.Proofs.Json.Members

/-!
# Records are read back

What a record makes of an object depends on what is given under the names of its fields, and on
nothing else: not on the order of the members, and not on members of other names. So a record is
described field by field. `Record.Makes` says that what is given passes the checks of the fields and
which value is made of it; it is put together with `<$>` and `<*>` as records are.

An object is written from members of which some may have nothing to say; these are left out
(`stated`). **If the fields make a value of what the members state, then the text of the object is
read as that value** (`Record.run_compact`). All that is asked of the members is that no two have
the same key and that their numbers are read back.
-/

namespace BlockQuery.Json

/-! ### Looking up keys -/

section Lookup

variable {β : Type} {key name : String} {b : β} {ms : List (String × β)}

theorem lookup_cons_of_ne (h : name ≠ key) : ((key, b) :: ms).lookup name = ms.lookup name := by
  rw [List.lookup_cons, beq_false_of_ne h]

theorem lookup_eq_none_of_not_mem (h : key ∉ ms.map Prod.fst) : ms.lookup key = none := by
  rw [List.lookup_eq_none_iff]
  intro m hm
  exact bne_iff_ne.2 fun heq ↦ h (List.mem_map.2 ⟨m, hm, heq.symm⟩)

/-- With no key twice, what is found further back is found first. -/
theorem lookup_cons_of_lookup {c : β} (hkey : key ∉ ms.map Prod.fst)
    (h : ms.lookup name = some b) : ((key, c) :: ms).lookup name = some b := by
  have hne : name ≠ key := by
    rintro rfl
    rw [lookup_eq_none_of_not_mem hkey] at h
    cases h
  rw [lookup_cons_of_ne hne, h]

/-- With no key twice, the order does not matter. -/
theorem lookup_eq_of_perm {ms' : List (String × β)} (h : ms.Perm ms')
    (hkeys : (ms.map Prod.fst).Nodup) : ms.lookup name = ms'.lookup name := by
  induction h with
  | nil => rfl
  | cons m h ih => rw [List.lookup_cons, List.lookup_cons, ih (List.nodup_cons.1 hkeys).2]
  | swap m m' ms =>
    have hne : m'.1 ≠ m.1 := by
      intro heq
      simp [heq] at hkeys
    rw [List.lookup_cons, List.lookup_cons, List.lookup_cons, List.lookup_cons]
    by_cases hm : name = m.1
    · simp [hm, beq_false_of_ne hne.symm]
    · simp [beq_false_of_ne hm]
  | trans h _ ih ih' => rw [ih hkeys, ih' ((h.map Prod.fst).nodup_iff.1 hkeys)]

end Lookup

/-! ### Members that are stated -/

@[simp] theorem optionalMember_none (key : String) : optionalMember key none = [] :=
  rfl

@[simp] theorem optionalMember_some (key : String) (v : Json) :
    optionalMember key (some v) = [(key, v)] :=
  rfl

/-- The members of which there is something to say. -/
def stated (ms : List (String × Option Json)) : List (String × Json) :=
  ms.flatMap fun m ↦ optionalMember m.1 m.2

section Stated

variable {ms : List (String × Option Json)}

theorem stated_cons (key : String) (v : Option Json) (ms : List (String × Option Json)) :
    stated ((key, v) :: ms) = optionalMember key v ++ stated ms :=
  List.flatMap_cons

/-- Members that hold nothing are left out, and the others keep their order. -/
theorem keys_stated_sublist (ms : List (String × Option Json)) :
    ((stated ms).map Prod.fst).Sublist (ms.map Prod.fst) := by
  induction ms with
  | nil => exact List.Sublist.slnil
  | cons m ms ih =>
    obtain ⟨key, v⟩ := m
    rw [stated_cons]
    cases v with
    | none => exact ih.cons key
    | some v => exact ih.cons_cons key

/-- What is stated under a key, if anything is. -/
theorem lookup_stated (hkeys : (ms.map Prod.fst).Nodup) (name : String) :
    (stated ms).lookup name = (ms.lookup name).join := by
  induction ms with
  | nil => rfl
  | cons m ms ih =>
    obtain ⟨key, v⟩ := m
    obtain ⟨hkey, hkeys⟩ := List.nodup_cons.1 hkeys
    rw [stated_cons, List.lookup_append, ih hkeys]
    by_cases heq : name = key
    · subst heq
      rw [lookup_eq_none_of_not_mem hkey, List.lookup_cons_self]
      cases v with
      | none => rfl
      | some v => exact congrArg (Option.or · none) List.lookup_cons_self
    · rw [lookup_cons_of_ne heq]
      cases v with
      | none => rfl
      | some v => exact congrArg (Option.or · _) (lookup_cons_of_ne heq)

/-- The numbers of what is stated are read back. -/
def ReadsBack (v : Option Json) : Prop :=
  ∀ w ∈ v, ∀ n ∈ w.numbers, n.ReadsBack

@[simp] theorem readsBack_some {v : Json} :
    ReadsBack (some v) ↔ ∀ n ∈ v.numbers, n.ReadsBack := by
  simp [ReadsBack]

/-- What has no numbers is read back, be it stated or not. -/
theorem readsBack_map {α : Type} {write : α → Json} (h : ∀ a, (write a).numbers = [])
    (o : Option α) : ReadsBack (o.map write) := by
  cases o with
  | none => simp [ReadsBack]
  | some a => simp [h]

@[simp] theorem readsBack_map_bool (o : Option Bool) : ReadsBack (o.map bool) :=
  readsBack_map (fun _ ↦ rfl) o

@[simp] theorem readsBack_map_text (o : Option String) : ReadsBack (o.map text) :=
  readsBack_map (fun _ ↦ rfl) o

/-- If each member can be read back, so can the object. -/
theorem readsBack_stated (h : ∀ m ∈ ms, ReadsBack m.2) :
    ∀ n ∈ (object (stated ms)).numbers, n.ReadsBack := by
  rw [numbers]
  induction ms with
  | nil => exact List.forall_mem_nil _
  | cons m ms ih =>
    obtain ⟨key, v⟩ := m
    obtain ⟨hv, hms⟩ := List.forall_mem_cons.1 h
    rw [stated_cons]
    cases v with
    | none => exact ih hms
    | some v => exact List.forall_mem_append.2 ⟨hv v rfl, ih hms⟩

end Stated

namespace Record

variable {α β : Type} {depth : ℕ} {given? : String → Option Node} {name : String}

/-! ### What is made of what is given -/

/-- What is given passes the checks of a record's fields, and this value is made of it. What is
given under other names does not matter. -/
structure Makes (r : Record α) (depth : ℕ) (given? : String → Option Node) (a : α) : Prop where
  checked : ∀ f ∈ r.fields, ∀ n, given? f.name = some n → f.check depth n = .ok ()
  built : ∀ g, (∀ f ∈ r.fields, g f.name = given? f.name) → r.build depth g = .ok a

/-- A field that is given makes what its node is read as. -/
theorem makes_of_given {read : Reader α} {presence : Presence} {absent : Except Fault α} {n : Node}
    {a : α} (hn : given? name = some n) (hread : read depth n = .ok a) :
    (field name read presence absent).Makes depth given? a where
  checked f hf m hm := by
    obtain rfl := List.mem_singleton.1 hf
    obtain rfl := Option.some.inj (hn.symm.trans hm)
    show (read depth n).map _ = _
    rw [hread]
    rfl
  built g hg := by
    have hname : g name = some n := (hg _ List.mem_cons_self).trans hn
    show ((g name).map (read depth)).getD absent = _
    rw [hname]
    exact hread

/-- A field that is not given makes what stands for nothing. -/
theorem makes_of_absent {read : Reader α} {presence : Presence} {a : α}
    (hnone : given? name = none) : (field name read presence (.ok a)).Makes depth given? a where
  checked f hf m hm := by
    obtain rfl := List.mem_singleton.1 hf
    cases hnone.symm.trans hm
  built g hg := by
    have hname : g name = none := (hg _ List.mem_cons_self).trans hnone
    show ((g name).map (read depth)).getD (.ok a) = _
    rw [hname]
    rfl

/-- What is made can be made into something else. -/
theorem Makes.map {r : Record α} {a : α} (h : r.Makes depth given? a) (f : α → β) :
    (f <$> r).Makes depth given? (f a) where
  checked := h.checked
  built g hg := by
    show (r.build depth g).map f = _
    rw [h.built g hg]
    rfl

/-- Records are made field by field. -/
theorem Makes.seq {r : Record (α → β)} {f : α → β} {s : Record α} {a : α}
    (hf : r.Makes depth given? f) (ha : s.Makes depth given? a) :
    (r <*> s).Makes depth given? (f a) where
  checked := List.forall_mem_append.2 ⟨hf.checked, ha.checked⟩
  built g hg := by
    obtain ⟨hr, hs⟩ := List.forall_mem_append.1 hg
    show (do let f ← r.build depth g; let a ← s.build depth g; return f a) = _
    rw [hf.built g hr, ha.built g hs]
    rfl

/-! ### Gathering members -/

/-- Members that pass the checks are gathered, and looked up as they were written. -/
theorem exists_gather {fields : List Field} {ms : List (String × Json)}
    (hkeys : (ms.map Prod.fst).Nodup)
    (hchecks : ∀ f ∈ fields, ∀ v, ms.lookup f.name = some v → f.check depth v.toNode = .ok ())
    {given : List (String × Node)} (hnew : ∀ m ∈ ms, given.lookup m.1 = none) :
    ∃ given', gather fields depth given (memberNodes ms) = .ok given' ∧
      ∀ f ∈ fields, given'.lookup f.name =
        ((ms.lookup f.name).map toNode).or (given.lookup f.name) := by
  induction ms generalizing given with
  | nil => exact ⟨given, rfl, fun _ _ ↦ rfl⟩
  | cons m ms ih =>
    obtain ⟨key, v⟩ := m
    obtain ⟨hkey, hkeys⟩ := List.nodup_cons.1 hkeys
    obtain ⟨hnewkey, hnew⟩ := List.forall_mem_cons.1 hnew
    have hcheckrest : ∀ f ∈ fields, ∀ v, ms.lookup f.name = some v →
        f.check depth v.toNode = .ok () :=
      fun f hf w hw ↦ hchecks f hf w (lookup_cons_of_lookup hkey hw)
    -- a member without a field is skipped, one with a field goes in front of what was given
    cases hfield : fields.find? (·.name == key) with
    | none =>
      have hother : ∀ f ∈ fields, f.name ≠ key :=
        fun f hf ↦ by simpa using List.find?_eq_none.1 hfield f hf
      have hunasked : ∀ m ∈ [(key, v)], fields.find? (·.name == m.1) = none :=
        List.forall_mem_singleton.2 hfield
      have hskip := gather_append_of_unasked hunasked depth given (memberNodes ms)
      obtain ⟨given', hgather, hlookup⟩ := ih hkeys hcheckrest hnew
      refine ⟨given', hskip.trans hgather, fun f hf ↦ ?_⟩
      rw [hlookup f hf, lookup_cons_of_ne (hother f hf)]
    | some f₀ =>
      have hname : f₀.name = key := by simpa using List.find?_some hfield
      have hcheck : f₀.check depth v.toNode = .ok () :=
        hchecks f₀ (List.mem_of_find?_eq_some hfield) v (hname ▸ List.lookup_cons_self)
      have hnew : ∀ m ∈ ms, ((key, v.toNode) :: given).lookup m.1 = none := by
        intro m hm
        have hne : m.1 ≠ key := fun heq ↦ hkey (List.mem_map.2 ⟨m, hm, heq⟩)
        rw [lookup_cons_of_ne hne, hnew m hm]
      obtain ⟨given', hgather, hlookup⟩ := ih hkeys hcheckrest hnew
      refine ⟨given', ?_, fun f hf ↦ ?_⟩
      · rw [memberNodes, gather_cons_of_asked hfield depth hnewkey, hcheck]
        exact hgather
      · rw [hlookup f hf]
        by_cases heq : f.name = key
        · rw [heq, lookup_eq_none_of_not_mem hkey, List.lookup_cons_self, List.lookup_cons_self]
          rfl
        · rw [lookup_cons_of_ne heq, lookup_cons_of_ne heq]

/-! ### Reading what is stated -/

variable {ms : List (String × Option Json)} {a : α}

/-- What members state under a name. -/
def givenBy (ms : List (String × Option Json)) (name : String) : Option Node :=
  (ms.lookup name).join.map toNode

/-- Under names that are distinct the same is given, in whatever order the members stand. -/
theorem givenBy_eq_of_perm {ms' : List (String × Option Json)} (h : ms.Perm ms')
    (hkeys : (ms.map Prod.fst).Nodup) : givenBy ms = givenBy ms' := by
  funext name
  rw [givenBy, givenBy, lookup_eq_of_perm h hkeys]

/-- **An object is read as the record that its stated members make.** -/
theorem read_object_toNode {r : Record α} (hkeys : (ms.map Prod.fst).Nodup)
    (h : r.Makes depth (givenBy ms) a) (title : String) :
    r.read title (depth + 1) (object (stated ms)).toNode = .ok a := by
  have hstated (f : Field) : ((stated ms).lookup f.name).map toNode = givenBy ms f.name := by
    rw [lookup_stated hkeys, givenBy]
  have hchecks : ∀ f ∈ r.fields, ∀ v, (stated ms).lookup f.name = some v →
      f.check depth v.toNode = .ok () := by
    intro f hf v hv
    refine h.checked f hf v.toNode ?_
    rw [← hstated, hv]
    rfl
  have hnew : ∀ m ∈ stated ms, ([] : List (String × Node)).lookup m.1 = none := fun _ _ ↦ rfl
  obtain ⟨given, hgather, hlookup⟩ :=
    exists_gather (hkeys.sublist (keys_stated_sublist ms)) hchecks hnew
  have hbuild : r.build depth (List.lookup · given) = .ok a := by
    refine h.built _ fun f hf ↦ ?_
    rw [hlookup f hf, hstated, List.lookup_nil, Option.or_none]
  rw [toNode, read, hgather]
  exact hbuild

/-- **A record that is written is read back from its text.** -/
theorem run_compact {r : Record α} (hkeys : (ms.map Prod.fst).Nodup)
    (h : r.Makes 126 (givenBy ms) a) (hnumbers : ∀ m ∈ ms, ReadsBack m.2)
    (title : String) : (r.read title).run (object (stated ms)).compact = .ok a := by
  rw [Reader.run_compact _ _ (readsBack_stated hnumbers)]
  exact read_object_toNode hkeys h title

/-! ### Fields of a record -/

section Fields

variable {read : Reader α} {write : α → Json}

/-- A required member that is stated is read back. -/
theorem makes_required {v : Json} (hv : ms.lookup name = some (some v))
    (hread : read depth v.toNode = .ok a) :
    (required name read).Makes depth (givenBy ms) a :=
  makes_of_given (by rw [givenBy, hv]; rfl) hread

theorem makes_optional {v : Json} (hv : ms.lookup name = some (some v))
    (hread : read depth v.toNode = .ok a) (fallback : α) :
    (optional name read fallback).Makes depth (givenBy ms) a :=
  makes_of_given (by rw [givenBy, hv]; rfl) hread

/-- A value that is not `null` is there. -/
theorem optional_toNode {v : Json} (hnull : v ≠ null) (hread : read depth v.toNode = .ok a) :
    read.optional depth v.toNode = .ok (some a) := by
  have hsome : (read depth v.toNode).map some = .ok (some a) := by
    rw [hread]
    rfl
  cases v with
  | null => exact absurd rfl hnull
  | bool | number | text | list | object => exact hsome

/-- A field that holds a value or nothing is read back, as long as no value is written as `null`. -/
theorem makes_maybe {o : Option α} (ho : ms.lookup name = some (o.map write))
    (hnull : ∀ a, write a ≠ null) (hread : ∀ a, read depth (write a).toNode = .ok a) :
    (maybe name read).Makes depth (givenBy ms) o := by
  cases o with
  | none => exact makes_of_absent (by rw [givenBy, ho]; rfl)
  | some a => exact makes_of_given (by rw [givenBy, ho]; rfl) (optional_toNode (hnull a) (hread a))

/-- A field of which `null` says that there is nothing to say. -/
theorem makes_nullable {o : Option α} (ho : ms.lookup name = some (some ((o.map write).getD null)))
    (hnull : ∀ a, write a ≠ null) (hread : ∀ a, read depth (write a).toNode = .ok a) :
    (nullable name read).Makes depth (givenBy ms) o := by
  cases o with
  | none => exact makes_of_given (by rw [givenBy, ho]; rfl) rfl
  | some a => exact makes_of_given (by rw [givenBy, ho]; rfl) (optional_toNode (hnull a) (hread a))

end Fields

end Record

end BlockQuery.Json

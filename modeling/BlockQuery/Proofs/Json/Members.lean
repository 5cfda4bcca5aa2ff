import BlockQuery.Json.Record
import BlockQuery.Proofs.Json.Tree

/-!
# Members that nobody asks for

A record skips the members of an object for which it has no field. Skipping looks at the whole value
behind a key and reports what is wrong with it, so an object is read as if it had only the members
that are asked for **as long as nothing is wrong with the others**. With what was written nothing
ever is.
-/

namespace BlockQuery.Json

/-! ### Skipping what was written -/

mutual

/-- **Nothing that was written is at fault.** -/
theorem skipFault?_toNode (v : Json) : v.toNode.skipFault? = none := by
  match v with
  | null | bool _ | number _ | text _ => rfl
  | list items =>
    rw [toNode, Node.skipFault?, skipItems_itemNodes items]
    rfl
  | object members =>
    rw [toNode, Node.skipFault?, skipMembers_memberNodes members]
    rfl

theorem skipItems_itemNodes (vs : List Json) : Node.skipItems (itemNodes vs) = none := by
  match vs with
  | [] => rfl
  | v :: vs =>
    rw [itemNodes, Node.skipItems, skipFault?_toNode v, skipItems_itemNodes vs]
    rfl

theorem skipMembers_memberNodes (ms : List (String × Json)) :
    Node.skipMembers (memberNodes ms) = none := by
  match ms with
  | [] => rfl
  | (k, v) :: ms =>
    rw [memberNodes, Node.skipMembers, skipFault?_toNode v, skipMembers_memberNodes ms]
    rfl

end

theorem memberNodes_append (ms ms' : List (String × Json)) :
    memberNodes (ms ++ ms') = memberNodes ms ++ memberNodes ms' := by
  induction ms with
  | nil => rfl
  | cons m ms ih =>
    obtain ⟨k, v⟩ := m
    rw [List.cons_append, memberNodes, ih, memberNodes, List.cons_append]

namespace Record

/-- Members without a field are skipped. -/
theorem gather_append_of_unasked {fields : List Field} {ms : List (String × Json)}
    (h : ∀ m ∈ ms, fields.find? (·.name == m.1) = none) (depth : ℕ) (given : List (String × Node))
    (rest : List (Key × Node)) :
    gather fields depth given (memberNodes ms ++ rest) = gather fields depth given rest := by
  induction ms with
  | nil => rfl
  | cons m ms ih =>
    obtain ⟨k, v⟩ := m
    obtain ⟨hk, hms⟩ := List.forall_mem_cons.1 h
    have hskip : Fault.raise? v.toNode.skipFault? = .ok () := by
      rw [skipFault?_toNode]
      rfl
    rw [memberNodes, List.cons_append, gather]
    simp only [hk, hskip, bind, Except.bind]
    exact ih hms

/-- A member with a field that was not given yet is checked and gathered. -/
theorem gather_cons_of_asked {fields : List Field} {f : Field} {name : String}
    (hfield : fields.find? (·.name == name) = some f) (depth : ℕ) {given : List (String × Node)}
    (hnew : given.lookup name = none) (n : Node) (rest : List (Key × Node)) :
    gather fields depth given ((.ok name, n) :: rest) =
      (f.check depth n).bind fun _ ↦ gather fields depth ((name, n) :: given) rest := by
  rw [gather]
  simp only [hfield, hnew, bind, Except.bind]
  rfl

section OneField

variable {α : Type} (name : String) (read : Reader α) (depth : ℕ)
variable {before after : List (String × Json)}

/-- A field is gathered from among other members, whatever these are. -/
theorem gather_required (hbefore : ∀ m ∈ before, m.1 ≠ name) (hafter : ∀ m ∈ after, m.1 ≠ name)
    (v : Json) :
    gather (required name read).fields depth [] (memberNodes (before ++ (name, v) :: after)) =
      (read depth v.toNode).map fun _ ↦ [(name, v.toNode)] := by
  have hasked : (required name read).fields.find? (·.name == name) =
      some ⟨name, fun depth n ↦ (read depth n).map fun _ ↦ (), .required⟩ :=
    List.find?_cons_of_pos (beq_self_eq_true name)
  have hunasked : ∀ ms : List (String × Json), (∀ m ∈ ms, m.1 ≠ name) →
      ∀ m ∈ ms, (required name read).fields.find? (·.name == m.1) = none := by
    intro ms h m hm
    exact List.find?_eq_none.2 (by simpa [required, field] using (h m hm).symm)
  have hrest := gather_append_of_unasked (hunasked after hafter) depth [(name, v.toNode)] []
  rw [List.append_nil] at hrest
  -- the members in front are skipped, the field is gathered, the members behind are skipped again
  rw [memberNodes_append, gather_append_of_unasked (hunasked before hbefore), memberNodes,
    gather_cons_of_asked hasked _ rfl, hrest]
  show ((read depth v.toNode).map fun _ ↦ ()).bind _ = _
  cases read depth v.toNode <;> rfl

/-- **A record of one field takes the value of that field,** or the fault, whatever else is written
around it. -/
theorem read_required_toNode (title : String) (hbefore : ∀ m ∈ before, m.1 ≠ name)
    (hafter : ∀ m ∈ after, m.1 ≠ name) (v : Json) :
    (required name read).read title (depth + 1) (object (before ++ (name, v) :: after)).toNode =
      read depth v.toNode := by
  rw [toNode, Record.read, gather_required name read depth hbefore hafter]
  cases h : read depth v.toNode with
  | error f => rfl
  | ok a =>
    show ((List.lookup name [(name, v.toNode)]).map (read depth)).getD _ = _
    rw [List.lookup_cons_self, Option.map_some, Option.getD_some, h]

end OneField

end Record

end BlockQuery.Json

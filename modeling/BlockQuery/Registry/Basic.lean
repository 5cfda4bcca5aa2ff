import BlockQuery.Block.Basic

/-!
# Registries

A registry is an ordered list of kinds. It is checked once, when it is built: no type, name or
label is blank, and no two kinds share a type or a name. `Registry.ofKinds` reports the first kind
at which a list breaks one of these rules.

**The order matters.** It is the order of an editor's palette, and it decides the order in which
blocks appear in a query.

Kinds are looked up by type first and by name second. A type that is in neither place is not an
error: `resolve` improvises a kind from what its producer claims.
-/

namespace BlockQuery

/-- An ordered list of kinds with distinct types and names, none of them blank. -/
structure Registry where
  kinds : List Kind
  type_not_blank : ∀ k ∈ kinds, Text.allBlank k.type = false
  id_not_blank : ∀ k ∈ kinds, Text.allBlank k.id = false
  label_not_blank : ∀ k ∈ kinds, Text.allBlank k.label = false
  types_nodup : (kinds.map Kind.type).Nodup
  ids_nodup : (kinds.map Kind.id).Nodup

namespace Registry

/-! ### Building a registry -/

/-- Why a list of kinds is not a registry. -/
inductive Fault where
  | blankType
  | blankId (type : String)
  | blankLabel (type : String)
  | repeatedType (type : String)
  | repeatedId (id : String)
  deriving DecidableEq, Repr

/-- The wording of a fault. -/
def Fault.message : Fault → String
  | blankType => "Validation error: Block type cannot be empty"
  | blankId type => s!"Validation error: Block id cannot be empty (type '{type}')"
  | blankLabel type => s!"Validation error: Block label cannot be empty (type '{type}')"
  | repeatedType type => s!"Duplicate block type: {type}"
  | repeatedId id => s!"Duplicate block id: {id}"

/-- What is wrong with adding a kind behind others. -/
def faultBehind? (before : List Kind) (k : Kind) : Option Fault :=
  if Text.allBlank k.type then some .blankType
  else if Text.allBlank k.id then some (.blankId k.type)
  else if Text.allBlank k.label then some (.blankLabel k.type)
  else if k.type ∈ before.map Kind.type then some (.repeatedType k.type)
  else if k.id ∈ before.map Kind.id then some (.repeatedId k.id)
  else none

/-- The first fault of the kinds that stand behind others. -/
def firstFault? (before : List Kind) : List Kind → Option Fault
  | [] => none
  | k :: ks => (faultBehind? before k).or (firstFault? (before ++ [k]) ks)

theorem faultBehind?_eq_none {before : List Kind} {k : Kind} (h : faultBehind? before k = none) :
    Text.allBlank k.type = false ∧ Text.allBlank k.id = false ∧ Text.allBlank k.label = false ∧
      k.type ∉ before.map Kind.type ∧ k.id ∉ before.map Kind.id := by
  unfold faultBehind? at h
  repeat' split at h
  all_goals simp_all

/-- What an unbroken list of kinds offers to the registry built from it. -/
theorem sound_of_firstFault?_eq_none {before ks : List Kind} (h : firstFault? before ks = none)
    (types : (before.map Kind.type).Nodup) (ids : (before.map Kind.id).Nodup) :
    (∀ k ∈ ks, Text.allBlank k.type = false) ∧ (∀ k ∈ ks, Text.allBlank k.id = false) ∧
      (∀ k ∈ ks, Text.allBlank k.label = false) ∧
      ((before ++ ks).map Kind.type).Nodup ∧ ((before ++ ks).map Kind.id).Nodup := by
  induction ks generalizing before with
  | nil => simpa using ⟨types, ids⟩
  | cons k ks ih =>
    rw [firstFault?, Option.or_eq_none_iff] at h
    obtain ⟨type, id, label, newType, newId⟩ := faultBehind?_eq_none h.1
    have rest := ih h.2
      (by rw [List.map_append]; exact List.nodup_append.2 ⟨types, by simp, by simp_all⟩)
      (by rw [List.map_append]; exact List.nodup_append.2 ⟨ids, by simp, by simp_all⟩)
    rw [List.append_assoc, List.singleton_append] at rest
    simp_all

/-- The registry of the given kinds, unless they break a rule. -/
def ofKinds (ks : List Kind) : Except Fault Registry :=
  match h : firstFault? [] ks with
  | some f => .error f
  | none =>
    have sound := sound_of_firstFault?_eq_none h .nil .nil
    .ok ⟨ks, sound.1, sound.2.1, sound.2.2.1, sound.2.2.2.1, sound.2.2.2.2⟩

/-! ### Looking kinds up -/

variable (r : Registry)

/-- How many kinds there are. -/
def size : Nat :=
  r.kinds.length

/-- The kind of a type, or else the kind with that name. -/
def find? (key : String) : Option Kind :=
  (r.kinds.find? (·.type == key)).or (r.kinds.find? (·.id == key))

/-- The place of a type among the kinds. -/
def position? (type : String) : Option Nat :=
  r.kinds.findIdx? (·.type == type)

/-- Whether there is a kind of that type. -/
def contains (type : String) : Bool :=
  r.kinds.any (·.type == type)

/-- The kinds of one category. -/
def inCategory (c : Category) : List Kind :=
  r.kinds.filter (·.category = c)

/-- The kinds whose type, or whose label in lower case, contains the query in lower case. -/
def search (query : String) : List Kind :=
  let wanted := (Text.lower (Text.trimmed query)).toList
  r.kinds.filter fun k ↦
    Text.occursIn wanted k.type.toList || Text.occursIn wanted (Text.lower k.label).toList

/-- The label of a kind, or the key itself where there is no such kind. -/
def labelOf (key : String) : String :=
  ((r.find? key).map Kind.label).getD key

/-- The kind of a type reported from outside. What the registry knows of the type wins over what is
claimed of it; an unknown type gets the claimed category, or `keyword`, and needs a value unless
the claim says otherwise. -/
def resolve (type : String) (category : Option String) (needsValue : Option Bool) : Kind :=
  (r.find? type).getD <|
    .improvised type ((category.bind Category.read?).getD .keyword) (needsValue.getD true)

end Registry

end BlockQuery

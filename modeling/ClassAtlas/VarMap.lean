import ClassAtlas.TypeRef

/-!
# Maps from type variables to types

What each type variable stands for, in ascending order of the variables.  The order is part of the
type, so two maps with the same bindings are equal, and a map can be the key of a table.

Main statement: what is found after an insertion (`find?_insert`).
-/

set_option autoImplicit false

namespace ClassAtlas

/-- Bindings of type variables, ascending and without repetition. -/
structure VarMap where
  entries : List (Nat × TypeRef)
  ascending : entries.Pairwise fun left right => left.1 < right.1

namespace VarMap

instance : DecidableEq VarMap := fun left right =>
  decidable_of_iff (left.entries = right.entries) (by cases left; cases right; simp)

instance : Hashable VarMap := ⟨fun map => hash map.entries⟩

instance : Repr VarMap := ⟨fun map precedence => reprPrec map.entries precedence⟩

/-- No bindings. -/
def empty : VarMap := ⟨[], .nil⟩

instance : Inhabited VarMap := ⟨empty⟩

/-- Whether there are no bindings. -/
def isEmpty (map : VarMap) : Bool :=
  map.entries.isEmpty

/-- The bound variables, ascending. -/
def keys (map : VarMap) : List Nat :=
  map.entries.map Prod.fst

/-- What a variable stands for. -/
def find? (map : VarMap) (key : Nat) : Option TypeRef :=
  map.entries.lookup key

/-- Whether a variable is bound. -/
def contains (map : VarMap) (key : Nat) : Bool :=
  (map.find? key).isSome

/-- Puts a binding into a list in ascending order, in the place of an older one. -/
def insertEntry (key : Nat) (value : TypeRef) : List (Nat × TypeRef) → List (Nat × TypeRef)
  | [] => [(key, value)]
  | entry :: rest =>
    if key < entry.1 then (key, value) :: entry :: rest
    else if key = entry.1 then (key, value) :: rest
    else entry :: insertEntry key value rest

theorem mem_insertEntry {key : Nat} {value : TypeRef} {entries : List (Nat × TypeRef)}
    {entry : Nat × TypeRef} (h : entry ∈ insertEntry key value entries) :
    entry = (key, value) ∨ entry ∈ entries := by
  induction entries with
  | nil => simp_all [insertEntry]
  | cons first rest ih =>
    simp only [insertEntry] at h
    split at h
    · simp_all
    · split at h
      · rcases List.mem_cons.1 h with h | h
        · exact .inl h
        · exact .inr (List.mem_cons_of_mem _ h)
      · rcases List.mem_cons.1 h with h | h
        · exact .inr (h ▸ List.mem_cons_self)
        · exact (ih h).imp_right (List.mem_cons_of_mem _)

theorem pairwise_insertEntry (key : Nat) (value : TypeRef) (entries : List (Nat × TypeRef))
    (h : entries.Pairwise fun left right => left.1 < right.1) :
    (insertEntry key value entries).Pairwise fun left right => left.1 < right.1 := by
  induction entries with
  | nil => simp [insertEntry]
  | cons first rest ih =>
    obtain ⟨above, tail⟩ := List.pairwise_cons.1 h
    simp only [insertEntry]
    split
    · next below =>
      refine List.pairwise_cons.2 ⟨fun entry member => ?_, h⟩
      rcases List.mem_cons.1 member with rfl | member
      · exact below
      · exact Nat.lt_trans below (above entry member)
    · split
      · next same =>
        exact List.pairwise_cons.2 ⟨fun entry member => same ▸ above entry member, tail⟩
      · refine List.pairwise_cons.2 ⟨fun entry member => ?_, ih tail⟩
        rcases mem_insertEntry member with rfl | member
        · show first.1 < key
          omega
        · exact above entry member

/-- Binds a variable, whatever it stood for before. -/
def insert (map : VarMap) (key : Nat) (value : TypeRef) : VarMap :=
  ⟨insertEntry key value map.entries, pairwise_insertEntry key value map.entries map.ascending⟩

/-- Binds a variable that is not bound yet. -/
def insertIfNew (map : VarMap) (key : Nat) (value : TypeRef) : VarMap :=
  if map.contains key then map else map.insert key value

/-- Adds the bindings of another map for the variables that are not bound yet. -/
def mergeMissing (map other : VarMap) : VarMap :=
  other.entries.foldl (fun merged entry => merged.insertIfNew entry.1 entry.2) map

/-- Adds the bindings of another map, each over an older one. -/
def override (map other : VarMap) : VarMap :=
  other.entries.foldl (fun merged entry => merged.insert entry.1 entry.2) map

/-- The map with given bindings, the later ones winning. -/
def ofList (entries : List (Nat × TypeRef)) : VarMap :=
  entries.foldl (fun map entry => map.insert entry.1 entry.2) empty

/-- Whether a variable stands for itself, that is, is still free. -/
def isSelf (key : Nat) (value : TypeRef) : Bool :=
  value.id == key && value.depth == 0

/-- The map without the variables that stand for themselves. -/
def stripSelf (map : VarMap) : VarMap :=
  ⟨map.entries.filter fun entry => !isSelf entry.1 entry.2, map.ascending.filter _⟩

/-- The map as a JSON object from decimal ids to references. -/
def toJson (map : VarMap) : Json :=
  .object (map.entries.map fun entry => (toString entry.1, entry.2.toJson))

theorem lookup_cons (other key : Nat) (value : TypeRef) (rest : List (Nat × TypeRef)) :
    ((key, value) :: rest).lookup other =
      if other = key then some value else rest.lookup other := by
  by_cases same : other = key
  · subst same
    rw [List.lookup_cons_self, if_pos rfl]
  · rw [if_neg same]
    show (match other == key with | true => some value | false => rest.lookup other) = _
    rw [beq_eq_false_iff_ne.2 same]

theorem lookup_insertEntry (key other : Nat) (value : TypeRef) (entries : List (Nat × TypeRef)) :
    (insertEntry key value entries).lookup other =
      if other = key then some value else entries.lookup other := by
  induction entries with
  | nil => simp [insertEntry, lookup_cons]
  | cons first rest ih =>
    obtain ⟨firstKey, firstValue⟩ := first
    simp only [insertEntry]
    split
    · simp only [lookup_cons]
    · split
      · next same =>
        simp only [lookup_cons, ← same]
        by_cases here : other = key <;> simp [here]
      · next differs =>
        simp only [lookup_cons, ih]
        by_cases here : other = firstKey
        · have : other ≠ key := fun same => differs (same.symm.trans here)
          simp [here] at this ⊢
          exact fun same => absurd same this
        · simp [here]

/-- After an insertion the new variable stands for its value and the others for what they did. -/
theorem find?_insert (map : VarMap) (key other : Nat) (value : TypeRef) :
    (map.insert key value).find? other = if other = key then some value else map.find? other :=
  lookup_insertEntry key other value map.entries

theorem find?_empty (key : Nat) : empty.find? key = none := rfl

end VarMap

end ClassAtlas

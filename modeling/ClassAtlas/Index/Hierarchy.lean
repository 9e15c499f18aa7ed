import ClassAtlas.Graph
import ClassAtlas.Tables

/-!
# The hierarchy of all types

The direct supertypes of every type, read once and checked: no supertype lies outside the table of
types.  What lies above a type is found in rounds, each of which adds the supertypes of what the
round before has added.
-/

set_option autoImplicit false

namespace ClassAtlas

/-- Refuses references outside the table of types. -/
def Tables.checkRefs (tables : Tables) : List TypeRef → Except Fault Unit
  | [] => .ok ()
  | ref :: rest => do
    tables.checkRef ref
    checkRefs tables rest

/-- The direct supertypes of each type, by id. -/
structure Hierarchy where
  parents : Array (List Nat)

namespace Hierarchy

/-- The references from a type to its direct supertypes. -/
def parentRefs : TypeData → List TypeRef
  | .rawClass record => record.supertypes
  | .parameterized record => [record.rawType]
  | .typeVariable _ => []
  | .wildcard _ => []

/-- The direct supertypes of some types. -/
def readParents (tables : Tables) : List Nat → Except Fault (List (List Nat))
  | [] => .ok []
  | id :: rest => do
    let refs := parentRefs (← tables.typeData id)
    tables.checkRefs refs
    let others ← readParents tables rest
    return refs.map TypeRef.id :: others

/-- Reads the direct supertypes of all types. -/
def ofTables (tables : Tables) : Except Fault Hierarchy := do
  let parents ← readParents tables tables.typeIds
  return ⟨parents.toArray⟩

/-- The direct supertypes of a type. -/
def parentsOf (hierarchy : Hierarchy) (id : Nat) : List Nat :=
  (hierarchy.parents[id]?).getD []

/-- The ids that are not among those met, each once. -/
def unmet : List Nat → List Nat → List Nat
  | _, [] => []
  | met, id :: rest => if met.contains id then unmet met rest else id :: unmet (id :: met) rest

/-- Adds what lies above the last round, for as many rounds as are left. -/
def spread (hierarchy : Hierarchy) : Nat → List Nat → List Nat → List Nat
  | 0, met, _ => met
  | _, met, [] => met
  | rounds + 1, met, last :: others =>
    let fresh := unmet met ((last :: others).flatMap hierarchy.parentsOf)
    spread hierarchy rounds (met ++ fresh) fresh

/-- The types above a type, the type itself left out.  Every round but the last adds a type. -/
def ancestors (hierarchy : Hierarchy) (id : Nat) : List Nat :=
  (hierarchy.spread hierarchy.parents.size [id] [id]).filter (· ≠ id)

end Hierarchy

end ClassAtlas

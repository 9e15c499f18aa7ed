import ClassAtlas.Tables

/-!
# Inheritance

From a class the way leads up to its super class and its interfaces, from a parameterized type to
its class.  The types above a type are listed in the order of a walk that goes along each way as far
as possible before it takes the next one, and that enters no type twice.

The walk ends on every snapshot: a step takes a type away from those not visited yet, or leaves them
as they are and shortens what is still to be looked at.
-/

set_option autoImplicit false

namespace ClassAtlas

/-- The types directly above a type: the super class and then the interfaces of a class, or the
class of a parameterized type. -/
def TypeData.above : TypeData → List Nat
  | .rawClass record => record.supertypes.map TypeRef.id
  | .parameterized record => [record.rawType.id]
  | .typeVariable _ => []
  | .wildcard _ => []

/-- A list without one of its items is shorter. -/
theorem length_erase_lt {id : Nat} {ids : List Nat} (member : id ∈ ids) :
    (ids.erase id).length < ids.length := by
  have positive := List.length_pos_of_mem member
  rw [List.length_erase_of_mem member]
  omega

/-- Visits what is pending, the first item first and what is above it next. -/
def walkUp (above : Nat → Except Fault (List Nat)) (unvisited pending : List Nat) :
    Except Fault (List Nat) :=
  match pending with
  | [] => .ok []
  | id :: rest => do
    let following ← above id
    if h : id ∈ unvisited then
      have := length_erase_lt h
      let others ← walkUp above (unvisited.erase id) (following ++ rest)
      return id :: others
    else walkUp above unvisited rest
  termination_by (unvisited.length, pending.length)

namespace Tables

/-- The types directly above the type with an id. -/
def above (tables : Tables) (id : Nat) : Except Fault (List Nat) :=
  (tables.typeData id).map TypeData.above

/-- The type itself and all types above it, in the order of the walk. -/
def inherited (tables : Tables) (id : Nat) : Except Fault (List Nat) :=
  walkUp tables.above tables.typeIds [id]

end Tables

end ClassAtlas

import ClassAtlas.Tables

/-!
# Types by variant

The ids of all types grouped by variant, each group ascending.  A class name is searched only in the
groups it can belong to.
-/

set_option autoImplicit false

namespace ClassAtlas

/-- The ids of the types of each variant. -/
structure Partitions where
  wildcards : List Nat
  parameterized : List Nat
  typeVariables : List Nat
  rawClasses : List Nat
  deriving DecidableEq, Repr

namespace Partitions

/-- No types. -/
def empty : Partitions := ⟨[], [], [], []⟩

/-- Adds a type in front of its group. -/
def add (partitions : Partitions) (id : Nat) : TypeVariant → Partitions
  | .wildcard => { partitions with wildcards := id :: partitions.wildcards }
  | .parameterized => { partitions with parameterized := id :: partitions.parameterized }
  | .typeVariable => { partitions with typeVariables := id :: partitions.typeVariables }
  | .rawClass => { partitions with rawClasses := id :: partitions.rawClasses }

/-- Groups the types with given ids. -/
def ofIds (tables : Tables) : List Nat → Except Fault Partitions
  | [] => .ok empty
  | id :: rest => do
    let data ← tables.typeData id
    let others ← ofIds tables rest
    return others.add id data.variant

/-- Groups all types, or gives the fault of the first one that cannot be decoded. -/
def ofTables (tables : Tables) : Except Fault Partitions :=
  ofIds tables tables.typeIds

/-- The number of types in all groups. -/
def size (partitions : Partitions) : Nat :=
  partitions.wildcards.length + partitions.parameterized.length +
    partitions.typeVariables.length + partitions.rawClasses.length

/-- Whether there is no type in any group. -/
def isEmpty (partitions : Partitions) : Bool :=
  partitions.size == 0

/-- The groups as JSON. -/
def toJson (partitions : Partitions) : Json :=
  .object [
    ("wildcards", .ofList .nat partitions.wildcards),
    ("parameterized", .ofList .nat partitions.parameterized),
    ("type_variables", .ofList .nat partitions.typeVariables),
    ("raw", .ofList .nat partitions.rawClasses)]

end Partitions

end ClassAtlas

import ClassAtlas.VarMap

/-!
# How a name is written

The options of a rendering: what type variables stand for, whether the package is written, whether
type arguments are written, and two marks that hold inside parts of a type.  No bindings and an
empty map of bindings are the same options.
-/

set_option autoImplicit false

namespace ClassAtlas

/-- The options of a rendering.  `definingVariable` holds inside the bounds of a type variable,
where variables are written by their names alone; `definingParameterized` holds inside the parts of
a parameterized type, where enclosing classes are left to the owner type. -/
structure NameOptions where
  map : VarMap
  definingVariable : Bool
  appendPackage : Bool
  includeGenerics : Bool
  definingParameterized : Bool
  deriving DecidableEq, Hashable, Repr

namespace NameOptions

/-- With the package, without type arguments. -/
def plain : NameOptions := ⟨.empty, false, true, false, false⟩

/-- With the package and with type arguments. -/
def qualified : NameOptions := { plain with includeGenerics := true }

/-- Without the package, with type arguments. -/
def short : NameOptions := { qualified with appendPackage := false }

/-- The same options with other bindings. -/
def withMap (options : NameOptions) (map : VarMap) : NameOptions :=
  { options with map := map }

end NameOptions

end ClassAtlas

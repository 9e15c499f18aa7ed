import ClassAtlas.Json.Shape
import ClassAtlas.Text.Numerals

/-!
# References to types

A reference is the id of a type together with a number of array dimensions around it.  It is a plain
value, so two references to the same array type are equal.  Array depths are numbers of 32 bits, and
adding dimensions stays within them.

On the wire a reference is a bare id, or a list of id and depth.
-/

set_option autoImplicit false

namespace ClassAtlas

/-- A type of the snapshot by its id, inside `depth` array dimensions. -/
structure TypeRef where
  id : Nat
  depth : Nat
  deriving DecidableEq, Hashable, Repr, Inhabited

namespace TypeRef

/-- The type with an id, no array. -/
def plain (id : Nat) : TypeRef :=
  ⟨id, 0⟩

/-- Whether there is an array dimension. -/
def isArray (ref : TypeRef) : Bool :=
  0 < ref.depth

/-- The type inside all array dimensions. -/
def element (ref : TypeRef) : TypeRef :=
  plain ref.id

/-- Adds array dimensions, within 32 bits. -/
def deepen (ref : TypeRef) (extra : Nat) : TypeRef :=
  ⟨ref.id, (ref.depth + extra) % limit32⟩

/-- The spelling in messages: the id, or id and depth in brackets. -/
def toText (ref : TypeRef) : String :=
  if ref.depth = 0 then toString ref.id else s!"[{ref.id}, {ref.depth}]"

/-- The wire form. -/
def toJson (ref : TypeRef) : Json :=
  if ref.depth = 0 then .nat ref.id else .array [.nat ref.id, .nat ref.depth]

/-- The order by id, then by depth. -/
def before (left right : TypeRef) : Bool :=
  left.id < right.id || (left.id == right.id && left.depth < right.depth)

end TypeRef

/-- Reads a bare id, or a list of an id and a depth. -/
def Shape.typeRef : Shape TypeRef := fun value =>
  let refused : Except Mismatch TypeRef := .error (.noAlternative "TypeRefRepr")
  match value with
  | .array [id, depth] =>
    match Shape.nat32 id, Shape.nat32 depth with
    | .ok id, .ok depth => .ok ⟨id, depth⟩
    | _, _ => refused
  | other =>
    match Shape.nat32 other with
    | .ok id => .ok (.plain id)
    | .error _ => refused

end ClassAtlas

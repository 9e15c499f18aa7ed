import ClassAtlas.TypeView

/-!
# Related classes

The classes around a class: its direct supertypes, then what is reached through them, nearer ones
first, then the class around it and the classes inside it.  Every class is listed once, for the
first reason met, and the class itself is not listed.
-/

set_option autoImplicit false

namespace ClassAtlas

/-- How a class stands to the one that is asked about. -/
inductive Relatedness where
  | extended
  | implemented
  | extendedIndirectly
  | implementedIndirectly
  | enclosing
  | inner
  deriving DecidableEq, Repr

namespace Relatedness

/-- The name of a relatedness in answers. -/
def label : Relatedness → String
  | .extended => "Extends"
  | .implemented => "Implements"
  | .extendedIndirectly => "Extends (Indirect)"
  | .implementedIndirectly => "Implements (Indirect)"
  | .enclosing => "Enclosing Class"
  | .inner => "Inner Class"

/-- The same relatedness through another class. -/
def indirect : Relatedness → Relatedness
  | .extended => .extendedIndirectly
  | .implemented => .implementedIndirectly
  | other => other

end Relatedness

/-- A class with the reason why it is listed. -/
structure RelatedClass where
  relation : Relatedness
  type : TypeRef
  deriving DecidableEq, Repr

namespace RelatedClass

/-- The super class and the interfaces of a class as written. -/
def ofClass (record : ClassRecord) : List RelatedClass :=
  record.superClass.toList.map (⟨.extended, ·⟩) ++ record.interfaces.map (⟨.implemented, ·⟩)

/-- The direct supertypes of a type; a parameterized type answers for its class. -/
def direct (tables : Tables) : TypeData → Except Fault (List RelatedClass)
  | .rawClass record => .ok (ofClass record)
  | .parameterized record => do
    let found ← tables.class? record.rawType.id
    return (found.map ofClass).getD []
  | .typeVariable _ => .ok []
  | .wildcard _ => .ok []

/-- Those whose types were not met before, with the ids of all types met. -/
def unmet : List Nat → List RelatedClass → List RelatedClass × List Nat
  | met, [] => ([], met)
  | met, related :: rest =>
    if met.contains related.type.id then unmet met rest
    else
      let (others, met) := unmet (related.type.id :: met) rest
      (related :: others, met)

/-- The types one level further than those of a level, with the ids of all types met. -/
def nextLevel (tables : Tables) : List Nat → List TypeRef →
    Except Fault (List RelatedClass × List Nat)
  | met, [] => .ok ([], met)
  | met, current :: rest => do
    let data ← tables.typeData current.id
    let found ← direct tables data
    let (fresh, met) := unmet met (found.map fun related =>
      { related with relation := related.relation.indirect })
    let (others, met) ← nextLevel tables met rest
    return (fresh ++ others, met)

/-- Everything reached from a level, in so many levels, with the ids of all types met. -/
def further (tables : Tables) : Nat → List Nat → List TypeRef →
    Except Fault (List RelatedClass × List Nat)
  | _, met, [] => .ok ([], met)
  | 0, met, _ :: _ => .ok ([], met)
  | levels + 1, met, current :: rest => do
    let (fresh, met) ← nextLevel tables met (current :: rest)
    let (others, met) ← further tables levels met (fresh.map RelatedClass.type)
    return (fresh ++ others, met)

/-- The class around a class and the classes inside it. -/
def nesting (data : TypeData) : List RelatedClass :=
  data.enclosingClass.toList.map (⟨.enclosing, ·⟩) ++ data.innerClasses.map (⟨.inner, ·⟩)

end RelatedClass

/-- The classes around a type.  Every level but the last brings a type that was not met before, so
there are no more levels than types, and one more to look at the last. -/
def TypeView.relatedClasses (view : TypeView) (tables : Tables) :
    Except Fault (List RelatedClass) := do
  let found ← RelatedClass.direct tables view.data
  let (near, met) := RelatedClass.unmet [view.ref.id] found
  let (far, met) ←
    RelatedClass.further tables (tables.typeCount + 1) met (near.map RelatedClass.type)
  return near ++ far ++ (RelatedClass.unmet met (RelatedClass.nesting view.data)).1

/-- A related class in the bindings of the view that it was found from. -/
def TypeView.relatedView (view : TypeView) (atlas : Atlas) (related : RelatedClass) :
    Work TypeView := do
  let found ← Work.lift (atlas.tables.view related.type)
  let map ← view.variableMap atlas
  return found.withBindings map

end ClassAtlas

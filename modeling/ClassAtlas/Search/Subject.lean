import ClassAtlas.Members
import ClassAtlas.Search.Filter

/-!
# What filters are asked of

A filter is evaluated on a class, a field, a method or a parameter.  Tests on types ask the class
itself, or the declared type of a member as the bindings of the member make it.  Evaluation stops as
soon as the answer is known, so tests that are not needed cannot fail.
-/

set_option autoImplicit false

namespace ClassAtlas

open Work (lift)

/-- A subject of filters. -/
inductive Subject where
  | type (view : TypeView)
  | field (field : Field)
  | method (method : Method)
  | parameter (parameter : Parameter)

namespace Subject

/-- The class itself, or the type of the member. -/
def typeView (subject : Subject) (tables : Tables) : Except Fault TypeView :=
  match subject with
  | .type view => .ok view
  | .field member => tables.view (member.standIn member.record.type)
  | .method member => tables.view (member.standIn member.record.returnType)
  | .parameter member => tables.view (member.standIn member.record.type)

/-- The name of a member; classes have none of this kind. -/
def memberName (subject : Subject) (tables : Tables) : Work (Option String) :=
  match subject with
  | .type _ => pure none
  | .field member => tables.optionalName member.record.name
  | .method member => tables.optionalName member.record.name
  | .parameter member => tables.optionalName member.record.name

/-- An attribute of a type. -/
def typeAttribute (atlas : Atlas) (view : TypeView) : TypeAttribute → Work (Option String)
  | .referenceName => do return some (← view.referenceName atlas)
  | .name => do return some (← view.name atlas)
  | .simpleName => do return some (← view.simpleName atlas)
  | .package => do return some (← view.packageName atlas)
  | .rawType => do
    match view.data.rawType with
    | some raw => do
      let raw ← lift (atlas.tables.view raw)
      return some (← raw.qualifiedName atlas false)
    | none => return none

/-- The text that an attribute of the subject has. -/
def attributeText (subject : Subject) (atlas : Atlas) : Attribute → Work (Option String)
  | .memberName => subject.memberName atlas.tables
  | .type aspect => do
    let view ← lift (subject.typeView atlas.tables)
    typeAttribute atlas view aspect

/-- Whether the subject passes a single test. -/
def passes (subject : Subject) (atlas : Atlas) : Predicate → Work Bool
  | .text aspect matcher => do return matcher.accepts (← subject.attributeText atlas aspect)
  | .id id inclusive => do
    let view ← lift (subject.typeView atlas.tables)
    return (view.ref.id == id) == inclusive
  | .parameterCount count =>
    match subject with
    | .method member => return member.record.parameters.length == count
    | _ => return false
  | .variant wanted expected => do
    let view ← lift (subject.typeView atlas.tables)
    return (view.data.variant == wanted) == expected
  | .never => return false

end Subject

namespace Filter

mutual
/-- Whether a subject passes a filter. -/
def evaluate (atlas : Atlas) (subject : Subject) : Filter → Work Bool
  | .leaf predicate => subject.passes atlas predicate
  | .all filters => evaluateAll atlas subject filters
  | .any filters => evaluateAny atlas subject filters
  | .not filter => do return !(← evaluate atlas subject filter)

/-- Whether a subject passes every filter, asked one after the other up to the first refusal. -/
def evaluateAll (atlas : Atlas) (subject : Subject) : List Filter → Work Bool
  | [] => pure true
  | filter :: rest => do
    if ← evaluate atlas subject filter then evaluateAll atlas subject rest
    else return false

/-- Whether a subject passes some filter, asked one after the other up to the first success. -/
def evaluateAny (atlas : Atlas) (subject : Subject) : List Filter → Work Bool
  | [] => pure false
  | filter :: rest => do
    if ← evaluate atlas subject filter then return true
    else evaluateAny atlas subject rest
end

end Filter

end ClassAtlas

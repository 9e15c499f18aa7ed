import ClassAtlas.Inheritance
import ClassAtlas.TypeView

/-!
# Members

Fields, methods, constructors and parameters together with the class that declares them, their place
among the members of that class, and the bindings of the type through which they were listed.  So an
inherited `T value` of `Box<T>` reads as `Integer value` on a subclass of `Box<Integer>`.

Fields and methods are listed class by class in the order of the inheritance walk, or for the type
alone; constructors are not inherited.
-/

set_option autoImplicit false

namespace ClassAtlas

/-- A member: the id of its class, its place there, and the bindings under which it is seen. -/
structure Member (α : Type) where
  declaring : Nat
  index : Nat
  map : VarMap
  record : α

/-- A field of a class. -/
abbrev Field : Type := Member FieldRecord

/-- A method of a class. -/
abbrev Method : Type := Member MethodRecord

/-- A constructor of a class. -/
abbrev Constructor : Type := Member ConstructorRecord

/-- What a parameter belongs to: a method or a constructor, by its place in the class. -/
inductive ParameterOwner where
  | method (index : Nat)
  | constructor (index : Nat)
  deriving DecidableEq, Repr

/-- A parameter; its place is the one in the list of parameters. -/
structure Parameter extends Member ParameterRecord where
  owner : ParameterOwner
  id : Nat

namespace Member

variable {α : Type}

/-- The text of a type in the bindings of a member. -/
def render (member : Member α) (tables : Tables) (ref : TypeRef) (options : NameOptions) :
    Work String :=
  tables.render ref (options.withMap member.map)

/-- What a reference stands for after one step through the bindings of a member. -/
def standIn (member : Member α) (ref : TypeRef) : TypeRef :=
  match member.map.find? ref.id with
  | some target => target.deepen ref.depth
  | none => ref

/-- The class that declares a member, in the bindings of the member. -/
def declaringView (member : Member α) (tables : Tables) : Except Fault TypeView := do
  let view ← tables.view (.plain member.declaring)
  return view.withBindings member.map

/-- The parameters with given ids, as parts of a member. -/
def parametersOf (member : Member α) (tables : Tables) (owner : ParameterOwner) :
    List Nat → Nat → Except Fault (List Parameter)
  | [], _ => .ok []
  | id :: rest, index => do
    let record ← tables.parameter id
    let others ← parametersOf member tables owner rest (index + 1)
    return { declaring := member.declaring, index, map := member.map, record, owner, id } :: others

end Member

/-- The parameters of a method. -/
def Method.parameters (method : Method) (tables : Tables) : Except Fault (List Parameter) :=
  method.parametersOf tables (.method method.index) method.record.parameters 0

/-- The parameters of a constructor. -/
def Constructor.parameters (constructor : Constructor) (tables : Tables) :
    Except Fault (List Parameter) :=
  constructor.parametersOf tables (.constructor constructor.index) constructor.record.parameters 0

namespace TypeView

open Work (lift)

/-- The classes among given types. -/
def classesOf (tables : Tables) : List Nat → Except Fault (List Nat)
  | [] => .ok []
  | id :: rest => do
    let found ← tables.class? id
    let others ← classesOf tables rest
    return if found.isSome then id :: others else others

/-- The class that a type is, or is an application of. -/
def ownClass (view : TypeView) : List Nat :=
  if view.data.isClass then [view.ref.id] else (view.data.rawType.map TypeRef.id).toList

/-- The classes whose members a type has: its own class, or all classes above it as well. -/
def memberClasses (view : TypeView) (tables : Tables) (shallow : Bool) :
    Except Fault (List Nat) := do
  if shallow then return view.ownClass
  else classesOf tables (← tables.inherited view.ref.id)

/-- The members of some classes in the bindings of a view.  The bindings are computed only when
there is a member to carry them. -/
def membersIn {α : Type} (view : TypeView) (atlas : Atlas) (part : ClassMembers → List α) :
    List Nat → Work (List (Member α))
  | [] => pure []
  | declaring :: rest => do
    let records := part (← lift (atlas.tables.membersOf declaring))
    let map ← if records.isEmpty then pure VarMap.empty else view.variableMap atlas
    let others ← membersIn view atlas part rest
    return records.mapIdx (fun index record => { declaring, index, map, record }) ++ others

/-- The members of a type, inherited ones included unless the listing is shallow. -/
def members {α : Type} (view : TypeView) (atlas : Atlas) (part : ClassMembers → List α)
    (shallow : Bool) : Work (List (Member α)) := do
  let classes ← lift (view.memberClasses atlas.tables shallow)
  view.membersIn atlas part classes

/-- The fields of a type. -/
def fields (view : TypeView) (atlas : Atlas) (shallow : Bool) : Work (List Field) :=
  view.members atlas ClassMembers.fields shallow

/-- The methods of a type. -/
def methods (view : TypeView) (atlas : Atlas) (shallow : Bool) : Work (List Method) :=
  view.members atlas ClassMembers.methods shallow

/-- The constructors of a type. -/
def constructors (view : TypeView) (atlas : Atlas) : Work (List Constructor) :=
  view.members atlas ClassMembers.constructors true

end TypeView

end ClassAtlas

import ClassAtlas.Index.Hierarchy

/-!
# What the records say about types

Every record states relations from its type to others.  A statement is a list of targets together
with the kinds in which the type stands to them.  Nearly all of them say as well that the type
refers to the targets.

A parameterized type should have one argument for each variable of its class; where it has not, a
warning is recorded and nothing else changes.
-/

set_option autoImplicit false

namespace ClassAtlas

/-- What is found out about one type: relations to others, and a warning perhaps. -/
structure Findings where
  edges : List Edge
  warnings : List String
  deriving Repr

namespace Findings

/-- Nothing found. -/
def empty : Findings := ⟨[], []⟩

/-- Two findings one after the other. -/
def append (left right : Findings) : Findings :=
  ⟨left.edges ++ right.edges, left.warnings ++ right.warnings⟩

end Findings

namespace Tables

/-- The relations from a type to targets in some kinds.  The targets are taken in ascending order,
and one outside the table of types is a fault. -/
def mark (tables : Tables) (source : Nat) (targets : List Nat) (kinds : List RelationKind) :
    Except Fault (List Edge) := do
  let targets := Graph.dropRepeats (targets.mergeSort (fun left right => left ≤ right))
  tables.checkRefs (targets.map TypeRef.plain)
  return targets.flatMap fun target => kinds.map fun kind => ⟨kind, source, target⟩

/-- The types of parameters. -/
def parameterTypes (tables : Tables) : List Nat → Except Fault (List Nat)
  | [] => .ok []
  | id :: rest => do
    let record ← tables.parameter id
    let others ← parameterTypes tables rest
    return record.type.id :: others

/-- What the record of a class says. -/
def classFacts (tables : Tables) (id : Nat) (record : ClassRecord) : Except Fault (List Edge) := do
  let superClass ← tables.mark id (record.superClass.toList.map TypeRef.id) [.superClass]
  let members ← tables.membersOf id
  let built ← tables.parameterTypes (members.constructors.flatMap ConstructorRecord.parameters)
  let built ← tables.mark id built [.constructorParameterType, .parameterType, .references]
  let fields ← tables.mark id (members.fields.map fun field => field.type.id)
    [.fieldType, .references]
  let returned ← tables.mark id (members.methods.map fun method => method.returnType.id)
    [.methodReturnType, .references]
  let taken ← tables.parameterTypes (members.methods.flatMap MethodRecord.parameters)
  let taken ← tables.mark id taken [.methodParameterType, .parameterType, .references]
  let declaring ← tables.mark id (record.declaringClass.toList.map TypeRef.id)
    [.declaringClass, .references]
  let enclosing ← tables.mark id (record.enclosingClass.toList.map TypeRef.id)
    [.enclosingClass, .references]
  let inner ← tables.mark id (record.innerClasses.map TypeRef.id) [.enclosesClass, .references]
  let declared ← tables.mark id record.typeVariables [.typeVariableOf, .references]
  return superClass ++ built ++ fields ++ returned ++ taken ++ declaring ++ enclosing ++ inner ++
    declared

/-- The warning about a parameterized type whose arguments do not fit the variables of its class. -/
def arityWarnings (tables : Tables) (id : Nat) (record : ParameterizedRecord) :
    Except Fault (List String) := do
  match ← tables.class? record.rawType.id with
  | none => throw (.decode (.rawNotClass record.rawType.id id none))
  | some declaring =>
    let expected := declaring.typeVariables.length
    let found := record.arguments.length
    let raw := record.rawType.id
    if expected = found then return []
    else return [s!"Parameterized type {id} has {found} type arguments but raw type {raw} " ++
      s!"declares {expected}"]

/-- What the record of a type says. -/
def recordFacts (tables : Tables) (id : Nat) : TypeData → Except Fault Findings
  | .rawClass record => do return ⟨← tables.classFacts id record, []⟩
  | .parameterized record => do
    let warnings ← tables.arityWarnings id record
    let raw ← tables.mark id [record.rawType.id] [.rawType, .references]
    let owner ← tables.mark id (record.ownerType.toList.map TypeRef.id) [.ownerType, .references]
    return ⟨raw ++ owner, warnings⟩
  | .wildcard record => do
    let lower ← tables.mark id (record.lower.map TypeRef.id) [.lowerBound, .references]
    let upper ← tables.mark id (record.upper.map TypeRef.id) [.upperBound, .references]
    return ⟨lower ++ upper, []⟩
  | .typeVariable record => do
    return ⟨← tables.mark id (record.bounds.map TypeRef.id) [.typeVariableBounds, .references], []⟩

/-- What is found out about one type: what lies above it and what its record says. -/
def typeFacts (tables : Tables) (hierarchy : Hierarchy) (id : Nat) : Except Fault Findings := do
  let inherited ← tables.mark id (hierarchy.ancestors id) [.inherits, .references]
  let data ← tables.typeData id
  let stated ← tables.recordFacts id data
  return Findings.append ⟨inherited, []⟩ stated

/-- What is found out about some types. -/
def facts (tables : Tables) (hierarchy : Hierarchy) : List Nat → Except Fault Findings
  | [] => .ok .empty
  | id :: rest => do
    let first ← tables.typeFacts hierarchy id
    let others ← facts tables hierarchy rest
    return first.append others

end Tables

/-- The graph of some relations and of their inverses. -/
def Graph.ofRelations (edges : List Edge) : Graph :=
  .ofEdges (edges.flatMap fun edge => [edge, edge.inverse])

end ClassAtlas

import ClassAtlas.Index.Build
import ClassAtlas.Proofs.Graph
import ClassAtlas.Proofs.Index.Ancestors

/-!
# The graph of an index is what the records call for

What a snapshot states about a type is given by rules (`Tables.Fact`): one for what lies above it,
and one for every field of its record that names other types.  The kinds in which the graph puts a
fact down follow from the kind of the fact alone (`RelationKind.putDown`), so the pass over all
types finds exactly the facts (`facts_spec`), and an index holds a relation exactly when the records
call for it (`index_graph`).
-/

set_option autoImplicit false

namespace ClassAtlas

open Relation (ReflTransGen)

/-! ## What the records state -/

/-- The types that a record names in the field of a kind. -/
def TypeData.named : TypeData → RelationKind → List TypeRef
  | .rawClass record, .superClass => record.superClass.toList
  | .rawClass record, .declaringClass => record.declaringClass.toList
  | .rawClass record, .enclosingClass => record.enclosingClass.toList
  | .rawClass record, .enclosesClass => record.innerClasses
  | .rawClass record, .typeVariableOf => record.typeVariables.map TypeRef.plain
  | .parameterized record, .rawType => [record.rawType]
  | .parameterized record, .ownerType => record.ownerType.toList
  | .wildcard record, .lowerBound => record.lower
  | .wildcard record, .upperBound => record.upper
  | .typeVariable record, .typeVariableBounds => record.bounds
  | _, _ => []

/-- The kinds of the fields in which a record names types. -/
def TypeData.namedKinds : TypeData → List RelationKind
  | .rawClass _ =>
    [.superClass, .declaringClass, .enclosingClass, .enclosesClass, .typeVariableOf]
  | .parameterized _ => [.rawType, .ownerType]
  | .wildcard _ => [.lowerBound, .upperBound]
  | .typeVariable _ => [.typeVariableBounds]

theorem TypeData.mem_namedKinds {data : TypeData} {kind : RelationKind} {ref : TypeRef}
    (written : ref ∈ data.named kind) : kind ∈ data.namedKinds := by
  unfold named at written
  split at written
  all_goals first | cases written; done | simp only [namedKinds, List.mem_cons, true_or, or_true]

namespace Tables

variable (tables : Tables)

/-- What the record of a type states, each fact with its kind and its target.  The types of members
and of their parameters are those of the decoded members. -/
inductive RecordFact : TypeData → RelationKind → Nat → Prop where
  | named {data : TypeData} {kind : RelationKind} {ref : TypeRef}
      (written : ref ∈ data.named kind) :
      RecordFact data kind ref.id
  | field {record : ClassRecord} {raw : Json} {field : FieldRecord}
      (written : raw ∈ record.fields) (read : Record.field raw = .ok field) :
      RecordFact (.rawClass record) .fieldType field.type.id
  | returned {record : ClassRecord} {raw : Json} {method : MethodRecord}
      (written : raw ∈ record.methods) (read : Record.method raw = .ok method) :
      RecordFact (.rawClass record) .methodReturnType method.returnType.id
  | taken {record : ClassRecord} {raw : Json} {method : MethodRecord} {id : Nat}
      {parameter : ParameterRecord} (written : raw ∈ record.methods)
      (read : Record.method raw = .ok method) (listed : id ∈ method.parameters)
      (found : tables.parameter id = .ok parameter) :
      RecordFact (.rawClass record) .methodParameterType parameter.type.id
  | built {record : ClassRecord} {raw : Json} {constructor : ConstructorRecord} {id : Nat}
      {parameter : ParameterRecord} (written : raw ∈ record.constructors)
      (read : Record.constructor raw = .ok constructor) (listed : id ∈ constructor.parameters)
      (found : tables.parameter id = .ok parameter) :
      RecordFact (.rawClass record) .constructorParameterType parameter.type.id

/-- What a snapshot states about a type: what lies above it, and what its record says. -/
inductive Fact (id : Nat) : RelationKind → Nat → Prop where
  | inherits {target : Nat} (way : ReflTransGen tables.Above id target) (other : target ≠ id) :
      Fact id .inherits target
  | stated {data : TypeData} {kind : RelationKind} {target : Nat}
      (read : tables.typeData id = .ok data) (fact : tables.RecordFact data kind target) :
      Fact id kind target

/-- The relations that the records call for, in the kinds that they are written in.  The other kinds
are the inverses of these. -/
def Holds : RelationKind → Nat → Nat → Prop
  | .inherits, a, b => b ≠ a ∧ ReflTransGen tables.Above a b
  | .superClass, a, b => tables.Fact a .superClass b
  | .references, a, b => ∃ stated, stated ≠ .superClass ∧ tables.Fact a stated b
  | .fieldType, a, b => tables.Fact a .fieldType b
  | .methodReturnType, a, b => tables.Fact a .methodReturnType b
  | .methodParameterType, a, b => tables.Fact a .methodParameterType b
  | .constructorParameterType, a, b => tables.Fact a .constructorParameterType b
  | .parameterType, a, b =>
    tables.Fact a .methodParameterType b ∨ tables.Fact a .constructorParameterType b
  | .typeVariableOf, a, b => tables.Fact a .typeVariableOf b
  | .declaringClass, a, b => tables.Fact a .declaringClass b
  | .enclosingClass, a, b => tables.Fact a .enclosingClass b ∨ tables.Fact b .enclosesClass a
  | .rawType, a, b => tables.Fact a .rawType b
  | .ownerType, a, b => tables.Fact a .ownerType b
  | .lowerBound, a, b => tables.Fact a .lowerBound b
  | .upperBound, a, b => tables.Fact a .upperBound b
  | .typeVariableBounds, a, b => tables.Fact a .typeVariableBounds b
  | _, _, _ => False

/-- The relations that the records call for, in either direction. -/
def CallsFor (kind : RelationKind) (a b : Nat) : Prop :=
  tables.Holds kind a b ∨ tables.Holds kind.inverse b a

end Tables

/-- The kinds in which a fact is put down: its own kind, for parameters the common one, and except
for the super class a reference. -/
def RelationKind.putDown : RelationKind → List RelationKind
  | .superClass => [.superClass]
  | .constructorParameterType => [.constructorParameterType, .parameterType, .references]
  | .methodParameterType => [.methodParameterType, .parameterType, .references]
  | kind => [kind, .references]

theorem RelationKind.mem_putDown_iff (kind stated : RelationKind) :
    kind ∈ stated.putDown ↔ kind = stated ∨ (kind = .references ∧ stated ≠ .superClass) ∨
      (kind = .parameterType ∧ (stated = .constructorParameterType ∨
        stated = .methodParameterType)) := by
  cases stated <;> simp [RelationKind.putDown] <;> tauto

/-! ## The pass over the records -/

namespace Tables

/-- Edges that put facts of one kind about one type down, and nothing else, inside the snapshot. -/
def PutsDown (tables : Tables) (edges : List Edge) (source : Nat) (stated : RelationKind)
    (targets : Nat → Prop) : Prop :=
  (∀ edge, edge ∈ edges ↔
    edge.source = source ∧ edge.kind ∈ stated.putDown ∧ targets edge.target) ∧
    ∀ target, targets target → target < tables.typeCount

variable {tables : Tables}

theorem mark_eq_ok {source : Nat} {ids : List Nat} {stated : RelationKind} {edges : List Edge}
    (run : tables.mark source ids stated.putDown = .ok edges) {targets : Nat → Prop}
    (same : ∀ target, target ∈ ids ↔ targets target) :
    tables.PutsDown edges source stated targets := by
  obtain ⟨_, checked, run⟩ := Outcome.bind_eq_ok.1 run
  cases run
  constructor
  · rintro ⟨kind, from_, target⟩
    rw [List.mem_flatMap]
    constructor
    · rintro ⟨found, listed, member⟩
      obtain ⟨kind', allowed, equal⟩ := List.mem_map.1 member
      cases equal
      rw [Graph.mem_dropRepeats_iff, List.mem_mergeSort] at listed
      exact ⟨rfl, allowed, (same _).1 listed⟩
    · rintro ⟨rfl, allowed, fact⟩
      refine ⟨target, ?_, List.mem_map.2 ⟨kind, allowed, rfl⟩⟩
      rw [Graph.mem_dropRepeats_iff, List.mem_mergeSort]
      exact (same _).2 fact
  · intro target fact
    refine checkRefs_eq_ok checked (TypeRef.plain target) (List.mem_map.2 ⟨target, ?_, rfl⟩)
    rw [Graph.mem_dropRepeats_iff, List.mem_mergeSort]
    exact (same _).2 fact

/-- Types of the snapshot can be put down. -/
theorem exists_mark {source : Nat} {ids : List Nat} {kinds : List RelationKind}
    (inside : ∀ id ∈ ids, id < tables.typeCount) :
    ∃ edges, tables.mark source ids kinds = .ok edges := by
  refine ⟨_, Outcome.bind_eq_ok.2 ⟨(), checkRefs_of_lt fun ref listed => ?_, rfl⟩⟩
  obtain ⟨id, member, rfl⟩ := List.mem_map.1 listed
  rw [Graph.mem_dropRepeats_iff, List.mem_mergeSort] at member
  exact inside id member

theorem parameterTypes_eq_ok {ids types : List Nat}
    (run : tables.parameterTypes ids = .ok types) (target : Nat) :
    target ∈ types ↔
      ∃ id ∈ ids, ∃ parameter, tables.parameter id = .ok parameter ∧
        parameter.type.id = target := by
  induction ids generalizing types with
  | nil =>
    cases run
    simp
  | cons id rest ih =>
    obtain ⟨parameter, here, run⟩ := Outcome.bind_eq_ok.1 run
    obtain ⟨others, there, run⟩ := Outcome.bind_eq_ok.1 run
    cases run
    rw [List.mem_cons, ih there, List.exists_mem_cons_iff, here]
    simp only [Except.ok.injEq, exists_eq_left', @eq_comm _ target]

/-- Edges that put all facts of a family about one type down, and nothing else, inside the
snapshot. -/
def PutsAllDown (tables : Tables) (edges : List Edge) (source : Nat)
    (facts : RelationKind → Nat → Prop) : Prop :=
  (∀ edge, edge ∈ edges ↔
    edge.source = source ∧ ∃ stated, edge.kind ∈ stated.putDown ∧ facts stated edge.target) ∧
    ∀ stated target, facts stated target → target < tables.typeCount

/-- Parts that each put the facts of one kind down make up the whole when no kind is left out. -/
theorem putsAllDown_of_parts {source : Nat} {facts : RelationKind → Nat → Prop}
    {edges : List Edge} (parts : List (RelationKind × List Edge))
    (whole : edges = parts.flatMap Prod.snd)
    (each : ∀ part ∈ parts, tables.PutsDown part.2 source part.1 (facts part.1))
    (every : ∀ stated target, facts stated target → stated ∈ parts.map Prod.fst) :
    tables.PutsAllDown edges source facts := by
  constructor
  · intro edge
    rw [whole, List.mem_flatMap]
    constructor
    · rintro ⟨part, listed, member⟩
      obtain ⟨from_, allowed, fact⟩ := ((each part listed).1 edge).1 member
      exact ⟨from_, part.1, allowed, fact⟩
    · rintro ⟨from_, stated, allowed, fact⟩
      obtain ⟨part, listed, rfl⟩ := List.mem_map.1 (every stated _ fact)
      exact ⟨part, listed, ((each part listed).1 edge).2 ⟨from_, allowed, fact⟩⟩
  · intro stated target fact
    obtain ⟨part, listed, rfl⟩ := List.mem_map.1 (every stated _ fact)
    exact (each part listed).2 target fact

variable {snapshot : Snapshot}

/-! ### The record of a type -/

/-- The kinds that say something of the members of a class. -/
def memberKinds : List RelationKind :=
  [.fieldType, .methodReturnType, .methodParameterType, .constructorParameterType]

theorem mem_named_iff (data : TypeData) {kind : RelationKind} (other : kind ∉ memberKinds)
    (target : Nat) :
    target ∈ (data.named kind).map TypeRef.id ↔ tables.RecordFact data kind target := by
  constructor
  · intro member
    obtain ⟨ref, written, rfl⟩ := List.mem_map.1 member
    exact .named written
  · intro fact
    cases fact with
    | named written => exact List.mem_map_of_mem written
    | field | returned | taken | built => simp [memberKinds] at other

section Members

/-- The types that decoded members name are those that the records of the members name. -/
theorem mem_map_decoded_iff {α : Type} {decode : Json → Except Fault α} {raws : List Json}
    {members : List α} (read : decodeAll decode raws = .ok members) (named : α → Nat)
    (target : Nat) :
    target ∈ members.map named ↔
      ∃ raw ∈ raws, ∃ member, decode raw = .ok member ∧ named member = target := by
  rw [List.mem_map]
  simp only [decodeAll_eq_ok read]
  constructor
  · rintro ⟨member, ⟨raw, written, decoded⟩, same⟩
    exact ⟨raw, written, member, decoded, same⟩
  · rintro ⟨raw, written, member, decoded, same⟩
    exact ⟨member, ⟨raw, written, decoded⟩, same⟩

/-- The types of the parameters of decoded members are those that the records of the parameters
name. -/
theorem mem_parameterTypes_iff {α : Type} {decode : Json → Except Fault α} {raws : List Json}
    {members : List α} (read : decodeAll decode raws = .ok members) {parameters : α → List Nat}
    {types : List Nat} (run : tables.parameterTypes (members.flatMap parameters) = .ok types)
    (target : Nat) :
    target ∈ types ↔ ∃ raw ∈ raws, ∃ member, decode raw = .ok member ∧
      ∃ id ∈ parameters member, ∃ parameter, tables.parameter id = .ok parameter ∧
        parameter.type.id = target := by
  rw [parameterTypes_eq_ok run]
  constructor
  · rintro ⟨id, member, parameter, found, same⟩
    obtain ⟨owner, listed, own⟩ := List.mem_flatMap.1 member
    obtain ⟨raw, written, decoded⟩ := (decodeAll_eq_ok read owner).1 listed
    exact ⟨raw, written, owner, decoded, id, own, parameter, found, same⟩
  · rintro ⟨raw, written, owner, decoded, id, own, parameter, found, same⟩
    have listed := (decodeAll_eq_ok read owner).2 ⟨raw, written, decoded⟩
    exact ⟨id, List.mem_flatMap.2 ⟨owner, listed, own⟩, parameter, found, same⟩

variable (record : ClassRecord) (target : Nat)

theorem mem_fieldTypes_iff {fields : List FieldRecord}
    (read : decodeAll Record.field record.fields = .ok fields) :
    target ∈ fields.map (fun field => field.type.id) ↔
      tables.RecordFact (.rawClass record) .fieldType target := by
  rw [mem_map_decoded_iff read]
  constructor
  · rintro ⟨raw, written, field, decoded, rfl⟩
    exact .field written decoded
  · intro fact
    cases fact with
    | named written => cases written
    | field written decoded => exact ⟨_, written, _, decoded, rfl⟩

theorem mem_returnTypes_iff {methods : List MethodRecord}
    (read : decodeAll Record.method record.methods = .ok methods) :
    target ∈ methods.map (fun method => method.returnType.id) ↔
      tables.RecordFact (.rawClass record) .methodReturnType target := by
  rw [mem_map_decoded_iff read]
  constructor
  · rintro ⟨raw, written, method, decoded, rfl⟩
    exact .returned written decoded
  · intro fact
    cases fact with
    | named written => cases written
    | returned written decoded => exact ⟨_, written, _, decoded, rfl⟩

theorem mem_methodParameters_iff {methods : List MethodRecord} {types : List Nat}
    (read : decodeAll Record.method record.methods = .ok methods)
    (taken : tables.parameterTypes (methods.flatMap MethodRecord.parameters) = .ok types) :
    target ∈ types ↔ tables.RecordFact (.rawClass record) .methodParameterType target := by
  rw [mem_parameterTypes_iff read taken]
  constructor
  · rintro ⟨raw, written, method, decoded, id, own, parameter, found, rfl⟩
    exact .taken written decoded own found
  · intro fact
    cases fact with
    | named written => cases written
    | taken written decoded own found => exact ⟨_, written, _, decoded, _, own, _, found, rfl⟩

theorem mem_constructorParameters_iff {constructors : List ConstructorRecord} {types : List Nat}
    (read : decodeAll Record.constructor record.constructors = .ok constructors)
    (built : tables.parameterTypes (constructors.flatMap ConstructorRecord.parameters) =
      .ok types) :
    target ∈ types ↔ tables.RecordFact (.rawClass record) .constructorParameterType target := by
  rw [mem_parameterTypes_iff read built]
  constructor
  · rintro ⟨raw, written, constructor, decoded, id, own, parameter, found, rfl⟩
    exact .built written decoded own found
  · intro fact
    cases fact with
    | named written => cases written
    | built written decoded own found => exact ⟨_, written, _, decoded, _, own, _, found, rfl⟩

end Members

/-- Edges that put the types in a field of a record down. -/
theorem mark_named {id : Nat} {data : TypeData} {stated : RelationKind} {ids : List Nat}
    {edges : List Edge} (run : tables.mark id ids stated.putDown = .ok edges)
    (other : stated ∉ memberKinds) (same : ids = (data.named stated).map TypeRef.id) :
    tables.PutsDown edges id stated (tables.RecordFact data stated) :=
  mark_eq_ok run fun target => same ▸ mem_named_iff data other target

/-- The pass over a class puts down what its record states. -/
theorem classFacts_eq_ok {id : Nat} {record : ClassRecord} {edges : List Edge}
    (known : (ofSnapshot snapshot).typeData id = .ok (.rawClass record))
    (run : (ofSnapshot snapshot).classFacts id record = .ok edges) :
    (ofSnapshot snapshot).PutsAllDown edges id
      ((ofSnapshot snapshot).RecordFact (.rawClass record)) := by
  obtain ⟨superClass, superRun, run⟩ := Outcome.bind_eq_ok.1 run
  obtain ⟨members, membersRun, run⟩ := Outcome.bind_eq_ok.1 run
  obtain ⟨builtTypes, builtTypesRun, run⟩ := Outcome.bind_eq_ok.1 run
  obtain ⟨built, builtRun, run⟩ := Outcome.bind_eq_ok.1 run
  obtain ⟨fields, fieldsRun, run⟩ := Outcome.bind_eq_ok.1 run
  obtain ⟨returned, returnedRun, run⟩ := Outcome.bind_eq_ok.1 run
  obtain ⟨takenTypes, takenTypesRun, run⟩ := Outcome.bind_eq_ok.1 run
  obtain ⟨taken, takenRun, run⟩ := Outcome.bind_eq_ok.1 run
  obtain ⟨declaring, declaringRun, run⟩ := Outcome.bind_eq_ok.1 run
  obtain ⟨enclosing, enclosingRun, run⟩ := Outcome.bind_eq_ok.1 run
  obtain ⟨inner, innerRun, run⟩ := Outcome.bind_eq_ok.1 run
  obtain ⟨declared, declaredRun, run⟩ := Outcome.bind_eq_ok.1 run
  cases run
  obtain ⟨fieldsRead, methodsRead, constructorsRead⟩ := membersOf_eq_ok known membersRun
  refine putsAllDown_of_parts
    [(.superClass, superClass), (.constructorParameterType, built), (.fieldType, fields),
      (.methodReturnType, returned), (.methodParameterType, taken), (.declaringClass, declaring),
      (.enclosingClass, enclosing), (.enclosesClass, inner), (.typeVariableOf, declared)]
    ?_ ?_ ?_
  · simp
  · simp only [List.forall_mem_cons, List.not_mem_nil, false_implies, implies_true, and_true]
    refine ⟨mark_named superRun (by decide) rfl, ?_, ?_, ?_, ?_,
      mark_named declaringRun (by decide) rfl, mark_named enclosingRun (by decide) rfl,
      mark_named innerRun (by decide) rfl, mark_named declaredRun (by decide) ?_⟩
    · exact mark_eq_ok builtRun fun target =>
        mem_constructorParameters_iff record target constructorsRead builtTypesRun
    · exact mark_eq_ok fieldsRun fun target => mem_fieldTypes_iff record target fieldsRead
    · exact mark_eq_ok returnedRun fun target => mem_returnTypes_iff record target methodsRead
    · exact mark_eq_ok takenRun fun target =>
        mem_methodParameters_iff record target methodsRead takenTypesRun
    · simp [TypeData.named, TypeRef.plain, Function.comp_def]
  · intro stated target fact
    cases fact with
    | named written =>
      have part := TypeData.mem_namedKinds written
      simp only [TypeData.namedKinds, List.mem_cons, List.not_mem_nil, or_false] at part
      rcases part with rfl | rfl | rfl | rfl | rfl <;> simp
    | field | returned | taken | built => simp

/-- The pass over a type that is no class puts down the types that its record names. -/
theorem putsAllDown_named {id : Nat} {data : TypeData} {edges : List Edge}
    (parts : List (RelationKind × List Edge)) (whole : edges = parts.flatMap Prod.snd)
    (noClass : data.asClass? = none)
    (each : ∀ part ∈ parts, tables.PutsDown part.2 id part.1 (tables.RecordFact data part.1))
    (every : data.namedKinds ⊆ parts.map Prod.fst) :
    tables.PutsAllDown edges id (tables.RecordFact data) := by
  refine putsAllDown_of_parts parts whole each ?_
  intro stated target fact
  cases fact with
  | named written => exact every (TypeData.mem_namedKinds written)
  | field | returned | taken | built => cases noClass

/-- The pass over a record puts down what the record states. -/
theorem recordFacts_eq_ok {id : Nat} {data : TypeData} {findings : Findings}
    (known : (ofSnapshot snapshot).typeData id = .ok data)
    (run : (ofSnapshot snapshot).recordFacts id data = .ok findings) :
    (ofSnapshot snapshot).PutsAllDown findings.edges id
      ((ofSnapshot snapshot).RecordFact data) := by
  cases data with
  | rawClass record =>
    obtain ⟨edges, found, run⟩ := Outcome.bind_eq_ok.1 run
    cases run
    exact classFacts_eq_ok known found
  | parameterized record =>
    obtain ⟨_, _, run⟩ := Outcome.bind_eq_ok.1 run
    obtain ⟨raw, rawRun, run⟩ := Outcome.bind_eq_ok.1 run
    obtain ⟨owner, ownerRun, run⟩ := Outcome.bind_eq_ok.1 run
    cases run
    refine putsAllDown_named [(.rawType, raw), (.ownerType, owner)] (by simp) rfl ?_
      (List.Subset.refl _)
    · simp only [List.forall_mem_cons, List.not_mem_nil, false_implies, implies_true, and_true]
      exact ⟨mark_named rawRun (by decide) rfl, mark_named ownerRun (by decide) rfl⟩
  | wildcard record =>
    obtain ⟨lower, lowerRun, run⟩ := Outcome.bind_eq_ok.1 run
    obtain ⟨upper, upperRun, run⟩ := Outcome.bind_eq_ok.1 run
    cases run
    refine putsAllDown_named [(.lowerBound, lower), (.upperBound, upper)] (by simp) rfl ?_
      (List.Subset.refl _)
    · simp only [List.forall_mem_cons, List.not_mem_nil, false_implies, implies_true, and_true]
      exact ⟨mark_named lowerRun (by decide) rfl, mark_named upperRun (by decide) rfl⟩
  | typeVariable record =>
    obtain ⟨bounds, boundsRun, run⟩ := Outcome.bind_eq_ok.1 run
    cases run
    refine putsAllDown_named [(.typeVariableBounds, bounds)] (by simp) rfl ?_
      (List.Subset.refl _)
    · simp only [List.forall_mem_cons, List.not_mem_nil, false_implies, implies_true, and_true]
      exact mark_named boundsRun (by decide) rfl

/-! ### All types -/

theorem Fact.lt {id target : Nat} {stated : RelationKind} (fact : tables.Fact id stated target) :
    id < tables.typeCount := by
  cases fact with
  | inherits way other =>
    rcases way.cases_head with rfl | ⟨_, step, _⟩
    · exact absurd rfl other
    · exact step.lt
  | stated read _ => exact typeData_lt read

/-- The pass over one type puts down the facts about it. -/
theorem typeFacts_eq_ok {hierarchy : Hierarchy} {id : Nat} {findings : Findings}
    (read : Hierarchy.ofTables (ofSnapshot snapshot) = .ok hierarchy)
    (run : (ofSnapshot snapshot).typeFacts hierarchy id = .ok findings) :
    (ofSnapshot snapshot).PutsAllDown findings.edges id ((ofSnapshot snapshot).Fact id) := by
  obtain ⟨inherited, inheritedRun, run⟩ := Outcome.bind_eq_ok.1 run
  obtain ⟨data, known, run⟩ := Outcome.bind_eq_ok.1 run
  obtain ⟨stated, statedRun, run⟩ := Outcome.bind_eq_ok.1 run
  cases run
  have above : (ofSnapshot snapshot).PutsDown inherited id .inherits fun target =>
      ReflTransGen (ofSnapshot snapshot).Above id target ∧ target ≠ id :=
    mark_eq_ok inheritedRun (Hierarchy.mem_ancestors_iff read (typeData_lt known))
  have own := recordFacts_eq_ok known statedRun
  constructor
  · intro edge
    rw [Findings.append, List.mem_append, above.1, own.1]
    constructor
    · rintro (⟨from_, allowed, way, other⟩ | ⟨from_, stated, allowed, fact⟩)
      · exact ⟨from_, .inherits, allowed, .inherits way other⟩
      · exact ⟨from_, stated, allowed, .stated known fact⟩
    · rintro ⟨from_, stated, allowed, fact⟩
      cases fact with
      | inherits way other => exact .inl ⟨from_, allowed, way, other⟩
      | stated again fact =>
        rw [known] at again
        cases again
        exact .inr ⟨from_, stated, allowed, fact⟩
  · intro stated target fact
    cases fact with
    | inherits way other => exact above.2 target ⟨way, other⟩
    | stated again fact =>
      rw [known] at again
      cases again
      exact own.2 stated target fact

/-- A type below types of the snapshot is passed when its record is. -/
theorem exists_typeFacts {hierarchy : Hierarchy} {id : Nat} {data : TypeData}
    (inside : ∀ ancestor ∈ hierarchy.ancestors id, ancestor < tables.typeCount)
    (known : tables.typeData id = .ok data) (ends : (tables.recordFacts id data).isOk = true) :
    ∃ findings, tables.typeFacts hierarchy id = .ok findings := by
  obtain ⟨inherited, marked⟩ := exists_mark inside
  obtain ⟨stated, run⟩ := Outcome.exists_of_isOk ends
  exact ⟨_, Outcome.bind_eq_ok.2 ⟨_, marked, Outcome.bind_eq_ok.2 ⟨_, known,
    Outcome.bind_eq_ok.2 ⟨_, run, rfl⟩⟩⟩⟩

/-- The pass over some types puts down the facts about each of them. -/
theorem facts_eq_ok {hierarchy : Hierarchy} {ids : List Nat} {findings : Findings}
    (read : Hierarchy.ofTables (ofSnapshot snapshot) = .ok hierarchy)
    (run : (ofSnapshot snapshot).facts hierarchy ids = .ok findings) :
    (∀ edge, edge ∈ findings.edges ↔ edge.source ∈ ids ∧
      ∃ stated, edge.kind ∈ stated.putDown ∧
        (ofSnapshot snapshot).Fact edge.source stated edge.target) ∧
      ∀ id ∈ ids, ∀ stated target, (ofSnapshot snapshot).Fact id stated target →
        target < (ofSnapshot snapshot).typeCount := by
  induction ids generalizing findings with
  | nil =>
    cases run
    simp [Findings.empty]
  | cons id rest ih =>
    obtain ⟨first, firstRun, run⟩ := Outcome.bind_eq_ok.1 run
    obtain ⟨others, othersRun, run⟩ := Outcome.bind_eq_ok.1 run
    cases run
    have here := typeFacts_eq_ok read firstRun
    obtain ⟨thereIff, thereBelow⟩ := ih othersRun
    constructor
    · intro edge
      rw [Findings.append, List.mem_append, here.1, thereIff, List.mem_cons, or_and_right]
      refine or_congr_left (and_congr_right fun from_ => ?_)
      rw [from_]
    · exact List.forall_mem_cons.2 ⟨here.2, thereBelow⟩

/-! ## From facts to relations -/

/-- The kinds of facts. -/
def factKinds : List RelationKind :=
  memberKinds ++ [.inherits, .superClass, .declaringClass, .enclosingClass, .enclosesClass,
    .typeVariableOf, .rawType, .ownerType, .lowerBound, .upperBound, .typeVariableBounds]

theorem Fact.mem_factKinds {id target : Nat} {stated : RelationKind}
    (fact : tables.Fact id stated target) : stated ∈ factKinds := by
  cases fact with
  | inherits => decide
  | @stated data _ _ _ fact =>
    cases fact with
    | named written =>
      have among : data.namedKinds ⊆ factKinds := by
        cases data <;> simp [TypeData.namedKinds, factKinds]
      exact among (TypeData.mem_namedKinds written)
    | field | returned | taken | built => decide

theorem fact_inherits_iff {a b : Nat} :
    tables.Fact a .inherits b ↔ b ≠ a ∧ ReflTransGen tables.Above a b := by
  constructor
  · intro fact
    cases fact with
    | inherits way other => exact ⟨other, way⟩
    | @stated data _ _ _ fact =>
      cases fact with
      | named written => cases data <;> cases written
  · rintro ⟨other, way⟩
    exact .inherits way other

/-- What is put down in a kind: the facts of the kind, as references the facts of all kinds but the
super class, and as parameters those of methods and of constructors. -/
theorem putDown_iff {kind : RelationKind} {a b : Nat} :
    (∃ stated, kind ∈ stated.putDown ∧ tables.Fact a stated b) ↔
      tables.Fact a kind b ∨
        (kind = .references ∧ ∃ stated, stated ≠ .superClass ∧ tables.Fact a stated b) ∨
        (kind = .parameterType ∧ (tables.Fact a .methodParameterType b ∨
          tables.Fact a .constructorParameterType b)) := by
  constructor
  · rintro ⟨stated, allowed, fact⟩
    rcases (RelationKind.mem_putDown_iff kind stated).1 allowed with
      rfl | ⟨rfl, other⟩ | ⟨rfl, rfl | rfl⟩
    · exact .inl fact
    · exact .inr (.inl ⟨rfl, stated, other, fact⟩)
    · exact .inr (.inr ⟨rfl, .inr fact⟩)
    · exact .inr (.inr ⟨rfl, .inl fact⟩)
  · rintro (fact | ⟨rfl, stated, other, fact⟩ | ⟨rfl, fact | fact⟩)
    · exact ⟨kind, (RelationKind.mem_putDown_iff kind kind).2 (.inl rfl), fact⟩
    · exact ⟨stated, (RelationKind.mem_putDown_iff _ stated).2 (.inr (.inl ⟨rfl, other⟩)), fact⟩
    · exact ⟨.methodParameterType, by decide, fact⟩
    · exact ⟨.constructorParameterType, by decide, fact⟩

/-- The relations called for are those that the facts put down in one of the two directions. -/
theorem callsFor_iff {kind : RelationKind} {a b : Nat} :
    tables.CallsFor kind a b ↔
      (∃ stated, kind ∈ stated.putDown ∧ tables.Fact a stated b) ∨
        ∃ stated, kind.inverse ∈ stated.putDown ∧ tables.Fact b stated a := by
  have absent : ∀ {kind : RelationKind} {a b : Nat}, kind ∉ factKinds →
      (tables.Fact a kind b ↔ False) :=
    fun outside => iff_false_intro fun fact => outside fact.mem_factKinds
  rw [putDown_iff, putDown_iff, CallsFor]
  cases kind <;>
    simp (disch := decide) only [Holds, RelationKind.inverse, fact_inherits_iff, absent,
      reduceCtorEq, false_and, true_and, false_or, or_false, or_comm]

end Tables

/-! ## The graph of an index -/

/-- What an index is made of: the types by variant, a hierarchy that was read, relations that were
found, and groups and names that were looked up. -/
theorem Atlas.index_parts {atlas : Atlas} {before after : Memory} {index : Index}
    (run : atlas.index before = (.ok index, after)) :
    ∃ hierarchy findings between,
      atlas.tables.partitions before = (.ok index.partitions, between) ∧
      Hierarchy.ofTables atlas.tables = .ok hierarchy ∧
      atlas.tables.facts hierarchy atlas.tables.typeIds = .ok findings ∧
      index.graph = .ofRelations findings.edges ∧ index.warnings = findings.warnings ∧
      atlas.eventGroups index.graph atlas.config.eventBaseClasses [] between =
        (.ok index.events, after) ∧ index.lookups = after.lookups := by
  obtain ⟨partitions, between, sorted, run⟩ := Work.bind_eq_ok.1 run
  obtain ⟨hierarchy, _, here, run⟩ := Work.bind_eq_ok.1 run
  obtain ⟨read, rfl⟩ := Work.lift_eq_ok.1 here
  obtain ⟨findings, _, there, run⟩ := Work.bind_eq_ok.1 run
  obtain ⟨found, rfl⟩ := Work.lift_eq_ok.1 there
  obtain ⟨events, last, grouped, run⟩ := Work.bind_eq_ok.1 run
  obtain ⟨_, _, got, run⟩ := Work.bind_eq_ok.1 run
  cases got
  cases run
  exact ⟨hierarchy, findings, between, sorted, read, found, rfl, rfl, grouped, rfl⟩

/-- And whatever is read, found and grouped makes an index. -/
theorem Atlas.index_of_parts {atlas : Atlas} {before between after : Memory}
    {partitions : Partitions} {hierarchy : Hierarchy} {findings : Findings}
    {events : List (String × List Nat)}
    (sorted : atlas.tables.partitions before = (.ok partitions, between))
    (read : Hierarchy.ofTables atlas.tables = .ok hierarchy)
    (found : atlas.tables.facts hierarchy atlas.tables.typeIds = .ok findings)
    (grouped : atlas.eventGroups (.ofRelations findings.edges) atlas.config.eventBaseClasses []
      between = (.ok events, after)) :
    atlas.index before = (.ok ⟨.ofRelations findings.edges, partitions, events, after.lookups,
      findings.warnings⟩, after) :=
  Work.bind_eq_ok.2 ⟨_, _, sorted, Work.bind_eq_ok.2 ⟨_, _, Work.lift_eq_ok.2 ⟨read, rfl⟩,
    Work.bind_eq_ok.2 ⟨_, _, Work.lift_eq_ok.2 ⟨found, rfl⟩,
      Work.bind_eq_ok.2 ⟨_, _, grouped, rfl⟩⟩⟩⟩

/-- The graph of an index is made of what the pass over all types has found. -/
theorem Atlas.index_eq_ok {atlas : Atlas} {before after : Memory} {index : Index}
    (run : atlas.index before = (.ok index, after)) :
    ∃ hierarchy findings, Hierarchy.ofTables atlas.tables = .ok hierarchy ∧
      atlas.tables.facts hierarchy atlas.tables.typeIds = .ok findings ∧
      index.graph = .ofRelations findings.edges := by
  obtain ⟨hierarchy, findings, _, -, read, found, graph, -⟩ := index_parts run
  exact ⟨hierarchy, findings, read, found, graph⟩

/-- **The graph of an index is exactly what the records call for.**  On every snapshot that can be
indexed, whatever was remembered before, the graph holds a relation when the records call for it and
no other one; it holds the inverse of each, and all its types are types of the snapshot. -/
theorem index_graph {snapshot : Snapshot} {config : Config} {before after : Memory} {index : Index}
    (run : Atlas.index ⟨.ofSnapshot snapshot, config⟩ before = (.ok index, after)) :
    (∀ kind a b, index.graph.has a kind b = true ↔ (Tables.ofSnapshot snapshot).CallsFor kind a b) ∧
      (∀ kind a b, index.graph.has b kind.inverse a = index.graph.has a kind b) ∧
      ∀ kind a b, index.graph.has a kind b = true →
        a < (Tables.ofSnapshot snapshot).typeCount ∧
          b < (Tables.ofSnapshot snapshot).typeCount := by
  obtain ⟨hierarchy, findings, read, found, graph⟩ := Atlas.index_eq_ok run
  obtain ⟨spec, below⟩ := Tables.facts_eq_ok read found
  have listed : ∀ {id target : Nat} {stated : RelationKind},
      (Tables.ofSnapshot snapshot).Fact id stated target →
        id ∈ (Tables.ofSnapshot snapshot).typeIds :=
    fun fact => List.mem_range.2 fact.lt
  have put : ∀ kind a b, ⟨kind, a, b⟩ ∈ findings.edges ↔
      ∃ stated, kind ∈ stated.putDown ∧ (Tables.ofSnapshot snapshot).Fact a stated b := by
    intro kind a b
    rw [spec]
    refine ⟨And.right, fun fact => ⟨?_, fact⟩⟩
    obtain ⟨stated, _, fact⟩ := fact
    exact listed fact
  refine ⟨?_, ?_, ?_⟩
  · intro kind a b
    rw [graph, Graph.has_ofRelations_iff, put, put, Tables.callsFor_iff]
  · intro kind a b
    rw [Bool.eq_iff_iff, graph, Graph.has_ofRelations_iff, Graph.has_ofRelations_iff,
      RelationKind.inverse_inverse, or_comm]
  · intro kind a b held
    rw [graph, Graph.has_ofRelations_iff, put, put] at held
    rcases held with ⟨stated, _, fact⟩ | ⟨stated, _, fact⟩
    · exact ⟨fact.lt, below a (listed fact) stated b fact⟩
    · exact ⟨below b (listed fact) stated a fact, fact.lt⟩

/-- Two classes, the second one a subclass of the first. -/
def Snapshot.subclassPair : Snapshot :=
  { empty with types := [.object [("n", .nat 0)], .object [("n", .nat 0), ("s", .nat 0)]] }

theorem index_graph_subclassPair :
    ∃ index after, Atlas.index ⟨.ofSnapshot .subclassPair, ⟨[], 0, 0, none⟩⟩ .empty =
        (.ok index, after) ∧
      (Tables.ofSnapshot .subclassPair).CallsFor .subclass 0 1 ∧
      index.graph.has 0 .subclass 1 = true := by
  obtain ⟨index, ends⟩ :
      ∃ index, (Atlas.index ⟨.ofSnapshot .subclassPair, ⟨[], 0, 0, none⟩⟩ .empty).1 = .ok index :=
    Outcome.exists_of_isOk (by decide +kernel)
  have read : ((Tables.ofSnapshot .subclassPair).typeData 1).map (TypeData.named · .superClass) =
      .ok [.plain 0] := by rfl
  obtain ⟨data, known, named⟩ := Outcome.map_eq_ok.1 read
  have calls : (Tables.ofSnapshot .subclassPair).CallsFor .subclass 0 1 :=
    .inr (.stated known (.named (named ▸ List.mem_cons_self)))
  have run : Atlas.index ⟨.ofSnapshot .subclassPair, ⟨[], 0, 0, none⟩⟩ .empty = (.ok index, _) :=
    Prod.ext ends rfl
  exact ⟨index, _, run, calls, ((index_graph run).1 .subclass 0 1).2 calls⟩

end ClassAtlas

import ClassAtlas.Proofs.Descent
import ClassAtlas.Proofs.Outcome
import Mathlib.Logic.Relation

/-!
# Reading types

A type that can be read is one of the snapshot, and whether it is a type variable is told by its
record.  The members of a class are its member records, decoded one by one.

On a well-formed snapshot all records can be read, all references lead to types of the snapshot, and
no type is written inside itself.  Only the bounds of a type variable may point back to where the
variable is used.
-/

set_option autoImplicit false

namespace ClassAtlas

open Relation (TransGen)

/-- The types that a record is written with, the bounds of type variables left out. -/
def TypeData.mentions : TypeData → List TypeRef
  | .rawClass record => record.supertypes ++ record.declaringClass.toList
  | .parameterized record => record.rawType :: (record.ownerType.toList ++ record.arguments)
  | .wildcard record => record.upper ++ record.lower
  | .typeVariable _ => []

/-- All types that the text of a type can lead to. -/
def TypeData.leadsTo : TypeData → List TypeRef
  | .rawClass record =>
    record.supertypes ++ record.declaringClass.toList ++ record.typeVariables.map TypeRef.plain
  | .typeVariable record => record.bounds
  | other => other.mentions

/-- Reading a record either succeeds or ends in a fault of the record. -/
theorem TypeData.ofJson_meets {fault : Fault → Prop} (decodes : ∀ cause, fault (.decode cause))
    (unknown : ∀ id raw, fault (.unknownType id raw)) (id : Nat) (raw : Json) :
    Outcome.Meets (TypeData.ofJson id raw) (fun _ => True) fault := by
  have refused : ∀ {α : Type} (read : Except Mismatch α) (variant : α → TypeData),
      Outcome.Meets ((read.map variant).mapError fun cause => .decode (.typeRecord id raw cause))
        (fun _ => True) fault := by
    intro α read variant
    cases read with
    | error cause => exact decodes _
    | ok record => trivial
  cases raw with
  | object members =>
    simp only [TypeData.ofJson]
    split
    · split
      · exact decodes _
      · exact decodes _
      · trivial
    · split
      · exact refused _ _
      · split
        · exact refused _ _
        · split
          · exact refused _ _
          · exact unknown _ _
  | null => exact decodes _
  | bool | number | text | array => exact unknown _ _

/-- Decoding records gives what each of them is decoded to. -/
theorem map_of_decodeAll {α : Type} {decode : Json → Except Fault α} {raws : List Json}
    {values : List α} (run : decodeAll decode raws = .ok values) :
    raws.map decode = values.map .ok := by
  induction raws generalizing values with
  | nil =>
    cases run
    rfl
  | cons raw rest ih =>
    obtain ⟨first, here, run⟩ := Outcome.bind_eq_ok.1 run
    obtain ⟨others, there, run⟩ := Outcome.bind_eq_ok.1 run
    cases run
    rw [List.map_cons, List.map_cons, here, ih there]

theorem decodeAll_eq_ok {α : Type} {decode : Json → Except Fault α} {raws : List Json}
    {values : List α} (run : decodeAll decode raws = .ok values) (value : α) :
    value ∈ values ↔ ∃ raw ∈ raws, decode raw = .ok value := by
  rw [← List.mem_map, map_of_decodeAll run, List.mem_map]
  simp only [Except.ok.injEq, exists_eq_right]

/-- The members of a class are its member records, each of them decoded. -/
theorem ClassMembers.ofType_eq_ok {record : ClassRecord} {members : ClassMembers}
    (run : ClassMembers.ofType (.ok (.rawClass record)) = .ok members) :
    decodeAll Record.field record.fields = .ok members.fields ∧
      decodeAll Record.method record.methods = .ok members.methods ∧
      decodeAll Record.constructor record.constructors = .ok members.constructors := by
  obtain ⟨fields, fieldsRead, run⟩ := Outcome.bind_eq_ok.1 run
  obtain ⟨methods, methodsRead, run⟩ := Outcome.bind_eq_ok.1 run
  obtain ⟨constructors, constructorsRead, run⟩ := Outcome.bind_eq_ok.1 run
  cases run
  exact ⟨fieldsRead, methodsRead, constructorsRead⟩

namespace Tables

variable (tables : Tables)

/-- Whether an id is that of a type variable. -/
def IsTypeVariable (id : Nat) : Prop :=
  ∃ record, tables.typeData id = .ok (.typeVariable record)

/-- Whether an id is that of a class. -/
def IsClass (id : Nat) : Prop :=
  ∃ record, tables.typeData id = .ok (.rawClass record)

/-- The second type is written in the record of the first. -/
def Mentions (id other : Nat) : Prop :=
  ∃ data, tables.typeData id = .ok data ∧ ∃ ref ∈ data.mentions, ref.id = other

/-- Snapshots with records that can be read, references inside the snapshot and no type written
inside itself. -/
structure WellFormed : Prop where
  decodes : ∀ id < tables.typeCount, ∃ data, tables.typeData id = .ok data
  inside : ∀ {id : Nat} {data : TypeData}, tables.typeData id = .ok data →
    ∀ ref ∈ data.leadsTo, ref.id < tables.typeCount
  acyclic : ∀ id, ¬TransGen tables.Mentions id id

variable {tables}

theorem typeData_lt {id : Nat} {data : TypeData} (read : tables.typeData id = .ok data) :
    id < tables.typeCount := by
  refine Nat.lt_of_not_le fun beyond => ?_
  simp [typeData, entry, Array.getElem?_eq_none beyond] at read

/-- A snapshot is well-formed when every type can be read, leads to types of the snapshot only and
is written behind the types that it mentions. -/
theorem WellFormed.of_behind
    (behind : ∀ id < tables.typeCount, ∃ data ∈ (tables.typeData id).toOption,
      (∀ ref ∈ data.leadsTo, ref.id < tables.typeCount) ∧ ∀ ref ∈ data.mentions, ref.id < id) :
    tables.WellFormed := by
  have written : ∀ {id data}, tables.typeData id = .ok data →
      (∀ ref ∈ data.leadsTo, ref.id < tables.typeCount) ∧ ∀ ref ∈ data.mentions, ref.id < id := by
    intro id data known
    obtain ⟨other, again, checked⟩ := behind id (typeData_lt known)
    rw [known] at again
    cases again
    exact checked
  refine ⟨fun id inside => ?_, fun known => (written known).1, ?_⟩
  · obtain ⟨data, read, -⟩ := behind id inside
    cases known : tables.typeData id with
    | ok data => exact ⟨data, rfl⟩
    | error fault =>
      rw [known] at read
      cases read
  · refine Descent.not_cycle_of_lt fun {outer inner} mentions => ?_
    obtain ⟨data, known, ref, listed, rfl⟩ := mentions
    exact (written known).2 ref listed

theorem typeData_eq_error {id : Nat} (outside : ¬id < tables.typeCount) :
    tables.typeData id = .error (.invalidId .types id tables.typeCount) := by
  rw [typeData, entry, Array.getElem?_eq_none (Nat.le_of_not_lt outside)]
  rfl

theorem exists_ofJson {snapshot : Snapshot} {id : Nat}
    (inside : id < (ofSnapshot snapshot).typeCount) :
    ∃ raw, (ofSnapshot snapshot).typeData id = TypeData.ofJson id raw := by
  have listed : id < snapshot.types.length := by simpa [typeCount, ofSnapshot] using inside
  refine ⟨snapshot.types[id], ?_⟩
  rw [typeData, entry, Array.getElem?_eq_getElem inside]
  simp [ofSnapshot]

/-- Reading a type of a snapshot gives its record, or a fault of the record or of the id. -/
theorem ofSnapshot_typeData_meets {fault : Fault → Prop} (decodes : ∀ cause, fault (.decode cause))
    (unknown : ∀ id raw, fault (.unknownType id raw))
    (outside : ∀ id size, fault (.invalidId .types id size)) (snapshot : Snapshot) (id : Nat) :
    Outcome.Meets ((ofSnapshot snapshot).typeData id) (fun _ => True) fault := by
  by_cases inside : id < (ofSnapshot snapshot).typeCount
  · obtain ⟨raw, read⟩ := exists_ofJson inside
    rw [read]
    exact TypeData.ofJson_meets decodes unknown id raw
  · rw [typeData_eq_error inside]
    exact outside _ _

/-- The members of a type of a snapshot are read off its entry. -/
theorem ofSnapshot_membersOf_eq {snapshot : Snapshot} {id : Nat}
    (inside : id < (ofSnapshot snapshot).typeCount) :
    (ofSnapshot snapshot).membersOf id =
      ClassMembers.ofType ((ofSnapshot snapshot).typeData id) := by
  have room : id < (ofSnapshot snapshot).members.size := by
    simpa [ofSnapshot, typeCount] using inside
  rw [membersOf, entry, Array.getElem?_eq_getElem room]
  rw [typeData, entry, Array.getElem?_eq_getElem inside]
  simp [ofSnapshot]

/-- The members of a type of a snapshot are read off its record. -/
theorem ofSnapshot_membersOf {snapshot : Snapshot} {id : Nat} {data : TypeData}
    (known : (ofSnapshot snapshot).typeData id = .ok data) :
    (ofSnapshot snapshot).membersOf id = ClassMembers.ofType (.ok data) := by
  rw [ofSnapshot_membersOf_eq (typeData_lt known), known]

/-- A type whose members could be read could be read itself. -/
theorem reads_of_membersOf {snapshot : Snapshot} {id : Nat} {members : ClassMembers}
    (run : (ofSnapshot snapshot).membersOf id = .ok members) :
    ∃ data, (ofSnapshot snapshot).typeData id = .ok data := by
  have inside : id < (ofSnapshot snapshot).typeCount := by
    refine Nat.lt_of_not_le fun outside => ?_
    have beyond : (ofSnapshot snapshot).members.size ≤ id := by
      simpa [ofSnapshot, typeCount] using outside
    simp [membersOf, entry, Array.getElem?_eq_none beyond] at run
  rw [ofSnapshot_membersOf_eq inside] at run
  cases known : (ofSnapshot snapshot).typeData id with
  | ok data => exact ⟨data, rfl⟩
  | error fault =>
    rw [known] at run
    cases run

theorem membersOf_eq_ok {snapshot : Snapshot} {id : Nat} {record : ClassRecord}
    {members : ClassMembers} (known : (ofSnapshot snapshot).typeData id = .ok (.rawClass record))
    (run : (ofSnapshot snapshot).membersOf id = .ok members) :
    decodeAll Record.field record.fields = .ok members.fields ∧
      decodeAll Record.method record.methods = .ok members.methods ∧
      decodeAll Record.constructor record.constructors = .ok members.constructors :=
  ClassMembers.ofType_eq_ok ((ofSnapshot_membersOf known).symm.trans run)

theorem isVariable_iff (ref : TypeRef) :
    tables.isVariable ref = .ok true ↔ tables.IsTypeVariable ref.id := by
  rw [isVariable, Outcome.map_eq_ok]
  constructor
  · rintro ⟨data, known, varies⟩
    cases data with
    | typeVariable record => exact ⟨record, known⟩
    | rawClass | parameterized | wildcard => cases varies
  · rintro ⟨record, known⟩
    exact ⟨_, known, rfl⟩

theorem reads_of_isVariable {ref : TypeRef} {varies : Bool}
    (read : tables.isVariable ref = .ok varies) : ∃ data, tables.typeData ref.id = .ok data := by
  obtain ⟨data, known, -⟩ := Outcome.map_eq_ok.1 read
  exact ⟨data, known⟩

/-- A type that can be read is a variable or it is not one. -/
theorem isVariable_eq_false {ref : TypeRef} (reads : ∃ data, tables.typeData ref.id = .ok data)
    (other : ¬tables.IsTypeVariable ref.id) : tables.isVariable ref = .ok false := by
  obtain ⟨data, known⟩ := reads
  rw [isVariable, known]
  cases data with
  | typeVariable record => exact absurd ⟨record, known⟩ other
  | rawClass | parameterized | wildcard => rfl

theorem WellFormed.typeData_meets (fit : tables.WellFormed) (id : Nat) :
    Outcome.Meets (tables.typeData id) (fun _ => True) Fault.Final := by
  by_cases inside : id < tables.typeCount
  · obtain ⟨data, known⟩ := fit.decodes id inside
    rw [known]
    trivial
  · rw [typeData_eq_error inside]
    exact fun other same => nomatch same

theorem isVariable_meets {fault : Fault → Prop} {ref : TypeRef}
    (reads : Outcome.Meets (tables.typeData ref.id) (fun _ => True) fault) :
    Outcome.Meets (tables.isVariable ref) (fun _ => True) fault := by
  rw [isVariable]
  cases known : tables.typeData ref.id with
  | error flaw => rwa [known] at reads
  | ok data => trivial

end Tables

end ClassAtlas

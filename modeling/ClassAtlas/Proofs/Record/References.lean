import ClassAtlas.Proofs.Json.Shapes
import ClassAtlas.Record.Decode

/-!
# Lists of references in records

Interfaces, type arguments, bounds, exceptions and inner classes are lists of references
(`ReadsRefs`), and each such field may also hold one reference without a list around it.

A list of references is read back as it was, whatever arrays are among them.  One reference alone
is read back when it is no array.  The reference to an array is written as a list itself, of its id
and its depth, and so it is taken for a list of two types (`refs_of_field`).
-/

set_option autoImplicit false

namespace ClassAtlas

open Shape

/-- References within 32 bits, as they are read. -/
def TypeRef.InRange (ref : TypeRef) : Prop :=
  ref.id < limit32 ∧ ref.depth < limit32

theorem TypeRef.inRange_plain {id : Nat} (below : id < limit32) : (plain id).InRange :=
  ⟨below, (by decide : 0 < limit32)⟩

/-! ## References -/

section

variable {ref : TypeRef}

theorem TypeRef.toJson_of_plain (plain : ref.depth = 0) : ref.toJson = .nat ref.id :=
  if_pos plain

theorem TypeRef.toJson_of_array (array : ref.depth ≠ 0) :
    ref.toJson = .ofList .nat [ref.id, ref.depth] :=
  if_neg array

namespace Shape

theorem typeRef_nat {id : Nat} (below : id < limit32) : typeRef (.nat id) = .ok (.plain id) := by
  rw [Json.nat, typeRef, ← Json.nat, nat32_nat below]
  intro id depth same
  cases same

theorem typeRef_pair (inRange : ref.InRange) :
    typeRef (.ofList .nat [ref.id, ref.depth]) = .ok ref := by
  rw [Json.ofList, List.map_cons, List.map_singleton, typeRef, nat32_nat inRange.1,
    nat32_nat inRange.2]

/-- A reference is read back from its written form. -/
theorem typeRef_toJson (inRange : ref.InRange) : typeRef ref.toJson = .ok ref := by
  by_cases plain : ref.depth = 0
  · rw [TypeRef.toJson_of_plain plain, typeRef_nat inRange.1, TypeRef.plain, ← plain]
  · rw [TypeRef.toJson_of_array plain, typeRef_pair inRange]

/-- A reference alone that is no array is read as the only one. -/
theorem oneOrMany_plain (inRange : ref.InRange) (plain : ref.depth = 0) :
    oneOrMany typeRef ref.toJson = .ok [ref] := by
  have read := typeRef_toJson inRange
  rw [TypeRef.toJson_of_plain plain] at read ⊢
  exact oneOrMany_of_one (fun same => nomatch same) (fun _ same => nomatch same) read

/-- The reference to an array alone is read as two references. -/
theorem oneOrMany_array (inRange : ref.InRange) (array : ref.depth ≠ 0) :
    oneOrMany typeRef ref.toJson = .ok [.plain ref.id, .plain ref.depth] := by
  have parts : Json.ofList .nat [ref.id, ref.depth] =
      .ofList TypeRef.toJson [.plain ref.id, .plain ref.depth] := rfl
  rw [TypeRef.toJson_of_array array, parts]
  refine oneOrMany_ofList fun part listed => typeRef_toJson ?_
  obtain rfl | rfl : part = .plain ref.id ∨ part = .plain ref.depth := by simpa using listed
  · exact TypeRef.inRange_plain inRange.1
  · exact TypeRef.inRange_plain inRange.2

end Shape

end

/-! ## Fields of records -/

/-- A record that is read from some members has a list of references from one of their keys. -/
inductive ReadsRefs (members : List (String × Json)) : String → List TypeRef → Prop
  | interfaces {record : ClassRecord} (read : ClassRecord.ofMembers members = .ok record) :
      ReadsRefs members "i" record.interfaces
  | innerClasses {record : ClassRecord} (read : ClassRecord.ofMembers members = .ok record) :
      ReadsRefs members "I" record.innerClasses
  | arguments {record : ParameterizedRecord}
      (read : ParameterizedRecord.ofMembers members = .ok record) :
      ReadsRefs members "v" record.arguments
  | upper {record : WildcardRecord} (read : WildcardRecord.ofMembers members = .ok record) :
      ReadsRefs members "u" record.upper
  | lower {record : WildcardRecord} (read : WildcardRecord.ofMembers members = .ok record) :
      ReadsRefs members "l" record.lower
  | bounds {name : Option Nat} {bounds : List TypeRef}
      (read : TypeVariableRecord.ofMembers members = .ok (name, bounds)) :
      ReadsRefs members "b" bounds
  | methodExceptions {record : MethodRecord} (read : MethodRecord.ofMembers members = .ok record) :
      ReadsRefs members "e" record.exceptions
  | constructorExceptions {record : ConstructorRecord}
      (read : ConstructorRecord.ofMembers members = .ok record) :
      ReadsRefs members "e" record.exceptions

/-- The lists of references of a record are what their fields hold. -/
theorem ReadsRefs.manyField_eq {members : List (String × Json)} {key : String}
    {refs : List TypeRef} (reads : ReadsRefs members key refs) :
    manyField members key typeRef = .ok refs := by
  cases reads with
  | interfaces read | innerClasses read =>
    simp only [ClassRecord.ofMembers, Outcome.bind_eq_ok] at read
    obtain ⟨_, -, _, -, _, innerClasses, _, -, _, -, _, -, _, -, _, -, _, interfaces, _, -, _, -,
      _, -, _, -, _, -, made⟩ := read
    obtain rfl := Except.ok.inj made
    assumption
  | arguments read =>
    simp only [ParameterizedRecord.ofMembers, Outcome.bind_eq_ok] at read
    obtain ⟨_, -, _, -, _, arguments, _, -, made⟩ := read
    obtain rfl := Except.ok.inj made
    exact arguments
  | upper read | lower read =>
    simp only [WildcardRecord.ofMembers, Outcome.bind_eq_ok] at read
    obtain ⟨_, lower, _, upper, made⟩ := read
    obtain rfl := Except.ok.inj made
    assumption
  | bounds read =>
    simp only [TypeVariableRecord.ofMembers, Outcome.bind_eq_ok] at read
    obtain ⟨_, bounds, _, -, _, -, made⟩ := read
    obtain ⟨-, rfl⟩ := Prod.mk.inj (Except.ok.inj made)
    exact bounds
  | methodExceptions read =>
    simp only [MethodRecord.ofMembers, Outcome.bind_eq_ok] at read
    obtain ⟨_, -, _, -, _, exceptions, _, -, _, -, _, -, _, -, _, -, made⟩ := read
    obtain rfl := Except.ok.inj made
    exact exceptions
  | constructorExceptions read =>
    simp only [ConstructorRecord.ofMembers, Outcome.bind_eq_ok] at read
    obtain ⟨_, -, _, -, _, exceptions, _, -, _, -, made⟩ := read
    obtain rfl := Except.ok.inj made
    exact exceptions

/-- **A field of references gives back the list that is written in it**, and one reference that is
written alone exactly when it is no array.  The reference to an array alone is read as the types
whose ids are its id and its depth.  The records hold what the field gives. -/
theorem refs_of_field {members : List (String × Json)} {key : String}
    (once : occurrences key members ≤ 1) {refs : List TypeRef}
    (inRange : ∀ ref ∈ refs, ref.InRange) {value : Json}
    (written : Json.member? members key = some value) :
    (value = .ofList TypeRef.toJson refs → manyField members key typeRef = .ok refs) ∧
    (∀ ref, refs = [ref] → value = ref.toJson →
      (manyField members key typeRef = .ok [ref] ↔ ref.depth = 0) ∧
      (ref.depth ≠ 0 →
        manyField members key typeRef = .ok [.plain ref.id, .plain ref.depth])) ∧
    ∀ read, ReadsRefs members key read → manyField members key typeRef = .ok read := by
  have field : manyField members key typeRef = oneOrMany typeRef value :=
    fieldOr_of_present once written _ _
  refine ⟨?_, ?_, fun read reads => reads.manyField_eq⟩
  · rintro rfl
    rw [field]
    exact oneOrMany_ofList fun ref listed => typeRef_toJson (inRange ref listed)
  · rintro ref rfl rfl
    have fits := inRange ref List.mem_cons_self
    rw [field]
    refine ⟨⟨fun read => ?_, oneOrMany_plain fits⟩, oneOrMany_array fits⟩
    by_contra array
    rw [oneOrMany_array fits array] at read
    simp at read

/-- A list of an array and a class as the bounds of a wildcard, and the class alone. -/
theorem refs_of_field_bounds :
    manyField [("u", .ofList TypeRef.toJson [⟨7, 2⟩, .plain 3])] "u" typeRef =
        .ok [⟨7, 2⟩, .plain 3] ∧
      manyField [("u", (TypeRef.plain 3).toJson)] "u" typeRef = .ok [.plain 3] :=
  have small : ∀ id depth, id < 8 → depth < 3 → TypeRef.InRange ⟨id, depth⟩ :=
    fun id depth first second => ⟨Nat.lt_trans first (by decide), Nat.lt_trans second (by decide)⟩
  ⟨(refs_of_field (by decide) (by simp [TypeRef.plain, small]) rfl).1 rfl,
    ((refs_of_field (by decide) (by simp [TypeRef.plain, small]) rfl).2.1 _ rfl rfl).1.2 rfl⟩

/-- **A method with one exception, an array, is read as one with two exceptions.** -/
theorem method_loneArrayException :
    (Record.method (.object [("e", (TypeRef.mk 7 2).toJson), ("t", .nat 0)])).map
      MethodRecord.exceptions = .ok [.plain 7, .plain 2] := by
  rfl

end ClassAtlas

import ClassAtlas.Proofs.Record.Entries
import ClassAtlas.Proofs.Record.References

/-!
# The three spellings of a record

What a record says is put on a sheet, one entry or none under each key of its kind.  A sheet is
spelled as a text of fields, as a list by position and as an object (`Sheet.Spells`), and each of
these spellings is turned into the same members, in some order (`keyed_of_spells`).

A sheet describes a record when it says about each part of the record what that part is
(`Sheet.Describes`): a name by its number, a type by its id and depth, a list by its ids.  A part
that is what the readers take for granted may be left out.  Every spelling of a sheet that describes
a record is read as this record (`read_of_spells`).
-/

set_option autoImplicit false

namespace ClassAtlas

/-! ## Kinds of records and their data -/

namespace RecordKind

/-- The typed data of a kind. -/
abbrev Data : RecordKind → Type
  | .field => FieldRecord
  | .method => MethodRecord
  | .constructor => ConstructorRecord
  | .parameter => ParameterRecord
  | .annotationUse => AnnotationRecord

/-- The reader of the members of a record. -/
def ofMembers : (kind : RecordKind) → List (String × Json) → Except Mismatch kind.Data
  | .field => FieldRecord.ofMembers
  | .method => MethodRecord.ofMembers
  | .constructor => ConstructorRecord.ofMembers
  | .parameter => ParameterRecord.ofMembers
  | .annotationUse => AnnotationRecord.ofMembers

/-- The reader of a record. -/
def read : (kind : RecordKind) → Json → Except Fault kind.Data
  | .field => Record.field
  | .method => Record.method
  | .constructor => Record.constructor
  | .parameter => Record.parameter
  | .annotationUse => Record.annotationUse

theorem read_eq (kind : RecordKind) (raw : Json) :
    kind.read raw = Record.decode kind kind.ofMembers raw := by
  cases kind <;> rfl

/-- Ids of 32 bits. -/
abbrev Ids (ids : List Nat) : Prop :=
  ∀ id ∈ ids, id < limit32

/-- Types that are no arrays, with ids of 32 bits. -/
abbrev PlainRefs (refs : List TypeRef) : Prop :=
  ∀ ref ∈ refs, ref.id < limit32 ∧ ref.depth = 0

/-- Whether all numbers of a record have 32 bits and its lists hold no arrays. -/
def Fits : (kind : RecordKind) → kind.Data → Prop
  | .field, record =>
    Ids record.name.toList ∧ record.type.InRange ∧ record.modifiers.bits < limit32 ∧
      Ids record.annotations
  | .method, record =>
    Ids record.name.toList ∧ record.modifiers.bits < limit32 ∧ record.returnType.InRange ∧
      Ids record.annotations ∧ Ids record.parameters ∧ Ids record.typeVariables ∧
      PlainRefs record.exceptions
  | .constructor, record =>
    record.modifiers.bits < limit32 ∧ Ids record.annotations ∧ PlainRefs record.exceptions ∧
      Ids record.typeVariables ∧ Ids record.parameters
  | .parameter, record =>
    Ids record.name.toList ∧ record.type.InRange ∧ record.modifiers.bits < limit32 ∧
      Ids record.annotations
  | .annotationUse, record =>
    record.type.InRange ∧ ∀ id, record.text = some (.name id) → id < limit32

end RecordKind

namespace Record

open Shape
open RecordKind (Ids PlainRefs)

/-! ## Sheets and their spellings -/

/-- What is said under each key. -/
abbrev Sheet : Type := String → Option Entry

namespace Sheet

/-- The sheet with some entries. -/
def ofList (entries : List (String × Option Entry)) : Sheet := fun key =>
  (entries.lookup key).join

variable (sheet : Sheet) (kind : RecordKind)

/-- The fields between commas, an absent one empty. -/
def toText : String :=
  ",".intercalate (kind.schema.map fun key => ((sheet key).map Entry.written).getD "")

/-- The items by position, `null` for an absent one. -/
def toItems : List Json :=
  kind.schema.map fun key => .ofOption Entry.toJson (sheet key)

/-- The members under their keys, an absent one left out. -/
def toMembers : List (String × Json) :=
  kind.schema.filterMap fun key => (sheet key).map fun entry => (key, entry.toJson)

/-- The spellings of a record: a text, a list, and an object with its members in any order. -/
inductive Spells : Json → Prop
  | text : Spells (.text (sheet.toText kind))
  | list : Spells (.array (sheet.toItems kind))
  | object {members : List (String × Json)} (same : members.Perm (sheet.toMembers kind)) :
      Spells (.object members)

/-- Whether all numbers have 32 bits. -/
def InRange : Prop :=
  ∀ key ∈ kind.schema, ∀ entry ∈ sheet key, entry.InRange

end Sheet

/-! ## The members of the spellings -/

section

variable {sheet : Sheet} {kind : RecordKind}

theorem Entry.isNull_toJson (entry : Entry) : entry.toJson.isNull = false := by
  cases entry <;> rfl

theorem schema_nodup (kind : RecordKind) : kind.schema.Nodup := by
  cases kind <;> decide

theorem schema_ne_nil (kind : RecordKind) : kind.schema ≠ [] := by
  cases kind <;> decide

theorem Sheet.mem_toMembers {key : String} {value : Json} :
    (key, value) ∈ sheet.toMembers kind ↔
      key ∈ kind.schema ∧ (sheet key).map Entry.toJson = some value := by
  simp only [toMembers, List.mem_filterMap, Option.map_eq_some_iff, Prod.mk.injEq]
  constructor
  · rintro ⟨key, listed, entry, said, rfl, rfl⟩
    exact ⟨listed, entry, said, rfl⟩
  · rintro ⟨listed, entry, said, rfl⟩
    exact ⟨key, listed, entry, said, rfl, rfl⟩

theorem Sheet.nodup_toMembers (sheet : Sheet) (kind : RecordKind) :
    ((sheet.toMembers kind).map Prod.fst).Nodup := by
  refine List.Sublist.nodup ?_ (schema_nodup kind)
  rw [toMembers]
  induction kind.schema with
  | nil => exact .slnil
  | cons key keys ih =>
    cases said : sheet key with
    | none => simpa [said] using ih.cons key
    | some entry => simpa [said] using ih

/-- The fields of a text give the members of its sheet. -/
theorem readFields_written {keys : List String}
    (inRange : ∀ key ∈ keys, ∀ entry ∈ sheet key, entry.InRange) :
    readFields keys (keys.map fun key => ((sheet key).map Entry.written).getD "") =
      .ok (keys.filterMap fun key => (sheet key).map fun entry => (key, entry.toJson)) := by
  induction keys with
  | nil => rfl
  | cons key keys ih =>
    obtain ⟨here, there⟩ := List.forall_mem_cons.1 inRange
    rw [List.map_cons, readFields, ih there]
    cases said : sheet key with
    | none =>
      simp [said, scalar, readScalar_nil]
    | some entry =>
      simp [said, scalar_written (here entry said)]

/-- The items of a list that are no `null` are the members of its sheet. -/
theorem zip_items (keys : List String) :
    ((keys.zip (keys.map fun key => Json.ofOption Entry.toJson (sheet key))).filter
        fun member => !member.2.isNull) =
      keys.filterMap fun key => (sheet key).map fun entry => (key, entry.toJson) := by
  induction keys with
  | nil => rfl
  | cons key keys ih =>
    rw [List.map_cons, List.zip_cons_cons, List.filter_cons, ih, List.filterMap_cons]
    cases sheet key with
    | none => rfl
    | some entry => simp [Json.ofOption, entry.isNull_toJson]

/-- **Every spelling of a sheet has the members of this sheet**, in some order. -/
theorem keyed_of_spells {raw : Json} (inRange : sheet.InRange kind)
    (spells : sheet.Spells kind raw) :
    ∃ members, keyed kind raw = .ok members ∧ members.Perm (sheet.toMembers kind) := by
  have sorted := Json.sortMembers_perm (sheet.nodup_toMembers kind)
  cases spells with
  | text =>
    refine ⟨_, ?_, sorted⟩
    have clean : ∀ part ∈ kind.schema.map fun key => ((sheet key).map Entry.written).getD "",
        ',' ∉ part.toList := by
      simp only [List.mem_map, forall_exists_index, and_imp, forall_apply_eq_imp_iff₂]
      intro key _
      cases sheet key with
      | none => simp
      | some entry => exact entry.comma_not_mem
    rw [keyed, Sheet.toText, Text.pieces_intercalate (by simpa using schema_ne_nil kind) clean,
      checkArity, List.length_map, if_pos rfl, readFields_written inRange]
    rfl
  | list =>
    refine ⟨_, ?_, sorted⟩
    rw [keyed, Sheet.toItems, checkArity, List.length_map, if_pos rfl, zip_items]
    rfl
  | object same => exact ⟨_, rfl, same⟩

/-- Members in which a key stands for what a sheet has under it. -/
structure Carries (sheet : Sheet) (kind : RecordKind) (members : List (String × Json)) : Prop where
  once : ∀ key, occurrences key members ≤ 1
  found : ∀ key ∈ kind.schema, Json.member? members key = (sheet key).map Entry.toJson

theorem carries_of_perm {members : List (String × Json)}
    (same : members.Perm (sheet.toMembers kind)) : Carries sheet kind members := by
  have apart : (members.map Prod.fst).Nodup :=
    ((same.map Prod.fst).nodup_iff).2 (sheet.nodup_toMembers kind)
  refine ⟨occurrences_le_one apart, fun key listed => Option.ext fun value => ?_⟩
  rw [Json.member?_eq_some_iff apart, same.mem_iff, Sheet.mem_toMembers, and_iff_right listed]

end

/-! ## Parts of records -/

section

/-- An entry for a part of a record: one that stands for it, or none where the part is what it is
taken to be without an entry. -/
inductive Tells {α : Type} (standsFor : Entry → α → Prop) (default : Option α) :
    Option Entry → α → Prop
  | absent {part : α} (taken : default = some part) : Tells standsFor default none part
  | written {entry : Entry} {part : α} (stands : standsFor entry part) (inRange : entry.InRange) :
      Tells standsFor default (some entry) part

/-- A number for a bit mask. -/
def StandsForMask (entry : Entry) (mask : Modifiers) : Prop :=
  entry = .number mask.bits

/-- A number for a name. -/
def StandsForName (entry : Entry) (name : Option Nat) : Prop :=
  ∃ id, entry = .number id ∧ name = some id

/-- A list for ids. -/
def StandsForIds (entry : Entry) (ids : List Nat) : Prop :=
  entry = .list ids

/-- A list of ids for types that are no arrays. -/
def StandsForRefs (entry : Entry) (refs : List TypeRef) : Prop :=
  ∃ ids, entry = .list ids ∧ refs = ids.map .plain

/-- An id and a depth for a type, or an id alone. -/
def StandsForType (entry : Entry) (type : TypeRef) : Prop :=
  entry = .list [type.id, type.depth] ∨ entry = .number type.id ∧ type.depth = 0

/-- A number or a text for the text of an annotation. -/
def StandsForText (entry : Entry) (text : Option AnnotationText) : Prop :=
  (∃ id, entry = .number id ∧ text = some (.name id)) ∨
    ∃ literal, entry = .literal literal ∧ text = some (.literal literal)

abbrev TellsMask := Tells StandsForMask (some .empty)

abbrev TellsName := Tells StandsForName (some none)

abbrev TellsIds := Tells StandsForIds (some [])

abbrev TellsRefs := Tells StandsForRefs (some [])

abbrev TellsType := Tells StandsForType none

abbrev TellsText := Tells StandsForText (some none)

variable {entry : Entry}

theorem modifiers_toJson {mask : Modifiers} (stands : StandsForMask entry mask)
    (inRange : entry.InRange) : Shape.modifiers entry.toJson = .ok mask := by
  subst stands
  rw [Shape.modifiers, Entry.toJson, nat32_nat inRange]
  rfl

theorem name_toJson {name : Option Nat} (stands : StandsForName entry name)
    (inRange : entry.InRange) : optional nat32 entry.toJson = .ok name := by
  obtain ⟨id, rfl, rfl⟩ := stands
  change (nat32 (.nat id)).map some = _
  rw [nat32_nat inRange]
  rfl

theorem ids_toJson {ids : List Nat} (stands : StandsForIds entry ids) (inRange : entry.InRange) :
    oneOrMany nat32 entry.toJson = .ok ids := by
  subst stands
  exact oneOrMany_ofList fun id listed => nat32_nat (inRange id listed)

theorem refs_toJson {refs : List TypeRef} (stands : StandsForRefs entry refs)
    (inRange : entry.InRange) : oneOrMany typeRef entry.toJson = .ok refs := by
  obtain ⟨ids, rfl, rfl⟩ := stands
  have plain : Entry.toJson (.list ids) = .ofList TypeRef.toJson (ids.map .plain) := by
    simp [Entry.toJson, Json.ofList, TypeRef.toJson, TypeRef.plain, Function.comp_def]
  rw [plain]
  refine oneOrMany_ofList fun ref listed => ?_
  obtain ⟨id, member, rfl⟩ := List.mem_map.1 listed
  exact typeRef_toJson (TypeRef.inRange_plain (inRange id member))

theorem type_toJson {type : TypeRef} (stands : StandsForType entry type)
    (inRange : entry.InRange) : typeRef entry.toJson = .ok type := by
  rcases stands with rfl | ⟨rfl, plain⟩
  · exact typeRef_pair ⟨inRange type.id (by simp), inRange type.depth (by simp)⟩
  · rw [Entry.toJson, typeRef_nat inRange, TypeRef.plain, ← plain]

theorem annotationText_nat {id : Nat} (below : id < limit32) :
    annotationText (.nat id) = .ok (.name id) := by
  rw [Json.nat, annotationText, ← Json.nat, nat32_nat below]
  intro text same
  cases same

theorem text_toJson {text : Option AnnotationText} (stands : StandsForText entry text)
    (inRange : entry.InRange) : optional annotationText entry.toJson = .ok text := by
  obtain ⟨id, rfl, rfl⟩ | ⟨literal, rfl, rfl⟩ := stands
  · change (annotationText (.nat id)).map some = _
    rw [annotationText_nat inRange]
    rfl
  · rfl

end

/-! ## Sheets that describe records -/

section

variable {sheet : Sheet} {kind : RecordKind} {members : List (String × Json)} {key : String}

/-- A field is read as what the entry under its key stands for. -/
theorem Carries.fieldOr_eq (carries : Carries sheet kind members) (listed : key ∈ kind.schema)
    {α : Type} {standsFor : Entry → α → Prop} {default part : α}
    (tells : Tells standsFor (some default) (sheet key) part) {shape : Shape α}
    (reads : ∀ {entry : Entry}, standsFor entry part → entry.InRange →
      shape entry.toJson = .ok part) :
    fieldOr members key shape default = .ok part := by
  have found := carries.found key listed
  generalize sheet key = said at found tells
  cases tells with
  | absent taken =>
    obtain rfl := Option.some.inj taken
    exact fieldOr_of_absent (carries.once key) found shape _
  | written stands inRange =>
    rw [fieldOr_of_present (carries.once key) found, reads stands inRange]

theorem Carries.field_eq (carries : Carries sheet kind members) (listed : key ∈ kind.schema)
    {type : TypeRef} (tells : TellsType (sheet key) type) :
    Shape.field members key typeRef = .ok (some type) := by
  have found := carries.found key listed
  generalize sheet key = said at found tells
  cases tells with
  | absent taken => exact nomatch taken
  | written stands inRange =>
    rw [Shape.field_eq (carries.once key), found, Option.map_some]
    simp only [type_toJson stands inRange]
    rfl

end

/-- A sheet says about each part of a record what that part is. -/
def Sheet.Describes (sheet : Sheet) : (kind : RecordKind) → kind.Data → Prop
  | .field, record =>
    TellsName (sheet "n") record.name ∧ TellsType (sheet "t") record.type ∧
      TellsMask (sheet "M") record.modifiers ∧
      TellsIds (sheet "a") record.annotations
  | .method, record =>
    TellsName (sheet "n") record.name ∧
      TellsMask (sheet "M") record.modifiers ∧
      TellsType (sheet "t") record.returnType ∧
      TellsIds (sheet "a") record.annotations ∧
      TellsIds (sheet "p") record.parameters ∧
      TellsIds (sheet "v") record.typeVariables ∧
      TellsRefs (sheet "e") record.exceptions
  | .constructor, record =>
    TellsMask (sheet "M") record.modifiers ∧
      TellsIds (sheet "a") record.annotations ∧
      TellsRefs (sheet "e") record.exceptions ∧
      TellsIds (sheet "v") record.typeVariables ∧
      TellsIds (sheet "p") record.parameters
  | .parameter, record =>
    TellsName (sheet "n") record.name ∧ TellsType (sheet "t") record.type ∧
      TellsMask (sheet "M") record.modifiers ∧
      TellsIds (sheet "a") record.annotations
  | .annotationUse, record =>
    TellsType (sheet "t") record.type ∧ TellsText (sheet "s") record.text

/-- The members of a sheet are read as the record that the sheet describes. -/
theorem ofMembers_of_carries {sheet : Sheet} {kind : RecordKind} {record : kind.Data}
    {members : List (String × Json)} (describes : sheet.Describes kind record)
    (carries : Carries sheet kind members) : kind.ofMembers members = .ok record := by
  cases kind with
  | field =>
    obtain ⟨name, type, mask, annotations⟩ := describes
    simp only [RecordKind.ofMembers, FieldRecord.ofMembers, optionalField, manyField,
      carries.fieldOr_eq (by decide) name name_toJson,
      carries.fieldOr_eq (by decide) mask modifiers_toJson,
      carries.fieldOr_eq (by decide) annotations ids_toJson,
      carries.field_eq (by decide) type, Outcome.ok_bind, required, Outcome.pure_eq]
  | method =>
    obtain ⟨name, mask, type, annotations, parameters, typeVariables, exceptions⟩ := describes
    simp only [RecordKind.ofMembers, MethodRecord.ofMembers, optionalField, manyField,
      carries.fieldOr_eq (by decide) name name_toJson,
      carries.fieldOr_eq (by decide) mask modifiers_toJson,
      carries.fieldOr_eq (by decide) annotations ids_toJson,
      carries.fieldOr_eq (by decide) parameters ids_toJson,
      carries.fieldOr_eq (by decide) typeVariables ids_toJson,
      carries.fieldOr_eq (by decide) exceptions refs_toJson,
      carries.field_eq (by decide) type, Outcome.ok_bind, required, Outcome.pure_eq]
  | constructor =>
    obtain ⟨mask, annotations, exceptions, typeVariables, parameters⟩ := describes
    simp only [RecordKind.ofMembers, ConstructorRecord.ofMembers, manyField,
      carries.fieldOr_eq (by decide) mask modifiers_toJson,
      carries.fieldOr_eq (by decide) annotations ids_toJson,
      carries.fieldOr_eq (by decide) parameters ids_toJson,
      carries.fieldOr_eq (by decide) typeVariables ids_toJson,
      carries.fieldOr_eq (by decide) exceptions refs_toJson, Outcome.ok_bind, Outcome.pure_eq]
  | parameter =>
    obtain ⟨name, type, mask, annotations⟩ := describes
    simp only [RecordKind.ofMembers, ParameterRecord.ofMembers, optionalField, manyField,
      carries.fieldOr_eq (by decide) name name_toJson,
      carries.fieldOr_eq (by decide) mask modifiers_toJson,
      carries.fieldOr_eq (by decide) annotations ids_toJson,
      carries.field_eq (by decide) type, Outcome.ok_bind, required, Outcome.pure_eq]
  | annotationUse =>
    obtain ⟨type, text⟩ := describes
    simp only [RecordKind.ofMembers, AnnotationRecord.ofMembers, optionalField,
      carries.fieldOr_eq (by decide) text text_toJson,
      carries.field_eq (by decide) type, Outcome.ok_bind, required, Outcome.pure_eq]

theorem Tells.inRange {α : Type} {standsFor : Entry → α → Prop} {default : Option α}
    {part : α} {said : Option Entry} (tells : Tells standsFor default said part) :
    ∀ entry ∈ said, entry.InRange := by
  cases tells with
  | absent taken => simp
  | written stands inRange => simpa using inRange

theorem Sheet.Describes.inRange {sheet : Sheet} {kind : RecordKind} {record : kind.Data}
    (describes : sheet.Describes kind record) : sheet.InRange kind := by
  cases kind with
  | field | parameter =>
    obtain ⟨name, type, mask, annotations⟩ := describes
    simp only [InRange, RecordKind.schema, List.forall_mem_cons]
    exact ⟨name.inRange, type.inRange, mask.inRange, annotations.inRange, by simp⟩
  | method =>
    obtain ⟨name, mask, type, annotations, parameters, typeVariables, exceptions⟩ := describes
    simp only [InRange, RecordKind.schema, List.forall_mem_cons]
    exact ⟨name.inRange, mask.inRange, type.inRange, annotations.inRange, parameters.inRange,
      typeVariables.inRange, exceptions.inRange, by simp⟩
  | constructor =>
    obtain ⟨mask, annotations, exceptions, typeVariables, parameters⟩ := describes
    simp only [InRange, RecordKind.schema, List.forall_mem_cons]
    exact ⟨mask.inRange, annotations.inRange, exceptions.inRange, typeVariables.inRange,
      parameters.inRange, by simp⟩
  | annotationUse =>
    obtain ⟨type, text⟩ := describes
    simp only [InRange, RecordKind.schema, List.forall_mem_cons]
    exact ⟨type.inRange, text.inRange, by simp⟩

/-! ## Records that have a sheet -/

theorem tells_name {name : Option Nat} (below : Ids name.toList) :
    TellsName (name.map .number) name := by
  cases name with
  | none => exact .absent rfl
  | some id => exact .written ⟨id, rfl, rfl⟩ (below id (by simp))

theorem tells_mask {mask : Modifiers} (below : mask.bits < limit32) :
    TellsMask (some (.number mask.bits)) mask :=
  .written rfl below

theorem tells_ids {ids : List Nat} (below : Ids ids) :
    TellsIds (some (.list ids)) ids :=
  .written rfl below

theorem tells_refs {refs : List TypeRef} (plain : PlainRefs refs) :
    TellsRefs (some (.list (refs.map TypeRef.id))) refs := by
  refine .written ⟨_, rfl, ?_⟩ ?_
  · have same : ∀ ref ∈ refs, TypeRef.plain ref.id = ref := fun ref listed => by
      rw [TypeRef.plain, ← (plain ref listed).2]
    rw [List.map_map]
    exact (List.map_id' refs).symm.trans
      (List.map_congr_left fun ref listed => (same ref listed).symm)
  · simpa [Entry.InRange] using fun ref listed => (plain ref listed).1

/-- The entry of a type, with its depth. -/
def typeEntry (type : TypeRef) : Entry :=
  .list [type.id, type.depth]

theorem tells_type {type : TypeRef} (inRange : type.InRange) :
    TellsType (some (typeEntry type)) type :=
  .written (.inl rfl) (by simpa [Entry.InRange, typeEntry, TypeRef.InRange] using inRange)

/-- The entry of the text of an annotation. -/
def textEntry : AnnotationText → Entry
  | .name id => .number id
  | .literal text => .literal text

theorem tells_text {text : Option AnnotationText}
    (below : ∀ id, text = some (.name id) → id < limit32) :
    TellsText (text.map textEntry) text := by
  match text with
  | none => exact .absent rfl
  | some (.name id) => exact .written (.inl ⟨id, rfl, rfl⟩) (below id rfl)
  | some (.literal text) => exact .written (.inr ⟨text, rfl, rfl⟩) trivial

/-- A record that fits has a sheet, on which every part of it is written. -/
theorem exists_describes {kind : RecordKind} {record : kind.Data} (fits : kind.Fits record) :
    ∃ sheet : Sheet, sheet.Describes kind record := by
  cases kind with
  | field | parameter =>
    obtain ⟨name, type, mask, annotations⟩ := fits
    exact ⟨.ofList [("n", record.name.map .number), ("t", some (typeEntry record.type)),
        ("M", some (.number record.modifiers.bits)), ("a", some (.list record.annotations))],
      tells_name name, tells_type type, tells_mask mask, tells_ids annotations⟩
  | method =>
    obtain ⟨name, mask, type, annotations, parameters, typeVariables, exceptions⟩ := fits
    exact ⟨.ofList [("n", record.name.map .number), ("M", some (.number record.modifiers.bits)),
        ("t", some (typeEntry record.returnType)), ("a", some (.list record.annotations)),
        ("p", some (.list record.parameters)), ("v", some (.list record.typeVariables)),
        ("e", some (.list (record.exceptions.map TypeRef.id)))],
      tells_name name, tells_mask mask, tells_type type, tells_ids annotations,
      tells_ids parameters, tells_ids typeVariables, tells_refs exceptions⟩
  | constructor =>
    obtain ⟨mask, annotations, exceptions, typeVariables, parameters⟩ := fits
    exact ⟨.ofList [("M", some (.number record.modifiers.bits)),
        ("a", some (.list record.annotations)), ("p", some (.list record.parameters)),
        ("v", some (.list record.typeVariables)),
        ("e", some (.list (record.exceptions.map TypeRef.id)))],
      tells_mask mask, tells_ids annotations, tells_refs exceptions, tells_ids typeVariables,
      tells_ids parameters⟩
  | annotationUse =>
    obtain ⟨type, text⟩ := fits
    exact ⟨.ofList [("t", some (typeEntry record.type)), ("s", record.text.map textEntry)],
      tells_type type, tells_text text⟩

/-- **The three spellings of a record are read alike.** -/
theorem read_of_spells (kind : RecordKind) (record : kind.Data) (fits : kind.Fits record) :
    (∃ sheet : Sheet, sheet.Describes kind record) ∧
      ∀ sheet : Sheet, sheet.Describes kind record → ∀ raw, sheet.Spells kind raw →
        kind.read raw = .ok record := by
  refine ⟨exists_describes fits, fun sheet describes raw spells => ?_⟩
  obtain ⟨members, keyed, same⟩ := keyed_of_spells describes.inRange spells
  rw [RecordKind.read_eq, decode, keyed, Outcome.ok_bind,
    ofMembers_of_carries describes (carries_of_perm same)]

/-- A method that throws, as a text and as a list. -/
theorem read_of_spells_method :
    let record : MethodRecord := ⟨some 4, ⟨1⟩, ⟨9, 2⟩, [], [0, 1], [], [.plain 12]⟩
    Record.method (.text "4,1,[9|2],,[0|1],,[12]") = .ok record ∧
      Record.method (.array [.nat 4, .nat 1, .array [.nat 9, .nat 2], .null,
        .array [.nat 0, .nat 1], .null, .array [.nat 12]]) = .ok record := by
  intro record
  let sheet := Sheet.ofList [("n", some (.number 4)), ("M", some (.number 1)),
    ("t", some (.list [9, 2])), ("p", some (.list [0, 1])), ("e", some (.list [12]))]
  have fits : RecordKind.Fits .method record :=
    ⟨by decide, by decide, ⟨by decide, by decide⟩, by decide, by decide, by decide, by decide⟩
  have describes : sheet.Describes .method record :=
    ⟨.written ⟨4, rfl, rfl⟩ (by decide), .written rfl (by decide),
      Tells.written (.inl rfl) (by decide), .absent rfl, .written rfl (by decide), .absent rfl,
      .written ⟨[12], rfl, rfl⟩ (by decide)⟩
  have read := (read_of_spells .method record fits).2 sheet describes
  have text : sheet.toText .method = "4,1,[9|2],,[0|1],,[12]" := by decide +kernel
  exact ⟨text ▸ read _ .text, read _ .list⟩

end Record

end ClassAtlas

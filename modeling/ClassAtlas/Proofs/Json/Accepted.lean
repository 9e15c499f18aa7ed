import ClassAtlas.Proofs.Json.Shapes

/-!
# What readers accept

A reader accepts a value for some data exactly when the value spells the data (`Shape.Accepts`).
For the readers that other readers are put together from, this says what a spelling is: an optional
value may be `null`, a record is an object or a list that starts like its fields, and a field may be
left out where it has a default (`Said`).

A spelling says the same when all objects in it are brought into canonical form (`Canonically`),
since a key that is read is written once.
-/

set_option autoImplicit false

namespace ClassAtlas.Shape

open Json (canonical canonicalMembers member? sortMembers)

variable {α : Type}

/-- A reader accepts what spells its data, and nothing else. -/
def Accepts (shape : Shape α) (spells : Json → α → Prop) : Prop :=
  ∀ value result, shape value = .ok result ↔ spells value result

/-- The canonical form of a spelling spells the same. -/
def Canonically (spells : Json → α → Prop) : Prop :=
  ∀ value result, spells value result → spells value.canonical result

/-! ## Simple values -/

/-- A text. -/
def TextSpelled (value : Json) (text : String) : Prop :=
  value = .text text

/-- A truth value. -/
def BoolSpelled (value : Json) (truth : Bool) : Prop :=
  value = .bool truth

/-- A value or `null`. -/
inductive OptionSpelled (spells : Json → α → Prop) : Json → Option α → Prop
  | null : OptionSpelled spells .null none
  | value {value : Json} {result : α} (some_ : value ≠ .null) (is : spells value result) :
      OptionSpelled spells value (some result)

/-- A list of values. -/
inductive ListSpelled (spells : Json → α → Prop) : Json → List α → Prop
  | items {values : List Json} {results : List α} (each : List.Forall₂ spells values results) :
      ListSpelled spells (.array values) results

theorem string_accepts : Accepts string TextSpelled := by
  intro value result
  cases value <;> simp [string, TextSpelled]

theorem boolean_accepts : Accepts boolean BoolSpelled := by
  intro value result
  cases value <;> simp [boolean, BoolSpelled]

theorem textSpelled_canonically : Canonically TextSpelled := by
  rintro value result rfl
  rfl

theorem boolSpelled_canonically : Canonically BoolSpelled := by
  rintro value result rfl
  rfl

theorem canonical_ne_null {value : Json} (some_ : value ≠ .null) : value.canonical ≠ .null := by
  cases value with
  | null => exact absurd rfl some_
  | bool | number | text | array | object => simp [canonical]

section

variable {shape : Shape α} {spells : Json → α → Prop}

theorem optional_accepts (accepts : shape.Accepts spells) :
    (optional shape).Accepts (OptionSpelled spells) := by
  intro value result
  have written : value ≠ .null → ((shape value).map some = .ok result ↔
      OptionSpelled spells value result) := by
    intro some_
    rw [Outcome.map_eq_ok]
    constructor
    · rintro ⟨inner, read, rfl⟩
      exact .value some_ ((accepts _ _).1 read)
    · intro spelled
      cases spelled with
      | null => exact absurd rfl some_
      | value _ is => exact ⟨_, (accepts _ _).2 is, rfl⟩
  cases value with
  | null =>
    rw [optional]
    constructor
    · rintro ⟨⟩
      exact .null
    · intro spelled
      cases spelled with
      | null => rfl
      | value some_ => exact absurd rfl some_
  | bool | number | text | array | object => exact written (by simp)

theorem items_eq_ok (accepts : shape.Accepts spells) {values : List Json} {results : List α} :
    items shape values = .ok results ↔ List.Forall₂ spells values results := by
  induction values generalizing results with
  | nil => rw [items, List.forall₂_nil_left_iff, Except.ok.injEq, eq_comm]
  | cons value rest ih =>
    rw [items, Outcome.bind_eq_ok, List.forall₂_cons_left_iff]
    constructor
    · rintro ⟨first, here, read⟩
      obtain ⟨others, there, same⟩ := Outcome.bind_eq_ok.1 read
      cases same
      exact ⟨first, others, (accepts _ _).1 here, ih.1 there, rfl⟩
    · rintro ⟨first, others, here, there, rfl⟩
      exact ⟨first, (accepts _ _).2 here, Outcome.bind_eq_ok.2 ⟨others, ih.2 there, rfl⟩⟩

theorem list_accepts (accepts : shape.Accepts spells) :
    (list shape).Accepts (ListSpelled spells) := by
  intro value result
  constructor
  · intro read
    cases value with
    | array values => exact .items ((items_eq_ok accepts).1 read)
    | null | bool | number | text | object => cases read
  · rintro ⟨each⟩
    exact (items_eq_ok accepts).2 each

theorem optionSpelled_ofOption {encode : α → Json} (some_ : ∀ result, encode result ≠ .null)
    (is : ∀ result, spells (encode result) result) (result : Option α) :
    OptionSpelled spells (.ofOption encode result) result := by
  cases result with
  | none => exact .null
  | some result => exact .value (some_ result) (is result)

theorem listSpelled_ofList {encode : α → Json} (is : ∀ result, spells (encode result) result)
    (results : List α) : ListSpelled spells (.ofList encode results) results :=
  .items (List.forall₂_map_left_iff.2 (List.forall₂_same.2 fun result _ => is result))

theorem optionSpelled_canonically (stable : Canonically spells) :
    Canonically (OptionSpelled spells) := by
  rintro value result (_ | ⟨some_, is⟩)
  · exact .null
  · exact .value (canonical_ne_null some_) (stable _ _ is)

theorem forall₂_canonical {values : List Json} {results : List α}
    (stable : ∀ result ∈ results, ∀ value, spells value result → spells value.canonical result)
    (each : List.Forall₂ spells values results) :
    List.Forall₂ spells (values.map canonical) results := by
  induction each with
  | nil => exact .nil
  | cons here _ ih =>
    obtain ⟨first, others⟩ := List.forall_mem_cons.1 stable
    exact .cons (first _ here) (ih others)

theorem listSpelled_canonically (stable : Canonically spells) :
    Canonically (ListSpelled spells) := by
  rintro value result ⟨each⟩
  rw [Json.canonical_array]
  exact .items (forall₂_canonical (fun result _ value => stable value result) each)

end

/-! ## Fields -/

/-- What the members of a record say of a field: the data that the one value under its key spells,
or the default where the key is left out and there is a default. -/
inductive Said (members : List (String × Json)) (key : String) (spells : Json → α → Prop)
    (default : Option α) : α → Prop
  | leftOut {result : α} (absent : member? members key = none) (taken : default = some result) :
      Said members key spells default result
  | written {value : Json} {result : α} (once : occurrences key members ≤ 1)
      (present : member? members key = some value) (is : spells value result) :
      Said members key spells default result

section

variable {members later : List (String × Json)} {key : String} {shape : Shape α}
  {spells : Json → α → Prop} {result : α}

theorem occurrences_concat (members : List (String × Json)) (last : String × Json) :
    occurrences key (members ++ [last]) =
      occurrences key members + if last.1 = key then 1 else 0 := by
  rw [occurrences, occurrences, List.filter_append, List.length_append]
  by_cases same : last.1 = key <;> simp [same]

theorem member?_eq_none_iff : member? members key = none ↔ occurrences key members = 0 := by
  induction members using List.reverseRecOn with
  | nil => simp [occurrences]
  | append_singleton members last ih =>
    rw [Json.member?_concat, occurrences_concat]
    by_cases same : last.1 = key
    · simp [same]
    · simp [same, ih]

theorem field_eq_ok (accepts : shape.Accepts spells) {found : Option α} :
    field members key shape = .ok found ↔
      match found with
      | none => member? members key = none
      | some result => Said members key spells none result := by
  by_cases once : occurrences key members ≤ 1
  · rw [field_eq once]
    cases present : member? members key with
    | none =>
      cases found with
      | none => simp
      | some result =>
        simp only [Except.ok.injEq, reduceCtorEq, false_iff]
        rintro (⟨-, ⟨⟩⟩ | ⟨-, other, -⟩)
        cases present.symm.trans other
    | some value =>
      simp only [Outcome.map_eq_ok]
      cases found with
      | none => simp
      | some result =>
        constructor
        · rintro ⟨other, read, same⟩
          cases same
          exact .written once present ((accepts _ _).1 read)
        · rintro (⟨-, ⟨⟩⟩ | ⟨-, other, is⟩)
          cases present.symm.trans other
          exact ⟨_, (accepts _ _).2 is, rfl⟩
  · have repeated : field members key shape = .error (.repeatedField key) :=
      if_pos (Nat.lt_of_not_le once)
    rw [repeated]
    cases found with
    | none =>
      simp only [reduceCtorEq, false_iff]
      intro absent
      have none : occurrences key members = 0 := member?_eq_none_iff.1 absent
      omega
    | some result =>
      simp only [reduceCtorEq, false_iff]
      rintro (⟨-, ⟨⟩⟩ | ⟨again, -, -⟩)
      exact once again

/-- Members with different keys say what they are written with. -/
theorem Said.of_mem {value : Json} {default : Option α} (apart : (members.map Prod.fst).Nodup)
    (listed : (key, value) ∈ members) (is : spells value result) :
    Said members key spells default result :=
  .written (occurrences_le_one apart key) ((Json.member?_eq_some_iff apart).2 listed) is

/-- A field without default has to be written. -/
theorem required_eq_ok (accepts : shape.Accepts spells) :
    (∃ found, field members key shape = .ok found ∧ required key found = .ok result) ↔
      Said members key spells none result := by
  constructor
  · rintro ⟨_ | found, read, given⟩
    · cases given
    · cases given
      exact (field_eq_ok accepts).1 read
  · intro said
    exact ⟨some result, (field_eq_ok accepts).2 said, rfl⟩

theorem fieldOr_eq_ok (accepts : shape.Accepts spells) {default : α} :
    fieldOr members key shape default = .ok result ↔
      Said members key spells (some default) result := by
  rw [fieldOr, Outcome.map_eq_ok]
  constructor
  · rintro ⟨_ | found, read, rfl⟩
    · exact .leftOut ((field_eq_ok accepts).1 read) rfl
    · obtain ⟨-, ⟨⟩⟩ | ⟨once, present, is⟩ := (field_eq_ok accepts).1 read
      exact .written once present is
  · rintro (⟨absent, ⟨⟩⟩ | ⟨once, present, is⟩)
    · exact ⟨none, (field_eq_ok accepts).2 absent, rfl⟩
    · exact ⟨some result, (field_eq_ok accepts).2 (.written once present is), rfl⟩

theorem member?_filter_ne {other : String} (differs : key ≠ other) :
    member? (members.filter fun member => member.1 ≠ other) key = member? members key := by
  induction members using List.reverseRecOn with
  | nil => rfl
  | append_singleton members last ih =>
    rw [List.filter_append, Json.member?_concat]
    by_cases same : last.1 = other
    · have dropped : last.1 ≠ key := fun here => differs (here.symm.trans same)
      rw [List.filter_cons_of_neg (by simpa using same), List.filter_nil, List.append_nil, ih,
        if_neg dropped]
    · rw [List.filter_cons_of_pos (by simpa using same), List.filter_nil, Json.member?_concat, ih]

theorem occurrences_filter_ne {other : String} (differs : key ≠ other) :
    occurrences key (members.filter fun member => member.1 ≠ other) = occurrences key members := by
  rw [occurrences, occurrences, List.filter_filter]
  refine congrArg List.length (List.filter_congr fun member _ => ?_)
  by_cases same : member.1 = key
  · simp [same, differs]
  · simp [same]

/-- Members under other keys are of no account for a field. -/
theorem field_filter_ne {other : String} (differs : key ≠ other) (shape : Shape α) :
    field (members.filter fun member => member.1 ≠ other) key shape = field members key shape := by
  rw [field, field, occurrences_filter_ne differs, member?_filter_ne differs]

/-- A field that may be `null` can as well be left out. -/
theorem fieldOr_filter_null (shape : Shape α) (once : occurrences key members ≤ 1)
    (null : member? members key = some .null) :
    fieldOr (members.filter fun member => member.1 ≠ key) key (optional shape) none =
      fieldOr members key (optional shape) none := by
  have gone : occurrences key (members.filter fun member => member.1 ≠ key) = 0 := by
    rw [occurrences, List.filter_filter, List.length_eq_zero_iff, List.filter_eq_nil_iff]
    simp
  calc fieldOr (members.filter fun member => member.1 ≠ key) key (optional shape) none
      = .ok none := fieldOr_of_absent (by omega) (member?_eq_none_iff.2 gone) _ _
    _ = fieldOr members key (optional shape) none :=
      (fieldOr_of_present once null (optional shape) none).symm

/-! ## Members -/

/-- The members of a record: those of an object, or the items of a list, which stand for the first
of its fields. -/
inductive Laid (keys : List String) : Json → List (String × Json) → Prop
  | object {members : List (String × Json)} : Laid keys (.object members) members
  | list {values : List Json} (short : values.length ≤ keys.length) :
      Laid keys (.array values) (keys.zip values)

theorem members_eq_ok {keys : List String} {expected : String} {value : Json} :
    Shape.members keys expected value = .ok members ↔ Laid keys value members := by
  constructor
  · intro read
    cases value with
    | object members =>
      cases read
      exact .object
    | array values =>
      rw [Shape.members] at read
      split at read
      · cases read
      · next short =>
        cases read
        exact .list (Nat.le_of_not_lt short)
    | null | bool | number | text => cases read
  · rintro (_ | ⟨short⟩)
    · rfl
    · rw [Shape.members, if_neg (Nat.not_lt.2 short)]
      rfl

/-- Members that say the same in canonical form: keys that were written once are, and each key
stands for the canonical form of what it stood for. -/
structure Canonized (members later : List (String × Json)) : Prop where
  once : ∀ key, occurrences key members ≤ 1 → occurrences key later ≤ 1
  found : ∀ key, member? later key = (member? members key).map canonical

theorem canonized_sortMembers (members : List (String × Json)) :
    Canonized members (sortMembers (canonicalMembers members)) where
  once key _ := occurrences_le_one (Json.keysAscend_sortMembers _).nodup_keys key
  found key := by rw [Json.member?_sortMembers, Json.member?_canonicalMembers]

theorem canonized_canonicalMembers (members : List (String × Json)) :
    Canonized members (canonicalMembers members) where
  once key written := by
    rw [Json.canonicalMembers_eq_map, occurrences, List.filter_map, List.length_map]
    exact written
  found := Json.member?_canonicalMembers members

theorem Said.canonized {default : Option α} (same : Canonized members later)
    (stable : Canonically spells) (said : Said members key spells default result) :
    Said later key spells default result := by
  cases said with
  | leftOut absent taken => exact .leftOut (by rw [same.found, absent]; rfl) taken
  | written once present is =>
    exact .written (same.once key once) (by rw [same.found, present]; rfl) (stable _ _ is)

theorem Laid.canonical {keys : List String} {value : Json} (laid : Laid keys value members) :
    ∃ later, Laid keys value.canonical later ∧ Canonized members later := by
  cases laid with
  | object => exact ⟨_, .object, canonized_sortMembers members⟩
  | @list values short =>
    have zipped : canonicalMembers (keys.zip values) = keys.zip (values.map Json.canonical) := by
      rw [Json.canonicalMembers_eq_map, List.zip_map_right]
      rfl
    refine ⟨_, ?_, zipped ▸ canonized_canonicalMembers _⟩
    rw [Json.canonical_array]
    exact .list (by rwa [List.length_map])

end

end ClassAtlas.Shape

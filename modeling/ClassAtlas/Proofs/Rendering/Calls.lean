import ClassAtlas.Proofs.Descent
import ClassAtlas.Proofs.Substitution.Range
import ClassAtlas.Render.Text
import Mathlib.Data.Finset.Prod
import Mathlib.Data.Fintype.Prod

/-!
# Calls of the renderer

To write a type, the renderer calls itself for the parts of the type that stands for it
(`Tables.Calls`).  Only a type variable that is replaced by what it is bound to can lead back to
itself, since no other type is written inside itself, and inside the bounds of a variable nothing is
replaced.  So every cycle of calls goes through a variable (`recurs_of_cycle`), and where no
variable is written inside itself the calls nest no deeper than there are types and marks
(`within_of_not_recurs`).
-/

set_option autoImplicit false

namespace ClassAtlas

open Relation (ReflTransGen TransGen)

/-- A call of the renderer: a type, inside its array dimensions, and options. -/
structure Call where
  id : Nat
  options : NameOptions
  deriving DecidableEq

/-- Options with the same bindings, both with type arguments or both without. -/
structure NameOptions.Alike (options other : NameOptions) : Prop where
  map : other.map = options.map
  generics : other.includeGenerics = options.includeGenerics

theorem NameOptions.Alike.refl (options : NameOptions) : options.Alike options :=
  ⟨rfl, rfl⟩

/-- The calls for some types with the same options. -/
def NameOptions.calls (options : NameOptions) (refs : List TypeRef) : List Call :=
  refs.map fun ref => ⟨ref.id, options⟩

/-- The call for the class of a parameterized type. -/
def ParameterizedRecord.rawCall (record : ParameterizedRecord) (options : NameOptions) : Call :=
  ⟨record.rawType.id, { options with
    definingParameterized := true
    appendPackage := options.appendPackage && record.ownerType.isNone }⟩

/-- The calls for the owner of a parameterized type. -/
def ParameterizedRecord.ownerCalls (record : ParameterizedRecord) (options : NameOptions) :
    List Call :=
  if options.definingParameterized then []
  else NameOptions.calls { options with definingParameterized := true } record.ownerType.toList

/-- The calls for the arguments of a parameterized type. -/
def ParameterizedRecord.argumentCalls (record : ParameterizedRecord) (options : NameOptions) :
    List Call :=
  if options.includeGenerics then
    NameOptions.calls { options with definingParameterized := true } record.arguments
  else []

/-- The calls for the parts of a type. -/
def TypeData.calls (data : TypeData) (options : NameOptions) : List Call :=
  match data with
  | .rawClass record =>
    if options.definingParameterized then [] else options.calls record.declaringClass.toList
  | .typeVariable record =>
    if options.definingVariable then []
    else NameOptions.calls { options with definingVariable := true } record.bounds
  | .wildcard record => options.calls (if record.lower.isEmpty then record.upper else record.lower)
  | .parameterized record =>
    record.rawCall options :: (record.ownerCalls options ++ record.argumentCalls options)

/-- A call leads to calls for the parts of the type that stands for what it writes. -/
def Tables.Calls (tables : Tables) (outer inner : Call) : Prop :=
  ∃ found data, tables.standIn (.plain outer.id) outer.options = .ok found ∧
    tables.typeData found.id = .ok data ∧ inner ∈ data.calls outer.options

/-- A call leads to a type variable that is written inside itself. -/
def Tables.Recurs (tables : Tables) (start : Call) : Prop :=
  ∃ call, tables.IsTypeVariable call.id ∧ ReflTransGen tables.Calls start call ∧
    TransGen tables.Calls call call

/-! ## Parts -/

theorem NameOptions.mem_calls_iff {options : NameOptions} {refs : List TypeRef} {call : Call} :
    call ∈ options.calls refs ↔ ∃ ref ∈ refs, ⟨ref.id, options⟩ = call :=
  List.mem_map

section

variable {data : TypeData} {options : NameOptions} {inner : Call}

/-- Parts are written with the same bindings, and with type arguments if the whole is. -/
theorem TypeData.calls_keep (listed : inner ∈ data.calls options) :
    inner.options.map = options.map ∧ inner.options.includeGenerics = options.includeGenerics := by
  cases data with
  | rawClass record =>
    simp only [calls, List.mem_ite_nil_left, NameOptions.mem_calls_iff] at listed
    obtain ⟨-, _, -, rfl⟩ := listed
    exact ⟨rfl, rfl⟩
  | typeVariable record =>
    simp only [calls, List.mem_ite_nil_left, NameOptions.mem_calls_iff] at listed
    obtain ⟨-, _, -, rfl⟩ := listed
    exact ⟨rfl, rfl⟩
  | wildcard record =>
    obtain ⟨_, -, rfl⟩ := NameOptions.mem_calls_iff.1 listed
    exact ⟨rfl, rfl⟩
  | parameterized record =>
    simp only [calls, ParameterizedRecord.ownerCalls, ParameterizedRecord.argumentCalls,
      List.mem_cons, List.mem_append, List.mem_ite_nil_left, List.mem_ite_nil_right,
      NameOptions.mem_calls_iff] at listed
    obtain rfl | ⟨-, _, -, rfl⟩ | ⟨-, _, -, rfl⟩ := listed
    · exact ⟨rfl, rfl⟩
    · exact ⟨rfl, rfl⟩
    · exact ⟨rfl, rfl⟩

/-- The parts of a type are written in its record; only variables lead to anything else. -/
theorem TypeData.of_mem_calls (listed : inner ∈ data.calls options) :
    ∃ ref ∈ data.leadsTo, ref.id = inner.id ∧
      (ref ∈ data.mentions ∨ ∃ record, data = .typeVariable record) := by
  cases data with
  | rawClass record =>
    simp only [calls, List.mem_ite_nil_left, NameOptions.mem_calls_iff] at listed
    obtain ⟨-, ref, part, rfl⟩ := listed
    have mentioned := List.mem_append_right record.supertypes part
    exact ⟨ref, List.mem_append_left _ mentioned, rfl, .inl mentioned⟩
  | typeVariable record =>
    simp only [calls, List.mem_ite_nil_left, NameOptions.mem_calls_iff] at listed
    obtain ⟨-, ref, part, rfl⟩ := listed
    exact ⟨ref, part, rfl, .inr ⟨record, rfl⟩⟩
  | wildcard record =>
    obtain ⟨ref, part, rfl⟩ := NameOptions.mem_calls_iff.1 listed
    have mentioned : ref ∈ (TypeData.wildcard record).mentions := by
      split at part
      · exact List.mem_append_left _ part
      · exact List.mem_append_right _ part
    exact ⟨ref, mentioned, rfl, .inl mentioned⟩
  | parameterized record =>
    simp only [calls, ParameterizedRecord.ownerCalls, ParameterizedRecord.argumentCalls,
      List.mem_cons, List.mem_append, List.mem_ite_nil_left, List.mem_ite_nil_right,
      NameOptions.mem_calls_iff] at listed
    obtain rfl | ⟨-, ref, part, rfl⟩ | ⟨-, ref, part, rfl⟩ := listed
    · exact ⟨record.rawType, List.mem_cons_self, rfl, .inl List.mem_cons_self⟩
    · have mentioned : ref ∈ (TypeData.parameterized record).mentions :=
        List.mem_cons_of_mem _ (List.mem_append_left _ part)
      exact ⟨ref, mentioned, rfl, .inl mentioned⟩
    · have mentioned : ref ∈ (TypeData.parameterized record).mentions :=
        List.mem_cons_of_mem _ (List.mem_append_right _ part)
      exact ⟨ref, mentioned, rfl, .inl mentioned⟩

end

/-! ## What stands for a type -/

namespace Tables

variable {tables : Tables} {options : NameOptions}

/-- Only a type variable is replaced. -/
theorem standIn_eq_of_not_variable {ref found : TypeRef}
    (stands : tables.standIn ref options = .ok found) (other : ¬tables.IsTypeVariable ref.id) :
    found = ref := by
  rw [standIn] at stands
  split at stands
  · exact (Except.ok.inj stands).symm
  · rw [followBindings] at stands
    obtain ⟨varies, asked, stands⟩ := Outcome.bind_eq_ok.1 stands
    cases varies with
    | true => exact absurd ((isVariable_iff ref).1 asked) other
    | false => exact (Except.ok.inj stands).symm

/-- A class always stands for itself. -/
theorem standIn_rawClass {ref : TypeRef} {record : ClassRecord}
    (known : tables.typeData ref.id = .ok (.rawClass record)) (options : NameOptions) :
    tables.standIn ref.element options = .ok ref.element := by
  have proper : ¬tables.IsTypeVariable ref.element.id := by
    rintro ⟨_, other⟩
    cases known.symm.trans other
  have fixed : tables.isVariable ref.element = .ok false :=
    isVariable_eq_false ⟨_, known⟩ proper
  rw [standIn, followBindings, fixed]
  exact ite_self _

/-- Where nothing is bound, every type stands for itself. -/
theorem standIn_of_unbound (unbound : options.map = .empty) (ref : TypeRef) :
    tables.standIn ref options = .ok ref := by
  rw [standIn, unbound, show VarMap.isEmpty .empty = true from rfl, Bool.or_true]
  rfl

/-- On a well-formed snapshot something stands for every type. -/
theorem followBindings_meets (fit : tables.WellFormed) {map : VarMap}
    (inside : map.Inside tables.typeCount) (left : Nat) (met : List Nat) {current : TypeRef}
    (below : current.id < tables.typeCount) :
    Outcome.Meets (tables.followBindings map left met current) (·.id < tables.typeCount)
      fun _ => False := by
  induction left generalizing met current with
  | zero => exact below
  | succ left ih =>
    obtain ⟨data, known⟩ := fit.decodes current.id below
    rw [followBindings, isVariable, known]
    simp only [Except.map, Outcome.ok_bind]
    split
    · cases found : map.find? current.id with
      | none => exact below
      | some next =>
        simp only
        split
        · exact below
        · exact ih _ (inside current.id next found)
    · exact below

theorem standIn_ok (fit : tables.WellFormed) (inside : options.map.Inside tables.typeCount)
    {ref : TypeRef} (below : ref.id < tables.typeCount) :
    ∃ found, tables.standIn ref options = .ok found ∧ found.id < tables.typeCount := by
  rw [standIn]
  split
  · exact ⟨ref, rfl, below⟩
  · exact Outcome.meets_iff_ok.1 (followBindings_meets fit inside _ _ below)

/-- What a type of the snapshot stands for is one of the snapshot itself. -/
theorem lt_of_standIn {ref found : TypeRef} {data : TypeData}
    (stands : tables.standIn ref options = .ok found)
    (known : tables.typeData found.id = .ok data) :
    ref.id < tables.typeCount := by
  rw [standIn] at stands
  split at stands
  · cases stands
    exact typeData_lt known
  · rw [followBindings] at stands
    obtain ⟨varies, asked, -⟩ := Outcome.bind_eq_ok.1 stands
    obtain ⟨data, read, -⟩ := Outcome.map_eq_ok.1 asked
    exact typeData_lt read

/-! ## Cycles -/

/-- Without a variable, a call leads to calls for types that are written in its record. -/
theorem Calls.mentions {outer inner : Call} (calls : tables.Calls outer inner)
    (other : ¬tables.IsTypeVariable outer.id) : tables.Mentions outer.id inner.id := by
  obtain ⟨found, data, stands, known, listed⟩ := calls
  obtain rfl := standIn_eq_of_not_variable stands other
  obtain ⟨ref, -, same, mentioned | ⟨record, rfl⟩⟩ := TypeData.of_mem_calls listed
  · exact ⟨data, known, ref, mentioned, same⟩
  · exact absurd ⟨record, known⟩ other

/-- **Every cycle of calls goes through a type variable**, as no type is written inside itself. -/
theorem recurs_of_cycle (fit : tables.WellFormed) {start call : Call}
    (way : ReflTransGen tables.Calls start call) (cycle : TransGen tables.Calls call call) :
    tables.Recurs start := by
  by_contra free
  have plain : ∀ {other}, ReflTransGen tables.Calls call other → TransGen tables.Calls other other →
      ¬tables.IsTypeVariable other.id :=
    fun there around varies => free ⟨_, varies, way.trans there, around⟩
  have mentions : ∀ {other}, TransGen tables.Calls call other →
      ReflTransGen tables.Calls other call → TransGen tables.Mentions call.id other.id := by
    intro other there back
    induction there with
    | single step => exact .single (step.mentions (plain .refl cycle))
    | tail before step ih =>
      have around := (TransGen.head' step back).trans before
      exact (ih (.head step back)).tail (step.mentions (plain before.to_reflTransGen around))
  exact fit.acyclic call.id (mentions cycle .refl)

/-! ## How deep calls nest -/

/-- Only a call that leads to others can lead to a cycle. -/
theorem Recurs.calls {start : Call} (recurs : tables.Recurs start) :
    ∃ inner, tables.Calls start inner := by
  obtain ⟨call, -, way, cycle⟩ := recurs
  obtain ⟨inner, step, -⟩ := TransGen.head'_iff.1 (TransGen.trans_right way cycle)
  exact ⟨inner, step⟩

/-- All calls with the bindings of given options, and with type arguments like them. -/
def callsLike (tables : Tables) (options : NameOptions) : Finset Call :=
  (Finset.range tables.typeCount ×ˢ (Finset.univ : Finset (Bool × Bool × Bool))).image
    fun (id, bounds, package, inside) => ⟨id, { options with
      definingVariable := bounds
      appendPackage := package
      definingParameterized := inside }⟩

theorem card_callsLike_le (tables : Tables) (options : NameOptions) :
    (tables.callsLike options).card ≤ 8 * tables.typeCount := by
  refine Finset.card_image_le.trans_eq ?_
  rw [Finset.card_product, Finset.card_range, Nat.mul_comm]
  rfl

theorem callsLike_eq {other : NameOptions} (alike : options.Alike other) :
    tables.callsLike other = tables.callsLike options := by
  obtain ⟨map, bounds, package, generics, inside⟩ := other
  obtain ⟨rfl, rfl⟩ := alike
  rfl

theorem mem_callsLike_iff {call : Call} :
    call ∈ tables.callsLike options ↔ call.id < tables.typeCount ∧
      call.options.map = options.map ∧
      call.options.includeGenerics = options.includeGenerics := by
  constructor
  · intro member
    obtain ⟨⟨id, marks⟩, listed, rfl⟩ := Finset.mem_image.1 member
    exact ⟨Finset.mem_range.1 (Finset.mem_product.1 listed).1, rfl, rfl⟩
  · rintro ⟨below, sameMap, sameGenerics⟩
    obtain ⟨id, map, bounds, package, generics, inside⟩ := call
    cases sameMap
    cases sameGenerics
    exact Finset.mem_image.2 ⟨(id, bounds, package, inside),
      Finset.mem_product.2 ⟨Finset.mem_range.2 below, Finset.mem_univ _⟩, rfl⟩

/-- Calls lead to types of the snapshot. -/
theorem Calls.inside (fit : tables.WellFormed) {outer inner : Call}
    (calls : tables.Calls outer inner) : inner.id < tables.typeCount := by
  obtain ⟨found, data, -, known, listed⟩ := calls
  obtain ⟨ref, leads, same, -⟩ := TypeData.of_mem_calls listed
  exact same ▸ fit.inside known ref leads

theorem Calls.keep {outer inner : Call} (calls : tables.Calls outer inner) :
    inner.options.map = outer.options.map ∧
      inner.options.includeGenerics = outer.options.includeGenerics := by
  obtain ⟨found, data, -, -, listed⟩ := calls
  exact TypeData.calls_keep listed

/-- **Where no type variable is written inside itself, calls nest no deeper than there are types and
marks.** -/
theorem within_of_not_recurs (fit : tables.WellFormed) {start : Call}
    (below : start.id < tables.typeCount) (free : ¬tables.Recurs start) :
    Descent.Within tables.Calls (8 * tables.typeCount) start := by
  have short : Descent.Within tables.Calls (tables.callsLike start.options).card start := by
    refine Descent.within_of_acyclic ?_ (mem_callsLike_iff.2 ⟨below, rfl, rfl⟩)
      fun call way cycle => free (recurs_of_cycle fit way cycle)
    intro outer member inner calls
    obtain ⟨-, sameMap, sameGenerics⟩ := mem_callsLike_iff.1 member
    obtain ⟨keepMap, keepGenerics⟩ := calls.keep
    exact mem_callsLike_iff.2
      ⟨calls.inside fit, keepMap.trans sameMap, keepGenerics.trans sameGenerics⟩
  exact short.mono (card_callsLike_le tables start.options)

end Tables

end ClassAtlas

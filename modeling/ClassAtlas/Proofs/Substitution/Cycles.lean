import ClassAtlas.Proofs.Descent
import ClassAtlas.Proofs.Substitution.Range
import Mathlib.Tactic.IntervalCases

/-!
# Maps on cyclic hierarchies

Computing the map of a type ends on every snapshot, whatever its records point to.  The types that
are being computed differ from each other, so no more than all types can be nested, and any number
of levels with room for all of them gives the same (`mapWithin_eq_of_room`).

A map that is given was put together from the maps of the classes above, and these from the maps of
the classes above them, so all ways up from its type end (`ends_of_exhaustive`): a type that reaches
a cycle is given no map.  The other way round, as long as no type has an owner, the types on the
stack are on the way up to the type that is asked for, and a type that is met again lies on a cycle
(`Ascent`).  Both directions are put together in `exhaustive_detects_cycles`.
-/

set_option autoImplicit false

namespace ClassAtlas

open Relation (ReflTransGen TransGen)

namespace Atlas

variable {atlas : Atlas}

/-! ## Levels -/

/-- **Levels are no limit.**  With room for all types, more levels make no difference. -/
theorem mapWithin_eq_of_room {levels more : Nat} {stack : List Nat} (distinct : stack.Nodup)
    (below : ∀ id ∈ stack, id < atlas.tables.typeCount)
    (room : atlas.tables.typeCount < levels + stack.length)
    (moreRoom : atlas.tables.typeCount < more + stack.length) (id : Nat) (maps : MapMemory) :
    atlas.mapWithin levels stack id maps = atlas.mapWithin more stack id maps := by
  have short := Hierarchy.length_le_of_nodup distinct below
  induction levels generalizing more stack id maps with
  | zero => omega
  | succ levels ih =>
    cases more with
    | zero => omega
    | succ more =>
      rw [mapWithin_apply, mapWithin_apply]
      cases maps[id]? with
      | some map => rfl
      | none =>
        by_cases again : stack.contains id = true
        · simp only [again, if_true]
        · have new : id ∉ stack := by simpa using again
          have same :
              atlas.computeMap (atlas.mapWithin levels (id :: stack)) (id :: stack) id maps =
              atlas.computeMap (atlas.mapWithin more (id :: stack)) (id :: stack) id maps := by
            by_cases known : id < atlas.tables.typeCount
            · have inside : ∀ outer ∈ id :: stack, outer < atlas.tables.typeCount :=
                List.forall_mem_cons.2 ⟨known, below⟩
              have distinct := List.nodup_cons.2 ⟨new, distinct⟩
              have nested : atlas.mapWithin levels (id :: stack) =
                  atlas.mapWithin more (id :: stack) := by
                funext other maps
                refine ih distinct inside ?_ ?_ other maps
                  (Hierarchy.length_le_of_nodup distinct inside)
                · rw [List.length_cons]
                  omega
                · rw [List.length_cons]
                  omega
              rw [nested]
            · rw [computeMap, computeMap, Tables.typeData_eq_error known]
              rfl
          simp only [again, same]

theorem mapWithin_eq_exhaustive {levels : Nat} (room : atlas.tables.typeCount < levels) (id : Nat)
    (maps : MapMemory) : atlas.mapWithin levels [] id maps = atlas.exhaustive id maps := by
  refine mapWithin_eq_of_room List.nodup_nil (fun id listed => absurd listed List.not_mem_nil) ?_ ?_
    id maps
  · rw [List.length_nil]
    omega
  · rw [List.length_nil]
    omega

end Atlas

/-! ## A cycle gives no map -/

namespace Tables

variable {tables : Tables}

/-- All ways up from a type end when those from the classes above it do. -/
theorem ends_of_classAbove {id : Nat}
    (above : ∀ other, tables.ClassAbove id other → Descent.Ends tables.Above other) :
    Descent.Ends tables.Above id := by
  refine Acc.intro id fun parent step => ?_
  obtain ⟨data, known, member⟩ := step
  cases data with
  | typeVariable | wildcard => cases member
  | parameterized record =>
    obtain rfl : parent = record.rawType.id := by simpa [TypeData.above] using member
    exact above _ (.rawType known)
  | rawClass cls =>
    obtain ⟨supertype, listed, rfl⟩ := List.mem_map.1 member
    refine Acc.intro supertype.id fun top onward => ?_
    obtain ⟨data, read, member⟩ := onward
    cases data with
    | typeVariable | wildcard => cases member
    | rawClass record =>
      exact (above _ (.supertype known listed (.plain read))).inv ⟨_, read, member⟩
    | parameterized record =>
      obtain rfl : top = record.rawType.id := by simpa [TypeData.above] using member
      exact above _ (.supertype known listed (.applied read))

end Tables

namespace Atlas

variable {atlas : Atlas}

/-- **All ways up from a type that is given a map end.** -/
theorem ends_of_exhaustive {calls : List MapCall} {id : Nat} {map : VarMap}
    (given : (Work.onMaps (atlas.exhaustive id) (atlas.afterCalls calls)).1 = .ok map) :
    Descent.Ends atlas.tables.Above id := by
  have computes : ∀ (nested : Nat → Remembering MapMemory VarMap) (stack : List Nat) (id : Nat),
      (∀ other, atlas.Draws id other →
        Work.Meets (MapMemory.Holds fun id _ => Descent.Ends atlas.tables.Above id) (nested other)
          (fun _ => Descent.Ends atlas.tables.Above other) fun _ => True) →
      Work.Meets (MapMemory.Holds fun id _ => Descent.Ends atlas.tables.Above id)
        (atlas.computeMap nested stack id) (fun _ => Descent.Ends atlas.tables.Above id)
        fun _ => True := by
    intro nested stack id others
    refine (computeMap_draws atlas.closed_trivial (Descent.Ends atlas.tables.Above) id
      fun other step => ?_).mono (fun _ held => Tables.ends_of_classAbove held.2) fun _ same => same
    exact (others other step).mono (fun _ ends => ⟨trivial, ends⟩) fun _ same => same
  exact holds_of_exhaustive computes given

/-! ## A cycle that is found is one -/

/-- What is known about the stack when a type is asked for on the way up from another one: the types
on the stack are below it, and it is a class when there are any. -/
structure Ascent (atlas : Atlas) (start : Nat) (stack : List Nat) (id : Nat) : Prop where
  reached : ReflTransGen atlas.tables.Above start id
  beneath : ∀ outer ∈ stack, atlas.tables.IsClass id ∧ TransGen atlas.tables.Above outer id

theorem Ascent.onward {start id other : Nat} {stack : List Nat}
    (ascent : atlas.Ascent start stack id) (cls : atlas.tables.IsClass other)
    (up : TransGen atlas.tables.Above id other) : atlas.Ascent start (id :: stack) other where
  reached := ascent.reached.trans up.to_reflTransGen
  beneath := List.forall_mem_cons.2
    ⟨⟨cls, up⟩, fun outer listed => ⟨cls, (ascent.beneath outer listed).2.trans up⟩⟩

/-- Where no type has an owner, bindings are taken over from above only. -/
theorem transGen_of_draws (unowned : ∀ id record,
      atlas.tables.typeData id = .ok (.parameterized record) → record.ownerType = none)
    {id other : Nat} (step : atlas.Draws id other) : TransGen atlas.tables.Above id other := by
  have parent : ∀ {supertype : TypeRef} {cls : ClassRecord},
      atlas.tables.typeData id = .ok (.rawClass cls) → supertype ∈ cls.supertypes →
        atlas.tables.Above id supertype.id :=
    fun known listed => ⟨_, known, List.mem_map_of_mem listed⟩
  have rawType : ∀ {id : Nat} {record : ParameterizedRecord},
      atlas.tables.typeData id = .ok (.parameterized record) →
        atlas.tables.Above id record.rawType.id :=
    fun known => ⟨_, known, List.mem_singleton_self _⟩
  cases step.1 with
  | rawType applies =>
    cases applies with
    | itself known => exact .single (rawType known)
    | supertype known listed applied =>
      exact .tail (.single (parent known listed)) (rawType applied)
  | supertype known listed _ => exact .single (parent known listed)
  | owner owned =>
    obtain ⟨record, applies, chained⟩ := owned
    have ownerless : record.ownerType = none := by
      cases applies with
      | itself known => exact unowned _ _ known
      | supertype _ _ applied => exact unowned _ _ applied
    rw [ownerless] at chained
    cases left : atlas.config.ownerLimit <;> rw [left] at chained <;> cases chained

/-! ## Every snapshot -/

variable {snapshot : Snapshot} {fault : Fault → Prop}

/-- What can go wrong on a snapshot apart from a type that inherits from itself. -/
theorem contained_ofSnapshot (read : atlas.tables = .ofSnapshot snapshot)
    (decodes : ∀ cause, fault (.decode cause)) (unknown : ∀ id raw, fault (.unknownType id raw))
    (outside : ∀ id size, fault (.invalidId .types id size))
    (loops : ∀ key hops, fault (.substitutionLoop key hops)) :
    atlas.Contained (fun _ => True) fault where
  reads id := by
    rw [read]
    exact Tables.ofSnapshot_typeData_meets decodes unknown outside snapshot id
  own _ := trivial
  arguments _ _ _ := trivial
  refused := decodes
  loops := loops

/-- The fault of a computation after some calls, when meeting a type again is one of a set. -/
theorem exhaustive_faults (contained : atlas.Contained (fun _ => True) fault)
    (way : List Nat → Nat → Prop)
    (onward : ∀ {stack : List Nat} {id other : Nat}, way stack id → atlas.Draws id other →
      way (id :: stack) other)
    (again : ∀ {stack : List Nat} {id : Nat}, way stack id → id ∈ stack →
      fault (.inheritanceCycle id))
    {id : Nat} (start : way [] id) (calls : List MapCall) {flaw : Fault}
    (outcome : (Work.onMaps (atlas.exhaustive id) (atlas.afterCalls calls)).1 = .error flaw) :
    fault flaw := by
  have anything : MapMemory.Holds (fun _ => VarMap.ValuesIn fun _ => True)
      (atlas.afterCalls calls).maps := fun _ _ _ _ _ _ => trivial
  have meets := (exhaustive_walk contained.closed way onward again start _ anything).2
  have run : (atlas.exhaustive id (atlas.afterCalls calls).maps).1 = .error flaw := outcome
  rwa [run] at meets

theorem exhaustive_ends (read : atlas.tables = .ofSnapshot snapshot) (calls : List MapCall)
    (id : Nat) : Outcome.Ends (Work.onMaps (atlas.exhaustive id) (atlas.afterCalls calls)).1 := by
  have final : atlas.Contained (fun _ => True) Fault.Final :=
    contained_ofSnapshot read (fun _ _ same => nomatch same) (fun _ _ _ same => nomatch same)
      (fun _ _ _ same => nomatch same) fun _ _ _ same => nomatch same
  intro endless outcome
  exact exhaustive_faults final (fun _ _ => True) (fun _ _ => trivial)
    (fun _ _ _ same => nomatch same) trivial calls outcome endless rfl

/-- **Where no type has an owner, a type that is said to inherit from itself does so.** -/
theorem cycle_of_exhaustive (read : atlas.tables = .ofSnapshot snapshot)
    (unowned : ∀ id record, atlas.tables.typeData id = .ok (.parameterized record) →
      record.ownerType = none)
    {calls : List MapCall} {id top : Nat}
    (outcome : (Work.onMaps (atlas.exhaustive id) (atlas.afterCalls calls)).1 =
      .error (.inheritanceCycle top)) :
    atlas.tables.IsClass top ∧ ReflTransGen atlas.tables.Above id top ∧
      TransGen atlas.tables.Above top top := by
  have rightly : atlas.Contained (fun _ => True) fun fault => ∀ top,
      fault = .inheritanceCycle top → atlas.tables.IsClass top ∧
        ReflTransGen atlas.tables.Above id top ∧ TransGen atlas.tables.Above top top :=
    contained_ofSnapshot read (fun _ _ same => nomatch same) (fun _ _ _ same => nomatch same)
      (fun _ _ _ same => nomatch same) fun _ _ _ same => nomatch same
  refine exhaustive_faults rightly (atlas.Ascent id)
    (fun ascent step => ascent.onward step.2 (transGen_of_draws unowned step)) ?_
    ⟨.refl, fun _ listed => absurd listed List.not_mem_nil⟩ calls outcome top rfl
  intro stack met ascent listed top same
  cases same
  obtain ⟨cls, cycle⟩ := ascent.beneath met listed
  exact ⟨cls, ascent.reached, cycle⟩

/-- **Computing a map ends and detects inheritance cycles.**  On every snapshot a type is given a
map or a fault, and no number of levels is the reason.  A type from which the way up reaches a class
that inherits from itself is given a fault.  Where no type has an owner, a type that is said to
inherit from itself is a class, lies above the one that was asked for, and does so. -/
theorem exhaustive_detects_cycles (atlas : Atlas) (read : atlas.tables = .ofSnapshot snapshot)
    (calls : List MapCall) (id : Nat) :
    (Outcome.Ends (Work.onMaps (atlas.exhaustive id) (atlas.afterCalls calls)).1 ∧
      ∀ levels, atlas.tables.typeCount < levels → ∀ maps,
        atlas.mapWithin levels [] id maps = atlas.exhaustive id maps) ∧
    (∀ top, ReflTransGen atlas.tables.Above id top → atlas.tables.IsClass top →
      TransGen atlas.tables.Above top top → ∃ fault,
        (Work.onMaps (atlas.exhaustive id) (atlas.afterCalls calls)).1 = .error fault ∧
          fault.Final) ∧
    ((∀ id record, atlas.tables.typeData id = .ok (.parameterized record) →
        record.ownerType = none) →
      ∀ top, (Work.onMaps (atlas.exhaustive id) (atlas.afterCalls calls)).1 =
          .error (.inheritanceCycle top) →
        atlas.tables.IsClass top ∧ ReflTransGen atlas.tables.Above id top ∧
          TransGen atlas.tables.Above top top) := by
  have ends := exhaustive_ends read calls id
  refine ⟨⟨ends, fun levels room maps => mapWithin_eq_exhaustive room id maps⟩, ?_,
    fun unowned top outcome => cycle_of_exhaustive read unowned outcome⟩
  intro top way _ cycle
  cases outcome : (Work.onMaps (atlas.exhaustive id) (atlas.afterCalls calls)).1 with
  | ok map => exact absurd cycle (Descent.not_cycle_of_ends (ends_of_exhaustive outcome) way)
  | error fault => exact ⟨fault, rfl, Outcome.ends_error.1 (outcome ▸ ends)⟩

/-- A type that is met again while its map is being computed is refused. -/
theorem mapWithin_of_stack {levels : Nat} {stack : List Nat} {id : Nat} {maps : MapMemory}
    (unknown : maps[id]? = none) (listed : id ∈ stack) :
    atlas.mapWithin levels stack id maps = (.error (.inheritanceCycle id), maps) := by
  have again : stack.contains id = true := by simpa using listed
  rw [mapWithin_apply, unknown]
  simp only [again, if_true]

/-- A class is refused when its first supertype is a class that is refused. -/
theorem mapWithin_of_refused {levels : Nat} {stack : List Nat} {id : Nat} {maps after : MapMemory}
    {cls above : ClassRecord} {supertype : TypeRef} {rest : List TypeRef} {flaw : Fault}
    (unknown : maps[id]? = none) (new : id ∉ stack)
    (known : atlas.tables.typeData id = .ok (.rawClass cls))
    (first : cls.supertypes = supertype :: rest)
    (read : atlas.tables.typeData supertype.id = .ok (.rawClass above))
    (refused : atlas.mapWithin levels (id :: stack) supertype.id maps = (.error flaw, after)) :
    atlas.mapWithin (levels + 1) stack id maps = (.error flaw, after) := by
  have unlisted : ¬stack.contains id = true := by simpa using new
  have computed : atlas.computeMap (atlas.mapWithin levels (id :: stack)) (id :: stack) id maps =
      (.error flaw, after) := by
    rw [computeMap, Work.bind_of_ok (Work.lift_eq_ok.2 ⟨known, rfl⟩)]
    refine Work.bind_of_error ?_
    rw [first, mergeSupertypes, Work.bind_of_ok (Work.lift_eq_ok.2 ⟨read, rfl⟩)]
    exact Work.bind_of_error refused
  rw [mapWithin_apply, unknown]
  simp only [if_neg unlisted, computed]

end Atlas

/-- Two classes that extend each other, and a third one that extends the first. -/
def Snapshot.mutualClasses : Snapshot :=
  { empty with
    types := [
      .object [("n", .nat 0), ("s", .nat 1)],
      .object [("n", .nat 1), ("s", .nat 0)],
      .object [("n", .nat 2), ("s", .nat 0)]]
    names := [.text "First", .text "Second", .text "Third"] }

namespace Atlas

/-- The snapshot `mutualClasses` with the usual settings. -/
def mutualClasses : Atlas :=
  ⟨.ofSnapshot .mutualClasses, .default⟩

theorem mutualClasses_unowned (id : Nat) (record : ParameterizedRecord)
    (known : mutualClasses.tables.typeData id = .ok (.parameterized record)) :
    record.ownerType = none := by
  have inside : id < 3 := Tables.typeData_lt known
  interval_cases id <;> cases known

theorem mutualClasses_exhaustive :
    (Work.onMaps (mutualClasses.exhaustive 2) (mutualClasses.afterCalls [])).1 =
      .error (.inheritanceCycle 0) := by
  have again : mutualClasses.mapWithin 2 [1, 0, 2] 0 ∅ = (.error (.inheritanceCycle 0), ∅) :=
    mapWithin_of_stack (by simp) (by decide)
  have second : mutualClasses.mapWithin 3 [0, 2] 1 ∅ = (.error (.inheritanceCycle 0), ∅) :=
    mapWithin_of_refused (by simp) (by decide) rfl rfl rfl again
  have first : mutualClasses.mapWithin 4 [2] 0 ∅ = (.error (.inheritanceCycle 0), ∅) :=
    mapWithin_of_refused (by simp) (by decide) rfl rfl rfl second
  have third : mutualClasses.exhaustive 2 ∅ = (.error (.inheritanceCycle 0), ∅) :=
    mapWithin_of_refused (by simp) (by decide) rfl rfl rfl first
  exact congrArg Prod.fst third

/-- The third class is refused because of the first one, which is above itself.  The second one is
refused in any case. -/
theorem exhaustive_detects_cycles_mutualClasses :
    TransGen mutualClasses.tables.Above 0 0 ∧
      ∃ fault, (Work.onMaps (mutualClasses.exhaustive 1)
        (mutualClasses.afterCalls [.exhaustive 2])).1 = .error fault ∧ fault.Final := by
  have cycle := ((exhaustive_detects_cycles mutualClasses rfl [] 2).2.2 mutualClasses_unowned 0
    mutualClasses_exhaustive).2.2
  refine ⟨cycle, (exhaustive_detects_cycles mutualClasses rfl [.exhaustive 2] 1).2.1 0 ?_ ?_ cycle⟩
  · exact .single ⟨_, rfl, by decide⟩
  · exact ⟨_, rfl⟩

end Atlas

end ClassAtlas

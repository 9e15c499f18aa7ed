import ClassAtlas.Proofs.Rendering.Termination
import ClassAtlas.Proofs.Substitution.History
import ClassAtlas.TypeView
import Mathlib.Tactic.IntervalCases

/-!
# When naming ends

The name of a type is written with what its type variables stand for.  Whatever was named before,
naming ends exactly when no type variable is written inside itself that way
(`Atlas.naming_ends_iff`).

The bindings of a type can do that: a class applied to a wildcard that is bounded by the variable of
the class has the variable stand for a type that mentions it (`Snapshot.superBound`).
-/

set_option autoImplicit false

namespace ClassAtlas

/-! ## Bindings -/

theorem Work.onMaps_of_eq {α : Type} {step : Remembering MapMemory α} {memory : Memory}
    {outcome : Except Fault α} {maps : MapMemory} (run : step memory.maps = (outcome, maps)) :
    Work.onMaps step memory = (outcome, { memory with maps := maps }) := by
  simp only [Work.onMaps, run]

/-- A step on the remembered maps keeps what is remembered sound. -/
theorem Work.onMaps_meets {α : Type} {tables : Tables} {step : Remembering MapMemory α}
    {result : α → Prop} {fault : Fault → Prop}
    (meets : Work.Meets (MapMemory.Inside tables.typeCount) step result fault) :
    Work.Meets (Memory.Sound tables) (Work.onMaps step) result fault := by
  intro memory sound
  obtain ⟨kept, outcome⟩ := meets memory.maps sound.maps
  exact ⟨⟨kept, sound.texts⟩, outcome⟩

namespace TypeView

variable {atlas : Atlas} {view : TypeView}

/-- What the type variables stand for in a view are types of the snapshot. -/
theorem variableMap_meets (fit : atlas.tables.WellFormed)
    (outside : view.outer.Inside atlas.tables.typeCount) :
    Work.Meets (Memory.Sound atlas.tables) (view.variableMap atlas)
      (VarMap.Inside atlas.tables.typeCount) Fault.Final := by
  have own : Work.Meets (Memory.Sound atlas.tables) (atlas.typeVariableMap view.ref.id)
      (VarMap.Inside atlas.tables.typeCount) Fault.Final :=
    (Work.onMaps_meets (Atlas.exhaustive_meets fit view.ref.id)).bind fun map inside =>
      Work.meets_pure inside.stripSelf
  exact own.bind fun map inside => Work.meets_pure (inside.override outside).stripSelf

theorem nameOptions_meets (fit : atlas.tables.WellFormed)
    (outside : view.outer.Inside atlas.tables.typeCount) (appendPackage includeGenerics : Bool) :
    Work.Meets (Memory.Sound atlas.tables) (view.nameOptions atlas appendPackage includeGenerics)
      (fun options => options.map.Inside atlas.tables.typeCount) Fault.Final :=
  (variableMap_meets fit outside).bind fun _ inside => Work.meets_pure inside

theorem nameOptions_of_map {memory after : Memory} {own : VarMap}
    (found : atlas.typeVariableMap view.ref.id memory = (.ok own, after))
    (appendPackage includeGenerics : Bool) :
    view.nameOptions atlas appendPackage includeGenerics memory =
      (.ok ⟨(own.override view.outer).stripSelf, false, appendPackage, includeGenerics, false⟩,
        after) :=
  Work.bind_eq_ok.2 ⟨_, _, Work.bind_eq_ok.2 ⟨_, _, found, rfl⟩, rfl⟩

/-! ## Names of views -/

/-- The calls of the renderer for a name: for the type, and for the variables that a class
declares. -/
def calls (view : TypeView) (options : NameOptions) : List Call :=
  ⟨view.ref.id, options⟩ ::
    if options.includeGenerics then options.calls (view.data.declaredVariables.map TypeRef.plain)
    else []

/-- The variables that a class declares can be written. -/
theorem mem_leadsTo_of_declared {data : TypeData} {ref : TypeRef}
    (listed : ref ∈ data.declaredVariables.map TypeRef.plain) : ref ∈ data.leadsTo := by
  cases data with
  | rawClass record => exact List.mem_append_right _ listed
  | parameterized | typeVariable | wildcard => cases listed

variable {options : NameOptions}

theorem declaredSuffix_writes (fit : atlas.tables.WellFormed)
    (known : atlas.tables.typeData view.ref.id = .ok view.data)
    (inside : options.map.Inside atlas.tables.typeCount) :
    atlas.tables.Writes (∀ call ∈ view.calls options, ¬atlas.tables.Recurs call)
      (view.declaredSuffix atlas options)
      (∀ call ∈ (view.calls options).tail, ¬atlas.tables.Recurs call) := by
  rw [declaredSuffix, calls, List.tail_cons]
  by_cases generic : options.includeGenerics = true
  · have asked : (view.data.declaredVariables.isEmpty || !options.includeGenerics) =
        view.data.declaredVariables.isEmpty := by
      rw [generic, Bool.not_true, Bool.or_false]
    rw [if_pos generic, asked]
    split
    · next bare =>
      rw [List.isEmpty_iff.1 bare]
      exact Tables.writes_pure (List.forall_mem_nil _)
    · refine (Tables.renderJoined_writes ", " fun ref listed => ?_).bind fun parts free =>
        Tables.writes_pure free
      refine (Tables.render_writes fit (fit.inside known ref (mem_leadsTo_of_declared listed))
        inside).shorten fun free => ?_
      exact free _ (List.mem_cons_of_mem _ (List.mem_map_of_mem listed))
  · have unasked : (view.data.declaredVariables.isEmpty || !options.includeGenerics) = true := by
      rw [Bool.not_eq_true] at generic
      rw [generic, Bool.not_false, Bool.or_true]
    rw [if_neg generic, if_pos unasked]
    exact Tables.writes_pure (List.forall_mem_nil _)

/-- **A name is written exactly when none of its calls leads to a type variable that is written
inside itself.** -/
theorem nameWith_writes (fit : atlas.tables.WellFormed)
    (known : atlas.tables.typeData view.ref.id = .ok view.data)
    (inside : options.map.Inside atlas.tables.typeCount) :
    atlas.tables.Writes (∀ call ∈ view.calls options, ¬atlas.tables.Recurs call)
      (view.nameWith atlas options) (∀ call ∈ view.calls options, ¬atlas.tables.Recurs call) := by
  have below : view.ref.element.id < atlas.tables.typeCount := Tables.typeData_lt known
  have base := (Tables.render_writes fit below inside).shorten
    fun free : ∀ call ∈ view.calls options, ¬atlas.tables.Recurs call => free _ List.mem_cons_self
  refine base.bind fun text first => ?_
  refine (declaredSuffix_writes fit known inside).bind fun suffix rest => ?_
  exact Tables.writes_pure (List.forall_mem_cons.2 ⟨first, rest⟩)

end TypeView

/-! ## Requests -/

/-- A request for the name of a type, with its package or without. -/
structure NameRequest where
  ref : TypeRef
  qualified : Bool

namespace Atlas

/-- The answer to a request: the reference name or the short one. -/
def naming (atlas : Atlas) (request : NameRequest) : Work String := do
  let view ← Work.lift (atlas.tables.view request.ref)
  if request.qualified then view.referenceName atlas else view.name atlas

/-- What is remembered after some requests, whether they gave a name or failed. -/
def afterNaming (atlas : Atlas) (requests : List NameRequest) : Memory :=
  requests.foldl (fun memory request => (atlas.naming request memory).2) .empty

/-- With the bindings that its type has, a request leads to a type variable that is written inside
itself. -/
def Recurs (atlas : Atlas) (request : NameRequest) (memory : Memory) : Prop :=
  ∃ view options, atlas.tables.view request.ref = .ok view ∧
    (view.nameOptions atlas request.qualified true memory).1 = .ok options ∧
      ∃ call ∈ view.calls options, atlas.tables.Recurs call

variable {atlas : Atlas}

/-- A type is seen with its record and without bindings from outside. -/
theorem view_meets (fit : atlas.tables.WellFormed) (ref : TypeRef) :
    Outcome.Meets (atlas.tables.view ref) (fun view => view.outer = .empty ∧
      atlas.tables.typeData view.ref.id = .ok view.data) Fault.Final := by
  have reads := fit.typeData_meets ref.id
  rw [Tables.view]
  cases known : atlas.tables.typeData ref.id with
  | error flaw => rwa [known] at reads
  | ok data => exact ⟨rfl, known⟩

/-- Both names are written alike, the one with packages and the other without. -/
theorem naming_eq {request : NameRequest} {view : TypeView}
    (seen : atlas.tables.view request.ref = .ok view) :
    atlas.naming request =
      view.nameOptions atlas request.qualified true >>= view.nameWith atlas := by
  rw [naming, seen]
  obtain ⟨ref, qualified⟩ := request
  cases qualified with
  | true => rfl
  | false => rfl

theorem recurs_iff {request : NameRequest} {memory : Memory} {view : TypeView}
    (seen : atlas.tables.view request.ref = .ok view) :
    atlas.Recurs request memory ↔
      ∃ options, (view.nameOptions atlas request.qualified true memory).1 = .ok options ∧
        ∃ call ∈ view.calls options, atlas.tables.Recurs call := by
  constructor
  · rintro ⟨view', options, other, rest⟩
    cases seen.symm.trans other
    exact ⟨options, rest⟩
  · rintro ⟨options, rest⟩
    exact ⟨view, options, seen, rest⟩

/-- One request keeps what is remembered sound, and it is answered unless it leads to a type
variable that is written inside itself. -/
theorem naming_step (fit : atlas.tables.WellFormed) (request : NameRequest) {memory : Memory}
    (sound : memory.Sound atlas.tables) :
    (atlas.naming request memory).2.Sound atlas.tables ∧
      (¬atlas.Recurs request memory → Outcome.Ends (atlas.naming request memory).1) ∧
      (atlas.Recurs request memory → (∀ text, (atlas.naming request memory).1 ≠ .ok text) ∧
        (atlas.tables.Named → ¬Outcome.Ends (atlas.naming request memory).1)) := by
  have views := view_meets fit request.ref
  cases seen : atlas.tables.view request.ref with
  | error flaw =>
    rw [seen] at views
    have fails : atlas.naming request memory = (.error flaw, memory) := by
      rw [naming, seen]
      rfl
    rw [fails]
    refine ⟨sound, fun _ => Outcome.ends_error.2 views, ?_⟩
    rintro ⟨view, options, other, -⟩
    cases seen.symm.trans other
  | ok view =>
    rw [seen] at views
    obtain ⟨bare, known⟩ := views
    have asked := TypeView.nameOptions_meets fit (bare ▸ VarMap.inside_empty) request.qualified
      true memory sound
    rw [naming_eq seen, Work.bind_apply]
    rcases run : view.nameOptions atlas request.qualified true memory with ⟨flaw | options, between⟩
    · rw [run] at asked
      refine ⟨asked.1, fun _ => Outcome.ends_error.2 asked.2, ?_⟩
      rw [recurs_iff seen, run]
      simp
    · rw [run] at asked
      obtain ⟨kept, inside⟩ : between.Sound atlas.tables ∧ _ := asked
      have writes := TypeView.nameWith_writes fit known inside
      have after := writes.keeps kept
      have ends := writes.ends kept
      have noText := writes.not_ok kept
      have endless := writes.not_ends kept
      have recurs : atlas.Recurs request memory ↔
          ¬∀ call ∈ view.calls options, ¬atlas.tables.Recurs call := by
        rw [recurs_iff seen, run]
        simp
      rw [recurs, not_not]
      exact ⟨after, ends, fun undone => ⟨noText undone, endless undone⟩⟩

/-- **Naming a type ends exactly when no type variable is written inside itself**, whatever was
named before: then it gives a text or a fault that says what is wrong.  Otherwise it gives no text,
and when all names can be put together it does not end. -/
theorem naming_ends_iff (atlas : Atlas) (fit : atlas.tables.WellFormed)
    (earlier : List NameRequest) (request : NameRequest) :
    (¬atlas.Recurs request (atlas.afterNaming earlier) →
      Outcome.Ends (atlas.naming request (atlas.afterNaming earlier)).1) ∧
    (atlas.Recurs request (atlas.afterNaming earlier) →
      (∀ text, (atlas.naming request (atlas.afterNaming earlier)).1 ≠ .ok text) ∧
      (atlas.tables.Named →
        ¬Outcome.Ends (atlas.naming request (atlas.afterNaming earlier)).1)) := by
  have sound : (atlas.afterNaming earlier).Sound atlas.tables :=
    List.foldlRecOn (motive := Memory.Sound atlas.tables) earlier _
      (Memory.sound_empty atlas.tables) fun memory sound request _ =>
        (naming_step fit request sound).1
  exact (naming_step fit request sound).2

end Atlas

/-! ### A variable inside its own binding -/

/-- A class with one variable, and the class applied to a wildcard that this variable bounds from
below. -/
def Snapshot.superBound : Snapshot :=
  { empty with
    types := [
      .object [("n", .nat 0), ("v", .array [.nat 1])],
      .object [("tv", .nat 1)],
      .object [("l", .nat 1)],
      .object [("r", .nat 0), ("v", .array [.nat 2])]]
    names := [.text "List", .text "T"] }

/-- The snapshot `superBound` with the usual settings. -/
def Atlas.superBound : Atlas :=
  ⟨.ofSnapshot .superBound, .default⟩

namespace Atlas

theorem superBound_wellFormed : superBound.tables.WellFormed :=
  .of_behind (by decide)

theorem superBound_named : superBound.tables.Named where
  typeVariables := by
    intro id record known
    have inside : id < 4 := Tables.typeData_lt known
    interval_cases id <;> cases known
    exact ⟨"T", Tables.resolveName_text rfl chainLimit⟩
  classes := by
    intro id record known
    have inside : id < 4 := Tables.typeData_lt known
    interval_cases id <;> cases known
    exact ⟨"List", Tables.resolveName_text rfl chainLimit⟩
  packages := by
    intro id record known
    have inside : id < 4 := Tables.typeData_lt known
    interval_cases id <;> cases known
    intro package written
    cases written

/-- The variable of the class stands for the wildcard that mentions it. -/
theorem superBound_typeVariableMap :
    ∃ memory, superBound.typeVariableMap 3 .empty =
      (.ok (VarMap.empty.insert 1 (.plain 2)), memory) := by
  have alone : superBound.mapAlone 2 3 = .ok (VarMap.empty.insert 1 (.plain 2)) := rfl
  obtain ⟨maps, own⟩ :=
    typeVariableMap_of_exhaustive (exhaustive_of_mapAlone superBound_wellFormed alone)
  exact ⟨_, own⟩

/-- The text of the class with its argument leads to the variable of the class, and from there to
the wildcard that the variable stands for and back again. -/
theorem superBound_recurs (qualified : Bool) :
    superBound.Recurs ⟨.plain 3, qualified⟩ .empty := by
  obtain ⟨memory, own⟩ := superBound_typeVariableMap
  let map := VarMap.empty.insert 1 (.plain 2)
  let outside : NameOptions := ⟨map, false, qualified, true, false⟩
  let inside : NameOptions := ⟨map, false, qualified, true, true⟩
  let view : TypeView := ⟨.plain 3, .parameterized ⟨.plain 0, none, [.plain 2]⟩, .empty⟩
  have bindings : superBound.typeVariableMap view.ref.id .empty = (.ok map, memory) := own
  have options := TypeView.nameOptions_of_map bindings qualified true
  have argument : superBound.tables.Calls ⟨3, outside⟩ ⟨2, inside⟩ :=
    ⟨_, _, rfl, rfl, .tail _ (.head _)⟩
  have bound : superBound.tables.Calls ⟨2, inside⟩ ⟨1, inside⟩ := ⟨_, _, rfl, rfl, .head _⟩
  have again : superBound.tables.Calls ⟨1, inside⟩ ⟨1, inside⟩ := ⟨_, _, rfl, rfl, .head _⟩
  exact ⟨view, outside, rfl, congrArg Prod.fst options, ⟨3, outside⟩, .head _, ⟨1, inside⟩,
    ⟨_, rfl⟩, .tail (.single argument) bound, .single again⟩

/-- The class alone leads nowhere. -/
theorem superBound_not_recurs (qualified : Bool) :
    ¬superBound.Recurs ⟨.plain 0, qualified⟩ .empty := by
  rintro ⟨view, options, seen, given, call, listed, recurs⟩
  cases seen
  have exhausted : superBound.exhaustive 0 ∅ = (.ok .empty, (∅ : MapMemory).insert 0 .empty) :=
    mapWithin_of_computeMap Std.HashMap.getElem?_empty List.not_mem_nil rfl
  have own : superBound.typeVariableMap 0 .empty = (.ok .empty, _) :=
    Work.bind_eq_ok.2 ⟨_, _, Work.onMaps_of_eq exhausted, rfl⟩
  rw [TypeView.nameOptions_of_map own] at given
  cases given
  obtain ⟨inner, found, data, stands, known, part⟩ := recurs.calls
  rcases List.mem_cons.1 listed with rfl | listed
  · obtain rfl : TypeRef.plain 0 = found := Except.ok.inj stands
    cases known
    cases part
  · obtain rfl := List.mem_singleton.1 listed
    obtain rfl : TypeRef.plain 1 = found := Except.ok.inj stands
    cases known
    cases part

/-- **Naming the class with its argument does not end.** -/
theorem naming_endless_superBound :
    superBound.tables.WellFormed ∧
      ∀ qualified, ¬Outcome.Ends (superBound.naming ⟨.plain 3, qualified⟩ .empty).1 := by
  refine ⟨superBound_wellFormed, fun qualified => ?_⟩
  have step := naming_step superBound_wellFormed ⟨.plain 3, qualified⟩ (Memory.sound_empty _)
  exact (step.2.2 (superBound_recurs qualified)).2 superBound_named

theorem naming_ends_iff_superBound :
    Outcome.Ends (superBound.naming ⟨.plain 0, true⟩ (superBound.afterNaming [])).1 ∧
      ¬Outcome.Ends (superBound.naming ⟨.plain 3, true⟩ (superBound.afterNaming [])).1 :=
  ⟨(naming_ends_iff superBound superBound_wellFormed [] ⟨.plain 0, true⟩).1
      (superBound_not_recurs true),
    ((naming_ends_iff superBound superBound_wellFormed [] ⟨.plain 3, true⟩).2
      (superBound_recurs true)).2 superBound_named⟩

end Atlas

end ClassAtlas

import ClassAtlas.Proofs.Recall.Lookup
import ClassAtlas.Proofs.Rendering.Texts

/-!
# Names and what was asked before

Where no owner leads back to the types that are made with it and the names of the types are within
the limit, a snapshot is steadfast (`Atlas.Steadfast`): the map of a type, the names that it goes by
and whether it has a given name do not depend on what was asked before.  Each of these questions has
one answer, or it always fails (`TypeView.steady_asked`).

A well-formed snapshot where all names can be put together is steadfast.  On such a snapshot the
name without package and declaring class and the package itself never fail (`simpleName_always`,
`packageName_always`).
-/

set_option autoImplicit false

namespace ClassAtlas

namespace Atlas

variable {atlas : Atlas}

/-- Snapshots of which every question about a type has one answer: no owner leads back, and names
are within the limit. -/
structure Steadfast (atlas : Atlas) : Prop where
  detached : ∀ id, atlas.Detached id
  legible : atlas.tables.Legible

theorem steadfast_of_wellFormed (fit : atlas.tables.WellFormed) (named : atlas.tables.Named) :
    atlas.Steadfast :=
  ⟨fun id => (ownersApart_of_wellFormed fit id).detached, named.legible⟩

/-! ## Maps -/

/-- A steady step on settled maps is steady where the maps in memory are settled. -/
theorem onMaps_steady {sound : Memory → Prop} {α : Type} {step : Remembering MapMemory α}
    {result : α → Prop}
    (settled : ∀ {memory : Memory}, sound memory → MapMemory.Settled atlas memory.maps)
    (kept : ∀ {memory : Memory} {maps : MapMemory}, sound memory → MapMemory.Settled atlas maps →
      sound { memory with maps := maps })
    (steady : Work.Steady (MapMemory.Settled atlas) step result) :
    Work.Steady sound (Work.onMaps step) result := by
  obtain ⟨answer, holds, meets⟩ := steady
  refine ⟨answer, holds, fun memory start => ?_⟩
  obtain ⟨after, outcome⟩ := meets memory.maps (settled start)
  exact ⟨kept start after, outcome⟩

/-- The full map of a type is the one that it settles to, and there is a fault only when it settles
to none. -/
theorem exhaustive_settles {id : Nat} (detached : atlas.Detached id) :
    Work.Steady (MapMemory.Settled atlas) (atlas.exhaustive id) (atlas.Settles id) := by
  refine Work.steady_of_unique (atlas.Settles id) (∃ map, atlas.Settles id map)
    (fun _ _ => Settles.unique) (fun _ settles => settles) fun maps settled => ?_
  have gives := exhaustive_ok_iff detached settled
  refine ⟨(mapWithin_settles _ [] detached (by simp) maps settled).1, ?_⟩
  cases given : (atlas.exhaustive id maps).1 with
  | ok map =>
    have settles := (gives map).1 given
    exact ⟨settles, map, settles⟩
  | error flaw =>
    rintro ⟨map, settles⟩
    cases given.symm.trans ((gives map).2 settles)

variable (steadfast : atlas.Steadfast)

include steadfast

/-- A type always has the same full map, or none. -/
theorem exhaustive_steady (id : Nat) :
    Work.Steady (Memory.Faithful atlas) (Work.onMaps (atlas.exhaustive id)) (atlas.Settles id) :=
  onMaps_steady (fun faithful => faithful.maps) (fun faithful settled =>
    { faithful with maps := settled }) (exhaustive_settles (steadfast.detached id))

theorem typeVariableMap_steady (id : Nat) :
    Work.Steady (Memory.Faithful atlas) (atlas.typeVariableMap id) fun _ => True :=
  (exhaustive_steady steadfast id).bind fun _ _ => Work.steady_pure trivial

end Atlas

/-! ## Questions to a type -/

namespace TypeView

variable {atlas : Atlas} {view : TypeView} (steadfast : atlas.Steadfast)

include steadfast

/-- On a steadfast snapshot every question to a type has one answer. -/
theorem steady_asked :
    atlas.Asked fun step => Work.Steady (Memory.Faithful atlas) step fun _ => True where
  lift outcome := (Work.steady_lift outcome).anything
  bind first next := first.bind fun value _ => next value
  className known := (Tables.name_steady (steadfast.legible.classes known)).anything
  variableName known := (Tables.name_steady (steadfast.legible.typeVariables known)).anything
  package known package written :=
    (Tables.packageName_steady (steadfast.legible.packages known package written)).anything
  map := Atlas.typeVariableMap_steady steadfast
  text ref options := (Tables.render_steady steadfast.legible ref options).anything

theorem variableMap_steady :
    Work.Steady (Memory.Faithful atlas) (view.variableMap atlas) fun _ => True :=
  (steady_asked steadfast).variableMap view

theorem nameOptions_steady (appendPackage includeGenerics : Bool) :
    Work.Steady (Memory.Faithful atlas) (view.nameOptions atlas appendPackage includeGenerics)
      fun _ => True :=
  (steady_asked steadfast).nameOptions view appendPackage includeGenerics

theorem nameWith_steady (options : NameOptions) :
    Work.Steady (Memory.Faithful atlas) (view.nameWith atlas options) fun _ => True :=
  (steady_asked steadfast).nameWith view options

/-- A name with a choice of package and type arguments. -/
theorem nameOptions_bind_steady (appendPackage includeGenerics : Bool) :
    Work.Steady (Memory.Faithful atlas)
      (view.nameOptions atlas appendPackage includeGenerics >>= view.nameWith atlas)
      fun _ => True :=
  (steady_asked steadfast).naming view appendPackage includeGenerics

theorem simpleName_steady :
    Work.Steady (Memory.Faithful atlas) (view.simpleName atlas) fun _ => True :=
  (steady_asked steadfast).simpleName view

theorem packageName_steady :
    Work.Steady (Memory.Faithful atlas) (view.packageName atlas) fun _ => True :=
  (steady_asked steadfast).packageName view

end TypeView

/-! ## Names that never fail -/

namespace Tables

variable {atlas : Atlas}

theorem Mentions.inside (fit : atlas.tables.WellFormed) {outer inner : Nat}
    (mentions : atlas.tables.Mentions outer inner) : inner < atlas.tables.typeCount := by
  obtain ⟨data, known, ref, listed, rfl⟩ := mentions
  refine fit.inside known ref ?_
  cases data with
  | rawClass record => exact List.mem_append_left _ listed
  | typeVariable record => cases listed
  | parameterized | wildcard => exact listed

/-- What is written inside a type is nested no deeper than there are types. -/
theorem within_mentions (fit : atlas.tables.WellFormed) {id : Nat}
    (below : id < atlas.tables.typeCount) :
    Descent.Within atlas.tables.Mentions atlas.tables.typeCount id := by
  have within : Descent.Within atlas.tables.Mentions
      (Finset.range atlas.tables.typeCount).card id :=
    Descent.within_of_acyclic (fun _ _ _ step => Finset.mem_range.2 (step.inside fit))
      (Finset.mem_range.2 below) fun node _ => fit.acyclic node
  rwa [Finset.card_range] at within

variable (fit : atlas.tables.WellFormed) (named : atlas.tables.Named)

include fit named

theorem simpleNameWithin_always {levels id : Nat} (below : id < atlas.tables.typeCount)
    (within : Descent.Within atlas.tables.Mentions levels id) :
    ∃ text, Work.Always (Memory.Faithful atlas) (atlas.tables.simpleNameWithin levels id) text := by
  induction levels generalizing id with
  | zero => cases within
  | succ levels ih =>
    obtain ⟨data, known⟩ := fit.decodes id below
    have inner : ∀ ref ∈ data.mentions, ∃ text, Work.Always (Memory.Faithful atlas)
        (atlas.tables.simpleNameWithin levels ref.id) text := by
      intro ref listed
      have step : atlas.tables.Mentions id ref.id := ⟨data, known, ref, listed, rfl⟩
      exact ih (step.inside fit) (within ref.id step)
    rw [simpleNameWithin, known]
    cases data with
    | wildcard record => exact ⟨_, Work.always_pure _⟩
    | typeVariable record =>
      obtain ⟨text, resolves⟩ := named.typeVariables known
      exact ⟨text, name_always resolves⟩
    | rawClass record =>
      obtain ⟨text, resolves⟩ := named.classes known
      exact ⟨text, name_always resolves⟩
    | parameterized record =>
      obtain ⟨name, own⟩ := inner record.rawType List.mem_cons_self
      cases owned : record.ownerType with
      | none =>
        refine ⟨name, own.bind ?_⟩
        simp only [owned]
        exact Work.always_pure name
      | some owner =>
        obtain ⟨outer, around⟩ := inner owner
          (List.mem_cons_of_mem _ (List.mem_append_left _ (by simp [owned])))
        refine ⟨s!"{outer}${name}", own.bind ?_⟩
        simp only [owned]
        exact around.bind (Work.always_pure _)

theorem packageWithin_always {levels id : Nat} (below : id < atlas.tables.typeCount)
    (within : Descent.Within atlas.tables.Mentions levels id) :
    ∃ text, Work.Always (Memory.Faithful atlas) (atlas.tables.packageWithin levels id) text := by
  induction levels generalizing id with
  | zero => cases within
  | succ levels ih =>
    obtain ⟨data, known⟩ := fit.decodes id below
    rw [packageWithin, known]
    cases data with
    | wildcard | typeVariable => exact ⟨_, Work.always_pure _⟩
    | rawClass record =>
      cases written : record.package with
      | none =>
        refine ⟨"", (Work.always_lift rfl).bind ?_⟩
        simp only [written]
        exact Work.always_pure ""
      | some package =>
        obtain ⟨text, resolves⟩ := named.packages known package written
        refine ⟨text, (Work.always_lift rfl).bind ?_⟩
        simp only [written]
        exact packageName_always resolves
    | parameterized record =>
      have step : atlas.tables.Mentions id record.rawType.id :=
        ⟨_, known, record.rawType, List.mem_cons_self, rfl⟩
      exact ih (step.inside fit) (within record.rawType.id step)

end Tables

namespace TypeView

variable {atlas : Atlas} {view : TypeView} (fit : atlas.tables.WellFormed)
  (named : atlas.tables.Named) (known : atlas.tables.typeData view.ref.id = .ok view.data)

include fit named known

theorem simpleName_always :
    ∃ text, Work.Always (Memory.Faithful atlas) (view.simpleName atlas) text := by
  have below := Tables.typeData_lt known
  obtain ⟨name, always⟩ := Tables.simpleNameWithin_always fit named below
    ((Tables.within_mentions fit below).mono (Nat.le_succ _))
  exact ⟨_, always.bind (Work.always_pure _)⟩

theorem packageName_always :
    ∃ text, Work.Always (Memory.Faithful atlas) (view.packageName atlas) text := by
  have below := Tables.typeData_lt known
  exact Tables.packageWithin_always fit named below
    ((Tables.within_mentions fit below).mono (Nat.le_succ _))

end TypeView

end ClassAtlas

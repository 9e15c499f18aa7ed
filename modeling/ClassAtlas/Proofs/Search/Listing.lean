import ClassAtlas.Proofs.Descent
import ClassAtlas.Proofs.Search.Visits

/-!
# Listing hits

Hits are listed by keys that are asked for one after the other.  A name that cannot be given counts
as empty, so a listing loses no hit and adds none.  What it cannot go on from is a name without end,
and only simple names can be such: that of a parameterized type is made of those of its class and of
its owner, and when one of these is made of itself the name is never complete.  Where no listed type
is named after itself, a listing gives a result (`SearchHits.sorted_meets`, `simpleName_final`).
-/

set_option autoImplicit false

namespace ClassAtlas

open Relation (ReflTransGen TransGen)

/-! ## Simple names -/

/-- The types whose simple names the simple name of a type is made of. -/
def TypeData.nameParts : TypeData → List TypeRef
  | .parameterized record => record.rawType :: record.ownerType.toList
  | _ => []

namespace Tables

/-- The simple name of a type is made of that of another one. -/
def NamedBy (tables : Tables) (id part : Nat) : Prop :=
  ∃ data, tables.typeData id = .ok data ∧ ∃ ref ∈ data.nameParts, ref.id = part

/-- The simple name of a type is made of one that is made of itself. -/
def NamesItself (tables : Tables) (id : Nat) : Prop :=
  ∃ part, ReflTransGen tables.NamedBy id part ∧ TransGen tables.NamedBy part part

/-- Reading a type gives its record or a fault of its own. -/
def Reads (tables : Tables) : Prop :=
  ∀ id, Outcome.Meets (tables.typeData id) (fun data => tables.typeData id = .ok data) Fault.Final

theorem ofSnapshot_reads (snapshot : Snapshot) : (ofSnapshot snapshot).Reads := by
  intro id
  have meets : Outcome.Meets ((ofSnapshot snapshot).typeData id) (fun _ => True) Fault.Final :=
    ofSnapshot_typeData_meets (fun _ _ same => nomatch same) (fun _ _ _ same => nomatch same)
      (fun _ _ _ same => nomatch same) snapshot id
  cases read : (ofSnapshot snapshot).typeData id with
  | ok data => rfl
  | error flaw => rwa [read] at meets

variable {tables : Tables}

theorem simpleNameWithin_final_outside {id : Nat} (outside : ¬id < tables.typeCount)
    (levels : Nat) :
    Work.Meets (fun _ => True) (tables.simpleNameWithin (levels + 1) id) (fun _ => True)
      Fault.Final := by
  intro memory _
  rw [simpleNameWithin, Work.bind_apply, typeData_eq_error outside]
  exact ⟨trivial, fun other same => nomatch same⟩

theorem name_final (id : Nat) :
    Work.Meets (fun _ => True) (tables.name id) (fun _ => True) Fault.Final :=
  (name_meets (fun _ _ _ => trivial) id).mono (fun _ _ => trivial) fun _ fails => fails.1

theorem optionalName_final (id : Option Nat) :
    Work.Meets (fun _ => True) (tables.optionalName id) (fun _ => True) Fault.Final := by
  cases id with
  | none => exact Work.meets_pure trivial
  | some id => exact (name_final id).bind fun text _ => Work.meets_pure trivial

/-- The simple name of a type that is not named after itself is made of those of types that are
nested no deeper than there are types. -/
theorem within_namedBy {id : Nat} (inside : id < tables.typeCount)
    (proper : ¬tables.NamesItself id) :
    Descent.Within (fun outer part => tables.NamedBy outer part ∧ part < tables.typeCount)
      tables.typeCount id := by
  have within : Descent.Within (fun outer part => tables.NamedBy outer part ∧
      part < tables.typeCount) (Finset.range tables.typeCount).card id :=
    Descent.within_of_acyclic (fun _ _ _ step => Finset.mem_range.2 step.2)
      (Finset.mem_range.2 inside) fun part way cycle => proper
        ⟨part, way.lift (·) fun _ _ step => step.1, cycle.lift (·) fun _ _ step => step.1⟩
  rwa [Finset.card_range] at within

/-- A simple name ends when it is made of names of types that are nested less deep.  Types that the
snapshot does not have end a name at once, so they need no level. -/
theorem simpleNameWithin_final (reads : tables.Reads) {levels id : Nat}
    (within : Descent.Within (fun outer part => tables.NamedBy outer part ∧
      part < tables.typeCount) levels id) :
    Work.Meets (fun _ => True) (tables.simpleNameWithin (levels + 1) id) (fun _ => True)
      Fault.Final := by
  induction levels generalizing id with
  | zero => cases within
  | succ levels ih =>
    refine (Work.meets_lift (reads id)).bind fun data known => ?_
    have parts : ∀ ref ∈ data.nameParts, Work.Meets (fun _ => True)
        (tables.simpleNameWithin (levels + 1) ref.id) (fun _ => True) Fault.Final := by
      intro ref listed
      by_cases inside : ref.id < tables.typeCount
      · exact ih (within ref.id ⟨⟨data, known, ref, listed, rfl⟩, inside⟩)
      · exact simpleNameWithin_final_outside inside levels
    cases data with
    | wildcard record => exact Work.meets_pure trivial
    | typeVariable record => exact name_final record.name
    | rawClass record => exact name_final record.name
    | parameterized record =>
      refine (parts record.rawType List.mem_cons_self).bind fun name _ => ?_
      cases owned : record.ownerType with
      | none => exact Work.meets_pure trivial
      | some owner =>
        have listed : owner ∈ (TypeData.parameterized record).nameParts := by
          simp [TypeData.nameParts, owned]
        exact (parts owner listed).bind fun outer _ => Work.meets_pure trivial

end Tables

/-- **A simple name ends when the type is not named after itself.** -/
theorem TypeView.simpleName_final {atlas : Atlas} {view : TypeView}
    (reads : atlas.tables.Reads) (proper : ¬atlas.tables.NamesItself view.ref.id) :
    Work.Meets (fun _ => True) (view.simpleName atlas) (fun _ => True) Fault.Final := by
  have named : Work.Meets (fun _ => True)
      (atlas.tables.simpleNameWithin (atlas.tables.typeCount + 1) view.ref.id) (fun _ => True)
      Fault.Final := by
    by_cases inside : view.ref.id < atlas.tables.typeCount
    · exact Tables.simpleNameWithin_final reads (Tables.within_namedBy inside proper)
    · exact Tables.simpleNameWithin_final_outside inside _
  exact named.bind fun name _ => Work.meets_pure trivial

/-! ## Keys -/

section

variable {invariant : Memory → Prop} {fault : Fault → Prop}

/-- Trying a step gives a result unless the step does not end. -/
theorem Work.attempt_meets {α : Type} {step : Work α}
    (meets : Meets invariant step (fun _ => True) fun flaw => flaw.Final ∨ fault flaw) :
    Meets invariant (attempt step) (fun _ => True) fault := by
  intro memory sound
  obtain ⟨kept, outcome⟩ := meets memory sound
  rw [attempt]
  split
  · next id after run =>
    rw [run] at kept outcome
    exact ⟨kept, outcome.resolve_left fun final => final id rfl⟩
  · next run =>
    rw [run] at kept
    exact ⟨kept, trivial⟩

theorem sortKey_meets {name : Work (Option String)}
    (meets : Work.Meets invariant name (fun _ => True) fun flaw => flaw.Final ∨ fault flaw) :
    Work.Meets invariant (sortKey name) (fun _ => True) fault := by
  refine (Work.attempt_meets meets).bind fun outcome _ => ?_
  split <;> exact Work.meets_pure trivial

/-- **Listing items changes their order only.** -/
theorem sortedBy_meets {α : Type} {name : α → Work (Option String)} {items : List α}
    (each : ∀ item ∈ items, Work.Meets invariant (name item) (fun _ => True)
      fun flaw => flaw.Final ∨ fault flaw) :
    Work.Meets invariant (sortedBy name items) (fun sorted => sorted.Perm items) fault := by
  have keyed : ∀ items : List α, (∀ item ∈ items, Work.Meets invariant (name item) (fun _ => True)
      fun flaw => flaw.Final ∨ fault flaw) →
      Work.Meets invariant (Work.forAll (fun item => do return (← sortKey (name item), item)) items)
        (fun keyed => keyed.map Prod.snd = items) fault := by
    intro items
    induction items with
    | nil => exact fun _ => Work.meets_pure rfl
    | cons item rest ih =>
      intro each
      obtain ⟨here, there⟩ := List.forall_mem_cons.1 each
      have first : Work.Meets invariant (do return (← sortKey (name item), item))
          (fun pair => pair.2 = item) fault :=
        (sortKey_meets here).bind fun key _ => Work.meets_pure rfl
      refine first.bind fun pair same => (ih there).bind fun others kept => ?_
      exact Work.meets_pure (by rw [List.map_cons, same, kept])
  rw [sortedBy]
  split
  · exact Work.meets_pure (.refl items)
  · refine (keyed items each).bind fun pairs same => Work.meets_pure ?_
    exact same ▸ (List.mergeSort_perm pairs _).map Prod.snd

end

/-- A step that forgets nothing keeps what was known at the start. -/
theorem Work.Learns.meets {α : Type} {step : Work α} {result : α → Prop} {fault : Fault → Prop}
    (learns : Learns step) (meets : Meets (fun _ => True) step result fault) (start : Memory) :
    Meets start.Within step result fault :=
  fun memory within => ⟨within.trans (learns memory).within, (meets memory trivial).2⟩

/-- **Listing hits changes their order only, and forgets nothing.** -/
theorem SearchHits.sorted_meets {hits : SearchHits} {atlas : Atlas} {fault : Fault → Prop}
    (start : Memory)
    (ends : ∀ view ∈ hits.classes, Work.Meets (fun _ => True) (view.simpleName atlas)
      (fun _ => True) fun flaw => flaw.Final ∨ fault flaw) :
    Work.Meets start.Within (hits.sorted atlas)
      (fun sorted => sorted.failures = hits.failures ∧
        ∀ kind, (sorted.subjects kind).Perm (hits.subjects kind)) fault := by
  have members : ∀ id, Work.Meets start.Within (atlas.tables.optionalName id) (fun _ => True)
      fun flaw => flaw.Final ∨ fault flaw :=
    fun id => (atlas.tables.optionalName_recalls id).learns.meets
      ((Tables.optionalName_final id).mono (fun _ same => same) fun _ final => .inl final) start
  have types : ∀ view ∈ hits.classes, Work.Meets start.Within
      (do return some (← view.simpleName atlas)) (fun _ => True)
      fun flaw => flaw.Final ∨ fault flaw :=
    fun view listed => (TypeView.simpleName_recalls.learns.meets (ends view listed) start).bind
      fun text _ => Work.meets_pure trivial
  refine (sortedBy_meets types).bind fun classes sameClasses => ?_
  refine (sortedBy_meets fun field _ => members field.record.name).bind fun fields sameFields => ?_
  refine (sortedBy_meets fun method _ => members method.record.name).bind
    fun methods sameMethods => ?_
  refine (sortedBy_meets fun hit _ => members hit.parameter.record.name).bind
    fun parameters sameParameters => Work.meets_pure ⟨rfl, fun kind => ?_⟩
  cases kind with
  | classes => exact sameClasses.map _
  | fields => exact sameFields.map _
  | methods => exact sameMethods.map _
  | parameters => exact sameParameters.map _

end ClassAtlas

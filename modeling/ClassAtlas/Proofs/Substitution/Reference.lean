import ClassAtlas.Proofs.Index.Ancestors
import ClassAtlas.Proofs.Substitution.Maps
import ClassAtlas.Substitution
import Mathlib.Data.Finset.Card

/-!
# Composing substitutions along inheritance

What the type variables above a class stand for, told without any chain of variables: each supertype
supplies its own bindings by position, and then every binding of its class with the variables of
that class replaced by their arguments.  Of several bindings of a variable the first one counts
(`Tables.composed`).

On a hierarchy without cycles there is a family of maps with this property (`exists_reference`).
Three facts about such a family carry everything else (`RefSound`): variables that are bound were
declared above the class, values that are variables were declared by the class itself, and with a
variable of a class all bindings of that class are there too.
-/

set_option autoImplicit false

namespace ClassAtlas

open Relation (ReflTransGen TransGen)

namespace Tables

variable (tables : Tables)

/-- Whether a class lists a type variable as its own. -/
def Declares (id key : Nat) : Prop :=
  ∃ record, tables.typeData id = .ok (.rawClass record) ∧ key ∈ record.typeVariables

/-- A supertype that binds the variables of its class: a class without variables, or a class applied
to one argument for each of its variables, where an argument that is a variable belongs to the class
below. -/
inductive Fits (record : ClassRecord) (supertype : TypeRef) : Prop where
  | plain {raw : ClassRecord} (known : tables.typeData supertype.id = .ok (.rawClass raw))
      (free : raw.typeVariables = [])
  | applied {applied : ParameterizedRecord} {raw : ClassRecord}
      (known : tables.typeData supertype.id = .ok (.parameterized applied))
      (ownerless : applied.ownerType = none)
      (declaring : tables.typeData applied.rawType.id = .ok (.rawClass raw))
      (arity : applied.arguments.length = raw.typeVariables.length)
      (inside : ∀ argument ∈ applied.arguments, argument.id < tables.typeCount)
      (own : ∀ argument ∈ applied.arguments, tables.IsTypeVariable argument.id →
        argument.id ∈ record.typeVariables)

/-- Snapshots on which substitution composes: all records decode, nothing is above itself, no type
variable belongs to two classes, and every supertype binds the variables of its class. -/
structure Composable : Prop where
  decodes : ∀ id < tables.typeCount, ∃ data, tables.typeData id = .ok data
  acyclic : ∀ id, ¬TransGen tables.Above id id
  owner : ∀ {key id other : Nat}, tables.IsTypeVariable key → tables.Declares id key →
    tables.Declares other key → id = other
  fits : ∀ {id : Nat} {record : ClassRecord}, tables.typeData id = .ok (.rawClass record) →
    ∀ supertype ∈ record.supertypes, tables.Fits record supertype

/-! ## The reference map -/

/-- The class that a supertype leads to, with the variables it binds by position. -/
def supply (supertype : TypeRef) : Option (Nat × List (Nat × TypeRef)) :=
  match tables.typeData supertype.id with
  | .ok (.rawClass _) => some (supertype.id, [])
  | .ok (.parameterized applied) =>
    match tables.typeData applied.rawType.id with
    | .ok (.rawClass raw) =>
      some (applied.rawType.id, raw.typeVariables.zip applied.arguments)
    | _ => none
  | _ => none

/-- What the supertypes of a class lead to, in their order. -/
def supplies (record : ClassRecord) : List (Nat × List (Nat × TypeRef)) :=
  record.supertypes.filterMap tables.supply

/-- Replaces a type variable by the argument it is bound to, as deep as the variable was. -/
def substitute (own : List (Nat × TypeRef)) (value : TypeRef) : TypeRef :=
  match tables.isVariable value, own.lookup value.id with
  | .ok true, some argument => argument.deepen value.depth
  | _, _ => value

/-- What a supertype contributes: its own bindings, and those of its class seen through them. -/
def contribution (ref : Nat → VarMap) (source : Nat × List (Nat × TypeRef)) :
    List (Nat × TypeRef) :=
  source.2 ++ (ref source.1).entries.map fun entry =>
    (entry.1, tables.substitute source.2 entry.2)

/-- The map of a class from those of the classes above it; the first binding of a variable wins. -/
def composed (ref : Nat → VarMap) (record : ClassRecord) : VarMap :=
  .firstWins ((tables.supplies record).flatMap (tables.contribution ref))

/-- Whether maps are the composed maps of their classes. -/
def IsReference (ref : Nat → VarMap) : Prop :=
  ∀ ⦃id : Nat⦄ ⦃record : ClassRecord⦄, tables.typeData id = .ok (.rawClass record) →
    ref id = tables.composed ref record

variable {tables}

theorem substitute_of_lookup {own : List (Nat × TypeRef)} {value argument : TypeRef}
    (varies : tables.IsTypeVariable value.id) (found : own.lookup value.id = some argument) :
    tables.substitute own value = argument.deepen value.depth := by
  rw [substitute, (isVariable_iff value).2 varies, found]

theorem substitute_of_not_variable {own : List (Nat × TypeRef)} {value : TypeRef}
    (other : ¬tables.IsTypeVariable value.id) : tables.substitute own value = value := by
  rw [substitute]
  split
  · next varies _ => exact absurd ((isVariable_iff value).1 varies) other
  · rfl

theorem lookup_contribution (ref : Nat → VarMap) (source : Nat × List (Nat × TypeRef)) (key : Nat) :
    (tables.contribution ref source).lookup key =
      (source.2.lookup key).or (((ref source.1).find? key).map (tables.substitute source.2)) := by
  rw [contribution, List.lookup_append, VarMap.lookup_map_snd]
  rfl

/-- The maps of the classes above decide the map of a class. -/
theorem composed_congr {left right : Nat → VarMap} {record : ClassRecord}
    (same : ∀ source ∈ tables.supplies record, left source.1 = right source.1) :
    tables.composed left record = tables.composed right record := by
  rw [composed, composed, List.flatMap_def, List.flatMap_def]
  congr 2
  refine List.map_congr_left fun source listed => ?_
  rw [contribution, contribution, same source listed]

/-! ## What a supertype supplies -/

/-- A source of bindings of a class: a class above it, with one binding for each of its variables.
Arguments that are variables belong to the class below. -/
structure Source (tables : Tables) (id : Nat) (source : Nat × List (Nat × TypeRef)) : Prop where
  above : TransGen tables.Above id source.1
  raw : ∃ raw, tables.typeData source.1 = .ok (.rawClass raw) ∧
    source.2.map Prod.fst = raw.typeVariables
  arguments : ∀ pair ∈ source.2, (∃ data, tables.typeData pair.2.id = .ok data) ∧
    (tables.IsTypeVariable pair.2.id → tables.Declares id pair.2.id)

namespace Composable

variable (fit : tables.Composable)

include fit

theorem source_of_supply {id : Nat} {record : ClassRecord} {supertype : TypeRef}
    {source : Nat × List (Nat × TypeRef)} (known : tables.typeData id = .ok (.rawClass record))
    (listed : supertype ∈ record.supertypes) (supplied : tables.supply supertype = some source) :
    tables.Source id source := by
  have step : tables.Above id supertype.id := ⟨_, known, List.mem_map_of_mem listed⟩
  cases fit.fits known supertype listed with
  | @plain raw knownSuper free =>
    rw [supply, knownSuper] at supplied
    cases supplied
    exact ⟨.single step, ⟨raw, knownSuper, free.symm⟩, fun pair member => nomatch member⟩
  | @applied applied raw knownSuper _ declaring arity inside own =>
    simp only [supply, knownSuper, declaring, Option.some.injEq] at supplied
    cases supplied
    have up : tables.Above supertype.id applied.rawType.id :=
      ⟨_, knownSuper, List.mem_singleton_self _⟩
    refine ⟨.tail (.single step) up, ⟨raw, declaring, List.map_fst_zip arity.ge⟩, ?_⟩
    rintro ⟨key, argument⟩ member
    have written := (List.of_mem_zip member).2
    exact ⟨fit.decodes _ (inside argument written),
      fun varies => ⟨record, known, own argument written varies⟩⟩

theorem source_of_mem {id : Nat} {record : ClassRecord} {source : Nat × List (Nat × TypeRef)}
    (known : tables.typeData id = .ok (.rawClass record))
    (listed : source ∈ tables.supplies record) :
    tables.Source id source := by
  obtain ⟨supertype, written, supplied⟩ := List.mem_filterMap.1 listed
  exact fit.source_of_supply known written supplied

/-! ## Every class has a composed map -/

/-- The types above a type, the type itself included, become fewer with every step up. -/
theorem wellFounded : WellFounded fun above id => TransGen tables.Above id above := by
  classical
  let upper : Nat → Finset Nat := fun id =>
    (Finset.range tables.typeCount).filter (ReflTransGen tables.Above id)
  refine Subrelation.wf (r := InvImage (· < ·) fun id => (upper id).card) ?_
    (InvImage.wf _ Nat.lt_wfRel.wf)
  intro above id way
  refine Finset.card_lt_card (Finset.ssubset_iff_subset_ne.2 ⟨?_, ?_⟩)
  · intro other member
    obtain ⟨inside, up⟩ := Finset.mem_filter.1 member
    exact Finset.mem_filter.2 ⟨inside, way.to_reflTransGen.trans up⟩
  · intro same
    obtain ⟨_, step, _⟩ := TransGen.head'_iff.1 way
    have here : id ∈ upper id := Finset.mem_filter.2 ⟨Finset.mem_range.2 step.lt, .refl⟩
    rw [← same] at here
    exact fit.acyclic id (way.trans_left (Finset.mem_filter.1 here).2)

end Composable

open Classical in
/-- The composed maps of all classes, by recursion along the steps up. -/
noncomputable def reference (ends : WellFounded fun above id => TransGen tables.Above id above) :
    Nat → VarMap :=
  ends.fix fun id above =>
    match tables.typeData id with
    | .ok (.rawClass record) =>
      tables.composed
        (fun raw => if way : TransGen tables.Above id raw then above raw way else .empty)
        record
    | _ => .empty

/-- **Every class of a hierarchy without cycles has a composed map.** -/
theorem Composable.exists_reference (fit : tables.Composable) : ∃ ref, tables.IsReference ref := by
  refine ⟨reference fit.wellFounded, ?_⟩
  intro id record known
  rw [reference, WellFounded.fix_eq, ← reference]
  simp only [known]
  refine composed_congr fun source listed => ?_
  rw [dif_pos (fit.source_of_mem known listed).above]

/-! ## What a composed map holds -/

/-- Whether a source has a binding of a variable, of its own or from its class. -/
def Offers (ref : Nat → VarMap) (source : Nat × List (Nat × TypeRef)) (key : Nat) : Prop :=
  (source.2.lookup key).isSome ∨ ((ref source.1).find? key).isSome

theorem lookup_contribution_isSome (ref : Nat → VarMap) (source : Nat × List (Nat × TypeRef))
    (key : Nat) : ((tables.contribution ref source).lookup key).isSome ↔ Offers ref source key := by
  rw [lookup_contribution, Option.isSome_or, Option.isSome_map, Bool.or_eq_true, Offers]

theorem composed_isSome_iff (ref : Nat → VarMap) (record : ClassRecord) (key : Nat) :
    ((tables.composed ref record).find? key).isSome ↔
      ∃ source ∈ tables.supplies record, Offers ref source key := by
  rw [composed, VarMap.find?_firstWins, VarMap.lookup_flatMap_isSome_iff]
  simp only [lookup_contribution_isSome]

/-- What is known of the map of a class: its variables come from above, its values that are
variables are the class's own, and with a variable of a class all that is bound for that class is
bound here. -/
structure RefSound (tables : Tables) (ref : Nat → VarMap) (id : Nat) : Prop where
  keys : ∀ key, ((ref id).find? key).isSome → tables.IsTypeVariable key →
    ∃ owner, TransGen tables.Above id owner ∧ tables.Declares owner key
  values : ∀ key value, (ref id).find? key = some value →
    (∃ data, tables.typeData value.id = .ok data) ∧
      (tables.IsTypeVariable value.id → tables.Declares id value.id)
  closed : ∀ key owner, ((ref id).find? key).isSome → tables.IsTypeVariable key →
    tables.Declares owner key → ∀ other, ((ref owner).find? other).isSome →
      ((ref id).find? other).isSome

namespace Source

variable {ref : Nat → VarMap} {id : Nat} {source : Nat × List (Nat × TypeRef)}

/-- The variables that a source binds by position are those of its class. -/
theorem lookup_isSome_iff (supplied : tables.Source id source) (key : Nat) :
    (source.2.lookup key).isSome ↔ tables.Declares source.1 key := by
  obtain ⟨raw, known, positions⟩ := supplied.raw
  have listed : (source.2.lookup key).isSome ↔ key ∈ raw.typeVariables := by
    rw [← positions, List.lookup_isSome_iff, List.mem_map]
    simp only [beq_iff_eq, @eq_comm _ key]
  rw [listed]
  constructor
  · intro member
    exact ⟨raw, known, member⟩
  · rintro ⟨other, again, member⟩
    rw [known] at again
    cases again
    exact member

theorem declared_above (supplied : tables.Source id source) (sound : tables.RefSound ref source.1)
    {key : Nat} (offers : Offers ref source key) (varies : tables.IsTypeVariable key) :
    ∃ owner, TransGen tables.Above id owner ∧ tables.Declares owner key := by
  rcases offers with own | inherited
  · exact ⟨source.1, supplied.above, (supplied.lookup_isSome_iff key).1 own⟩
  · obtain ⟨owner, way, declares⟩ := sound.keys key inherited varies
    exact ⟨owner, supplied.above.trans way, declares⟩

theorem offers_closed (fit : tables.Composable) (supplied : tables.Source id source)
    (sound : tables.RefSound ref source.1) {key owner : Nat} (offers : Offers ref source key)
    (varies : tables.IsTypeVariable key) (declares : tables.Declares owner key) {other : Nat}
    (bound : ((ref owner).find? other).isSome) : Offers ref source other := by
  rcases offers with own | inherited
  · have here := (supplied.lookup_isSome_iff key).1 own
    cases fit.owner varies declares here
    exact .inr bound
  · exact .inr (sound.closed key owner inherited varies declares other bound)

/-- A binding of the class above, seen through the arguments, leads to a variable of the class
below or to no variable. -/
theorem substitute_value (supplied : tables.Source id source)
    (sound : tables.RefSound ref source.1) {key : Nat} {value : TypeRef}
    (found : (ref source.1).find? key = some value) :
    (∃ data, tables.typeData (tables.substitute source.2 value).id = .ok data) ∧
      (tables.IsTypeVariable (tables.substitute source.2 value).id →
        tables.Declares id (tables.substitute source.2 value).id) := by
  obtain ⟨reads, own⟩ := sound.values key value found
  by_cases varies : tables.IsTypeVariable value.id
  · obtain ⟨argument, bound⟩ :=
      Option.isSome_iff_exists.1 ((supplied.lookup_isSome_iff value.id).2 (own varies))
    rw [substitute_of_lookup varies bound]
    exact supplied.arguments _ (VarMap.mem_of_lookup bound)
  · rw [substitute_of_not_variable varies]
    exact ⟨reads, fun again => absurd again varies⟩

end Source

/-- **The facts about composed maps hold for every class**, by induction along the steps up. -/
theorem Composable.refSound (fit : tables.Composable) {ref : Nat → VarMap}
    (isRef : tables.IsReference ref) {id : Nat} {record : ClassRecord}
    (known : tables.typeData id = .ok (.rawClass record)) : tables.RefSound ref id := by
  induction id using fit.wellFounded.induction generalizing record with
  | _ id ih =>
    have sound : ∀ source ∈ tables.supplies record,
        tables.Source id source ∧ tables.RefSound ref source.1 := by
      intro source listed
      have supplied := fit.source_of_mem known listed
      obtain ⟨raw, knownRaw, _⟩ := supplied.raw
      exact ⟨supplied, ih source.1 supplied.above knownRaw⟩
    refine ⟨?_, ?_, ?_⟩
    · intro key bound varies
      rw [isRef known, composed_isSome_iff] at bound
      obtain ⟨source, listed, offers⟩ := bound
      exact (sound source listed).1.declared_above (sound source listed).2 offers varies
    · intro key value found
      rw [isRef known, composed, VarMap.find?_firstWins] at found
      obtain ⟨source, listed, member⟩ := List.mem_flatMap.1 (VarMap.mem_of_lookup found)
      rcases List.mem_append.1 member with own | inherited
      · exact (sound source listed).1.arguments _ own
      · obtain ⟨⟨_, inner⟩, entry, same⟩ := List.mem_map.1 inherited
        cases same
        exact (sound source listed).1.substitute_value (sound source listed).2
          ((VarMap.mem_entries_iff ..).1 entry)
    · intro key owner bound varies declares other there
      rw [isRef known, composed_isSome_iff] at bound ⊢
      obtain ⟨source, listed, offers⟩ := bound
      exact ⟨source, listed,
        (sound source listed).1.offers_closed fit (sound source listed).2 offers varies declares
          there⟩

end Tables

end ClassAtlas

import ClassAtlas.Proofs.Recall.Types
import ClassAtlas.Proofs.Substitution.Composition
import ClassAtlas.Proofs.Substitution.History
import ClassAtlas.Proofs.Substitution.Resolution

/-!
# Arguments that are variables of the same class

A class can be applied inside its own body, and then its arguments may be its own variables.  The
variables are bound by position first and the chains are followed afterwards, over the whole map, so
an argument that is a variable is taken on to what its sibling is bound to.

The bindings that stay as they are can be told from the map as it was gathered
(`resolveChains_keeps_iff`): those whose value is at rest there.  So a variable of an applied class
stands for its argument exactly when the argument is at rest among its siblings
(`exhaustive_binds_iff`).
-/

set_option autoImplicit false

namespace ClassAtlas

namespace Atlas

variable {atlas : Atlas}

/-! ## Variables bound by position -/

/-- A class without owner that is applied to one argument for each of its variables, where an
argument that is a variable is one of the same class. -/
structure AppliedToOwn (atlas : Atlas) (id : Nat) (cls : ClassRecord)
    (record : ParameterizedRecord) : Prop where
  known : atlas.tables.typeData id = .ok (.parameterized record)
  ownerless : record.ownerType = none
  declaring : atlas.tables.typeData record.rawType.id = .ok (.rawClass cls)
  distinct : cls.typeVariables.Nodup
  arity : cls.typeVariables.length = record.arguments.length
  own : ∀ argument ∈ record.arguments, atlas.tables.IsTypeVariable argument.id →
    argument.id ∈ cls.typeVariables

/-- An argument that its siblings leave alone: no variable, or a variable that is bound to itself or
to this same argument. -/
def LeftAlone (atlas : Atlas) (bindings : List (Nat × TypeRef)) (argument : TypeRef) : Prop :=
  atlas.tables.IsTypeVariable argument.id → ∀ sibling, (argument.id, sibling) ∈ bindings →
    VarMap.isSelf argument.id sibling = true ∨ sibling = argument

/-- A map in which the variables of an applied class are bound, and stand for their arguments where
the siblings leave these alone, and only there. -/
def BindsOwn (atlas : Atlas) (id : Nat) (map : VarMap) : Prop :=
  ∀ cls record, atlas.AppliedToOwn id cls record →
    ∀ binding ∈ cls.typeVariables.zip record.arguments,
      (map.find? binding.1).isSome ∧
        (map.find? binding.1 = some binding.2 ↔
          atlas.LeftAlone (cls.typeVariables.zip record.arguments) binding.2)

section

variable {id : Nat} {cls : ClassRecord} {record : ParameterizedRecord}

theorem AppliedToOwn.bindPositional_eq (applied : atlas.AppliedToOwn id cls record) :
    atlas.bindPositional id record .empty =
      .ok (positional cls.typeVariables record.arguments .empty) := by
  rw [bindPositional, declaredVariables, Tables.class?, applied.declaring]
  rfl

/-- The bindings by position come before all that is inherited. -/
theorem AppliedToOwn.find?_gathered (applied : atlas.AppliedToOwn id cls record)
    (inherited : VarMap) {key : Nat} {value : TypeRef}
    (bound : (key, value) ∈ cls.typeVariables.zip record.arguments) :
    ((positional cls.typeVariables record.arguments .empty).mergeMissing inherited).find? key =
      some value := by
  have distinct : ((cls.typeVariables.zip record.arguments).map Prod.fst).Nodup := by
    rw [List.map_fst_zip (Nat.le_of_eq applied.arity)]
    exact applied.distinct
  rw [VarMap.mergeMissing_eq_addNew, VarMap.find?_addNew, positional,
    VarMap.find?_foldl_insert distinct, VarMap.lookup_eq_some_of_nodup distinct bound,
    Option.some_or,
    Option.some_or]

theorem AppliedToOwn.atRest_iff (applied : atlas.AppliedToOwn id cls record) (inherited : VarMap)
    {argument : TypeRef} (listed : argument ∈ record.arguments) :
    atlas.tables.AtRest
        ((positional cls.typeVariables record.arguments .empty).mergeMissing inherited) argument ↔
      atlas.LeftAlone (cls.typeVariables.zip record.arguments) argument := by
  constructor
  · intro rests varies sibling bound
    exact rests varies sibling (applied.find?_gathered inherited bound)
  · intro alone varies next found
    obtain ⟨place, inside, here⟩ := List.getElem_of_mem (applied.own argument listed varies)
    have paired : place < (cls.typeVariables.zip record.arguments).length := by
      rw [List.length_zip, ← applied.arity, Nat.min_self]
      exact inside
    have bound := List.getElem_mem paired
    rw [List.getElem_zip, here] at bound
    obtain rfl := Option.some.inj ((applied.find?_gathered inherited bound).symm.trans found)
    exact alone varies _ bound

/-- Chains that are followed leave the variables of an applied class bound as their siblings say. -/
theorem AppliedToOwn.bindsOwn (applied : atlas.AppliedToOwn id cls record) {inherited map : VarMap}
    (run : atlas.resolveChains
      ((positional cls.typeVariables record.arguments .empty).mergeMissing inherited) = .ok map) :
    atlas.BindsOwn id map := by
  rintro cls' record' applied' ⟨key, argument⟩ listed
  obtain ⟨rfl⟩ := Except.ok.inj (applied.known.symm.trans applied'.known)
  obtain ⟨rfl⟩ := Except.ok.inj (applied.declaring.symm.trans applied'.declaring)
  have found := applied.find?_gathered inherited listed
  obtain ⟨-, result, -, -, given, -⟩ := resolveChains_turn run found
  refine ⟨Option.isSome_iff_exists.2 ⟨result, given⟩, ?_⟩
  rw [resolveChains_keeps_iff run found,
    applied.atRest_iff inherited (List.of_mem_zip listed).2]

theorem computeMap_bindsOwn {invariant : MapMemory → Prop}
    {nested : Nat → Remembering MapMemory VarMap} {stack : List Nat}
    (id : Nat) (others : ∀ other, atlas.Draws id other →
      Work.Meets invariant (nested other) (fun _ => True) fun _ => True) :
    Work.Meets invariant (atlas.computeMap nested stack id) (atlas.BindsOwn id) fun _ => True := by
  by_cases applied : ∃ cls record, atlas.AppliedToOwn id cls record
  · obtain ⟨cls, record, applied⟩ := applied
    refine (Work.always_lift applied.known).bind_meets ?_
    refine (Work.always_lift applied.bindPositional_eq).bind_meets ?_
    have draws : atlas.Draws id record.rawType.id :=
      ⟨.rawType (.itself applied.known), cls, applied.declaring⟩
    refine (others record.rawType.id draws).bind fun inherited _ => ?_
    simp only [applied.ownerless, mergeOwners_none]
    refine (Work.always_pure _).bind_meets (Work.meets_lift ?_)
    cases run : atlas.resolveChains
        ((positional cls.typeVariables record.arguments .empty).mergeMissing inherited) with
    | error fault => trivial
    | ok map => exact applied.bindsOwn run
  · refine (computeMap_meets atlas.closed_trivial id others).mono (fun map _ => ?_)
      fun _ _ => trivial
    exact fun cls record here => absurd ⟨cls, record, here⟩ applied

end

/-! ## Whatever was asked before -/

/-- Remembered maps in which applied classes are bound. -/
def RemembersOwn (atlas : Atlas) (memory : MapMemory) : Prop :=
  memory.Holds atlas.BindsOwn

theorem mapWithin_bindsOwn (levels : Nat) (stack : List Nat) (id : Nat) :
    Work.Meets atlas.RemembersOwn (atlas.mapWithin levels stack id) (atlas.BindsOwn id)
      fun _ => True := by
  refine mapWithin_holds (fun nested stack id others => ?_) levels stack id
  refine computeMap_bindsOwn id fun other draws => ?_
  exact (others other draws).mono (fun _ _ => trivial) fun _ _ => trivial

theorem remembersOwn_afterCalls (calls : List MapCall) :
    atlas.RemembersOwn (atlas.afterCalls calls).maps := by
  exact afterCalls_keeps (MapMemory.holds_empty _) fun call _ maps sound =>
    (mapWithin_bindsOwn (atlas.tables.typeCount + 2) [] call.id maps sound).1

/-- **A variable of an applied class stands for its argument exactly when the siblings of the
argument leave it alone**, and it is bound in any case.  An argument that is a variable of the same
class is left alone when that variable is bound to itself or to the same argument; otherwise the
argument is taken on to what that variable is bound to. -/
theorem exhaustive_binds_iff (atlas : Atlas) (calls : List MapCall) {id : Nat} {cls : ClassRecord}
    {record : ParameterizedRecord} (applied : atlas.AppliedToOwn id cls record) {map : VarMap}
    (given : (Work.onMaps (atlas.exhaustive id) (atlas.afterCalls calls)).1 = .ok map) :
    ∀ binding ∈ cls.typeVariables.zip record.arguments,
      (map.find? binding.1).isSome ∧
        (map.find? binding.1 = some binding.2 ↔
          atlas.LeftAlone (cls.typeVariables.zip record.arguments) binding.2) := by
  have meets := (mapWithin_bindsOwn (atlas.tables.typeCount + 2) [] id (atlas.afterCalls calls).maps
    (remembersOwn_afterCalls calls)).2
  have run : (atlas.mapWithin (atlas.tables.typeCount + 2) [] id
    (atlas.afterCalls calls).maps).1 = .ok map := given
  rw [run] at meets
  exact meets cls record applied

end Atlas

/-- A class with two variables, applied to its second variable and a class. -/
def Snapshot.shiftedPair : Snapshot :=
  { empty with
    types := [
      .object [("n", .nat 0)],
      .object [("tv", .nat 1)],
      .object [("tv", .nat 2)],
      .object [("n", .nat 3), ("v", .array [.nat 1, .nat 2])],
      .object [("r", .nat 3), ("v", .array [.nat 2, .nat 0])]]
    names := [.text "String", .text "A", .text "B", .text "Pair"] }

namespace Atlas

/-- The snapshot `shiftedPair` with the usual settings. -/
def shiftedPair : Atlas :=
  ⟨.ofSnapshot .shiftedPair, .default⟩

theorem shiftedPair_applied :
    shiftedPair.AppliedToOwn 4 (.bare 3 none [1, 2]) ⟨.plain 3, none, [.plain 2, .plain 0]⟩ where
  known := rfl
  ownerless := rfl
  declaring := rfl
  distinct := by decide
  arity := rfl
  own := by
    intro argument listed varies
    obtain rfl | rfl : argument = .plain 2 ∨ argument = .plain 0 := by simpa using listed
    · decide
    · obtain ⟨record, known⟩ := varies
      cases known

theorem shiftedPair_exhaustive :
    (Work.onMaps (shiftedPair.exhaustive 4) .empty).1 =
      .ok ((VarMap.empty.insert 1 (.plain 0)).insert 2 (.plain 0)) :=
  exhaustive_of_mapAlone (.of_behind (by decide)) (show shiftedPair.mapAlone 2 4 = _ from rfl)

/-- The second variable stands for its argument, the first one does not. -/
theorem exhaustive_binds_iff_shiftedPair :
    ∃ map, (Work.onMaps (shiftedPair.exhaustive 4) (shiftedPair.afterCalls [])).1 = .ok map ∧
      map.find? 2 = some (.plain 0) ∧ map.find? 1 ≠ some (.plain 2) := by
  have binds := exhaustive_binds_iff shiftedPair [] shiftedPair_applied shiftedPair_exhaustive
  refine ⟨_, shiftedPair_exhaustive, ?_, fun kept => ?_⟩
  · exact (binds (2, .plain 0) (by decide)).2.2 fun ⟨record, known⟩ => nomatch known
  · have alone := (binds (1, .plain 2) (by decide)).2.1 kept
    exact absurd (alone ⟨_, rfl⟩ (.plain 0) (by decide)) (by decide)

/-- **The first variable does not stand for the second one**, to which it is bound, but for what
the second one is bound to. -/
theorem exhaustive_shiftedPair :
    ¬∀ cls record map, shiftedPair.AppliedToOwn 4 cls record →
      (Work.onMaps (shiftedPair.exhaustive 4) .empty).1 = .ok map →
        ∀ binding ∈ cls.typeVariables.zip record.arguments,
          map.find? binding.1 = some binding.2 := by
  intro simultaneous
  have kept := simultaneous _ _ _ shiftedPair_applied shiftedPair_exhaustive (1, .plain 2)
    (by decide)
  exact absurd kept (by decide)

end Atlas

end ClassAtlas

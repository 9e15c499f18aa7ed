import ClassAtlas.Proofs.Following
import ClassAtlas.Proofs.Substitution.Computation
import ClassAtlas.Proofs.Tables
import Mathlib.Logic.Relation

/-!
# Maps computed alone

The map of a type is put together from the maps of the classes that it is made from
(`Atlas.Consults`, `Atlas.Draws`).  Without memory and without a stack that is a definition by
levels alone (`Atlas.mapAlone`), and the map of a type is what it settles to (`Atlas.Settles`).

A computation looks into the stack for owner types only.  So two computations that see the same
owners there follow each other when their nested computations do (`computeMap_follows`).
-/

set_option autoImplicit false

namespace ClassAtlas

open Relation (ReflTransGen TransGen)

namespace Atlas

variable {atlas : Atlas}

/-! ## Computations side by side -/

section

variable {kept sound : MapMemory → Prop} {nested : Nat → Remembering MapMemory VarMap}
  {nested' : Nat → Nat → Remembering MapMemory VarMap} {stack stack' : List Nat}

theorem mergeOwners_follows (left : Nat) (owner : Option TypeRef) (map : VarMap)
    (same : ∀ other ∈ atlas.tables.ownerClasses left owner,
      stack.contains other = stack'.contains other)
    (others : ∀ other ∈ atlas.tables.ownerClasses left owner, atlas.tables.IsClass other →
      Work.Follows kept (nested other) sound fun levels => nested' levels other) :
    Work.Follows kept (atlas.mergeOwners nested stack left owner map) sound
      fun levels => atlas.mergeOwners (nested' levels) stack' left owner map := by
  induction left generalizing owner map with
  | zero => cases owner <;> exact Work.follows_pure map
  | succ left ih =>
    cases owner with
    | none => exact Work.follows_pure map
    | some owner =>
      refine Work.follows_lift_bind fun data known => ?_
      rw [Tables.ownerClasses, known] at same others
      cases data with
      | rawClass record =>
        simp only [same _ List.mem_cons_self]
        split
        · exact Work.follows_pure map
        · exact (others _ List.mem_cons_self ⟨record, known⟩).bind fun inner => Work.follows_pure _
      | parameterized record =>
        obtain ⟨sameHere, sameAbove⟩ := List.forall_mem_cons.1 same
        obtain ⟨here, above⟩ := List.forall_mem_cons.1 others
        refine Work.follows_lift_bind fun level bound => ?_
        simp only [sameHere]
        split
        · exact (Work.follows_pure _).bind fun map => ih record.ownerType map sameAbove above
        · refine (here (isClass_of_bindPositional bound)).bind fun inner => ?_
          exact (Work.follows_pure _).bind fun map => ih record.ownerType map sameAbove above
      | typeVariable | wildcard => exact Work.follows_pure map

theorem mergeSupertypes_follows (supertypes : List TypeRef) (map : VarMap)
    (same : ∀ supertype ∈ supertypes, ∀ record,
      atlas.tables.typeData supertype.id = .ok (.parameterized record) →
      ∀ other ∈ atlas.tables.ownerClasses atlas.config.ownerLimit record.ownerType,
        stack.contains other = stack'.contains other)
    (others : ∀ supertype ∈ supertypes, ∀ record,
      atlas.tables.typeData supertype.id = .ok (.parameterized record) →
      ∀ other ∈ record.rawType.id ::
          atlas.tables.ownerClasses atlas.config.ownerLimit record.ownerType,
        atlas.tables.IsClass other →
          Work.Follows kept (nested other) sound fun levels => nested' levels other)
    (classes : ∀ supertype ∈ supertypes, ∀ record,
      atlas.tables.typeData supertype.id = .ok (.rawClass record) →
        Work.Follows kept (nested supertype.id) sound fun levels => nested' levels supertype.id) :
    Work.Follows kept (atlas.mergeSupertypes nested stack supertypes map) sound
      fun levels => atlas.mergeSupertypes (nested' levels) stack' supertypes map := by
  induction supertypes generalizing map with
  | nil => exact Work.follows_pure map
  | cons supertype rest ih =>
    obtain ⟨sameHere, sameThere⟩ := List.forall_mem_cons.1 same
    obtain ⟨othersHere, othersThere⟩ := List.forall_mem_cons.1 others
    obtain ⟨classesHere, classesThere⟩ := List.forall_mem_cons.1 classes
    have onward := fun map => ih map sameThere othersThere classesThere
    refine Work.follows_lift_bind fun data known => ?_
    cases data with
    | rawClass record => exact (classesHere record known).bind fun inner => onward _
    | parameterized record =>
      obtain ⟨rawType, owners⟩ := List.forall_mem_cons.1 (othersHere record known)
      refine Work.follows_lift_bind fun map remapped => ?_
      refine (rawType (isClass_of_remap remapped)).bind fun inner => ?_
      exact (mergeOwners_follows _ _ _ (sameHere record known) owners).bind onward
    | typeVariable | wildcard => exact onward map

/-- **Computations that see the same owners on the stack follow each other**, when the nested
computations do for the classes that bindings are taken from. -/
theorem computeMap_follows (id : Nat)
    (same : ∀ owner, atlas.OwnedBy id owner → stack.contains owner = stack'.contains owner)
    (others : ∀ other, atlas.Draws id other →
      Work.Follows kept (nested other) sound fun levels => nested' levels other) :
    Work.Follows kept (atlas.computeMap nested stack id) sound
      fun levels => atlas.computeMap (nested' levels) stack' id := by
  refine Work.follows_lift_bind fun data known => ?_
  cases data with
  | rawClass cls =>
    refine Work.Follows.bind (mergeSupertypes_follows cls.supertypes .empty ?_ ?_ ?_) fun map =>
      Work.follows_lift _
    · intro supertype listed record applied owner chained
      exact same owner ⟨record, .supertype known listed applied, chained⟩
    · intro supertype listed record applied
      have applies : atlas.tables.Applies id record := .supertype known listed applied
      exact List.forall_mem_cons.2 ⟨fun isClass => others _ ⟨.rawType applies, isClass⟩,
        fun owner chained isClass => others owner ⟨.owner ⟨record, applies, chained⟩, isClass⟩⟩
    · exact fun supertype listed record above =>
        others _ ⟨.supertype known listed above, record, above⟩
  | parameterized record =>
    have applies : atlas.tables.Applies id record := .itself known
    refine Work.follows_lift_bind fun map bound => ?_
    refine (others _ ⟨.rawType applies, isClass_of_bindPositional bound⟩).bind fun inner => ?_
    refine Work.Follows.bind (mergeOwners_follows _ _ _ ?_ ?_) fun map => Work.follows_lift _
    · exact fun owner chained => same owner ⟨record, applies, chained⟩
    · exact fun owner chained isClass =>
        others owner ⟨.owner ⟨record, applies, chained⟩, isClass⟩
  | typeVariable record => exact Work.follows_pure _
  | wildcard record => exact Work.follows_pure _

end

/-! ## Levels instead of memory -/

/-- The map of a type with so many levels, from the maps of others with one level less.  Nothing is
remembered, and only the type itself contributes nothing as an owner. -/
def mapAlone (atlas : Atlas) : Nat → Nat → Except Fault VarMap
  | 0, id => .error (.endless id)
  | levels + 1, id =>
    (atlas.computeMap (fun other => Work.lift (mapAlone atlas levels other)) [id] id ∅).1

/-- The map that a type has with enough levels. -/
def Settles (atlas : Atlas) (id : Nat) (map : VarMap) : Prop :=
  Outcome.Settles (fun levels => atlas.mapAlone levels id) map

/-- More levels change no map. -/
theorem mapAlone_mono {levels more id : Nat} {map : VarMap}
    (given : atlas.mapAlone levels id = .ok map) (enough : levels ≤ more) :
    atlas.mapAlone more id = .ok map := by
  induction levels generalizing more id map with
  | zero => cases given
  | succ levels ih =>
    obtain ⟨more, rfl⟩ := Nat.exists_eq_add_one_of_ne_zero (Nat.ne_zero_of_lt enough)
    have others : ∀ other, atlas.Draws id other →
        Work.Follows (fun _ : MapMemory => True) (Work.lift (atlas.mapAlone levels other))
          (fun _ : MapMemory => True) fun _ => Work.lift (atlas.mapAlone more other) := by
      refine fun other _ => Work.meets_lift ?_
      cases inner : atlas.mapAlone levels other with
      | error fault => trivial
      | ok map =>
        have again := ih inner (Nat.le_of_succ_le_succ enough)
        exact Work.eventually_of_always (Work.always_lift again)
    have same : ∀ owner, atlas.OwnedBy id owner → [id].contains owner = [id].contains owner :=
      fun _ _ => rfl
    have outcome := (computeMap_follows id same others ∅ trivial).2
    rw [mapAlone] at given ⊢
    rw [given] at outcome
    obtain ⟨enough, given⟩ := outcome.settles ∅ trivial
    exact given enough (Nat.le_refl _)

theorem settles_of_mapAlone {levels id : Nat} {map : VarMap}
    (given : atlas.mapAlone levels id = .ok map) : atlas.Settles id map :=
  ⟨levels, fun _ => mapAlone_mono given⟩

theorem Settles.exists_level {id : Nat} {map : VarMap} (settles : atlas.Settles id map) :
    ∃ levels, atlas.mapAlone levels id = .ok map := by
  obtain ⟨enough, given⟩ := settles
  exact ⟨enough, given enough (Nat.le_refl _)⟩

theorem Settles.unique {id : Nat} {map other : VarMap} (settles : atlas.Settles id map)
    (again : atlas.Settles id other) : map = other :=
  Outcome.Settles.unique settles again

end Atlas

end ClassAtlas

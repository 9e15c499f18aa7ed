import ClassAtlas.Proofs.Descent
import ClassAtlas.Proofs.Index.Ancestors
import ClassAtlas.Proofs.Substitution.Alone

/-!
# Maps and what was asked before

A map is remembered while the maps of other types are still being computed, and an owner that is
being computed contributes nothing.  So the map of a class can be remembered without the bindings of
an owner, when the computation of that owner came to the class (`Snapshot.crossedOwners`).

Where no owner leads back to the types that are made with it, this cannot happen: then a map that is
remembered is the one that its type settles to (`mapWithin_settles`), a type that settles to a map
is given it (`mapWithin_of_settles`), and what was asked before makes no difference
(`exhaustive_after_calls`).  No owner leads back on a well-formed snapshot
(`ownersApart_of_wellFormed`), nor where no parameterized supertype has an owner
(`detached_of_unowned`).
-/

set_option autoImplicit false

namespace ClassAtlas

open Relation (ReflTransGen TransGen)

/-- Remembered maps that are those that their types settle to. -/
def MapMemory.Settled (atlas : Atlas) (memory : MapMemory) : Prop :=
  ∀ (id : Nat) (map : VarMap), memory[id]? = some map → atlas.Settles id map

theorem MapMemory.settled_empty (atlas : Atlas) : MapMemory.Settled atlas ∅ := by
  intro id map found
  simp at found

theorem MapMemory.Settled.insert {atlas : Atlas} {memory : MapMemory}
    (settled : memory.Settled atlas) {id : Nat} {map : VarMap} (settles : atlas.Settles id map) :
    MapMemory.Settled atlas (memory.insert id map) := by
  exact fun _ _ => forall_getElem?_insert (settled _ _) settles

namespace Atlas

variable {atlas : Atlas} {id : Nat}

/-! ## Owners that lead back -/

/-- None of the types that a type consults is consulted again by one of its owners, other than
itself. -/
def OwnersApart (atlas : Atlas) (id : Nat) : Prop :=
  ∀ inner, ReflTransGen atlas.Consults id inner → ∀ owner, atlas.OwnedBy inner owner →
    owner ≠ inner → ¬ReflTransGen atlas.Consults owner inner

/-- Where no type consults itself, no owner leads back. -/
theorem ownersApart_of_acyclic (acyclic : ∀ id, ¬TransGen atlas.Consults id id) (id : Nat) :
    atlas.OwnersApart id :=
  fun inner _ _ owned _ back => acyclic inner (.head' (.owner owned) back)

theorem mentions_of_applies {record : ParameterizedRecord}
    (applies : atlas.tables.Applies id record) {ref : TypeRef}
    (written : ref ∈ (TypeData.parameterized record).mentions) :
    TransGen atlas.tables.Mentions id ref.id := by
  cases applies with
  | itself known => exact .single ⟨_, known, ref, written, rfl⟩
  | supertype known listed applied =>
    exact .tail (.single ⟨_, known, _, List.mem_append_left _ listed, rfl⟩)
      ⟨_, applied, ref, written, rfl⟩

/-- The owners of an owner are written inside it. -/
theorem mentions_of_ownerClasses (left : Nat) {outer : TypeRef} {class_ : Nat}
    (chained : class_ ∈ atlas.tables.ownerClasses left (some outer)) :
    ReflTransGen atlas.tables.Mentions outer.id class_ := by
  induction left generalizing outer with
  | zero => cases chained
  | succ left ih =>
    rw [Tables.ownerClasses] at chained
    split at chained
    · next record known =>
      have written : ∀ {ref}, ref ∈ (TypeData.parameterized record).mentions →
          atlas.tables.Mentions outer.id ref.id := fun listed => ⟨_, known, _, listed, rfl⟩
      rcases List.mem_cons.1 chained with rfl | chained
      · exact .single (written List.mem_cons_self)
      · cases further : record.ownerType with
        | none =>
          rw [further, Tables.ownerClasses] at chained
          cases chained
        | some owner =>
          rw [further] at chained
          refine .head (written ?_) (ih chained)
          exact List.mem_cons_of_mem _ (List.mem_append_left _ (by simp [further]))
    · obtain rfl := List.mem_singleton.1 chained
      exact .refl
    · cases chained

/-- What a type consults is written in it, or inside a type that is written in it. -/
theorem mentions_of_consults {other : Nat} (consults : atlas.Consults id other) :
    TransGen atlas.tables.Mentions id other := by
  cases consults with
  | rawType applies => exact mentions_of_applies applies List.mem_cons_self
  | supertype known listed _ =>
    exact .single ⟨_, known, _, List.mem_append_left _ listed, rfl⟩
  | owner owned =>
    obtain ⟨record, applies, chained⟩ := owned
    cases further : record.ownerType with
    | none =>
      rw [further, Tables.ownerClasses] at chained
      cases chained
    | some owner =>
      rw [further] at chained
      refine .trans_left (mentions_of_applies applies ?_) (mentions_of_ownerClasses _ chained)
      exact List.mem_cons_of_mem _ (List.mem_append_left _ (by simp [further]))

/-- **On a well-formed snapshot no owner leads back.** -/
theorem ownersApart_of_wellFormed (fit : atlas.tables.WellFormed) (id : Nat) :
    atlas.OwnersApart id := by
  refine ownersApart_of_acyclic (fun other cycle => fit.acyclic other ?_) id
  exact TransGen.closed (fun _ _ => mentions_of_consults) _ _ cycle

/-- None of the types that a type takes bindings from takes bindings from one of its owners again,
other than itself. -/
def Detached (atlas : Atlas) (id : Nat) : Prop :=
  ∀ inner, ReflTransGen atlas.Draws id inner → ∀ owner, atlas.OwnedBy inner owner →
    owner ≠ inner → ¬ReflTransGen atlas.Draws owner inner

theorem Detached.inner (detached : atlas.Detached id) {other : Nat} (step : atlas.Draws id other) :
    atlas.Detached other :=
  fun inner way => detached inner (.head step way)

theorem consults_of_draws {inner : Nat} (way : ReflTransGen atlas.Draws id inner) :
    ReflTransGen atlas.Consults id inner :=
  way.lift (fun other => other) fun _ _ step => step.1

theorem OwnersApart.detached (apart : atlas.OwnersApart id) : atlas.Detached id :=
  fun inner way owner owned different back =>
    apart inner (consults_of_draws way) owner owned different (consults_of_draws back)

/-- **Where no parameterized supertype has an owner, no owner leads back.**  Then only parameterized
types are made with owners, and bindings are taken from classes. -/
theorem detached_of_unowned (unowned : atlas.tables.SupertypesUnowned) (id : Nat) :
    atlas.Detached id := by
  rintro inner - owner ⟨record, applies, chained⟩ different back
  cases applies with
  | itself known =>
    rcases ReflTransGen.cases_tail back with same | ⟨other, -, -, cls, again⟩
    · exact different same.symm
    · cases known.symm.trans again
  | supertype known listed applied =>
    rw [unowned known listed applied, Tables.ownerClasses] at chained
    cases chained

/-! ## What is remembered is settled -/

/-- On a stack of types that lead to a type, only the type itself can be among its owners. -/
theorem Detached.contains_eq (detached : atlas.Detached id) {stack : List Nat}
    (path : ∀ outer ∈ stack, ReflTransGen atlas.Draws outer id) {owner : Nat}
    (owned : atlas.OwnedBy id owner) : (id :: stack).contains owner = [id].contains owner := by
  by_cases same : owner = id
  · simp [same]
  · have off : owner ∉ stack := fun listed =>
      detached id .refl owner owned same (path owner listed)
    simp [same, off]

theorem path_cons {stack : List Nat} (path : ∀ outer ∈ stack, ReflTransGen atlas.Draws outer id)
    {other : Nat} (step : atlas.Draws id other) :
    ∀ outer ∈ id :: stack, ReflTransGen atlas.Draws outer other :=
  List.forall_mem_cons.2 ⟨.single step, fun outer listed => (path outer listed).tail step⟩

/-- **A nested computation gives the map that its type settles to**, and remembers settled maps
only.  The stack makes no difference: of the types on it none is an owner of the type but perhaps
the type itself. -/
theorem mapWithin_settles (levels : Nat) (stack : List Nat) (detached : atlas.Detached id)
    (path : ∀ outer ∈ stack, ReflTransGen atlas.Draws outer id) :
    Work.Meets (MapMemory.Settled atlas) (atlas.mapWithin levels stack id) (atlas.Settles id)
      fun _ => True := by
  induction levels generalizing stack id with
  | zero => exact mapWithin_zero_meets (fun memory settled => settled id) trivial trivial
  | succ levels ih =>
    refine mapWithin_succ_meets (fun memory settled => settled id) (fun _ => trivial) ?_
      fun memory settled map settles => settled.insert settles
    intro new
    have others : ∀ other, atlas.Draws id other →
        Work.Follows (MapMemory.Settled atlas) (atlas.mapWithin levels (id :: stack) other)
          (fun _ : MapMemory => True) fun more => Work.lift (atlas.mapAlone more other) :=
      fun other step => (ih (id :: stack) (detached.inner step) (path_cons path step)).mono
        (fun _ => Work.eventually_lift) fun _ same => same
    refine (computeMap_follows id (fun owner owned => detached.contains_eq path owned) others).mono
      (fun map eventually => ?_) fun _ same => same
    exact (eventually.settles ∅ trivial).of_succ fun _ => rfl

/-! ## What settles is given -/

theorem lt_of_mapAlone {levels : Nat} {map : VarMap} (given : atlas.mapAlone levels id = .ok map) :
    id < atlas.tables.typeCount := by
  cases levels with
  | zero => cases given
  | succ levels =>
    by_contra outside
    rw [mapAlone, computeMap, Tables.typeData_eq_error outside] at given
    cases given

/-- A type that settles has a first level with which it does. -/
theorem exists_first_level {enough : Nat} {map : VarMap}
    (given : atlas.mapAlone enough id = .ok map) :
    ∃ last < enough, atlas.mapAlone (last + 1) id = .ok map ∧
      ∀ other, atlas.mapAlone last id ≠ .ok other :=
  Outcome.exists_first (fun levels => atlas.mapAlone levels id) given (fun _ never => nomatch never)
    fun levels _ before => mapAlone_mono before (Nat.le_succ levels)

/-- **A type that settles to a map is given it**, unless a type on the stack settles as early.  By
induction on the levels with which it settles: where the computation comes to others, the type
itself has not settled yet if its first level was taken. -/
theorem mapWithin_of_settles (enough : Nat) {map : VarMap} (levels : Nat) (stack : List Nat)
    (given : atlas.mapAlone enough id = .ok map) (detached : atlas.Detached id)
    (path : ∀ outer ∈ stack, ReflTransGen atlas.Draws outer id)
    (later : ∀ outer ∈ stack, ∀ other, atlas.mapAlone enough outer ≠ .ok other)
    (distinct : stack.Nodup) (below : ∀ outer ∈ stack, outer < atlas.tables.typeCount)
    (room : atlas.tables.typeCount < levels + stack.length) :
    Work.Always (MapMemory.Settled atlas) (atlas.mapWithin levels stack id) map := by
  induction enough using Nat.strongRecOn generalizing levels stack id map with
  | ind enough ih =>
    have settles := settles_of_mapAlone given
    have new : id ∉ stack := fun listed => later id listed map given
    obtain ⟨last, less, first, early⟩ := exists_first_level given
    -- the stack has no place for all types, so there is a level left
    obtain ⟨levels, rfl⟩ : ∃ fewer, levels = fewer + 1 := by
      have short := Hierarchy.length_le_of_nodup distinct below
      exact Nat.exists_eq_add_one_of_ne_zero (by omega)
    have others : ∀ other, atlas.Draws id other →
        Work.Follows (fun _ : MapMemory => True) (Work.lift (atlas.mapAlone last other))
          (MapMemory.Settled atlas) fun _ => atlas.mapWithin levels (id :: stack) other := by
      refine fun other step => Work.meets_lift ?_
      cases there : atlas.mapAlone last other with
      | error fault => trivial
      | ok inner =>
        refine ⟨0, fun _ _ => ih last less levels (id :: stack) there (detached.inner step)
          (path_cons path step) (List.forall_mem_cons.2 ⟨early, ?_⟩)
          (List.nodup_cons.2 ⟨new, distinct⟩)
          (List.forall_mem_cons.2 ⟨lt_of_mapAlone given, below⟩) ?_⟩
        · exact fun outer listed other soon =>
            later outer listed other (mapAlone_mono soon (Nat.le_of_lt less))
        · rw [List.length_cons]
          omega
    refine mapWithin_succ_meets (fun memory settled other found => ?_)
      (fun listed => new listed) (fun _ => ?_) fun memory settled other same => ?_
    · exact (settled id other found).unique settles
    · have outcome := (computeMap_follows id
        (fun owner owned => (detached.contains_eq path owned).symm) others ∅ trivial).2
      rw [mapAlone] at first
      rw [first] at outcome
      obtain ⟨least, always⟩ := outcome
      exact always least (Nat.le_refl _)
    · exact settled.insert (same ▸ settles)

/-- **From settled maps, the map of a type is given exactly when it settles to it.** -/
theorem exhaustive_ok_iff (detached : atlas.Detached id) {memory : MapMemory}
    (settled : memory.Settled atlas) (map : VarMap) :
    (atlas.exhaustive id memory).1 = .ok map ↔ atlas.Settles id map := by
  constructor
  · intro given
    have outcome := (mapWithin_settles (atlas.tables.typeCount + 2) [] detached (by simp) memory
      settled).2
    rwa [← exhaustive, given] at outcome
  · intro settles
    obtain ⟨enough, given⟩ := settles.exists_level
    exact (mapWithin_of_settles enough (atlas.tables.typeCount + 2) [] given detached (by simp)
      (by simp) List.nodup_nil (by simp) (by simp)).fst_eq settled

/-- On a well-formed snapshot, a map that can be computed without a memory is the one that is given
first. -/
theorem exhaustive_of_mapAlone (fit : atlas.tables.WellFormed) {levels : Nat} {map : VarMap}
    (alone : atlas.mapAlone levels id = .ok map) :
    (Work.onMaps (atlas.exhaustive id) .empty).1 = .ok map :=
  (exhaustive_ok_iff (ownersApart_of_wellFormed fit id).detached (MapMemory.settled_empty atlas)
    map).2 (settles_of_mapAlone alone)

/-- The bindings of a type are its map without the variables that stand for themselves. -/
theorem typeVariableMap_of_exhaustive {memory : Memory} {map : VarMap}
    (given : (Work.onMaps (atlas.exhaustive id) memory).1 = .ok map) :
    ∃ maps, atlas.typeVariableMap id memory =
      (.ok map.stripSelf, { memory with maps := maps }) := by
  have run : Work.onMaps (atlas.exhaustive id) memory =
      (.ok map, { memory with maps := (atlas.exhaustive id memory.maps).2 }) :=
    Prod.ext given rfl
  exact ⟨_, Work.bind_eq_ok.2 ⟨_, _, run, rfl⟩⟩

end Atlas

/-! ## Earlier calls -/

namespace Atlas

variable {atlas : Atlas}

/-- Calls remember settled maps only. -/
theorem settled_afterCalls {calls : List MapCall}
    (apart : ∀ call ∈ calls, atlas.OwnersApart call.id) :
    MapMemory.Settled atlas (atlas.afterCalls calls).maps := by
  exact afterCalls_keeps (MapMemory.settled_empty atlas) fun call listed maps settled =>
    (mapWithin_settles (atlas.tables.typeCount + 2) [] (apart call listed).detached (by simp) maps
      settled).1

/-- **What was asked before makes no difference to the map of a type.**  When no owner leads back,
neither from the type nor from those asked for before, the type has the same map as if it were the
first to be asked for, or none in both cases. -/
theorem exhaustive_after_calls (atlas : Atlas) {calls : List MapCall} {id : Nat}
    (before : ∀ call ∈ calls, atlas.OwnersApart call.id) (apart : atlas.OwnersApart id)
    (map : VarMap) :
    (Work.onMaps (atlas.exhaustive id) (atlas.afterCalls calls)).1 = .ok map ↔
      (Work.onMaps (atlas.exhaustive id) .empty).1 = .ok map :=
  (exhaustive_ok_iff apart.detached (settled_afterCalls before) map).trans
    (exhaustive_ok_iff apart.detached (MapMemory.settled_empty atlas) map).symm

end Atlas

/-- A class with one variable, another class with one, and the second applied with the first,
applied as well, as its owner. -/
def Snapshot.ownedBox : Snapshot :=
  { empty with
    types := [
      .object [("n", .nat 0), ("v", .array [.nat 2])],
      .object [("n", .nat 1), ("v", .array [.nat 3])],
      .object [("tv", .nat 2)],
      .object [("tv", .nat 3)],
      .object [("n", .nat 4)],
      .object [("r", .nat 0), ("v", .array [.nat 4])],
      .object [("r", .nat 1), ("o", .nat 5), ("v", .array [.nat 4])]]
    names := [.text "Outer", .text "Inner", .text "A", .text "B", .text "Box"] }

/-- The snapshot `ownedBox` with the usual settings. -/
def Atlas.ownedBox : Atlas :=
  ⟨.ofSnapshot .ownedBox, .default⟩

/-- Two classes, each of which extends a class that is owned by the other one. -/
def Snapshot.crossedOwners : Snapshot :=
  { empty with
    types := [
      .object [("n", .nat 0), ("s", .nat 4)],
      .object [("n", .nat 1), ("s", .nat 5)],
      .object [("n", .nat 2), ("v", .array [.nat 6])],
      .object [("n", .nat 3), ("v", .array [.nat 7])],
      .object [("r", .nat 3), ("o", .nat 1), ("v", .array [.nat 8])],
      .object [("r", .nat 2), ("o", .nat 0), ("v", .array [.nat 8])],
      .object [("tv", .nat 4)],
      .object [("tv", .nat 5)],
      .object [("n", .nat 6)]]
    names := [.text "A", .text "B", .text "Left", .text "Right", .text "L", .text "R",
      .text "Box"] }

/-- The snapshot `crossedOwners` with the usual settings. -/
def Atlas.crossedOwners : Atlas :=
  ⟨.ofSnapshot .crossedOwners, .default⟩

namespace Atlas

/-! ### Owners that do not lead back -/

theorem ownedBox_wellFormed : ownedBox.tables.WellFormed :=
  .of_behind (by decide)

/-- The inner type as the first one that is asked for. -/
theorem ownedBox_exhaustive :
    (Work.onMaps (ownedBox.exhaustive 6) .empty).1 =
      .ok ((VarMap.empty.insert 2 (.plain 4)).insert 3 (.plain 4)) :=
  exhaustive_of_mapAlone ownedBox_wellFormed (show ownedBox.mapAlone 2 6 = _ from rfl)

theorem exhaustive_after_calls_ownedBox :
    (Work.onMaps (ownedBox.exhaustive 6)
      (ownedBox.afterCalls [.typeVariableMap 5, .exhaustive 1])).1 =
        .ok ((VarMap.empty.insert 2 (.plain 4)).insert 3 (.plain 4)) :=
  (exhaustive_after_calls ownedBox
    (fun call _ => ownersApart_of_wellFormed ownedBox_wellFormed call.id)
    (ownersApart_of_wellFormed ownedBox_wellFormed 6) _).2 ownedBox_exhaustive

/-! ### Owners that lead back -/

/-- How the map of a class with one supertype, a parameterized one, is put together. -/
theorem computeMap_of_supertype {atlas : Atlas} {nested : Nat → Remembering MapMemory VarMap}
    {stack : List Nat} {id : Nat} {cls : ClassRecord} (supertype : TypeRef)
    {record : ParameterizedRecord} {before between after : MapMemory}
    {own inherited merged map : VarMap}
    (known : atlas.tables.typeData id = .ok (.rawClass cls)) (alone : cls.supertypes = [supertype])
    (applied : atlas.tables.typeData supertype.id = .ok (.parameterized record))
    (bound : atlas.remap supertype.id record .empty = .ok own)
    (above : nested record.rawType.id before = (.ok inherited, between))
    (owners : atlas.mergeOwners nested stack atlas.config.ownerLimit record.ownerType
      (own.mergeMissing inherited) between = (.ok merged, after))
    (resolved : atlas.resolveChains merged = .ok map) :
    atlas.computeMap nested stack id before = (.ok map, after) := by
  refine Work.bind_eq_ok.2 ⟨_, _, Work.lift_eq_ok.2 ⟨known, rfl⟩, ?_⟩
  refine Work.bind_eq_ok.2 ⟨merged, after, ?_, Work.lift_eq_ok.2 ⟨resolved, rfl⟩⟩
  rw [alone]
  refine Work.bind_eq_ok.2 ⟨_, _, Work.lift_eq_ok.2 ⟨applied, rfl⟩, ?_⟩
  refine Work.bind_eq_ok.2 ⟨_, _, Work.lift_eq_ok.2 ⟨bound, rfl⟩, ?_⟩
  refine Work.bind_eq_ok.2 ⟨_, _, above, ?_⟩
  exact Work.bind_eq_ok.2 ⟨_, _, owners, rfl⟩

/-- A class that is made from nothing else has no bindings. -/
theorem crossedOwners_plain {id : Nat} (plain : id = 2 ∨ id = 3) {levels : Nat} {stack : List Nat}
    {memory : MapMemory} (unknown : memory[id]? = none) (new : id ∉ stack) :
    crossedOwners.mapWithin (levels + 1) stack id memory =
      (.ok .empty, memory.insert id .empty) := by
  rcases plain with rfl | rfl <;> exact mapWithin_of_computeMap unknown new rfl

/-- Asked for from the first class, the second one is given without the bindings of its owner. -/
theorem crossedOwners_exhaustive_first :
    (crossedOwners.exhaustive 0 ∅).2[1]? = some (VarMap.empty.insert 6 (.plain 8)) := by
  have second : crossedOwners.mapWithin 10 [0] 1 ((∅ : MapMemory).insert 3 .empty) =
      (.ok (VarMap.empty.insert 6 (.plain 8)), _) :=
    mapWithin_of_computeMap (by simp) (by decide)
      (computeMap_of_supertype (.plain 5) rfl rfl rfl rfl
        (crossedOwners_plain (.inl rfl) (by simp) (by decide)) rfl rfl)
  have first : crossedOwners.exhaustive 0 ∅ =
      (.ok ((VarMap.empty.insert 6 (.plain 8)).insert 7 (.plain 8)), _) :=
    mapWithin_of_computeMap (by simp) (by decide)
      (computeMap_of_supertype (.plain 4) rfl rfl rfl rfl
        (crossedOwners_plain (.inr rfl) (by simp) (by decide))
        (Work.bind_eq_ok.2 ⟨_, _, Work.lift_eq_ok.2 ⟨rfl, rfl⟩,
          Work.bind_eq_ok.2 ⟨_, _, second, rfl⟩⟩) rfl)
  rw [first]
  simp [Std.HashMap.getElem_insert]

/-- As the first type that is asked for, the second class has them. -/
theorem crossedOwners_exhaustive_second :
    (crossedOwners.exhaustive 1 ∅).1 =
      .ok ((VarMap.empty.insert 6 (.plain 8)).insert 7 (.plain 8)) := by
  have first : crossedOwners.mapWithin 10 [1] 0 ((∅ : MapMemory).insert 2 .empty) =
      (.ok (VarMap.empty.insert 7 (.plain 8)), _) :=
    mapWithin_of_computeMap (by simp) (by decide)
      (computeMap_of_supertype (.plain 4) rfl rfl rfl rfl
        (crossedOwners_plain (.inr rfl) (by simp) (by decide)) rfl rfl)
  have second : crossedOwners.exhaustive 1 ∅ =
      (.ok ((VarMap.empty.insert 6 (.plain 8)).insert 7 (.plain 8)), _) :=
    mapWithin_of_computeMap (by simp) (by decide)
      (computeMap_of_supertype (.plain 5) rfl rfl rfl rfl
        (crossedOwners_plain (.inl rfl) (by simp) (by decide))
        (Work.bind_eq_ok.2 ⟨_, _, Work.lift_eq_ok.2 ⟨rfl, rfl⟩,
          Work.bind_eq_ok.2 ⟨_, _, first, rfl⟩⟩) rfl)
  rw [second]

/-- **The second class loses a binding when the first one was asked for before.** -/
theorem exhaustive_crossedOwners :
    (Work.onMaps (crossedOwners.exhaustive 1) (crossedOwners.afterCalls [.exhaustive 0])).1 =
        .ok (VarMap.empty.insert 6 (.plain 8)) ∧
      (Work.onMaps (crossedOwners.exhaustive 1) .empty).1 =
        .ok ((VarMap.empty.insert 6 (.plain 8)).insert 7 (.plain 8)) ∧
      VarMap.empty.insert 6 (.plain 8) ≠
        (VarMap.empty.insert 6 (.plain 8)).insert 7 (.plain 8) := by
  refine ⟨?_, crossedOwners_exhaustive_second, by decide⟩
  show (crossedOwners.mapWithin 11 [] 1 (crossedOwners.exhaustive 0 ∅).2).1 = _
  rw [mapWithin_apply, crossedOwners_exhaustive_first]

end Atlas

end ClassAtlas

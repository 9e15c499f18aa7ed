import ClassAtlas.Proofs.Recall.Types
import ClassAtlas.Proofs.Substitution.History
import ClassAtlas.Proofs.Substitution.Resolution
import Mathlib.Tactic.IntervalCases

/-!
# Which binding of a parameterized type wins

The map of a parameterized type has several sources: its own arguments, the map of its class, and
the arguments and maps of its owners, of as many owners as the limit allows (`Atlas.sources`).  An
earlier source takes precedence over a later one.  The maps of the classes are those that the
engine gives for them, and it gives them afterwards as well, because they are remembered.

Maps of classes draw on maps of classes only.  So what is remembered of parameterized types comes
from calls for them, and was put together while only the type itself was on the stack, where no
owner is passed over.  All these maps follow the precedence of their sources
(`exhaustive_precedes`).
-/

set_option autoImplicit false

namespace ClassAtlas

/-! ## Sources -/

namespace Atlas

/-- The sources that the owners of a type contribute, of so many owners at most: for a parameterized
owner its arguments by position, the map of its class and what its own owner contributes; for a
class its map.  `engine` gives the map of a class. -/
def ownerSources (atlas : Atlas) (engine : Nat → Except Fault VarMap) :
    Nat → Option TypeRef → Except Fault (List (List (Nat × TypeRef)))
  | _, none => .ok []
  | 0, some _ => .ok []
  | left + 1, some owner => do
    match ← atlas.tables.typeData owner.id with
    | .parameterized record => do
      let declared ← atlas.declaredVariables owner.id record
      let inherited ← engine record.rawType.id
      let others ← ownerSources atlas engine left record.ownerType
      return declared.zip record.arguments :: inherited.entries :: others
    | .rawClass _ => do
      let inherited ← engine owner.id
      return [inherited.entries]
    | .typeVariable _ => return []
    | .wildcard _ => return []

/-- The sources of the map of a parameterized type, the first one taking precedence: its arguments
by position, the map of its class, and what its owners contribute. -/
def sources (atlas : Atlas) (engine : Nat → Except Fault VarMap) (id : Nat)
    (record : ParameterizedRecord) : Except Fault (List (List (Nat × TypeRef))) := do
  let declared ← atlas.declaredVariables id record
  let inherited ← engine record.rawType.id
  let owners ← atlas.ownerSources engine atlas.config.ownerLimit record.ownerType
  return declared.zip record.arguments :: inherited.entries :: owners

/-- A map follows the precedence of its sources: it binds the variables that some source binds, and
a first binding that is no variable is the binding of the map. -/
def Precedes (atlas : Atlas) (sources : List (List (Nat × TypeRef))) (map : VarMap) : Prop :=
  (∀ key, key ∈ map.keys ↔ ∃ source ∈ sources, ∃ value, (key, value) ∈ source) ∧
    ∀ key value, sources.flatten.lookup key = some value →
      ¬atlas.tables.IsTypeVariable value.id → map.find? key = some value

variable {atlas : Atlas}

/-- A chain that is followed leaves the precedence of the sources. -/
theorem precedes_of_resolveChains {sources : List (List (Nat × TypeRef))} {merged map : VarMap}
    (lookups : ∀ key, merged.find? key = sources.flatten.lookup key)
    (run : atlas.resolveChains merged = .ok map) : atlas.Precedes sources map := by
  constructor
  · intro key
    have same : key ∈ map.keys ↔ key ∈ merged.keys := by
      rw [VarMap.mem_keys_iff, VarMap.mem_keys_iff]
      constructor
      · rintro ⟨value, found⟩
        refine Option.ne_none_iff_exists'.1 fun free => ?_
        rw [resolveChains_find?_eq_none run free] at found
        cases found
      · rintro ⟨value, found⟩
        obtain ⟨-, result, -, -, given, -⟩ := resolveChains_turn run found
        exact ⟨result, given⟩
    rw [same, VarMap.mem_keys_iff, ← Option.isSome_iff_exists, lookups, ← List.flatMap_id,
      VarMap.lookup_flatMap_isSome_iff]
    simp only [id, VarMap.lookup_isSome_iff]
  · intro key value first other
    rw [← lookups] at first
    exact (resolveChains_keeps_iff run first).2 fun varies => absurd varies other

/-! ## Gathering -/

/-- No class lists one of its variables twice. -/
def DistinctVariables (atlas : Atlas) : Prop :=
  ∀ id cls, atlas.tables.typeData id = .ok (.rawClass cls) → cls.typeVariables.Nodup

theorem find?_bindPositional (distinct : atlas.DistinctVariables) {id : Nat}
    {record : ParameterizedRecord} {level : VarMap}
    (bound : atlas.bindPositional id record .empty = .ok level) :
    ∃ declared, atlas.declaredVariables id record = .ok declared ∧
      ∀ key, level.find? key = (declared.zip record.arguments).lookup key := by
  obtain ⟨declared, given, same⟩ := Outcome.bind_eq_ok.1 bound
  obtain rfl := Except.ok.inj same
  refine ⟨declared, given, fun key => ?_⟩
  have once : ((declared.zip record.arguments).map Prod.fst).Nodup := by
    obtain ⟨cls, known, rfl⟩ := exists_declaring given
    exact VarMap.nodup_zip_fst (distinct _ cls known) _
  rw [positional, VarMap.find?_foldl_insert once, VarMap.find?_empty, Option.or_none]

/-- Going through owners forgets no map. -/
theorem keeps_of_mergeOwners {levels : Nat} {stack : List Nat} {left : Nat}
    {owner : Option TypeRef} {map : VarMap} {before after : MapMemory}
    {outcome : Except Fault VarMap}
    (run : atlas.mergeOwners (atlas.mapWithin levels stack) stack left owner map before =
      (outcome, after)) : Keeps before after := by
  have nested : ∀ other, Work.Meets (Keeps before) (atlas.mapWithin levels stack other)
      (fun _ => True) fun _ => True :=
    fun other between kept =>
      ⟨kept.trans (mapWithin_forgets_nothing levels stack other between), Outcome.meets_true _⟩
  have walk : Work.Meets (Keeps before)
      (atlas.mergeOwners (atlas.mapWithin levels stack) stack left owner map) (fun _ => True)
      fun _ => True :=
    mergeOwners_meets atlas.closed_trivial left owner trivial fun other _ _ => nested other
  have kept := (walk before (.refl before)).1
  rwa [run] at kept

/-- What owners add comes after what is there already, in the order of their sources.  No owner is
passed over when there is no class on the stack. -/
theorem mergeOwners_sources (distinct : atlas.DistinctVariables) {levels : Nat} {stack : List Nat}
    (free : ∀ id ∈ stack, ¬atlas.tables.IsClass id) {engine : Nat → Except Fault VarMap}
    {left : Nat} {owner : Option TypeRef} {map merged : VarMap} {before after : MapMemory}
    (run : atlas.mergeOwners (atlas.mapWithin levels stack) stack left owner map before =
      (.ok merged, after))
    (answers : ∀ id map, after[id]? = some map → engine id = .ok map) :
    ∃ sources, atlas.ownerSources engine left owner = .ok sources ∧
      ∀ key, merged.find? key = (map.find? key).or (sources.flatten.lookup key) := by
  have unlisted : ∀ {id : Nat}, atlas.tables.IsClass id → ¬stack.contains id = true :=
    fun cls again => free _ (by simpa using again) cls
  -- an owner that contributes nothing
  have nothing : ∀ {map : VarMap}, map = merged → ∀ key,
      merged.find? key =
        (map.find? key).or (([] : List (List (Nat × TypeRef))).flatten.lookup key) :=
    fun same key => same ▸ (Option.or_none ..).symm
  induction left generalizing owner map before with
  | zero =>
    cases owner <;> exact ⟨[], rfl, nothing (Except.ok.inj (congrArg Prod.fst run))⟩
  | succ left ih =>
    cases owner with
    | none => exact ⟨[], rfl, nothing (Except.ok.inj (congrArg Prod.fst run))⟩
    | some owner =>
      obtain ⟨data, between, asked, run⟩ := Work.bind_eq_ok.1 run
      obtain ⟨known, rfl⟩ := Work.lift_eq_ok.1 asked
      rw [ownerSources, known, Outcome.ok_bind]
      cases data with
      | typeVariable | wildcard => exact ⟨[], rfl, nothing (Except.ok.inj (congrArg Prod.fst run))⟩
      | rawClass record =>
        simp only [if_neg (unlisted ⟨record, known⟩)] at run ⊢
        obtain ⟨inherited, last, asked, run⟩ := Work.bind_eq_ok.1 run
        cases run
        have given := answers _ _ (mapWithin_remembers_of_run asked)
        refine ⟨[inherited.entries], by rw [given]; rfl, fun key => ?_⟩
        rw [VarMap.find?_mergeMissing, List.flatten_singleton, VarMap.lookup_entries]
      | parameterized record =>
        obtain ⟨level, between, asked, run⟩ := Work.bind_eq_ok.1 run
        obtain ⟨bound, rfl⟩ := Work.lift_eq_ok.1 asked
        simp only [if_neg (unlisted (isClass_of_bindPositional bound))] at run
        obtain ⟨inherited, middle, asked, run⟩ := Work.bind_eq_ok.1 run
        obtain ⟨next, between, step, run⟩ := Work.bind_eq_ok.1 run
        cases step
        obtain ⟨declared, declaring, level_eq⟩ := find?_bindPositional distinct bound
        have given :=
          answers _ _ (keeps_of_mergeOwners run _ _ (mapWithin_remembers_of_run asked))
        obtain ⟨others, rest, lookups⟩ := ih run
        refine ⟨declared.zip record.arguments :: inherited.entries :: others, ?_, fun key => ?_⟩
        · simp only [declaring, given, rest, Outcome.ok_bind]
          rfl
        · rw [lookups, VarMap.find?_mergeMissing, VarMap.find?_mergeMissing, level_eq,
            List.flatten_cons, List.flatten_cons, List.lookup_append, List.lookup_append,
            VarMap.lookup_entries, Option.or_assoc, Option.or_assoc]

/-! ## Calls -/

/-- What is remembered of a parameterized type follows the precedence of its sources, the maps of
classes being those that are remembered or, for any engine, given. -/
def Ordered (atlas : Atlas) (maps : MapMemory) (id : Nat) (map : VarMap) : Prop :=
  ∀ record, atlas.tables.typeData id = .ok (.parameterized record) →
    ∀ engine : Nat → Except Fault VarMap,
      (∀ other map, maps[other]? = some map → engine other = .ok map) →
      ∃ sources, atlas.sources engine id record = .ok sources ∧ atlas.Precedes sources map

theorem Ordered.later {maps later : MapMemory} {id : Nat} {map : VarMap}
    (ordered : atlas.Ordered maps id map) (kept : Keeps maps later) : atlas.Ordered later id map :=
  fun record known engine answers =>
    ordered record known engine fun other map found => answers other map (kept other map found)

/-- A memory in which all maps of parameterized types follow the precedence of their sources. -/
def Orderly (atlas : Atlas) (maps : MapMemory) : Prop :=
  maps.Holds (atlas.Ordered maps)

theorem ordered_of_isClass {maps : MapMemory} {id : Nat} {map : VarMap}
    (cls : atlas.tables.IsClass id) : atlas.Ordered maps id map := by
  intro record known
  obtain ⟨cls, again⟩ := cls
  cases known.symm.trans again

/-- The map of a parameterized type follows the precedence of its sources when only the type itself
is on the stack. -/
theorem ordered_of_computeMap (distinct : atlas.DistinctVariables) {levels id : Nat} {map : VarMap}
    {before after : MapMemory}
    (run : atlas.computeMap (atlas.mapWithin levels [id]) [id] id before = (.ok map, after)) :
    atlas.Ordered after id map := by
  intro record known engine answers
  obtain ⟨data, between, asked, run⟩ := Work.bind_eq_ok.1 run
  obtain ⟨read, rfl⟩ := Work.lift_eq_ok.1 asked
  cases known.symm.trans read
  obtain ⟨own, between, asked, run⟩ := Work.bind_eq_ok.1 run
  obtain ⟨bound, rfl⟩ := Work.lift_eq_ok.1 asked
  obtain ⟨inherited, middle, asked, run⟩ := Work.bind_eq_ok.1 run
  obtain ⟨merged, last, owners, run⟩ := Work.bind_eq_ok.1 run
  obtain ⟨resolved, rfl⟩ := Work.lift_eq_ok.1 run
  have free : ∀ other ∈ [id], ¬atlas.tables.IsClass other := by
    rintro other listed ⟨cls, again⟩
    cases List.mem_singleton.1 listed
    cases known.symm.trans again
  obtain ⟨declared, declaring, own_eq⟩ := find?_bindPositional distinct bound
  have given := answers _ _ (keeps_of_mergeOwners owners _ _ (mapWithin_remembers_of_run asked))
  obtain ⟨others, rest, lookups⟩ := mergeOwners_sources distinct free owners answers
  refine ⟨declared.zip record.arguments :: inherited.entries :: others, ?_,
    precedes_of_resolveChains (fun key => ?_) resolved⟩
  · simp only [sources, declaring, given, rest, Outcome.ok_bind]
    rfl
  · rw [lookups, VarMap.find?_mergeMissing, own_eq, List.flatten_cons, List.flatten_cons,
      List.lookup_append, List.lookup_append, VarMap.lookup_entries, Option.or_assoc]

/-- Everything that is new in a memory is the map of a class. -/
def AddsClasses (atlas : Atlas) (before after : MapMemory) : Prop :=
  ∀ id map, after[id]? = some map → before[id]? = none → atlas.tables.IsClass id

/-- The maps that a class is made from are those of classes. -/
theorem mapWithin_addsClasses {start : MapMemory} (levels : Nat) (stack : List Nat) {id : Nat}
    (cls : atlas.tables.IsClass id) :
    Work.Meets (atlas.AddsClasses start) (atlas.mapWithin levels stack id) (fun _ => True)
      fun _ => True := by
  induction levels generalizing stack id with
  | zero => exact mapWithin_zero_meets (fun _ _ _ _ => trivial) trivial trivial
  | succ levels ih =>
    refine mapWithin_succ_meets (fun _ _ _ _ => trivial) (fun _ => trivial) (fun _ => ?_) ?_
    · exact computeMap_meets atlas.closed_trivial id fun other step => ih (id :: stack) step.2
    · intro maps sound map _ other found there
      rw [Std.HashMap.getElem?_insert] at there
      split at there
      · next same => exact fun _ => beq_iff_eq.1 same ▸ cls
      · exact sound other found there

/-- A call keeps what is remembered of parameterized types in order. -/
theorem orderly_exhaustive (distinct : atlas.DistinctVariables) (id : Nat) {maps : MapMemory}
    (before : atlas.Orderly maps) : atlas.Orderly (atlas.exhaustive id maps).2 := by
  have kept : Keeps maps (atlas.exhaustive id maps).2 := mapWithin_forgets_nothing _ [] id maps
  intro other map found
  cases known : maps[other]? with
  | some older =>
    obtain rfl := Option.some.inj ((kept other older known).symm.trans found)
    exact (before other older known).later kept
  | none =>
    -- what is new is the map of a class, or that of the type itself
    cases unknown : maps[id]? with
    | some own =>
      rw [exhaustive_of_remembered unknown] at found
      cases known.symm.trans found
    | none =>
      have adds : Work.Meets (atlas.AddsClasses maps)
          (atlas.computeMap (atlas.mapWithin (atlas.tables.typeCount + 1) [id]) [id] id)
          (fun _ => True) fun _ => True :=
        computeMap_meets atlas.closed_trivial id fun _ step => mapWithin_addsClasses _ [id] step.2
      have new := (adds maps fun _ _ here there => nomatch here.symm.trans there).1
      rw [exhaustive_apply unknown] at found ⊢
      rcases run : atlas.computeMap (atlas.mapWithin (atlas.tables.typeCount + 1) [id]) [id] id maps
        with ⟨fault | own, after⟩
      · rw [run] at new found
        exact ordered_of_isClass (new other map found known)
      · rw [run] at new found
        by_cases cls : atlas.tables.IsClass other
        · exact ordered_of_isClass cls
        · rw [Std.HashMap.getElem?_insert] at found
          split at found
          · next same =>
            obtain rfl := beq_iff_eq.1 same
            obtain rfl := Option.some.inj found
            refine (ordered_of_computeMap distinct run).later ?_
            exact Keeps.insert (.refl after) fun older there =>
              absurd (new id older there known) cls
          · exact absurd (new other map found known) cls

/-- **Precedence of the sources of a parameterized type's map.**  Where no class lists a variable
twice, the map of a parameterized type binds the variables that some of its sources binds: its own
arguments, then the map of its class, then those of its owners within the limit.  A variable whose
first binding is no variable stands for this binding. -/
theorem exhaustive_precedes (atlas : Atlas) (distinct : atlas.DistinctVariables)
    (calls : List MapCall) {id : Nat} {record : ParameterizedRecord} {map : VarMap}
    {after : Memory} (known : atlas.tables.typeData id = .ok (.parameterized record))
    (given : Work.onMaps (atlas.exhaustive id) (atlas.afterCalls calls) = (.ok map, after)) :
    ∃ sources,
      atlas.sources (fun other => (Work.onMaps (atlas.exhaustive other) after).1) id record =
        .ok sources ∧
      (∀ key, key ∈ map.keys ↔ ∃ source ∈ sources, ∃ value, (key, value) ∈ source) ∧
      ∀ key value, sources.flatten.lookup key = some value →
        ¬atlas.tables.IsTypeVariable value.id → map.find? key = some value := by
  have start : atlas.Orderly ∅ := MapMemory.holds_empty _
  have before : atlas.Orderly (atlas.afterCalls calls).maps :=
    afterCalls_keeps start fun call _ _ orderly => orderly_exhaustive distinct call.id orderly
  rcases run : atlas.exhaustive id (atlas.afterCalls calls).maps with ⟨outcome, maps⟩
  have same : Work.onMaps (atlas.exhaustive id) (atlas.afterCalls calls) =
      (outcome, { atlas.afterCalls calls with maps }) := by
    rw [Work.onMaps, run]
  cases same.symm.trans given
  have orderly := orderly_exhaustive distinct id before
  rw [run] at orderly
  refine orderly id map (mapWithin_remembers_of_run run) record known _ fun other map found => ?_
  exact congrArg Prod.fst (exhaustive_of_remembered found)

end Atlas

/-! ### Sources that bind one variable -/

/-- Two classes with one variable each, and a third one with a variable that extends an application
of the first.  The third class is applied to a string, owned by its application to a number, which
is owned by an application of the first class, which is owned by one of the second. -/
def Snapshot.boxInBox : Snapshot :=
  { empty with
    types := [
      .object [("n", .nat 0), ("v", .array [.nat 2])],
      .object [("n", .nat 1), ("v", .array [.nat 3])],
      .object [("tv", .nat 3)],
      .object [("tv", .nat 4)],
      .object [("tv", .nat 5)],
      .object [("n", .nat 6)],
      .object [("n", .nat 7)],
      .object [("r", .nat 0), ("v", .array [.nat 6])],
      .object [("n", .nat 2), ("s", .nat 7), ("v", .array [.nat 4])],
      .object [("r", .nat 1), ("v", .array [.nat 6])],
      .object [("r", .nat 0), ("o", .nat 9), ("v", .array [.nat 5])],
      .object [("r", .nat 8), ("o", .nat 10), ("v", .array [.nat 6])],
      .object [("r", .nat 8), ("o", .nat 11), ("v", .array [.nat 5])]]
    names := [.text "Lid", .text "Crate", .text "Box", .text "L", .text "C", .text "B",
      .text "String", .text "Integer"] }

/-- The snapshot `boxInBox` where two owners count. -/
def Atlas.boxInBox : Atlas :=
  ⟨.ofSnapshot .boxInBox, { Config.default with ownerLimit := 2 }⟩

namespace Atlas

theorem boxInBox_wellFormed : boxInBox.tables.WellFormed :=
  .of_behind (by decide)

theorem boxInBox_distinctVariables : boxInBox.DistinctVariables := by
  intro id cls known
  have inside : id < 13 := Tables.typeData_lt known
  interval_cases id <;> cases known <;> decide

/-- What is computed alone is given after any calls. -/
theorem boxInBox_exhaustive (calls : List MapCall) {levels id : Nat} {map : VarMap}
    (alone : boxInBox.mapAlone levels id = .ok map) :
    (Work.onMaps (boxInBox.exhaustive id) (boxInBox.afterCalls calls)).1 = .ok map :=
  (exhaustive_after_calls boxInBox
    (fun call _ => ownersApart_of_wellFormed boxInBox_wellFormed call.id)
    (ownersApart_of_wellFormed boxInBox_wellFormed id) map).2
      (exhaustive_of_mapAlone boxInBox_wellFormed alone)

/-- The variable of the third class is bound by the type and by its first owner, and that of the
first class by the supertype and by the second owner.  The first bindings win.  The third owner,
which would bind the variable of the second class, is past the limit. -/
theorem exhaustive_precedes_boxInBox :
    let map := (VarMap.empty.insert 2 (.plain 6)).insert 4 (.plain 5)
    let after := boxInBox.afterCalls [.typeVariableMap 11, .exhaustive 12]
    (Work.onMaps (boxInBox.exhaustive 12) (boxInBox.afterCalls [.typeVariableMap 11])).1 =
      .ok map ∧
    boxInBox.sources (fun other => (Work.onMaps (boxInBox.exhaustive other) after).1) 12
        ⟨.plain 8, some (.plain 11), [.plain 5]⟩ =
      .ok [[(4, .plain 5)], [(2, .plain 6)], [(4, .plain 6)], [(2, .plain 6)], [(2, .plain 5)],
        []] ∧
    map.find? 4 = some (.plain 5) ∧ map.find? 2 = some (.plain 6) ∧
      ∀ key, key ∈ map.keys ↔ key = 4 ∨ key = 2 := by
  intro map after
  have known : boxInBox.tables.typeData 12 =
    .ok (.parameterized ⟨.plain 8, some (.plain 11), [.plain 5]⟩) := rfl
  have given : (Work.onMaps (boxInBox.exhaustive 12)
      (boxInBox.afterCalls [.typeVariableMap 11])).1 = .ok map :=
    boxInBox_exhaustive [.typeVariableMap 11] (show boxInBox.mapAlone 4 12 = _ from rfl)
  -- the maps of the two classes are given again afterwards
  have lid : (Work.onMaps (boxInBox.exhaustive 0) after).1 = .ok .empty :=
    boxInBox_exhaustive _ (show boxInBox.mapAlone 4 0 = _ from rfl)
  have box : (Work.onMaps (boxInBox.exhaustive 8) after).1 =
      .ok (VarMap.empty.insert 2 (.plain 6)) :=
    boxInBox_exhaustive _ (show boxInBox.mapAlone 4 8 = _ from rfl)
  obtain ⟨sources, listed, keys, values⟩ := exhaustive_precedes boxInBox
    boxInBox_distinctVariables [.typeVariableMap 11] known (Prod.ext given rfl)
  have concrete : sources = [[(4, .plain 5)], [(2, .plain 6)], [(4, .plain 6)], [(2, .plain 6)],
      [(2, .plain 5)], []] := by
    let engine := fun other => (Work.onMaps (boxInBox.exhaustive other) after).1
    have second : boxInBox.ownerSources engine 1 (some (.plain 10)) = .ok [[(2, .plain 5)], []] :=
      Outcome.bind_eq_ok.2 ⟨_, rfl, Outcome.bind_eq_ok.2 ⟨[2], rfl, Outcome.bind_eq_ok.2
        ⟨_, lid, rfl⟩⟩⟩
    have first : boxInBox.ownerSources engine 2 (some (.plain 11)) =
        .ok [[(4, .plain 6)], [(2, .plain 6)], [(2, .plain 5)], []] :=
      Outcome.bind_eq_ok.2 ⟨_, rfl, Outcome.bind_eq_ok.2 ⟨[4], rfl, Outcome.bind_eq_ok.2
        ⟨_, box, Outcome.bind_eq_ok.2 ⟨_, second, rfl⟩⟩⟩⟩
    exact Except.ok.inj (listed.symm.trans (Outcome.bind_eq_ok.2 ⟨[4], rfl,
      Outcome.bind_eq_ok.2 ⟨_, box, Outcome.bind_eq_ok.2 ⟨_, first, rfl⟩⟩⟩))
  subst concrete
  refine ⟨given, listed, values 4 _ rfl ?_, values 2 _ rfl ?_, fun key => (keys key).trans ?_⟩
  · exact fun ⟨_, varies⟩ => nomatch varies
  · exact fun ⟨_, varies⟩ => nomatch varies
  · have either : key = 4 ∨ key = 2 ∨ key = 4 ∨ key = 2 ↔ key = 4 ∨ key = 2 := by tauto
    simpa using either

end Atlas

end ClassAtlas

import ClassAtlas.Proofs.Following
import ClassAtlas.Proofs.Tables
import ClassAtlas.Substitution
import Mathlib.Data.List.Basic

/-!
# How a map is computed

The map of a type is put together from the maps of the classes that it is made from: the class of a
parameterized type, the supertypes of a class, and the classes of owner types
(`Atlas.Consults`).  A wrong record can name another type in such a place, but from that no bindings
are taken (`Atlas.Draws`).

One nested computation of a map is given with the memory made explicit (`mapWithin_apply`).  A walk
through the computation serves any property of maps that its operations respect: when the maps that
are drawn on have the property, so has the map that is put together from them, and the classes
above the type were all drawn on (`computeMap_draws`, `computeMap_meets`).
-/

set_option autoImplicit false

namespace ClassAtlas

/-! ## Where bindings come from -/

namespace Tables

variable (tables : Tables)

/-- The classes of owner types, of so many owners at most. -/
def ownerClasses : Nat → Option TypeRef → List Nat
  | _, none => []
  | 0, some _ => []
  | left + 1, some owner =>
    match tables.typeData owner.id with
    | .ok (.parameterized record) => record.rawType.id :: ownerClasses left record.ownerType
    | .ok (.rawClass _) => [owner.id]
    | _ => []

/-- A type is a parameterized type, or a class with a parameterized supertype. -/
inductive Applies (tables : Tables) (id : Nat) : ParameterizedRecord → Prop
  | itself {record : ParameterizedRecord} :
    tables.typeData id = .ok (.parameterized record) → Applies tables id record
  | supertype {cls : ClassRecord} {supertype : TypeRef} {record : ParameterizedRecord} :
    tables.typeData id = .ok (.rawClass cls) → supertype ∈ cls.supertypes →
      tables.typeData supertype.id = .ok (.parameterized record) → Applies tables id record

/-- A supertype is a class, or an application of it. -/
inductive OfClass (tables : Tables) (supertype : TypeRef) : Nat → Prop
  | plain {record : ClassRecord} :
    tables.typeData supertype.id = .ok (.rawClass record) → OfClass tables supertype supertype.id
  | applied {record : ParameterizedRecord} :
    tables.typeData supertype.id = .ok (.parameterized record) →
      OfClass tables supertype record.rawType.id

/-- The class of a parameterized type, and the classes of the supertypes of a class. -/
inductive ClassAbove (tables : Tables) (id : Nat) : Nat → Prop
  | rawType {record : ParameterizedRecord} :
    tables.typeData id = .ok (.parameterized record) → ClassAbove tables id record.rawType.id
  | supertype {cls : ClassRecord} {supertype : TypeRef} {other : Nat} :
    tables.typeData id = .ok (.rawClass cls) → supertype ∈ cls.supertypes →
      tables.OfClass supertype other → ClassAbove tables id other

/-- No parameterized supertype of a class has an owner. -/
def SupertypesUnowned (tables : Tables) : Prop :=
  ∀ {id : Nat} {cls : ClassRecord} {supertype : TypeRef} {record : ParameterizedRecord},
    tables.typeData id = .ok (.rawClass cls) → supertype ∈ cls.supertypes →
      tables.typeData supertype.id = .ok (.parameterized record) → record.ownerType = none

end Tables

namespace Atlas

variable {atlas : Atlas}

/-- A type takes bindings over from a class among the owner types it is made with. -/
def OwnedBy (atlas : Atlas) (id owner : Nat) : Prop :=
  ∃ record, atlas.tables.Applies id record ∧
    owner ∈ atlas.tables.ownerClasses atlas.config.ownerLimit record.ownerType

/-- A type takes bindings over from a class. -/
inductive Consults (atlas : Atlas) (id : Nat) : Nat → Prop
  | rawType {record : ParameterizedRecord} :
    atlas.tables.Applies id record → Consults atlas id record.rawType.id
  | supertype {cls above : ClassRecord} {supertype : TypeRef} :
    atlas.tables.typeData id = .ok (.rawClass cls) → supertype ∈ cls.supertypes →
      atlas.tables.typeData supertype.id = .ok (.rawClass above) → Consults atlas id supertype.id
  | owner {owner : Nat} : atlas.OwnedBy id owner → Consults atlas id owner

/-- A type takes bindings over from a type that is a class. -/
def Draws (atlas : Atlas) (id other : Nat) : Prop :=
  atlas.Consults id other ∧ atlas.tables.IsClass other

theorem exists_declaring {id : Nat} {record : ParameterizedRecord} {declared : List Nat}
    (given : atlas.declaredVariables id record = .ok declared) :
    ∃ cls, atlas.tables.typeData record.rawType.id = .ok (.rawClass cls) ∧
      cls.typeVariables = declared := by
  obtain ⟨cls, asked, given⟩ := Outcome.bind_eq_ok.1 given
  obtain ⟨data, known, same⟩ := Outcome.map_eq_ok.1 asked
  cases data with
  | rawClass record =>
    cases same
    exact ⟨record, known, Except.ok.inj given⟩
  | parameterized | typeVariable | wildcard =>
    cases same
    cases given

theorem isClass_of_declaredVariables {id : Nat} {record : ParameterizedRecord} {declared : List Nat}
    (given : atlas.declaredVariables id record = .ok declared) :
    atlas.tables.IsClass record.rawType.id := by
  obtain ⟨cls, known, -⟩ := exists_declaring given
  exact ⟨cls, known⟩

theorem isClass_of_bindPositional {id : Nat} {record : ParameterizedRecord} {map level : VarMap}
    (bound : atlas.bindPositional id record map = .ok level) :
    atlas.tables.IsClass record.rawType.id := by
  obtain ⟨declared, given, -⟩ := Outcome.bind_eq_ok.1 bound
  exact isClass_of_declaredVariables given

theorem isClass_of_remap {id : Nat} {record : ParameterizedRecord} {map bound : VarMap}
    (remapped : atlas.remap id record map = .ok bound) :
    atlas.tables.IsClass record.rawType.id := by
  obtain ⟨declared, given, -⟩ := Outcome.bind_eq_ok.1 remapped
  exact isClass_of_declaredVariables given

/-! ## Single steps of a computation -/

/-- One step along a chain.  The number of steps is looked at last, so the recursion is opened by
hand for both of its shapes. -/
theorem followChain_eq (key left : Nat) (map : VarMap) (value : TypeRef) :
    atlas.followChain key map left value = do
      if ← atlas.tables.isVariable value then
        match map.find? value.id with
        | none => return value
        | some next =>
          if VarMap.isSelf value.id next || next == value then return value
          else
            match left with
            | 0 => throw (.substitutionLoop key (atlas.config.hopLimit + 1))
            | left + 1 => atlas.followChain key map left (next.deepen value.depth)
      else return value := by
  cases left with
  | zero =>
    delta followChain
    rfl
  | succ left =>
    delta followChain
    rfl

section

variable {map : VarMap} {key : Nat} (rest : List Nat)

/-- The turn of a key that is not bound changes nothing. -/
theorem resolveKeys_free (free : map.find? key = none) :
    atlas.resolveKeys (key :: rest) map = atlas.resolveKeys rest map := by
  rw [resolveKeys, free]

/-- The turn of a key that is bound: its value is followed, and the rest goes on with the end. -/
theorem resolveKeys_bound {value : TypeRef} (found : map.find? key = some value) :
    atlas.resolveKeys (key :: rest) map =
      (atlas.followChain key map atlas.config.hopLimit value >>= fun result =>
        atlas.resolveKeys rest (map.insert key result)) := by
  rw [resolveKeys, found]

theorem resolveKeys_followed {value result : TypeRef} (found : map.find? key = some value)
    (followed : atlas.followChain key map atlas.config.hopLimit value = .ok result) :
    atlas.resolveKeys (key :: rest) map = atlas.resolveKeys rest (map.insert key result) := by
  rw [resolveKeys_bound rest found, followed, Outcome.ok_bind]

end

/-- One nested computation of a map.  The number of levels is looked at last, so the recursion is
opened by hand for both of its shapes. -/
theorem mapWithin_apply (levels : Nat) (stack : List Nat) (id : Nat) (memory : MapMemory) :
    atlas.mapWithin levels stack id memory =
      match memory[id]? with
      | some map => (.ok map, memory)
      | none =>
        if stack.contains id then (.error (.inheritanceCycle id), memory)
        else
          match levels with
          | 0 => (.error (.endless id), memory)
          | levels + 1 =>
            match
              atlas.computeMap (atlas.mapWithin levels (id :: stack)) (id :: stack) id memory with
            | (.ok map, after) => (.ok map, after.insert id map)
            | (.error fault, after) => (.error fault, after) := by
  have opened : atlas.mapWithin levels stack id = do
      match (← get)[id]? with
      | some map => return map
      | none =>
        if stack.contains id then throw (.inheritanceCycle id)
        else
          match levels with
          | 0 => throw (.endless id)
          | levels + 1 => do
            let map ← atlas.computeMap (atlas.mapWithin levels (id :: stack)) (id :: stack) id
            modify fun memory => memory.insert id map
            return map := by
    cases levels with
    | zero =>
      delta mapWithin
      rfl
    | succ levels =>
      delta mapWithin
      rfl
  rw [opened, Work.bind_apply, Work.get_apply]
  rcases found : memory[id]? with _ | map
  · simp only [found]
    by_cases again : stack.contains id = true
    · rw [if_pos again, if_pos again]
      rfl
    · rw [if_neg again, if_neg again]
      cases levels with
      | zero => rfl
      | succ levels =>
        simp only [Work.bind_apply]
        rcases atlas.computeMap (atlas.mapWithin levels (id :: stack)) (id :: stack) id memory with
          ⟨_ | map, after⟩
        · rfl
        · rfl
  · simp only [found]
    rfl

/-- A map that is computed is remembered. -/
theorem mapWithin_of_computeMap {levels : Nat} {stack : List Nat} {id : Nat}
    {memory after : MapMemory} {map : VarMap} (unknown : memory[id]? = none) (new : id ∉ stack)
    (computed : atlas.computeMap (atlas.mapWithin levels (id :: stack)) (id :: stack) id memory =
      (.ok map, after)) :
    atlas.mapWithin (levels + 1) stack id memory = (.ok map, after.insert id map) := by
  have unlisted : ¬stack.contains id = true := by simpa using new
  rw [mapWithin_apply, unknown]
  simp only [if_neg unlisted, computed]

section

variable {invariant : MapMemory → Prop} {result : VarMap → Prop} {fault : Fault → Prop}
  {stack : List Nat} {id : Nat}

/-- A map that is not remembered is refused when its type is on the stack, and there is no level
left to compute it. -/
theorem mapWithin_zero_meets
    (recalls : ∀ memory, invariant memory → ∀ map, memory[id]? = some map → result map)
    (refused : fault (.inheritanceCycle id)) (endless : fault (.endless id)) :
    Work.Meets invariant (atlas.mapWithin 0 stack id) result fault := by
  intro memory sound
  rw [mapWithin_apply]
  rcases found : memory[id]? with _ | map
  · simp only
    split
    · exact ⟨sound, refused⟩
    · exact ⟨sound, endless⟩
  · exact ⟨sound, recalls memory sound map found⟩

/-- **A nested computation recalls its map, or computes it with one level less and keeps it.** -/
theorem mapWithin_succ_meets {levels : Nat}
    (recalls : ∀ memory, invariant memory → ∀ map, memory[id]? = some map → result map)
    (refused : id ∈ stack → fault (.inheritanceCycle id))
    (computes : id ∉ stack → Work.Meets invariant
      (atlas.computeMap (atlas.mapWithin levels (id :: stack)) (id :: stack) id) result fault)
    (remembers : ∀ memory, invariant memory → ∀ map, result map →
      invariant (memory.insert id map)) :
    Work.Meets invariant (atlas.mapWithin (levels + 1) stack id) result fault := by
  intro memory sound
  rw [mapWithin_apply]
  rcases found : memory[id]? with _ | map
  · simp only
    split
    · next again => exact ⟨sound, refused (by simpa using again)⟩
    · next new =>
      obtain ⟨kept, outcome⟩ := computes (by simpa using new) memory sound
      rcases run : atlas.computeMap (atlas.mapWithin levels (id :: stack)) (id :: stack) id memory
        with ⟨flaw | map, after⟩
      · rw [run] at kept outcome
        exact ⟨kept, outcome⟩
      · rw [run] at kept outcome
        exact ⟨remembers after kept map outcome, outcome⟩
  · exact ⟨sound, recalls memory sound map found⟩

end

/-! ## A walk through the computation -/

theorem mergeOwners_none (nested : Nat → Remembering MapMemory VarMap) (stack : List Nat)
    (left : Nat) (map : VarMap) : atlas.mergeOwners nested stack left none map = pure map := by
  cases left <;> rfl

/-- Properties of the maps that are being gathered and of those that are given, which the operations
of a computation respect, with what holds of their faults. -/
structure Closed (atlas : Atlas) (gathered good : VarMap → Prop) (fault : Fault → Prop) :
    Prop where
  reads : ∀ id, Outcome.Meets (atlas.tables.typeData id) (fun _ => True) fault
  empty : good .empty
  self : ∀ {id : Nat} {record : TypeVariableRecord},
    atlas.tables.typeData id = .ok (.typeVariable record) →
      good (VarMap.empty.insert id (.plain id))
  takes : ∀ {map : VarMap}, good map → gathered map
  merge : ∀ {left right : VarMap}, gathered left → gathered right →
    gathered (left.mergeMissing right)
  bind : ∀ {id : Nat} {record : ParameterizedRecord},
    atlas.tables.typeData id = .ok (.parameterized record) →
      Outcome.Meets (atlas.bindPositional id record .empty) gathered fault
  remap : ∀ {id : Nat} {record : ParameterizedRecord} {map : VarMap},
    atlas.tables.typeData id = .ok (.parameterized record) → gathered map →
      Outcome.Meets (atlas.remap id record map) gathered fault
  resolve : ∀ {map : VarMap}, gathered map → Outcome.Meets (atlas.resolveChains map) good fault

/-- Every property that holds of all maps and of all faults is respected. -/
theorem closed_trivial (atlas : Atlas) :
    atlas.Closed (fun _ => True) (fun _ => True) fun _ => True where
  reads _ := Outcome.meets_true _
  empty := trivial
  self _ := trivial
  takes _ := trivial
  merge _ _ := trivial
  bind _ := Outcome.meets_true _
  remap _ _ := Outcome.meets_true _
  resolve _ := Outcome.meets_true _

section

variable {invariant : MapMemory → Prop} {gathered good : VarMap → Prop} {fault : Fault → Prop}
  {nested : Nat → Remembering MapMemory VarMap} {stack : List Nat}
  (closed : atlas.Closed gathered good fault)

include closed

/-- A type that is read goes on with its record. -/
theorem Closed.read_bind {α : Type} {id : Nat} {next : TypeData → Remembering MapMemory α}
    {result : α → Prop}
    (then_ : ∀ data, atlas.tables.typeData id = .ok data →
      Work.Meets invariant (next data) result fault) :
    Work.Meets invariant (Work.lift (atlas.tables.typeData id) >>= next) result fault :=
  Work.meets_lift_bind (closed.reads id) fun data known _ => then_ data known

theorem mergeOwners_meets (left : Nat) (owner : Option TypeRef) {map : VarMap}
    (start : gathered map)
    (others : ∀ other ∈ atlas.tables.ownerClasses left owner, atlas.tables.IsClass other →
      Work.Meets invariant (nested other) good fault) :
    Work.Meets invariant (atlas.mergeOwners nested stack left owner map) gathered fault := by
  induction left generalizing owner map with
  | zero => cases owner <;> exact Work.meets_pure start
  | succ left ih =>
    cases owner with
    | none => exact Work.meets_pure start
    | some owner =>
      refine closed.read_bind fun data known => ?_
      rw [Tables.ownerClasses, known] at others
      cases data with
      | rawClass record =>
        simp only
        split
        · exact Work.meets_pure start
        · exact (others owner.id List.mem_cons_self ⟨record, known⟩).bind fun inner fine =>
            Work.meets_pure (closed.merge start (closed.takes fine))
      | parameterized record =>
        obtain ⟨here, above⟩ := List.forall_mem_cons.1 others
        refine Work.meets_lift_bind (closed.bind known) fun level bound fine => ?_
        have merged := closed.merge start fine
        simp only
        split
        · exact (Work.meets_pure merged).bind fun map fine => ih record.ownerType fine above
        · refine (here (isClass_of_bindPositional bound)).bind fun inner fine => ?_
          exact (Work.meets_pure (closed.merge merged (closed.takes fine))).bind fun map fine =>
            ih record.ownerType fine above
      | typeVariable | wildcard => exact Work.meets_pure start

section

variable (done : Nat → Prop)

/-- Going through supertypes draws on the class of each of them. -/
theorem mergeSupertypes_draws (supertypes : List TypeRef) {map : VarMap} (start : gathered map)
    (applied : ∀ supertype ∈ supertypes, ∀ record,
      atlas.tables.typeData supertype.id = .ok (.parameterized record) →
      ∀ other ∈ record.rawType.id ::
          atlas.tables.ownerClasses atlas.config.ownerLimit record.ownerType,
        atlas.tables.IsClass other →
          Work.Meets invariant (nested other) (fun map => good map ∧ done other) fault)
    (classes : ∀ supertype ∈ supertypes, ∀ record,
      atlas.tables.typeData supertype.id = .ok (.rawClass record) →
        Work.Meets invariant (nested supertype.id) (fun map => good map ∧ done supertype.id)
          fault) :
    Work.Meets invariant (atlas.mergeSupertypes nested stack supertypes map)
      (fun map => gathered map ∧
        ∀ supertype ∈ supertypes, ∀ other, atlas.tables.OfClass supertype other → done other)
      fault := by
  induction supertypes generalizing map with
  | nil => exact Work.meets_pure ⟨start, List.forall_mem_nil _⟩
  | cons supertype rest ih =>
    obtain ⟨appliedHere, appliedThere⟩ := List.forall_mem_cons.1 applied
    obtain ⟨classesHere, classesThere⟩ := List.forall_mem_cons.1 classes
    -- the rest of the list, once the class of the first supertype is done
    have onward : ∀ {map : VarMap}, gathered map →
        (∀ other, atlas.tables.OfClass supertype other → done other) →
        Work.Meets invariant (atlas.mergeSupertypes nested stack rest map)
          (fun map => gathered map ∧ ∀ item ∈ supertype :: rest, ∀ other,
            atlas.tables.OfClass item other → done other) fault :=
      fun fine first => (ih fine appliedThere classesThere).mono
        (fun map held => ⟨held.1, List.forall_mem_cons.2 ⟨first, held.2⟩⟩) fun _ same => same
    refine closed.read_bind fun data known => ?_
    cases data with
    | rawClass record =>
      refine (classesHere record known).bind fun inner held => ?_
      refine onward (closed.merge start (closed.takes held.1)) fun other ofClass => ?_
      cases ofClass with
      | plain => exact held.2
      | applied again => cases known.symm.trans again
    | parameterized record =>
      obtain ⟨rawType, owners⟩ := List.forall_mem_cons.1 (appliedHere record known)
      refine Work.meets_lift_bind (closed.remap known start) fun map remapped fine => ?_
      refine (rawType (isClass_of_remap remapped)).bind fun inner held => ?_
      refine Work.Meets.bind
        (mergeOwners_meets closed _ _ (closed.merge fine (closed.takes held.1)) ?_)
        fun map fine => onward fine fun other ofClass => ?_
      · exact fun other chained isClass =>
          (owners other chained isClass).mono (fun _ held => held.1) fun _ same => same
      · cases ofClass with
        | plain again => cases known.symm.trans again
        | applied again =>
          cases known.symm.trans again
          exact held.2
    | typeVariable | wildcard =>
      refine onward start fun other ofClass => ?_
      cases ofClass with
      | plain again | applied again => cases known.symm.trans again

/-- **The map of a type is put together from the maps that are drawn on**, those of the classes
above the type among them.  A property that the operations respect passes from these maps to the map
of the type. -/
theorem computeMap_draws (id : Nat)
    (others : ∀ other, atlas.Draws id other →
      Work.Meets invariant (nested other) (fun map => good map ∧ done other) fault) :
    Work.Meets invariant (atlas.computeMap nested stack id)
      (fun map => good map ∧ ∀ other, atlas.tables.ClassAbove id other → done other) fault := by
  refine closed.read_bind fun data known => ?_
  cases data with
  | rawClass cls =>
    refine Work.Meets.bind
      (mergeSupertypes_draws closed done cls.supertypes (closed.takes closed.empty) ?_
        ?_)
      fun map held => ?_
    · intro supertype listed record applied
      have applies : atlas.tables.Applies id record := .supertype known listed applied
      exact List.forall_mem_cons.2 ⟨fun isClass => others _ ⟨.rawType applies, isClass⟩,
        fun owner chained isClass => others owner ⟨.owner ⟨record, applies, chained⟩, isClass⟩⟩
    · exact fun supertype listed record above =>
        others _ ⟨.supertype known listed above, record, above⟩
    · refine Work.meets_lift ((closed.resolve held.1).mono (fun map fine => ⟨fine, ?_⟩)
        fun _ same => same)
      intro other above
      cases above with
      | rawType again => cases known.symm.trans again
      | supertype again listed ofClass =>
        cases known.symm.trans again
        exact held.2 _ listed other ofClass
  | parameterized record =>
    have applies : atlas.tables.Applies id record := .itself known
    refine Work.meets_lift_bind (closed.bind known) fun map bound fine => ?_
    refine (others _ ⟨.rawType applies, isClass_of_bindPositional bound⟩).bind fun inner held => ?_
    refine Work.Meets.bind
      (mergeOwners_meets closed _ _ (closed.merge fine (closed.takes held.1)) ?_)
      fun map fine => ?_
    · exact fun owner chained isClass =>
        (others owner ⟨.owner ⟨record, applies, chained⟩, isClass⟩).mono (fun _ held => held.1)
          fun _ same => same
    · refine Work.meets_lift ((closed.resolve fine).mono (fun map fine => ⟨fine, ?_⟩)
        fun _ same => same)
      intro other above
      cases above with
      | rawType again =>
        cases known.symm.trans again
        exact held.2
      | supertype again => cases known.symm.trans again
  | typeVariable record =>
    refine Work.meets_pure ⟨closed.self known, fun other above => ?_⟩
    cases above with
    | rawType again | supertype again => cases known.symm.trans again
  | wildcard record =>
    refine Work.meets_pure ⟨closed.empty, fun other above => ?_⟩
    cases above with
    | rawType again | supertype again => cases known.symm.trans again

end

/-- **A property that the operations respect passes from the maps of other types to the map that is
put together from them.** -/
theorem computeMap_meets (id : Nat)
    (others : ∀ other, atlas.Draws id other → Work.Meets invariant (nested other) good fault) :
    Work.Meets invariant (atlas.computeMap nested stack id) good fault :=
  (computeMap_draws closed (fun _ => True) id fun other step =>
    (others other step).mono (fun _ fine => ⟨fine, trivial⟩) fun _ same => same).mono
    (fun _ held => held.1) fun _ same => same

end

end Atlas

/-! ## Earlier calls -/

/-- What can be asked of the maps: the full map of a type, or its map without the variables that
stand for themselves. -/
inductive MapCall
  | exhaustive (id : Nat)
  | typeVariableMap (id : Nat)

namespace MapCall

/-- The type that is asked for. -/
def id : MapCall → Nat
  | exhaustive id => id
  | typeVariableMap id => id

/-- Asks for a map. -/
def run (atlas : Atlas) : MapCall → Work VarMap
  | exhaustive id => Work.onMaps (atlas.exhaustive id)
  | typeVariableMap id => atlas.typeVariableMap id

end MapCall

namespace Atlas

variable {atlas : Atlas}

/-- What is remembered after some calls, whether they gave maps or faults. -/
def afterCalls (atlas : Atlas) (calls : List MapCall) : Memory :=
  calls.foldl (fun memory call => (call.run atlas memory).2) .empty

/-- A call leaves the maps that the computation of its type leaves, and nothing else. -/
theorem memory_of_run (call : MapCall) (memory : Memory) :
    (call.run atlas memory).2 =
      { memory with maps := (atlas.exhaustive call.id memory.maps).2 } := by
  cases call with
  | exhaustive id => rfl
  | typeVariableMap id =>
    rw [MapCall.run, typeVariableMap, Work.bind_apply, Work.onMaps, MapCall.id]
    rcases atlas.exhaustive id memory.maps with ⟨fault | map, maps⟩ <;> rfl

theorem maps_of_run (call : MapCall) (memory : Memory) :
    (call.run atlas memory).2.maps = (atlas.exhaustive call.id memory.maps).2 := by
  rw [memory_of_run]

/-- A property of the memory that every call keeps holds after any number of them. -/
theorem afterCalls_keeps {invariant : MapMemory → Prop} (start : invariant ∅)
    {calls : List MapCall} (each : ∀ call ∈ calls, ∀ maps, invariant maps →
      invariant (atlas.exhaustive call.id maps).2) :
    invariant (atlas.afterCalls calls).maps := by
  refine List.foldlRecOn (motive := fun memory : Memory => invariant memory.maps)
    calls _ start fun memory sound call listed => ?_
  rw [maps_of_run]
  exact each call listed _ sound

end Atlas

/-- What holds of every remembered map and its type. -/
def MapMemory.Holds (good : Nat → VarMap → Prop) (memory : MapMemory) : Prop :=
  ∀ (id : Nat) (map : VarMap), memory[id]? = some map → good id map

theorem MapMemory.holds_empty (good : Nat → VarMap → Prop) : MapMemory.Holds good ∅ := by
  intro id map found
  simp at found

theorem MapMemory.Holds.insert {good : Nat → VarMap → Prop} {memory : MapMemory}
    (holds : memory.Holds good) {id : Nat} {map : VarMap} (fine : good id map) :
    MapMemory.Holds good (memory.insert id map) :=
  fun _ _ => forall_getElem?_insert (holds _ _) fine

namespace Atlas

variable {atlas : Atlas} {good : Nat → VarMap → Prop}

section

variable (computes : ∀ (nested : Nat → Remembering MapMemory VarMap) (stack : List Nat) (id : Nat),
  (∀ other, atlas.Draws id other →
    Work.Meets (MapMemory.Holds good) (nested other) (good other) fun _ => True) →
  Work.Meets (MapMemory.Holds good) (atlas.computeMap nested stack id) (good id) fun _ => True)

include computes

/-- A property that every map takes over from the maps that are drawn on holds of every map. -/
theorem mapWithin_holds (levels : Nat) (stack : List Nat) (id : Nat) :
    Work.Meets (MapMemory.Holds good) (atlas.mapWithin levels stack id) (good id)
      fun _ => True := by
  induction levels generalizing stack id with
  | zero => exact mapWithin_zero_meets (fun memory holds => holds id) trivial trivial
  | succ levels ih =>
    refine mapWithin_succ_meets (fun memory holds => holds id) (fun _ => trivial) (fun _ => ?_)
      fun memory holds map fine => holds.insert fine
    exact computes _ _ id fun other _ => ih (id :: stack) other

/-- **What every map takes over from the maps that are drawn on holds of each map that is given**,
whatever was asked before. -/
theorem holds_of_exhaustive {calls : List MapCall} {id : Nat} {map : VarMap}
    (given : (Work.onMaps (atlas.exhaustive id) (atlas.afterCalls calls)).1 = .ok map) :
    good id map := by
  have before : MapMemory.Holds good (atlas.afterCalls calls).maps :=
    afterCalls_keeps (MapMemory.holds_empty good) fun call _ maps holds =>
      (mapWithin_holds computes (atlas.tables.typeCount + 2) [] call.id maps holds).1
  have outcome := (mapWithin_holds computes (atlas.tables.typeCount + 2) [] id _ before).2
  have run : (atlas.mapWithin (atlas.tables.typeCount + 2) [] id
    (atlas.afterCalls calls).maps).1 = .ok map := given
  rwa [run] at outcome

end

end Atlas

end ClassAtlas

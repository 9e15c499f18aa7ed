import ClassAtlas.Proofs.Index.Ancestors
import ClassAtlas.Proofs.Substitution.Computation
import ClassAtlas.Proofs.Substitution.Maps

/-!
# What maps lead to, and what can go wrong

The values of a map come from the arguments of parameterized types, so they stay within any set of
types that these arguments stay within.  In the same way the faults of a computation are those of
reading types, of classes that are none and of chains that are too long, and apart from them only
that a type inherits from itself (`Contained.closed`, `mapWithin_walk`).  Nested computations have
levels enough: a type that is computed is not on the stack, and what is on the stack is a type of
the snapshot.

On a well-formed snapshot every type that a computed map leads to is a type of the snapshot
(`exhaustive_meets`).
-/

set_option autoImplicit false

namespace ClassAtlas

namespace VarMap

/-- A map whose values are within a set of types. -/
def ValuesIn (within : Nat → Prop) (map : VarMap) : Prop :=
  ∀ key value, map.find? key = some value → within value.id

/-- A map whose values are among the first so many types. -/
def Inside (count : Nat) (map : VarMap) : Prop :=
  ∀ key value, map.find? key = some value → value.id < count

section

variable {within : Nat → Prop} {map other : VarMap}

theorem valuesIn_empty : ValuesIn within empty := by
  intro key value found
  cases found

theorem ValuesIn.insert (inside : map.ValuesIn within) {key : Nat} {value : TypeRef}
    (below : within value.id) : (map.insert key value).ValuesIn within := by
  intro found result member
  rw [find?_insert] at member
  split at member
  · cases member
    exact below
  · exact inside found result member

theorem ValuesIn.mergeMissing (left : map.ValuesIn within) (right : other.ValuesIn within) :
    (map.mergeMissing other).ValuesIn within := by
  intro key value found
  rw [mergeMissing_eq_addNew, find?_addNew, Option.or_eq_some_iff] at found
  rcases found with here | ⟨_, there⟩
  · exact left key value here
  · exact right key value there

theorem ValuesIn.override (left : map.ValuesIn within) (right : other.ValuesIn within) :
    (map.override other).ValuesIn within := by
  refine List.foldlRecOn (motive := ValuesIn within) _ _ left fun merged inside entry listed => ?_
  exact inside.insert (right entry.1 entry.2 ((mem_entries_iff other _ _).1 listed))

theorem ValuesIn.stripSelf (inside : map.ValuesIn within) : map.stripSelf.ValuesIn within := by
  intro key value found
  have member := (mem_entries_iff _ key value).2 found
  exact inside key value ((mem_entries_iff _ key value).1 (List.mem_filter.1 member).1)

end

variable {count : Nat} {map other : VarMap}

theorem inside_iff : map.Inside count ↔ map.ValuesIn (· < count) :=
  Iff.rfl

theorem inside_empty : Inside count empty :=
  inside_iff.2 valuesIn_empty

theorem Inside.override (left : map.Inside count) (right : other.Inside count) :
    (map.override other).Inside count :=
  inside_iff.2 ((inside_iff.1 left).override (inside_iff.1 right))

theorem Inside.stripSelf (inside : map.Inside count) : map.stripSelf.Inside count :=
  inside_iff.2 (inside_iff.1 inside).stripSelf

end VarMap

namespace Atlas

variable {atlas : Atlas} {within : Nat → Prop} {fault : Fault → Prop}

/-- What can be bound is within a set of types, and what can go wrong on the way is within a set of
faults. -/
structure Contained (atlas : Atlas) (within : Nat → Prop) (fault : Fault → Prop) : Prop where
  reads : ∀ id, Outcome.Meets (atlas.tables.typeData id) (fun _ => True) fault
  own : ∀ {id : Nat} {record : TypeVariableRecord},
    atlas.tables.typeData id = .ok (.typeVariable record) → within id
  arguments : ∀ {id : Nat} {record : ParameterizedRecord},
    atlas.tables.typeData id = .ok (.parameterized record) →
      ∀ argument ∈ record.arguments, within argument.id
  refused : ∀ cause, fault (.decode cause)
  loops : ∀ key hops, fault (.substitutionLoop key hops)

/-! ## The operations of a computation -/

/-- A value that is followed stays within a set of types that the bindings do not lead out of, when
reading these types goes wrong in certain ways only; else its chain can be too long. -/
theorem followChain_within {map : VarMap} (key left : Nat)
    (reads : ∀ id, within id → Outcome.Meets (atlas.tables.typeData id) (fun _ => True) fault)
    (long : fault (.substitutionLoop key (atlas.config.hopLimit + 1)))
    (inside : map.ValuesIn within) {value : TypeRef} (below : within value.id) :
    Outcome.Meets (atlas.followChain key map left value) (fun value => within value.id) fault := by
  induction left generalizing value with
  | zero =>
    rw [followChain_eq]
    refine (Tables.isVariable_meets (reads _ below)).bind fun varies _ => ?_
    split
    · cases map.find? value.id with
      | none => exact below
      | some next =>
        simp only
        split
        · exact below
        · exact long
    · exact below
  | succ left ih =>
    rw [followChain_eq]
    refine (Tables.isVariable_meets (reads _ below)).bind fun varies _ => ?_
    split
    · cases found : map.find? value.id with
      | none => exact below
      | some next =>
        simp only
        split
        · exact below
        · exact ih (inside value.id next found)
    · exact below

section

variable {map : VarMap} (contained : atlas.Contained within fault)

include contained

theorem declaredVariables_meets (id : Nat) (record : ParameterizedRecord) :
    Outcome.Meets (atlas.declaredVariables id record) (fun _ => True) fault := by
  have reads := contained.reads record.rawType.id
  rw [declaredVariables, Tables.class?]
  cases known : atlas.tables.typeData record.rawType.id with
  | error flaw => rwa [known] at reads
  | ok data =>
    cases data with
    | rawClass => trivial
    | parameterized | typeVariable | wildcard => exact contained.refused _

theorem bindPositional_meets {id : Nat} {record : ParameterizedRecord}
    (known : atlas.tables.typeData id = .ok (.parameterized record)) :
    Outcome.Meets (atlas.bindPositional id record .empty) (VarMap.ValuesIn within) fault := by
  refine (declaredVariables_meets contained id record).bind fun declared _ => ?_
  refine List.foldlRecOn (motive := VarMap.ValuesIn within) _ _ VarMap.valuesIn_empty ?_
  intro map inside pair listed
  exact inside.insert (contained.arguments known pair.2 (List.of_mem_zip listed).2)

theorem followArgument_meets (inside : map.ValuesIn within) (declared left : Nat)
    {argument : TypeRef} (below : within argument.id) :
    Outcome.Meets (atlas.followArgument declared map left argument)
      (fun found => ∀ value ∈ found, within value.id) fault := by
  have step : ∀ {current : TypeRef}, ∀ next, map.find? current.id = some next →
      within (next.deepen current.depth).id :=
    fun next found => inside _ next found
  induction left generalizing argument with
  | zero =>
    rw [followArgument]
    cases found : map.find? argument.id with
    | none => exact fun value same => Option.some.inj same ▸ below
    | some next =>
      simp only
      split
      · exact fun value same => nomatch same
      · refine (Tables.isVariable_meets (contained.reads _)).bind fun varies _ => ?_
        split
        · exact contained.loops _ _
        · exact fun value same => Option.some.inj same ▸ step next found
  | succ left ih =>
    rw [followArgument]
    cases found : map.find? argument.id with
    | none => exact fun value same => Option.some.inj same ▸ below
    | some next =>
      simp only
      split
      · exact fun value same => nomatch same
      · refine (Tables.isVariable_meets (contained.reads _)).bind fun varies _ => ?_
        split
        · exact ih (step next found)
        · exact fun value same => Option.some.inj same ▸ step next found

theorem remapOne_meets (inside : map.ValuesIn within) (declared : Nat)
    {argument : TypeRef} (below : within argument.id) :
    Outcome.Meets (atlas.remapOne declared argument map) (VarMap.ValuesIn within) fault := by
  rw [remapOne]
  split
  · exact inside
  · refine (Tables.isVariable_meets (contained.reads _)).bind fun varies _ => ?_
    split
    · refine (followArgument_meets contained inside declared _ below).bind fun found below => ?_
      cases found with
      | none => exact inside
      | some value => exact inside.insert (below value rfl)
    · exact inside.insert below

theorem remapPairs_meets (pairs : List (Nat × TypeRef)) (below : ∀ pair ∈ pairs, within pair.2.id)
    (inside : map.ValuesIn within) :
    Outcome.Meets (atlas.remapPairs pairs map) (VarMap.ValuesIn within) fault := by
  induction pairs generalizing map with
  | nil => exact inside
  | cons first rest ih =>
    obtain ⟨firstBelow, restBelow⟩ := List.forall_mem_cons.1 below
    exact (remapOne_meets contained inside first.1 firstBelow).bind fun map inside =>
      ih restBelow inside

theorem resolveKeys_meets (keys : List Nat) (inside : map.ValuesIn within) :
    Outcome.Meets (atlas.resolveKeys keys map) (VarMap.ValuesIn within) fault := by
  induction keys generalizing map with
  | nil => exact inside
  | cons key rest ih =>
    cases found : map.find? key with
    | none =>
      rw [resolveKeys_free rest found]
      exact ih inside
    | some value =>
      rw [resolveKeys_bound rest found]
      refine (followChain_within key _ (fun id _ => contained.reads id) (contained.loops ..) inside
        (inside key value found)).bind fun value below => ?_
      exact ih (inside.insert below)

/-- The operations of a computation stay within what can be bound and what can go wrong. -/
theorem Contained.closed :
    atlas.Closed (VarMap.ValuesIn within) (VarMap.ValuesIn within) fault where
  reads := contained.reads
  empty := VarMap.valuesIn_empty
  self := fun known => VarMap.valuesIn_empty.insert (contained.own known)
  takes := id
  merge := VarMap.ValuesIn.mergeMissing
  bind := bindPositional_meets contained
  remap := by
    intro id record map known inside
    refine (declaredVariables_meets contained id record).bind fun declared _ => ?_
    refine remapPairs_meets contained _ (fun pair listed => ?_) inside
    exact contained.arguments known pair.2 (List.of_mem_zip listed).2
  resolve := fun inside => resolveKeys_meets contained _ inside

end

/-! ## Nested computations -/

theorem Draws.lt {id other : Nat} (step : atlas.Draws id other) : id < atlas.tables.typeCount := by
  have applies : ∀ {record : ParameterizedRecord}, atlas.tables.Applies id record →
      id < atlas.tables.typeCount := by
    intro record applies
    cases applies with
    | itself known | supertype known => exact Tables.typeData_lt known
  cases step.1 with
  | rawType given => exact applies given
  | supertype known => exact Tables.typeData_lt known
  | owner owned =>
    obtain ⟨record, given, -⟩ := owned
    exact applies given

/-- A property that the operations respect holds of what the nested computations give, and of their
faults, when it holds of meeting a type of the stack again.  `way` is what is known about the stack
on the way to a type. -/
theorem mapWithin_walk {gathered good : VarMap → Prop} (closed : atlas.Closed gathered good fault)
    (way : List Nat → Nat → Prop)
    (onward : ∀ {stack : List Nat} {id other : Nat}, way stack id → atlas.Draws id other →
      way (id :: stack) other)
    (again : ∀ {stack : List Nat} {id : Nat}, way stack id → id ∈ stack →
      fault (.inheritanceCycle id))
    (levels : Nat) {stack : List Nat} {id : Nat} (start : way stack id) (distinct : stack.Nodup)
    (below : ∀ id ∈ stack, id < atlas.tables.typeCount)
    (enough : atlas.tables.typeCount < levels + stack.length) :
    Work.Meets (MapMemory.Holds fun _ => good) (atlas.mapWithin levels stack id) good fault := by
  induction levels generalizing stack id with
  | zero =>
    have short := Hierarchy.length_le_of_nodup distinct below
    omega
  | succ levels ih =>
    refine mapWithin_succ_meets (fun memory sound => sound id) (again start) (fun new => ?_)
      fun memory sound map fine => sound.insert fine
    refine computeMap_meets closed id fun other step => ih (onward start step) ?_ ?_ ?_
    · exact List.nodup_cons.2 ⟨new, distinct⟩
    · exact List.forall_mem_cons.2 ⟨step.lt, below⟩
    · rw [List.length_cons]
      omega

theorem exhaustive_walk {gathered good : VarMap → Prop} (closed : atlas.Closed gathered good fault)
    (way : List Nat → Nat → Prop)
    (onward : ∀ {stack : List Nat} {id other : Nat}, way stack id → atlas.Draws id other →
      way (id :: stack) other)
    (again : ∀ {stack : List Nat} {id : Nat}, way stack id → id ∈ stack →
      fault (.inheritanceCycle id))
    {id : Nat} (start : way [] id) :
    Work.Meets (MapMemory.Holds fun _ => good) (atlas.exhaustive id) good fault := by
  refine mapWithin_walk closed way onward again _ start List.nodup_nil
    (fun id listed => absurd listed List.not_mem_nil) ?_
  rw [List.length_nil]
  omega

end Atlas

/-! ## Well-formed snapshots -/

/-- Remembered maps that lead to types of the snapshot. -/
def MapMemory.Inside (count : Nat) (memory : MapMemory) : Prop :=
  ∀ (id : Nat) (map : VarMap), memory[id]? = some map → map.Inside count

theorem MapMemory.inside_empty (count : Nat) : MapMemory.Inside count ∅ :=
  MapMemory.holds_empty fun _ => VarMap.Inside count

namespace Atlas

variable {atlas : Atlas} (fit : atlas.tables.WellFormed)

include fit

/-- The bindings of a well-formed snapshot lead to its types. -/
theorem contained_inside : atlas.Contained (· < atlas.tables.typeCount) Fault.Final where
  reads := fit.typeData_meets
  own := Tables.typeData_lt
  arguments := by
    intro id record known argument listed
    refine fit.inside known argument ?_
    exact List.mem_cons_of_mem _ (List.mem_append_right _ listed)
  refused _ _ same := nomatch same
  loops _ _ _ same := nomatch same

/-- **The map of a type leads to types of the snapshot, and computing it comes to an end.** -/
theorem exhaustive_meets (id : Nat) :
    Work.Meets (MapMemory.Inside atlas.tables.typeCount) (atlas.exhaustive id)
      (VarMap.Inside atlas.tables.typeCount) Fault.Final :=
  exhaustive_walk (contained_inside fit).closed (fun _ _ => True) (fun _ _ => trivial)
    (fun _ _ _ same => nomatch same) trivial

end Atlas

end ClassAtlas

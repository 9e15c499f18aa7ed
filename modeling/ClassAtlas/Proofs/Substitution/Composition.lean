import ClassAtlas.Proofs.Descent
import ClassAtlas.Proofs.Substitution.Chains
import ClassAtlas.Proofs.Substitution.Computation
import Mathlib.Tactic.IntervalCases

/-!
# Substitution composes along inheritance

The bindings that a class gathers from its supertypes are the first ones of each variable, not yet
seen through the arguments (`mergeSupertypes_gives`).  A variable of a supertype's class is bound by
the very supertype that first brings in the bindings that mention it, because with a variable of a
class all bindings of that class come in.  So one step along each chain composes the substitutions,
and the map of a class is its composed map, whatever was computed before
(`exhaustive_composes`).
-/

set_option autoImplicit false

namespace ClassAtlas

open Relation (TransGen)

/-! ## Gathering -/

namespace Atlas

variable {atlas : Atlas} {map : VarMap}

theorem followArgument_of_free (declared left : Nat) {argument : TypeRef}
    (free : map.find? argument.id = none) :
    atlas.followArgument declared map left argument = .ok (some argument) := by
  cases left <;> simp [followArgument, free]

/-- An argument that leads nowhere is bound as it is, if the variable is not bound yet. -/
theorem remapOne_eq_ok (declared : Nat) {argument : TypeRef}
    (reads : ∃ data, atlas.tables.typeData argument.id = .ok data)
    (settled : atlas.tables.Settled map argument) :
    atlas.remapOne declared argument map = .ok (map.insertIfNew declared argument) := by
  rw [remapOne, VarMap.insertIfNew]
  split
  · rfl
  · by_cases varies : atlas.tables.IsTypeVariable argument.id
    · simp [(Tables.isVariable_iff argument).2 varies, followArgument_of_free _ _ (settled varies)]
    · simp [Tables.isVariable_eq_false reads varies]

/-- Arguments that lead nowhere are bound by position, each to a variable that is not bound yet. -/
theorem remapPairs_eq_ok (pairs : List (Nat × TypeRef))
    (reads : ∀ pair ∈ pairs, ∃ data, atlas.tables.typeData pair.2.id = .ok data)
    (settled : ∀ pair ∈ pairs, atlas.tables.Settled map pair.2)
    (apart : ∀ pair ∈ pairs, atlas.tables.IsTypeVariable pair.2.id →
      ∀ other ∈ pairs, pair.2.id ≠ other.1) :
    atlas.remapPairs pairs map = .ok (map.addNew pairs) := by
  induction pairs generalizing map with
  | nil => rfl
  | cons first rest ih =>
    obtain ⟨declared, argument⟩ := first
    rw [remapPairs, remapOne_eq_ok declared (reads _ List.mem_cons_self)
      (settled _ List.mem_cons_self), Outcome.ok_bind]
    refine ih (fun pair member => reads pair (List.mem_cons_of_mem _ member)) ?_ ?_
    · intro pair member varies
      rw [VarMap.find?_insertIfNew, settled pair (List.mem_cons_of_mem _ member) varies,
        Option.none_or, if_neg (apart pair (List.mem_cons_of_mem _ member) varies _
          List.mem_cons_self)]
    · intro pair member varies other listed
      exact apart pair (List.mem_cons_of_mem _ member) varies other (List.mem_cons_of_mem _ listed)

end Atlas

/-! ## What is remembered -/

/-- A memory whose maps of classes are the composed ones. -/
def MapMemory.Composed (memory : MapMemory) (tables : Tables) (ref : Nat → VarMap) : Prop :=
  ∀ ⦃id : Nat⦄ ⦃record : ClassRecord⦄, tables.typeData id = .ok (.rawClass record) →
    ∀ map, memory[id]? = some map → map = ref id

theorem MapMemory.composed_empty (tables : Tables) (ref : Nat → VarMap) :
    MapMemory.Composed ∅ tables ref := by
  intro id record known map found
  simp at found

theorem MapMemory.Composed.insert {memory : MapMemory} {tables : Tables} {ref : Nat → VarMap}
    (sound : memory.Composed tables ref) {id : Nat} {map : VarMap}
    (fresh : ∀ record, tables.typeData id = .ok (.rawClass record) → map = ref id) :
    MapMemory.Composed (memory.insert id map) tables ref := by
  intro other record known found there
  rw [Std.HashMap.getElem?_insert] at there
  split at there
  · next same =>
    cases there
    cases beq_iff_eq.1 same
    exact fresh record known
  · exact sound known found there

namespace Atlas

variable (atlas : Atlas) (ref : Nat → VarMap)

/-- A step that keeps the memory composed and gives a certain value if it gives any; where it must,
it does give the value. -/
def Gives {α : Type} (must : Prop) (step : Remembering MapMemory α) (value : α) : Prop :=
  Work.Meets (MapMemory.Composed · atlas.tables ref) step (· = value) fun _ => ¬must

variable {atlas ref} {α β : Type} {must : Prop}

theorem gives_lift {outcome : Except Fault α} {value : α} (ends : outcome = .ok value) :
    atlas.Gives ref must (Work.lift outcome) value :=
  Work.meets_lift (by rw [ends]; rfl)

theorem Gives.bind {first : Remembering MapMemory α} {next : α → Remembering MapMemory β}
    {value : α} {result : β} (gives : atlas.Gives ref must first value)
    (then_ : atlas.Gives ref must (next value) result) :
    atlas.Gives ref must (first >>= next) result :=
  Work.Meets.bind gives fun _ same => same ▸ then_

/-! ## The map of a class -/

/-- What a source has to offer, not yet seen through its own bindings. -/
def offered (ref : Nat → VarMap) (source : Nat × List (Nat × TypeRef)) : List (Nat × TypeRef) :=
  source.2 ++ (ref source.1).entries

theorem lookup_offered (source : Nat × List (Nat × TypeRef)) (key : Nat) :
    (offered ref source).lookup key = (source.2.lookup key).or ((ref source.1).find? key) := by
  rw [offered, List.lookup_append]
  rfl

theorem lookup_offered_isSome (source : Nat × List (Nat × TypeRef)) (key : Nat) :
    ((offered ref source).lookup key).isSome ↔ Tables.Offers ref source key := by
  rw [lookup_offered, Option.isSome_or, Bool.or_eq_true, Tables.Offers]

/-- One more source is gathered by adding its arguments, and then the map of its class. -/
theorem firstWins_offered_append (sources : List (Nat × List (Nat × TypeRef)))
    (source : Nat × List (Nat × TypeRef)) :
    VarMap.firstWins ((sources ++ [source]).flatMap (offered ref)) =
      ((VarMap.firstWins (sources.flatMap (offered ref))).addNew source.2).mergeMissing
        (ref source.1) := by
  rw [List.flatMap_append, List.flatMap_singleton, offered, VarMap.firstWins, VarMap.addNew_append,
    VarMap.addNew_append]
  rfl

variable {nested : Nat → Remembering MapMemory VarMap} {stack : List Nat} {id : Nat}
  {record : ClassRecord}

section

variable (fit : atlas.tables.Composable) (isRef : atlas.tables.IsReference ref)
  (known : atlas.tables.typeData id = .ok (.rawClass record))

include fit isRef known

/-- No variable of a class is bound in what the classes above it offer. -/
theorem settled_of_declared {sources : List (Nat × List (Nat × TypeRef))}
    (listed : ∀ source ∈ sources, source ∈ atlas.tables.supplies record) {value : TypeRef}
    (own : atlas.tables.IsTypeVariable value.id → atlas.tables.Declares id value.id) :
    atlas.tables.Settled (.firstWins (sources.flatMap (offered ref))) value := by
  intro varies
  rw [VarMap.find?_firstWins]
  by_contra bound
  have some := Option.isSome_iff_ne_none.2 bound
  obtain ⟨source, member, offers⟩ := (VarMap.lookup_flatMap_isSome_iff ..).1 some
  have supplied := fit.source_of_mem known (listed source member)
  obtain ⟨raw, knownRaw, _⟩ := supplied.raw
  obtain ⟨owner, way, declares⟩ := supplied.declared_above (fit.refSound isRef knownRaw)
    ((lookup_offered_isSome source value.id).1 offers) varies
  cases fit.owner varies declares (own varies)
  exact fit.acyclic _ way

/-- The arguments of an applied supertype are added as they are written, for what is gathered before
binds none of their variables. -/
theorem remap_gathered {sources : List (Nat × List (Nat × TypeRef))}
    (gathered : ∀ source ∈ sources, source ∈ atlas.tables.supplies record) {supertype : TypeRef}
    {applied : ParameterizedRecord} {raw : ClassRecord} (written : supertype ∈ record.supertypes)
    (declaring : atlas.tables.typeData applied.rawType.id = .ok (.rawClass raw))
    (supplied : atlas.tables.supply supertype =
      some (applied.rawType.id, raw.typeVariables.zip applied.arguments)) :
    atlas.remap supertype.id applied (.firstWins (sources.flatMap (offered ref))) =
      .ok ((VarMap.firstWins (sources.flatMap (offered ref))).addNew
        (raw.typeVariables.zip applied.arguments)) := by
  have source := fit.source_of_supply known written supplied
  have declared : atlas.declaredVariables supertype.id applied = .ok raw.typeVariables := by
    simp [declaredVariables, Tables.class?, declaring, Except.map, TypeData.asClass?]
  rw [remap, declared, Outcome.ok_bind]
  refine remapPairs_eq_ok _ (fun pair member => (source.arguments pair member).1) ?_ ?_
  · intro pair member
    exact settled_of_declared fit isRef known gathered (source.arguments pair member).2
  · intro pair member varies other listed same
    have there : atlas.tables.Declares applied.rawType.id other.1 :=
      ⟨raw, declaring, (List.of_mem_zip listed).1⟩
    cases fit.owner varies (same ▸ there) ((source.arguments pair member).2 varies)
    exact fit.acyclic _ source.above

/-- Going through the supertypes gathers what they offer, and the first binding of a variable
wins. -/
theorem mergeSupertypes_gives
    (above : ∀ source ∈ atlas.tables.supplies record,
      atlas.Gives ref must (nested source.1) (ref source.1))
    (rest : List TypeRef) (listed : ∀ supertype ∈ rest, supertype ∈ record.supertypes)
    (sources : List (Nat × List (Nat × TypeRef)))
    (gathered : ∀ source ∈ sources, source ∈ atlas.tables.supplies record) :
    atlas.Gives ref must
      (atlas.mergeSupertypes nested stack rest (.firstWins (sources.flatMap (offered ref))))
      (.firstWins ((sources ++ rest.filterMap atlas.tables.supply).flatMap (offered ref))) := by
  induction rest generalizing sources with
  | nil =>
    rw [List.filterMap_nil, List.append_nil]
    exact Work.meets_pure rfl
  | cons supertype rest ih =>
    have written := listed supertype List.mem_cons_self
    -- what is gathered after one more supertype, in the form the induction goes on with
    have onwards : ∀ source, atlas.tables.supply supertype = some source →
        atlas.Gives ref must
          (atlas.mergeSupertypes nested stack rest
            (((VarMap.firstWins (sources.flatMap (offered ref))).addNew source.2).mergeMissing
              (ref source.1)))
          (.firstWins ((sources ++ (supertype :: rest).filterMap atlas.tables.supply).flatMap
            (offered ref))) := by
      intro source supplied
      have member : source ∈ atlas.tables.supplies record :=
        List.mem_filterMap.2 ⟨supertype, written, supplied⟩
      rw [List.filterMap_cons_some supplied, List.append_cons, ← firstWins_offered_append]
      refine ih (fun other member => listed other (List.mem_cons_of_mem _ member)) _ ?_
      exact List.forall_mem_append.2 ⟨gathered, by simpa using member⟩
    rw [mergeSupertypes]
    cases fit.fits known supertype written with
    | @plain raw knownSuper free =>
      have supplied : atlas.tables.supply supertype = some (supertype.id, []) := by
        rw [Tables.supply, knownSuper]
      refine (gives_lift knownSuper).bind ?_
      exact (above _ (List.mem_filterMap.2 ⟨supertype, written, supplied⟩)).bind
        (onwards _ supplied)
    | @applied applied raw knownSuper ownerless declaring arity inside own =>
      have supplied : atlas.tables.supply supertype =
          some (applied.rawType.id, raw.typeVariables.zip applied.arguments) := by
        simp only [Tables.supply, knownSuper, declaring]
      have member := List.mem_filterMap.2 ⟨supertype, written, supplied⟩
      have remapped := remap_gathered fit isRef known gathered written declaring supplied
      refine (gives_lift knownSuper).bind ((gives_lift remapped).bind ?_)
      refine (above _ member).bind (Gives.bind ?_ (onwards _ supplied))
      rw [ownerless, mergeOwners_none]
      exact Work.meets_pure rfl

/-- **Bindings from different ways never mix.**  A gathered binding is an argument of the source
that first has the variable, or it comes from the class of that source.  In the second case the
variables of that class are bound by the source itself: an earlier source that had one of them would
have all bindings of the class, and so would be the first to have this one. -/
theorem gathered_cases {key : Nat} {value : TypeRef}
    (found : (VarMap.firstWins ((atlas.tables.supplies record).flatMap (offered ref))).find? key =
      some value) :
    ∃ source ∈ atlas.tables.supplies record,
      (source.2.lookup key = some value ∧
        (atlas.tables.composed ref record).find? key = some value) ∨
      ((ref source.1).find? key = some value ∧
        (atlas.tables.composed ref record).find? key =
          some (atlas.tables.substitute source.2 value) ∧
        ∀ other, atlas.tables.IsTypeVariable other → atlas.tables.Declares source.1 other →
          (VarMap.firstWins ((atlas.tables.supplies record).flatMap (offered ref))).find? other =
            source.2.lookup other) := by
  rw [VarMap.find?_firstWins] at found
  obtain ⟨before, source, after, order, absent, first⟩ :=
    VarMap.lookup_flatMap_eq_some_iff.1 found
  have listed : source ∈ atlas.tables.supplies record := by simp [order]
  have supplied := fit.source_of_mem known listed
  have absent' : ∀ other ∈ before, (atlas.tables.contribution ref other).lookup key = none := by
    intro other member
    by_contra bound
    have offers := (Tables.lookup_contribution_isSome ..).1 (Option.isSome_iff_ne_none.2 bound)
    exact Option.isSome_iff_ne_none.1 ((lookup_offered_isSome ..).2 offers) (absent other member)
  have seen : ∀ result, (atlas.tables.contribution ref source).lookup key = some result →
      (atlas.tables.composed ref record).find? key = some result := by
    intro result here
    rw [Tables.composed, VarMap.find?_firstWins]
    exact VarMap.lookup_flatMap_eq_some_iff.2 ⟨before, source, after, order, absent', here⟩
  rw [lookup_offered] at first
  refine ⟨source, listed, ?_⟩
  rcases own : source.2.lookup key with _ | argument
  · rw [own, Option.none_or] at first
    refine .inr ⟨first, seen _ ?_, ?_⟩
    · rw [Tables.lookup_contribution, own, first, Option.none_or, Option.map_some]
    · intro other varies declares
      obtain ⟨argument, bound⟩ :=
        Option.isSome_iff_exists.1 ((supplied.lookup_isSome_iff other).2 declares)
      rw [bound, VarMap.find?_firstWins]
      refine VarMap.lookup_flatMap_eq_some_iff.2 ⟨before, source, after, order, ?_, ?_⟩
      · intro earlier member
        by_contra bound
        have supplied' := fit.source_of_mem known
          (show earlier ∈ atlas.tables.supplies record by simp [order, member])
        obtain ⟨raw, knownRaw, _⟩ := supplied'.raw
        have offers := supplied'.offers_closed fit (fit.refSound isRef knownRaw)
          ((lookup_offered_isSome ..).1 (Option.isSome_iff_ne_none.2 bound)) varies declares
          (Option.isSome_iff_exists.2 ⟨value, first⟩)
        exact Option.isSome_iff_ne_none.1 ((lookup_offered_isSome ..).2 offers)
          (absent earlier member)
      · rw [lookup_offered, bound, Option.some_or]
  · rw [own, Option.some_or] at first
    cases first
    refine .inl ⟨rfl, seen _ ?_⟩
    rw [Tables.lookup_contribution, own, Option.some_or]

/-- Every chain of gathered bindings is over after one step. -/
theorem gathered_oneStep :
    atlas.tables.OneStep
      (.firstWins ((atlas.tables.supplies record).flatMap (offered ref))) := by
  have settled : ∀ {value : TypeRef},
      (atlas.tables.IsTypeVariable value.id → atlas.tables.Declares id value.id) →
        atlas.tables.Settled (.firstWins ((atlas.tables.supplies record).flatMap (offered ref)))
          value :=
    settled_of_declared fit isRef known fun _ member => member
  constructor
  · intro key value found
    obtain ⟨source, listed, ⟨own, _⟩ | ⟨inherited, _⟩⟩ := gathered_cases fit isRef known found
    · exact ((fit.source_of_mem known listed).arguments _ (VarMap.mem_of_lookup own)).1
    · obtain ⟨raw, knownRaw, _⟩ := (fit.source_of_mem known listed).raw
      exact ((fit.refSound isRef knownRaw).values key value inherited).1
  · intro key value found varies next bound
    obtain ⟨source, listed, ⟨own, _⟩ | ⟨inherited, _, bindings⟩⟩ :=
      gathered_cases fit isRef known found
    · have mine := ((fit.source_of_mem known listed).arguments _ (VarMap.mem_of_lookup own)).2
      rw [settled mine varies] at bound
      cases bound
    · have supplied := fit.source_of_mem known listed
      obtain ⟨raw, knownRaw, _⟩ := supplied.raw
      have theirs := ((fit.refSound isRef knownRaw).values key value inherited).2 varies
      rw [bindings value.id varies theirs] at bound
      have mine := (supplied.arguments _ (VarMap.mem_of_lookup bound)).2
      refine ⟨?_, settled mine⟩
      intro same
      rw [← same] at varies theirs
      cases fit.owner varies (mine varies) theirs
      exact fit.acyclic _ supplied.above

/-- One step along each chain of gathered bindings gives the composed map. -/
theorem gathered_composes (key : Nat) :
    ((VarMap.firstWins ((atlas.tables.supplies record).flatMap (offered ref))).find? key).map
        (atlas.tables.substitute
          (VarMap.firstWins ((atlas.tables.supplies record).flatMap (offered ref))).entries) =
      (atlas.tables.composed ref record).find? key := by
  rcases found : (VarMap.firstWins
    ((atlas.tables.supplies record).flatMap (offered ref))).find? key with _ | value
  · rcases there : (atlas.tables.composed ref record).find? key with _ | value
    · rfl
    · obtain ⟨source, listed, offers⟩ := (Tables.composed_isSome_iff ref record key).1
        (Option.isSome_iff_exists.2 ⟨value, there⟩)
      have some := (VarMap.lookup_flatMap_isSome_iff ..).2
        ⟨source, listed, (lookup_offered_isSome source key).2 offers⟩
      rw [VarMap.find?_firstWins] at found
      exact absurd found (Option.isSome_iff_ne_none.1 some)
  · rw [Option.map_some]
    obtain ⟨source, listed, ⟨own, here⟩ | ⟨inherited, here, bindings⟩⟩ :=
      gathered_cases fit isRef known found
    · have mine := ((fit.source_of_mem known listed).arguments _ (VarMap.mem_of_lookup own)).2
      rw [here, Tables.substitute_of_settled
        (settled_of_declared fit isRef known (fun _ member => member) mine)]
    · rw [here]
      by_cases varies : atlas.tables.IsTypeVariable value.id
      · obtain ⟨raw, knownRaw, _⟩ := (fit.source_of_mem known listed).raw
        have theirs := ((fit.refSound isRef knownRaw).values key value inherited).2 varies
        have same := bindings value.id varies theirs
        rw [VarMap.find?] at same
        rw [Tables.substitute, Tables.substitute, same]
      · rw [Tables.substitute_of_not_variable varies, Tables.substitute_of_not_variable varies]

/-- The map of a class from the maps of the classes above it is the composed map. -/
theorem computeMap_gives (hops : 1 ≤ atlas.config.hopLimit)
    (above : ∀ source ∈ atlas.tables.supplies record,
      atlas.Gives ref must (nested source.1) (ref source.1)) :
    atlas.Gives ref must (atlas.computeMap nested stack id) (ref id) := by
  have gathers : atlas.Gives ref must
      (atlas.mergeSupertypes nested stack record.supertypes .empty)
      (.firstWins ((atlas.tables.supplies record).flatMap (offered ref))) :=
    mergeSupertypes_gives fit isRef known above record.supertypes (fun _ member => member) []
      (fun _ member => nomatch member)
  obtain ⟨resolved, run, lookups⟩ := resolveChains_eq_ok hops (gathered_oneStep fit isRef known)
  have same : resolved = ref id := by
    refine VarMap.find?_ext fun key => ?_
    rw [lookups, isRef known]
    exact gathered_composes fit isRef known key
  rw [computeMap]
  exact (gives_lift known).bind (gathers.bind (gives_lift (same ▸ run)))

end

/-! ## The maps that are remembered -/

/-- A stack of types that all lie below a type, with enough levels left for the types that are not
on it. -/
structure Room (tables : Tables) (levels : Nat) (stack : List Nat) (id : Nat) : Prop where
  below : ∀ lower ∈ stack, TransGen tables.Above lower id
  distinct : stack.Nodup
  enough : tables.typeCount ≤ levels + stack.length

theorem Room.inside {tables : Tables} {levels : Nat} {stack : List Nat} {id : Nat}
    (room : Room tables levels stack id) : ∀ lower ∈ stack, lower < tables.typeCount := by
  intro lower member
  obtain ⟨_, step, _⟩ := TransGen.head'_iff.1 (room.below lower member)
  exact step.lt

section

variable (fit : atlas.tables.Composable) (isRef : atlas.tables.IsReference ref)
  (hops : 1 ≤ atlas.config.hopLimit)

include fit isRef hops

/-- **The map of a class within other computations is the composed map**, by induction on the
levels. No class meets itself on the stack, and the levels do not run out before the types do. -/
theorem mapWithin_gives (levels : Nat) (stack : List Nat)
    (known : atlas.tables.typeData id = .ok (.rawClass record))
    (room : must → Room atlas.tables levels stack id) :
    atlas.Gives ref must (atlas.mapWithin levels stack id) (ref id) := by
  induction levels generalizing stack id record with
  | zero =>
    have unreached : ¬must := by
      intro now
      have space := room now
      have inside : ∀ other ∈ id :: stack, other < atlas.tables.typeCount :=
        List.forall_mem_cons.2 ⟨Tables.typeData_lt known, space.inside⟩
      have distinct : (id :: stack).Nodup :=
        List.nodup_cons.2 ⟨fun member => fit.acyclic id (space.below id member), space.distinct⟩
      have short := Hierarchy.length_le_of_nodup distinct inside
      have enough := space.enough
      simp only [List.length_cons] at short
      omega
    exact mapWithin_zero_meets (fun memory sound => sound known) unreached unreached
  | succ levels ih =>
    refine mapWithin_succ_meets (fun memory sound => sound known) ?_ ?_ ?_
    · exact fun again now => fit.acyclic id ((room now).below id again)
    · intro new
      refine computeMap_gives fit isRef known hops fun source listed => ?_
      have supplied := fit.source_of_mem known listed
      obtain ⟨raw, knownRaw, _⟩ := supplied.raw
      refine ih (id :: stack) knownRaw fun now => ⟨?_, ?_, ?_⟩
      · intro lower member
        rcases List.mem_cons.1 member with rfl | member
        · exact supplied.above
        · exact ((room now).below lower member).trans supplied.above
      · exact List.nodup_cons.2 ⟨new, (room now).distinct⟩
      · have enough := (room now).enough
        rw [List.length_cons]
        omega
    · exact fun memory sound map same => sound.insert fun _ _ => same

end

/-! ## Other types -/

section

variable (fit : atlas.tables.Composable) (isRef : atlas.tables.IsReference ref)
  (hops : 1 ≤ atlas.config.hopLimit)

include fit isRef hops

/-- The computation of any map, also of one that fails, leaves only composed maps of classes. -/
theorem mapWithin_keeps (levels : Nat) (stack : List Nat) (id : Nat) :
    Work.Meets (MapMemory.Composed · atlas.tables ref) (atlas.mapWithin levels stack id)
      (fun _ => True) fun _ => True := by
  induction levels generalizing stack id with
  | zero => exact mapWithin_zero_meets (fun _ _ _ _ => trivial) trivial trivial
  | succ levels ih =>
    by_cases isClass : ∃ record, atlas.tables.typeData id = .ok (.rawClass record)
    · obtain ⟨record, known⟩ := isClass
      have gives : atlas.Gives ref False (atlas.mapWithin (levels + 1) stack id) (ref id) :=
        mapWithin_gives fit isRef hops (levels + 1) stack known False.elim
      exact gives.mono (fun _ _ => trivial) fun _ _ => trivial
    · refine mapWithin_succ_meets (fun _ _ _ _ => trivial) (fun _ => trivial)
        (fun _ => computeMap_meets atlas.closed_trivial id fun other _ => ih (id :: stack) other)
        fun memory sound map _ => ?_
      exact sound.insert fun record known => absurd ⟨record, known⟩ isClass

end

/-- The memory of maps after some requests, whether they gave a map or failed. -/
def remembered (atlas : Atlas) (requests : List Nat) : MapMemory :=
  requests.foldl (fun memory id => (atlas.exhaustive id memory).2) ∅

/-- **Substitution composes along inheritance.**  On a hierarchy without cycles whose supertypes
bind the variables of their classes, there are composed maps, and whatever was requested before, the
map computed for a class is its composed map. -/
theorem exhaustive_composes (atlas : Atlas) (fit : atlas.tables.Composable)
    (hops : 1 ≤ atlas.config.hopLimit) :
    (∃ ref, atlas.tables.IsReference ref) ∧
      ∀ ref, atlas.tables.IsReference ref → ∀ requests id record,
        atlas.tables.typeData id = .ok (.rawClass record) →
          (atlas.exhaustive id (atlas.remembered requests)).1 = .ok (ref id) := by
  refine ⟨fit.exists_reference, ?_⟩
  intro ref isRef requests id record known
  have sound : (atlas.remembered requests).Composed atlas.tables ref := by
    refine List.foldlRecOn (motive := fun memory => MapMemory.Composed memory atlas.tables ref)
      requests _ (MapMemory.composed_empty atlas.tables ref) ?_
    intro memory composed request _
    exact (mapWithin_keeps fit isRef hops _ [] request memory composed).1
  have gives : atlas.Gives ref True (atlas.exhaustive id) (ref id) :=
    mapWithin_gives fit isRef hops _ [] known fun _ =>
      ⟨fun lower member => absurd member List.not_mem_nil, List.nodup_nil, Nat.le_add_right _ _⟩
  obtain ⟨value, given, rfl⟩ := Outcome.meets_iff_ok.1
    ((gives _ sound).2.mono (fun _ same => same) fun _ free => free trivial)
  exact given

end Atlas

/-! ### A chain of classes -/

/-- Three classes, each the super class of the next.  The first two have a variable; the second one
hands its own on, and the third one fixes it to an array. -/
def Snapshot.boxChain : Snapshot :=
  { empty with types := [
      .object [("tv", .nat 0)],
      .object [("n", .nat 0), ("v", .nat 0)],
      .object [("tv", .nat 1)],
      .object [("r", .nat 1), ("v", .nat 2)],
      .object [("n", .nat 1), ("s", .nat 3), ("v", .nat 2)],
      .object [("r", .nat 4), ("v", .array [.array [.nat 1, .nat 1]])],
      .object [("n", .nat 2), ("s", .nat 5)]] }

/-- A class without members. -/
def ClassRecord.bare (name : Nat) (superClass : Option TypeRef) (typeVariables : List Nat) :
    ClassRecord :=
  { name, package := none, superClass, interfaces := [], typeVariables, annotations := [],
    modifiers := .empty, constructors := [], fields := [], methods := [], innerClasses := [],
    enclosingClass := none, declaringClass := none }

theorem boxChain_class {id : Nat} {record : ClassRecord}
    (known : (Tables.ofSnapshot .boxChain).typeData id = .ok (.rawClass record)) :
    id = 1 ∧ record = .bare 0 none [0] ∨ id = 4 ∧ record = .bare 1 (some (.plain 3)) [2] ∨
      id = 6 ∧ record = .bare 2 (some (.plain 5)) [] := by
  have inside : id < 7 := Tables.typeData_lt known
  interval_cases id <;> cases known
  · exact .inl ⟨rfl, rfl⟩
  · exact .inr (.inl ⟨rfl, rfl⟩)
  · exact .inr (.inr ⟨rfl, rfl⟩)

theorem boxChain_above {id above : Nat} (step : (Tables.ofSnapshot .boxChain).Above id above) :
    above < id := by
  have inside : id < 7 := step.lt
  obtain ⟨data, known, member⟩ := step
  interval_cases id <;> cases known
  all_goals simp [TypeData.above, ClassRecord.supertypes] at member
  all_goals subst member
  all_goals decide

theorem boxChain_composable : (Tables.ofSnapshot .boxChain).Composable where
  decodes := by
    intro id inside
    change id < 7 at inside
    interval_cases id <;> exact ⟨_, rfl⟩
  acyclic := Descent.not_cycle_of_lt boxChain_above
  owner := by
    rintro key id other - ⟨record, known, member⟩ ⟨record', known', member'⟩
    rcases boxChain_class known with ⟨rfl, rfl⟩ | ⟨rfl, rfl⟩ | ⟨rfl, rfl⟩ <;>
      rcases boxChain_class known' with ⟨rfl, rfl⟩ | ⟨rfl, rfl⟩ | ⟨rfl, rfl⟩ <;>
        simp [ClassRecord.bare] at member member' ⊢ <;> omega
  fits := by
    intro id record known supertype listed
    rcases boxChain_class known with ⟨rfl, rfl⟩ | ⟨rfl, rfl⟩ | ⟨rfl, rfl⟩
    · cases listed
    · cases List.mem_singleton.1 listed
      refine .applied rfl rfl rfl rfl ?_ ?_
      · intro argument member
        cases List.mem_singleton.1 member
        decide
      · intro argument member _
        cases List.mem_singleton.1 member
        decide
    · cases List.mem_singleton.1 listed
      refine .applied rfl rfl rfl rfl ?_ ?_
      · intro argument member
        cases List.mem_singleton.1 member
        decide
      · rintro argument member ⟨record, varies⟩
        cases List.mem_singleton.1 member
        cases varies

theorem Atlas.exhaustive_composes_boxChain :
    ∃ ref, (Tables.ofSnapshot .boxChain).IsReference ref ∧
      (Atlas.exhaustive ⟨.ofSnapshot .boxChain, .default⟩ 6
        (remembered ⟨.ofSnapshot .boxChain, .default⟩ [5])).1 = .ok (ref 6) ∧
      (ref 6).entries = [(0, ⟨1, 1⟩), (2, ⟨1, 1⟩)] := by
  obtain ⟨⟨ref, isRef⟩, composes⟩ := exhaustive_composes ⟨.ofSnapshot .boxChain, .default⟩
    boxChain_composable (by decide)
  have first : (Tables.ofSnapshot .boxChain).typeData 1 = .ok (.rawClass (.bare 0 none [0])) := rfl
  have second : (Tables.ofSnapshot .boxChain).typeData 4 =
      .ok (.rawClass (.bare 1 (some (.plain 3)) [2])) := rfl
  have third : (Tables.ofSnapshot .boxChain).typeData 6 =
      .ok (.rawClass (.bare 2 (some (.plain 5)) [])) := rfl
  refine ⟨ref, isRef, composes ref isRef [5] 6 _ third, ?_⟩
  have top : ref 1 = .empty := isRef first
  have middle : ref 4 = .firstWins [(0, .plain 2)] := by
    rw [isRef second]
    show VarMap.firstWins (([(0, .plain 2)] ++ (ref 1).entries.map _) ++ []) = _
    rw [top]
    rfl
  rw [isRef third]
  show (VarMap.firstWins (([(2, ⟨1, 1⟩)] ++ (ref 4).entries.map _) ++ [])).entries = _
  rw [middle]
  rfl

end ClassAtlas

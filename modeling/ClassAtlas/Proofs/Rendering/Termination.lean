import ClassAtlas.Proofs.Names
import ClassAtlas.Proofs.Rendering.Calls

/-!
# When rendering ends

With any number of levels a text is given only for calls that end, and the renderer runs out of
levels only where calls nest deeper (`renderWithin_writes`).  So a type is written exactly when no
type variable is written inside itself, as long as all names can be put together (`render_writes`).
-/

set_option autoImplicit false

namespace ClassAtlas

/-- What is remembered soundly: maps that lead to types of the snapshot, and texts of calls that
end. -/
structure Memory.Sound (tables : Tables) (memory : Memory) : Prop where
  maps : MapMemory.Inside tables.typeCount memory.maps
  texts : ∀ {ref : TypeRef} {options : NameOptions} {text : String},
    memory.texts[(ref, options)]? = some text → Descent.Ends tables.Calls ⟨ref.id, options⟩

theorem Memory.sound_empty (tables : Tables) : Memory.empty.Sound tables where
  maps := MapMemory.inside_empty tables.typeCount
  texts := fun found => by simp [Memory.empty] at found

namespace Tables

variable {tables : Tables} {α : Type} {short shorter done : Prop}

/-- What holds of a step of the renderer.  It gives a result only if something is done.  Its faults
are final ones where calls nest short, and when all names can be put together it has no final
faults. -/
def Writes (tables : Tables) (short : Prop) (step : Work α) (done : Prop) : Prop :=
  Work.Meets (Memory.Sound tables) step (fun _ => done) fun flaw =>
    (short → flaw.Final) ∧ (tables.Named → ¬flaw.Final)

theorem Writes.mono {other : Prop} {step : Work α} (writes : tables.Writes short step done)
    (enough : done → other) : tables.Writes short step other :=
  Work.Meets.mono writes (fun _ => enough) fun _ same => same

theorem Writes.shorten {step : Work α} (writes : tables.Writes short step done)
    (nest : shorter → short) : tables.Writes shorter step done :=
  Work.Meets.mono writes (fun _ same => same) fun _ excused =>
    ⟨fun short => excused.1 (nest short), excused.2⟩

theorem Writes.bind {β : Type} {other : Prop} {first : Work α} {next : α → Work β}
    (writes : tables.Writes short first done)
    (then_ : ∀ value, done → tables.Writes short (next value) other) :
    tables.Writes short (first >>= next) other :=
  Work.Meets.bind writes then_

theorem writes_pure {value : α} (holds : done) : tables.Writes short (pure value : Work α) done :=
  Work.meets_pure holds

section

variable {step : Work α} {memory : Memory} (sound : memory.Sound tables)
  (writes : tables.Writes short step done)

include sound writes

theorem Writes.keeps : (step memory).2.Sound tables :=
  (writes memory sound).1

theorem Writes.ends (nest : short) : Outcome.Ends (step memory).1 := by
  intro id same
  have outcome := (writes memory sound).2
  rw [same] at outcome
  exact outcome.1 nest id rfl

theorem Writes.not_ok (undone : ¬done) (value : α) : (step memory).1 ≠ .ok value := by
  intro same
  have outcome := (writes memory sound).2
  rw [same] at outcome
  exact undone outcome

theorem Writes.not_ends (undone : ¬done) (named : tables.Named) :
    ¬Outcome.Ends (step memory).1 := by
  intro ends
  have outcome := (writes memory sound).2
  cases given : (step memory).1 with
  | ok value => exact writes.not_ok sound undone value given
  | error flaw =>
    rw [given] at outcome ends
    exact outcome.2 named (Outcome.ends_error.1 ends)

end

/-! ## The parts of a type -/

/-- The faults of names are final, and there are none when all names can be put together. -/
theorem FailsWith.excused {fresh : Except Fault String} {flaw : Fault}
    (fails : FailsWith fresh flaw) (resolves : tables.Named → ∃ text, fresh = .ok text) :
    (short → flaw.Final) ∧ (tables.Named → ¬flaw.Final) := by
  refine ⟨fun _ => fails.1, fun named => ?_⟩
  obtain ⟨text, given⟩ := resolves named
  exact absurd given (fails.2 text)

theorem name_writes {id : Nat}
    (resolves : tables.Named → ∃ text, tables.resolveName ∅ (chainLimit + 1) id = .ok text) :
    tables.Writes short (tables.name id) True :=
  (name_meets (fun _ _ sound => ⟨sound.maps, sound.texts⟩) id).mono
    (fun _ _ => trivial) fun _ fails => fails.excused resolves

theorem packageName_writes {id : Nat}
    (resolves : tables.Named → ∃ text, tables.resolvePackage ∅ (chainLimit + 1) id = .ok text) :
    tables.Writes short (tables.packageName id) True :=
  (packageName_meets (fun _ _ sound => ⟨sound.maps, sound.texts⟩) id).mono
    (fun _ _ => trivial) fun _ fails => fails.excused resolves

theorem rawClassName_writes {id : Nat} {record : ClassRecord}
    (known : tables.typeData id = .ok (.rawClass record)) (appendPackage : Bool) :
    tables.Writes short (tables.rawClassName record appendPackage) True := by
  rw [rawClassName]
  refine (name_writes fun named => named.classes known).bind fun name _ => ?_
  split
  · cases written : record.package with
    | none => exact writes_pure trivial
    | some package =>
      refine (packageName_writes fun named => named.packages known package written).bind
        fun outer _ => ?_
      exact writes_pure trivial
  · exact writes_pure trivial

section

variable {render : Renderer} {options : NameOptions} {good : Call → Prop}

theorem renderJoined_writes {refs : List TypeRef} (separator : String)
    (each : ∀ ref ∈ refs, tables.Writes short (render ref options) (good ⟨ref.id, options⟩)) :
    tables.Writes short (renderJoined render refs separator options)
      (∀ call ∈ options.calls refs, good call) := by
  refine Work.Meets.bind (Work.meets_forAll each) fun parts done => writes_pure ?_
  intro call listed
  obtain ⟨ref, member, rfl⟩ := NameOptions.mem_calls_iff.1 listed
  exact done ref member

/-- The calls for the parts of a type do what they should. -/
def WritesParts (tables : Tables) (short : Prop) (render : Renderer) (good : Call → Prop)
    (calls : List Call) : Prop :=
  ∀ ref options, ⟨ref.id, options⟩ ∈ calls →
    tables.Writes short (render ref options) (good ⟨ref.id, options⟩)

theorem WritesParts.joined {calls : List Call} {refs : List TypeRef}
    (parts : tables.WritesParts short render good calls) (separator : String)
    (among : ∀ call ∈ options.calls refs, call ∈ calls) :
    tables.Writes short (renderJoined render refs separator options)
      (∀ call ∈ options.calls refs, good call) :=
  renderJoined_writes separator fun ref listed =>
    parts ref options (among _ (List.mem_map_of_mem listed))

theorem renderClass_writes (fit : tables.WellFormed) {id : Nat} {record : ClassRecord}
    (known : tables.typeData id = .ok (.rawClass record))
    (parts : tables.WritesParts short render good ((TypeData.rawClass record).calls options)) :
    tables.Writes short (tables.renderClass render id record options)
      (∀ call ∈ (TypeData.rawClass record).calls options, good call) := by
  rw [renderClass]
  rw [TypeData.calls] at parts ⊢
  cases declared : record.declaringClass with
  | none =>
    refine (rawClassName_writes known _).mono fun _ call listed => ?_
    simp [NameOptions.calls] at listed
  | some declaring =>
    simp only
    split
    · refine (rawClassName_writes known _).mono fun _ call listed => ?_
      cases listed
    · next behind =>
      rw [if_neg behind, declared] at parts
      split
      · next same =>
        have mentions : tables.Mentions id id :=
          ⟨_, known, declaring, List.mem_append_right _ (declared ▸ List.mem_singleton_self _),
            beq_iff_eq.1 same⟩
        exact absurd (.single mentions) (fit.acyclic id)
      · refine (parts declaring options List.mem_cons_self).bind fun outer done => ?_
        refine (rawClassName_writes known false).bind fun name _ => writes_pure ?_
        exact List.forall_mem_singleton.2 done

theorem renderVariable_writes {id : Nat} {record : TypeVariableRecord}
    (known : tables.typeData id = .ok (.typeVariable record))
    (parts : tables.WritesParts short render good ((TypeData.typeVariable record).calls options)) :
    tables.Writes short (tables.renderVariable render record options)
      (∀ call ∈ (TypeData.typeVariable record).calls options, good call) := by
  rw [renderVariable]
  rw [TypeData.calls] at parts ⊢
  refine (name_writes fun named => named.typeVariables known).bind fun name _ => ?_
  by_cases inside : options.definingVariable = true
  · rw [if_pos inside, inside, Bool.true_or, if_pos rfl]
    exact writes_pure (List.forall_mem_nil _)
  · rw [if_neg inside] at parts ⊢
    split
    · next bare =>
      have none : record.bounds = [] := by simpa [inside] using bare
      rw [none]
      exact writes_pure (List.forall_mem_nil _)
    · exact (parts.joined " & " fun call listed => listed).bind fun bounds done => writes_pure done

theorem renderWildcard_writes {record : WildcardRecord}
    (parts : tables.WritesParts short render good ((TypeData.wildcard record).calls options)) :
    tables.Writes short (renderWildcard render record options)
      (∀ call ∈ (TypeData.wildcard record).calls options, good call) := by
  rw [renderWildcard]
  rw [TypeData.calls] at parts ⊢
  by_cases lower : record.lower.isEmpty = true
  · rw [if_pos lower] at parts ⊢
    rw [lower, Bool.not_true, if_neg Bool.false_ne_true]
    split
    · exact (parts.joined " & " fun call listed => listed).bind fun bounds done => writes_pure done
    · next bare =>
      have none : record.upper = [] := by simpa using bare
      rw [none]
      exact writes_pure (List.forall_mem_nil _)
  · rw [if_neg lower] at parts ⊢
    rw [Bool.not_eq_true] at lower
    rw [lower, Bool.not_false, if_pos rfl]
    exact (parts.joined " & " fun call listed => listed).bind fun bounds done => writes_pure done

theorem renderOwner_writes {record : ParameterizedRecord}
    (parts : tables.WritesParts short render good (record.ownerCalls options)) :
    tables.Writes short (renderOwner render record options)
      (∀ call ∈ record.ownerCalls options, good call) := by
  rw [renderOwner]
  rw [ParameterizedRecord.ownerCalls] at parts ⊢
  cases owned : record.ownerType with
  | none => exact writes_pure fun call listed => by simp [NameOptions.calls] at listed
  | some owner =>
    simp only
    rw [owned] at parts
    split
    · exact writes_pure (List.forall_mem_nil _)
    · next behind =>
      rw [if_neg behind] at parts
      refine (parts owner _ List.mem_cons_self).bind fun outer done => writes_pure ?_
      exact List.forall_mem_singleton.2 done

theorem renderArguments_writes {record : ParameterizedRecord}
    (parts : tables.WritesParts short render good (record.argumentCalls options)) :
    tables.Writes short (renderArguments render record options)
      (∀ call ∈ record.argumentCalls options, good call) := by
  rw [renderArguments]
  rw [ParameterizedRecord.argumentCalls] at parts ⊢
  by_cases generic : options.includeGenerics = true
  · have asked : (options.includeGenerics && !record.arguments.isEmpty) =
        !record.arguments.isEmpty := by
      rw [generic, Bool.true_and]
    rw [if_pos generic] at parts ⊢
    rw [asked]
    split
    · exact (parts.joined ", " fun call listed => listed).bind fun inner done => writes_pure done
    · next bare =>
      have none : record.arguments = [] := by simpa using bare
      rw [none]
      exact writes_pure (List.forall_mem_nil _)
  · rw [if_neg generic]
    rw [Bool.not_eq_true] at generic
    rw [generic, Bool.false_and, if_neg Bool.false_ne_true]
    exact writes_pure (List.forall_mem_nil _)

theorem renderParameterized_writes {record : ParameterizedRecord}
    (parts : tables.WritesParts short render good
      ((TypeData.parameterized record).calls options)) :
    tables.Writes short (renderParameterized render record options)
      (∀ call ∈ (TypeData.parameterized record).calls options, good call) := by
  refine (parts record.rawType _ List.mem_cons_self).bind fun name named => ?_
  refine (renderOwner_writes fun ref other listed => parts ref other
    (List.mem_cons_of_mem _ (List.mem_append_left _ listed))).bind fun owner owned => ?_
  refine (renderArguments_writes fun ref other listed => parts ref other
    (List.mem_cons_of_mem _ (List.mem_append_right _ listed))).bind fun arguments applied => ?_
  exact writes_pure (List.forall_mem_cons.2 ⟨named, List.forall_mem_append.2 ⟨owned, applied⟩⟩)

/-- **A type is written when its parts are.** -/
theorem renderVariant_writes (fit : tables.WellFormed) {id : Nat} {data : TypeData}
    (known : tables.typeData id = .ok data)
    (parts : tables.WritesParts short render good (data.calls options)) :
    tables.Writes short (tables.renderVariant render id options)
      (∀ call ∈ data.calls options, good call) := by
  rw [renderVariant, known]
  cases data with
  | rawClass record => exact renderClass_writes fit known parts
  | typeVariable record => exact renderVariable_writes known parts
  | wildcard record => exact renderWildcard_writes parts
  | parameterized record => exact renderParameterized_writes parts

end

/-! ## Nested calls -/

/-- One call of the renderer.  The number of levels is looked at last, so the recursion is opened by
hand for both of its shapes. -/
theorem renderWithin_eq (levels : Nat) (ref : TypeRef) (options : NameOptions) :
    tables.renderWithin levels ref options = do
      match (← get).texts[(ref, options)]? with
      | some text => return text
      | none =>
        match levels with
        | 0 => throw (.endless ref.id)
        | levels + 1 => do
          let resolved ← Work.lift (tables.standIn ref.element options)
          let text ← tables.renderVariant (tables.renderWithin levels) resolved.id options
          let text := text ++ arraySuffix (resolved.deepen ref.depth).depth
          modify fun memory => { memory with texts := memory.texts.insert (ref, options) text }
          return text := by
  cases levels with
  | zero =>
    delta renderWithin
    rfl
  | succ levels =>
    delta renderWithin
    rfl

/-- What is remembered of a call that ends is its text. -/
theorem writes_recall {ref : TypeRef} {options : NameOptions} {rest : Work String}
    (writes : tables.Writes short rest (Descent.Ends tables.Calls ⟨ref.id, options⟩)) :
    tables.Writes short
      (do
        match (← get).texts[(ref, options)]? with
        | some text => return text
        | none => rest)
      (Descent.Ends tables.Calls ⟨ref.id, options⟩) := by
  intro memory sound
  rw [Work.bind_apply, Work.get_apply]
  cases found : memory.texts[(ref, options)]? with
  | some text =>
    simp only [found]
    exact ⟨sound, sound.texts found⟩
  | none =>
    simp only [found]
    exact writes memory sound

/-- A text may be remembered for a call that ends. -/
theorem writes_remember {ref : TypeRef} {options : NameOptions} (text : String)
    (ends : Descent.Ends tables.Calls ⟨ref.id, options⟩) :
    tables.Writes short
      (do
        modify fun memory => { memory with texts := memory.texts.insert (ref, options) text }
        return text)
      (Descent.Ends tables.Calls ⟨ref.id, options⟩) := by
  intro memory sound
  refine ⟨⟨sound.maps, ?_⟩, ends⟩
  intro other options' text' found
  change (memory.texts.insert (ref, options) text)[(other, options')]? = some text' at found
  rw [Std.HashMap.getElem?_insert] at found
  split at found
  · next same =>
    cases beq_iff_eq.1 same
    exact ends
  · exact sound.texts found

/-- A call ends when the calls for the parts of the type that stands for its type do. -/
theorem ends_of_parts {call : Call} {found : TypeRef} {data : TypeData}
    (stands : tables.standIn (.plain call.id) call.options = .ok found)
    (known : tables.typeData found.id = .ok data)
    (ends : ∀ inner ∈ data.calls call.options, Descent.Ends tables.Calls inner) :
    Descent.Ends tables.Calls call := by
  refine .intro _ fun inner calls => ?_
  obtain ⟨found', data', stands', known', listed⟩ := calls
  cases stands.symm.trans stands'
  cases known.symm.trans known'
  exact ends inner listed

/-- **With any number of levels, a text is given only for a call that ends, and the levels are used
up only if calls nest deeper.**  By induction on the levels: what a call writes is put together from
the parts of the type that stands for it, and those are written with one level less. -/
theorem renderWithin_writes (fit : tables.WellFormed) (levels : Nat) {ref : TypeRef}
    {options : NameOptions} (below : ref.id < tables.typeCount)
    (inside : options.map.Inside tables.typeCount) :
    tables.Writes (Descent.Within tables.Calls levels ⟨ref.id, options⟩)
      (tables.renderWithin levels ref options) (Descent.Ends tables.Calls ⟨ref.id, options⟩) := by
  induction levels generalizing ref options with
  | zero =>
    rw [renderWithin_eq]
    exact writes_recall (Work.meets_throw
      ⟨fun short => short.elim, fun _ final => final ref.id rfl⟩)
  | succ levels ih =>
    rw [renderWithin_eq]
    have elementBelow : ref.element.id < tables.typeCount := below
    obtain ⟨found, stands, foundBelow⟩ := standIn_ok fit inside elementBelow
    obtain ⟨data, known⟩ := fit.decodes found.id foundBelow
    have parts : tables.WritesParts (Descent.Within tables.Calls (levels + 1) ⟨ref.id, options⟩)
        (tables.renderWithin levels) (Descent.Ends tables.Calls) (data.calls options) := by
      intro part other listed
      have calls : tables.Calls ⟨ref.id, options⟩ ⟨part.id, other⟩ :=
        ⟨found, data, stands, known, listed⟩
      exact (ih (calls.inside fit) (calls.keep.1 ▸ inside)).shorten fun short => short _ calls
    refine writes_recall ?_
    simp only [stands]
    refine (renderVariant_writes fit known parts).bind fun text ends => ?_
    exact writes_remember _ (ends_of_parts stands known ends)

/-- **A type is written when no type variable is written inside itself, and otherwise no number of
levels is enough.** -/
theorem render_writes (fit : tables.WellFormed) {ref : TypeRef} {options : NameOptions}
    (below : ref.id < tables.typeCount) (inside : options.map.Inside tables.typeCount) :
    tables.Writes (¬tables.Recurs ⟨ref.id, options⟩) (tables.render ref options)
      (¬tables.Recurs ⟨ref.id, options⟩) := by
  refine ((renderWithin_writes fit _ below inside).mono fun ends => ?_).shorten fun free => ?_
  · rintro ⟨call, -, way, cycle⟩
    exact Descent.not_cycle_of_ends ends way cycle
  · exact (within_of_not_recurs fit below free).mono (by omega)

end Tables

end ClassAtlas

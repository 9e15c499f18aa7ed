import ClassAtlas.Proofs.Recall.Steps
import ClassAtlas.Proofs.Rendering.Asking
import ClassAtlas.Proofs.Rendering.Relating
import ClassAtlas.Proofs.Rendering.Termination

/-!
# Maps, texts and names are recalled

Substitution maps and rendered texts are remembered as soon as they are complete.  So a computation
that is nested never loses an entry, and a complete result is found again by whoever asks for it
(`typeVariableMap_recalls`, `render_recalls`).  All other questions that are asked of a type are
sequences of these two and of questions for names.
-/

set_option autoImplicit false

namespace ClassAtlas

namespace Work

/-- A computation on maps that forgets none, and whose results are given again. -/
theorem recalls_onMaps {α : Type} {step : Remembering MapMemory α}
    (keeps : ∀ maps, Keeps maps (step maps).2)
    (again : ∀ {maps : MapMemory} {value : α}, (step maps).1 = .ok value →
      ∀ {later : MapMemory}, Keeps (step maps).2 later → (step later).1 = .ok value) :
    Recalls (onMaps step) :=
  ⟨fun memory => ⟨{ Memory.Within.refl memory with maps := keeps memory.maps }, rfl⟩,
    fun given _ within => again given within.maps⟩

end Work

namespace Atlas

variable {atlas : Atlas}

/-! ## Maps -/

theorem mapWithin_forgets_nothing (levels : Nat) (stack : List Nat) (id : Nat) (maps : MapMemory) :
    Keeps maps (atlas.mapWithin levels stack id maps).2 := by
  induction levels generalizing stack id maps with
  | zero =>
    rw [mapWithin_apply]
    split
    · exact .refl maps
    · split <;> exact .refl maps
  | succ levels ih =>
    rw [mapWithin_apply]
    split
    · exact .refl maps
    · next unknown =>
      split
      · exact .refl maps
      · have nested : ∀ other, Work.Meets (Keeps maps)
            (atlas.mapWithin levels (id :: stack) other) (fun _ => True) fun _ => True :=
          fun other between kept => ⟨kept.trans (ih _ other between), Outcome.meets_true _⟩
        have kept : Keeps maps (atlas.computeMap (atlas.mapWithin levels (id :: stack))
            (id :: stack) id maps).2 :=
          (computeMap_meets atlas.closed_trivial id (fun other _ => nested other) maps
            (.refl maps)).1
        simp only
        split
        · next run =>
          rw [run] at kept
          exact kept.insert fun older found => by simp [unknown] at found
        · next run =>
          rw [run] at kept
          exact kept

/-- A map that was given is remembered. -/
theorem mapWithin_remembers {levels : Nat} {stack : List Nat} {id : Nat} {maps : MapMemory}
    {map : VarMap} (given : (atlas.mapWithin levels stack id maps).1 = .ok map) :
    (atlas.mapWithin levels stack id maps).2[id]? = some map := by
  rw [mapWithin_apply] at given ⊢
  cases known : maps[id]? with
  | some older =>
    rw [known] at given
    cases given
    exact known
  | none =>
    rw [known] at given
    simp only at given ⊢
    split at given
    · cases given
    · next new =>
      rw [if_neg new]
      cases levels with
      | zero => cases given
      | succ levels =>
        simp only at given ⊢
        rcases run : atlas.computeMap (atlas.mapWithin levels (id :: stack)) (id :: stack) id maps
          with ⟨fault | fresh, after⟩
        · rw [run] at given
          cases given
        · rw [run] at given
          cases given
          exact Std.HashMap.getElem?_insert_self

theorem mapWithin_remembers_of_run {levels : Nat} {stack : List Nat} {id : Nat}
    {before after : MapMemory} {map : VarMap}
    (run : atlas.mapWithin levels stack id before = (.ok map, after)) : after[id]? = some map := by
  have found := mapWithin_remembers (congrArg Prod.fst run)
  rwa [run] at found

/-- A map that is remembered is given. -/
theorem exhaustive_of_remembered {id : Nat} {maps : MapMemory} {map : VarMap}
    (found : maps[id]? = some map) : atlas.exhaustive id maps = (.ok map, maps) := by
  rw [exhaustive, mapWithin_apply, found]

/-- A map that is not remembered is computed while only its type is on the stack. -/
theorem exhaustive_apply {id : Nat} {maps : MapMemory} (unknown : maps[id]? = none) :
    atlas.exhaustive id maps =
      match atlas.computeMap (atlas.mapWithin (atlas.tables.typeCount + 1) [id]) [id] id maps with
      | (.ok map, after) => (.ok map, after.insert id map)
      | (.error fault, after) => (.error fault, after) := by
  rw [exhaustive, mapWithin_apply, unknown]
  rfl

theorem exhaustive_recalls (atlas : Atlas) (id : Nat) :
    Work.Recalls (Work.onMaps (atlas.exhaustive id)) := by
  refine Work.recalls_onMaps (mapWithin_forgets_nothing _ _ id) fun given later kept => ?_
  rw [exhaustive_of_remembered (kept _ _ (mapWithin_remembers given))]

theorem typeVariableMap_recalls (atlas : Atlas) (id : Nat) :
    Work.Recalls (atlas.typeVariableMap id) :=
  (atlas.exhaustive_recalls id).bind fun _ => Work.recalls_pure _

end Atlas

namespace Tables

variable {tables : Tables}

/-! ## Texts -/

theorem rawClassName_replayedBy (tables : Tables) (record : ClassRecord) (appendPackage : Bool) :
    Work.ReplayedBy (tables.rawClassName record appendPackage)
      (tables.rawClassName record appendPackage) := by
  rw [rawClassName]
  refine (tables.name_replayedBy record.name).bind fun name => ?_
  split
  · split
    · exact Work.replayedBy_lift (.ok name)
    · next package _ =>
      exact (tables.packageName_replayedBy package).bind fun outer => Work.replayedBy_lift (.ok _)
  · exact Work.replayedBy_lift (.ok name)

/-- Names are replayed, so what holds of the parts of a type passes to the type. -/
theorem relates_replayedBy (tables : Tables) :
    tables.Relates fun step (echoes : Unit → _) =>
      ∀ index, Work.ReplayedBy step (echoes index) where
  lift outcome _ := Work.replayedBy_lift outcome
  bind replayed then_ index := (replayed index).bind fun value => then_ value index
  className _ appendPackage _ := tables.rawClassName_replayedBy _ appendPackage
  variableName _ _ := tables.name_replayedBy _

/-- **The text of a type is given again from parts that are given again**, be they written in
another way. -/
theorem renderVariant_replayedBy (tables : Tables) {render echo : Renderer}
    (parts : ∀ ref options, Work.ReplayedBy (render ref options) (echo ref options))
    (id : Nat) (options : NameOptions) :
    Work.ReplayedBy (tables.renderVariant render id options)
      (tables.renderVariant echo id options) := by
  have family := tables.relates_replayedBy.renderVariant (fun _ => echo)
    (fun ref other (_ : options.Alike other) _ => parts ref other) id
  exact family ()

/-- A text that is remembered is given. -/
theorem renderWithin_of_known {ref : TypeRef} {options : NameOptions} {memory : Memory}
    {text : String} (known : memory.texts[(ref, options)]? = some text) (levels : Nat) :
    tables.renderWithin levels ref options memory = (.ok text, memory) := by
  rw [renderWithin_eq, Work.bind_apply, Work.get_apply]
  simp only [known]
  rfl

/-- What a call of the renderer comes to: a text that is remembered, a fault before the type that
stands for the reference is written, or what the writing of this type comes to. -/
inductive RenderStep (tables : Tables) (ref : TypeRef) (options : NameOptions) (memory : Memory) :
    Nat → Except Fault String × Memory → Prop where
  | known {levels : Nat} {text : String} (found : memory.texts[(ref, options)]? = some text) :
      RenderStep tables ref options memory levels (.ok text, memory)
  | endless (new : memory.texts[(ref, options)]? = none) :
      RenderStep tables ref options memory 0 (.error (.endless ref.id), memory)
  | lost {levels : Nat} {fault : Fault} (new : memory.texts[(ref, options)]? = none)
      (stands : tables.standIn ref.element options = .error fault) :
      RenderStep tables ref options memory (levels + 1) (.error fault, memory)
  | failed {levels : Nat} {found : TypeRef} {fault : Fault} {after : Memory}
      (new : memory.texts[(ref, options)]? = none)
      (stands : tables.standIn ref.element options = .ok found)
      (written : tables.renderVariant (tables.renderWithin levels) found.id options memory =
        (.error fault, after)) :
      RenderStep tables ref options memory (levels + 1) (.error fault, after)
  | written {levels : Nat} {found : TypeRef} {body : String} {after : Memory}
      (new : memory.texts[(ref, options)]? = none)
      (stands : tables.standIn ref.element options = .ok found)
      (written : tables.renderVariant (tables.renderWithin levels) found.id options memory =
        (.ok body, after)) :
      RenderStep tables ref options memory (levels + 1)
        (.ok (body ++ arraySuffix (found.deepen ref.depth).depth),
          { after with
            texts := after.texts.insert (ref, options)
              (body ++ arraySuffix (found.deepen ref.depth).depth) })

theorem renderWithin_step (tables : Tables) (levels : Nat) (ref : TypeRef) (options : NameOptions)
    (memory : Memory) :
    tables.RenderStep ref options memory levels
      (tables.renderWithin levels ref options memory) := by
  cases known : memory.texts[(ref, options)]? with
  | some text =>
    rw [renderWithin_of_known known]
    exact .known known
  | none =>
    rw [renderWithin_eq, Work.bind_apply, Work.get_apply]
    simp only [known]
    cases levels with
    | zero => exact .endless known
    | succ levels =>
      cases stands : tables.standIn ref.element options with
      | error fault => exact .lost known stands
      | ok found =>
        simp only [Work.bind_apply, Work.lift_apply]
        rcases written : tables.renderVariant (tables.renderWithin levels) found.id options memory
          with ⟨fault | body, after⟩
        · exact .failed known stands written
        · exact .written known stands written

/-- **What a call of the renderer keeps and gives**: it passes on what holds of the texts that are
remembered and of the texts that are put together from them.  By induction on the levels. -/
theorem renderWithin_meets (sound : Memory → Prop) (result : TypeRef → NameOptions → String → Prop)
    (known : ∀ {memory : Memory} {ref : TypeRef} {options : NameOptions} {text : String},
      sound memory → memory.texts[(ref, options)]? = some text → result ref options text)
    (written : ∀ {levels : Nat}, (∀ ref options, Work.Meets sound
        (tables.renderWithin levels ref options) (result ref options) fun _ => True) →
      ∀ {ref found : TypeRef} {options : NameOptions},
        tables.standIn ref.element options = .ok found →
          Work.Meets sound (tables.renderVariant (tables.renderWithin levels) found.id options)
            (fun body => result ref options (body ++ arraySuffix (found.deepen ref.depth).depth))
            fun _ => True)
    (remembered : ∀ {levels : Nat} {ref found : TypeRef} {options : NameOptions}
      {before after : Memory} {body text : String},
      tables.standIn ref.element options = .ok found →
      tables.renderVariant (tables.renderWithin levels) found.id options before =
        (.ok body, after) →
      text = body ++ arraySuffix (found.deepen ref.depth).depth → result ref options text →
        sound after → sound { after with texts := after.texts.insert (ref, options) text })
    (levels : Nat) (ref : TypeRef) (options : NameOptions) :
    Work.Meets sound (tables.renderWithin levels ref options) (result ref options)
      fun _ => True := by
  induction levels generalizing ref options with
  | zero =>
    intro memory start
    have step := tables.renderWithin_step 0 ref options memory
    generalize tables.renderWithin 0 ref options memory = outcome at step ⊢
    cases step with
    | known found => exact ⟨start, known start found⟩
    | endless => exact ⟨start, trivial⟩
  | succ levels ih =>
    intro memory start
    have step := tables.renderWithin_step (levels + 1) ref options memory
    generalize tables.renderWithin (levels + 1) ref options memory = outcome at step ⊢
    cases step with
    | known found => exact ⟨start, known start found⟩
    | lost => exact ⟨start, trivial⟩
    | failed new stands run =>
      have kept := (written ih stands memory start).1
      rw [run] at kept
      exact ⟨kept, trivial⟩
    | written new stands run =>
      obtain ⟨kept, holds⟩ := (written ih stands).of_ok start run
      exact ⟨remembered stands run rfl holds kept, holds⟩

/-- What names keep and a text that is put together anew keeps, the renderer keeps. -/
theorem renderWithin_keeps {sound : Memory → Prop}
    (relates : tables.Relates fun step (_ : Unit → _) =>
      Work.Meets sound step (fun _ => True) fun _ => True)
    (remembered : ∀ {levels : Nat} {ref found : TypeRef} {options : NameOptions}
      {before after : Memory} {body text : String},
      tables.standIn ref.element options = .ok found →
      tables.renderVariant (tables.renderWithin levels) found.id options before =
        (.ok body, after) →
      text = body ++ arraySuffix (found.deepen ref.depth).depth → sound after →
        sound { after with texts := after.texts.insert (ref, options) text })
    (levels : Nat) (ref : TypeRef) (options : NameOptions) :
    Work.Meets sound (tables.renderWithin levels ref options) (fun _ => True) fun _ => True := by
  refine renderWithin_meets sound (fun _ _ _ => True) (fun _ _ => trivial) ?_
    (fun stands run is _ => remembered stands run is) levels ref options
  exact fun {levels} parts {_ found _} _ =>
    relates.renderVariant (fun _ => tables.renderWithin levels) (fun ref other _ => parts ref other)
      found.id

/-- A text that was given is remembered. -/
theorem renderWithin_remembers {levels : Nat} {ref : TypeRef} {options : NameOptions}
    {memory : Memory} {text : String}
    (given : (tables.renderWithin levels ref options memory).1 = .ok text) :
    (tables.renderWithin levels ref options memory).2.texts[(ref, options)]? = some text := by
  have step := tables.renderWithin_step levels ref options memory
  generalize tables.renderWithin levels ref options memory = outcome at step given ⊢
  cases step with
  | known found =>
    cases given
    exact found
  | written new stands written =>
    cases given
    exact Std.HashMap.getElem?_insert_self
  | endless | lost | failed => cases given

/-- What is rendered with some levels is given again with any others, since it is remembered. -/
theorem replayedBy_of_learns {levels other : Nat} {ref : TypeRef} {options : NameOptions}
    (learns : Work.Learns (tables.renderWithin levels ref options))
    (echoLearns : Work.Learns (tables.renderWithin other ref options)) :
    Work.ReplayedBy (tables.renderWithin levels ref options)
      (tables.renderWithin other ref options) := by
  refine ⟨⟨learns, echoLearns, fun given later spells => ?_⟩, fun given later spells => ?_⟩
  · rw [renderWithin_of_known (spells.texts _ _ (renderWithin_remembers given))]
  · rw [renderWithin_of_known (spells.texts _ _ (renderWithin_remembers given))]
    exact .refl later

theorem renderWithin_learns (levels : Nat) (ref : TypeRef) (options : NameOptions) :
    Work.Learns (tables.renderWithin levels ref options) := by
  induction levels generalizing ref options with
  | zero =>
    intro memory
    have step := tables.renderWithin_step 0 ref options memory
    generalize tables.renderWithin 0 ref options memory = outcome at step ⊢
    cases step <;> exact .refl memory
  | succ levels ih =>
    intro memory
    have parts := fun ref options => replayedBy_of_learns (ih ref options) (ih ref options)
    have step := tables.renderWithin_step (levels + 1) ref options memory
    generalize tables.renderWithin (levels + 1) ref options memory = outcome at step ⊢
    cases step with
    | known | lost => exact .refl memory
    | @failed _ found _ _ _ _ written =>
      have learns := (tables.renderVariant_replayedBy parts found.id options).learns memory
      rwa [written] at learns
    | @written _ found _ _ new _ written =>
      have learns := (tables.renderVariant_replayedBy parts found.id options).learns memory
      rw [written] at learns
      refine ⟨{ learns.within with texts := learns.within.texts.insert ?_ }, learns.found⟩
      intro older known
      rw [new] at known
      cases known

theorem renderWithin_replayedBy (tables : Tables) (levels other : Nat) (ref : TypeRef)
    (options : NameOptions) :
    Work.ReplayedBy (tables.renderWithin levels ref options)
      (tables.renderWithin other ref options) :=
  replayedBy_of_learns (renderWithin_learns levels ref options)
    (renderWithin_learns other ref options)

theorem render_recalls (tables : Tables) (ref : TypeRef) (options : NameOptions) :
    Work.Recalls (tables.render ref options) :=
  (tables.renderWithin_replayedBy _ _ ref options).toEchoedBy.recalls Memory.lasting_spells

end Tables

/-! ## Questions to a type -/

namespace TypeView

variable {view : TypeView} {atlas : Atlas}

/-- Names, maps and texts are recalled, so every question to a type is. -/
theorem recalls_asked (atlas : Atlas) : atlas.Asked fun step => Work.Recalls step where
  lift := Work.recalls_lift
  bind := Work.Recalls.bind
  className _ := atlas.tables.name_recalls _
  variableName _ := atlas.tables.name_recalls _
  package _ package _ := atlas.tables.packageName_recalls package
  map := atlas.typeVariableMap_recalls
  text := atlas.tables.render_recalls

theorem variableMap_recalls : Work.Recalls (view.variableMap atlas) :=
  (recalls_asked atlas).variableMap view

/-- A name with a choice of package and type arguments. -/
theorem nameOptions_bind_recalls (appendPackage includeGenerics : Bool) :
    Work.Recalls (do
      let options ← view.nameOptions atlas appendPackage includeGenerics
      view.nameWith atlas options) :=
  (recalls_asked atlas).naming view appendPackage includeGenerics

theorem qualifiedName_recalls (includeGenerics : Bool) :
    Work.Recalls (view.qualifiedName atlas includeGenerics) :=
  nameOptions_bind_recalls true includeGenerics

theorem referenceName_recalls : Work.Recalls (view.referenceName atlas) :=
  qualifiedName_recalls true

theorem name_recalls : Work.Recalls (view.name atlas) :=
  nameOptions_bind_recalls false true

theorem simpleName_recalls : Work.Recalls (view.simpleName atlas) :=
  (recalls_asked atlas).simpleName view

theorem packageName_recalls : Work.Recalls (view.packageName atlas) :=
  (recalls_asked atlas).packageName view

end TypeView

end ClassAtlas

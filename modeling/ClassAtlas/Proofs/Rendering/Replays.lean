import ClassAtlas.Proofs.Recall.Types

/-!
# Remembered texts are written again

A text is remembered under its reference and its options together, so of two references for which
the same type stands one may have its text in memory and the other not.  That makes no difference:
whatever is remembered would be written again (`Memory.Rewrites`), since the names that occur in it
and the texts of its parts are remembered as well.

So the renderer gives what it would give without a text of the reference itself (`render_outcome`),
and two references for which the same type stands differ in their array dimensions only
(`render_alike`).  This holds of faults as well, and of names beyond the limit.
-/

set_option autoImplicit false

namespace ClassAtlas

/-- A text that would be written again for a reference, with any number of levels, as soon as so
much is remembered, and nothing would be learned by that. -/
def Tables.Rewritten (tables : Tables) (memory : Memory) (ref : TypeRef) (options : NameOptions)
    (text : String) : Prop :=
  ∃ found body, tables.standIn ref.element options = .ok found ∧
    text = body ++ arraySuffix (found.deepen ref.depth).depth ∧
    ∀ levels later, memory.Spells later → ∃ after,
      tables.renderVariant (tables.renderWithin levels) found.id options later = (.ok body, after) ∧
        after.Spells later

/-- Every text that is remembered would be written again, and the maps that are remembered are good
ones, whatever that is. -/
structure Memory.Rewrites (tables : Tables) (good : MapMemory → Prop) (memory : Memory) : Prop where
  texts : ∀ (ref : TypeRef) (options : NameOptions) (text : String),
    memory.texts[(ref, options)]? = some text → tables.Rewritten memory ref options text
  maps : good memory.maps

theorem Tables.Rewritten.mono {tables : Tables} {memory later : Memory} {ref : TypeRef}
    {options : NameOptions} {text : String}
    (rewritten : tables.Rewritten memory ref options text) (spells : memory.Spells later) :
    tables.Rewritten later ref options text := by
  obtain ⟨found, body, stands, same, again⟩ := rewritten
  exact ⟨found, body, stands, same, fun levels more onward =>
    again levels more (spells.trans onward)⟩

namespace Memory

variable {tables : Tables} {good : MapMemory → Prop} {memory later : Memory}

theorem rewrites_of_no_texts (nothing : memory.texts = ∅) (maps : good memory.maps) :
    memory.Rewrites tables good := by
  refine ⟨fun ref options text found => ?_, maps⟩
  simp [nothing] at found

/-- What else is learned takes no text away. -/
theorem Rewrites.mono (rewrites : memory.Rewrites tables good) (spells : memory.Spells later)
    (same : later.texts = memory.texts) (maps : good later.maps) :
    later.Rewrites tables good := by
  refine ⟨fun ref options text found => ?_, maps⟩
  rw [same] at found
  exact (rewrites.texts ref options text found).mono spells

end Memory

namespace Tables

variable {tables : Tables} {good : MapMemory → Prop}

/-! ## Rendering keeps it -/

theorem name_rewrites (tables : Tables) (id : Nat) :
    Work.Meets (Memory.Rewrites tables good) (tables.name id) (fun _ => True) fun _ => True := by
  intro memory rewrites
  have spells := (tables.name_learns id memory).within.spells
  rw [name_apply] at spells ⊢
  exact ⟨rewrites.mono spells rfl rewrites.maps, Outcome.meets_true _⟩

theorem packageName_rewrites (tables : Tables) (id : Nat) :
    Work.Meets (Memory.Rewrites tables good) (tables.packageName id) (fun _ => True)
      fun _ => True := by
  intro memory rewrites
  have spells := (tables.packageName_learns id memory).within.spells
  rw [packageName_apply] at spells ⊢
  exact ⟨rewrites.mono spells rfl rewrites.maps, Outcome.meets_true _⟩

theorem rawClassName_rewrites (record : ClassRecord) (appendPackage : Bool) :
    Work.Meets (Memory.Rewrites tables good) (tables.rawClassName record appendPackage)
      (fun _ => True) fun _ => True := by
  refine (tables.name_rewrites record.name).bind fun name _ => ?_
  split
  · split
    · exact Work.meets_pure trivial
    · exact (tables.packageName_rewrites _).bind fun outer _ => Work.meets_pure trivial
  · exact Work.meets_pure trivial

/-- Names keep the texts, so what the parts of a type keep the type keeps. -/
theorem relates_rewrites (tables : Tables) (good : MapMemory → Prop) :
    tables.Relates fun step (_ : Unit → _) =>
      Work.Meets (Memory.Rewrites tables good) step (fun _ => True) fun _ => True where
  lift outcome := Work.meets_lift (Outcome.meets_true outcome)
  bind kept then_ := kept.bind fun value _ => then_ value
  className _ appendPackage := rawClassName_rewrites _ appendPackage
  variableName _ := tables.name_rewrites _

/-- **A text that is put together anew would be put together again**, and so would every other text
that is remembered then. -/
theorem rewrites_of_written {levels : Nat} {ref found : TypeRef} {options : NameOptions}
    {memory after : Memory} {body text : String}
    (stands : tables.standIn ref.element options = .ok found)
    (written : tables.renderVariant (tables.renderWithin levels) found.id options memory =
      (.ok body, after))
    (is : text = body ++ arraySuffix (found.deepen ref.depth).depth)
    (rewrites : after.Rewrites tables good) :
    Memory.Rewrites tables good { after with texts := after.texts.insert (ref, options) text } := by
  -- its parts are remembered, so the body is written again from now on
  have again : ∀ other later, after.Spells later → ∃ last,
      tables.renderVariant (tables.renderWithin other) found.id options later = (.ok body, last) ∧
        last.Spells later := by
    intro other later spells
    have replayed := tables.renderVariant_replayedBy (tables.renderWithin_replayedBy levels other)
      found.id options
    have given := congrArg Prod.fst written
    have onward : (tables.renderVariant (tables.renderWithin levels) found.id options
        memory).2.Spells later := by rwa [written]
    exact ⟨_, Prod.ext (replayed.again given onward) rfl, replayed.rests given onward⟩
  have same : ∀ older, after.texts[(ref, options)]? = some older → older = text := by
    intro older known
    obtain ⟨found', body', stands', rfl, again'⟩ := rewrites.texts ref options older known
    obtain rfl := Except.ok.inj (stands.symm.trans stands')
    obtain ⟨_, here, -⟩ := again' levels after (.refl after)
    obtain ⟨_, there, -⟩ := again levels after (.refl after)
    cases here.symm.trans there
    exact is.symm
  have spells : after.Spells { after with texts := after.texts.insert (ref, options) text } :=
    { Memory.Spells.refl after with texts := (Keeps.refl _).insert same }
  refine ⟨fun other options' known there => ?_, rewrites.maps⟩
  have before : ∀ {key : TypeRef × NameOptions} {known : String}, after.texts[key]? = some known →
      tables.Rewritten { after with texts := after.texts.insert (ref, options) text } key.1 key.2
        known :=
    fun {key known} there => (rewrites.texts key.1 key.2 known there).mono spells
  refine forall_getElem?_insert before ?_ there
  exact ⟨found, body, stands, is, fun levels later onward =>
    again levels later (spells.trans onward)⟩

theorem renderWithin_rewrites (levels : Nat) (ref : TypeRef) (options : NameOptions) :
    Work.Meets (Memory.Rewrites tables good) (tables.renderWithin levels ref options)
      (fun _ => True) fun _ => True :=
  renderWithin_keeps (tables.relates_rewrites good) rewrites_of_written levels ref options

/-! ## What is given -/

/-- **The renderer gives what it would give if it did not remember the text itself**: the text of
the type that stands for the reference, and the dimensions. -/
theorem render_outcome {memory : Memory} (rewrites : memory.Rewrites tables good) (ref : TypeRef)
    (options : NameOptions) :
    (tables.render ref options memory).1 = (do
      let found ← tables.standIn ref.element options
      let body ← (tables.renderVariant (tables.renderWithin (8 * tables.typeCount + 1)) found.id
        options memory).1
      return body ++ arraySuffix (found.deepen ref.depth).depth) := by
  rw [render]
  have step := tables.renderWithin_step (8 * tables.typeCount + 2) ref options memory
  generalize tables.renderWithin (8 * tables.typeCount + 2) ref options memory = outcome at step ⊢
  cases step with
  | known known =>
    obtain ⟨found, body, stands, rfl, again⟩ := rewrites.texts ref options _ known
    obtain ⟨_, written, -⟩ := again (8 * tables.typeCount + 1) memory (.refl memory)
    rw [stands, Outcome.ok_bind, written]
    rfl
  | lost new stands =>
    rw [stands]
    rfl
  | failed new stands written | written new stands written =>
    rw [stands, Outcome.ok_bind, written]
    rfl

/-- **Two references for which the same type stands differ in their dimensions only.** -/
theorem render_alike {memory : Memory} (rewrites : memory.Rewrites tables good)
    (left right : TypeRef) {found other : TypeRef} {options : NameOptions}
    (stands : tables.standIn left.element options = .ok found)
    (stands' : tables.standIn right.element options = .ok other) (same : found.id = other.id) :
    ∃ body : Except Fault String,
      (tables.render left options memory).1 =
        body.map (· ++ arraySuffix (found.deepen left.depth).depth) ∧
      (tables.render right options memory).1 =
        body.map (· ++ arraySuffix (other.deepen right.depth).depth) := by
  refine ⟨(tables.renderVariant (tables.renderWithin (8 * tables.typeCount + 1)) found.id
    options memory).1, ?_, ?_⟩
  · rw [render_outcome rewrites, stands]
    rfl
  · rw [render_outcome rewrites, stands', same]
    rfl

end Tables

end ClassAtlas

import ClassAtlas.Proofs.Lookup
import ClassAtlas.Proofs.Rendering.Replays

/-!
# More in memory

A name that is beyond the limit fails until enough of the names that it is made of are remembered.
So a question may fail at first and have an answer later.  The other way round nothing is lost: what
a step gives it gives again with more in memory, and by that the one memory stays within the other
(`Work.Rises`).  Names, packages and texts rise, and where no owner leads back every question about
a type does (`Atlas.rises_asked`).

So what a name stands for without memory it stands for whatever was asked before
(`Atlas.findByName_stays`), on snapshots with names beyond the limit as well.
-/

set_option autoImplicit false

namespace ClassAtlas

/-- The same entry may be added on both sides. -/
theorem Keeps.insert_insert {κ ν : Type} [BEq κ] [Hashable κ] [LawfulBEq κ]
    {first second : Std.HashMap κ ν} (kept : Keeps first second) (key : κ) (value : ν) :
    Keeps (first.insert key value) (second.insert key value) := by
  intro other older found
  rw [Std.HashMap.getElem?_insert] at found ⊢
  split at found
  · next same => rwa [if_pos same]
  · next apart => exact (if_neg apart).trans (kept other older found)

/-! ## Entries of a table -/

namespace Directory

variable {ε : Type} (dir : Directory ε) {less more : Std.HashMap Nat String} {levels id : Nat}
  {text : String}

/-- With more in memory no fewer entries are resolved. -/
theorem resolves_of_keeps (kept : Keeps less more)
    (resolves : ∃ text, dir.resolve less levels id = .ok text) :
    ∃ text, dir.resolve more levels id = .ok text := by
  induction levels generalizing id with
  | zero =>
    obtain ⟨inside, ⟨text, found⟩ | ⟨_, none, -⟩⟩ := resolves_iff.1 resolves
    · exact resolves_iff.2 ⟨inside, .inl ⟨text, kept id text found⟩⟩
    · cases none
  | succ levels ih =>
    obtain ⟨inside, ⟨text, found⟩ | ⟨_, same, each⟩⟩ := resolves_iff.1 resolves
    · exact resolves_iff.2 ⟨inside, .inl ⟨text, kept id text found⟩⟩
    · cases same
      exact resolves_iff.2 ⟨inside, .inr ⟨levels, rfl, fun other refers => ih (each other refers)⟩⟩

variable (truths : ∀ {id text}, less[id]? = some text → dir.Spells id text)
  (truths' : ∀ {id text}, more[id]? = some text → dir.Spells id text) (kept : Keeps less more)

include truths truths' kept

/-- An entry keeps its text with more in memory. -/
theorem resolve_of_keeps (given : dir.resolve less levels id = .ok text) :
    dir.resolve more levels id = .ok text := by
  obtain ⟨other, again⟩ := dir.resolves_of_keeps kept ⟨text, given⟩
  rw [again, (settles truths' again).unique (settles truths given)]

/-- What is remembered by that on the one side is remembered on the other. -/
theorem ask_of_keeps (given : dir.resolve less (chainLimit + 1) id = .ok text) :
    Keeps (dir.ask less id) (dir.ask more id) := by
  rw [ask_of_ok given, ask_of_ok (dir.resolve_of_keeps truths truths' kept given)]
  exact kept.insert_insert id text

end Directory

/-! ## Memories and steps -/

theorem Memory.spells_of_empty (memory : Memory) : Memory.empty.Spells memory := by
  constructor <;> (intro key value found; simp [Memory.empty] at found)

/-- What is remembered of names, packages and maps is what it is without memory, and every text
would be written again. -/
structure Memory.Trusted (atlas : Atlas) (memory : Memory) : Prop
    extends Memory.Rewrites atlas.tables (MapMemory.Settled atlas) memory where
  names : ∀ {id : Nat} {text : String}, memory.names[id]? = some text → atlas.tables.NameIs id text
  packages : ∀ {id : Nat} {text : String},
    memory.packages[id]? = some text → atlas.tables.PackageIs id text
  partitions : ∀ {partitions : Partitions},
    memory.partitions = some partitions → Partitions.ofTables atlas.tables = .ok partitions

theorem Memory.trusted_empty (atlas : Atlas) : Memory.empty.Trusted atlas where
  toRewrites := rewrites_of_no_texts rfl (MapMemory.settled_empty atlas)
  names := fun found => by simp [Memory.empty] at found
  packages := fun found => by simp [Memory.empty] at found
  partitions := fun found => nomatch found

namespace Work

variable {α β : Type} {sound : Memory → Prop}

/-- A step that keeps the memory sound and gives its result again with more in memory, which then is
still more. -/
structure Rises (sound : Memory → Prop) (step : Work α) : Prop where
  keeps : Meets sound step (fun _ => True) fun _ => True
  again : ∀ {less more : Memory} {value : α}, sound less → sound more → less.Spells more →
    (step less).1 = .ok value → (step more).1 = .ok value ∧ (step less).2.Spells (step more).2

theorem rises_lift (outcome : Except Fault α) : Rises sound (lift outcome : Work α) :=
  ⟨meets_lift (Outcome.meets_true outcome), fun _ _ spells given => ⟨given, spells⟩⟩

/-- A sequence rises when its steps do: the second step is started with more in memory again. -/
theorem Rises.bind {first : Work α} {next : α → Work β} (rises : Rises sound first)
    (then_ : ∀ value, Rises sound (next value)) : Rises sound (first >>= next) := by
  refine ⟨rises.keeps.bind fun value _ => (then_ value).keeps, ?_⟩
  intro less more result start start' spells given
  rcases run : first less with ⟨fault | value, between⟩
  · rw [bind_of_error run] at given
    cases given
  · obtain ⟨again, within⟩ := rises.again start start' spells (congrArg Prod.fst run)
    have kept := (rises.keeps less start).1
    have kept' := (rises.keeps more start').1
    rw [run] at within kept
    rw [bind_of_ok run] at given ⊢
    rw [bind_of_ok (Prod.ext again rfl)]
    exact (then_ value).again kept kept' within given

/-- A step with one answer rises when it learns neither names nor texts. -/
theorem Steady.rises {step : Work α} {result : α → Prop} (steady : Steady sound step result)
    (learns : Learns step) (rests : ∀ memory, (step memory).2.Spells memory) :
    Rises sound step := by
  refine ⟨steady.anything.keeps, fun {less more value} start start' spells given => ⟨?_, ?_⟩⟩
  · exact (steady.ok_iff start start' value).1 given
  · exact (rests less).trans (spells.trans (learns more).within.spells)

/-- **What a step gives without memory it always gives.** -/
theorem Rises.always {step : Work α} (rises : Rises sound step) (fresh : sound .empty) {value : α}
    (given : (step .empty).1 = .ok value) : Always sound step value := by
  intro memory start
  have again := (rises.again fresh start memory.spells_of_empty given).1
  exact ⟨(rises.keeps memory start).1, by rw [again]; rfl⟩

end Work

namespace Tables

variable {atlas : Atlas}

/-! ## Names and packages -/

theorem name_rises (id : Nat) : Work.Rises (Memory.Trusted atlas) (atlas.tables.name id) := by
  constructor
  · intro memory trusted
    refine ⟨?_, Outcome.meets_true _⟩
    have rewrites := (atlas.tables.name_rewrites id memory trusted.toRewrites).1
    rw [name_apply] at rewrites ⊢
    exact { trusted with
      toRewrites := rewrites
      names := Directory.ask_spells trusted.names }
  · intro less more text trusted trusted' spells given
    let dir := atlas.tables.nameDirectory
    rw [name_apply] at given ⊢
    rw [name_apply]
    exact ⟨dir.resolve_of_keeps trusted.names trusted'.names spells.names given,
      { spells with names := dir.ask_of_keeps trusted.names trusted'.names spells.names given }⟩

theorem packageName_rises (id : Nat) :
    Work.Rises (Memory.Trusted atlas) (atlas.tables.packageName id) := by
  constructor
  · intro memory trusted
    refine ⟨?_, Outcome.meets_true _⟩
    have rewrites := (atlas.tables.packageName_rewrites id memory trusted.toRewrites).1
    rw [packageName_apply] at rewrites ⊢
    exact { trusted with
      toRewrites := rewrites
      packages := Directory.ask_spells trusted.packages }
  · intro less more text trusted trusted' spells given
    let dir := atlas.tables.packageDirectory
    rw [packageName_apply] at given ⊢
    rw [packageName_apply]
    have within := dir.ask_of_keeps trusted.packages trusted'.packages spells.packages given
    exact ⟨dir.resolve_of_keeps trusted.packages trusted'.packages spells.packages given,
      { spells with packages := within }⟩

theorem rawClassName_rises (record : ClassRecord) (appendPackage : Bool) :
    Work.Rises (Memory.Trusted atlas) (atlas.tables.rawClassName record appendPackage) := by
  refine (name_rises record.name).bind fun name => ?_
  split
  · split
    · exact Work.rises_lift (.ok name)
    · exact (packageName_rises _).bind fun outer => Work.rises_lift (.ok _)
  · exact Work.rises_lift (.ok name)

/-! ## Texts -/

/-- Names rise, so the text of a type does when the texts of its parts do. -/
theorem relates_rises (atlas : Atlas) :
    atlas.tables.Relates fun step (_ : Unit → _) => Work.Rises (Memory.Trusted atlas) step where
  lift := Work.rises_lift
  bind := Work.Rises.bind
  className _ := rawClassName_rises _
  variableName _ := name_rises _

theorem renderWithin_trusted (levels : Nat) (ref : TypeRef) (options : NameOptions) :
    Work.Meets (Memory.Trusted atlas) (atlas.tables.renderWithin levels ref options)
      (fun _ => True) fun _ => True := by
  refine renderWithin_keeps ?_ ?_ levels ref options
  · exact {
      lift := fun outcome => (Work.rises_lift outcome).keeps
      bind := fun kept then_ => kept.bind fun value _ => then_ value
      className := fun _ appendPackage => (rawClassName_rises _ appendPackage).keeps
      variableName := fun _ => (name_rises _).keeps }
  · intro _ _ _ _ _ _ _ _ stands written is trusted
    exact { trusted with toRewrites := rewrites_of_written stands written is trusted.toRewrites }

/-- Where the writing of the type comes to the same text with more in memory, so does the reference.
When the text is remembered there already it would be written again, and nothing is learned by
that. -/
theorem renderWithin_of_written {levels : Nat} {ref found : TypeRef} {options : NameOptions}
    {body : String} {more after : Memory} (trusted : more.Trusted atlas)
    (stands : atlas.tables.standIn ref.element options = .ok found)
    (again : (atlas.tables.renderVariant (atlas.tables.renderWithin levels) found.id options
      more).1 = .ok body)
    (within : after.Spells (atlas.tables.renderVariant (atlas.tables.renderWithin levels) found.id
      options more).2) :
    let text := body ++ arraySuffix (found.deepen ref.depth).depth
    (atlas.tables.renderWithin (levels + 1) ref options more).1 = .ok text ∧
      Memory.Spells { after with texts := after.texts.insert (ref, options) text }
        (atlas.tables.renderWithin (levels + 1) ref options more).2 := by
  intro text
  have step := atlas.tables.renderWithin_step (levels + 1) ref options more
  generalize atlas.tables.renderWithin (levels + 1) ref options more = outcome at step ⊢
  cases step with
  | known known =>
    obtain ⟨other, body', stands', rfl, rewritten⟩ := trusted.texts ref options _ known
    obtain rfl := Except.ok.inj (stands.symm.trans stands')
    obtain ⟨last, written, rests⟩ := rewritten levels more (.refl more)
    rw [written] at again within
    cases again
    have onward := within.trans rests
    exact ⟨rfl, { onward with texts := onward.texts.insert_known known }⟩
  | lost _ stands' => cases stands.symm.trans stands'
  | failed _ stands' run =>
    obtain rfl := Except.ok.inj (stands.symm.trans stands')
    rw [run] at again
    cases again
  | written _ stands' run =>
    obtain rfl := Except.ok.inj (stands.symm.trans stands')
    rw [run] at again within
    cases again
    exact ⟨rfl, { within with texts := within.texts.insert_insert _ _ }⟩

/-- **A text that is given is given again with more in memory.**  By induction on the levels. -/
theorem renderWithin_rises (levels : Nat) (ref : TypeRef) (options : NameOptions) :
    Work.Rises (Memory.Trusted atlas) (atlas.tables.renderWithin levels ref options) := by
  induction levels generalizing ref options with
  | zero =>
    refine ⟨renderWithin_trusted 0 ref options, ?_⟩
    intro less more text trusted trusted' spells given
    have step := atlas.tables.renderWithin_step 0 ref options less
    generalize atlas.tables.renderWithin 0 ref options less = outcome at step given ⊢
    cases step with
    | known found =>
      rw [renderWithin_of_known (spells.texts _ _ found)]
      exact ⟨given, spells⟩
    | endless => cases given
  | succ levels ih =>
    refine ⟨renderWithin_trusted (levels + 1) ref options, ?_⟩
    intro less more text trusted trusted' spells given
    have step := atlas.tables.renderWithin_step (levels + 1) ref options less
    generalize atlas.tables.renderWithin (levels + 1) ref options less = outcome at step given ⊢
    cases step with
    | known found =>
      rw [renderWithin_of_known (spells.texts _ _ found)]
      exact ⟨given, spells⟩
    | lost | failed => cases given
    | @written _ found body after new stands run =>
      have parts := (relates_rises atlas).renderVariant (fun _ => atlas.tables.renderWithin levels)
        (fun ref other (_ : options.Alike other) => ih ref other) found.id
      obtain ⟨again, within⟩ := parts.again trusted trusted' spells (congrArg Prod.fst run)
      rw [run] at within
      cases given
      exact renderWithin_of_written trusted' stands again within

end Tables

namespace Atlas

variable {atlas : Atlas}

/-! ## Maps and groups -/

theorem exhaustive_rises {id : Nat} (detached : atlas.Detached id) :
    Work.Rises (Memory.Trusted atlas) (Work.onMaps (atlas.exhaustive id)) := by
  have steady : Work.Steady (Memory.Trusted atlas) (Work.onMaps (atlas.exhaustive id)) _ :=
    onMaps_steady (fun trusted => trusted.maps)
      (fun trusted settled => { trusted with
        toRewrites := trusted.toRewrites.mono ⟨.refl _, .refl _, .refl _⟩ rfl settled })
      (exhaustive_settles detached)
  exact steady.rises (atlas.exhaustive_recalls id).learns fun _ => ⟨.refl _, .refl _, .refl _⟩

theorem partitions_trusted :
    Work.Steady (Memory.Trusted atlas) atlas.tables.partitions
      (Partitions.ofTables atlas.tables = .ok ·) := by
  refine partitions_steady (fun trusted => trusted.partitions) fun trusted grouped => ?_
  exact { trusted with
    toRewrites := trusted.toRewrites.mono ⟨.refl _, .refl _, .refl _⟩ rfl trusted.maps
    partitions := fun found => Option.some.inj found ▸ grouped }

theorem partitions_rises : Work.Rises (Memory.Trusted atlas) atlas.tables.partitions := by
  refine partitions_trusted.rises atlas.tables.partitions_recalls.learns fun memory => ?_
  rw [Tables.partitions, Work.bind_apply, Work.get_apply]
  cases known : memory.partitions with
  | some partitions =>
    simp only [known]
    exact .refl memory
  | none =>
    simp only [known]
    cases Partitions.ofTables atlas.tables <;> exact ⟨.refl _, .refl _, .refl _⟩

/-! ## Questions -/

section

variable (detached : ∀ id, atlas.Detached id)

include detached

/-- Where no owner leads back, every question to a type rises. -/
theorem rises_asked : atlas.Asked fun step => Work.Rises (Memory.Trusted atlas) step where
  lift := Work.rises_lift
  bind := Work.Rises.bind
  className _ := Tables.name_rises _
  variableName _ := Tables.name_rises _
  package _ package _ := Tables.packageName_rises package
  map id := (exhaustive_rises (detached id)).bind fun _ => Work.rises_lift (.ok _)
  text := Tables.renderWithin_rises _

theorem ask_trusted (question : Question) {memory : Memory} (trusted : memory.Trusted atlas) :
    (question.ask atlas memory).Trusted atlas :=
  ask_keeps (Memory.Trusted atlas) (rises_asked detached) partitions_rises
    (fun id => exhaustive_rises (detached id)) (fun rises _ trusted => (rises.keeps _ trusted).1)
    (fun _ trusted => { trusted with
      toRewrites := trusted.toRewrites.mono ⟨.refl _, .refl _, .refl _⟩ rfl trusted.maps })
    question trusted

/-- What is always sought is found whatever was asked before. -/
theorem findByName_of_always (earlier : List Question) {name : String} {found : Option TypeRef}
    (sought : Work.Always (Memory.Trusted atlas) (atlas.seek name) found) :
    (atlas.findByName name (atlas.afterQuestions earlier)).1 = .ok found := by
  have kept : (atlas.afterQuestions earlier).Trusted atlas ∧
      ∀ ref, (atlas.afterQuestions earlier).found[name]? = some ref → found = some ref := by
    refine List.foldlRecOn (motive := fun memory : Memory => memory.Trusted atlas ∧
      ∀ ref, memory.found[name]? = some ref → found = some ref) earlier _ ?_ ?_
    · exact ⟨Memory.trusted_empty atlas, fun ref found => by simp [Memory.empty] at found⟩
    · rintro memory ⟨trusted, known⟩ question -
      refine ⟨ask_trusted detached question trusted, fun ref there => ?_⟩
      rcases found_of_ask there with before | now
      · exact known ref before
      · exact Except.ok.inj ((sought.fst_eq trusted).symm.trans now)
  exact findByName_of_sought kept.2 (sought.fst_eq kept.1)

/-- **What a name stands for without memory it stands for whatever was asked before.** -/
theorem findByName_stays (earlier : List Question) {name : String} {found : Option TypeRef}
    (given : (atlas.findByName name .empty).1 = .ok found) :
    (atlas.findByName name (atlas.afterQuestions earlier)).1 = .ok found := by
  have rises := (rises_asked detached).seek partitions_rises name
  refine findByName_of_always detached earlier (rises.always (Memory.trusted_empty atlas) ?_)
  rw [findByName_of_unknown atlas Std.HashMap.getElem?_empty] at given
  rcases sought : atlas.seek name .empty with ⟨fault | other, after⟩
  · rw [sought] at given
    cases given
  · rw [sought] at given
    cases other <;> exact given

end

end Atlas

end ClassAtlas

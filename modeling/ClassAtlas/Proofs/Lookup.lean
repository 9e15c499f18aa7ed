import ClassAtlas.Proofs.Rendering.Questions

/-!
# Looking names up

A lookup asks one type after the other until one has the name, so it fails when a type fails that is
asked before: a parameterized type whose own map has no end stands in the way of every name that is
looked for behind it (`Snapshot.swappedPair`).

When each type that is asked can be named, the lookup gives the first type that has the name, and
nothing when none has it, whatever was asked before (`findByName_answers`).
-/

set_option autoImplicit false

namespace ClassAtlas

namespace Atlas

variable {atlas : Atlas}

/-- A type can be named on its own: its type variables stand for something, and with that no type
variable is written inside itself. -/
def Nameable (atlas : Atlas) (id : Nat) : Prop :=
  ∀ view, atlas.tables.view (.plain id) = .ok view → ∀ appendPackage includeGenerics,
    ∃ options, (view.nameOptions atlas appendPackage includeGenerics .empty).1 = .ok options ∧
      ∀ call ∈ view.calls options, ¬atlas.tables.Recurs call

variable (fit : atlas.tables.WellFormed) (named : atlas.tables.Named)

include fit

/-- A type of the snapshot is seen without bindings from outside. -/
theorem view_ok {id : Nat} (below : id < atlas.tables.typeCount) :
    ∃ view, atlas.tables.view (.plain id) = .ok view ∧
      atlas.tables.typeData view.ref.id = .ok view.data ∧ view.ref = .plain id ∧
        view.outer = .empty := by
  obtain ⟨data, known⟩ := fit.decodes id below
  refine ⟨⟨.plain id, data, .empty⟩, ?_, known, rfl, rfl⟩
  exact Outcome.bind_eq_ok.2 ⟨data, known, rfl⟩

include named

/-- A type that can be named always has its names. -/
theorem Nameable.names_always {id : Nat} (nameable : atlas.Nameable id) {view : TypeView}
    (seen : atlas.tables.view (.plain id) = .ok view)
    (known : atlas.tables.typeData view.ref.id = .ok view.data)
    (outside : view.outer.Inside atlas.tables.typeCount) (appendPackage includeGenerics : Bool) :
    ∃ text, Work.Always (Memory.Faithful atlas)
      (view.nameOptions atlas appendPackage includeGenerics >>= view.nameWith atlas) text := by
  obtain ⟨options, given, free⟩ := nameable view seen appendPackage includeGenerics
  have steadfast := steadfast_of_wellFormed fit named
  have inside := (TypeView.nameOptions_meets fit outside appendPackage includeGenerics .empty
    (Memory.sound_empty _)).2
  rw [given] at inside
  have written := (TypeView.nameWith_writes fit known inside .empty (Memory.sound_empty _)).2
  obtain ⟨text, fresh, -⟩ := Outcome.meets_iff_ok.1
    (written.mono (fun _ done => done) fun _ excused => excused.2 named (excused.1 free))
  have faithful := Memory.faithful_empty atlas
  have steady : Work.Steady (Memory.Faithful atlas)
      (view.nameOptions atlas appendPackage includeGenerics) fun _ => True :=
    TypeView.nameOptions_steady steadfast appendPackage includeGenerics
  have always := (TypeView.nameWith_steady steadfast options).always faithful fresh
  exact ⟨text, (steady.always faithful given).bind always⟩

/-- **A type that can be named always says whether it has a name.** -/
theorem Nameable.hasName_always {id : Nat} (nameable : atlas.Nameable id) {view : TypeView}
    (seen : atlas.tables.view (.plain id) = .ok view)
    (known : atlas.tables.typeData view.ref.id = .ok view.data)
    (outside : view.outer.Inside atlas.tables.typeCount) (element : String) :
    ∃ answer, Work.Always (Memory.Faithful atlas) (view.hasName atlas element) answer := by
  refine TypeView.hasName_of_names (fun step => ∃ value, Work.Always (Memory.Faithful atlas) step
    value) (fun value => ⟨value, Work.always_pure value⟩) ?_
    (nameable.names_always fit named seen known outside)
    (TypeView.simpleName_always fit named known) (TypeView.packageName_always fit named known)
    element
  rintro _ _ first next ⟨value, here⟩ onward
  obtain ⟨result, there⟩ := onward value
  exact ⟨result, here.bind there⟩

end Atlas

/-! ## Lookups -/

namespace Partitions

/-- The types of all groups. -/
def all (partitions : Partitions) : List Nat :=
  partitions.wildcards ++ partitions.parameterized ++ partitions.typeVariables ++
    partitions.rawClasses

theorem mem_all_add {partitions : Partitions} {id other : Nat} {variant : TypeVariant} :
    other ∈ (partitions.add id variant).all ↔ other = id ∨ other ∈ partitions.all := by
  cases variant <;> simp only [all, add, List.mem_append, List.mem_cons] <;> tauto

theorem mem_of_mem_all {tables : Tables} {ids : List Nat} {partitions : Partitions}
    (grouped : ofIds tables ids = .ok partitions) {id : Nat} (listed : id ∈ partitions.all) :
    id ∈ ids := by
  induction ids generalizing partitions with
  | nil =>
    cases grouped
    cases listed
  | cons first rest ih =>
    obtain ⟨data, -, grouped⟩ := Outcome.bind_eq_ok.1 grouped
    obtain ⟨others, groupedRest, grouped⟩ := Outcome.bind_eq_ok.1 grouped
    cases grouped
    rcases mem_all_add.1 listed with rfl | listed
    · exact List.mem_cons_self
    · exact List.mem_cons_of_mem _ (ih groupedRest listed)

theorem ofIds_ok {tables : Tables} {ids : List Nat}
    (decodes : ∀ id ∈ ids, ∃ data, tables.typeData id = .ok data) :
    ∃ partitions, ofIds tables ids = .ok partitions := by
  induction ids with
  | nil => exact ⟨_, rfl⟩
  | cons id rest ih =>
    obtain ⟨⟨data, known⟩, decodesRest⟩ := List.forall_mem_cons.1 decodes
    obtain ⟨others, grouped⟩ := ih decodesRest
    exact ⟨_, Outcome.bind_eq_ok.2 ⟨data, known, Outcome.bind_eq_ok.2 ⟨others, grouped, rfl⟩⟩⟩

/-- A name is searched among types of the groups. -/
theorem mem_all_of_mem_candidates {partitions : Partitions} {element : String} {id : Nat}
    (listed : id ∈ partitions.candidates element) : id ∈ partitions.all := by
  unfold candidates at listed
  unfold all
  dsimp only at listed
  split at listed
  · simp [listed]
  · split at listed
    · rcases List.mem_append.1 listed with listed | listed <;> simp [listed]
    · split at listed
      · simp [listed]
      · rcases List.mem_append.1 listed with listed | listed <;> simp [listed]

end Partitions

namespace Atlas

/-- Whether a type says on its own that it has a name. -/
def answersTo (atlas : Atlas) (element : String) (id : Nat) : Bool :=
  match atlas.tables.view (.plain id) with
  | .ok view =>
    match (view.hasName atlas element .empty).1 with
    | .ok answer => answer
    | .error _ => false
  | .error _ => false

/-- The types among which a name is searched: none for a text that cannot be the name of a type. -/
def searched (atlas : Atlas) (element : String) : List Nat :=
  if element.isEmpty || !element.toList.all isNameChar then []
  else
    match Partitions.ofTables atlas.tables with
    | .ok partitions => partitions.candidates element
    | .error _ => []

variable {atlas : Atlas}

/-- The types are grouped in the same way or never, as long as what is remembered of the groups is
right. -/
theorem partitions_steady {sound : Memory → Prop}
    (right : ∀ {memory : Memory} {partitions : Partitions}, sound memory →
      memory.partitions = some partitions → Partitions.ofTables atlas.tables = .ok partitions)
    (kept : ∀ {memory : Memory} {partitions : Partitions}, sound memory →
      Partitions.ofTables atlas.tables = .ok partitions →
        sound { memory with partitions := some partitions }) :
    Work.Steady sound atlas.tables.partitions (Partitions.ofTables atlas.tables = .ok ·) := by
  refine Work.steady_of_unique (Partitions.ofTables atlas.tables = .ok ·)
    (∃ partitions, Partitions.ofTables atlas.tables = .ok partitions)
    (fun _ _ here there => Except.ok.inj (here.symm.trans there)) (fun _ grouped => grouped)
    fun memory start => ?_
  rw [Tables.partitions, Work.bind_apply, Work.get_apply]
  cases known : memory.partitions with
  | some partitions =>
    have grouped := right start known
    simp only [known]
    exact ⟨start, grouped, partitions, grouped⟩
  | none =>
    simp only [known]
    cases grouped : Partitions.ofTables atlas.tables with
    | error flaw =>
      refine ⟨start, ?_⟩
      rintro ⟨_, other⟩
      cases other
    | ok partitions => exact ⟨kept start grouped, rfl, partitions, rfl⟩

theorem partitions_faithful :
    Work.Steady (Memory.Faithful atlas) atlas.tables.partitions
      (Partitions.ofTables atlas.tables = .ok ·) := by
  refine partitions_steady (fun faithful => faithful.partitions) fun faithful grouped => ?_
  exact { faithful with partitions := fun found => Option.some.inj found ▸ grouped }

theorem seek_steady (steadfast : atlas.Steadfast) (name : String) :
    Work.Steady (Memory.Faithful atlas) (atlas.seek name) fun _ => True :=
  (TypeView.steady_asked steadfast).seek partitions_faithful.anything name

/-! ### Types that respond -/

/-- A type always says whether it has a name, in every memory of a kind. -/
def Responds (atlas : Atlas) (sound : Memory → Prop) (element : String) (id : Nat) : Prop :=
  ∃ view answer, atlas.tables.view (.plain id) = .ok view ∧
    Work.Always sound (view.hasName atlas element) answer

theorem Nameable.responds (fit : atlas.tables.WellFormed) (named : atlas.tables.Named) {id : Nat}
    (nameable : atlas.Nameable id) (below : id < atlas.tables.typeCount) (element : String) :
    atlas.Responds (Memory.Faithful atlas) element id := by
  obtain ⟨view, seen, known, -, bare⟩ := view_ok fit below
  obtain ⟨answer, always⟩ :=
    nameable.hasName_always fit named seen known (bare ▸ VarMap.inside_empty) element
  exact ⟨view, answer, seen, always⟩

theorem partitions_ok (decodes : ∀ id < atlas.tables.typeCount,
    ∃ data, atlas.tables.typeData id = .ok data) :
    ∃ partitions, Partitions.ofTables atlas.tables = .ok partitions :=
  Partitions.ofIds_ok fun id listed => decodes id (List.mem_range.1 listed)

theorem lt_of_mem_searched {element : String} {id : Nat} (listed : id ∈ atlas.searched element) :
    id < atlas.tables.typeCount := by
  rw [searched] at listed
  split at listed
  · cases listed
  · split at listed
    · next grouped =>
      exact List.mem_range.1
        (Partitions.mem_of_mem_all grouped (Partitions.mem_all_of_mem_candidates listed))
    · cases listed

section

variable {sound : Memory → Prop} (fresh : sound .empty)

include fresh

/-- **The first type that has a name is found among types that respond**, as far as they are asked.
-/
theorem findAmong_always (element : String) {ids : List Nat}
    (tried : ∀ before id after, ids = before ++ id :: after →
      (∀ other ∈ before, atlas.answersTo element other = false) →
        atlas.Responds sound element id) :
    Work.Always sound (atlas.findAmong element ids) (ids.find? (atlas.answersTo element)) := by
  induction ids with
  | nil => exact Work.always_pure none
  | cons id rest ih =>
    obtain ⟨view, answer, seen, always⟩ := tried [] id rest rfl (by simp)
    have same : atlas.answersTo element id = answer := by
      rw [answersTo, seen]
      simp only [always.fst_eq fresh]
    rw [findAmong, seen, List.find?_cons, same]
    refine (Work.always_lift rfl).bind (always.bind ?_)
    cases answer with
    | true => exact Work.always_pure _
    | false =>
      refine ih fun before other after split misses => ?_
      refine tried (id :: before) other after (by rw [split]; rfl) ?_
      exact List.forall_mem_cons.2 ⟨same, misses⟩

/-- What is sought is the first type that has the name, when the types that are asked respond. -/
theorem seek_always
    (steady : Work.Steady sound atlas.tables.partitions (Partitions.ofTables atlas.tables = .ok ·))
    {partitions : Partitions} (grouped : Partitions.ofTables atlas.tables = .ok partitions)
    (name : String)
    (tried : ∀ before id after,
      atlas.searched (splitDimensions name).1 = before ++ id :: after →
      (∀ other ∈ before, atlas.answersTo (splitDimensions name).1 other = false) →
        atlas.Responds sound (splitDimensions name).1 id) :
    Work.Always sound (atlas.seek name)
      (((atlas.searched (splitDimensions name).1).find?
        (atlas.answersTo (splitDimensions name).1)).map
          fun id => ⟨id, (splitDimensions name).2⟩) := by
  have groups : Work.Always sound atlas.tables.partitions partitions := by
    refine steady.always fresh ?_
    rw [Tables.partitions, Work.bind_apply, Work.get_apply, grouped]
    rfl
  rw [seek]
  dsimp only
  rw [searched] at tried ⊢
  split
  · exact Work.always_pure none
  · next valid =>
    rw [if_neg valid, grouped] at tried
    rw [grouped]
    refine groups.bind ((findAmong_always fresh _ tried).bind ?_)
    simp only
    cases List.find? _ _ <;> exact Work.always_pure _

end

end Atlas

/-! ## Questions -/

/-- What can be asked of the types of a snapshot. -/
inductive Question
  | lookup (name : String)
  | naming (request : NameRequest)
  | map (call : MapCall)

/-- What is remembered is what it is without memory, the class names that were found included. -/
structure Memory.Truthful (atlas : Atlas) (memory : Memory) : Prop where
  faithful : memory.Faithful atlas
  found : ∀ {name : String} {ref : TypeRef},
    memory.found[name]? = some ref → (atlas.seek name .empty).1 = .ok (some ref)

theorem Memory.truthful_empty (atlas : Atlas) : Memory.empty.Truthful atlas :=
  ⟨faithful_empty atlas, fun found => by simp [Memory.empty] at found⟩

/-- Asks a question, and goes on with what is remembered then. -/
def Question.ask (atlas : Atlas) (memory : Memory) : Question → Memory
  | lookup name => (atlas.findByName name memory).2
  | naming request => (atlas.naming request memory).2
  | map call => (call.run atlas memory).2

namespace Atlas

variable {atlas : Atlas}

/-- What is remembered after some questions, whether they were answered or failed. -/
def afterQuestions (atlas : Atlas) (questions : List Question) : Memory :=
  questions.foldl (Question.ask atlas) .empty

/-- A request for a name sees the type and puts its name together. -/
theorem Asked.request {good : {α : Type} → Work α → Prop} (asked : atlas.Asked good)
    (request : NameRequest) : good (atlas.naming request) := by
  cases seen : atlas.tables.view request.ref with
  | error flaw =>
    rw [Atlas.naming, seen]
    exact asked.lift (.error flaw)
  | ok view =>
    rw [naming_eq seen]
    exact asked.naming view request.qualified true

/-- What is remembered of a name after a question was remembered before, or it is sought now. -/
theorem found_of_ask {question : Question} {memory : Memory} {name : String} {ref : TypeRef}
    (found : (question.ask atlas memory).found[name]? = some ref) :
    memory.found[name]? = some ref ∨ (atlas.seek name memory).1 = .ok (some ref) := by
  cases question with
  | lookup asked =>
    change (atlas.findByName asked memory).2.found[name]? = some ref at found
    by_cases same : name = asked
    · subst same
      have learns := (atlas.seek_recalls name).learns memory
      rcases atlas.findByName_cases name memory with
        ⟨_, -, run⟩ | ⟨-, ⟨other, after, sought, run⟩ | ⟨-, run⟩⟩
      · rw [run] at found
        exact .inl found
      · rw [run, Std.HashMap.getElem?_insert_self] at found
        cases found
        exact .inr (congrArg Prod.fst sought)
      · rw [run, learns.found] at found
        exact .inl found
    · rw [findByName_found_of_ne atlas memory same] at found
      exact .inl found
  | naming request =>
    have learns := ((TypeView.recalls_asked atlas).request request).learns memory
    rw [Question.ask, learns.found] at found
    exact .inl found
  | map call =>
    rw [Question.ask, memory_of_run] at found
    exact .inl found

/-- What the requests keep that questions are made of, every question keeps. -/
theorem ask_keeps (sound : Memory → Prop) {good : {α : Type} → Work α → Prop}
    (asked : atlas.Asked good) (grouped : good atlas.tables.partitions)
    (full : ∀ id, good (Work.onMaps (atlas.exhaustive id)))
    (keeps : ∀ {α : Type} {step : Work α}, good step →
      ∀ {memory : Memory}, sound memory → sound (step memory).2)
    (noted : ∀ {memory : Memory} (found : Std.HashMap String TypeRef), sound memory →
      sound { memory with found := found })
    (question : Question) {memory : Memory} (start : sound memory) :
    sound (question.ask atlas memory) := by
  cases question with
  | lookup name =>
    have kept := keeps (asked.seek grouped name) start
    rw [Question.ask]
    rcases atlas.findByName_cases name memory with
      ⟨_, -, run⟩ | ⟨-, ⟨other, after, sought, run⟩ | ⟨-, run⟩⟩
    · rwa [run]
    · rw [sought] at kept
      rw [run]
      exact noted _ kept
    · rwa [run]
  | naming request => exact keeps (asked.request request) start
  | map call =>
    rw [Question.ask, memory_of_run]
    exact keeps (full call.id) start

/-- A name that is remembered as what is sought is found as that. -/
theorem findByName_of_sought {name : String} {found : Option TypeRef} {memory : Memory}
    (known : ∀ ref, memory.found[name]? = some ref → found = some ref)
    (sought : (atlas.seek name memory).1 = .ok found) :
    (atlas.findByName name memory).1 = .ok found := by
  rcases atlas.findByName_cases name memory with
    ⟨ref, there, run⟩ | ⟨-, ⟨ref, after, given, run⟩ | ⟨-, run⟩⟩
  · rw [run, known ref there]
  · rw [given] at sought
    rw [run]
    exact sought
  · rwa [run]

variable (steadfast : atlas.Steadfast)

include steadfast

theorem ask_truthful (question : Question) {memory : Memory} (truthful : memory.Truthful atlas) :
    (question.ask atlas memory).Truthful atlas where
  faithful := ask_keeps (Memory.Faithful atlas) (TypeView.steady_asked steadfast)
    partitions_faithful.anything
    (fun id => (exhaustive_steady steadfast id).anything)
    (fun steady _ faithful => (steady.keeps _ faithful).1)
    (fun _ faithful => { faithful with }) question truthful.faithful
  found := by
    intro name ref found
    rcases found_of_ask found with before | sought
    · exact truthful.found before
    · exact
        ((seek_steady steadfast name).ok_iff truthful.faithful (Memory.faithful_empty atlas) _).1
        sought

theorem truthful_afterQuestions (questions : List Question) :
    (atlas.afterQuestions questions).Truthful atlas :=
  List.foldlRecOn (motive := Memory.Truthful atlas) questions _ (Memory.truthful_empty atlas)
    fun _ truthful question _ => ask_truthful steadfast question truthful

/-- **A lookup gives what is sought without memory**, as long as what is remembered is truthful. -/
theorem findByName_of_truthful (name : String) {memory : Memory} (truthful : memory.Truthful atlas)
    (found : Option TypeRef) :
    (atlas.findByName name memory).1 = .ok found ↔ (atlas.seek name .empty).1 = .ok found := by
  have fresh := (seek_steady steadfast name).ok_iff truthful.faithful (Memory.faithful_empty atlas)
  rcases atlas.findByName_cases name memory with
    ⟨ref, known, run⟩ | ⟨-, ⟨ref, later, sought, run⟩ | ⟨-, run⟩⟩
  · rw [run, truthful.found known]
  · rw [run, ← fresh, sought]
  · rw [run, fresh]

/-- **What was asked before makes no difference to what a name stands for.** -/
theorem findByName_after_questions (earlier : List Question) (name : String)
    (found : Option TypeRef) :
    (atlas.findByName name (atlas.afterQuestions earlier)).1 = .ok found ↔
      (atlas.findByName name .empty).1 = .ok found :=
  (findByName_of_truthful steadfast name (truthful_afterQuestions steadfast earlier) found).trans
    (findByName_of_truthful steadfast name (Memory.truthful_empty atlas) found).symm

omit steadfast in
/-- **A lookup gives the first type that has the name, and nothing when none has it**, whatever was
asked before, if each type that is asked can be named.  Types behind the first one that has the name
are not asked. -/
theorem findByName_answers (atlas : Atlas) (fit : atlas.tables.WellFormed)
    (named : atlas.tables.Named) (earlier : List Question) (name : String)
    (tried : ∀ before id after,
      atlas.searched (splitDimensions name).1 = before ++ id :: after →
      (∀ other ∈ before, atlas.answersTo (splitDimensions name).1 other = false) →
        atlas.Nameable id) :
    (atlas.findByName name (atlas.afterQuestions earlier)).1 =
      .ok (((atlas.searched (splitDimensions name).1).find?
        (atlas.answersTo (splitDimensions name).1)).map
          fun id => ⟨id, (splitDimensions name).2⟩) := by
  have steadfast := steadfast_of_wellFormed fit named
  have faithful := Memory.faithful_empty atlas
  obtain ⟨partitions, grouped⟩ := partitions_ok fit.decodes
  have sought := seek_always faithful partitions_faithful grouped name
    fun before id after split misses => (tried before id after split misses).responds fit named
      (lt_of_mem_searched (split ▸ List.mem_append_right before List.mem_cons_self)) _
  exact (findByName_of_truthful steadfast name (truthful_afterQuestions steadfast earlier) _).2
    (sought.fst_eq faithful)

end Atlas

/-! ### Types without bindings -/

theorem Atlas.computeMap_of_rootless {atlas : Atlas} {id : Nat} {record : ClassRecord}
    (known : atlas.tables.typeData id = .ok (.rawClass record)) (rootless : record.supertypes = [])
    (nested : Nat → Remembering MapMemory VarMap) (stack : List Nat) (maps : MapMemory) :
    atlas.computeMap nested stack id maps = (.ok .empty, maps) := by
  rw [computeMap, known, Work.bind_of_ok (Work.lift_apply _ _)]
  simp only [rootless]
  rfl

namespace TypeView

variable {atlas : Atlas} {view : TypeView} (bare : view.outer = .empty)
  (unbound : ∀ nested stack maps,
    atlas.computeMap nested stack view.ref.id maps = (.ok .empty, maps))

include bare unbound

theorem nameOptions_of_unbound {memory : Memory} (new : memory.maps[view.ref.id]? = none)
    (appendPackage includeGenerics : Bool) :
    view.nameOptions atlas appendPackage includeGenerics memory =
      (.ok ⟨.empty, false, appendPackage, includeGenerics, false⟩,
        { memory with maps := memory.maps.insert view.ref.id .empty }) := by
  have exhausted : atlas.exhaustive view.ref.id memory.maps =
      (.ok .empty, memory.maps.insert view.ref.id .empty) :=
    Atlas.mapWithin_of_computeMap new List.not_mem_nil (unbound _ _ _)
  have own : atlas.typeVariableMap view.ref.id memory =
      (.ok .empty, { memory with maps := memory.maps.insert view.ref.id .empty }) :=
    Work.bind_eq_ok.2 ⟨_, _, Work.onMaps_of_eq exhausted, rfl⟩
  rw [nameOptions_of_map own, bare]
  rfl

/-- The qualified name of a type without bindings and variables is how it is written alone. -/
theorem qualifiedName_of_textAlone (steadfast : atlas.Steadfast)
    (plain : view.data.declaredVariables = []) (flat : view.ref.depth = 0)
    {includeGenerics : Bool} {enough : Nat} {text : String}
    (given : atlas.tables.textAlone enough view.ref.element
      ⟨.empty, false, true, includeGenerics, false⟩ = .ok text) :
    (view.qualifiedName atlas includeGenerics .empty).1 = .ok text := by
  have faithful := Memory.faithful_empty atlas
  have options := (nameOptions_steady steadfast true includeGenerics).always faithful
    (congrArg Prod.fst (nameOptions_of_unbound bare unbound Std.HashMap.getElem?_empty true
      includeGenerics))
  have undeclared : view.declaredSuffix atlas ⟨.empty, false, true, includeGenerics, false⟩ =
      pure "" := by
    rw [declaredSuffix, plain]
    rfl
  have undimensioned : text ++ "" ++ arraySuffix 0 = text := by simp [arraySuffix]
  refine (options.bind ((Tables.render_always steadfast.legible given).bind ?_)).fst_eq faithful
  rw [undeclared, flat]
  refine (Work.always_pure "").bind ?_
  rw [undimensioned]
  exact Work.always_pure text

end TypeView

/-! ### A bare class -/

/-- A class without supertypes, declaring class and type variables. -/
structure ClassRecord.Bare (record : ClassRecord) : Prop where
  supertypes : record.supertypes = []
  undeclared : record.declaringClass = none
  plain : record.typeVariables = []

section Bare

variable {atlas : Atlas} {id : Nat} {record : ClassRecord} {memory : Memory} {text : String}
  (known : atlas.tables.typeData id = .ok (.rawClass record)) (bare : record.Bare)

include known bare

/-- A bare class has no bindings. -/
theorem TypeView.nameOptions_of_bare (new : memory.maps[id]? = none)
    (appendPackage includeGenerics : Bool) :
    TypeView.nameOptions ⟨.plain id, .rawClass record, .empty⟩ atlas appendPackage includeGenerics
        memory =
      (.ok ⟨.empty, false, appendPackage, includeGenerics, false⟩,
        { memory with maps := memory.maps.insert id .empty }) :=
  nameOptions_of_unbound rfl (Atlas.computeMap_of_rootless known bare.supertypes) new appendPackage
    includeGenerics

/-- It is written by its name, if it has no package or its package is left out. -/
theorem Tables.render_of_bare (names : memory.names = ∅) (texts : memory.texts = ∅)
    (entry : atlas.tables.names[record.name]? = some (.text text))
    (appendPackage includeGenerics : Bool)
    (unpackaged : appendPackage = true → record.package = none) :
    ∃ after, atlas.tables.render (.plain id) ⟨.empty, false, appendPackage, includeGenerics, false⟩
      memory = (.ok text, after) := by
  have written : ∀ render, atlas.tables.renderVariant render (TypeRef.plain id).id
      ⟨.empty, false, appendPackage, includeGenerics, false⟩ memory =
        (.ok text, { memory with names := memory.names.insert record.name text }) := by
    intro render
    rw [Tables.renderVariant, show atlas.tables.typeData (TypeRef.plain id).id = _ from known,
      Work.bind_of_ok (Work.lift_apply _ _)]
    simp only [Tables.renderClass, bare.undeclared, Tables.rawClassName]
    refine (Work.bind_of_ok (Tables.name_of_text names entry)).trans ?_
    cases appendPackage with
    | false => rfl
    | true =>
      rw [unpackaged rfl]
      rfl
  have stands : atlas.tables.standIn (TypeRef.plain id).element
      ⟨.empty, false, appendPackage, includeGenerics, false⟩ = .ok (.plain id) := rfl
  have undimensioned : text ++ arraySuffix 0 = text := String.append_empty
  rw [Tables.render, Tables.renderWithin_eq, Work.bind_apply, Work.get_apply]
  simp only [texts, Std.HashMap.getElem?_empty]
  rw [stands, Work.bind_of_ok (Work.lift_apply _ _), Work.bind_of_ok (written _),
    Work.bind_of_ok (Work.modify_apply _ _)]
  exact ⟨_, Prod.ext (congrArg Except.ok undimensioned) rfl⟩

/-- So its names are this name as well. -/
theorem TypeView.nameWith_of_bare (fresh : memory.maps = ∅) (names : memory.names = ∅)
    (texts : memory.texts = ∅) (entry : atlas.tables.names[record.name]? = some (.text text))
    (appendPackage includeGenerics : Bool)
    (unpackaged : appendPackage = true → record.package = none) :
    ∃ after, (do
      let options ← TypeView.nameOptions ⟨.plain id, .rawClass record, .empty⟩ atlas appendPackage
        includeGenerics
      TypeView.nameWith ⟨.plain id, .rawClass record, .empty⟩ atlas options) memory =
        (.ok text, after) := by
  have options := nameOptions_of_bare known bare
    (show memory.maps[id]? = none from fresh ▸ Std.HashMap.getElem?_empty) appendPackage
    includeGenerics
  have names' : Memory.names { memory with maps := memory.maps.insert id .empty } = ∅ := names
  obtain ⟨after, rendered⟩ :=
    Tables.render_of_bare known bare names' texts entry appendPackage includeGenerics unpackaged
  have undeclared : TypeView.declaredSuffix ⟨.plain id, .rawClass record, .empty⟩ atlas
      ⟨.empty, false, appendPackage, includeGenerics, false⟩ = pure "" := by
    rw [declaredSuffix]
    exact if_pos (by simp [TypeData.declaredVariables, TypeData.asClass?, bare.plain])
  refine ⟨after, (Work.bind_of_ok options).trans ((Work.bind_of_ok rendered).trans ?_)⟩
  rw [undeclared]
  exact congrArg (fun text => (Except.ok text, after))
    (String.append_empty.trans String.append_empty)

/-- It has its name. -/
theorem TypeView.hasName_of_bare (fresh : memory.maps = ∅) (names : memory.names = ∅)
    (texts : memory.texts = ∅) (entry : atlas.tables.names[record.name]? = some (.text text))
    (undotted : '.' ∉ text.toList) :
    ∃ after, TypeView.hasName ⟨.plain id, .rawClass record, .empty⟩ atlas text memory =
      (.ok true, after) := by
  obtain ⟨after, own⟩ : ∃ after,
      TypeView.name ⟨.plain id, .rawClass record, .empty⟩ atlas memory = (.ok text, after) :=
    nameWith_of_bare known bare fresh names texts entry false true fun packaged => nomatch packaged
  refine ⟨after, ?_⟩
  rw [hasName, if_neg (by simpa using undotted), Work.bind_of_ok own, if_pos (beq_self_eq_true _)]
  rfl

/-- When it is asked first, it is found. -/
theorem Atlas.findByName_of_bare {partitions : Partitions} {rest : List Nat}
    (fresh : memory.maps = ∅) (names : memory.names = ∅) (texts : memory.texts = ∅)
    (unfound : memory.found = ∅) (grouped : memory.partitions = some partitions)
    (entry : atlas.tables.names[record.name]? = some (.text text)) (undotted : '.' ∉ text.toList)
    (element : splitDimensions text = (text, 0)) (spelled : text.toList.all isNameChar = true)
    (nonempty : text.isEmpty = false) (first : partitions.candidates text = id :: rest) :
    ∃ after, atlas.findByName text memory = (.ok (some (.plain id)), after) := by
  obtain ⟨after, named⟩ :=
    TypeView.hasName_of_bare known bare fresh names texts entry undotted
  have seen : atlas.tables.view (.plain id) = .ok ⟨.plain id, .rawClass record, .empty⟩ :=
    Outcome.bind_eq_ok.2 ⟨_, known, rfl⟩
  have among : atlas.findAmong text (id :: rest) memory = (.ok (some id), after) := by
    rw [findAmong, seen, Work.bind_of_ok (Work.lift_apply _ _), Work.bind_of_ok named]
    rfl
  have sought : atlas.seek text memory = (.ok (some (.plain id)), after) := by
    rw [seek, element]
    simp only [nonempty, spelled, Bool.not_true, Bool.or_self, Bool.false_eq_true, if_false]
    rw [Work.bind_of_ok (atlas.tables.partitions_of_known grouped), first, Work.bind_of_ok among]
    rfl
  have unknown : memory.found[text]? = none := unfound ▸ Std.HashMap.getElem?_empty
  rw [findByName_of_unknown atlas unknown, sought]
  exact ⟨_, rfl⟩

end Bare

/-! ### A map without end -/

/-- A class with two variables, the class applied to them the other way round, and a class beside
it. -/
def Snapshot.swappedPair : Snapshot :=
  { empty with
    types := [
      .object [("n", .nat 0)],
      .object [("tv", .nat 1)],
      .object [("tv", .nat 2)],
      .object [("n", .nat 3), ("v", .array [.nat 1, .nat 2])],
      .object [("r", .nat 3), ("v", .array [.nat 2, .nat 1])]]
    names := [.text "Object", .text "A", .text "B", .text "Pair"] }

/-- The snapshot `swappedPair`, with chains of variables followed for four steps. -/
def Atlas.swappedPair : Atlas :=
  ⟨.ofSnapshot .swappedPair, { Config.default with hopLimit := 4 }⟩

namespace Atlas

theorem swappedPair_wellFormed : swappedPair.tables.WellFormed :=
  .of_behind (by decide)

theorem swappedPair_named : swappedPair.tables.Named where
  typeVariables := by
    intro id record known
    have inside : id < 5 := Tables.typeData_lt known
    interval_cases id <;> cases known
    all_goals exact ⟨_, Tables.resolveName_text rfl chainLimit⟩
  classes := by
    intro id record known
    have inside : id < 5 := Tables.typeData_lt known
    interval_cases id <;> cases known
    all_goals exact ⟨_, Tables.resolveName_text rfl chainLimit⟩
  packages := by
    intro id record known
    have inside : id < 5 := Tables.typeData_lt known
    interval_cases id <;> cases known
    all_goals
      intro package written
      cases written

/-- The two variables stand for each other, so there is no end to follow them to. -/
theorem swappedPair_typeVariableMap {memory : Memory} (fresh : memory.maps = ∅) :
    ∃ after, swappedPair.typeVariableMap 4 memory = (.error (.substitutionLoop 1 5), after) := by
  have own : swappedPair.mapWithin 6 [4] 3 ∅ = (.ok .empty, (∅ : MapMemory).insert 3 .empty) :=
    mapWithin_of_computeMap Std.HashMap.getElem?_empty (by decide) rfl
  have computed : swappedPair.computeMap (swappedPair.mapWithin 6 [4]) [4] 4 ∅ =
      (.error (.substitutionLoop 1 5), (∅ : MapMemory).insert 3 .empty) :=
    (Work.bind_of_ok rfl).trans ((Work.bind_of_ok rfl).trans ((Work.bind_of_ok own).trans
      ((Work.bind_of_ok rfl).trans rfl)))
  have exhausted : swappedPair.exhaustive 4 memory.maps =
      (.error (.substitutionLoop 1 5), (∅ : MapMemory).insert 3 .empty) := by
    rw [fresh, exhaustive, mapWithin_apply, Std.HashMap.getElem?_empty]
    simp only [List.contains_nil, Bool.false_eq_true, if_false]
    rw [show swappedPair.tables.typeCount + 1 = 6 from rfl, computed]
  exact ⟨_, Work.bind_of_error (Work.onMaps_of_eq exhausted)⟩

theorem swappedPair_partitions :
    swappedPair.tables.partitions .empty = (.ok ⟨[], [4], [1, 2], [0, 3]⟩,
      { Memory.empty with partitions := some ⟨[], [4], [1, 2], [0, 3]⟩ }) :=
  rfl

/-- **A type whose own map has no end fails the lookup of another name.** -/
theorem findByName_swappedPair :
    swappedPair.tables.WellFormed ∧ swappedPair.tables.Named ∧
      (swappedPair.findByName "Missing<X>" .empty).1 = .error (.substitutionLoop 1 5) := by
  refine ⟨swappedPair_wellFormed, swappedPair_named, ?_⟩
  let grouped := { Memory.empty with partitions := some ⟨[], [4], [1, 2], [0, 3]⟩ }
  obtain ⟨after, own⟩ : ∃ after, swappedPair.typeVariableMap 4 grouped =
    (.error (.substitutionLoop 1 5), after) := swappedPair_typeVariableMap rfl
  let view : TypeView := ⟨.plain 4, .parameterized ⟨.plain 3, none, [.plain 2, .plain 1]⟩, .empty⟩
  have name : view.name swappedPair grouped = (.error (.substitutionLoop 1 5), after) :=
    Work.bind_of_error (Work.bind_of_error (Work.bind_of_error own))
  have asked : view.hasName swappedPair "Missing<X>" grouped =
      (.error (.substitutionLoop 1 5), after) := by
    rw [TypeView.hasName, if_neg (by decide +kernel)]
    exact Work.bind_of_error name
  have among : swappedPair.findAmong "Missing<X>" [4, 0, 3] grouped =
      (.error (.substitutionLoop 1 5), after) :=
    (Work.bind_of_ok rfl).trans (Work.bind_of_error asked)
  have sought : swappedPair.seek "Missing<X>" .empty =
      (.error (.substitutionLoop 1 5), after) := by
    have element : splitDimensions "Missing<X>" = ("Missing<X>", 0) := by decide +kernel
    have candidates : Partitions.candidates ⟨[], [4], [1, 2], [0, 3]⟩ "Missing<X>" = [4, 0, 3] := by
      decide +kernel
    rw [seek, element]
    dsimp only
    rw [if_neg (by decide +kernel), Work.bind_of_ok swappedPair_partitions, candidates]
    exact Work.bind_of_error among
  rw [findByName_of_unknown swappedPair Std.HashMap.getElem?_empty, sought]

/-- The class beside it is bare. -/
theorem swappedPair_bare : ∃ record, swappedPair.tables.typeData 0 = .ok (.rawClass record) ∧
    record.Bare ∧ swappedPair.tables.names[record.name]? = some (.text "Object") :=
  ⟨_, rfl, ⟨rfl, rfl, rfl⟩, rfl⟩

theorem swappedPair_nameable : swappedPair.Nameable 0 := by
  intro view seen appendPackage includeGenerics
  obtain ⟨record, known, bare, -⟩ := swappedPair_bare
  have options := TypeView.nameOptions_of_bare known bare
    (show Memory.empty.maps[0]? = none from Std.HashMap.getElem?_empty) appendPackage
    includeGenerics
  cases seen
  cases known
  refine ⟨_, congrArg Prod.fst options, ?_⟩
  intro call listed recurs
  obtain ⟨inner, found, data, stands, known, part⟩ := recurs.calls
  obtain rfl : call = ⟨0, ⟨.empty, false, appendPackage, includeGenerics, false⟩⟩ := by
    rcases List.mem_cons.1 listed with rfl | listed
    · rfl
    · cases includeGenerics <;> cases listed
  obtain rfl : TypeRef.plain 0 = found := Except.ok.inj stands
  cases known
  cases part

/-- The class beside it has its name. -/
theorem swappedPair_answersTo : swappedPair.answersTo "Object" 0 = true := by
  obtain ⟨record, known, bare, entry⟩ := swappedPair_bare
  obtain ⟨after, named⟩ : ∃ after, TypeView.hasName ⟨.plain 0, .rawClass record, .empty⟩ swappedPair
      "Object" .empty = (.ok true, after) :=
    TypeView.hasName_of_bare known bare rfl rfl rfl entry (by decide +kernel)
  have seen : swappedPair.tables.view (.plain 0) = .ok ⟨.plain 0, .rawClass record, .empty⟩ :=
    Outcome.bind_eq_ok.2 ⟨_, known, rfl⟩
  simp only [answersTo, seen, named]

theorem findByName_answers_swappedPair :
    (swappedPair.findByName "Object" (swappedPair.afterQuestions [.lookup "Missing<X>"])).1 =
      .ok (some (.plain 0)) := by
  have element : splitDimensions "Object" = ("Object", 0) := by decide +kernel
  have searched : swappedPair.searched "Object" = [0, 3, 1, 2] := by decide +kernel
  have answers := findByName_answers swappedPair swappedPair_wellFormed swappedPair_named
    [.lookup "Missing<X>"] "Object" ?_
  · rw [element, searched] at answers
    rw [answers, List.find?_cons, swappedPair_answersTo]
    rfl
  · rw [element, searched]
    intro before id after split misses
    cases before with
    | nil =>
      cases split
      exact swappedPair_nameable
    | cons first rest =>
      obtain rfl : 0 = first := (List.cons.inj split).1
      cases swappedPair_answersTo.symm.trans (misses 0 List.mem_cons_self)

end Atlas

end ClassAtlas

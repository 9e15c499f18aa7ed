import ClassAtlas.Proofs.Search.Opposites
import ClassAtlas.Proofs.Search.Places

/-!
# Two searches side by side

Two searches whose filters are opposite visit the same subjects, ask the same questions and find
what the other one does not find.  This is stated for steps of a visit (`Splits`) and passes from
the steps of a sequence to the sequence: if the first search meets no fault, the second one meets
none either, be it started with the same memory or with any later one, and each subject that was
looked at is found by exactly one of the two.

A search that records no failure is a visit of one type after the other (`visitAll_iff_each`), and
what it has found it can tell again: every hit passed the filters, and what was asked for that is
still remembered (`visits_justified`).
-/

set_option autoImplicit false

namespace ClassAtlas

/-! ## Adding hits -/

/-- Hits that gain some subjects of each kind, and no failure. -/
structure Gains (before after : SearchHits) (subjects : SearchKind → List Subject) : Prop where
  failures : after.failures = before.failures
  subjects : ∀ kind, after.subjects kind = before.subjects kind ++ subjects kind

/-- One subject of one kind. -/
def Subject.only (kind : SearchKind) (subject : Subject) (other : SearchKind) : List Subject :=
  if other = kind then [subject] else []

namespace Gains

variable {first second third : SearchHits} {few more : SearchKind → List Subject}

theorem refl (hits : SearchHits) : Gains hits hits fun _ => [] :=
  ⟨rfl, fun _ => (List.append_nil _).symm⟩

theorem trans (left : Gains first second few) (right : Gains second third more) :
    Gains first third fun kind => few kind ++ more kind :=
  ⟨right.failures.trans left.failures, fun kind => by
    rw [right.subjects, left.subjects, List.append_assoc]⟩

theorem places (gains : Gains first second few) (kind : SearchKind) :
    second.places kind = first.places kind ++ (few kind).map Subject.place := by
  rw [SearchHits.places, gains.subjects, List.map_append]
  rfl

end Gains

/-- A way to add a subject to the hits of its kind. -/
def Adds (kind : SearchKind) (subject : Subject) (add : SearchHits → SearchHits) : Prop :=
  ∀ hits, Gains hits (add hits) (subject.only kind)

theorem adds_type (view : TypeView) :
    Adds .classes (.type view) fun hits => { hits with classes := hits.classes ++ [view] } :=
  fun hits => ⟨rfl, fun kind => by cases kind <;> simp [SearchHits.subjects, Subject.only]⟩

theorem adds_field (field : Field) :
    Adds .fields (.field field) fun hits => { hits with fields := hits.fields ++ [field] } :=
  fun hits => ⟨rfl, fun kind => by cases kind <;> simp [SearchHits.subjects, Subject.only]⟩

theorem adds_method (method : Method) :
    Adds .methods (.method method) fun hits => { hits with methods := hits.methods ++ [method] } :=
  fun hits => ⟨rfl, fun kind => by cases kind <;> simp [SearchHits.subjects, Subject.only]⟩

theorem adds_parameter (method : Method) (parameter : Parameter) :
    Adds .parameters (.parameter parameter) fun hits =>
      { hits with parameters := hits.parameters ++ [⟨method, parameter⟩] } :=
  fun hits => ⟨rfl, fun kind => by cases kind <;> simp [SearchHits.subjects, Subject.only]⟩

namespace SearchQuery

variable {atlas : Atlas} {query : SearchQuery}

/-! ## The parts of a visit -/

/-- Looks at the fields of a class. -/
def visitFields (atlas : Atlas) (filters : List Filter) (view : TypeView) : Visit :=
  if filters.isEmpty then pure ()
  else aside (view.fields atlas true) >>= each fun field =>
    consider atlas filters (.field field) fun hits => { hits with fields := hits.fields ++ [field] }

/-- Looks at a method and its parameters. -/
def visitMethod (atlas : Atlas) (methods parameters : List Filter) (method : Method) : Visit := do
  visitParameters atlas parameters method
  consider atlas methods (.method method) fun hits =>
    { hits with methods := hits.methods ++ [method] }

/-- Looks at the methods of a class. -/
def visitMethods (atlas : Atlas) (methods parameters : List Filter) (view : TypeView) : Visit :=
  if methods.isEmpty && parameters.isEmpty then pure ()
  else aside (view.methods atlas true) >>= each (visitMethod atlas methods parameters)

theorem visitMembers_eq (view : TypeView) :
    visitMembers atlas query view =
      visitFields atlas query.fields view >>= fun _ =>
        visitMethods atlas query.methods query.parameters view := by
  rw [visitMembers, visitFields, visitMethods]
  cases query.fields.isEmpty with
  | true => rfl
  | false => exact (bind_assoc _ _ _).symm

/-! ## What a search keeps true -/

/-- A property of memories and hits that learning keeps, and that a subject that passes its filters
keeps when it is added. -/
structure Stable (atlas : Atlas) (query : SearchQuery) (invariant : Memory × SearchHits → Prop) :
    Prop where
  learn : ∀ {memory later : Memory} {hits : SearchHits},
    memory.Within later → invariant (memory, hits) → invariant (later, hits)
  add : ∀ {kind : SearchKind} {subject : Subject} {add : SearchHits → SearchHits}
    {before after : Memory} {hits : SearchHits}, Adds kind subject add →
      Filter.evaluateAll atlas subject (query.get kind) before = (.ok true, after) →
        invariant (after, hits) → invariant (after, add hits)

/-- A step that keeps a property, whatever its outcome. -/
def Stays {α : Type} (invariant : Memory × SearchHits → Prop)
    (step : Remembering (Memory × SearchHits) α) : Prop :=
  Work.Meets invariant step (fun _ => True) fun _ => True

section

variable {invariant : Memory × SearchHits → Prop} {α β : Type}

theorem stays_pure (value : α) :
    Stays invariant (pure value : Remembering (Memory × SearchHits) α) :=
  Work.meets_pure trivial

theorem Stays.bind {first : Remembering (Memory × SearchHits) α}
    {next : α → Remembering (Memory × SearchHits) β} (here : Stays invariant first)
    (then_ : ∀ value, Stays invariant (next value)) : Stays invariant (first >>= next) :=
  Work.Meets.bind here fun value _ => then_ value

theorem stays_each {step : α → Visit} (stays : ∀ item, Stays invariant (step item))
    (items : List α) : Stays invariant (each step items) := by
  induction items with
  | nil => exact stays_pure ()
  | cons item rest ih => exact (stays item).bind fun _ => ih

variable (stable : Stable atlas query invariant)

include stable

theorem Stable.aside {step : Work α} (learns : Work.Learns step) :
    Stays invariant (aside step) := by
  intro (memory, hits) sound
  exact ⟨stable.learn (learns memory).within sound, Outcome.meets_true _⟩

theorem Stable.consider {kind : SearchKind} {subject : Subject} {add : SearchHits → SearchHits}
    (adds : Adds kind subject add) :
    Stays invariant (consider atlas (query.get kind) subject add) := by
  intro (memory, hits) sound
  refine ⟨?_, Outcome.meets_true _⟩
  rw [SearchQuery.consider]
  split
  · exact sound
  · have learned : memory.Learns (Filter.evaluateAll atlas subject (query.get kind) memory).2 :=
      (Filter.evaluateAll_recalls (query.get kind)).learns memory
    have known := stable.learn learned.within sound
    rcases run : Filter.evaluateAll atlas subject (query.get kind) memory with
      ⟨fault | answer, after⟩
    · rw [run] at known
      exact known
    · rw [run] at known
      cases answer with
      | false => exact known
      | true => exact stable.add adds run known

theorem Stable.visitParameters (method : Method) :
    Stays invariant (visitParameters atlas query.parameters method) := by
  rw [SearchQuery.visitParameters]
  split
  · exact stays_pure ()
  · exact (stable.aside (Work.learns_lift _)).bind
      (stays_each fun parameter => stable.consider (adds_parameter method parameter))

theorem Stable.visit (id : Nat) : Stays invariant (query.visit atlas id) := by
  refine (stable.aside (Work.learns_lift _)).bind fun view => ?_
  refine (stable.consider (adds_type view)).bind fun _ => ?_
  split
  · rw [visitMembers_eq]
    refine Stays.bind ?_ fun _ => ?_
    · rw [visitFields]
      split
      · exact stays_pure ()
      · exact (stable.aside (TypeView.members_recalls _ _).learns).bind
          (stays_each fun field => stable.consider (adds_field field))
    · rw [visitMethods]
      split
      · exact stays_pure ()
      · exact (stable.aside (TypeView.members_recalls _ _).learns).bind
          (stays_each fun method => (stable.visitParameters method).bind fun _ =>
            stable.consider (adds_method method))
  · exact stays_pure ()

end

/-- Hits whose failures begin with some that were there before. -/
theorem stable_failures (atlas : Atlas) (query : SearchQuery) (failures : List SearchFailure) :
    Stable atlas query fun state => state.2.failures = failures :=
  ⟨fun _ same => same, fun adds _ same => ((adds _).failures).trans same⟩

/-- Every hit passed the filters of its kind, and what was learned then is still known. -/
def Justified (atlas : Atlas) (query : SearchQuery) (state : Memory × SearchHits) : Prop :=
  ∀ kind, ∀ subject ∈ state.2.subjects kind, ∃ before after,
    Filter.evaluateAll atlas subject (query.get kind) before = (.ok true, after) ∧
      after.Within state.1

theorem stable_justified (atlas : Atlas) (query : SearchQuery) :
    Stable atlas query (Justified atlas query) := by
  constructor
  · intro memory later hits within justified kind subject listed
    obtain ⟨before, after, passed, known⟩ := justified kind subject listed
    exact ⟨before, after, passed, known.trans within⟩
  · intro kind subject add before after hits adds passed justified other subject' listed
    rw [(adds hits).subjects other] at listed
    rcases List.mem_append.1 listed with old | new
    · exact justified other subject' old
    · rw [Subject.only] at new
      split at new
      · next same =>
        rw [List.mem_singleton.1 new, same]
        exact ⟨before, after, passed, .refl after⟩
      · cases new

end SearchQuery

/-! ## Steps side by side -/

namespace Memory

/-- Where a step can be taken again: with the memory that it started with, or with one that knows
what it has learned. -/
def Resumes (before after start : Memory) : Prop :=
  start = before ∨ after.Within start

/-- What a step that is taken again leads to: it forgets nothing, and it leads to the same memory if
it starts with the same one. -/
structure Resumed (before after start finish : Memory) : Prop where
  within : start.Within finish
  same : start = before → finish = after

variable {before between after start halfway finish : Memory}

theorem Resumes.first (resumes : Resumes before after start) (within : between.Within after) :
    Resumes before between start :=
  resumes.imp_right within.trans

theorem Resumes.second (resumes : Resumes before after start)
    (resumed : Resumed before between start halfway) : Resumes between after halfway :=
  resumes.imp resumed.same fun known => known.trans resumed.within

theorem Resumed.trans (left : Resumed before between start halfway)
    (right : Resumed between after halfway finish) : Resumed before after start finish :=
  ⟨left.within.trans right.within, fun same => right.same (left.same same)⟩

end Memory

open Memory (Resumes Resumed)

/-- A step with a result that is recalled gives it again, wherever it is taken again. -/
theorem Work.Recalls.resume {α : Type} {step : Work α} {value : α} {before after start : Memory}
    (recalls : Recalls step) (run : step before = (.ok value, after))
    (resumes : Resumes before after start) :
    ∃ finish, step start = (.ok value, finish) ∧ Resumed before after start finish := by
  have ran : (step before).1 = .ok value := by rw [run]
  have within := (recalls.learns start).within
  rcases resumes with rfl | known
  · rw [run] at within
    exact ⟨after, run, within, fun _ => rfl⟩
  · have given := recalls.again ran (by rw [run]; exact known)
    rcases rerun : step start with ⟨fault | value', finish⟩
    · rw [rerun] at given
      cases given
    · rw [rerun] at given within
      cases given
      exact ⟨finish, rfl, within, fun same => by
        rw [same, run] at rerun
        exact (Prod.mk.inj rerun).2.symm⟩

/-- Places of one kind only. -/
def Place.only (kind : SearchKind) (places : List Place) (other : SearchKind) : List Place :=
  if other = kind then places else []

theorem Place.flatMap_only {α : Type} (kind other : SearchKind) (places : α → List Place)
    (items : List α) :
    items.flatMap (fun item => only kind (places item) other) =
      only kind (items.flatMap places) other := by
  rw [only]
  split
  · next same => simp [only, same]
  · next different => simp [only, different]

/-- Two steps that find, between them, the subjects at given places.  If the first one meets no
fault, the second one meets none either, wherever it is taken, and together the two gain exactly one
subject for each of the places. -/
def Splits (places : SearchKind → List Place) (first second : Visit) : Prop :=
  ∀ ⦃before after : Memory⦄ ⦃hits found : SearchHits⦄,
    first (before, hits) = (.ok (), after, found) →
    before.Within after ∧ ∀ start others, Resumes before after start →
      ∃ finish rest mine theirs, second (start, others) = (.ok (), finish, rest) ∧
        Resumed before after start finish ∧ Gains hits found mine ∧ Gains others rest theirs ∧
          ∀ kind, ((mine kind ++ theirs kind).map Subject.place).Perm (places kind)

namespace Splits

variable {first second first' second' : Visit} {places places' : SearchKind → List Place}

theorem congr (splits : Splits places first second) (same : ∀ kind, places kind = places' kind) :
    Splits places' first second :=
  funext same ▸ splits

theorem pure : Splits (fun _ => []) (Pure.pure ()) (Pure.pure ()) := by
  intro before after hits found run
  cases run
  refine ⟨.refl _, fun start others resumes => ⟨start, others, fun _ => [], fun _ => [], rfl,
    ⟨.refl _, id⟩, .refl _, .refl _, fun _ => .nil⟩⟩

theorem regroup (a b c d : List Place) : (a ++ b ++ (c ++ d)).Perm (a ++ c ++ (b ++ d)) := by
  simpa only [List.append_assoc] using
    (List.perm_append_comm_assoc b c d).append_left a

theorem bind (left : Splits places first second) (right : Splits places' first' second') :
    Splits (fun kind => places kind ++ places' kind) (first >>= fun _ => first')
      (second >>= fun _ => second') := by
  intro before after hits found run
  obtain ⟨_, ⟨between, few⟩, ran, run⟩ := Work.bind_eq_ok.1 run
  obtain ⟨within, left⟩ := left ran
  obtain ⟨within', right⟩ := right run
  refine ⟨within.trans within', fun start others resumes => ?_⟩
  obtain ⟨halfway, rest, mine, theirs, rerun, resumed, gains, gains', perm⟩ :=
    left start others (resumes.first within')
  obtain ⟨finish, rest', mine', theirs', rerun', resumed', more, more', perm'⟩ :=
    right halfway rest (resumes.second resumed)
  refine ⟨finish, rest', _, _, Work.bind_eq_ok.2 ⟨(), _, rerun, rerun'⟩, resumed.trans resumed',
    gains.trans more, gains'.trans more', fun kind => ?_⟩
  simp only [List.map_append] at perm perm' ⊢
  exact (regroup _ _ _ _).trans ((perm kind).append (perm' kind))

open SearchQuery (aside each consider)

/-- A question that adds nothing to the hits is answered the same way by both searches. -/
theorem aside_bind {α : Type} {question : Work α} {next next' : α → Visit}
    (recalls : Work.Recalls question)
    (then_ : ∀ {memory : Memory} {value : α}, (question memory).1 = .ok value →
      Splits places (next value) (next' value)) :
    Splits places (aside question >>= next) (aside question >>= next') := by
  intro before after hits found run
  obtain ⟨value, ⟨between, hits'⟩, ran, run⟩ := Work.bind_eq_ok.1 run
  have asked : question before = (.ok value, between) ∧ hits = hits' := by
    rw [aside] at ran
    rcases asked : question before with ⟨outcome, memory⟩
    rw [asked] at ran
    cases ran
    exact ⟨rfl, rfl⟩
  obtain ⟨asked, rfl⟩ := asked
  have learned := ((recalls.learns before)).within
  rw [asked] at learned
  obtain ⟨within, splits⟩ := then_ (by rw [asked]) run
  refine ⟨learned.trans within, fun start others resumes => ?_⟩
  obtain ⟨halfway, again, resumed⟩ := recalls.resume asked (resumes.first within)
  obtain ⟨finish, rest, mine, theirs, rerun, resumed', gains⟩ :=
    splits halfway others (resumes.second resumed)
  refine ⟨finish, rest, mine, theirs, Work.bind_eq_ok.2 ⟨value, (halfway, others), ?_, rerun⟩,
    resumed.trans resumed', gains⟩
  rw [aside, again]

theorem each {α : Type} {step step' : α → Visit} {places : α → SearchKind → List Place}
    {items : List α} (split : ∀ item ∈ items, Splits (places item) (step item) (step' item)) :
    Splits (fun kind => items.flatMap fun item => places item kind) (SearchQuery.each step items)
      (SearchQuery.each step' items) := by
  induction items with
  | nil => exact pure
  | cons item rest ih =>
    obtain ⟨here, there⟩ := List.forall_mem_cons.1 split
    exact here.bind (ih there)

end Splits

/-- Filters of one kind in two opposite searches: none in both, or a filter and its opposite. -/
inductive Opposed : List Filter → List Filter → Prop where
  | none : Opposed [] []
  | some {wanted unwanted : Filter} (opposite : Filter.Opposite wanted unwanted) :
    Opposed [wanted] [unwanted]

theorem Opposed.of_rel {wanted unwanted : Option Filter}
    (related : Option.Rel Filter.Opposite wanted unwanted) :
    Opposed wanted.toList unwanted.toList := by
  cases related with
  | none => exact .none
  | some opposite => exact .some opposite

/-- The places that are looked at: all of them if there are filters. -/
def Place.asked (filters : List Filter) (places : List Place) : List Place :=
  if filters.isEmpty then [] else places

@[simp] theorem Place.asked_nil (places : List Place) : asked [] places = [] := rfl

@[simp] theorem Place.asked_of_nil (filters : List Filter) : asked filters [] = [] :=
  ite_self []

@[simp] theorem Place.asked_cons (filter : Filter) (rest : List Filter) (places : List Place) :
    asked (filter :: rest) places = places := rfl

@[simp] theorem Place.only_nil (kind other : SearchKind) : only kind [] other = [] :=
  ite_self []

theorem Place.flatMap_asked {α : Type} (filters : List Filter) (places : α → List Place)
    (items : List α) :
    items.flatMap (fun item => asked filters (places item)) =
      asked filters (items.flatMap places) := by
  cases filters with
  | nil => simp
  | cons filter rest => simp

/-- Without filters nothing is looked at. -/
theorem Splits.idle {kind : SearchKind} {places : List Place} {first second : Visit}
    (idle : first = Pure.pure ()) (idle' : second = Pure.pure ()) :
    Splits (Place.only kind (Place.asked [] places)) first second := by
  rw [idle, idle']
  exact Splits.pure.congr fun other => (Place.only_nil kind other).symm

theorem Opposed.isEmpty {wanted unwanted : List Filter} (opposed : Opposed wanted unwanted) :
    wanted.isEmpty = unwanted.isEmpty := by
  cases opposed <;> rfl

namespace SearchQuery

variable {atlas : Atlas}

/-- A subject is asked one filter. -/
theorem consider_singleton (filter : Filter) (subject : Subject)
    (add : SearchHits → SearchHits) (memory : Memory) (hits : SearchHits) :
    consider atlas [filter] subject add (memory, hits) =
      match filter.evaluate atlas subject memory with
      | (.ok answer, after) => (.ok (), after, if answer then add hits else hits)
      | (.error fault, after) => (.error fault, after, hits) := by
  simp only [consider, List.isEmpty_cons, Bool.false_eq_true, if_false,
    Filter.evaluateAll_singleton]
  rcases filter.evaluate atlas subject memory with ⟨fault | answer, after⟩
  · rfl
  · cases answer <;> rfl

/-- **What a filter finds, its opposite does not find.** -/
theorem consider_splits {kind : SearchKind} {subject : Subject} {add : SearchHits → SearchHits}
    {wanted unwanted : List Filter} (opposed : Opposed wanted unwanted)
    (adds : Adds kind subject add) :
    Splits (Place.only kind (Place.asked wanted [subject.place]))
      (consider atlas wanted subject add) (consider atlas unwanted subject add) := by
  cases opposed with
  | none => exact Splits.idle rfl rfl
  | @some wanted unwanted opposite =>
    intro before after hits found run
    have recalls : Work.Recalls (wanted.evaluate atlas subject) := Filter.evaluate_recalls wanted
    have learned := (recalls.learns before).within
    rw [consider_singleton] at run
    rcases asked : wanted.evaluate atlas subject before with ⟨fault | answer, between⟩
    · rw [asked] at run
      cases run
    · rw [asked] at run learned
      cases run
      refine ⟨learned, fun start others resumes => ?_⟩
      obtain ⟨finish, again, resumed⟩ := recalls.resume asked resumes
      have reversed : unwanted.evaluate atlas subject start = (.ok !answer, finish) := by
        rw [opposite.answers, Filter.evaluate, Work.bind_apply, again]
        rfl
      refine ⟨finish, if answer then others else add others,
        fun other => if answer then subject.only kind other else [],
        fun other => if answer then [] else subject.only kind other, ?_, resumed, ?_, ?_, ?_⟩
      · rw [consider_singleton, reversed]
        cases answer <;> rfl
      · cases answer with
        | true => exact adds hits
        | false => exact .refl hits
      · cases answer with
        | true => exact .refl others
        | false => exact adds others
      · intro other
        cases answer <;>
          by_cases same : other = kind <;> simp [Subject.only, Place.only, Place.asked, same]

/-! ### Members -/

theorem parametersOf_places {α : Type} {member : Member α} {tables : Tables}
    {owner : ParameterOwner} {ids : List Nat} {index : Nat} {parameters : List Parameter}
    (read : member.parametersOf tables owner ids index = .ok parameters) :
    parameters.map (fun parameter => (Subject.parameter parameter).place) =
      (List.range' index ids.length).map (.parameter member.declaring owner) := by
  induction ids generalizing index parameters with
  | nil =>
    cases read
    rfl
  | cons id rest ih =>
    obtain ⟨record, _, read⟩ := Outcome.bind_eq_ok.1 read
    obtain ⟨others, there, read⟩ := Outcome.bind_eq_ok.1 read
    cases read
    rw [List.map_cons, ih there, List.length_cons, List.range'_succ, List.map_cons]
    rfl

variable {wanted unwanted : List Filter}

theorem visitParameters_splits (opposed : Opposed wanted unwanted) (method : Method) :
    Splits (Place.only .parameters (Place.asked wanted
        ((List.range method.record.parameters.length).map
          (.parameter method.declaring (.method method.index)))))
      (visitParameters atlas wanted method) (visitParameters atlas unwanted method) := by
  cases opposed with
  | none => exact Splits.idle rfl rfl
  | @some wanted unwanted opposite =>
    refine Splits.aside_bind (Work.recalls_lift _) fun {memory parameters} read => ?_
    have places := parametersOf_places (read : method.parametersOf _ _ _ 0 = .ok parameters)
    refine (Splits.each fun parameter _ =>
      consider_splits (.some opposite) (adds_parameter method parameter)).congr fun other => ?_
    rw [Place.flatMap_only, Place.asked_cons, List.range_eq_range', ← places, List.map_eq_flatMap]
    rfl

/-- The members that a class declares, seen from the class itself. -/
theorem members_of_class {α : Type} {part : ClassMembers → List α} {record : ClassRecord} {id : Nat}
    {memory : Memory} {members : List (Member α)}
    (known : atlas.tables.typeData id = .ok (.rawClass record))
    (given : (TypeView.members ⟨.plain id, .rawClass record, .empty⟩ atlas part true memory).1 =
      .ok members) :
    ∃ map, members = (part (atlas.tables.declaredMembers id)).mapIdx
      fun index record => { declaring := id, index, map, record } := by
  rcases run : TypeView.members ⟨.plain id, .rawClass record, .empty⟩ atlas part true memory with
    ⟨outcome, after⟩
  rw [run] at given
  cases given
  obtain ⟨classes, _, shallow, run⟩ := Work.bind_eq_ok.1 run
  cases shallow
  obtain ⟨own, _, found, run⟩ := Work.bind_eq_ok.1 run
  have read : atlas.tables.membersOf id = .ok own := (Work.lift_eq_ok.1 found).1
  have declared : atlas.tables.declaredMembers id = own := by
    simp only [Tables.declaredMembers, known, read]
  -- the bindings are asked for only if there are members, with the same list in both cases
  dsimp only at run
  split at run
  all_goals
    obtain ⟨map, _, _, run⟩ := Work.bind_eq_ok.1 run
    obtain ⟨others, _, none, run⟩ := Work.bind_eq_ok.1 run
    cases none
    cases run
    rw [declared, List.append_nil]
    exact ⟨map, rfl⟩

theorem map_mapIdx_eq_range {α β γ : Type} {items : List α} {item : Nat → α → β} {change : β → γ}
    {value : Nat → γ} (same : ∀ index source, change (item index source) = value index) :
    (items.mapIdx item).map change = (List.range items.length).map value := by
  rw [List.mapIdx_eq_zipIdx_map, List.map_map, List.range_eq_range', ← List.zipIdx_map_snd,
    List.map_map]
  exact List.map_congr_left fun pair _ => same _ _

theorem visitFields_splits (opposed : Opposed wanted unwanted) {id : Nat} {record : ClassRecord}
    (known : atlas.tables.typeData id = .ok (.rawClass record)) :
    Splits (Place.only .fields (Place.asked wanted (atlas.tables.placesOf id .fields)))
      (visitFields atlas wanted ⟨.plain id, .rawClass record, .empty⟩)
      (visitFields atlas unwanted ⟨.plain id, .rawClass record, .empty⟩) := by
  cases opposed with
  | none => exact Splits.idle rfl rfl
  | @some wanted unwanted opposite =>
    refine Splits.aside_bind (TypeView.members_recalls _ _) fun {memory fields} given => ?_
    obtain ⟨map, rfl⟩ := members_of_class known given
    refine (Splits.each fun field _ =>
      consider_splits (.some opposite) (adds_field field)).congr fun other => ?_
    rw [Place.flatMap_only, Place.asked_cons, Tables.placesOf]
    simp only [Place.asked_cons, ← List.map_eq_flatMap]
    exact congrArg (Place.only .fields · other) (map_mapIdx_eq_range fun _ _ => rfl)

theorem visitMethods_splits {wantedParameters unwantedParameters : List Filter}
    (opposed : Opposed wanted unwanted)
    (opposedParameters : Opposed wantedParameters unwantedParameters) {id : Nat}
    {record : ClassRecord} (known : atlas.tables.typeData id = .ok (.rawClass record)) :
    Splits (fun kind =>
        Place.only .parameters
          (Place.asked wantedParameters (atlas.tables.placesOf id .parameters)) kind ++
        Place.only .methods (Place.asked wanted (atlas.tables.placesOf id .methods)) kind)
      (visitMethods atlas wanted wantedParameters ⟨.plain id, .rawClass record, .empty⟩)
      (visitMethods atlas unwanted unwantedParameters ⟨.plain id, .rawClass record, .empty⟩) := by
  rw [visitMethods, visitMethods, ← opposed.isEmpty, ← opposedParameters.isEmpty]
  split
  · next bare =>
    obtain ⟨none, noneParameters⟩ : wanted = [] ∧ wantedParameters = [] := by simpa using bare
    rw [none, noneParameters]
    exact Splits.pure.congr fun kind => by simp
  · refine Splits.aside_bind (TypeView.members_recalls _ _) fun {memory methods} given => ?_
    obtain ⟨map, rfl⟩ := members_of_class known given
    refine (Splits.each fun method _ => (visitParameters_splits opposedParameters method).bind
      (consider_splits opposed (adds_method method))).congr fun kind => ?_
    cases kind with
    | classes | fields => simp [Place.only]
    | methods =>
      simp only [Place.only, reduceCtorEq, if_false, if_true, List.nil_append, Place.flatMap_asked,
        ← List.map_eq_flatMap]
      exact congrArg (Place.asked wanted) (map_mapIdx_eq_range fun _ _ => rfl)
    | parameters =>
      simp only [Place.only, reduceCtorEq, if_false, if_true, List.append_nil, Place.flatMap_asked]
      refine congrArg (Place.asked wantedParameters) ?_
      rw [Tables.placesOf, List.flatMap_def, List.mapIdx_eq_zipIdx_map, List.map_map,
        List.mapIdx_eq_zipIdx_map]
      rfl

/-- The places of a kind at a type that a search looks at. -/
def visited (query : SearchQuery) (tables : Tables) (id : Nat) (kind : SearchKind) : List Place :=
  Place.asked (query.get kind) (tables.placesOf id kind)

variable {wanted unwanted : SearchQuery}

/-- Opposite searches find, between them, the members that a type declares. -/
theorem visitMembers_splits (opposed : ∀ kind, Opposed (wanted.get kind) (unwanted.get kind))
    {id : Nat} {record : ClassRecord}
    (known : atlas.tables.typeData id = .ok (.rawClass record)) :
    Splits (fun kind => if kind = .classes then [] else wanted.visited atlas.tables id kind)
      (visitMembers atlas wanted ⟨.plain id, .rawClass record, .empty⟩)
      (visitMembers atlas unwanted ⟨.plain id, .rawClass record, .empty⟩) := by
  rw [visitMembers_eq, visitMembers_eq]
  refine ((visitFields_splits (opposed .fields) known).bind
    (visitMethods_splits (opposed .methods) (opposed .parameters) known)).congr fun kind => ?_
  cases kind <;> simp [Place.only, visited, SearchQuery.get]

/-- **Opposite searches find, between them, the places of a type.** -/
theorem visit_splits (opposed : ∀ kind, Opposed (wanted.get kind) (unwanted.get kind)) (id : Nat) :
    Splits (wanted.visited atlas.tables id) (wanted.visit atlas id) (unwanted.visit atlas id) := by
  refine Splits.aside_bind (Work.recalls_lift _) fun {memory view} viewed => ?_
  obtain ⟨data, known, same⟩ := Outcome.bind_eq_ok.1 viewed
  cases same
  have known : atlas.tables.typeData id = .ok data := known
  have classes : Splits (Place.only .classes (Place.asked wanted.classes [.type id]))
      (consider atlas wanted.classes _ _) (consider atlas unwanted.classes _ _) :=
    consider_splits (opposed .classes) (adds_type ⟨.plain id, data, .empty⟩)
  cases data with
  | rawClass record =>
    refine (classes.bind (visitMembers_splits opposed known)).congr fun kind => ?_
    cases kind <;> simp [Place.only, visited, Tables.placesOf, SearchQuery.get]
  | parameterized record | typeVariable record | wildcard record =>
    have bare : atlas.tables.declaredMembers id = ⟨[], [], []⟩ := by
      simp only [Tables.declaredMembers, known]
    refine (classes.bind Splits.pure).congr fun kind => ?_
    cases kind <;> simp [Place.only, visited, Tables.placesOf, SearchQuery.get, bare]

/-! ### All types -/

theorem visit_failures (atlas : Atlas) (query : SearchQuery) (id : Nat) (memory : Memory)
    (hits : SearchHits) :
    (query.visit atlas id (memory, hits)).2.2.failures = hits.failures :=
  ((stable_failures atlas query hits.failures).visit id (memory, hits) rfl).1

section

variable {query : SearchQuery} {id : Nat} {rest : List Nat} {memory between : Memory}
  {hits few : SearchHits}

theorem visitAll_of_ok (visited : query.visit atlas id (memory, hits) = (.ok (), between, few)) :
    query.visitAll atlas (id :: rest) hits memory = query.visitAll atlas rest few between := by
  simp only [visitAll, visited]

/-- A fault of a type is recorded, and the visit goes on with the next type. -/
theorem visitAll_of_final {fault : Fault}
    (visited : query.visit atlas id (memory, hits) = (.error fault, between, few))
    (final : fault.Final) :
    query.visitAll atlas (id :: rest) hits memory =
      query.visitAll atlas rest { few with failures := few.failures ++ [⟨id, fault⟩] } between := by
  simp only [visitAll, visited]
  cases fault with
  | endless type => exact absurd rfl (final type)
  | _ => rfl

/-- A visit without end is the end of the search. -/
theorem visitAll_of_endless {type : Nat}
    (visited : query.visit atlas id (memory, hits) = (.error (.endless type), between, few)) :
    query.visitAll atlas (id :: rest) hits memory = (.error (.endless type), between) := by
  simp only [visitAll, visited]

end

theorem visitAll_failures {query : SearchQuery} {ids : List Nat} {before after : Memory}
    {hits found : SearchHits} (run : query.visitAll atlas ids hits before = (.ok found, after)) :
    hits.failures <+: found.failures := by
  induction ids generalizing before hits with
  | nil =>
    cases run
    exact List.prefix_rfl
  | cons id rest ih =>
    have kept := visit_failures atlas query id before hits
    rcases visited : query.visit atlas id (before, hits) with ⟨fault | _, between, few⟩
    · rw [visited] at kept
      rcases fault.final_or_endless with final | ⟨type, rfl⟩
      · rw [visitAll_of_final visited final] at run
        have grown : few.failures <+: found.failures := (List.prefix_append _ _).trans (ih run)
        exact kept ▸ grown
      · cases (visitAll_of_endless visited).symm.trans run
    · rw [visited] at kept
      rw [visitAll_of_ok visited] at run
      exact kept ▸ ih run

/-- A search that records no failure is a visit of one type after the other. -/
theorem visitAll_iff_each {query : SearchQuery} {ids : List Nat} {before after : Memory}
    {hits found : SearchHits} :
    query.visitAll atlas ids hits before = (.ok found, after) ∧ found.failures = hits.failures ↔
      each (query.visit atlas) ids (before, hits) = (.ok (), after, found) := by
  induction ids generalizing before hits with
  | nil =>
    constructor
    · rintro ⟨run, -⟩
      cases run
      rfl
    · intro run
      cases run
      exact ⟨rfl, rfl⟩
  | cons id rest ih =>
    have kept := visit_failures atlas query id before hits
    rw [each, Work.bind_apply]
    rcases visited : query.visit atlas id (before, hits) with ⟨fault | _, between, few⟩
    · rw [visited] at kept
      refine ⟨fun ⟨run, same⟩ => ?_, fun run => nomatch run⟩
      rcases fault.final_or_endless with final | ⟨type, rfl⟩
      · -- a failure that is recorded here is there at the end
        rw [visitAll_of_final visited final] at run
        refine absurd (visitAll_failures run).length_le ?_
        rw [same, ← kept, List.length_append]
        exact Nat.not_succ_le_self _
      · cases (visitAll_of_endless visited).symm.trans run
    · rw [visited] at kept
      rw [visitAll_of_ok visited, ← kept]
      exact ih

/-- **Opposite searches find, between them, the places of a list of types.** -/
theorem visits_splits (opposed : ∀ kind, Opposed (wanted.get kind) (unwanted.get kind))
    (ids : List Nat) :
    Splits (fun kind => ids.flatMap fun id => wanted.visited atlas.tables id kind)
      (each (wanted.visit atlas) ids) (each (unwanted.visit atlas) ids) :=
  Splits.each fun id _ => visit_splits opposed id

/-- **What is found has passed its filters.** -/
theorem visits_justified {query : SearchQuery} {ids : List Nat} {before after : Memory}
    {found : SearchHits}
    (run : each (query.visit atlas) ids (before, .empty) = (.ok (), after, found)) :
    Justified atlas query (after, found) := by
  have kept := (stays_each (fun id => (stable_justified atlas query).visit id) ids
    (before, .empty) ?_).1
  · rwa [run] at kept
  · intro kind subject listed
    cases kind <;> cases listed

end SearchQuery

end ClassAtlas

import ClassAtlas.Proofs.Recall.Reached

/-!
# The type of a member and its text

What the type of a member stands for is found in two ways.  The type itself takes one step through
the bindings of the member and adds the array dimensions of both sides (`Member.standIn`); the text
follows the bindings to their end, but enters no type twice (`Member.render`).

The bindings are resolved, so one step is the whole way, and both ways meet with all the dimensions
(`members_agree`), unless a variable is bound to an array of itself: there the renderer stops before
it has taken the dimensions over, and they are lost (`render_of_selfArray`).
-/

set_option autoImplicit false

namespace ClassAtlas

/-- A type that is not bound, or a type variable that is bound to no array of itself. -/
def Tables.Unfolds (tables : Tables) (map : VarMap) (id : Nat) : Prop :=
  map.find? id = none ∨ tables.IsTypeVariable id ∧ ∀ depth, map.find? id ≠ some ⟨id, depth⟩

/-- The text of a type in the bindings of a member is the text of what the type stands for, with all
its array dimensions. -/
structure Member.Agrees {α : Type} (member : Member α) (tables : Tables) (memory : Memory)
    (ref : TypeRef) (options : NameOptions) : Prop where
  same : (member.render tables ref options memory).1 =
    (tables.render (member.standIn ref) (options.withMap member.map) memory).1
  dimensions : ∃ body : Except Fault String, (member.render tables ref options memory).1 =
    body.map (· ++ arraySuffix ((member.standIn ref).depth % limit32))

namespace Tables

variable {tables : Tables} {map : VarMap}

/-! ## One step is the whole way -/

/-- Where nothing is bound, or only to what was met before, the way ends. -/
theorem followBindings_of_rest {left : Nat} {met : List Nat} {current : TypeRef}
    (reads : ∃ data, tables.typeData current.id = .ok data)
    (rests : tables.IsTypeVariable current.id → ∀ next, map.find? current.id = some next →
      next.id ∈ met) :
    tables.followBindings map left met current = .ok current := by
  cases left with
  | zero => rfl
  | succ left =>
    rw [followBindings]
    by_cases varies : tables.IsTypeVariable current.id
    · rw [(isVariable_iff current).2 varies, Outcome.ok_bind, if_pos rfl]
      cases found : map.find? current.id with
      | none => rfl
      | some next =>
        have listed : met.contains (next.deepen current.depth).id = true :=
          List.contains_iff_mem.2 (rests varies next found)
        simp only [listed, if_true]
        rfl
    · rw [isVariable_eq_false reads varies]
      rfl

section

variable {options : NameOptions} (outside : options.definingVariable = false)

include outside

/-- Outside the bounds of a variable the bindings are followed, if there are any. -/
theorem standIn_withMap (ref : TypeRef) :
    tables.standIn ref (options.withMap map) =
      if map.isEmpty then .ok ref
      else tables.followBindings map (map.entries.length + 1) [ref.id] ref := by
  rw [standIn, NameOptions.withMap, outside, Bool.false_or]

/-- If anything stands for a type that is not bound, it is the type itself. -/
theorem standIn_of_free {id : Nat} (free : map.find? id = none) :
    tables.standIn (.plain id) (options.withMap map) = .ok (.plain id) ∨
      ∃ fault, tables.standIn (.plain id) (options.withMap map) = .error fault := by
  rw [standIn_withMap outside]
  split
  · exact .inl rfl
  · cases read : tables.isVariable (.plain id) with
    | error fault =>
      rw [followBindings, read]
      exact .inr ⟨fault, rfl⟩
    | ok varies =>
      refine .inl (followBindings_of_rest (reads_of_isVariable read) fun _ next found => ?_)
      cases free.symm.trans found

variable (stripped : tables.Stripped map) {id : Nat} {value : TypeRef}
  (bound : map.find? id = some value)

include stripped bound

omit outside in
/-- A value is no variable, or is not bound, or is bound to itself in more dimensions. -/
theorem Stripped.id_eq (varies : tables.IsTypeVariable value.id) {next : TypeRef}
    (found : map.find? value.id = some next) : next.id = value.id := by
  rcases stripped.rests id value bound varies next found with self | same
  · exact absurd (VarMap.isSelf_iff.1 self) (stripped.moves value.id next found)
  · rw [same]

/-- What a variable is bound to leads no further. -/
theorem standIn_value :
    tables.standIn (.plain value.id) (options.withMap map) = .ok (.plain value.id) := by
  rw [standIn_withMap outside]
  split
  · rfl
  · refine followBindings_of_rest (stripped.reads id value bound) fun varies next found => ?_
    exact List.mem_singleton.2 (stripped.id_eq bound varies found)

/-- A variable stands for what it is bound to, unless that is an array of itself. -/
theorem standIn_of_bound (varies : tables.IsTypeVariable id) (apart : value.id ≠ id) :
    tables.standIn (.plain id) (options.withMap map) = .ok (value.deepen 0) := by
  have some : map.isEmpty = false := by
    rw [VarMap.isEmpty, List.isEmpty_eq_false_iff]
    intro nothing
    rw [VarMap.find?, nothing] at bound
    cases bound
  have new : ¬[id].contains value.id = true := by simpa using apart
  have known : map.find? (TypeRef.plain id).id = .some value := bound
  rw [standIn_withMap outside, some, if_neg Bool.false_ne_true, followBindings,
    (isVariable_iff (.plain id)).2 varies, Outcome.ok_bind, if_pos rfl]
  simp only [known]
  refine (if_neg new).trans (followBindings_of_rest (stripped.reads id value bound) ?_)
  intro varies next found
  exact stripped.id_eq bound varies found ▸ List.mem_cons_self

end

end Tables

namespace Member

variable {α : Type} {member : Member α} {tables : Tables} {good : MapMemory → Prop}
  {memory : Memory} {ref : TypeRef} {options : NameOptions}

/-- The parameters of a member carry its bindings. -/
theorem parametersOf_map {owner : ParameterOwner} {ids : List Nat} {index : Nat}
    {parameters : List Parameter}
    (given : member.parametersOf tables owner ids index = .ok parameters) :
    ∀ parameter ∈ parameters, parameter.map = member.map := by
  induction ids generalizing index parameters with
  | nil =>
    obtain rfl := Except.ok.inj given
    exact List.forall_mem_nil _
  | cons id rest ih =>
    obtain ⟨record, -, given⟩ := Outcome.bind_eq_ok.1 given
    obtain ⟨others, there, given⟩ := Outcome.bind_eq_ok.1 given
    obtain rfl := Except.ok.inj given
    exact List.forall_mem_cons.2 ⟨rfl, ih there⟩

section

variable (stripped : tables.Stripped member.map) (rewrites : memory.Rewrites tables good)
  (outside : options.definingVariable = false)

include outside rewrites

/-- A type that is not bound keeps its text. -/
theorem agrees_of_free (free : member.map.find? ref.id = none) :
    member.Agrees tables memory ref options := by
  have still : member.standIn ref = ref := by rw [standIn, free]
  refine ⟨by rw [render, still], ?_⟩
  rw [render, still]
  rcases Tables.standIn_of_free outside free with stands | ⟨fault, stands⟩
  · obtain ⟨body, written, -⟩ := Tables.render_alike rewrites ref ref stands stands rfl
    refine ⟨body, ?_⟩
    rw [written, TypeRef.plain, TypeRef.deepen, Nat.zero_add]
  · refine ⟨.error fault, ?_⟩
    rw [Tables.render_outcome rewrites, TypeRef.element, stands]
    rfl

include stripped

/-- A variable that is bound to another type has the text of that type, in the dimensions of
both. -/
theorem agrees_of_bound {value : TypeRef} (bound : member.map.find? ref.id = some value)
    (varies : tables.IsTypeVariable ref.id) (apart : value.id ≠ ref.id) :
    member.Agrees tables memory ref options := by
  have step : member.standIn ref = value.deepen ref.depth := by rw [standIn, bound]
  have stands : tables.standIn ref.element (options.withMap member.map) = .ok (value.deepen 0) :=
    Tables.standIn_of_bound outside stripped bound varies apart
  have stands' : tables.standIn (.plain value.id) (options.withMap member.map) =
      .ok (.plain value.id) := Tables.standIn_value outside stripped bound
  obtain ⟨body, here, there⟩ :=
    Tables.render_alike rewrites ref (value.deepen ref.depth) stands stands' rfl
  have sums : ((value.deepen 0).deepen ref.depth).depth =
      (value.deepen ref.depth).depth % limit32 := by
    simp only [TypeRef.deepen, Nat.add_zero, Nat.mod_add_mod, Nat.mod_mod]
  have sums' : ((TypeRef.plain value.id).deepen (value.deepen ref.depth).depth).depth =
      (value.deepen ref.depth).depth % limit32 := by
    simp only [TypeRef.deepen, TypeRef.plain, Nat.zero_add]
  rw [sums] at here
  rw [sums'] at there
  constructor
  · rw [render, step, here, there]
  · exact ⟨body, by rw [render, step, here]⟩

/-- **An array of the variable itself loses the dimensions of the binding in the text.** -/
theorem render_of_selfArray {extra : Nat} (bound : member.map.find? ref.id = some ⟨ref.id, extra⟩) :
    ∃ body : Except Fault String,
      (member.render tables ref options memory).1 =
        body.map (· ++ arraySuffix (ref.depth % limit32)) ∧
      (tables.render (member.standIn ref) (options.withMap member.map) memory).1 =
        body.map (· ++ arraySuffix ((extra + ref.depth) % limit32)) := by
  have step : member.standIn ref = ⟨ref.id, (extra + ref.depth) % limit32⟩ := by
    rw [standIn, bound]
    rfl
  have stands : tables.standIn ref.element (options.withMap member.map) = .ok (.plain ref.id) := by
    have value := Tables.standIn_value outside stripped bound
    exact value
  have stands' : tables.standIn (member.standIn ref).element (options.withMap member.map) =
      .ok (.plain ref.id) := step ▸ stands
  obtain ⟨body, here, there⟩ :=
    Tables.render_alike rewrites ref (member.standIn ref) stands stands' rfl
  refine ⟨body, ?_, ?_⟩
  · rw [render, here, TypeRef.plain, TypeRef.deepen, Nat.zero_add]
  · rw [there, step, TypeRef.plain, TypeRef.deepen, Nat.zero_add, Nat.mod_mod]

end

end Member

/-- **The type of a member and its text agree**, whatever was asked before: of every field, method
and constructor that is listed through a type, and of their parameters.  The text of a type in their
bindings is the text of what the type stands for there, and it has all the array dimensions. -/
theorem TypeView.members_agree {atlas : Atlas} {ref : TypeRef} {view : TypeView}
    (seen : atlas.tables.view ref = .ok view) {α : Type} (part : ClassMembers → List α)
    (shallow : Bool) {before after : Memory} (reached : before.Reached atlas)
    {members : List (Member α)}
    (listed : view.members atlas part shallow before = (.ok members, after))
    {member : Member α} (among : member ∈ members) {written : TypeRef}
    (unfolds : atlas.tables.Unfolds member.map written.id) {options : NameOptions}
    (outside : options.definingVariable = false) {memory : Memory}
    (reached' : memory.Reached atlas) :
    member.Agrees atlas.tables memory written options ∧
      ∀ owner ids index parameters,
        member.parametersOf atlas.tables owner ids index = .ok parameters →
        ∀ parameter ∈ parameters,
          parameter.toMember.Agrees atlas.tables memory written options := by
  have stripped : atlas.tables.Stripped member.map := by
    have outcome := (members_reached seen part shallow before reached).2
    rw [listed] at outcome
    exact outcome member among
  have rewrites := reached'.rewrites
  have agrees : ∀ {β : Type} {other : Member β}, other.map = member.map →
      other.Agrees atlas.tables memory written options := by
    intro β other same
    rw [← same] at stripped unfolds
    rcases unfolds with free | ⟨varies, apart⟩
    · exact Member.agrees_of_free rewrites outside free
    · cases bound : other.map.find? written.id with
      | none => exact Member.agrees_of_free rewrites outside bound
      | some value =>
        refine Member.agrees_of_bound stripped rewrites outside bound varies fun same => ?_
        exact apart value.depth (bound.trans (by rw [← same]))
  refine ⟨agrees rfl, fun owner ids index parameters given parameter listed => ?_⟩
  exact agrees (Member.parametersOf_map given parameter listed)

/-! ## A box of boxes and a box of arrays -/

/-- A variable without bounds is written by its name. -/
theorem Tables.renderVariant_of_unbounded {tables : Tables} {id : Nat} {record : TypeVariableRecord}
    {memory : Memory} {text : String} (known : tables.typeData id = .ok (.typeVariable record))
    (unbounded : record.bounds.isEmpty = true)
    (named : tables.names[record.name]? = some (.text text)) (fresh : memory.names = ∅)
    (render : Renderer) (options : NameOptions) :
    (tables.renderVariant render id options memory).1 = .ok text := by
  rw [renderVariant, known, Work.bind_of_ok (Work.lift_apply _ _)]
  simp only
  rw [renderVariable, Work.bind_of_ok (name_of_text fresh named), unbounded, Bool.or_true]
  rfl

namespace TypeView

variable {atlas : Atlas} {ref : TypeRef} {view : TypeView} {map : VarMap} {before after : Memory}

theorem variableMap_of_exhaustive (seen : atlas.tables.view ref = .ok view)
    (given : (Work.onMaps (atlas.exhaustive ref.id) before).1 = .ok map) :
    ∃ maps, view.variableMap atlas before =
      (.ok map.stripSelf.stripSelf, { before with maps := maps }) := by
  obtain ⟨data, -, seen⟩ := Outcome.bind_eq_ok.1 seen
  obtain rfl := Except.ok.inj seen
  obtain ⟨maps, own⟩ := Atlas.typeVariableMap_of_exhaustive given
  exact ⟨maps, Work.bind_eq_ok.2 ⟨_, _, own, rfl⟩⟩

section

variable {α : Type} (part : ClassMembers → List α) {declaring : Nat} {members : ClassMembers}
  {first : α} {rest : List α} (run : view.variableMap atlas before = (.ok map, after))
  (known : atlas.tables.membersOf declaring = .ok members) (some : part members = first :: rest)

include run known some

/-- The members of a class, when it has some and the bindings are known. -/
theorem membersIn_of_run : view.membersIn atlas part [declaring] before =
    (.ok ((first :: rest).mapIdx fun index record => ⟨declaring, index, map, record⟩), after) := by
  refine Work.bind_eq_ok.2 ⟨members, before, Work.lift_eq_ok.2 ⟨known, rfl⟩, ?_⟩
  rw [some]
  refine Work.bind_eq_ok.2 ⟨map, after, run, ?_⟩
  rw [← List.append_nil (List.mapIdx _ _)]
  rfl

/-- They are the members of a type for itself when the class is its own. -/
theorem members_of_run (own : view.ownClass = [declaring]) :
    view.members atlas part true before =
      (.ok ((first :: rest).mapIdx fun index record => ⟨declaring, index, map, record⟩),
        after) := by
  rw [TypeView.members, memberClasses, own]
  exact Work.bind_eq_ok.2 ⟨_, before, rfl, membersIn_of_run part run known some⟩

/-- And they are all members of a type when no other class above it has any. -/
theorem members_of_above {order : List Nat} {own : Nat} {ownMembers : ClassMembers}
    (walked : atlas.tables.inherited view.ref.id = .ok order)
    (classes : classesOf atlas.tables order = .ok [own, declaring])
    (ownKnown : atlas.tables.membersOf own = .ok ownMembers) (none : part ownMembers = []) :
    view.members atlas part false before =
      (.ok ((first :: rest).mapIdx fun index record => ⟨declaring, index, map, record⟩),
        after) := by
  have above : view.memberClasses atlas.tables false = .ok [own, declaring] :=
    Outcome.bind_eq_ok.2 ⟨order, walked, classes⟩
  refine Work.bind_eq_ok.2 ⟨_, before, Work.lift_eq_ok.2 ⟨above, rfl⟩, ?_⟩
  refine Work.bind_eq_ok.2 ⟨ownMembers, before, Work.lift_eq_ok.2 ⟨ownKnown, rfl⟩, ?_⟩
  rw [none]
  exact Work.bind_eq_ok.2 ⟨.empty, before, rfl, Work.bind_eq_ok.2
    ⟨_, after, membersIn_of_run part run known some, rfl⟩⟩

end

end TypeView

/-- The boxes of `arrayBox`, and a box of arrays of boxes. -/
def Snapshot.boxOfBoxes : Snapshot :=
  { arrayBox with
    types := arrayBox.types ++
      [.object [("r", .nat 0), ("v", .array [.array [.nat 0, .nat 1]])]] }

/-- The snapshot `boxOfBoxes` with the usual settings. -/
def Atlas.boxOfBoxes : Atlas :=
  ⟨.ofSnapshot .boxOfBoxes, .default⟩

namespace Atlas

theorem boxOfBoxes_exhaustive :
    (Work.onMaps (boxOfBoxes.exhaustive 3) .empty).1 = .ok (VarMap.empty.insert 1 ⟨0, 1⟩) :=
  exhaustive_of_mapAlone (.of_behind (by decide)) (show boxOfBoxes.mapAlone 2 3 = _ from rfl)

/-- The value in a box of arrays of boxes is an array of boxes, in type and text. -/
theorem members_agree_boxOfBoxes :
    ∃ (view : TypeView) (field : Field) (after : Memory),
      boxOfBoxes.tables.view (.plain 3) = .ok view ∧
      view.fields boxOfBoxes true .empty = (.ok [field], after) ∧
      field.standIn field.record.type = ⟨0, 1⟩ ∧
      field.Agrees boxOfBoxes.tables after field.record.type .short := by
  have seen : boxOfBoxes.tables.view (.plain 3) = .ok _ := rfl
  obtain ⟨maps, run⟩ := TypeView.variableMap_of_exhaustive seen boxOfBoxes_exhaustive
  have box : (Tables.ofSnapshot .boxOfBoxes).typeData 0 = .ok _ := rfl
  have known := (Tables.ofSnapshot_membersOf box).trans rfl
  have listed := TypeView.members_of_run ClassMembers.fields run known rfl rfl
  have later := (TypeView.members_reached seen ClassMembers.fields true .empty .start).1
  rw [listed] at later
  refine ⟨_, _, _, seen, listed, rfl, ?_⟩
  refine (TypeView.members_agree seen ClassMembers.fields true .start listed
    List.mem_cons_self (.inr ⟨⟨_, rfl⟩, ?_⟩) rfl later).1
  rintro depth ⟨⟩

/-- The value in a box of arrays of the variable is an array of the variable, and its text is that
of the variable alone. -/
theorem arrayBox_fields_disagree :
    ∃ (view : TypeView) (field : Field) (after : Memory),
      arrayBox.tables.view (.plain 2) = .ok view ∧
      view.fields arrayBox true .empty = (.ok [field], after) ∧
      (field.render arrayBox.tables field.record.type .short after).1 = .ok "T" ∧
      (arrayBox.tables.render (field.standIn field.record.type)
        (NameOptions.short.withMap field.map) after).1 = .ok "T[]" := by
  have seen : arrayBox.tables.view (.plain 2) = .ok _ := rfl
  obtain ⟨maps, run⟩ := TypeView.variableMap_of_exhaustive seen arrayBox_exhaustive
  have box : (Tables.ofSnapshot .arrayBox).typeData 0 = .ok _ := rfl
  have known := (Tables.ofSnapshot_membersOf box).trans rfl
  have listed := TypeView.members_of_run ClassMembers.fields run known rfl rfl
  have later := (TypeView.members_reached seen ClassMembers.fields true .empty .start).1
  rw [listed] at later
  have read : arrayBox.tables.typeData 1 = .ok (.typeVariable ⟨1, []⟩) := rfl
  have fresh : Memory.names { Memory.empty with maps := maps } = ∅ := rfl
  have body := Tables.renderVariant_of_unbounded read rfl rfl fresh
  refine ⟨_, _, _, seen, listed, ?_, ?_⟩
  · rw [Member.render, Tables.render_outcome later.rewrites]
    exact congrArg (fun outcome => outcome.map (· ++ arraySuffix 0)) (body _ _)
  · rw [Tables.render_outcome later.rewrites]
    exact congrArg (fun outcome => outcome.map (· ++ arraySuffix 1)) (body _ _)

end Atlas

end ClassAtlas

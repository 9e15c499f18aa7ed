import ClassAtlas.Proofs.Recall.Types
import ClassAtlas.Search.Subject

/-!
# What a search asks is recalled

Members, the attributes of subjects and the answers of filters are put together from maps, texts and
names.  So a filter that gave an answer gives it again from then on (`Filter.evaluate_recalls`).
-/

set_option autoImplicit false

namespace ClassAtlas

/-! ## Members -/

namespace TypeView

variable {view : TypeView} {atlas : Atlas} {α : Type}

theorem membersIn_recalls (part : ClassMembers → List α) (classes : List Nat) :
    Work.Recalls (view.membersIn atlas part classes) := by
  induction classes with
  | nil => exact Work.recalls_pure []
  | cons declaring rest ih =>
    refine (Work.recalls_lift (atlas.tables.membersOf declaring)).bind fun members => ?_
    dsimp only
    split
    · exact (Work.recalls_pure VarMap.empty).bind fun map => ih.bind fun others =>
        Work.recalls_pure _
    · exact variableMap_recalls.bind fun map => ih.bind fun others => Work.recalls_pure _

theorem members_recalls (part : ClassMembers → List α) (shallow : Bool) :
    Work.Recalls (view.members atlas part shallow) :=
  (Work.recalls_lift (view.memberClasses atlas.tables shallow)).bind (membersIn_recalls part)

end TypeView

/-! ## Subjects -/

namespace Subject

variable {atlas : Atlas}

theorem memberName_recalls (subject : Subject) (tables : Tables) :
    Work.Recalls (subject.memberName tables) := by
  cases subject with
  | type view => exact Work.recalls_pure none
  | field member => exact tables.optionalName_recalls member.record.name
  | method member => exact tables.optionalName_recalls member.record.name
  | parameter member => exact tables.optionalName_recalls member.record.name

theorem typeAttribute_recalls (view : TypeView) (aspect : TypeAttribute) :
    Work.Recalls (typeAttribute atlas view aspect) := by
  cases aspect with
  | referenceName => exact TypeView.referenceName_recalls.bind fun text => Work.recalls_pure _
  | name => exact TypeView.name_recalls.bind fun text => Work.recalls_pure _
  | simpleName => exact TypeView.simpleName_recalls.bind fun text => Work.recalls_pure _
  | package => exact TypeView.packageName_recalls.bind fun text => Work.recalls_pure _
  | rawType =>
    rw [typeAttribute]
    split
    · next raw _ =>
      refine (Work.recalls_lift (atlas.tables.view raw)).bind fun raw => ?_
      exact (TypeView.qualifiedName_recalls false).bind fun text => Work.recalls_pure _
    · exact Work.recalls_pure none

theorem attributeText_recalls (subject : Subject) (aspect : Attribute) :
    Work.Recalls (subject.attributeText atlas aspect) := by
  cases aspect with
  | memberName => exact subject.memberName_recalls atlas.tables
  | type aspect =>
    exact (Work.recalls_lift (subject.typeView atlas.tables)).bind fun view =>
      typeAttribute_recalls view aspect

theorem passes_recalls (subject : Subject) (test : Predicate) :
    Work.Recalls (subject.passes atlas test) := by
  cases test with
  | text aspect matcher =>
    exact (subject.attributeText_recalls aspect).bind fun text => Work.recalls_pure _
  | id id inclusive =>
    exact (Work.recalls_lift (subject.typeView atlas.tables)).bind fun view => Work.recalls_pure _
  | parameterCount count => cases subject <;> exact Work.recalls_pure _
  | variant wanted expected =>
    exact (Work.recalls_lift (subject.typeView atlas.tables)).bind fun view => Work.recalls_pure _
  | never => exact Work.recalls_pure false

end Subject

/-! ## Filters -/

namespace Filter

variable {atlas : Atlas} {subject : Subject}

/-! A single filter is asked in the same way alone and in a list. -/

theorem evaluateAll_singleton (filter : Filter) :
    evaluateAll atlas subject [filter] = evaluate atlas subject filter := by
  funext memory
  rw [evaluateAll, Work.bind_apply]
  rcases evaluate atlas subject filter memory with ⟨fault | answer, after⟩
  · rfl
  · cases answer <;> rfl

theorem evaluateAny_singleton (filter : Filter) :
    evaluateAny atlas subject [filter] = evaluate atlas subject filter := by
  funext memory
  rw [evaluateAny, Work.bind_apply]
  rcases evaluate atlas subject filter memory with ⟨fault | answer, after⟩
  · rfl
  · cases answer <;> rfl

mutual
theorem evaluate_recalls (filter : Filter) : Work.Recalls (evaluate atlas subject filter) := by
  cases filter with
  | leaf test => exact subject.passes_recalls test
  | all filters => exact evaluateAll_recalls filters
  | any filters => exact evaluateAny_recalls filters
  | not filter => exact (evaluate_recalls filter).bind fun answer => Work.recalls_pure _

theorem evaluateAll_recalls (filters : List Filter) :
    Work.Recalls (evaluateAll atlas subject filters) := by
  cases filters with
  | nil => exact Work.recalls_pure true
  | cons filter rest =>
    refine (evaluate_recalls filter).bind fun answer => ?_
    split
    · exact evaluateAll_recalls rest
    · exact Work.recalls_pure false

theorem evaluateAny_recalls (filters : List Filter) :
    Work.Recalls (evaluateAny atlas subject filters) := by
  cases filters with
  | nil => exact Work.recalls_pure false
  | cons filter rest =>
    refine (evaluate_recalls filter).bind fun answer => ?_
    split
    · exact Work.recalls_pure true
    · exact evaluateAny_recalls rest
end

end Filter

end ClassAtlas

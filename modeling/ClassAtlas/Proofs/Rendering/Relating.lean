import ClassAtlas.Proofs.Outcome
import ClassAtlas.Proofs.Rendering.Calls

/-!
# One text from different parts

The text of a type is put together from the texts of its parts, whoever writes them.  So what holds
between the writers of the parts holds between the texts: a relation between a step and a family of
steps passes to all types as soon as it passes through sequences and holds of the names in the
snapshot (`Relates.renderVariant`).

The renderer is looked at here once for all such relations.
-/

set_option autoImplicit false

namespace ClassAtlas

namespace Tables

open Work (lift)

/-- A relation between a step and a family of steps that passes through sequences and holds of the
names of types. -/
structure Relates (tables : Tables) {ι : Type}
    (related : {α : Type} → Work α → (ι → Work α) → Prop) : Prop where
  lift : ∀ {α : Type} (outcome : Except Fault α), related (lift outcome) fun _ => lift outcome
  bind : ∀ {α β : Type} {first : Work α} {firsts : ι → Work α} {next : α → Work β}
    {nexts : ι → α → Work β}, related first firsts →
      (∀ value, related (next value) fun index => nexts index value) →
        related (first >>= next) fun index => firsts index >>= nexts index
  className : ∀ {id : Nat} {record : ClassRecord},
    tables.typeData id = .ok (.rawClass record) → ∀ appendPackage,
      related (tables.rawClassName record appendPackage) fun _ =>
        tables.rawClassName record appendPackage
  variableName : ∀ {id : Nat} {record : TypeVariableRecord},
    tables.typeData id = .ok (.typeVariable record) →
      related (tables.name record.name) fun _ => tables.name record.name

namespace Relates

variable {tables : Tables} {ι : Type} {related : {α : Type} → Work α → (ι → Work α) → Prop}
  (relates : tables.Relates related)

include relates

theorem pure {α : Type} (value : α) : related (pure value : Work α) fun _ => pure value :=
  relates.lift (.ok value)

theorem throw {α : Type} (fault : Fault) : related (throw fault : Work α) fun _ => throw fault :=
  relates.lift (.error fault)

/-- What all begin with the same outcome goes on from its value. -/
theorem lift_bind {α β : Type} {outcome : Except Fault α} {next : α → Work β}
    {nexts : ι → α → Work β}
    (then_ : ∀ value, outcome = .ok value →
      related (next value) fun index => nexts index value) :
    related (Work.lift outcome >>= next) fun index => Work.lift outcome >>= nexts index := by
  cases outcome with
  | error fault => exact relates.lift (.error fault)
  | ok value => exact then_ value rfl

theorem forAll {α β : Type} {step : α → Work β} {steps : ι → α → Work β}
    (each : ∀ item, related (step item) fun index => steps index item) (items : List α) :
    related (Work.forAll step items) fun index => Work.forAll (steps index) items := by
  induction items with
  | nil => exact relates.pure []
  | cons item rest ih =>
    exact relates.bind (each item) fun first => relates.bind ih fun others => relates.pure _

section

variable {render : Renderer} {renders : ι → Renderer} {options : NameOptions}
  (parts : ∀ ref other, options.Alike other →
    related (render ref other) fun index => renders index ref other)

include parts

theorem renderJoined {other : NameOptions} (alike : options.Alike other) (refs : List TypeRef)
    (separator : String) :
    related (renderJoined render refs separator other) fun index =>
      renderJoined (renders index) refs separator other :=
  relates.bind (relates.forAll (fun ref => parts ref other alike) refs) fun _ => relates.pure _

theorem renderClass {id : Nat} {record : ClassRecord}
    (known : tables.typeData id = .ok (.rawClass record)) :
    related (tables.renderClass render id record options) fun index =>
      tables.renderClass (renders index) id record options := by
  have own := relates.className known
  simp only [Tables.renderClass]
  split
  · next declaring _ =>
    split
    · exact own _
    · split
      · exact relates.throw _
      · refine relates.bind (parts declaring options (.refl options)) fun outer => ?_
        exact relates.bind (own false) fun name => relates.pure _
  · exact own _

theorem renderVariable {id : Nat} {record : TypeVariableRecord}
    (known : tables.typeData id = .ok (.typeVariable record)) :
    related (tables.renderVariable render record options) fun index =>
      tables.renderVariable (renders index) record options := by
  refine relates.bind (relates.variableName known) fun name => ?_
  split
  · exact relates.pure name
  · refine relates.bind (relates.renderJoined parts ?_ _ _) fun bounds => relates.pure _
    constructor <;> rfl

theorem renderWildcard (record : WildcardRecord) :
    related (renderWildcard render record options) fun index =>
      renderWildcard (renders index) record options := by
  have joined := relates.renderJoined parts (.refl options)
  simp only [Tables.renderWildcard]
  split
  · exact relates.bind (joined _ _) fun bounds => relates.pure _
  · split
    · exact relates.bind (joined _ _) fun bounds => relates.pure _
    · exact relates.pure _

theorem renderOwner (record : ParameterizedRecord) :
    related (renderOwner render record options) fun index =>
      renderOwner (renders index) record options := by
  simp only [Tables.renderOwner]
  split
  · exact relates.pure _
  · next owner _ =>
    split
    · exact relates.pure _
    · refine relates.bind (parts owner _ ?_) fun outer => relates.pure _
      constructor <;> rfl

theorem renderArguments (record : ParameterizedRecord) :
    related (renderArguments render record options) fun index =>
      renderArguments (renders index) record options := by
  simp only [Tables.renderArguments]
  split
  · refine relates.bind (relates.renderJoined parts ?_ _ _) fun inner => relates.pure _
    constructor <;> rfl
  · exact relates.pure _

theorem renderParameterized (record : ParameterizedRecord) :
    related (renderParameterized render record options) fun index =>
      renderParameterized (renders index) record options := by
  refine relates.bind (parts record.rawType _ ?_) fun name => ?_
  · constructor <;> rfl
  · refine relates.bind (relates.renderOwner parts record) fun owner => ?_
    exact relates.bind (relates.renderArguments parts record) fun arguments => relates.pure _

variable (renders) in
/-- **What holds between the texts of the parts holds between the texts of the type.** -/
theorem renderVariant (id : Nat) :
    related (tables.renderVariant render id options) fun index =>
      tables.renderVariant (renders index) id options := by
  refine relates.lift_bind fun data known => ?_
  cases data with
  | rawClass record => exact relates.renderClass parts known
  | typeVariable record => exact relates.renderVariable parts known
  | wildcard record => exact relates.renderWildcard parts record
  | parameterized record => exact relates.renderParameterized parts record

end

end Relates

end Tables

end ClassAtlas

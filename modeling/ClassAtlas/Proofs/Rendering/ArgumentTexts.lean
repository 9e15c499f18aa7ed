import ClassAtlas.Proofs.Rendering.Texts
import Mathlib.Tactic.IntervalCases

/-!
# Texts of type arguments

The text of a parameterized type is put together from the texts of its class, its owner and its
arguments, each of which is written with marks that say what it leaves to the others.  Where nothing
is bound, these texts can be read off the records (`TextIs.parameterized`, `textAlone_insideClass`).

In the place of an argument a type is written without its owner.  Its class stands behind its
package there exactly when the type has no owner (`render_arguments`): an owner takes the package
away also where it is not written itself (`render_arguments_ownedArgument`).
-/

set_option autoImplicit false

namespace ClassAtlas

/-- Options with packages and type arguments, under which no variable is bound.  The marks are
free, so a type written inside another one is meant as well. -/
structure NameOptions.Qualifies (options : NameOptions) : Prop where
  unbound : options.map = .empty
  packages : options.appendPackage = true
  generics : options.includeGenerics = true

/-- The options for the arguments of a parameterized type. -/
def NameOptions.inArguments (options : NameOptions) : NameOptions :=
  { options with definingParameterized := true }

/-- The options for the class of a parameterized type. -/
def NameOptions.inClass (options : NameOptions) (record : ParameterizedRecord) : NameOptions :=
  { options with
    definingParameterized := true
    appendPackage := options.appendPackage && record.ownerType.isNone }

/-- The array dimensions behind a type. -/
def TypeRef.brackets (ref : TypeRef) : String :=
  arraySuffix (ref.element.deepen ref.depth).depth

/-- Type arguments in their brackets; without any there are no brackets. -/
def bracketed (parts : List String) : String :=
  if parts.isEmpty then "" else "<" ++ ", ".intercalate parts ++ ">"

@[simp] theorem TypeRef.brackets_plain (id : Nat) : (TypeRef.plain id).brackets = "" :=
  rfl

@[simp] theorem bracketed_nil : bracketed [] = "" :=
  rfl

/-- Lifted outcomes for the items of a list, one after the other. -/
theorem Work.forAll_lift_eq_ok {σ α β : Type} {outcome : α → Except Fault β} {items : List α}
    {results : List β} {before after : σ} :
    (forAll (fun item => (lift (outcome item) : Remembering σ β)) items before =
        (.ok results, after)) ↔
      List.Forall₂ (fun item result => outcome item = .ok result) items results ∧
        before = after := by
  induction items generalizing results with
  | nil =>
    rw [List.forall₂_nil_left_iff, forAll, pure_apply, Prod.mk.injEq, Except.ok.injEq, eq_comm]
  | cons item rest ih =>
    rw [forAll, bind_eq_ok, List.forall₂_cons_left_iff]
    constructor
    · rintro ⟨first, between, here, onward⟩
      obtain ⟨given, rfl⟩ := lift_eq_ok.1 here
      obtain ⟨others, last, there, same⟩ := bind_eq_ok.1 onward
      cases same
      obtain ⟨each, kept⟩ := ih.1 there
      exact ⟨⟨first, others, given, each, rfl⟩, kept⟩
    · rintro ⟨⟨first, others, given, each, rfl⟩, rfl⟩
      exact ⟨first, before, lift_eq_ok.2 ⟨given, rfl⟩,
        bind_eq_ok.2 ⟨others, before, ih.2 ⟨each, rfl⟩, rfl⟩⟩

namespace Tables

variable {atlas : Atlas} {options : NameOptions} {ref : TypeRef} {text : String}

/-! ## The parts of a text -/

/-- What stands before the name of a class: its package and a dot, if there is a package with a
name and it is asked for. -/
def PackagePrefix (tables : Tables) (record : ClassRecord) (appendPackage : Bool)
    (text : String) : Prop :=
  match record.package with
  | none => text = ""
  | some package =>
    if appendPackage then
      ∃ outer, tables.PackageIs package outer ∧ text = if outer.isEmpty then "" else outer ++ "."
    else text = ""

/-- What stands before the name of a parameterized type, when the texts of types are known: its
owner and a dollar sign, unless there is none or it is left out. -/
inductive OwnerPrefix (textOf : TypeRef → NameOptions → String → Prop)
    (record : ParameterizedRecord) (options : NameOptions) : String → Prop where
  | unowned (none : record.ownerType = none) : OwnerPrefix textOf record options ""
  | hidden (inside : options.definingParameterized = true) : OwnerPrefix textOf record options ""
  | shown {owner : TypeRef} {outer : String} (owned : record.ownerType = some owner)
      (outside : options.definingParameterized = false)
      (is : textOf owner options.inArguments outer) :
      OwnerPrefix textOf record options (outer ++ "$")

/-- The texts of the type arguments that are shown when the texts of types are known. -/
def ArgumentParts (textOf : TypeRef → NameOptions → String → Prop) (record : ParameterizedRecord)
    (options : NameOptions) (parts : List String) : Prop :=
  List.Forall₂ (fun argument => textOf argument options.inArguments)
    (if options.includeGenerics then record.arguments else []) parts

section

variable {textOf other : TypeRef → NameOptions → String → Prop} {record : ParameterizedRecord}

theorem OwnerPrefix.mono (owned : OwnerPrefix textOf record options text)
    (onward : ∀ ref options text, textOf ref options text → other ref options text) :
    OwnerPrefix other record options text := by
  cases owned with
  | unowned none => exact .unowned none
  | hidden inside => exact .hidden inside
  | shown owned outside is => exact .shown owned outside (onward _ _ _ is)

/-- Inside a parameterized type no owner is written. -/
theorem OwnerPrefix.inside (inside : options.definingParameterized = true)
    (owned : OwnerPrefix textOf record options text) : text = "" := by
  cases owned with
  | unowned | hidden => rfl
  | shown _ outside => cases inside.symm.trans outside

end

/-- The package of a class stands before its name when it is asked for. -/
theorem packagePrefix_iff {record : ClassRecord} {package : Nat} {outer : String}
    {appendPackage : Bool} (written : record.package = some package)
    (there : atlas.tables.PackageIs package outer) (nonempty : outer ≠ "") :
    atlas.tables.PackagePrefix record appendPackage text ↔
      text = if appendPackage then outer ++ "." else "" := by
  have some : (if outer.isEmpty then "" else outer ++ ".") = outer ++ "." :=
    if_neg (mt String.isEmpty_iff.1 nonempty)
  rw [PackagePrefix, written]
  cases appendPackage with
  | false => rfl
  | true =>
    constructor
    · rintro ⟨other, again, rfl⟩
      rw [again.unique there, some, if_pos rfl]
    · rintro rfl
      exact ⟨outer, there, by rw [some, if_pos rfl]⟩

/-! ## Texts from their parts -/

section

variable {levels : Nat} {memory after : Memory} {record : ParameterizedRecord}

/-- The types that are written alone with so many levels, and their texts. -/
def Alone (tables : Tables) (levels : Nat) (ref : TypeRef) (options : NameOptions)
    (text : String) : Prop :=
  tables.textAlone levels ref options = .ok text

theorem renderOwner_alone :
    renderOwner (fun part other => Work.lift (atlas.tables.textAlone levels part other))
        record options memory = (.ok text, after) ↔
      OwnerPrefix (atlas.tables.Alone levels) record options text ∧ memory = after := by
  rw [renderOwner]
  constructor
  · intro given
    cases owned : record.ownerType with
    | none =>
      rw [owned] at given
      cases given
      exact ⟨.unowned owned, rfl⟩
    | some owner =>
      rw [owned] at given
      cases inside : options.definingParameterized with
      | true =>
        simp only [inside, if_true] at given
        cases given
        exact ⟨.hidden inside, rfl⟩
      | false =>
        simp only [inside, Bool.false_eq_true, if_false] at given
        obtain ⟨outer, between, written, same⟩ := Work.bind_eq_ok.1 given
        cases same
        exact ⟨.shown owned inside (Work.lift_eq_ok.1 written).1, (Work.lift_eq_ok.1 written).2⟩
  · rintro ⟨owned, rfl⟩
    cases owned with
    | unowned none => simp only [none, Work.pure_apply]
    | hidden inside => cases record.ownerType <;> simp only [inside, if_true, Work.pure_apply]
    | shown owned outside is =>
      simp only [owned, outside, Bool.false_eq_true, if_false]
      exact Work.bind_eq_ok.2 ⟨_, memory, Work.lift_eq_ok.2 ⟨is, rfl⟩, rfl⟩

theorem renderArguments_alone :
    renderArguments (fun part other => Work.lift (atlas.tables.textAlone levels part other))
        record options memory = (.ok text, after) ↔
      (∃ parts, ArgumentParts (atlas.tables.Alone levels) record options parts ∧
        text = bracketed parts) ∧ memory = after := by
  rw [renderArguments]
  by_cases shown : (options.includeGenerics && !record.arguments.isEmpty) = true
  · obtain ⟨generic, some⟩ := Bool.and_eq_true_iff.1 shown
    have brackets : ∀ {parts}, ArgumentParts (atlas.tables.Alone levels) record options parts →
        bracketed parts = "<" ++ ", ".intercalate parts ++ ">" := by
      intro parts each
      rw [ArgumentParts, if_pos generic] at each
      cases parts with
      | nil =>
        rw [List.forall₂_nil_right_iff.1 each] at some
        cases some
      | cons first rest => rfl
    rw [if_pos shown, renderJoined]
    simp only [Work.bind_eq_ok, Work.forAll_lift_eq_ok]
    constructor
    · rintro ⟨joined, between, ⟨parts, between', ⟨each, kept⟩, same⟩, same'⟩
      cases same
      cases same'
      have each : ArgumentParts (atlas.tables.Alone levels) record options parts := by
        rwa [ArgumentParts, if_pos generic]
      exact ⟨⟨parts, each, (brackets each).symm⟩, kept⟩
    · rintro ⟨⟨parts, each, rfl⟩, rfl⟩
      rw [brackets each]
      rw [ArgumentParts, if_pos generic] at each
      exact ⟨_, memory, ⟨parts, memory, ⟨each, rfl⟩, rfl⟩, rfl⟩
  · have none : (if options.includeGenerics then record.arguments else []) = [] := by
      simpa [Bool.and_eq_true_iff] using shown
    rw [if_neg shown, Work.pure_apply, Prod.mk.injEq, Except.ok.injEq]
    simp only [ArgumentParts, none, List.forall₂_nil_left_iff]
    constructor
    · rintro ⟨rfl, kept⟩
      exact ⟨⟨[], rfl, rfl⟩, kept⟩
    · rintro ⟨⟨parts, rfl, rfl⟩, kept⟩
      exact ⟨rfl, kept⟩

/-- Where nothing is bound, a type is written alone when its record is. -/
theorem textAlone_of_unbound (unbound : options.map = .empty) :
    atlas.tables.Alone (levels + 1) ref options text ↔
      ∃ body after, atlas.tables.renderVariant (fun part other =>
          Work.lift (atlas.tables.textAlone levels part other)) ref.id options .empty =
            (.ok body, after) ∧ text = body ++ ref.brackets := by
  rw [Alone, textAlone_succ_eq_ok, standIn_of_unbound unbound]
  constructor
  · rintro ⟨resolved, body, same, written, rfl⟩
    cases same
    exact ⟨body, _, Prod.ext written rfl, rfl⟩
  · rintro ⟨body, after, written, rfl⟩
    exact ⟨ref.element, body, rfl, congrArg Prod.fst written, rfl⟩

/-- **A parameterized type is written as its owner, its class and its arguments.** -/
theorem textAlone_parameterized (unbound : options.map = .empty)
    (known : atlas.tables.typeData ref.id = .ok (.parameterized record)) :
    atlas.tables.Alone (levels + 1) ref options text ↔
      ∃ name owner parts, atlas.tables.Alone levels record.rawType (options.inClass record) name ∧
        OwnerPrefix (atlas.tables.Alone levels) record options owner ∧
        ArgumentParts (atlas.tables.Alone levels) record options parts ∧
        text = owner ++ name ++ bracketed parts ++ ref.brackets := by
  rw [textAlone_of_unbound unbound, renderVariant, known, Work.bind_of_ok (Work.lift_apply _ _)]
  simp only [renderParameterized, Work.bind_eq_ok, renderOwner_alone, renderArguments_alone,
    Work.lift_eq_ok]
  constructor
  · rintro ⟨body, after, ⟨name, _, ⟨named, rfl⟩, owner, _, ⟨owned, rfl⟩, _, _,
      ⟨⟨parts, each, rfl⟩, rfl⟩, same⟩, rfl⟩
    cases same
    exact ⟨name, owner, parts, named, owned, each, rfl⟩
  · rintro ⟨name, owner, parts, named, owned, each, rfl⟩
    exact ⟨_, .empty, ⟨name, _, ⟨named, rfl⟩, owner, _, ⟨owned, rfl⟩, _, _,
      ⟨⟨parts, each, rfl⟩, rfl⟩, rfl⟩, rfl⟩

end

section

variable (legible : atlas.tables.Legible)

include legible

theorem textIs_of_alone {levels : Nat} (given : atlas.tables.Alone levels ref options text) :
    atlas.tables.TextIs ref options text :=
  ⟨levels, fun _ above => textAlone_mono legible given above⟩

section

variable {id : Nat} {record : ClassRecord}
  (known : atlas.tables.typeData id = .ok (.rawClass record)) {appendPackage : Bool}

include known

/-- The name of a class, behind its package or not. -/
theorem rawClassName_prefixed :
    Work.Meets (Memory.Faithful atlas) (atlas.tables.rawClassName record appendPackage)
      (fun text => ∃ before name, atlas.tables.PackagePrefix record appendPackage before ∧
        atlas.tables.NameIs record.name name ∧ text = before ++ name) fun _ => True := by
  refine (name_steady (legible.classes known)).keeps.bind fun name is => ?_
  cases written : record.package with
  | none =>
    rw [ite_self]
    exact Work.meets_pure ⟨"", name, by rw [PackagePrefix, written], is, String.empty_append.symm⟩
  | some package =>
    cases appendPackage with
    | false =>
      exact Work.meets_pure ⟨"", name, by rw [PackagePrefix, written]; rfl, is,
        String.empty_append.symm⟩
    | true =>
      refine (packageName_steady (legible.packages known package written)).keeps.bind
        fun outer there => Work.meets_pure ?_
      refine ⟨if outer.isEmpty then "" else outer ++ ".", name, ?_, is, ?_⟩
      · rw [PackagePrefix, written]
        exact ⟨outer, there, rfl⟩
      · split
        · exact String.empty_append.symm
        · rfl

theorem rawClassName_always {before name : String}
    (packaged : atlas.tables.PackagePrefix record appendPackage before)
    (is : atlas.tables.NameIs record.name name) :
    Work.Always (Memory.Faithful atlas) (atlas.tables.rawClassName record appendPackage)
      (before ++ name) := by
  refine (name_always (legible.classes known name is)).bind ?_
  cases written : record.package with
  | none =>
    rw [PackagePrefix, written] at packaged
    rw [ite_self, packaged, String.empty_append]
    exact Work.always_pure name
  | some package =>
    rw [PackagePrefix, written] at packaged
    cases appendPackage with
    | false =>
      obtain rfl : before = "" := packaged
      rw [String.empty_append]
      exact Work.always_pure name
    | true =>
      obtain ⟨outer, there, rfl⟩ := packaged
      have resolves := legible.packages known package written outer there
      refine (packageName_always resolves).bind ?_
      cases outer.isEmpty with
      | true => exact (String.empty_append (s := name)).symm ▸ Work.always_pure name
      | false => exact Work.always_pure _

/-- **Inside a parameterized type a class is written as its name, behind its package or not.** -/
theorem textAlone_insideClass {levels : Nat} (ref : TypeRef) (same : ref.id = id)
    (unbound : options.map = .empty) (inside : options.definingParameterized = true) :
    atlas.tables.Alone (levels + 1) ref options text ↔
      ∃ before name, atlas.tables.PackagePrefix record options.appendPackage before ∧
        atlas.tables.NameIs record.name name ∧ text = before ++ name ++ ref.brackets := by
  subst same
  have own : ∀ render : Renderer, atlas.tables.renderClass render ref.id record options =
      atlas.tables.rawClassName record options.appendPackage := by
    intro render
    simp only [renderClass, inside, if_true]
    cases record.declaringClass <;> rfl
  rw [textAlone_of_unbound unbound, renderVariant, known, Work.bind_of_ok (Work.lift_apply _ _)]
  simp only [own]
  constructor
  · rintro ⟨body, after, written, rfl⟩
    obtain ⟨-, before, name, packaged, is, rfl⟩ :=
      (rawClassName_prefixed legible known).of_ok (Memory.faithful_empty atlas) written
    exact ⟨before, name, packaged, is, rfl⟩
  · rintro ⟨before, name, packaged, is, rfl⟩
    have given := (rawClassName_always legible known packaged is).fst_eq
      (Memory.faithful_empty atlas)
    exact ⟨_, _, Prod.ext given rfl, rfl⟩

end

/-! ## Arguments -/

/-- A parameterized type that has a text is written as its parts, and they have theirs. -/
theorem TextIs.parameterized {record : ParameterizedRecord} (unbound : options.map = .empty)
    (known : atlas.tables.typeData ref.id = .ok (.parameterized record))
    (is : atlas.tables.TextIs ref options text) :
    ∃ name owner parts, atlas.tables.TextIs record.rawType (options.inClass record) name ∧
      OwnerPrefix atlas.tables.TextIs record options owner ∧
      ArgumentParts atlas.tables.TextIs record options parts ∧
      text = owner ++ name ++ bracketed parts ++ ref.brackets := by
  obtain ⟨enough, given⟩ := is
  obtain ⟨name, owner, parts, named, owned, each, rfl⟩ :=
    (textAlone_parameterized unbound known).1 (given (enough + 1) (Nat.le_succ _))
  exact ⟨name, owner, parts, textIs_of_alone legible named,
    owned.mono fun _ _ _ => textIs_of_alone legible,
    each.imp fun _ _ => textIs_of_alone legible, rfl⟩

/-- The text of a parameterized type in the place of an argument, when its class has a package. -/
theorem TextIs.argument {inner : ParameterizedRecord} {own : ClassRecord} {package : Nat}
    {outer : String} (qualifies : options.Qualifies)
    (known : atlas.tables.typeData ref.id = .ok (.parameterized inner))
    (raw : atlas.tables.typeData inner.rawType.id = .ok (.rawClass own))
    (written : own.package = some package) (there : atlas.tables.PackageIs package outer)
    (nonempty : outer ≠ "") (is : atlas.tables.TextIs ref options.inArguments text) :
    ∃ name others, atlas.tables.NameIs own.name name ∧
      List.Forall₂ (fun argument => atlas.tables.TextIs argument options.inArguments)
        inner.arguments others ∧
      text = (if inner.ownerType.isNone then outer ++ "." else "") ++ name ++
        inner.rawType.brackets ++ bracketed others ++ ref.brackets := by
  have unbound : options.inArguments.map = .empty := qualifies.unbound
  have unboundClass : (options.inArguments.inClass inner).map = .empty := qualifies.unbound
  have generics : options.inArguments.includeGenerics = true := qualifies.generics
  have asked : (options.inArguments.inClass inner).appendPackage = inner.ownerType.isNone := by
    show (options.appendPackage && inner.ownerType.isNone) = _
    rw [qualifies.packages, Bool.true_and]
  obtain ⟨className, owner, others, ⟨enough, given⟩, owned, each, rfl⟩ :=
    is.parameterized legible unbound known
  obtain ⟨before, name, packaged, spells, rfl⟩ := (textAlone_insideClass legible raw inner.rawType
    rfl unboundClass rfl).1 (given (enough + 1) (Nat.le_succ _))
  rw [asked, packagePrefix_iff written there nonempty] at packaged
  rw [ArgumentParts, if_pos generics] at each
  refine ⟨name, others, spells, each, ?_⟩
  rw [owned.inside rfl, String.empty_append, packaged]

omit legible in
/-- **Type arguments keep their package unless they have an owner.**  The text of a parameterized
type under qualifying options ends with the texts of its arguments in brackets.  The text of an
argument that is a parameterized type itself, and whose class has a package with a name, begins with
the package and a dot if it has no owner; if it has one, it begins with the name of the class,
behind neither the package nor the owner.  Its own arguments are written in the same way. -/
theorem render_arguments (named : atlas.tables.Named) {memory : Memory}
    (faithful : memory.Faithful atlas) (qualifies : options.Qualifies) {id : Nat}
    {record : ParameterizedRecord} (known : atlas.tables.typeData id = .ok (.parameterized record))
    (given : (atlas.tables.render (.plain id) options memory).1 = .ok text) :
    ∃ front parts, text = front ++ bracketed parts ∧
      List.Forall₂ (fun argument part =>
        atlas.tables.TextIs argument options.inArguments part ∧
        ∀ inner own package outer,
          atlas.tables.typeData argument.id = .ok (.parameterized inner) →
          atlas.tables.typeData inner.rawType.id = .ok (.rawClass own) →
          own.package = some package → atlas.tables.PackageIs package outer → outer ≠ "" →
          ∃ name others, atlas.tables.NameIs own.name name ∧
            List.Forall₂ (fun argument => atlas.tables.TextIs argument options.inArguments)
              inner.arguments others ∧
            part = (if inner.ownerType.isNone then outer ++ "." else "") ++ name ++
              inner.rawType.brackets ++ bracketed others ++ argument.brackets)
        record.arguments parts := by
  have legible := named.legible
  have is : atlas.tables.TextIs (.plain id) options text :=
    ((render_steady legible (.plain id) options).keeps.of_ok faithful (Prod.ext given rfl)).2
  obtain ⟨name, owner, parts, -, -, each, rfl⟩ := is.parameterized legible qualifies.unbound known
  rw [ArgumentParts, if_pos qualifies.generics] at each
  refine ⟨owner ++ name, parts, String.append_empty, each.imp fun argument part is => ⟨is, ?_⟩⟩
  intro inner own package outer applied raw written there nonempty
  exact is.argument legible qualifies applied raw written there nonempty

end

end Tables

/-! ### Entries of a map in lists -/

/-- A class that is declared in another one, applied with an owner (3) and without (5), and lists of
these (4 and 6). -/
def Snapshot.ownedArgument : Snapshot :=
  { empty with
    types := [
      .object [("n", .nat 0), ("P", .nat 1)],
      .object [("n", .nat 1), ("P", .nat 1)],
      .object [("n", .nat 2), ("P", .nat 1), ("D", .nat 1)],
      .object [("r", .nat 2), ("o", .nat 1)],
      .object [("r", .nat 0), ("v", .nat 3)],
      .object [("r", .nat 2)],
      .object [("r", .nat 0), ("v", .array [.nat 5, .nat 3])]]
    names := [.text "List", .text "Map", .text "Entry"]
    packages := [⟨"java", none⟩, ⟨"util", some 0⟩] }

/-- The snapshot `ownedArgument` with the usual settings. -/
def Atlas.ownedArgument : Atlas :=
  ⟨.ofSnapshot .ownedArgument, .default⟩

namespace Tables

theorem ownedArgument_package :
    Atlas.ownedArgument.tables.resolvePackage ∅ (chainLimit + 1) 1 = .ok "java.util" := by
  have listed : Atlas.ownedArgument.tables.packages[1]? = some ⟨"util", some 0⟩ := rfl
  have outer : Atlas.ownedArgument.tables.packages[0]? = some ⟨"java", none⟩ := rfl
  rw [resolvePackage_succ listed Std.HashMap.getElem?_empty, readPackage]
  simp only [chainLimit, resolvePackage_succ outer Std.HashMap.getElem?_empty]
  rfl

theorem ownedArgument_named : Atlas.ownedArgument.tables.Named where
  typeVariables := by
    intro id record known
    have inside : id < 7 := typeData_lt known
    interval_cases id <;> cases known
  classes := by
    intro id record known
    have inside : id < 7 := typeData_lt known
    interval_cases id <;> cases known <;> exact ⟨_, resolveName_text rfl chainLimit⟩
  packages := by
    intro id record known package written
    have inside : id < 7 := typeData_lt known
    interval_cases id <;> cases known <;> cases written <;> exact ⟨_, ownedArgument_package⟩

/-- Inside a parameterized type, the classes are written as their names, behind the package or
not. -/
theorem ownedArgument_class {id levels : Nat} {name text : String} {options : NameOptions}
    (listed : (id, name) ∈ [(0, "List"), (1, "Map"), (2, "Entry")])
    (unbound : options.map = .empty) (inside : options.definingParameterized = true)
    (spelled : (if options.appendPackage then "java.util." else "") ++ name = text) :
    Atlas.ownedArgument.tables.Alone (levels + 1) (.plain id) options text := by
  obtain ⟨record, known, written, listed⟩ : ∃ record,
      Atlas.ownedArgument.tables.typeData id = .ok (.rawClass record) ∧ record.package = some 1 ∧
        Atlas.ownedArgument.tables.names[record.name]? = some (.text name) := by
    simp only [List.mem_cons, Prod.mk.injEq, List.not_mem_nil, or_false] at listed
    rcases listed with ⟨rfl, rfl⟩ | ⟨rfl, rfl⟩ | ⟨rfl, rfl⟩ <;> exact ⟨_, rfl, rfl, rfl⟩
  refine (textAlone_insideClass ownedArgument_named.legible known (.plain id) rfl unbound inside).2
    ⟨_, name, ?_, nameIs_of_fresh (resolveName_text listed 0),
      spelled.symm.trans String.append_empty.symm⟩
  exact (packagePrefix_iff written (packageIs_of_fresh ownedArgument_package) (by decide)).2 rfl

/-- The entries in the place of arguments: with an owner the name of the class alone. -/
theorem ownedArgument_entry {id levels : Nat} {owner : Option TypeRef} {text : String}
    (known : Atlas.ownedArgument.tables.typeData id =
      .ok (.parameterized ⟨.plain 2, owner, []⟩))
    (spelled : (if owner.isNone then "java.util." else "") ++ "Entry" = text) :
    Atlas.ownedArgument.tables.Alone (levels + 2) (.plain id) NameOptions.qualified.inArguments
      text := by
  refine (textAlone_parameterized rfl known).2 ?_
  refine ⟨text, "", [], ?_, .hidden rfl, .nil, by simp⟩
  exact ownedArgument_class (by decide : (2, "Entry") ∈ _) rfl rfl spelled

/-- A list of types. -/
theorem ownedArgument_list {id levels : Nat} {refs : List TypeRef} {parts : List String}
    {text : String}
    (known : Atlas.ownedArgument.tables.typeData id = .ok (.parameterized ⟨.plain 0, none, refs⟩))
    (each : List.Forall₂ (fun argument => Atlas.ownedArgument.tables.Alone (levels + 1) argument
      NameOptions.qualified.inArguments) refs parts)
    (spelled : "java.util.List" ++ bracketed parts = text) :
    Atlas.ownedArgument.tables.Alone (levels + 2) (.plain id) .qualified text := by
  refine (textAlone_parameterized rfl known).2 ?_
  refine ⟨"java.util.List", "", parts, ?_, .unowned rfl, each, by simp [spelled]⟩
  exact ownedArgument_class (by decide : (0, "List") ∈ _) rfl rfl rfl

/-- **An owner takes the package of an argument away.**  All names can be put together and the
rendering ends, the argument is a parameterized type whose class has a package, and its text begins
neither with the package nor with its owner. -/
theorem ownedArgument_unpackaged :
    let tables := Atlas.ownedArgument.tables
    tables.Named ∧ tables.typeData 4 = .ok (.parameterized ⟨.plain 0, none, [.plain 3]⟩) ∧
      tables.typeData 3 = .ok (.parameterized ⟨.plain 2, some (.plain 1), []⟩) ∧
      (∃ own, tables.typeData 2 = .ok (.rawClass own) ∧ own.package = some 1) ∧
      tables.PackageIs 1 "java.util" ∧
      (tables.render (.plain 4) .qualified .empty).1 = .ok "java.util.List<Entry>" ∧
      tables.TextIs (.plain 3) NameOptions.qualified.inArguments "Entry" ∧
      ¬"java.util.".toList <+: "Entry".toList ∧
      ∀ owner : String, ¬(owner ++ "$").toList <+: "Entry".toList := by
  have legible := ownedArgument_named.legible
  have known : Atlas.ownedArgument.tables.typeData 4 =
      .ok (.parameterized ⟨.plain 0, none, [.plain 3]⟩) := rfl
  have owned : Atlas.ownedArgument.tables.typeData 3 =
      .ok (.parameterized ⟨.plain 2, some (.plain 1), []⟩) := rfl
  have entry : Atlas.ownedArgument.tables.Alone 2 (.plain 3) NameOptions.qualified.inArguments
      "Entry" := ownedArgument_entry owned (by decide)
  have whole : Atlas.ownedArgument.tables.Alone 3 (.plain 4) .qualified "java.util.List<Entry>" :=
    ownedArgument_list known (.cons entry .nil) (by decide)
  refine ⟨ownedArgument_named, known, owned, ⟨_, rfl, rfl⟩,
    packageIs_of_fresh ownedArgument_package,
    (render_always legible whole).fst_eq (Memory.faithful_empty _),
    textIs_of_alone legible entry, by decide, fun owner starts => ?_⟩
  have dollar : '$' ∈ (owner ++ "$").toList := by simp
  have absent : '$' ∉ "Entry".toList := by decide
  exact absent (starts.subset dollar)

/-- Both entries as arguments of one list: the one without owner keeps the package, and the other
one does not. -/
theorem render_arguments_ownedArgument :
    (Atlas.ownedArgument.tables.render (.plain 6) .qualified .empty).1 =
        .ok "java.util.List<java.util.Entry, Entry>" ∧
      ∃ front, "java.util.List<java.util.Entry, Entry>" =
        front ++ bracketed ["java.util.Entry", "Entry"] := by
  have legible := ownedArgument_named.legible
  have known : Atlas.ownedArgument.tables.typeData 6 =
      .ok (.parameterized ⟨.plain 0, none, [.plain 5, .plain 3]⟩) := rfl
  have unowned : Atlas.ownedArgument.tables.typeData 5 =
      .ok (.parameterized ⟨.plain 2, none, []⟩) := rfl
  have owned : Atlas.ownedArgument.tables.typeData 3 =
      .ok (.parameterized ⟨.plain 2, some (.plain 1), []⟩) := rfl
  have whole : Atlas.ownedArgument.tables.Alone 3 (.plain 6) .qualified
      "java.util.List<java.util.Entry, Entry>" :=
    ownedArgument_list known (.cons (ownedArgument_entry unowned rfl)
      (.cons (ownedArgument_entry owned rfl) .nil)) (by decide)
  have given := (render_always legible whole).fst_eq (Memory.faithful_empty Atlas.ownedArgument)
  have package := packageIs_of_fresh ownedArgument_package
  have named : ∀ name, Atlas.ownedArgument.tables.NameIs 2 name → name = "Entry" := fun name is =>
    is.unique (nameIs_of_fresh (resolveName_text rfl 0))
  refine ⟨given, ?_⟩
  obtain ⟨front, parts, same, each⟩ := render_arguments ownedArgument_named
    (Memory.faithful_empty Atlas.ownedArgument) ⟨rfl, rfl, rfl⟩ known given
  obtain ⟨first, others, ⟨-, first_⟩, rest, rfl⟩ := List.forall₂_cons_left_iff.1 each
  obtain ⟨second, last, ⟨-, second_⟩, none, rfl⟩ := List.forall₂_cons_left_iff.1 rest
  obtain rfl := List.forall₂_nil_left_iff.1 none
  obtain ⟨name, inner, spells, bare, rfl⟩ := first_ _ _ _ _ unowned rfl rfl package (by decide)
  obtain ⟨name', inner', spells', bare', rfl⟩ := second_ _ _ _ _ owned rfl rfl package (by decide)
  obtain rfl := List.forall₂_nil_left_iff.1 bare
  obtain rfl := List.forall₂_nil_left_iff.1 bare'
  obtain rfl := named name spells
  obtain rfl := named name' spells'
  exact ⟨front, same⟩

end Tables

end ClassAtlas

import ClassAtlas.Proofs.Following
import ClassAtlas.Proofs.Recall.Types
import ClassAtlas.Proofs.Rendering.Naming
import ClassAtlas.Proofs.Rendering.Relating
import ClassAtlas.Proofs.Substitution.History

/-!
# Texts and what was asked before

What is remembered of names, packages, maps and texts is what they are without memory, for as many
levels as they need (`Memory.Faithful`).  A name that can be put together at all has one text, and
so has a type under given options.  So on a well-formed snapshot where all names can be put together
a text does not depend on what was asked before: a type always has the same text or none
(`render_steady`).
-/

set_option autoImplicit false

namespace ClassAtlas

namespace Tables

variable {tables : Tables}

/-! ## Names within the limit -/

/-- If a name has a text at all, it has it within the limit. -/
def ShallowName (tables : Tables) (id : Nat) : Prop :=
  ∀ text, tables.NameIs id text → tables.resolveName ∅ (chainLimit + 1) id = .ok text

/-- If a package has a text at all, it has it within the limit. -/
def ShallowPackage (tables : Tables) (id : Nat) : Prop :=
  ∀ text, tables.PackageIs id text → tables.resolvePackage ∅ (chainLimit + 1) id = .ok text

/-- The names and packages of the types have their texts within the limit, if they have any. -/
structure Legible (tables : Tables) : Prop where
  typeVariables : ∀ {id : Nat} {record : TypeVariableRecord},
    tables.typeData id = .ok (.typeVariable record) → tables.ShallowName record.name
  classes : ∀ {id : Nat} {record : ClassRecord}, tables.typeData id = .ok (.rawClass record) →
    tables.ShallowName record.name
  packages : ∀ {id : Nat} {record : ClassRecord}, tables.typeData id = .ok (.rawClass record) →
    ∀ package ∈ record.package, tables.ShallowPackage package

theorem nameIs_of_fresh {levels id : Nat} {text : String}
    (resolves : tables.resolveName ∅ levels id = .ok text) : tables.NameIs id text :=
  nameIs_of_resolveName (fun found => by simp at found) resolves

theorem packageIs_of_fresh {levels id : Nat} {text : String}
    (resolves : tables.resolvePackage ∅ levels id = .ok text) : tables.PackageIs id text :=
  packageIs_of_resolvePackage (fun found => by simp at found) resolves

theorem shallowName_of_resolves {id : Nat}
    (resolves : ∃ text, tables.resolveName ∅ (chainLimit + 1) id = .ok text) :
    tables.ShallowName id := by
  obtain ⟨other, resolves⟩ := resolves
  exact fun text is => is.unique (nameIs_of_fresh resolves) ▸ resolves

theorem shallowPackage_of_resolves {id : Nat}
    (resolves : ∃ text, tables.resolvePackage ∅ (chainLimit + 1) id = .ok text) :
    tables.ShallowPackage id := by
  obtain ⟨other, resolves⟩ := resolves
  exact fun text is => is.unique (packageIs_of_fresh resolves) ▸ resolves

/-- Names that can all be put together are within the limit. -/
theorem Named.legible (named : tables.Named) : tables.Legible where
  typeVariables := fun known => shallowName_of_resolves (named.typeVariables known)
  classes := fun known => shallowName_of_resolves (named.classes known)
  packages := fun known package written =>
    shallowPackage_of_resolves (named.packages known package written)

/-! ## Levels instead of memory -/

/-- The text of a type with so many levels, from the texts of its parts with one level less.  No
text is remembered. -/
def textAlone (tables : Tables) : Nat → TypeRef → NameOptions → Except Fault String
  | 0, ref, _ => .error (.endless ref.id)
  | levels + 1, ref, options => do
    let resolved ← tables.standIn ref.element options
    let text ← (tables.renderVariant
      (fun ref options => Work.lift (textAlone tables levels ref options)) resolved.id options
      .empty).1
    return text ++ arraySuffix (resolved.deepen ref.depth).depth

/-- What the text of a type is without memory. -/
def TextIs (tables : Tables) (ref : TypeRef) (options : NameOptions) (text : String) : Prop :=
  Outcome.Settles (fun levels => tables.textAlone levels ref options) text

end Tables

/-- What is remembered is what it is without memory.  The class names that were found are left
aside. -/
structure Memory.Faithful (atlas : Atlas) (memory : Memory) : Prop where
  names : ∀ {id : Nat} {text : String}, memory.names[id]? = some text → atlas.tables.NameIs id text
  packages : ∀ {id : Nat} {text : String},
    memory.packages[id]? = some text → atlas.tables.PackageIs id text
  maps : MapMemory.Settled atlas memory.maps
  texts : ∀ {ref : TypeRef} {options : NameOptions} {text : String},
    memory.texts[(ref, options)]? = some text → atlas.tables.TextIs ref options text
  partitions : ∀ {partitions : Partitions},
    memory.partitions = some partitions → Partitions.ofTables atlas.tables = .ok partitions

theorem Memory.faithful_empty (atlas : Atlas) : Memory.empty.Faithful atlas where
  names := fun found => by simp [Memory.empty] at found
  packages := fun found => by simp [Memory.empty] at found
  maps := MapMemory.settled_empty atlas
  texts := fun found => by simp [Memory.empty] at found
  partitions := fun found => nomatch found

namespace Tables

variable {atlas : Atlas}

/-- A name has its text or none, whatever is remembered. -/
theorem name_steady {id : Nat} (shallow : atlas.tables.ShallowName id) :
    Work.Steady (Memory.Faithful atlas) (atlas.tables.name id) (atlas.tables.NameIs id) := by
  refine Work.steady_of_unique (atlas.tables.NameIs id) (∃ text, atlas.tables.NameIs id text)
    (fun _ _ => Outcome.Settles.unique) (fun _ is => is) fun memory faithful => ?_
  rw [name_apply]
  refine ⟨{ faithful with names := Directory.ask_spells faithful.names }, ?_⟩
  have gives := resolveName_meets atlas.tables memory.names (chainLimit + 1) id
  cases found : atlas.tables.resolveName memory.names (chainLimit + 1) id with
  | error flaw =>
    rw [found] at gives
    rintro ⟨text, is⟩
    exact gives.2 text (shallow text is)
  | ok text =>
    have is := nameIs_of_resolveName faithful.names found
    exact ⟨is, text, is⟩

theorem packageName_steady {id : Nat} (shallow : atlas.tables.ShallowPackage id) :
    Work.Steady (Memory.Faithful atlas) (atlas.tables.packageName id)
      (atlas.tables.PackageIs id) := by
  refine Work.steady_of_unique (atlas.tables.PackageIs id)
    (∃ text, atlas.tables.PackageIs id text) (fun _ _ => Outcome.Settles.unique) (fun _ is => is)
    fun memory faithful => ?_
  rw [packageName_apply]
  refine ⟨{ faithful with packages := Directory.ask_spells faithful.packages }, ?_⟩
  have gives := resolvePackage_meets atlas.tables memory.packages (chainLimit + 1) id
  cases found : atlas.tables.resolvePackage memory.packages (chainLimit + 1) id with
  | error flaw =>
    rw [found] at gives
    rintro ⟨text, is⟩
    exact gives.2 text (shallow text is)
  | ok text =>
    have is := packageIs_of_resolvePackage faithful.packages found
    exact ⟨is, text, is⟩

theorem name_always {id : Nat} {text : String}
    (resolves : atlas.tables.resolveName ∅ (chainLimit + 1) id = .ok text) :
    Work.Always (Memory.Faithful atlas) (atlas.tables.name id) text := by
  refine (name_steady (shallowName_of_resolves ⟨text, resolves⟩)).always
    (Memory.faithful_empty atlas) ?_
  rw [name, show Memory.empty.names = ∅ from rfl, resolves]

theorem packageName_always {id : Nat} {text : String}
    (resolves : atlas.tables.resolvePackage ∅ (chainLimit + 1) id = .ok text) :
    Work.Always (Memory.Faithful atlas) (atlas.tables.packageName id) text := by
  refine (packageName_steady (shallowPackage_of_resolves ⟨text, resolves⟩)).always
    (Memory.faithful_empty atlas) ?_
  rw [packageName, show Memory.empty.packages = ∅ from rfl, resolves]

/-! ## The parts of a type -/

section

variable (legible : atlas.tables.Legible)

include legible

theorem rawClassName_steady {id : Nat} {record : ClassRecord}
    (known : atlas.tables.typeData id = .ok (.rawClass record)) (appendPackage : Bool) :
    Work.Steady (Memory.Faithful atlas) (atlas.tables.rawClassName record appendPackage)
      fun _ => True := by
  refine (name_steady (legible.classes known)).bind fun name _ => ?_
  split
  · cases written : record.package with
    | none => exact Work.steady_pure trivial
    | some package =>
      exact (packageName_steady (legible.packages known package written)).bind fun outer _ =>
        Work.steady_pure trivial
  · exact Work.steady_pure trivial

/-- Names have one text, so what follows in the parts of a type follows in the type. -/
theorem relates_follows :
    atlas.tables.Relates fun step followers =>
      Work.Follows (Memory.Faithful atlas) step (Memory.Faithful atlas) followers where
  lift := Work.follows_lift
  bind := Work.Follows.bind
  className known appendPackage := (rawClassName_steady legible known appendPackage).follows
  variableName known := (name_steady (legible.typeVariables known)).follows

/-- **The text of a type is what its parts make it**: computations from parts that follow each other
follow each other. -/
theorem renderVariant_follows {render : Renderer} {render' : Nat → Renderer} (options : NameOptions)
    (parts : ∀ ref other, options.Alike other → Work.Follows (Memory.Faithful atlas)
      (render ref other) (Memory.Faithful atlas) fun levels => render' levels ref other)
    (id : Nat) :
    Work.Follows (Memory.Faithful atlas) (atlas.tables.renderVariant render id options)
      (Memory.Faithful atlas)
      fun levels => atlas.tables.renderVariant (render' levels) id options :=
  (relates_follows legible).renderVariant render' parts id

end

/-! ## Texts -/

/-- A text that is true may be remembered. -/
theorem remember_always {ref : TypeRef} {options : NameOptions} {text : String}
    (is : atlas.tables.TextIs ref options text) :
    Work.Always (Memory.Faithful atlas)
      (do
        modify fun memory => { memory with texts := memory.texts.insert (ref, options) text }
        return text) text := by
  intro memory faithful
  have before : ∀ {key : TypeRef × NameOptions} {text : String},
      memory.texts[key]? = some text → atlas.tables.TextIs key.1 key.2 text := faithful.texts
  exact ⟨{ faithful with texts := fun there => forall_getElem?_insert before is there }, rfl⟩

/-- A text that is remembered is true. -/
theorem recall_meets {ref : TypeRef} {options : NameOptions} {rest : Work String}
    {result : String → Prop} {fault : Fault → Prop}
    (known : ∀ text, atlas.tables.TextIs ref options text → result text)
    (meets : Work.Meets (Memory.Faithful atlas) rest result fault) :
    Work.Meets (Memory.Faithful atlas)
      (do
        match (← get).texts[(ref, options)]? with
        | some text => return text
        | none => rest) result fault := by
  intro memory faithful
  rw [Work.bind_apply, Work.get_apply]
  cases found : memory.texts[(ref, options)]? with
  | some text =>
    simp only [found]
    exact ⟨faithful, known text (faithful.texts found)⟩
  | none =>
    simp only [found]
    exact meets memory faithful

section

variable (legible : atlas.tables.Legible)

include legible

/-- **A text that is given is the text that the type has without memory.**  By induction on the
levels. -/
theorem renderWithin_is (levels : Nat) (ref : TypeRef) (options : NameOptions) :
    Work.Meets (Memory.Faithful atlas) (atlas.tables.renderWithin levels ref options)
      (atlas.tables.TextIs ref options) fun _ => True := by
  refine renderWithin_meets (Memory.Faithful atlas) atlas.tables.TextIs
    (fun faithful => faithful.texts) (fun {levels} parts {ref found options} stands => ?_)
    (fun _ _ _ is faithful => ?_) levels ref options
  · have follows : ∀ ref other, options.Alike other → Work.Follows (Memory.Faithful atlas)
        (atlas.tables.renderWithin levels ref other) (Memory.Faithful atlas) fun levels =>
          Work.lift (atlas.tables.textAlone levels ref other) := fun ref other _ =>
      (parts ref other).mono (fun _ => Work.eventually_lift) fun _ same => same
    refine Work.Meets.mono (renderVariant_follows legible options follows found.id)
      (fun body eventually => ?_) fun _ same => same
    have alone := eventually.settles .empty (Memory.faithful_empty atlas)
    refine (alone.map (· ++ arraySuffix (found.deepen ref.depth).depth)).of_succ fun levels => ?_
    rw [textAlone, stands]
    rfl
  · exact ((remember_always is) _ faithful).1

/-! ### What is written alone is written -/

/-- More levels change no text. -/
theorem textAlone_mono {levels more : Nat} {ref : TypeRef} {options : NameOptions} {text : String}
    (given : atlas.tables.textAlone levels ref options = .ok text) (enough : levels ≤ more) :
    atlas.tables.textAlone more ref options = .ok text := by
  induction levels generalizing more ref options text with
  | zero => cases given
  | succ levels ih =>
    obtain ⟨more, rfl⟩ := Nat.exists_eq_add_one_of_ne_zero (Nat.ne_zero_of_lt enough)
    obtain ⟨resolved, stands, given⟩ := Outcome.bind_eq_ok.1 given
    obtain ⟨body, written, given⟩ := Outcome.bind_eq_ok.1 given
    have parts : ∀ part other, options.Alike other →
        Work.Follows (Memory.Faithful atlas) (Work.lift (atlas.tables.textAlone levels part other))
          (Memory.Faithful atlas) fun _ => Work.lift (atlas.tables.textAlone more part other) := by
      refine fun part other _ => Work.meets_lift ?_
      cases inner : atlas.tables.textAlone levels part other with
      | error fault => trivial
      | ok text =>
        have again := ih inner (Nat.le_of_succ_le_succ enough)
        exact Work.eventually_of_always (Work.always_lift again)
    have faithful := Memory.faithful_empty atlas
    have outcome := (renderVariant_follows legible options parts resolved.id .empty faithful).2
    rw [written] at outcome
    obtain ⟨least, again⟩ := outcome.settles .empty faithful
    refine Outcome.bind_eq_ok.2 ⟨resolved, stands, Outcome.bind_eq_ok.2 ⟨body, ?_, given⟩⟩
    exact again least (Nat.le_refl _)

omit legible in
/-- How a text is written alone: the text of the type that stands for it, and the dimensions. -/
theorem textAlone_succ_eq_ok {levels : Nat} {ref : TypeRef} {options : NameOptions}
    {text : String} :
    atlas.tables.textAlone (levels + 1) ref options = .ok text ↔
      ∃ resolved body, atlas.tables.standIn ref.element options = .ok resolved ∧
        (atlas.tables.renderVariant (fun ref options =>
          Work.lift (atlas.tables.textAlone levels ref options)) resolved.id options .empty).1 =
            .ok body ∧
        body ++ arraySuffix (resolved.deepen ref.depth).depth = text := by
  rw [textAlone]
  constructor
  · intro given
    obtain ⟨resolved, stands, given⟩ := Outcome.bind_eq_ok.1 given
    obtain ⟨body, written, same⟩ := Outcome.bind_eq_ok.1 given
    exact ⟨resolved, body, stands, written, Except.ok.inj same⟩
  · rintro ⟨resolved, body, stands, written, rfl⟩
    exact Outcome.bind_eq_ok.2 ⟨resolved, stands, Outcome.bind_eq_ok.2 ⟨body, written, rfl⟩⟩

omit legible in
theorem textAlone_of_always {levels id : Nat} {options : NameOptions} {text : String}
    (stands : atlas.tables.standIn (.plain id) options = .ok (.plain id))
    (written : Work.Always (Memory.Faithful atlas) (atlas.tables.renderVariant (fun ref options =>
      Work.lift (atlas.tables.textAlone levels ref options)) id options) text) :
    atlas.tables.textAlone (levels + 1) (.plain id) options = .ok text :=
  textAlone_succ_eq_ok.2 ⟨.plain id, text, stands, written.fst_eq (Memory.faithful_empty atlas),
    String.append_empty⟩

omit legible in
theorem rawClassName_of_unpackaged {record : ClassRecord} {text : String}
    (unpackaged : record.package = none)
    (named : atlas.tables.names[record.name]? = some (.text text)) (appendPackage : Bool) :
    Work.Always (Memory.Faithful atlas) (atlas.tables.rawClassName record appendPackage) text := by
  simp only [rawClassName, unpackaged, ite_self]
  exact (name_always (resolveName_text named chainLimit)).bind (Work.always_pure text)

omit legible in
/-- A class without declaring class is written alone as its name is. -/
theorem textAlone_of_undeclared {id : Nat} {record : ClassRecord} {options : NameOptions}
    {text : String} (known : atlas.tables.typeData id = .ok (.rawClass record))
    (undeclared : record.declaringClass = none) (unbound : options.map = .empty)
    (written : Work.Always (Memory.Faithful atlas)
      (atlas.tables.rawClassName record options.appendPackage) text) (levels : Nat) :
    atlas.tables.textAlone (levels + 1) (.plain id) options = .ok text := by
  refine textAlone_of_always (standIn_of_unbound unbound _) ((Work.always_lift known).bind ?_)
  simp only [renderClass, undeclared]
  exact written

omit legible in
theorem typeData_of_renderVariant {render : Renderer} {id : Nat} {options : NameOptions}
    {memory : Memory} {text : String}
    (written : (atlas.tables.renderVariant render id options memory).1 = .ok text) :
    ∃ data, atlas.tables.typeData id = .ok data := by
  cases known : atlas.tables.typeData id with
  | ok data => exact ⟨data, rfl⟩
  | error fault =>
    rw [renderVariant, known, Work.bind_of_error (Work.lift_apply _ _)] at written
    cases written

/-- A call is written alone with so many levels. -/
def WrittenAlone (tables : Tables) (levels : Nat) (call : Call) : Prop :=
  ∃ text, tables.textAlone levels (.plain call.id) call.options = .ok text

omit legible in
/-- Array dimensions do not matter to whether a type is written. -/
theorem writtenAlone_iff {levels : Nat} {ref : TypeRef} {options : NameOptions} :
    atlas.tables.WrittenAlone levels ⟨ref.id, options⟩ ↔
      ∃ text, atlas.tables.textAlone levels ref options = .ok text := by
  cases levels with
  | zero => constructor <;> (rintro ⟨text, given⟩; cases given)
  | succ levels =>
    simp only [WrittenAlone, textAlone_succ_eq_ok]
    constructor
    · rintro ⟨text, resolved, body, stands, written, -⟩
      exact ⟨_, resolved, body, stands, written, rfl⟩
    · rintro ⟨text, resolved, body, stands, written, -⟩
      exact ⟨_, resolved, body, stands, written, rfl⟩

/-- A type that is written alone has a first level with which it is. -/
theorem exists_first_text {enough : Nat} {ref : TypeRef} {options : NameOptions} {text : String}
    (given : atlas.tables.textAlone enough ref options = .ok text) :
    ∃ last < enough, atlas.tables.textAlone (last + 1) ref options = .ok text ∧
      ¬atlas.tables.WrittenAlone last ⟨ref.id, options⟩ := by
  obtain ⟨last, less, first, early⟩ :=
    Outcome.exists_first (fun levels => atlas.tables.textAlone levels ref options) given
      (fun _ never => nomatch never)
      fun levels _ before => textAlone_mono legible before (Nat.le_succ levels)
  refine ⟨last, less, first, fun written => ?_⟩
  obtain ⟨other, soon⟩ := writtenAlone_iff.1 written
  exact early other soon

/-- **A type that is written alone is written whatever is remembered**, unless a call on the way to
it is written alone as early.  By induction on the levels with which it is written: where the
renderer comes to the parts, the type itself is not written alone yet if its first level was taken,
so the calls on the way all differ. -/
theorem renderWithin_always (enough : Nat) {ref : TypeRef} {options : NameOptions} {text : String}
    (levels : Nat) (path : Finset Call)
    (given : atlas.tables.textAlone enough ref options = .ok text)
    (inside : path ⊆ atlas.tables.callsLike options)
    (later : ∀ call ∈ path, ¬atlas.tables.WrittenAlone enough call)
    (room : 8 * atlas.tables.typeCount < levels + path.card) :
    Work.Always (Memory.Faithful atlas) (atlas.tables.renderWithin levels ref options) text := by
  induction enough using Nat.strongRecOn generalizing levels path ref options text with
  | ind enough ih =>
    have new : ⟨ref.id, options⟩ ∉ path := fun listed =>
      later _ listed (writtenAlone_iff.2 ⟨text, given⟩)
    obtain ⟨last, less, first, early⟩ := exists_first_text legible given
    have is : atlas.tables.TextIs ref options text :=
      ⟨enough, fun _ above => textAlone_mono legible given above⟩
    obtain ⟨resolved, body, stands, written, rfl⟩ := textAlone_succ_eq_ok.1 first
    obtain ⟨data, known⟩ := typeData_of_renderVariant written
    have below : ref.element.id < atlas.tables.typeCount := lt_of_standIn stands known
    have further : insert ⟨ref.id, options⟩ path ⊆ atlas.tables.callsLike options :=
      Finset.insert_subset (mem_callsLike_iff.2 ⟨below, rfl, rfl⟩) inside
    -- the way has no place for all calls, so there is a level left
    have short := (Finset.card_le_card further).trans (card_callsLike_le atlas.tables options)
    rw [Finset.card_insert_of_notMem new] at short
    obtain ⟨levels, rfl⟩ : ∃ fewer, levels = fewer + 1 :=
      Nat.exists_eq_add_one_of_ne_zero (by omega)
    have parts : ∀ part other, options.Alike other →
        Work.Follows (Memory.Faithful atlas) (Work.lift (atlas.tables.textAlone last part other))
          (Memory.Faithful atlas) fun _ => atlas.tables.renderWithin levels part other := by
      refine fun part other alike => Work.meets_lift ?_
      cases there : atlas.tables.textAlone last part other with
      | error fault => trivial
      | ok inner =>
        refine Work.eventually_of_always (ih last less levels (insert ⟨ref.id, options⟩ path) there
          (callsLike_eq alike ▸ further) ?_ ?_)
        · refine Finset.forall_mem_insert _ _ _ |>.2 ⟨early, fun call listed soon => ?_⟩
          obtain ⟨text, soon⟩ := soon
          exact later call listed ⟨text, textAlone_mono legible soon (Nat.le_of_lt less)⟩
        · rw [Finset.card_insert_of_notMem new]
          omega
    have outcome := (renderVariant_follows legible options parts resolved.id .empty
      (Memory.faithful_empty atlas)).2
    rw [written] at outcome
    obtain ⟨least, always⟩ := outcome
    rw [renderWithin_eq]
    refine recall_meets (fun other again => again.unique is) ?_
    rw [stands]
    refine (Work.always_lift rfl).bind ((always least (Nat.le_refl _)).bind ?_)
    exact remember_always is

theorem render_always {enough : Nat} {ref : TypeRef} {options : NameOptions} {text : String}
    (given : atlas.tables.textAlone enough ref options = .ok text) :
    Work.Always (Memory.Faithful atlas) (atlas.tables.render ref options) text :=
  renderWithin_always legible enough _ ∅ given (Finset.empty_subset _) (by simp) (by simp)

/-- **A type always has the same text, or none**, whatever is remembered. -/
theorem render_steady (ref : TypeRef) (options : NameOptions) :
    Work.Steady (Memory.Faithful atlas) (atlas.tables.render ref options)
      (atlas.tables.TextIs ref options) := by
  refine Work.steady_of_unique (atlas.tables.TextIs ref options)
    (∃ text, atlas.tables.TextIs ref options text) (fun _ _ => Outcome.Settles.unique)
    (fun _ is => is) fun memory faithful => ?_
  obtain ⟨kept, gives⟩ := renderWithin_is legible (8 * atlas.tables.typeCount + 2) ref options
    memory faithful
  rw [render]
  refine ⟨kept, ?_⟩
  cases given :
      (atlas.tables.renderWithin (8 * atlas.tables.typeCount + 2) ref options memory).1 with
  | ok text =>
    rw [given] at gives
    exact ⟨gives, text, gives⟩
  | error flaw =>
    rintro ⟨text, enough, alone⟩
    have always := render_always legible (alone enough (Nat.le_refl _))
    cases given.symm.trans (always.fst_eq faithful)

end

end Tables

end ClassAtlas

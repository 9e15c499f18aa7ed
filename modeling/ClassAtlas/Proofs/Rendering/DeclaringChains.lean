import ClassAtlas.Proofs.Recall.Reached
import Mathlib.Tactic.IntervalCases

/-!
# Declaring classes that come back

A class is written behind the class that declares it, which is written first.  Where the declaring
classes come back to one of them, no class of the chain ever gets a text, so none is remembered
either (`Memory.Rewrites.forgets_comesBack`).

The renderer notices one kind of cycle, a class that declares itself.  A chain that ends at such a
class is reported with a fault that names it.  On every other chain that comes back the renderer
goes round without end (`render_comesBack`).
-/

set_option autoImplicit false

namespace ClassAtlas

open Relation (ReflTransGen TransGen)

namespace Tables

variable {tables : Tables}

/-- A class is declared in another type. -/
def DeclaredIn (tables : Tables) (id outer : Nat) : Prop :=
  ∃ record declaring, tables.typeData id = .ok (.rawClass record) ∧
    record.declaringClass = some declaring ∧ declaring.id = outer

/-- The chain of declaring classes comes back to a class that is already on it. -/
def ComesBack (tables : Tables) (id : Nat) : Prop :=
  ∃ again, ReflTransGen tables.DeclaredIn id again ∧ TransGen tables.DeclaredIn again again

/-- The chain of declaring classes ends at a class that declares itself. -/
def EndsAt (tables : Tables) (id last : Nat) : Prop :=
  ReflTransGen tables.DeclaredIn id last ∧ tables.DeclaredIn last last

/-! ## Chains -/

section

variable {id outer other last : Nat}

theorem declaredIn_unique (tables : Tables) : Relator.RightUnique tables.DeclaredIn := by
  rintro id outer other ⟨record, declaring, known, declared, rfl⟩ ⟨_, _, again, declared', rfl⟩
  cases known.symm.trans again
  cases declared.symm.trans declared'
  rfl

/-- Every class of a chain that comes back is declared in a class of such a chain. -/
theorem ComesBack.declared (back : tables.ComesBack id) :
    ∃ outer, tables.DeclaredIn id outer ∧ tables.ComesBack outer := by
  obtain ⟨again, way, cycle⟩ := back
  rcases ReflTransGen.cases_head way with rfl | ⟨outer, step, rest⟩
  · obtain ⟨outer, step, rest⟩ := TransGen.head'_iff.1 cycle
    exact ⟨outer, step, id, rest, cycle⟩
  · exact ⟨outer, step, again, rest, cycle⟩

theorem ComesBack.onward (back : tables.ComesBack id) (step : tables.DeclaredIn id outer) :
    tables.ComesBack outer := by
  obtain ⟨other, step', back'⟩ := back.declared
  exact tables.declaredIn_unique step step' ▸ back'

theorem EndsAt.onward (ends : tables.EndsAt id last) (step : tables.DeclaredIn id outer) :
    tables.EndsAt outer last := by
  obtain ⟨way, itself⟩ := ends
  rcases ReflTransGen.cases_head way with rfl | ⟨other, step', rest⟩
  · obtain rfl := tables.declaredIn_unique step itself
    exact ⟨.refl, itself⟩
  · exact tables.declaredIn_unique step step' ▸ ⟨rest, itself⟩

/-- A class that declares itself is the end of its own chain only. -/
theorem EndsAt.eq_of_itself (ends : tables.EndsAt id last) (itself : tables.DeclaredIn id id) :
    last = id := by
  obtain ⟨way, -⟩ := ends
  induction way with
  | refl => rfl
  | tail _ step ih =>
    subst ih
    exact tables.declaredIn_unique step itself

/-- One class of a chain that ends is followed by another one. -/
def Behind (tables : Tables) (last id outer : Nat) : Prop :=
  tables.EndsAt id last ∧ tables.DeclaredIn id outer ∧ id ≠ outer

/-- A chain that ends at a class that declares itself goes through so many classes at most as there
are types. -/
theorem EndsAt.within (ends : tables.EndsAt id last) :
    Descent.Within (tables.Behind last) tables.typeCount id := by
  have below : ∀ {id}, tables.EndsAt id last → id < tables.typeCount := by
    rintro id ⟨way, itself⟩
    rcases ReflTransGen.cases_head way with rfl | ⟨_, step, -⟩
    · obtain ⟨record, declaring, known, -⟩ := itself
      exact typeData_lt known
    · obtain ⟨record, declaring, known, -⟩ := step
      exact typeData_lt known
  have inside : ∀ outer ∈ Finset.range tables.typeCount, ∀ inner,
      tables.Behind last outer inner → inner ∈ Finset.range tables.typeCount :=
    fun outer _ inner step => Finset.mem_range.2 (below (step.1.onward step.2.1))
  have acyclic : ∀ node, ReflTransGen (tables.Behind last) id node →
      ¬TransGen (tables.Behind last) node node := by
    -- a cycle would be carried along the chain, and it would lead on from its end
    intro node _ cycle
    obtain ⟨inner, step, -⟩ := TransGen.head'_iff.1 cycle
    have carried : ∀ {class_}, ReflTransGen tables.DeclaredIn node class_ →
        TransGen (tables.Behind last) class_ class_ := by
      intro class_ way
      induction way with
      | refl => exact cycle
      | tail _ onward ih =>
        obtain ⟨next, step, rest⟩ := TransGen.head'_iff.1 ih
        obtain rfl := tables.declaredIn_unique step.2.1 onward
        exact TransGen.tail' rest step
    obtain ⟨next, onward, -⟩ := TransGen.head'_iff.1 (carried step.1.1)
    exact onward.2.2 (tables.declaredIn_unique step.1.2 onward.2.1)
  have short := Descent.within_of_acyclic inside (Finset.mem_range.2 (below ends)) acyclic
  rwa [Finset.card_range] at short

end

/-! ## One class -/

section

variable {render : Renderer} {id : Nat} {record : ClassRecord} {declaring : TypeRef}
  {options : NameOptions} (known : tables.typeData id = .ok (.rawClass record))
  (declared : record.declaringClass = some declaring)
  (outside : options.definingParameterized = false)

include known declared outside

theorem renderVariant_selfDeclared (same : declaring.id = id) :
    tables.renderVariant render id options = throw (.decode (.selfDeclared id)) := by
  rw [renderVariant, known]
  show tables.renderClass render id record options = _
  simp only [renderClass, declared, outside, same, BEq.rfl, if_true, Bool.false_eq_true, if_false]

theorem renderVariant_declared (other : declaring.id ≠ id) :
    tables.renderVariant render id options = (do
      let outer ← render declaring options
      let name ← tables.rawClassName record false
      return s!"{outer}${name}") := by
  have differs : (declaring.id == id) = false := beq_eq_false_iff_ne.2 other
  rw [renderVariant, known]
  show tables.renderClass render id record options = _
  simp only [renderClass, declared, outside, differs, Bool.false_eq_true, if_false]

end

end Tables

/-! ## What is remembered -/

/-- **No text is remembered for a class whose declaring classes come back.**  Its text would begin
with the remembered text of the next class, which is shorter, and so on round the cycle. -/
theorem Memory.Rewrites.forgets_comesBack {tables : Tables} {good : MapMemory → Prop}
    {memory : Memory} (rewrites : memory.Rewrites tables good) {ref : TypeRef}
    (back : tables.ComesBack ref.id) {options : NameOptions}
    (outside : options.definingParameterized = false) : memory.texts[(ref, options)]? = none := by
  have never : ∀ (length : Nat) (ref : TypeRef) (text : String), tables.ComesBack ref.id →
      text.length = length → memory.texts[(ref, options)]? ≠ some text := by
    intro length
    induction length using Nat.strongRecOn with
    | ind length ih =>
      intro ref text back size found
      obtain ⟨_, ⟨record, declaring, known, declared, rfl⟩, further⟩ := back.declared
      obtain ⟨resolved, body, stands, rfl, again⟩ := rewrites.texts ref options text found
      cases (Tables.standIn_rawClass known options).symm.trans stands
      obtain ⟨_, written, -⟩ := again 0 memory (.refl memory)
      have known : tables.typeData ref.element.id = .ok (.rawClass record) := known
      by_cases same : declaring.id = ref.element.id
      · rw [Tables.renderVariant_selfDeclared known declared outside same] at written
        cases written
      · rw [Tables.renderVariant_declared known declared outside same] at written
        obtain ⟨outer, between, first, written⟩ := Work.bind_eq_ok.1 written
        obtain ⟨name, after, -, written⟩ := Work.bind_eq_ok.1 written
        cases written
        have remembered : memory.texts[(declaring, options)]? = some outer := by
          have step := tables.renderWithin_step 0 declaring options memory
          rw [first] at step
          cases step with
          | known found => exact found
        refine ih outer.length ?_ declaring outer further rfl remembered
        have longer :
            (outer ++ "$" ++ name ++ arraySuffix (ref.element.deepen ref.depth).depth).length
            = length := size
        simp only [String.length_append] at longer
        have mark : "$".length = 1 := rfl
        omega
  cases found : memory.texts[(ref, options)]? with
  | none => rfl
  | some text => exact absurd found (never text.length ref text back rfl)

namespace Tables

variable {tables : Tables} {good : MapMemory → Prop} {memory : Memory}
  (rewrites : memory.Rewrites tables good) {options : NameOptions}
  (outside : options.definingParameterized = false)

include rewrites outside

/-! ## Going along the chain -/

/-- Without levels left the renderer gives up at every class of a chain that comes back. -/
theorem renderWithin_zero_comesBack {ref : TypeRef} (back : tables.ComesBack ref.id) :
    tables.renderWithin 0 ref options memory = (.error (.endless ref.id), memory) := by
  have step := tables.renderWithin_step 0 ref options memory
  generalize tables.renderWithin 0 ref options memory = outcome at step ⊢
  cases step with
  | known found => cases found.symm.trans (rewrites.forgets_comesBack back outside)
  | endless new => rfl

/-- One class of the chain: a class that declares itself is reported, and for any other one the
class that it is declared in decides. -/
theorem renderWithin_succ_comesBack {levels : Nat} {ref declaring : TypeRef} {record : ClassRecord}
    {fault : Fault} (back : tables.ComesBack ref.id)
    (known : tables.typeData ref.id = .ok (.rawClass record))
    (declared : record.declaringClass = some declaring)
    (fails : if declaring.id = ref.id then fault = .decode (.selfDeclared ref.id)
      else tables.renderWithin levels declaring options memory = (.error fault, memory)) :
    tables.renderWithin (levels + 1) ref options memory = (.error fault, memory) := by
  have written : tables.renderVariant (tables.renderWithin levels) ref.id options memory =
      (.error fault, memory) := by
    split at fails
    · next same =>
      rw [renderVariant_selfDeclared known declared outside same, fails]
      rfl
    · next other =>
      rw [renderVariant_declared known declared outside other]
      exact Work.bind_of_error fails
  have step := tables.renderWithin_step (levels + 1) ref options memory
  generalize tables.renderWithin (levels + 1) ref options memory = outcome at step ⊢
  have itself := standIn_rawClass known options
  cases step with
  | known found => cases found.symm.trans (rewrites.forgets_comesBack back outside)
  | lost new stands => cases itself.symm.trans stands
  | failed new stands body =>
    cases itself.symm.trans stands
    cases written.symm.trans body
    rfl
  | written new stands body =>
    cases itself.symm.trans stands
    cases written.symm.trans body

/-- Along a chain without a class that declares itself the levels are used up. -/
theorem renderWithin_endless (levels : Nat) {ref : TypeRef} (back : tables.ComesBack ref.id)
    (round : ∀ last, ¬tables.EndsAt ref.id last) :
    ∃ id, tables.renderWithin levels ref options memory = (.error (.endless id), memory) := by
  induction levels generalizing ref with
  | zero => exact ⟨ref.id, renderWithin_zero_comesBack rewrites outside back⟩
  | succ levels ih =>
    obtain ⟨_, step, further⟩ := back.declared
    obtain ⟨record, declaring, known, declared, rfl⟩ := step
    have step : tables.DeclaredIn ref.id declaring.id := ⟨record, declaring, known, declared, rfl⟩
    obtain ⟨id, fails⟩ := ih further fun last ends =>
      round last ⟨.head step ends.1, ends.2⟩
    have other : declaring.id ≠ ref.id := fun same => round ref.id ⟨.refl, same ▸ step⟩
    exact ⟨id, renderWithin_succ_comesBack rewrites outside back known declared
      (by rwa [if_neg other])⟩

/-- With enough levels the class at the end of the chain is reported. -/
theorem renderWithin_selfDeclared {last levels : Nat} {ref : TypeRef}
    (ends : tables.EndsAt ref.id last)
    (enough : Descent.Within (tables.Behind last) levels ref.id) :
    tables.renderWithin levels ref options memory =
      (.error (.decode (.selfDeclared last)), memory) := by
  induction levels generalizing ref with
  | zero => cases enough
  | succ levels ih =>
    have back : tables.ComesBack ref.id := ⟨last, ends.1, .single ends.2⟩
    obtain ⟨_, step, -⟩ := back.declared
    obtain ⟨record, declaring, known, declared, rfl⟩ := step
    have step : tables.DeclaredIn ref.id declaring.id := ⟨record, declaring, known, declared, rfl⟩
    refine renderWithin_succ_comesBack rewrites outside back known declared ?_
    split
    · next same => rw [ends.eq_of_itself (same ▸ step)]
    · next other =>
      exact ih (ends.onward step) (enough declaring.id ⟨ends, step, Ne.symm other⟩)

end Tables

/-- **A class whose declaring classes come back has no text, and only a class that declares itself
is reported.**  Whatever was asked before, under options that write enclosing classes, rendering
such a class ends in a fault and leaves the memory as it was.  If the chain of its declaring classes
ends at a class that declares itself, the fault names that class.  On every other chain that comes
back rendering does not end. -/
theorem Memory.Reached.render_comesBack {atlas : Atlas} {memory : Memory}
    (reached : memory.Reached atlas) {ref : TypeRef} {options : NameOptions}
    (outside : options.definingParameterized = false) (back : atlas.tables.ComesBack ref.id) :
    ∃ fault, atlas.tables.render ref options memory = (.error fault, memory) ∧
      (fault.Final ↔ ∃ last, atlas.tables.EndsAt ref.id last) ∧
      ∀ last, atlas.tables.EndsAt ref.id last → fault = .decode (.selfDeclared last) := by
  by_cases some : ∃ last, atlas.tables.EndsAt ref.id last
  · obtain ⟨last, ends⟩ := some
    have reports : ∀ last, atlas.tables.EndsAt ref.id last →
        atlas.tables.render ref options memory = (.error (.decode (.selfDeclared last)), memory) :=
      fun last ends => Tables.renderWithin_selfDeclared reached.rewrites outside ends
        (ends.within.mono (by omega))
    refine ⟨_, reports last ends, iff_of_true (fun id same => by cases same) ⟨last, ends⟩, ?_⟩
    intro other ends'
    cases (reports last ends).symm.trans (reports other ends')
    rfl
  · have round : ∀ last, ¬atlas.tables.EndsAt ref.id last := fun last ends => some ⟨last, ends⟩
    obtain ⟨id, endless⟩ := Tables.renderWithin_endless reached.rewrites outside _ back round
    exact ⟨_, endless, iff_of_false (fun final => final id rfl) some,
      fun last ends => absurd ends (round last)⟩

/-! ### Classes that declare themselves and each other -/

/-- A class that declares itself (0), a class declared in it (1), and two classes that are declared
in each other (2 and 3). -/
def Snapshot.declaringCycles : Snapshot :=
  { empty with
    types := [
      .object [("n", .nat 0), ("D", .nat 0)],
      .object [("n", .nat 1), ("D", .nat 0)],
      .object [("n", .nat 0), ("D", .nat 3)],
      .object [("n", .nat 1), ("D", .nat 2)]]
    names := [.text "A", .text "B"] }

/-- The snapshot `declaringCycles` with the usual settings. -/
def Atlas.declaringCycles : Atlas :=
  ⟨.ofSnapshot .declaringCycles, .default⟩

namespace Tables

theorem declaringCycles_named : Atlas.declaringCycles.tables.Named where
  typeVariables := by
    intro id record known
    have inside : id < 4 := typeData_lt known
    interval_cases id <;> cases known
  classes := by
    intro id record known
    have inside : id < 4 := typeData_lt known
    interval_cases id <;> cases known <;> exact ⟨_, resolveName_text rfl chainLimit⟩
  packages := by
    intro id record known package written
    have inside : id < 4 := typeData_lt known
    interval_cases id <;> cases known <;> cases written

/-- Where the classes are declared. -/
theorem declaringCycles_declaredIn {id outer : Nat} :
    Atlas.declaringCycles.tables.DeclaredIn id outer ↔
      (id, outer) ∈ [(0, 0), (1, 0), (2, 3), (3, 2)] := by
  constructor
  · rintro ⟨record, declaring, known, declared, rfl⟩
    have inside : id < 4 := typeData_lt known
    interval_cases id <;> cases known <;> cases declared <;> decide
  · intro listed
    simp only [List.mem_cons, Prod.mk.injEq, List.not_mem_nil, or_false] at listed
    rcases listed with ⟨rfl, rfl⟩ | ⟨rfl, rfl⟩ | ⟨rfl, rfl⟩ | ⟨rfl, rfl⟩ <;>
      exact ⟨_, _, rfl, rfl, rfl⟩

/-- The two classes that are declared in each other. -/
theorem declaringCycles_comesBack : Atlas.declaringCycles.tables.ComesBack 2 :=
  ⟨2, .refl, .tail (.single (declaringCycles_declaredIn.2 (by decide)))
    (declaringCycles_declaredIn.2 (by decide : (3, 2) ∈ _))⟩

/-- No class that declares itself is reached from them. -/
theorem declaringCycles_not_endsAt (last : Nat) : ¬Atlas.declaringCycles.tables.EndsAt 2 last := by
  rintro ⟨way, itself⟩
  have round : last = 2 ∨ last = 3 := by
    clear itself
    induction way with
    | refl => exact .inl rfl
    | tail _ step ih =>
      have listed := declaringCycles_declaredIn.1 step
      rcases ih with rfl | rfl
      · exact .inr (by simpa using listed)
      · exact .inl (by simpa using listed)
  have listed := declaringCycles_declaredIn.1 itself
  rcases round with rfl | rfl <;> simp at listed

/-- **Classes that are declared in each other are written without end.** -/
theorem declaringCycles_endless :
    Atlas.declaringCycles.tables.Named ∧ Atlas.declaringCycles.tables.ComesBack 2 ∧
      ¬Outcome.Ends (Atlas.declaringCycles.tables.render (.plain 2) .qualified .empty).1 := by
  refine ⟨declaringCycles_named, declaringCycles_comesBack, fun ends => ?_⟩
  have reached : Memory.empty.Reached Atlas.declaringCycles := .start
  have outside : NameOptions.qualified.definingParameterized = false := rfl
  have back : Atlas.declaringCycles.tables.ComesBack (TypeRef.plain 2).id :=
    declaringCycles_comesBack
  obtain ⟨id, endless⟩ := renderWithin_endless reached.rewrites outside
    (8 * Atlas.declaringCycles.tables.typeCount + 2) back declaringCycles_not_endsAt
  exact ends id (congrArg Prod.fst endless)

end Tables

/-- The class behind the one that declares itself is reported under its name, the two others are
not. -/
theorem Memory.Reached.render_comesBack_declaringCycles :
    let tables := Atlas.declaringCycles.tables
    tables.render (.plain 1) .qualified .empty = (.error (.decode (.selfDeclared 0)), .empty) ∧
      ∃ fault, tables.render (.plain 2) .qualified .empty = (.error fault, .empty) ∧
        ¬fault.Final := by
  intro tables
  have declared : ∀ {id outer}, (id, outer) ∈ [(0, 0), (1, 0), (2, 3), (3, 2)] →
      tables.DeclaredIn id outer := Tables.declaringCycles_declaredIn.2
  have reached : Memory.empty.Reached Atlas.declaringCycles := .start
  have outside : NameOptions.qualified.definingParameterized = false := rfl
  have ends : tables.EndsAt (TypeRef.plain 1).id 0 :=
    ⟨.single (declared (by decide)), declared (by decide)⟩
  have back : tables.ComesBack (TypeRef.plain 1).id := ⟨0, ends.1, .single ends.2⟩
  have back' : tables.ComesBack (TypeRef.plain 2).id := Tables.declaringCycles_comesBack
  obtain ⟨fault, given, -, named⟩ := reached.render_comesBack outside back
  obtain ⟨fault', given', final, -⟩ := reached.render_comesBack outside back'
  refine ⟨named 0 ends ▸ given, fault', given', fun ends => ?_⟩
  obtain ⟨last, ends⟩ := final.1 ends
  exact Tables.declaringCycles_not_endsAt last ends

end ClassAtlas

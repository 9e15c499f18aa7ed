import ClassAtlas.Proofs.Search.Expressions
import Mathlib.Data.List.Forall2
import Mathlib.Data.Option.Basic

/-!
# Opposite filters

A term that compares texts or ids can be asked for or asked against.  The two filters give opposite
answers and ask the same questions in the same order, so they also meet the same faults and learn
the same (`filters_opposite`).

The opposition is stated once for single tests, where a missing or empty value passes exactly one of
the two, and carried over to several alternatives: one of them must hold a wanted text, none of them
may hold an unwanted one.  So a subject without any of the texts is never what is asked for
(`Filter.Wants.not_blank`).
-/

set_option autoImplicit false

namespace ClassAtlas

theorem TextMatcher.accepts_opposite (query : String) (exact caseSensitive : Bool)
    (value : Option String) :
    (TextMatcher.ofQuery query ⟨false, exact, caseSensitive⟩).accepts value =
      !(TextMatcher.ofQuery query ⟨true, exact, caseSensitive⟩).accepts value := by
  cases value with
  | none => rfl
  | some value =>
    have same : (TextMatcher.ofQuery query ⟨false, exact, caseSensitive⟩).hits value =
        (TextMatcher.ofQuery query ⟨true, exact, caseSensitive⟩).hits value := rfl
    rw [accepts, accepts, same]
    split
    · rfl
    · cases (TextMatcher.ofQuery query ⟨true, exact, caseSensitive⟩).hits value <;> rfl

namespace Filter

/-- Filters that ask for something: wanted texts, wanted ids, or one of several such. -/
inductive Wants : Filter → Prop where
  | text (aspect : Attribute) (query : String) (exact caseSensitive : Bool) :
    Wants (text aspect query ⟨true, exact, caseSensitive⟩)
  | id (id : Nat) : Wants (.leaf (.id id true))
  | any {filters : List Filter} (each : ∀ filter ∈ filters, Wants filter) : Wants (.any filters)

/-- A filter that asks for something and one that asks against it.  The second one answers what the
negation of the first one answers, with the same questions. -/
structure Opposite (wanted unwanted : Filter) : Prop where
  wants : wanted.Wants
  answers : ∀ (atlas : Atlas) (subject : Subject),
    evaluate atlas subject unwanted = evaluate atlas subject (.not wanted)

variable {atlas : Atlas} {subject : Subject}

theorem opposite_text (aspect : Attribute) (query : String) (exact caseSensitive : Bool) :
    Opposite (text aspect query ⟨true, exact, caseSensitive⟩)
      (text aspect query ⟨false, exact, caseSensitive⟩) := by
  refine ⟨.text aspect query exact caseSensitive, fun atlas subject => ?_⟩
  funext memory
  simp only [text, evaluate, Subject.passes, Work.bind_apply]
  rcases subject.attributeText atlas aspect memory with ⟨fault | value, after⟩
  · rfl
  · simp only [TextMatcher.accepts_opposite, Work.pure_apply]

theorem opposite_id (id : Nat) : Opposite (.leaf (.id id true)) (.leaf (.id id false)) := by
  refine ⟨.id id, fun atlas subject => ?_⟩
  funext memory
  simp only [evaluate, Subject.passes, Work.bind_apply, Work.lift_apply]
  cases subject.typeView atlas.tables with
  | error fault => rfl
  | ok view =>
    simp only [Work.pure_apply]
    cases view.ref.id == id <;> rfl

/-- **None of several filters holds exactly when all of their opposites do.** -/
theorem evaluateAll_opposites {wanted unwanted : List Filter}
    (each : List.Forall₂ Opposite wanted unwanted) :
    evaluateAll atlas subject unwanted = evaluate atlas subject (.not (.any wanted)) := by
  induction each with
  | nil => rfl
  | @cons first second wanted unwanted here _ ih =>
    funext memory
    simp only [evaluateAll, evaluate, evaluateAny, here.answers, Work.bind_apply] at ih ⊢
    rcases evaluate atlas subject first memory with ⟨fault | answer, after⟩
    · rfl
    · cases answer with
      | true => rfl
      | false => simp only [Work.pure_apply, Bool.not_false, if_true, ih, Work.bind_apply,
          Bool.false_eq_true, if_false]

theorem wants_of_opposites {wanted unwanted : List Filter}
    (each : List.Forall₂ Opposite wanted unwanted) : ∀ filter ∈ wanted, filter.Wants := by
  induction each with
  | nil => exact fun _ listed => absurd listed List.not_mem_nil
  | cons here _ ih => exact List.forall_mem_cons.2 ⟨here.wants, ih⟩

/-- Several places where a text may stand, asked for and asked against. -/
theorem opposite_alternatives {wanted unwanted : List Filter} (exact caseSensitive : Bool)
    (each : List.Forall₂ Opposite wanted unwanted) :
    Opposite (alternatives wanted ⟨true, exact, caseSensitive⟩)
      (alternatives unwanted ⟨false, exact, caseSensitive⟩) := by
  match wanted, unwanted, each with
  | [_], [_], .cons only .nil => exact only
  | [], [], .nil => exact ⟨.any (wants_of_opposites .nil), fun _ _ => evaluateAll_opposites .nil⟩
  | _ :: _ :: _, _ :: _ :: _, several =>
    exact ⟨.any (wants_of_opposites several), fun _ _ => evaluateAll_opposites several⟩

end Filter

/-! ## Terms -/

namespace Term

open ClassAtlas.Filter (Opposite)

/-- Whether a term compares texts or ids, so that it can be asked against. -/
def compares : Term → Bool
  | .parameterCount => false
  | .ignore _ => false
  | .variant .. => false
  | _ => true

example : (table.filter fun entry => !entry.2.compares).map Prod.fst =
    ["parameter-count", "ignore-classes", "ignore-fields", "ignore-methods", "ignore-parameters",
      "raw-class-only", "non-raw-class-only", "type-variable-only", "non-type-variable-only",
      "wildcard-only", "non-wildcard-only"] := by
  decide

variable (value : String) (exact caseSensitive : Bool)

theorem opposite_typeTest (aspect : TypeAttribute) :
    Opposite (typeTest aspect value ⟨true, exact, caseSensitive⟩)
      (typeTest aspect value ⟨false, exact, caseSensitive⟩) :=
  Filter.opposite_text _ _ _ _

theorem opposite_nameTest :
    Opposite (nameTest value ⟨true, exact, caseSensitive⟩)
      (nameTest value ⟨false, exact, caseSensitive⟩) :=
  Filter.opposite_text _ _ _ _

theorem opposite_anywhere (kind : SearchKind) :
    Opposite (anywhere value ⟨true, exact, caseSensitive⟩ kind)
      (anywhere value ⟨false, exact, caseSensitive⟩ kind) := by
  refine Filter.opposite_alternatives exact caseSensitive (.cons ?_ (.cons ?_ (.cons ?_
    (.cons ?_ .nil))))
  · exact opposite_typeTest value exact caseSensitive _
  · split
    · exact opposite_typeTest value exact caseSensitive _
    · exact opposite_nameTest value exact caseSensitive
  · exact opposite_typeTest value exact caseSensitive _
  · exact opposite_typeTest value exact caseSensitive _

theorem opposite_ownOrType (aspect : TypeAttribute) :
    Opposite (ownOrType aspect value ⟨true, exact, caseSensitive⟩)
      (ownOrType aspect value ⟨false, exact, caseSensitive⟩) :=
  Filter.opposite_alternatives exact caseSensitive
    (.cons (opposite_nameTest value exact caseSensitive)
      (.cons (opposite_typeTest value exact caseSensitive aspect) .nil))

variable {wanted unwanted : SearchKind → Filter}

theorem rel_every (each : ∀ kind, Opposite (wanted kind) (unwanted kind)) (kind : SearchKind) :
    Option.Rel Opposite ((KindFilters.every wanted).get kind)
      ((KindFilters.every unwanted).get kind) := by
  cases kind <;> exact .some (each _)

theorem rel_only {scope : SearchKind} {wanted unwanted : Filter} (only : Opposite wanted unwanted)
    (kind : SearchKind) :
    Option.Rel Opposite ((KindFilters.only scope wanted).get kind)
      ((KindFilters.only scope unwanted).get kind) := by
  cases kind <;> cases scope <;> first | exact .some only | exact .none

theorem rel_inScope (scope : Option SearchKind)
    (each : ∀ kind, Opposite (wanted kind) (unwanted kind)) (kind : SearchKind) :
    Option.Rel Opposite ((inScope scope wanted).get kind) ((inScope scope unwanted).get kind) := by
  cases scope with
  | none => exact rel_every each kind
  | some scope => exact rel_only (each scope) kind

/-- **Asked for and asked against, a term speaks of the same kinds, with opposite filters.** -/
theorem filters_opposite {term : Term} (comparing : term.compares = true) :
    ∃ wanted unwanted, term.filters value ⟨true, exact, caseSensitive⟩ = .ok wanted ∧
      term.filters value ⟨false, exact, caseSensitive⟩ = .ok unwanted ∧
      ∀ kind, Option.Rel Opposite (wanted.get kind) (unwanted.get kind) := by
  cases term with
  | any scope =>
    exact ⟨_, _, rfl, rfl, rel_inScope scope (opposite_anywhere value exact caseSensitive)⟩
  | classId =>
    refine ⟨_, _, rfl, rfl, rel_only ?_⟩
    split
    · exact Filter.opposite_id _
    · exact opposite_typeTest value exact caseSensitive _
  | name =>
    refine ⟨_, _, rfl, rfl, rel_every fun kind => ?_⟩
    split
    · exact opposite_typeTest value exact caseSensitive _
    · exact opposite_ownOrType value exact caseSensitive _
  | simpleName =>
    refine ⟨_, _, rfl, rfl, rel_every fun kind => ?_⟩
    split
    · exact opposite_typeTest value exact caseSensitive _
    · exact opposite_ownOrType value exact caseSensitive _
  | memberName kind =>
    exact ⟨_, _, rfl, rfl, rel_only (opposite_nameTest value exact caseSensitive)⟩
  | typeText aspect scope =>
    exact ⟨_, _, rfl, rfl,
      rel_inScope scope fun _ => opposite_typeTest value exact caseSensitive aspect⟩
  | parameterCount | ignore | variant => cases comparing

end Term

/-! ## Missing texts -/

/-- All that some tests ask of a subject are texts, and these are missing or empty. -/
def Subject.Blank (subject : Subject) (atlas : Atlas) (tests : List Predicate) (memory : Memory) :
    Prop :=
  ∀ test ∈ tests, ∃ aspect matcher text, test = .text aspect matcher ∧
    (subject.attributeText atlas aspect memory).1 = .ok text ∧ text.getD "" = ""

theorem Subject.Blank.mono {subject : Subject} {atlas : Atlas} {tests fewer : List Predicate}
    {memory : Memory} (blank : subject.Blank atlas tests memory) (among : fewer ⊆ tests) :
    subject.Blank atlas fewer memory :=
  fun test listed => blank test (among listed)

/-- A wanted text is not found where there is none. -/
theorem TextMatcher.accepts_blank {query : String} {exact caseSensitive : Bool}
    {text : Option String} (blank : text.getD "" = "") :
    (ofQuery query ⟨true, exact, caseSensitive⟩).accepts text = false := by
  cases text with
  | none => rfl
  | some text =>
    rw [Option.getD_some] at blank
    rw [blank]
    rfl

/-- **What a filter asks for is not found where all texts are missing.**  The test that the subject
passed gives the same answer from then on. -/
theorem Filter.Wants.not_blank {atlas : Atlas} {subject : Subject} {filter : Filter}
    (wants : filter.Wants) {before after later : Memory}
    (passed : filter.evaluate atlas subject before = (.ok true, after))
    (known : after.Within later) : ¬subject.Blank atlas filter.tests later := by
  induction wants generalizing before after with
  | text aspect query exact caseSensitive =>
    intro blank
    obtain ⟨text, between, given, same⟩ := Work.bind_eq_ok.1 passed
    obtain ⟨accepted, rfl⟩ := Prod.mk.inj same
    obtain ⟨_, _, _, asked, regiven, empty⟩ := blank _ List.mem_cons_self
    cases asked
    have again := (subject.attributeText_recalls aspect).again (by rw [given]) (by rwa [given])
    cases again.symm.trans regiven
    rw [TextMatcher.accepts_blank empty] at accepted
    cases accepted
  | id id =>
    intro blank
    obtain ⟨_, _, _, same, _⟩ := blank _ List.mem_cons_self
    cases same
  | @any filters each ih =>
    have several : ∀ {before}, evaluateAny atlas subject filters before = (.ok true, after) →
        ¬subject.Blank atlas (testsOf filters) later := by
      clear passed each
      induction filters with
      | nil => exact fun run => nomatch run
      | cons filter rest ihRest =>
        intro before run blank
        obtain ⟨here, there⟩ := List.forall_mem_cons.1 ih
        obtain ⟨answer, between, asked, run⟩ := Work.bind_eq_ok.1 run
        cases answer with
        | true =>
          cases run
          exact here asked known (blank.mono (List.subset_append_left _ _))
        | false => exact ihRest there run (blank.mono (List.subset_append_right _ _))
    exact several passed

end ClassAtlas

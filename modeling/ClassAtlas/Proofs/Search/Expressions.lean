import ClassAtlas.Proofs.Recall.Search
import ClassAtlas.Search.Terms

/-!
# What structured searches mean

A structured search is compiled kind by kind.  Its meaning for a kind is a boolean reading
(`QueryExpr.reading`): a term is what its own filter says, a conjunction or disjunction is that of
the parts that speak of the kind, and a negation is a negation.

The compiled filter has an answer when its tests have answers, in whatever order they are asked
(`Filter.evaluate_answers`).  What was asked on the way is recalled, so the answer is the reading of
what the terms say afterwards, including the terms that need not have been asked
(`ofExpr_reading`).
-/

set_option autoImplicit false

namespace ClassAtlas

/-! ## Tests and their answers -/

namespace Filter

mutual
/-- The tests of a filter. -/
def tests : Filter → List Predicate
  | .leaf test => [test]
  | .all filters => testsOf filters
  | .any filters => testsOf filters
  | .not filter => tests filter

/-- The tests of several filters. -/
def testsOf : List Filter → List Predicate
  | [] => []
  | filter :: rest => tests filter ++ testsOf rest
end

end Filter

namespace Subject

variable {subject : Subject} {atlas : Atlas} {tests : List Predicate}
  {before between after : Memory}

/-- The memories that asking a subject some tests leads to, in whatever order they are asked. -/
inductive Asked (subject : Subject) (atlas : Atlas) (tests : List Predicate) (before : Memory) :
    Memory → Prop where
  | start : Asked subject atlas tests before before
  | ask {memory : Memory} {test : Predicate} (earlier : Asked subject atlas tests before memory)
      (listed : test ∈ tests) :
      Asked subject atlas tests before (subject.passes atlas test memory).2

/-- None of the tests fails on the subject, in whatever order they are asked. -/
def Answers (subject : Subject) (atlas : Atlas) (tests : List Predicate) (before : Memory) : Prop :=
  ∀ memory, subject.Asked atlas tests before memory →
    ∀ test ∈ tests, ∃ answer, (subject.passes atlas test memory).1 = .ok answer

theorem Asked.trans (left : subject.Asked atlas tests before between)
    (right : subject.Asked atlas tests between after) :
    subject.Asked atlas tests before after := by
  induction right with
  | start => exact left
  | ask _ listed ih => exact ih.ask listed

theorem Answers.onward (answers : subject.Answers atlas tests before)
    (asked : subject.Asked atlas tests before between) : subject.Answers atlas tests between :=
  fun memory later => answers memory (asked.trans later)

end Subject

namespace Filter

variable {subject : Subject} {atlas : Atlas} {tests : List Predicate} {before : Memory}

/-- A computation that has an answer, and leads where asking the tests leads. -/
def Answered (subject : Subject) (atlas : Atlas) (tests : List Predicate) (step : Work Bool) :
    Prop :=
  ∀ before, subject.Answers atlas tests before →
    (∃ answer, (step before).1 = .ok answer) ∧
      subject.Asked atlas tests before (step before).2

theorem answered_pure (answer : Bool) : Answered subject atlas tests (pure answer) :=
  fun _ _ => ⟨⟨answer, rfl⟩, .start⟩

theorem Answered.bind {first : Work Bool} {next : Bool → Work Bool}
    (here : Answered subject atlas tests first)
    (then_ : ∀ answer, Answered subject atlas tests (next answer)) :
    Answered subject atlas tests (first >>= next) := by
  intro before answers
  obtain ⟨⟨answer, given⟩, asked⟩ := here before answers
  rw [Work.bind_apply]
  rcases run : first before with ⟨fault | value, between⟩
  · rw [run] at given
    cases given
  · rw [run] at asked
    obtain ⟨result, onward⟩ := then_ value between (answers.onward asked)
    exact ⟨result, asked.trans onward⟩

mutual
/-- **A filter has an answer when its tests have answers.** -/
theorem evaluate_answers (filter : Filter) (among : filter.tests ⊆ tests) :
    Answered subject atlas tests (evaluate atlas subject filter) := by
  cases filter with
  | leaf test =>
    intro before answers
    have listed : test ∈ tests := among List.mem_cons_self
    exact ⟨answers before .start test listed, .ask .start listed⟩
  | all filters => exact evaluateAll_answers filters among
  | any filters => exact evaluateAny_answers filters among
  | not filter => exact (evaluate_answers filter among).bind fun answer => answered_pure _

theorem evaluateAll_answers (filters : List Filter) (among : testsOf filters ⊆ tests) :
    Answered subject atlas tests (evaluateAll atlas subject filters) := by
  cases filters with
  | nil => exact answered_pure true
  | cons filter rest =>
    obtain ⟨here, there⟩ := List.append_subset.1 among
    refine (evaluate_answers filter here).bind fun answer => ?_
    split
    · exact evaluateAll_answers rest there
    · exact answered_pure false

theorem evaluateAny_answers (filters : List Filter) (among : testsOf filters ⊆ tests) :
    Answered subject atlas tests (evaluateAny atlas subject filters) := by
  cases filters with
  | nil => exact answered_pure false
  | cons filter rest =>
    obtain ⟨here, there⟩ := List.append_subset.1 among
    refine (evaluate_answers filter here).bind fun answer => ?_
    split
    · exact answered_pure true
    · exact evaluateAny_answers rest there
end

end Filter

/-! ## Filters kind by kind -/

namespace KindFilters

variable {kind : SearchKind}

@[simp] theorem get_ofFun (filter : SearchKind → Option Filter) :
    (ofFun filter).get kind = filter kind := by
  cases kind <;> rfl

@[simp] theorem get_combine (parts : List KindFilters) (combine : List Filter → Filter) :
    (KindFilters.combine parts combine).get kind = join combine (parts.filterMap (·.get kind)) :=
  get_ofFun _

@[simp] theorem get_negate (filters : KindFilters) :
    filters.negate.get kind = (filters.get kind).map .not :=
  get_ofFun _

theorem get_push_empty (filters : KindFilters) :
    (SearchQuery.empty.push filters).get kind = (filters.get kind).toList := by
  cases kind <;> rfl

/-- Joined filters are none when there are none to join, the only one when there is one, and their
combination otherwise. -/
theorem join_cases (combine : List Filter → Filter) (filters : List Filter) :
    (filters = [] ∧ join combine filters = none) ∨
      (∃ only, filters = [only] ∧ join combine filters = some only) ∨
      (filters ≠ [] ∧ join combine filters = some (combine filters)) := by
  match filters with
  | [] => exact .inl ⟨rfl, rfl⟩
  | [only] => exact .inr (.inl ⟨only, rfl, rfl⟩)
  | first :: second :: rest => exact .inr (.inr ⟨List.cons_ne_nil _ _, rfl⟩)

theorem isSome_join (combine : List Filter → Filter) (filters : List Filter) :
    (join combine filters).isSome = !filters.isEmpty := by
  match filters with
  | [] => rfl
  | [only] => rfl
  | first :: second :: rest => rfl

end KindFilters

/-! ## The reading of an expression -/

/-- The filter of a term for a kind, if its key is known and it speaks of the kind. -/
def Term.own (options : MatchOptions) (kind : SearchKind) (term : String × String) :
    Option Filter :=
  match Term.expand term.1 term.2 options with
  | .ok (some filters) => filters.get kind
  | _ => none

namespace QueryExpr

/-- Expressions are put together from terms. -/
@[induction_eliminator]
theorem induct {motive : QueryExpr → Prop}
    (and : ∀ parts, (∀ part ∈ parts, motive part) → motive (.and parts))
    (or : ∀ parts, (∀ part ∈ parts, motive part) → motive (.or parts))
    (not : ∀ part, motive part → motive (.not part))
    (term : ∀ key value, motive (.term key value)) (expr : QueryExpr) : motive expr := by
  refine @QueryExpr.rec motive (fun parts => ∀ part ∈ parts, motive part) and or not term ?_ ?_ expr
  · exact fun part listed => absurd listed List.not_mem_nil
  · exact fun part rest here there => List.forall_mem_cons.2 ⟨here, there⟩

mutual
/-- The terms of an expression. -/
def terms : QueryExpr → List (String × String)
  | .and parts => termsOf parts
  | .or parts => termsOf parts
  | .not part => terms part
  | .term key value => [(key, value)]

/-- The terms of several expressions. -/
def termsOf : List QueryExpr → List (String × String)
  | [] => []
  | part :: rest => terms part ++ termsOf rest
end

/-- Whether some term of the expression speaks of a kind. -/
def speaksOf (options : MatchOptions) (kind : SearchKind) (expr : QueryExpr) : Bool :=
  expr.terms.any fun term => (Term.own options kind term).isSome

mutual
/-- The boolean reading of an expression for a kind, when it is known which filters hold. -/
def reading (options : MatchOptions) (kind : SearchKind) (holds : Filter → Bool) : QueryExpr → Bool
  | .and parts => readingAll options kind holds parts
  | .or parts => readingAny options kind holds parts
  | .not part => !reading options kind holds part
  | .term key value => (Term.own options kind (key, value)).any holds

/-- Whether all parts that speak of the kind hold. -/
def readingAll (options : MatchOptions) (kind : SearchKind) (holds : Filter → Bool) :
    List QueryExpr → Bool
  | [] => true
  | part :: rest =>
    (!part.speaksOf options kind || reading options kind holds part) &&
      readingAll options kind holds rest

/-- Whether some part that speaks of the kind holds. -/
def readingAny (options : MatchOptions) (kind : SearchKind) (holds : Filter → Bool) :
    List QueryExpr → Bool
  | [] => false
  | part :: rest =>
    (part.speaksOf options kind && reading options kind holds part) ||
      readingAny options kind holds rest
end

theorem mem_termsOf_iff {parts : List QueryExpr} {term : String × String} :
    term ∈ termsOf parts ↔ ∃ part ∈ parts, term ∈ part.terms := by
  induction parts with
  | nil => simp [termsOf]
  | cons part rest ih => simp [termsOf, ih]

theorem any_termsOf (parts : List QueryExpr) (test : String × String → Bool) :
    (termsOf parts).any test = parts.any fun part => part.terms.any test := by
  induction parts with
  | nil => rfl
  | cons part rest ih => rw [termsOf, List.any_append, ih, List.any_cons]

end QueryExpr

/-! ## Compiling -/

namespace SearchQuery

open QueryExpr

variable {options : MatchOptions} {kind : SearchKind}

/-- Two computations one after the other give a result when both do. -/
theorem bind_eq_ok {α β : Type} {first : Except QueryFlaw α} {next : α → Except QueryFlaw β}
    {result : β} :
    (first >>= next) = .ok result ↔ ∃ value, first = .ok value ∧ next value = .ok result := by
  cases first with
  | error flaw =>
    constructor
    · intro run
      cases run
    · rintro ⟨_, run, _⟩
      cases run
  | ok value =>
    constructor
    · intro run
      exact ⟨value, rfl, run⟩
    · rintro ⟨_, here, run⟩
      cases here
      exact run

theorem compileList_eq_ok {parts : List QueryExpr} {compiled : List KindFilters} :
    compileList options parts = .ok compiled ↔
      List.Forall₂ (fun part filters => compile options part = .ok filters) parts compiled := by
  induction parts generalizing compiled with
  | nil => rw [compileList, List.forall₂_nil_left_iff, Except.ok.injEq, eq_comm]
  | cons part rest ih =>
    rw [compileList, bind_eq_ok, List.forall₂_cons_left_iff]
    refine exists_congr fun filters => ?_
    rw [bind_eq_ok]
    constructor
    · rintro ⟨first, others, there, same⟩
      cases same
      exact ⟨others, first, ih.1 there, rfl⟩
    · rintro ⟨others, first, there, rfl⟩
      exact ⟨first, others, ih.2 there, rfl⟩

/-- How an expression is compiled. -/
inductive Compiles (options : MatchOptions) : QueryExpr → KindFilters → Prop where
  | term {key value : String} {filters : KindFilters}
      (known : Term.expand key value options = .ok (some filters)) :
      Compiles options (.term key value) filters
  | and {parts : List QueryExpr} {compiled : List KindFilters}
      (each :
        List.Forall₂ (fun part filters => compile options part = .ok filters) parts compiled) :
      Compiles options (.and parts) (.combine compiled .all)
  | or {parts : List QueryExpr} {compiled : List KindFilters}
      (each :
        List.Forall₂ (fun part filters => compile options part = .ok filters) parts compiled) :
      Compiles options (.or parts) (.combine compiled .any)
  | not {part : QueryExpr} {filters : KindFilters} (run : compile options part = .ok filters) :
      Compiles options (.not part) filters.negate

theorem compile_eq_ok {expr : QueryExpr} {filters : KindFilters} :
    compile options expr = .ok filters ↔ Compiles options expr filters := by
  constructor
  · intro run
    cases expr with
    | term key value =>
      rw [compile] at run
      obtain ⟨found, known, run⟩ := bind_eq_ok.1 run
      cases found with
      | none => cases run
      | some own =>
        obtain rfl := Except.ok.inj run
        exact .term known
    | and parts =>
      rw [compile] at run
      obtain ⟨compiled, each, run⟩ := bind_eq_ok.1 run
      obtain rfl := Except.ok.inj run
      exact .and (compileList_eq_ok.1 each)
    | or parts =>
      rw [compile] at run
      obtain ⟨compiled, each, run⟩ := bind_eq_ok.1 run
      obtain rfl := Except.ok.inj run
      exact .or (compileList_eq_ok.1 each)
    | not part =>
      rw [compile] at run
      obtain ⟨inner, here, run⟩ := bind_eq_ok.1 run
      obtain rfl := Except.ok.inj run
      exact .not here
  · intro compiles
    cases compiles with
    | term known =>
      rw [compile]
      exact bind_eq_ok.2 ⟨_, known, rfl⟩
    | and each =>
      rw [compile]
      exact bind_eq_ok.2 ⟨_, compileList_eq_ok.2 each, rfl⟩
    | or each =>
      rw [compile]
      exact bind_eq_ok.2 ⟨_, compileList_eq_ok.2 each, rfl⟩
    | not here =>
      rw [compile]
      exact bind_eq_ok.2 ⟨_, here, rfl⟩

/-! ### Which kinds a compiled expression speaks of -/

theorem own_of_expand {key value : String} {filters : KindFilters}
    (known : Term.expand key value options = .ok (some filters)) :
    Term.own options kind (key, value) = filters.get kind := by
  simp only [Term.own, known]

/-- What holds of all parts of a list and what they are compiled to. -/
theorem forall₂_of_compiled {parts : List QueryExpr} {compiled : List KindFilters}
    {good : QueryExpr → KindFilters → Prop}
    (fine : ∀ part ∈ parts, ∀ filters, compile options part = .ok filters → good part filters)
    (each : List.Forall₂ (fun part filters => compile options part = .ok filters) parts compiled) :
    List.Forall₂ good parts compiled :=
  ((List.forall₂_and_left parts compiled).2 ⟨fine, each⟩).imp fun _ filters both =>
    both.1 filters both.2

theorem isEmpty_filterMap_get {parts : List QueryExpr} {compiled : List KindFilters}
    (each : List.Forall₂ (fun part filters =>
      (filters.get kind).isSome = part.speaksOf options kind) parts compiled) :
    (!(compiled.filterMap (·.get kind)).isEmpty) = parts.any (·.speaksOf options kind) := by
  induction each with
  | nil => rfl
  | @cons part filters parts compiled here _ ih =>
    rw [List.any_cons, ← here, ← ih]
    cases own : filters.get kind with
    | none => simp only [List.filterMap_cons, own, Option.isSome_none, Bool.false_or]
    | some filter =>
      simp only [List.filterMap_cons, own, Option.isSome_some, Bool.true_or, List.isEmpty_cons,
        Bool.not_false]

/-- **A compiled expression has a filter for the kinds that its terms speak of.** -/
theorem isSome_get_of_compile {expr : QueryExpr} {filters : KindFilters}
    (run : compile options expr = .ok filters) :
    (filters.get kind).isSome = expr.speaksOf options kind := by
  induction expr generalizing filters with
  | term key value =>
    cases compile_eq_ok.1 run with
    | term known => simp [speaksOf, terms, own_of_expand known]
  | not part ih =>
    cases compile_eq_ok.1 run with
    | not here =>
      rw [KindFilters.get_negate, Option.isSome_map, ih here]
      rfl
  | and parts ih | or parts ih =>
    cases compile_eq_ok.1 run
    next compiled each =>
      rw [KindFilters.get_combine, KindFilters.isSome_join,
        isEmpty_filterMap_get (forall₂_of_compiled (fun part listed _ => ih part listed) each)]
      exact (any_termsOf parts _).symm

/-! ### The tests of a compiled expression -/

theorem tests_subset_of_join {combine : List Filter → Filter} {filters : List Filter}
    {filter joined : Filter} (keeps : (combine filters).tests = Filter.testsOf filters)
    (together : KindFilters.join combine filters = some joined) (listed : filter ∈ filters) :
    filter.tests ⊆ joined.tests := by
  have among : ∀ {filters : List Filter}, filter ∈ filters →
      filter.tests ⊆ Filter.testsOf filters := by
    intro filters listed
    induction filters with
    | nil => cases listed
    | cons first rest ih =>
      rcases List.mem_cons.1 listed with rfl | later
      · exact List.subset_append_left _ _
      · exact List.Subset.trans (ih later) (List.subset_append_right _ _)
  rcases KindFilters.join_cases combine filters with
    ⟨rfl, -⟩ | ⟨only, rfl, alone⟩ | ⟨-, several⟩
  · cases listed
  · cases alone.symm.trans together
    rw [List.mem_singleton.1 listed]
    exact List.Subset.refl _
  · cases several.symm.trans together
    rw [keeps]
    exact among listed

/-- The filter of a part that speaks of a kind is one of those that are joined. -/
theorem exists_filter_of_part {parts : List QueryExpr} {compiled : List KindFilters}
    (each : List.Forall₂ (fun part filters => compile options part = .ok filters) parts compiled)
    {part : QueryExpr} (listed : part ∈ parts) (speaks : part.speaksOf options kind = true) :
    ∃ filters filter, compile options part = .ok filters ∧ filters.get kind = some filter ∧
      filter ∈ compiled.filterMap (·.get kind) := by
  induction each with
  | nil => cases listed
  | @cons first filters parts compiled here _ ih =>
    rcases List.mem_cons.1 listed with rfl | later
    · obtain ⟨filter, own⟩ := Option.isSome_iff_exists.1 ((isSome_get_of_compile here).trans speaks)
      exact ⟨filters, filter, here, own, List.mem_filterMap.2 ⟨filters, List.mem_cons_self, own⟩⟩
    · obtain ⟨filters', filter, run, own, member⟩ := ih later
      obtain ⟨source, among, same⟩ := List.mem_filterMap.1 member
      exact ⟨filters', filter, run, own,
        List.mem_filterMap.2 ⟨source, List.mem_cons_of_mem _ among, same⟩⟩

theorem speaksOf_of_own {expr : QueryExpr} {term : String × String} {own : Filter}
    (listed : term ∈ expr.terms) (known : Term.own options kind term = some own) :
    expr.speaksOf options kind = true :=
  List.any_eq_true.2 ⟨term, listed, by rw [known]; rfl⟩

/-- The tests of a term are tests of every compiled expression in which it occurs. -/
theorem tests_subset_of_compile {expr : QueryExpr} {filters : KindFilters} {filter own : Filter}
    {term : String × String} (run : compile options expr = .ok filters)
    (present : filters.get kind = some filter) (listed : term ∈ expr.terms)
    (known : Term.own options kind term = some own) : own.tests ⊆ filter.tests := by
  induction expr generalizing filters filter with
  | term key value =>
    cases compile_eq_ok.1 run with
    | term expanded =>
      rw [List.mem_singleton.1 listed, own_of_expand expanded, present] at known
      cases known
      exact List.Subset.refl _
  | not part ih =>
    cases compile_eq_ok.1 run with
    | not here =>
      rw [KindFilters.get_negate] at present
      obtain ⟨inner, innerPresent, rfl⟩ := Option.map_eq_some_iff.1 present
      change own.tests ⊆ inner.tests
      exact ih here innerPresent listed
  | and parts ih | or parts ih =>
    cases compile_eq_ok.1 run
    next compiled each =>
      rw [KindFilters.get_combine] at present
      obtain ⟨part, among, inPart⟩ := mem_termsOf_iff.1 listed
      obtain ⟨inner, filter', here, own', member⟩ :=
        exists_filter_of_part each among (speaksOf_of_own inPart known)
      exact List.Subset.trans (ih part among here own' inPart)
        (tests_subset_of_join rfl present member)

/-! ### The answer of a compiled expression -/

section

variable {atlas : Atlas} {subject : Subject} {holds : Filter → Bool} {memory later : Memory}
  {answer : Bool}

open ClassAtlas.Filter (evaluate evaluateAll evaluateAny)

/-- Every answer that the filter of a part gave, and that is still recalled, is the reading of the
part. -/
def Reads (atlas : Atlas) (subject : Subject) (options : MatchOptions) (kind : SearchKind)
    (holds : Filter → Bool) (later : Memory) (part : QueryExpr) (filters : KindFilters) : Prop :=
  (filters.get kind).isSome = part.speaksOf options kind ∧
    ∀ filter, filters.get kind = some filter → ∀ memory answer,
      (evaluate atlas subject filter memory).1 = .ok answer →
        (evaluate atlas subject filter memory).2.Within later →
          answer = part.reading options kind holds

/-- A step that asks a part first goes on with the reading of the part. -/
theorem Reads.onward {part : QueryExpr} {filters : KindFilters} {filter : Filter}
    {next : Bool → Work Bool} (reads : Reads atlas subject options kind holds later part filters)
    (own : filters.get kind = some filter) (learns : ∀ first, Work.Learns (next first))
    (given : ((evaluate atlas subject filter >>= next) memory).1 = .ok answer)
    (within : ((evaluate atlas subject filter >>= next) memory).2.Within later) :
    ∃ between, (next (part.reading options kind holds) between).1 = .ok answer ∧
      (next (part.reading options kind holds) between).2.Within later := by
  rw [Work.bind_apply] at given within
  rcases run : evaluate atlas subject filter memory with ⟨fault | first, between⟩
  · rw [run] at given
    cases given
  · rw [run] at given within
    have learned := (learns first between).within
    have same : first = part.reading options kind holds :=
      reads.2 filter own memory first (by rw [run]) (by rw [run]; exact learned.trans within)
    exact ⟨between, same ▸ given, same ▸ within⟩

/-- The parts of a conjunction are asked up to the first one that does not hold. -/
theorem readingAll_of_parts {parts : List QueryExpr} {compiled : List KindFilters}
    (each : List.Forall₂ (Reads atlas subject options kind holds later) parts compiled)
    (given : (evaluateAll atlas subject (compiled.filterMap (·.get kind)) memory).1 = .ok answer)
    (within :
      (evaluateAll atlas subject (compiled.filterMap (·.get kind)) memory).2.Within later) :
    answer = readingAll options kind holds parts := by
  induction each generalizing memory with
  | nil => exact (Except.ok.inj given).symm
  | @cons part filters parts compiled here _ ih =>
    rw [readingAll, ← here.1]
    cases own : filters.get kind with
    | none =>
      simp only [List.filterMap_cons, own] at given within
      rw [Option.isSome_none, Bool.not_false, Bool.true_or, Bool.true_and]
      exact ih given within
    | some filter =>
      simp only [List.filterMap_cons, own, evaluateAll] at given within
      obtain ⟨between, given, within⟩ := here.onward own (fun first => by
        split
        · exact (Filter.evaluateAll_recalls _).learns
        · exact Work.learns_pure _) given within
      rw [Option.isSome_some, Bool.not_true, Bool.false_or]
      cases said : part.reading options kind holds with
      | false =>
        rw [said] at given
        exact (Except.ok.inj given).symm
      | true =>
        rw [said] at given within
        rw [Bool.true_and]
        exact ih given within

/-- The parts of a disjunction are asked up to the first one that holds. -/
theorem readingAny_of_parts {parts : List QueryExpr} {compiled : List KindFilters}
    (each : List.Forall₂ (Reads atlas subject options kind holds later) parts compiled)
    (given : (evaluateAny atlas subject (compiled.filterMap (·.get kind)) memory).1 = .ok answer)
    (within :
      (evaluateAny atlas subject (compiled.filterMap (·.get kind)) memory).2.Within later) :
    answer = readingAny options kind holds parts := by
  induction each generalizing memory with
  | nil => exact (Except.ok.inj given).symm
  | @cons part filters parts compiled here _ ih =>
    rw [readingAny, ← here.1]
    cases own : filters.get kind with
    | none =>
      simp only [List.filterMap_cons, own] at given within
      rw [Option.isSome_none, Bool.false_and, Bool.false_or]
      exact ih given within
    | some filter =>
      simp only [List.filterMap_cons, own, evaluateAny] at given within
      obtain ⟨between, given, within⟩ := here.onward own (fun first => by
        split
        · exact Work.learns_pure _
        · exact (Filter.evaluateAny_recalls _).learns) given within
      rw [Option.isSome_some, Bool.true_and]
      cases said : part.reading options kind holds with
      | true =>
        rw [said] at given
        exact (Except.ok.inj given).symm
      | false =>
        rw [said] at given within
        rw [Bool.false_or]
        exact ih given within

theorem evaluate_join_all {filters : List Filter} {joined : Filter}
    (together : KindFilters.join .all filters = some joined) :
    evaluate atlas subject joined = evaluateAll atlas subject filters := by
  rcases KindFilters.join_cases .all filters with ⟨-, none⟩ | ⟨_, rfl, alone⟩ | ⟨-, several⟩
  · cases none.symm.trans together
  · cases alone.symm.trans together
    exact (Filter.evaluateAll_singleton _).symm
  · cases several.symm.trans together
    rfl

theorem evaluate_join_any {filters : List Filter} {joined : Filter}
    (together : KindFilters.join .any filters = some joined) :
    evaluate atlas subject joined = evaluateAny atlas subject filters := by
  rcases KindFilters.join_cases .any filters with ⟨-, none⟩ | ⟨_, rfl, alone⟩ | ⟨-, several⟩
  · cases none.symm.trans together
  · cases alone.symm.trans together
    exact (Filter.evaluateAny_singleton _).symm
  · cases several.symm.trans together
    rfl

/-- **An answer is the reading of what the terms of the expression say afterwards.**  By induction
on the expression: what a part said is recalled when the whole was asked. -/
theorem reads_of_compile {expr : QueryExpr} {filters : KindFilters}
    (run : compile options expr = .ok filters)
    (agree : ∀ term ∈ expr.terms, ∀ own, Term.own options kind term = some own →
      (evaluate atlas subject own later).1 = .ok (holds own)) :
    Reads atlas subject options kind holds later expr filters := by
  induction expr generalizing filters with
  | term key value =>
    refine ⟨isSome_get_of_compile run, fun filter present memory answer given within => ?_⟩
    cases compile_eq_ok.1 run with
    | term expanded =>
      have own := (own_of_expand expanded).trans present
      have again := (Filter.evaluate_recalls filter).again given within
      rw [agree (key, value) List.mem_cons_self filter own] at again
      rw [reading, own]
      exact (Except.ok.inj again).symm
  | not part ih =>
    refine ⟨isSome_get_of_compile run, fun filter present memory answer given within => ?_⟩
    cases compile_eq_ok.1 run with
    | not here =>
      rw [KindFilters.get_negate] at present
      obtain ⟨inner, own, rfl⟩ := Option.map_eq_some_iff.1 present
      rw [evaluate] at given within
      obtain ⟨_, given, -⟩ :=
        (ih here agree).onward own (fun _ => Work.learns_pure _) given within
      exact (Except.ok.inj given).symm
  | and parts ih =>
    refine ⟨isSome_get_of_compile run, fun filter present memory answer given within => ?_⟩
    cases compile_eq_ok.1 run with
    | @and _ compiled each =>
      rw [KindFilters.get_combine] at present
      rw [evaluate_join_all present] at given within
      have parts := forall₂_of_compiled (fun part listed filters here => ih part listed here
        fun term member => agree term (mem_termsOf_iff.2 ⟨part, listed, member⟩)) each
      exact readingAll_of_parts parts given within
  | or parts ih =>
    refine ⟨isSome_get_of_compile run, fun filter present memory answer given within => ?_⟩
    cases compile_eq_ok.1 run with
    | @or _ compiled each =>
      rw [KindFilters.get_combine] at present
      rw [evaluate_join_any present] at given within
      have parts := forall₂_of_compiled (fun part listed filters here => ih part listed here
        fun term member => agree term (mem_termsOf_iff.2 ⟨part, listed, member⟩)) each
      exact readingAny_of_parts parts given within

end

/-- An expression of terms that are known and well formed can be compiled. -/
theorem compile_ok {expr : QueryExpr}
    (wellFormed : ∀ term ∈ expr.terms, ∃ filters,
      Term.expand term.1 term.2 options = .ok (some filters)) :
    ∃ filters, compile options expr = .ok filters := by
  have list_ok : ∀ {parts : List QueryExpr},
      (∀ part ∈ parts, ∃ filters, compile options part = .ok filters) →
        ∃ compiled, List.Forall₂ (fun part filters => compile options part = .ok filters)
          parts compiled := by
    intro parts each
    induction parts with
    | nil => exact ⟨[], .nil⟩
    | cons part rest ih =>
      obtain ⟨⟨filters, here⟩, there⟩ := List.forall_mem_cons.1 each
      obtain ⟨compiled, others⟩ := ih there
      exact ⟨filters :: compiled, .cons here others⟩
  induction expr with
  | term key value =>
    obtain ⟨filters, known⟩ := wellFormed (key, value) List.mem_cons_self
    exact ⟨filters, compile_eq_ok.2 (.term known)⟩
  | not part ih =>
    obtain ⟨filters, here⟩ := ih wellFormed
    exact ⟨_, compile_eq_ok.2 (.not here)⟩
  | and parts ih =>
    obtain ⟨compiled, each⟩ := list_ok fun part listed =>
      ih part listed fun term member => wellFormed term (mem_termsOf_iff.2 ⟨part, listed, member⟩)
    exact ⟨_, compile_eq_ok.2 (.and each)⟩
  | or parts ih =>
    obtain ⟨compiled, each⟩ := list_ok fun part listed =>
      ih part listed fun term member => wellFormed term (mem_termsOf_iff.2 ⟨part, listed, member⟩)
    exact ⟨_, compile_eq_ok.2 (.or each)⟩

/-- **A structured search means what it says.**  When all terms of the expression are known and well
formed, the search has no filter for a kind that no term speaks of, and one filter for every other
kind.  On every subject on which no test of that filter fails, the filter has an answer, so have the
filters of all terms afterwards, and its answer is the boolean reading of theirs. -/
theorem ofExpr_reading {expr : QueryExpr}
    (wellFormed : ∀ term ∈ expr.terms, ∃ filters,
      Term.expand term.1 term.2 options = .ok (some filters)) :
    ∃ query, ofExpr expr options = .ok query ∧ ∀ kind,
      (query.get kind = [] ↔ expr.speaksOf options kind = false) ∧
      (expr.speaksOf options kind = true → ∃ filter, query.get kind = [filter] ∧
        ∀ (atlas : Atlas) (subject : Subject) (before : Memory),
          subject.Answers atlas filter.tests before →
            let (answer, after) := filter.evaluate atlas subject before
            ∃ holds : Filter → Bool,
              (∀ term ∈ expr.terms, ∀ own, Term.own options kind term = some own →
                (own.evaluate atlas subject after).1 = .ok (holds own)) ∧
              answer = .ok (expr.reading options kind holds)) := by
  obtain ⟨filters, run⟩ := compile_ok wellFormed
  refine ⟨empty.push filters, by rw [ofExpr, run]; rfl, fun kind => ?_⟩
  have speaks : (filters.get kind).isSome = expr.speaksOf options kind := isSome_get_of_compile run
  rw [KindFilters.get_push_empty, ← speaks, Option.toList_eq_nil_iff, Option.isSome_eq_false_iff,
    Option.isNone_iff_eq_none]
  refine ⟨Iff.rfl, fun present => ?_⟩
  obtain ⟨filter, present⟩ := Option.isSome_iff_exists.1 present
  refine ⟨filter, by rw [present]; rfl, fun atlas subject before answers => ?_⟩
  obtain ⟨⟨answer, given⟩, asked⟩ :=
    Filter.evaluate_answers filter (List.Subset.refl filter.tests) before answers
  have agree : ∀ term ∈ expr.terms, ∀ own, Term.own options kind term = some own →
      (own.evaluate atlas subject (filter.evaluate atlas subject before).2).1 =
        .ok ((own.evaluate atlas subject
          (filter.evaluate atlas subject before).2).1.toOption.getD false) := by
    intro term listed own known
    have among := tests_subset_of_compile run present listed known
    obtain ⟨said, given⟩ := (Filter.evaluate_answers own among _ (answers.onward asked)).1
    rw [given]
    rfl
  refine ⟨_, agree, given.trans (congrArg Except.ok ?_)⟩
  exact (reads_of_compile run agree).2 filter present before answer given (.refl _)

end SearchQuery

/-- Classes other than the second type, and fields by name. -/
def QueryExpr.otherClasses : QueryExpr :=
  .and [.term "raw-class-only" "", .not (.term "class-id" "1"), .term "field-name" "size"]

/-- Of classes the expression asks two things, none of which can fail, and of methods nothing. -/
theorem SearchQuery.ofExpr_reading_otherClasses :
    ∃ query filter, ofExpr .otherClasses ⟨true, false, false⟩ = .ok query ∧
      query.get .methods = [] ∧ query.get .classes = [filter] ∧
      ∀ (atlas : Atlas) (view : TypeView) (before : Memory), ∃ holds,
        (filter.evaluate atlas (.type view) before).1 =
          .ok (QueryExpr.otherClasses.reading ⟨true, false, false⟩ .classes holds) := by
  have compiled : ofExpr .otherClasses ⟨true, false, false⟩ = .ok
      ⟨[.all [.leaf (.variant .rawClass true), .not (.leaf (.id 1 true))]],
        [.leaf (.text .memberName ⟨"size", ⟨true, false, false⟩⟩)], [], []⟩ := by rfl
  have wellFormed : ∀ term ∈ QueryExpr.otherClasses.terms, ∃ filters,
      Term.expand term.1 term.2 ⟨true, false, false⟩ = .ok (some filters) := by
    intro term listed
    simp only [QueryExpr.otherClasses, QueryExpr.terms, QueryExpr.termsOf, List.nil_append,
      List.cons_append, List.mem_cons, List.not_mem_nil, or_false] at listed
    rcases listed with rfl | rfl | rfl <;> exact ⟨_, rfl⟩
  obtain ⟨query, run, each⟩ := ofExpr_reading wellFormed
  cases compiled.symm.trans run
  obtain ⟨filter, present, evaluates⟩ := (each .classes).2 (by rfl)
  cases present
  refine ⟨_, _, rfl, (each .methods).1.2 (by rfl), rfl, fun atlas view before => ?_⟩
  have answers : (Subject.type view).Answers atlas
      [.variant .rawClass true, .id 1 true] before := by
    intro memory _ test listed
    rcases List.mem_pair.1 listed with rfl | rfl
    · exact ⟨_, rfl⟩
    · exact ⟨_, rfl⟩
  obtain ⟨holds, -, answer⟩ := evaluates atlas (.type view) before answers
  exact ⟨holds, answer⟩

end ClassAtlas

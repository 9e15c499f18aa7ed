import ClassAtlas.Proofs.Search.Expressions
import ClassAtlas.Proofs.Search.Visits

/-!
# Flat searches as conjunctions

A flat search holds, for each kind, the filters of its terms side by side; the conjunction of the
same terms holds one filter for each kind, in which they are joined.  Both ask a subject the same
questions in the same order and stop at the same one (`Alike`), so every visit of one is a visit of
the other, with the same hits, the same fault and the same memory afterwards (`Alike.run_eq`).

Building goes through the terms from left to right in both forms, so a term with a bad value is
reported alike (`pushTerms_eq`).  The forms differ in what an unknown key means: a flat search is
what its known terms make it (`pushTerms_filter`), and a structured one is refused
(`compile_unknown`).
-/

set_option autoImplicit false

namespace ClassAtlas

open ClassAtlas.Filter (evaluateAll)

/-! ## Searches that ask the same -/

/-- Filters of a kind that are asked alike: there are some in both lists or in none, and every
subject gets the same answer, or the same fault, with the same memory afterwards. -/
structure Filter.Alike (filters others : List Filter) : Prop where
  idle : filters.isEmpty = others.isEmpty
  asks : ∀ (atlas : Atlas) (subject : Subject),
    evaluateAll atlas subject filters = evaluateAll atlas subject others

namespace SearchQuery

/-- Searches whose filters are asked alike for each kind. -/
def Alike (query other : SearchQuery) : Prop :=
  ∀ kind, Filter.Alike (query.get kind) (other.get kind)

section

variable {atlas : Atlas} {filters others methods methods' parameters parameters' : List Filter}

theorem consider_congr (alike : Filter.Alike filters others) (subject : Subject)
    (add : SearchHits → SearchHits) :
    consider atlas filters subject add = consider atlas others subject add := by
  funext before
  rw [consider, consider, alike.idle, alike.asks]

theorem visitParameters_congr (alike : Filter.Alike filters others) (method : Method) :
    visitParameters atlas filters method = visitParameters atlas others method := by
  simp only [visitParameters, alike.idle, consider_congr alike]

theorem visitFields_congr (alike : Filter.Alike filters others) (view : TypeView) :
    visitFields atlas filters view = visitFields atlas others view := by
  simp only [visitFields, alike.idle, consider_congr alike]

theorem visitMethods_congr (alike : Filter.Alike methods methods')
    (alike' : Filter.Alike parameters parameters') (view : TypeView) :
    visitMethods atlas methods parameters view = visitMethods atlas methods' parameters' view := by
  have each : visitMethod atlas methods parameters = visitMethod atlas methods' parameters' := by
    funext method
    simp only [visitMethod, visitParameters_congr alike', consider_congr alike]
  rw [visitMethods, visitMethods, alike.idle, alike'.idle, each]

end

namespace Alike

variable {query other : SearchQuery} (alike : query.Alike other)

include alike

/-- **Searches that ask the same make the same visits.** -/
theorem visit_eq (atlas : Atlas) (id : Nat) : query.visit atlas id = other.visit atlas id := by
  have types : ∀ subject add, consider atlas query.classes subject add =
      consider atlas other.classes subject add := consider_congr (alike .classes)
  have fields : ∀ view, visitFields atlas query.fields view =
      visitFields atlas other.fields view := visitFields_congr (alike .fields)
  have methods : ∀ view, visitMethods atlas query.methods query.parameters view =
      visitMethods atlas other.methods other.parameters view :=
    visitMethods_congr (alike .methods) (alike .parameters)
  simp only [visit, types, visitMembers_eq, fields, methods]

theorem visitAll_eq (atlas : Atlas) (ids : List Nat) (hits : SearchHits) :
    query.visitAll atlas ids hits = other.visitAll atlas ids hits := by
  induction ids generalizing hits with
  | nil => rfl
  | cons id rest ih => simp only [visitAll, alike.visit_eq, ih]

theorem isEmpty_eq : query.isEmpty = other.isEmpty := by
  have classes : query.classes.isEmpty = other.classes.isEmpty := (alike .classes).idle
  have fields : query.fields.isEmpty = other.fields.isEmpty := (alike .fields).idle
  have methods : query.methods.isEmpty = other.methods.isEmpty := (alike .methods).idle
  have parameters : query.parameters.isEmpty = other.parameters.isEmpty := (alike .parameters).idle
  rw [isEmpty, isEmpty, classes, fields, methods, parameters]

/-- Searches that ask the same are the same computation. -/
theorem run_eq (atlas : Atlas) : query.run atlas = other.run atlas := by
  rw [run, run, alike.isEmpty_eq, alike.visitAll_eq]

end Alike

/-! ## Building both forms -/

section

variable {options : MatchOptions} {kind : SearchKind}

theorem get_push (query : SearchQuery) (filters : KindFilters) :
    (query.push filters).get kind = query.get kind ++ (filters.get kind).toList := by
  cases kind <;> rfl

/-- What is pushed one after the other stands side by side. -/
theorem get_foldl_push (query : SearchQuery) (compiled : List KindFilters) :
    (compiled.foldl push query).get kind = query.get kind ++ compiled.filterMap (·.get kind) := by
  induction compiled generalizing query with
  | nil => exact (List.append_nil _).symm
  | cons filters rest ih =>
    rw [List.foldl_cons, ih, get_push, List.append_assoc, List.filterMap_cons]
    cases filters.get kind <;> rfl

/-- **Filters side by side are asked like their conjunction.** -/
theorem alike_join (filters : List Filter) :
    Filter.Alike filters (KindFilters.join .all filters).toList := by
  cases joined : KindFilters.join .all filters with
  | none =>
    have present := KindFilters.isSome_join .all filters
    rw [joined] at present
    obtain rfl : filters = [] := by simpa using present
    exact ⟨rfl, fun _ _ => rfl⟩
  | some filter =>
    have present := KindFilters.isSome_join .all filters
    rw [joined] at present
    refine ⟨by simpa using present, fun atlas subject => ?_⟩
    rw [Option.toList_some, Filter.evaluateAll_singleton, evaluate_join_all joined]

/-- The filters of terms, pushed one after the other or joined for each kind. -/
theorem alike_combine (compiled : List KindFilters) :
    (compiled.foldl push empty).Alike (empty.push (.combine compiled .all)) := by
  intro kind
  have side : (compiled.foldl push empty).get kind = compiled.filterMap (·.get kind) := by
    rw [get_foldl_push]
    cases kind <;> rfl
  rw [side, KindFilters.get_push_empty, KindFilters.get_combine]
  exact alike_join _

theorem expand_of_ofKey {key value : String} {meaning : Term}
    (means : Term.ofKey? key = some meaning) :
    Term.expand key value options = (meaning.filters value options).map some := by
  rw [Term.expand, means]

theorem expand_eq_none {key value : String} (unknown : Term.ofKey? key = none) :
    Term.expand key value options = .ok none := by
  rw [Term.expand, unknown]

/-- One term after the other is expanded as the parts of the conjunction are compiled, up to the
first bad value. -/
theorem pushTerms_eq {terms : List (String × String)}
    (known : ∀ term ∈ terms, Term.ofKey? term.1 ≠ none) (query : SearchQuery) :
    pushTerms options query terms =
      (compileList options (terms.map fun term => .term term.1 term.2)).map
        (List.foldl push query) := by
  induction terms generalizing query with
  | nil => rw [pushTerms, List.map_nil, compileList]; rfl
  | cons term rest ih =>
    obtain ⟨key, value⟩ := term
    obtain ⟨here, there⟩ := List.forall_mem_cons.1 known
    obtain ⟨meaning, means⟩ := Option.ne_none_iff_exists'.1 here
    rw [pushTerms, List.map_cons, compileList, compile, expand_of_ofKey means]
    cases meaning.filters value options with
    | error flaw => rfl
    | ok filters =>
      change pushTerms options (query.push filters) rest = _
      rw [ih there]
      cases compileList options (rest.map fun term => .term term.1 term.2) <;> rfl

/-- Terms with unknown keys are passed over. -/
theorem pushTerms_filter (query : SearchQuery) (terms : List (String × String)) :
    pushTerms options query (terms.filter fun term => (Term.ofKey? term.1).isSome) =
      pushTerms options query terms := by
  induction terms generalizing query with
  | nil => rfl
  | cons term rest ih =>
    obtain ⟨key, value⟩ := term
    cases means : Term.ofKey? key with
    | none =>
      rw [List.filter_cons_of_neg (by simp [means]), ih, pushTerms, expand_eq_none means]
      rfl
    | some meaning =>
      rw [List.filter_cons_of_pos (by simp [means]), pushTerms, pushTerms, expand_of_ofKey means]
      cases meaning.filters value options with
      | error flaw => rfl
      | ok filters => exact ih _

theorem compile_of_part {parts : List QueryExpr} {compiled : List KindFilters} {part : QueryExpr}
    (each : List.Forall₂ (fun part filters => compile options part = .ok filters) parts compiled)
    (listed : part ∈ parts) : ∃ filters, compile options part = .ok filters := by
  induction each with
  | nil => cases listed
  | cons here _ ih =>
    rcases List.mem_cons.1 listed with rfl | later
    · exact ⟨_, here⟩
    · exact ih later

/-- **An expression with an unknown key is refused**, wherever the key stands in it. -/
theorem compile_unknown {expr : QueryExpr} {term : String × String} (listed : term ∈ expr.terms)
    (unknown : Term.ofKey? term.1 = none) (filters : KindFilters) :
    compile options expr ≠ .ok filters := by
  intro run
  induction expr using QueryExpr.induct generalizing filters with
  | term key value =>
    have same : term = (key, value) := List.mem_singleton.1 listed
    rw [same] at unknown
    cases compile_eq_ok.1 run with
    | term known => exact absurd ((expand_eq_none unknown).symm.trans known) (by simp)
  | not part ih =>
    cases compile_eq_ok.1 run with
    | not here => exact ih listed _ here
  | and parts ih | or parts ih =>
    cases compile_eq_ok.1 run
    next compiled each =>
      obtain ⟨part, among, inPart⟩ := QueryExpr.mem_termsOf_iff.1 listed
      obtain ⟨own, here⟩ := compile_of_part each among
      exact ih part among inPart own here

end

/-- **A flat search is the conjunction of its terms.**  When all keys are known, the flat search and
the structured one of the same terms and settings fail with the same flaw, or both are built and
their runs are the same in every memory: the same hits in the same order, the same failures and the
same memory afterwards.  Of all terms a flat search takes only those with known keys, whereas an
expression with an unknown key, at any depth, gives no search. -/
theorem ofParams_conjunction (params : SearchParams) :
    ((∀ term ∈ params.terms, Term.ofKey? term.1 ≠ none) →
      (∃ flaw, ofParams params = .error flaw ∧
        ofExpr (.and (params.terms.map fun term => .term term.1 term.2)) (.ofParams params) =
          .error flaw) ∨
      ∃ flat structured, ofParams params = .ok flat ∧
        ofExpr (.and (params.terms.map fun term => .term term.1 term.2)) (.ofParams params) =
          .ok structured ∧
        ∀ atlas, flat.run atlas = structured.run atlas) ∧
    ofParams { params with terms := params.terms.filter fun term => (Term.ofKey? term.1).isSome } =
      ofParams params ∧
    ∀ (expr : QueryExpr) (options : MatchOptions),
      (∃ term ∈ expr.terms, Term.ofKey? term.1 = none) →
        ∃ flaw, ofExpr expr options = .error flaw := by
  refine ⟨fun known => ?_, pushTerms_filter empty params.terms, ?_⟩
  · rw [ofParams, pushTerms_eq known, ofExpr, compile]
    cases compileList (.ofParams params) (params.terms.map fun term => .term term.1 term.2) with
    | error flaw => exact .inl ⟨flaw, rfl, rfl⟩
    | ok compiled => exact .inr ⟨_, _, rfl, rfl, (alike_combine compiled).run_eq⟩
  · rintro expr options ⟨term, listed, unknown⟩
    rw [ofExpr]
    cases run : compile options expr with
    | error flaw => exact ⟨flaw, rfl⟩
    | ok filters => exact absurd run (compile_unknown listed unknown filters)

/-- Classes of a package by name, and their fields by type: two filters for classes in the flat
search, one in the structured one, and the same runs.  An unknown key deep in an expression. -/
theorem ofParams_conjunction_named :
    let params : SearchParams :=
      ⟨[("Class-Name", "list"), ("class-package", "java.util"), ("field-type-name", "int")],
        true, false, none⟩
    ∃ flat structured, ofParams params = .ok flat ∧
      ofExpr (.and (params.terms.map fun term => .term term.1 term.2)) (.ofParams params) =
        .ok structured ∧
      flat.classes.length = 2 ∧ structured.classes.length = 1 ∧
      (∀ atlas, flat.run atlas = structured.run atlas) ∧
      ∃ flaw, ofExpr (.not (.or [.term "class-name" "list", .term "color" "red"]))
        (.ofParams params) = .error flaw := by
  intro params
  have known : ∀ term ∈ params.terms, Term.ofKey? term.1 ≠ none := by
    intro term listed
    simp only [params, List.mem_cons, List.not_mem_nil, or_false] at listed
    rcases listed with rfl | rfl | rfl <;> exact Option.ne_none_iff_exists'.2 ⟨_, rfl⟩
  have refused : ∃ flaw, ofExpr (.not (.or [.term "class-name" "list", .term "color" "red"]))
      (.ofParams params) = .error flaw :=
    (ofParams_conjunction params).2.2 _ _ ⟨("color", "red"), by decide, rfl⟩
  rcases (ofParams_conjunction params).1 known with
    ⟨flaw, fails, _⟩ | ⟨flat, structured, built, also, same⟩
  · cases fails
  · refine ⟨flat, structured, built, also, ?_, ?_, same, refused⟩
    · cases built
      rfl
    · cases also
      rfl

end SearchQuery

end ClassAtlas

import ClassAtlas.Proofs.Descent
import ClassAtlas.Proofs.Inheritance

/-!
# The order of the inheritance walk

Told recursively, the walk enters one type after the other: a type that was visited before is
skipped, and any other one is visited before the types directly above it are walked in their order
(`Tables.Preorder`).

Told as a loop, the walk keeps the types that are still to be looked at (`Tables.Round`).  One round
takes the first of them away and, if it is new, puts the types above it in its place, so a type can
be pending several times.  A round visits one of the types that were not visited yet or leaves fewer
pending, so the loop ends on cyclic hierarchies as well (`Walk.ends`).

Both visit the same types in the same order, and that is the list of the walk
(`inherited_preorder`).  What the loop does with the pending types one after the other is what the
recursion does with them (`Preorder.rounds`, `preorder_of_rounds`).
-/

set_option autoImplicit false

namespace ClassAtlas

open Relation (ReflTransGen)

/-- A walk under way: the types that were visited, in their order, and those still pending, the next
one first. -/
structure Walk where
  visited : List Nat
  pending : List Nat

namespace Tables

/-- Types are walked one after the other, when some were visited before: each that is new is
visited, and then the types directly above it are walked. -/
inductive Preorder (tables : Tables) : (before types visits : List Nat) → Prop where
  | done (before : List Nat) : Preorder tables before [] []
  | skip {before rest visits : List Nat} {id : Nat} (met : id ∈ before)
      (others : Preorder tables before rest visits) : Preorder tables before (id :: rest) visits
  | visit {before rest inner others : List Nat} {id : Nat} {data : TypeData} (new : id ∉ before)
      (known : tables.typeData id = .ok data)
      (upward : Preorder tables (before ++ [id]) data.above inner)
      (onward : Preorder tables (before ++ id :: inner) rest others) :
      Preorder tables before (id :: rest) (id :: (inner ++ others))

/-- One round of the loop. -/
inductive Round (tables : Tables) : Walk → Walk → Prop where
  | skip {visited rest : List Nat} {id : Nat} (met : id ∈ visited) :
      Round tables ⟨visited, id :: rest⟩ ⟨visited, rest⟩
  | visit {visited rest : List Nat} {id : Nat} {data : TypeData} (new : id ∉ visited)
      (known : tables.typeData id = .ok data) :
      Round tables ⟨visited, id :: rest⟩ ⟨visited ++ [id], data.above ++ rest⟩

variable {tables : Tables} {before visited pending visits order : List Nat}

/-! ## The loop ends -/

/-- How many types of the snapshot were not visited yet. -/
def unvisitedCount (tables : Tables) (walk : Walk) : Nat :=
  ((Finset.range tables.typeCount).filter (· ∉ walk.visited)).card

/-- A visit takes a type away from those that were not visited yet. -/
theorem unvisitedCount_lt {rest next : List Nat} {id : Nat} {data : TypeData}
    (new : id ∉ visited) (known : tables.typeData id = .ok data) :
    tables.unvisitedCount ⟨visited ++ [id], next⟩ < tables.unvisitedCount ⟨visited, rest⟩ := by
  refine Finset.card_lt_card (Finset.ssubset_iff_of_subset ?_ |>.2 ⟨id, ?_, ?_⟩)
  · intro other member
    obtain ⟨inside, unmet⟩ := Finset.mem_filter.1 member
    exact Finset.mem_filter.2 ⟨inside, fun met => unmet (List.mem_append_left _ met)⟩
  · exact Finset.mem_filter.2 ⟨Finset.mem_range.2 (typeData_lt known), new⟩
  · intro member
    exact (Finset.mem_filter.1 member).2 (List.mem_append_right _ List.mem_cons_self)

/-- **The loop ends**, wherever it stands and whatever the hierarchy looks like. -/
theorem Walk.ends (tables : Tables) (walk : Walk) : Descent.Ends tables.Round walk := by
  refine Acc.intro walk fun next round => ?_
  have fewer : tables.unvisitedCount next < tables.unvisitedCount walk ∨
      tables.unvisitedCount next = tables.unvisitedCount walk ∧
        next.pending.length < walk.pending.length := by
    cases round with
    | skip met => exact .inr ⟨rfl, Nat.lt_succ_self _⟩
    | visit new known => exact .inl (unvisitedCount_lt new known)
  exact Walk.ends tables next
  termination_by (tables.unvisitedCount walk, walk.pending.length)
  decreasing_by exact Prod.lex_def.2 fewer

/-! ## The loop and the recursion -/

/-- What the recursion visits, the loop visits, and comes to what is pending behind it. -/
theorem Preorder.rounds {types : List Nat} (walked : tables.Preorder before types visits)
    (rest : List Nat) :
    ReflTransGen tables.Round ⟨before, types ++ rest⟩ ⟨before ++ visits, rest⟩ := by
  induction walked generalizing rest with
  | done before =>
    rw [List.append_nil]
    exact .refl
  | skip met _ ih => exact .head (.skip met) (ih rest)
  | @visit before types inner others id data new known _ _ upward onward =>
    have above := upward (types ++ rest)
    have behind := onward rest
    rw [List.append_assoc, List.singleton_append] at above
    rw [List.append_assoc, List.cons_append] at behind
    exact .head (.visit new known) (above.trans behind)

/-- Types that are walked one after the other are walked in two parts. -/
theorem Preorder.append_inv {left right : List Nat}
    (walked : tables.Preorder before (left ++ right) visits) :
    ∃ first second, visits = first ++ second ∧ tables.Preorder before left first ∧
      tables.Preorder (before ++ first) right second := by
  generalize both : left ++ right = types at walked
  induction walked generalizing left with
  | done before =>
    obtain ⟨rfl, rfl⟩ := List.append_eq_nil_iff.1 both
    exact ⟨[], [], rfl, .done before, .done _⟩
  | @skip before types visits id met others ih =>
    cases left with
    | nil =>
      cases both
      exact ⟨[], visits, rfl, .done before, by rw [List.append_nil]; exact .skip met others⟩
    | cons other left =>
      obtain ⟨rfl, behind⟩ := List.cons.inj both
      obtain ⟨first, second, rfl, here, there⟩ := ih behind
      exact ⟨first, second, rfl, .skip met here, there⟩
  | @visit before types inner others id data new known upward onward _ ih =>
    cases left with
    | nil =>
      cases both
      refine ⟨[], _, rfl, .done before, ?_⟩
      rw [List.append_nil]
      exact .visit new known upward onward
    | cons other left =>
      obtain ⟨rfl, behind⟩ := List.cons.inj both
      obtain ⟨first, second, rfl, here, there⟩ := ih behind
      refine ⟨other :: (inner ++ first), second, ?_, .visit new known upward here, ?_⟩
      · rw [List.cons_append, List.append_assoc]
      · rwa [List.append_assoc, List.cons_append] at there

/-- What the loop has visited when nothing is pending any more, the recursion visits. -/
theorem preorder_of_rounds {walk : Walk} (run : ReflTransGen tables.Round walk ⟨visited, []⟩) :
    ∃ visits, visited = walk.visited ++ visits ∧
      tables.Preorder walk.visited walk.pending visits := by
  induction run using ReflTransGen.head_induction_on with
  | refl => exact ⟨[], (List.append_nil _).symm, .done _⟩
  | head round _ ih =>
    obtain ⟨visits, same, walked⟩ := ih
    cases round with
    | skip met => exact ⟨visits, same, .skip met walked⟩
    | @visit before rest id data new known =>
      obtain ⟨inner, others, rfl, upward, onward⟩ := walked.append_inv
      refine ⟨id :: (inner ++ others), ?_, .visit new known upward ?_⟩
      · rw [same, List.append_assoc, List.singleton_append]
      · rwa [List.append_assoc, List.singleton_append] at onward

/-- The recursion visits types that can be read. -/
theorem Preorder.reads {types : List Nat} (walked : tables.Preorder before types visits) :
    ∀ id ∈ visits, ∃ data, tables.typeData id = .ok data := by
  induction walked with
  | done before => exact List.forall_mem_nil _
  | skip met _ ih => exact ih
  | visit new known _ _ upward onward =>
    exact List.forall_mem_cons.2 ⟨⟨_, known⟩, List.forall_mem_append.2 ⟨upward, onward⟩⟩

/-! ## The walk is the loop -/

/-- The types that a walk may still visit are those of the snapshot that it has not visited. -/
structure LeftOver (tables : Tables) (visited unvisited : List Nat) : Prop where
  distinct : unvisited.Nodup
  reads : ∀ id ∈ visited, ∃ data, tables.typeData id = .ok data
  mem_iff : ∀ id, id ∈ unvisited ↔ id < tables.typeCount ∧ id ∉ visited

theorem leftOver_start (tables : Tables) : tables.LeftOver [] tables.typeIds where
  distinct := List.nodup_range
  reads := List.forall_mem_nil _
  mem_iff id := by rw [typeIds, List.mem_range, and_iff_left List.not_mem_nil]

theorem LeftOver.visit {unvisited : List Nat} (left : tables.LeftOver visited unvisited) {id : Nat}
    {data : TypeData} (known : tables.typeData id = .ok data) :
    tables.LeftOver (visited ++ [id]) (unvisited.erase id) where
  distinct := left.distinct.erase id
  reads := List.forall_mem_append.2 ⟨left.reads, List.forall_mem_singleton.2 ⟨data, known⟩⟩
  mem_iff other := by
    rw [left.distinct.mem_erase_iff, left.mem_iff, List.mem_append, List.mem_singleton, not_or]
    exact and_rotate

/-- **The walk lists what the loop visits.**  The loop cannot go on in two ways, so each round is
one step of the walk. -/
theorem walkUp_eq_ok_iff_rounds {unvisited : List Nat} (left : tables.LeftOver visited unvisited) :
    walkUp tables.above unvisited pending = .ok order ↔
      ReflTransGen tables.Round ⟨visited, pending⟩ ⟨visited ++ order, []⟩ := by
  induction unvisited, pending using walkUp.induct generalizing visited order with
  | case1 unvisited =>
    rw [walkUp]
    constructor
    · intro run
      cases run
      rw [List.append_nil]
    · intro run
      obtain same | ⟨next, round, -⟩ := ReflTransGen.cases_head run
      · obtain ⟨same, -⟩ := Walk.mk.inj same
        rw [List.self_eq_append_right.1 same]
      · cases round
  | case2 unvisited id rest ihVisit ihSkip =>
    constructor
    · intro run
      obtain ⟨following, known, step⟩ := walkUp_cons_eq_ok.1 run
      obtain ⟨data, read, rfl⟩ := Outcome.map_eq_ok.1 known
      rcases step with ⟨fresh, others, onward, rfl⟩ | ⟨old, onward⟩
      · have rounds := (ihVisit data.above fresh (left.visit read)).1 onward
        rw [List.append_assoc, List.singleton_append] at rounds
        exact .head (.visit ((left.mem_iff id).1 fresh).2 read) rounds
      · have met : id ∈ visited := by
          by_contra unmet
          exact old ((left.mem_iff id).2 ⟨typeData_lt read, unmet⟩)
        exact .head (.skip met) ((ihSkip left).1 onward)
    · intro run
      obtain same | ⟨next, round, rounds⟩ := ReflTransGen.cases_head run
      · cases (Walk.mk.inj same).2
      · cases round with
        | skip met =>
          obtain ⟨data, read⟩ := left.reads id met
          have old : id ∉ unvisited := fun fresh => ((left.mem_iff id).1 fresh).2 met
          exact walkUp_cons_eq_ok.2
            ⟨data.above, Outcome.map_eq_ok.2 ⟨data, read, rfl⟩, .inr ⟨old, (ihSkip left).2 rounds⟩⟩
        | @visit _ _ _ data new read =>
          have fresh := (left.mem_iff id).2 ⟨typeData_lt read, new⟩
          obtain ⟨others, same, -⟩ := preorder_of_rounds rounds
          obtain rfl : order = id :: others := by
            rw [List.append_assoc, List.append_cancel_left_eq] at same
            exact same
          rw [List.append_cons visited id others] at rounds
          exact walkUp_cons_eq_ok.2 ⟨data.above, Outcome.map_eq_ok.2 ⟨data, read, rfl⟩,
            .inl ⟨fresh, others, (ihVisit data.above fresh (left.visit read)).2 rounds, rfl⟩⟩

theorem inherited_eq_ok_iff_rounds {id : Nat} :
    tables.inherited id = .ok order ↔ ReflTransGen tables.Round ⟨[], [id]⟩ ⟨order, []⟩ :=
  walkUp_eq_ok_iff_rounds tables.leftOver_start

theorem inherited_eq_ok_iff_preorder {id : Nat} :
    tables.inherited id = .ok order ↔ tables.Preorder [] [id] order := by
  rw [inherited_eq_ok_iff_rounds]
  constructor
  · intro run
    obtain ⟨visits, rfl, walked⟩ := preorder_of_rounds run
    exact walked
  · exact fun walked => walked.rounds []

/-- **The inheritance walk is the recursive one.**  The loop ends on every hierarchy.  The walk
gives a list exactly when every type that steps up lead to can be read.  The list is what the
recursion visits and what the loop has visited in the end, and it has each type that steps up lead
to once. -/
theorem inherited_preorder (tables : Tables) (id : Nat) :
    Descent.Ends tables.Round ⟨[], [id]⟩ ∧
    ((∃ visits, tables.inherited id = .ok visits) ↔
      ∀ other, ReflTransGen tables.Above id other → ∃ data, tables.typeData other = .ok data) ∧
    ∀ visits,
      (tables.inherited id = .ok visits ↔ tables.Preorder [] [id] visits) ∧
      (tables.inherited id = .ok visits ↔
        ReflTransGen tables.Round ⟨[], [id]⟩ ⟨visits, []⟩) ∧
      (tables.inherited id = .ok visits →
        visits.Nodup ∧ ∀ other, other ∈ visits ↔ ReflTransGen tables.Above id other) := by
  refine ⟨Walk.ends tables _, ⟨?_, fun reads => ?_⟩, fun visits =>
    ⟨inherited_eq_ok_iff_preorder, inherited_eq_ok_iff_rounds, inherited_spec⟩⟩
  · rintro ⟨visits, run⟩ other way
    exact (inherited_eq_ok_iff_preorder.1 run).reads other (((inherited_spec run).2 other).2 way)
  · exact walkUp_ok (List.forall_mem_singleton.2 reads)

end Tables

/-- Three classes on a cycle: the first one extends the second and implements the third, the second
implements the third, and the third one the first. -/
def Snapshot.knottedClasses : Snapshot :=
  { empty with
    types := [
      .object [("i", .nat 2), ("n", .nat 0), ("s", .nat 1)],
      .object [("i", .nat 2), ("n", .nat 1)],
      .object [("i", .nat 0), ("n", .nat 2)]]
    names := [.text "First", .text "Second", .text "Third"] }

/-- The third class is pending twice and visited once, above the second one. -/
theorem Tables.inherited_preorder_knottedClasses :
    (Tables.ofSnapshot .knottedClasses).inherited 0 = .ok [0, 1, 2] ∧
      [0, 1, 2].Nodup ∧ ReflTransGen (Tables.ofSnapshot .knottedClasses).Above 0 2 := by
  have firstRead : (Tables.ofSnapshot .knottedClasses).typeData 0 = .ok _ := rfl
  have secondRead : (Tables.ofSnapshot .knottedClasses).typeData 1 = .ok _ := rfl
  have thirdRead : (Tables.ofSnapshot .knottedClasses).typeData 2 = .ok _ := rfl
  have back : (Tables.ofSnapshot .knottedClasses).Preorder [0, 1, 2] [0] [] :=
    .skip (by decide) (.done _)
  have third : (Tables.ofSnapshot .knottedClasses).Preorder [0, 1] [2] [2] :=
    Preorder.visit (show 2 ∉ [0, 1] by decide) thirdRead back (.done _)
  have again : (Tables.ofSnapshot .knottedClasses).Preorder [0, 1, 2] [2] [] :=
    .skip (by decide) (.done _)
  have second : (Tables.ofSnapshot .knottedClasses).Preorder [0] [1, 2] [1, 2] :=
    Preorder.visit (show 1 ∉ [0] by decide) secondRead third again
  have first : (Tables.ofSnapshot .knottedClasses).Preorder [] [0] [0, 1, 2] :=
    Preorder.visit List.not_mem_nil firstRead second (.done _)
  obtain ⟨-, -, lists⟩ := inherited_preorder (.ofSnapshot .knottedClasses) 0
  obtain ⟨recursive, -, spec⟩ := lists [0, 1, 2]
  have run := recursive.2 first
  exact ⟨run, (spec run).1, ((spec run).2 2).1 (by decide)⟩

end ClassAtlas

import ClassAtlas.Proofs.Index.Ancestors

/-!
# The inheritance walk

The walk from a type lists nothing but what steps up lead to (`walkUp_sound`).  What it lists is
closed under steps up as far as the types were not visited before (`walkUp_closed`), so from a fresh
start it lists everything that steps up lead to, each type once (`inherited_spec`).  It fails only
at a type on its way that cannot be read, and where the hierarchy could be read there is none
(`inherited_eq_ok`).
-/

set_option autoImplicit false

namespace ClassAtlas.Tables

open Relation (ReflTransGen)

variable {tables : Tables} {unvisited pending order : List Nat} {id : Nat}

theorem above_iff {id parent : Nat} :
    tables.Above id parent ↔ ∃ parents, tables.above id = .ok parents ∧ parent ∈ parents := by
  constructor
  · rintro ⟨data, known, member⟩
    exact ⟨data.above, Outcome.map_eq_ok.2 ⟨data, known, rfl⟩, member⟩
  · rintro ⟨parents, known, member⟩
    obtain ⟨data, read, rfl⟩ := Outcome.map_eq_ok.1 known
    exact ⟨data, read, member⟩

/-- One step of the walk: the first pending type is visited, or it was visited before. -/
theorem walkUp_cons_eq_ok {above : Nat → Except Fault (List Nat)} {rest : List Nat} :
    walkUp above unvisited (id :: rest) = .ok order ↔
      ∃ following, above id = .ok following ∧
        ((id ∈ unvisited ∧ ∃ others,
            walkUp above (unvisited.erase id) (following ++ rest) = .ok others ∧
              order = id :: others) ∨
          (id ∉ unvisited ∧ walkUp above unvisited rest = .ok order)) := by
  rw [walkUp, Outcome.bind_eq_ok]
  refine exists_congr fun following => and_congr_right fun _ => ?_
  by_cases new : id ∈ unvisited
  · rw [dif_pos new, Outcome.bind_eq_ok]
    simp only [Outcome.pure_eq, Except.ok.injEq, new, true_and, not_true_eq_false, false_and,
      or_false, eq_comm]
  · rw [dif_neg new]
    simp only [new, false_and, false_or, not_false_eq_true, true_and]

/-- The walk lists only what steps up lead to from what was pending. -/
theorem walkUp_sound (run : walkUp tables.above unvisited pending = .ok order) :
    ∀ id ∈ order, ∃ start ∈ pending, ReflTransGen tables.Above start id := by
  induction unvisited, pending using walkUp.induct generalizing order with
  | case1 unvisited =>
    rw [walkUp] at run
    cases run
    simp
  | case2 unvisited first rest ihVisit ihSkip =>
    obtain ⟨following, known, ⟨new, others, onward, rfl⟩ | ⟨old, onward⟩⟩ := walkUp_cons_eq_ok.1 run
    · refine List.forall_mem_cons.2 ⟨⟨first, List.mem_cons_self, .refl⟩, fun id member => ?_⟩
      obtain ⟨start, listed, way⟩ := ihVisit following new onward id member
      rcases List.mem_append.1 listed with parent | waiting
      · exact ⟨first, List.mem_cons_self, .head (above_iff.2 ⟨following, known, parent⟩) way⟩
      · exact ⟨start, List.mem_cons_of_mem _ waiting, way⟩
    · intro id member
      obtain ⟨start, listed, way⟩ := ihSkip onward id member
      exact ⟨start, List.mem_cons_of_mem _ listed, way⟩

/-- The walk lists what is pending and what is above a listed type, unless it was visited before. -/
theorem walkUp_closed (run : walkUp tables.above unvisited pending = .ok order) :
    (∀ id ∈ pending, id ∈ unvisited → id ∈ order) ∧
      ∀ id ∈ order, ∀ parent, tables.Above id parent → parent ∈ unvisited → parent ∈ order := by
  induction unvisited, pending using walkUp.induct generalizing order with
  | case1 unvisited =>
    rw [walkUp] at run
    cases run
    simp
  | case2 unvisited first rest ihVisit ihSkip =>
    obtain ⟨following, known, ⟨new, others, onward, rfl⟩ | ⟨old, onward⟩⟩ := walkUp_cons_eq_ok.1 run
    · obtain ⟨pendingListed, closed⟩ := ihVisit following new onward
      have listed : ∀ id ∈ following ++ rest, id ∈ unvisited → id ∈ first :: others := by
        intro id member fresh
        by_cases same : id = first
        · exact same ▸ List.mem_cons_self
        · exact List.mem_cons_of_mem _
            (pendingListed id member ((List.mem_erase_of_ne same).2 fresh))
      refine ⟨List.forall_mem_cons.2 ⟨fun _ => List.mem_cons_self, fun id member =>
        listed id (List.mem_append_right _ member)⟩, List.forall_mem_cons.2 ⟨?_, ?_⟩⟩
      · intro parent step fresh
        obtain ⟨parents, knownAgain, member⟩ := above_iff.1 step
        cases known.symm.trans knownAgain
        exact listed parent (List.mem_append_left _ member) fresh
      · intro id member parent step fresh
        by_cases same : parent = first
        · exact same ▸ List.mem_cons_self
        · exact List.mem_cons_of_mem _
            (closed id member parent step ((List.mem_erase_of_ne same).2 fresh))
    · obtain ⟨pendingListed, closed⟩ := ihSkip onward
      exact ⟨List.forall_mem_cons.2 ⟨fun fresh => absurd fresh old, pendingListed⟩, closed⟩

/-- The walk visits only types that were not visited before, and each of them once. -/
theorem walkUp_distinct {above : Nat → Except Fault (List Nat)} (distinct : unvisited.Nodup)
    (run : walkUp above unvisited pending = .ok order) :
    order.Nodup ∧ ∀ id ∈ order, id ∈ unvisited := by
  induction unvisited, pending using walkUp.induct generalizing order with
  | case1 unvisited =>
    rw [walkUp] at run
    cases run
    exact ⟨.nil, List.forall_mem_nil _⟩
  | case2 unvisited first rest ihVisit ihSkip =>
    obtain ⟨following, known, ⟨new, others, onward, rfl⟩ | ⟨old, onward⟩⟩ := walkUp_cons_eq_ok.1 run
    · obtain ⟨once, inside⟩ := ihVisit following new (distinct.erase first) onward
      refine ⟨List.nodup_cons.2 ⟨fun again => ?_, once⟩, List.forall_mem_cons.2 ⟨new, ?_⟩⟩
      · exact absurd rfl (distinct.mem_erase_iff.1 (inside first again)).1
      · exact fun id member => List.mem_of_mem_erase (inside id member)
    · exact ihSkip distinct onward

/-- A walk that ends with a list has read all that was pending and all that is above it. -/
theorem walkUp_reads (run : walkUp tables.above unvisited pending = .ok order) :
    (∀ id ∈ pending, id < tables.typeCount) ∧
      ∀ id ∈ order, ∀ parent, tables.Above id parent → parent < tables.typeCount := by
  induction unvisited, pending using walkUp.induct generalizing order with
  | case1 unvisited =>
    rw [walkUp] at run
    cases run
    exact ⟨List.forall_mem_nil _, List.forall_mem_nil _⟩
  | case2 unvisited first rest ihVisit ihSkip =>
    obtain ⟨following, known, visit⟩ := walkUp_cons_eq_ok.1 run
    obtain ⟨data, read, -⟩ := Outcome.map_eq_ok.1 known
    rcases visit with ⟨new, others, onward, rfl⟩ | ⟨old, onward⟩
    · obtain ⟨inside, parents⟩ := ihVisit following new onward
      refine ⟨List.forall_mem_cons.2 ⟨typeData_lt read, ?_⟩, List.forall_mem_cons.2 ⟨?_, parents⟩⟩
      · exact fun id member => inside id (List.mem_append_right _ member)
      · intro parent step
        obtain ⟨parents, knownAgain, member⟩ := above_iff.1 step
        cases known.symm.trans knownAgain
        exact inside parent (List.mem_append_left _ member)
    · obtain ⟨inside, parents⟩ := ihSkip onward
      exact ⟨List.forall_mem_cons.2 ⟨typeData_lt read, inside⟩, parents⟩

/-- **A walk that ends with a list has listed each type that steps up lead to once.** -/
theorem inherited_spec (run : tables.inherited id = .ok order) :
    order.Nodup ∧ ∀ other, other ∈ order ↔ ReflTransGen tables.Above id other := by
  refine ⟨(walkUp_distinct List.nodup_range run).1, fun other => ⟨fun member => ?_, fun way => ?_⟩⟩
  · obtain ⟨start, listed, way⟩ := walkUp_sound run other member
    exact List.mem_singleton.1 listed ▸ way
  · obtain ⟨pendingListed, closed⟩ := walkUp_closed run
    obtain ⟨inside, parents⟩ := walkUp_reads run
    induction way with
    | refl =>
      exact pendingListed id List.mem_cons_self (List.mem_range.2 (inside id List.mem_cons_self))
    | tail before step ih => exact closed _ ih _ step (List.mem_range.2 (parents _ ih _ step))

/-- The walk ends with a list when every type on its ways can be read. -/
theorem walkUp_ok
    (reads : ∀ start ∈ pending, ∀ id, ReflTransGen tables.Above start id →
      ∃ data, tables.typeData id = .ok data) :
    ∃ order, walkUp tables.above unvisited pending = .ok order := by
  induction unvisited, pending using walkUp.induct with
  | case1 unvisited => exact ⟨[], by rw [walkUp]⟩
  | case2 unvisited first rest ihVisit ihSkip =>
    obtain ⟨data, known⟩ := reads first List.mem_cons_self first .refl
    have parents : tables.above first = .ok data.above := Outcome.map_eq_ok.2 ⟨data, known, rfl⟩
    by_cases new : first ∈ unvisited
    · obtain ⟨others, run⟩ := ihVisit data.above new fun start listed id way => by
        rcases List.mem_append.1 listed with parent | waiting
        · exact reads first List.mem_cons_self id (.head ⟨data, known, parent⟩ way)
        · exact reads start (List.mem_cons_of_mem _ waiting) id way
      exact ⟨_, walkUp_cons_eq_ok.2 ⟨_, parents, .inl ⟨new, others, run, rfl⟩⟩⟩
    · obtain ⟨order, run⟩ := ihSkip fun start listed => reads start (List.mem_cons_of_mem _ listed)
      exact ⟨order, walkUp_cons_eq_ok.2 ⟨_, parents, .inr ⟨new, run⟩⟩⟩

/-- **Where the hierarchy can be read, the types listed for a type are exactly the types that steps
up lead to.** -/
theorem inherited_eq_ok {hierarchy : Hierarchy} (read : Hierarchy.ofTables tables = .ok hierarchy)
    (inside : id < tables.typeCount) :
    ∃ order, tables.inherited id = .ok order ∧
      ∀ other, other ∈ order ↔ ReflTransGen tables.Above id other := by
  have below : ∀ other, ReflTransGen tables.Above id other → other < tables.typeCount := by
    intro other way
    cases way with
    | refl => exact inside
    | tail _ step => exact Hierarchy.above_lt read step
  obtain ⟨order, run⟩ : ∃ order, tables.inherited id = .ok order := walkUp_ok
    (List.forall_mem_singleton.2 fun other way =>
      (Hierarchy.ofTables_row read (below other way)).imp fun _ => And.left)
  exact ⟨order, run, (inherited_spec run).2⟩

/-- A type with a list is a type of the snapshot. -/
theorem lt_of_inherited {order : List Nat} (run : tables.inherited id = .ok order) :
    id < tables.typeCount := by
  obtain ⟨_, known, -⟩ := walkUp_cons_eq_ok.1 run
  obtain ⟨data, read, -⟩ := Outcome.map_eq_ok.1 known
  exact typeData_lt read

/-- A type lists another one on its walk exactly when steps up lead to it. -/
theorem mem_inherited_iff {hierarchy : Hierarchy}
    (read : Hierarchy.ofTables tables = .ok hierarchy) {other : Nat} :
    (∃ order, tables.inherited id = .ok order ∧ other ∈ order) ↔
      id < tables.typeCount ∧ ReflTransGen tables.Above id other := by
  constructor
  · rintro ⟨order, walked, member⟩
    have inside := lt_of_inherited walked
    obtain ⟨order', walked', spec⟩ := inherited_eq_ok read inside
    cases walked.symm.trans walked'
    exact ⟨inside, (spec other).1 member⟩
  · rintro ⟨inside, way⟩
    obtain ⟨order, walked, spec⟩ := inherited_eq_ok read inside
    exact ⟨order, walked, (spec other).2 way⟩

end ClassAtlas.Tables

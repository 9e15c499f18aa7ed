import ClassAtlas.Index.Hierarchy
import ClassAtlas.Inheritance
import ClassAtlas.Proofs.Tables
import Mathlib.Data.List.Forall2
import Mathlib.Data.List.Nodup
import Mathlib.Logic.Relation
import Mathlib.Tactic.Set

/-!
# What lies above a type

A step up leads from a class to its super class and to its interfaces, and from a parameterized type
to its class.  The hierarchy read from a snapshot has exactly these steps (`ofTables_parentsOf`).

Ancestors are found in rounds.  What the rounds have met is free of repeats and lies inside the
snapshot, and only the last round still has steps that were not taken.  So as many rounds as there
are types are enough: the ancestors of a type are exactly the other types that steps lead to
(`mem_ancestors_iff`), on cyclic hierarchies too.
-/

set_option autoImplicit false

namespace ClassAtlas

open Relation (ReflTransGen)

namespace Tables

/-- A step up: the second type is the super class, an interface or the class of the first one. -/
def Above (tables : Tables) (id parent : Nat) : Prop :=
  ∃ data, tables.typeData id = .ok data ∧ parent ∈ data.above

theorem Above.lt {tables : Tables} {id parent : Nat} (step : tables.Above id parent) :
    id < tables.typeCount :=
  typeData_lt step.choose_spec.1

theorem checkRefs_eq_ok {tables : Tables} {refs : List TypeRef}
    (checked : tables.checkRefs refs = .ok ()) : ∀ ref ∈ refs, ref.id < tables.typeCount := by
  induction refs with
  | nil => simp
  | cons first rest ih =>
    obtain ⟨_, here, there⟩ := Outcome.bind_eq_ok.1 checked
    have inside : first.id < tables.typeCount := by
      by_contra outside
      simp [checkRef, outside] at here
    exact List.forall_mem_cons.2 ⟨inside, ih there⟩

theorem checkRefs_of_lt {tables : Tables} {refs : List TypeRef}
    (inside : ∀ ref ∈ refs, ref.id < tables.typeCount) : tables.checkRefs refs = .ok () := by
  induction refs with
  | nil => rfl
  | cons first rest ih =>
    obtain ⟨here, there⟩ := List.forall_mem_cons.1 inside
    rw [checkRefs, checkRef, if_pos here, Outcome.ok_bind, ih there]

end Tables

namespace Hierarchy

theorem parentRefs_map_id (data : TypeData) : (parentRefs data).map TypeRef.id = data.above := by
  cases data <;> rfl

/-- The parents that are read are the steps up of each type, and they lie inside the snapshot. -/
theorem readParents_eq_ok {tables : Tables} {ids : List Nat} {lists : List (List Nat)}
    (read : readParents tables ids = .ok lists) :
    List.Forall₂ (fun id parents => (∃ data, tables.typeData id = .ok data ∧ parents = data.above) ∧
      ∀ parent ∈ parents, parent < tables.typeCount) ids lists := by
  induction ids generalizing lists with
  | nil =>
    cases read
    exact .nil
  | cons id rest ih =>
    obtain ⟨data, known, read⟩ := Outcome.bind_eq_ok.1 read
    obtain ⟨_, checked, read⟩ := Outcome.bind_eq_ok.1 read
    obtain ⟨others, readRest, read⟩ := Outcome.bind_eq_ok.1 read
    cases read
    refine .cons ⟨⟨data, known, parentRefs_map_id data⟩, ?_⟩ (ih readRest)
    intro parent member
    obtain ⟨ref, listed, rfl⟩ := List.mem_map.1 member
    exact Tables.checkRefs_eq_ok checked ref listed

variable {tables : Tables} {hierarchy : Hierarchy}

theorem ofTables_size (read : ofTables tables = .ok hierarchy) :
    hierarchy.parents.size = tables.typeCount := by
  obtain ⟨lists, readLists, same⟩ := Outcome.bind_eq_ok.1 read
  cases same
  simpa [Tables.typeIds] using (readParents_eq_ok readLists).length_eq.symm

/-- The entry of a type holds its steps up, and they lie inside the snapshot. -/
theorem ofTables_row (read : ofTables tables = .ok hierarchy) {id : Nat}
    (inside : id < tables.typeCount) :
    ∃ data, tables.typeData id = .ok data ∧ hierarchy.parentsOf id = data.above ∧
      ∀ parent ∈ data.above, parent < tables.typeCount := by
  obtain ⟨lists, readLists, same⟩ := Outcome.bind_eq_ok.1 read
  cases same
  have rows := readParents_eq_ok readLists
  have left : id < tables.typeIds.length := by simpa [Tables.typeIds] using inside
  have right : id < lists.length := rows.length_eq ▸ left
  obtain ⟨⟨data, known, parents⟩, below⟩ := rows.get left right
  simp only [Tables.typeIds, List.get_eq_getElem, List.getElem_range] at known parents below
  refine ⟨data, known, ?_, parents ▸ below⟩
  simp [parentsOf, right, parents]

/-- **The hierarchy has exactly the steps up of the snapshot.** -/
theorem ofTables_parentsOf (read : ofTables tables = .ok hierarchy) (id parent : Nat) :
    parent ∈ hierarchy.parentsOf id ↔ tables.Above id parent := by
  by_cases inside : id < tables.typeCount
  · obtain ⟨data, known, parents, _⟩ := ofTables_row read inside
    rw [parents]
    constructor
    · intro member
      exact ⟨data, known, member⟩
    · rintro ⟨other, readAgain, member⟩
      rw [known] at readAgain
      cases readAgain
      exact member
  · have absent : hierarchy.parentsOf id = [] := by
      have beyond : hierarchy.parents.size ≤ id := by
        rw [ofTables_size read]
        exact Nat.le_of_not_lt inside
      simp [parentsOf, Array.getElem?_eq_none beyond]
    rw [absent]
    constructor
    · intro member
      cases member
    · intro step
      exact absurd step.lt inside

theorem above_lt (read : ofTables tables = .ok hierarchy) {id parent : Nat}
    (step : tables.Above id parent) : parent < tables.typeCount := by
  obtain ⟨data, known, _, below⟩ := ofTables_row read step.lt
  obtain ⟨other, readAgain, member⟩ := step
  rw [known] at readAgain
  cases readAgain
  exact below parent member

/-! ## Rounds -/

theorem mem_unmet_iff {met ids : List Nat} {id : Nat} :
    id ∈ unmet met ids ↔ id ∈ ids ∧ id ∉ met := by
  induction ids generalizing met with
  | nil => simp [unmet]
  | cons first rest ih =>
    by_cases known : first ∈ met
    · have : unmet met (first :: rest) = unmet met rest := by simp [unmet, known]
      rw [this, ih]
      constructor
      · rintro ⟨member, new⟩
        exact ⟨List.mem_cons_of_mem _ member, new⟩
      · rintro ⟨member, new⟩
        rcases List.mem_cons.1 member with rfl | member
        · exact absurd known new
        · exact ⟨member, new⟩
    · have : unmet met (first :: rest) = first :: unmet (first :: met) rest := by
        simp [unmet, known]
      rw [this, List.mem_cons, ih]
      by_cases same : id = first
      · subst same
        simp [known]
      · simp [same]

theorem nodup_unmet (met ids : List Nat) : (unmet met ids).Nodup := by
  induction ids generalizing met with
  | nil => exact .nil
  | cons first rest ih =>
    rw [unmet]
    split
    · exact ih met
    · exact List.nodup_cons.2 ⟨fun again => (mem_unmet_iff.1 again).2 List.mem_cons_self, ih _⟩

/-- The types that a round meets first are those right above the last ones that were not met
before. -/
theorem mem_round_iff (read : ofTables tables = .ok hierarchy) {met last : List Nat} {id : Nat} :
    id ∈ unmet met (last.flatMap hierarchy.parentsOf) ↔
      (∃ child ∈ last, tables.Above child id) ∧ id ∉ met := by
  rw [mem_unmet_iff, List.mem_flatMap]
  simp only [ofTables_parentsOf read]

/-- Nothing met by the rounds lies off the ways up. -/
theorem spread_sound {start : Nat} {rounds : Nat} {met last : List Nat}
    (read : ofTables tables = .ok hierarchy)
    (metReached : ∀ id ∈ met, ReflTransGen tables.Above start id)
    (lastMet : ∀ id ∈ last, id ∈ met) :
    ∀ id ∈ hierarchy.spread rounds met last, ReflTransGen tables.Above start id := by
  induction rounds generalizing met last with
  | zero => simpa [spread] using metReached
  | succ rounds ih =>
    cases last with
    | nil => simpa [spread] using metReached
    | cons first others =>
      rw [spread]
      refine ih ?_ (fun id fresh => List.mem_append_right _ fresh)
      intro id member
      rcases List.mem_append.1 member with old | fresh
      · exact metReached id old
      · obtain ⟨⟨child, inLast, step⟩, -⟩ := (mem_round_iff read).1 fresh
        exact (metReached child (lastMet child inLast)).tail step

/-- A list of types without repeats is not longer than the table. -/
theorem length_le_of_nodup {ids : List Nat} {count : Nat} (distinct : ids.Nodup)
    (inside : ∀ id ∈ ids, id < count) : ids.length ≤ count := by
  have part : ids ⊆ List.range count := fun id member => List.mem_range.2 (inside id member)
  simpa using distinct.length_le_of_subset part

/-- After a round, only types of this round can have a step up to a type that was not met. -/
theorem settled_round (read : ofTables tables = .ok hierarchy) {met last : List Nat}
    (settled : ∀ id ∈ met, id ∉ last → ∀ parent, tables.Above id parent → parent ∈ met) :
    ∀ id ∈ met ++ unmet met (last.flatMap hierarchy.parentsOf),
      id ∉ unmet met (last.flatMap hierarchy.parentsOf) → ∀ parent, tables.Above id parent →
        parent ∈ met ++ unmet met (last.flatMap hierarchy.parentsOf) := by
  intro id member old parent step
  have known : id ∈ met := (List.mem_append.1 member).resolve_right old
  by_cases here : parent ∈ met
  · exact List.mem_append_left _ here
  · by_cases recent : id ∈ last
    · exact List.mem_append_right _ ((mem_round_iff read).2 ⟨⟨id, recent, step⟩, here⟩)
    · exact absurd (settled id known recent parent step) here

/-- What the rounds end with is closed under steps up.  Each round that is not the last one meets a
new type, so the rounds do not run out before the types do. -/
theorem spread_closed (read : ofTables tables = .ok hierarchy) (rounds : Nat) (met last : List Nat)
    (distinct : met.Nodup) (inside : ∀ id ∈ met, id < tables.typeCount)
    (enough : last = [] ∨ tables.typeCount < rounds + met.length)
    (settled : ∀ id ∈ met, id ∉ last → ∀ parent, tables.Above id parent → parent ∈ met) :
    (∀ id ∈ met, id ∈ hierarchy.spread rounds met last) ∧
      ∀ id ∈ hierarchy.spread rounds met last, ∀ parent, tables.Above id parent →
        parent ∈ hierarchy.spread rounds met last := by
  have done : last = [] → ∀ id ∈ met, ∀ parent, tables.Above id parent → parent ∈ met := by
    rintro rfl id member
    exact settled id member List.not_mem_nil
  induction rounds generalizing met last with
  | zero =>
    have short := length_le_of_nodup distinct inside
    have finished : last = [] := enough.resolve_right (by omega)
    simpa [spread] using done finished
  | succ rounds ih =>
    cases last with
    | nil => simpa [spread] using done rfl
    | cons first others =>
      rw [spread]
      have settled' := settled_round read settled
      set fresh := unmet met ((first :: others).flatMap hierarchy.parentsOf)
      have step := ih (met ++ fresh) fresh ?_ ?_ ?_ settled' ?_
      · exact ⟨fun id member => step.1 id (List.mem_append_left _ member), step.2⟩
      · refine List.nodup_append.2 ⟨distinct, nodup_unmet _ _, ?_⟩
        intro id old other new same
        exact ((mem_round_iff read).1 (same ▸ new)).2 old
      · intro id member
        rcases List.mem_append.1 member with old | new
        · exact inside id old
        · obtain ⟨⟨child, _, step⟩, _⟩ := (mem_round_iff read).1 new
          exact above_lt read step
      · rcases Nat.eq_zero_or_pos fresh.length with none | some
        · exact .inl (List.length_eq_zero_iff.1 none)
        · refine .inr ?_
          have more := enough.resolve_left (by simp)
          rw [List.length_append]
          omega
      · intro finished id member
        exact settled' id member (by simp [finished])

/-- **The ancestors of a type are the other types that steps up lead to.** -/
theorem mem_ancestors_iff (read : ofTables tables = .ok hierarchy) {id : Nat}
    (inside : id < tables.typeCount) (ancestor : Nat) :
    ancestor ∈ hierarchy.ancestors id ↔ ReflTransGen tables.Above id ancestor ∧ ancestor ≠ id := by
  simp only [ancestors, List.mem_filter, ne_eq, decide_not, Bool.not_eq_true',
    decide_eq_false_iff_not]
  refine and_congr_left fun _ => ⟨fun member => ?_, fun way => ?_⟩
  · refine spread_sound read ?_ ?_ ancestor member
    · intro met member
      rw [List.mem_singleton.1 member]
    · intro met member
      exact member
  · clear * - read inside way
    obtain ⟨kept, closed⟩ := spread_closed read hierarchy.parents.size [id] [id]
      (List.nodup_singleton id) (by simpa using inside)
      (.inr (by rw [ofTables_size read]; simp)) (fun other member open_ => absurd member open_)
    induction way with
    | refl => exact kept id List.mem_cons_self
    | tail _ step ih => exact closed _ ih _ step

end Hierarchy

end ClassAtlas

import ClassAtlas.Proofs.Tables
import ClassAtlas.Related
import Mathlib.Data.Finset.Card
import Mathlib.Data.List.Nodup

/-!
# Related classes are listed by distance

A step leads from a type to one of its direct supertypes, and the distance of a type is the smallest
number of steps to it.  The classes around a type are looked for in levels: what is met before a
level is what is nearer, the level is what lies at its distance, and its own supertypes that are new
are the next one (`further_levels`).  No type is farther away than there are types, so the levels do
not run out, not even on cyclic hierarchies (`AtDistance.le_typeCount`).

Seen as a whole the listing explains itself: it is the supertypes of the type followed by those of
everything listed, in the order of the listing, each type at its first place (`FirstPlaces`).  From
this every entry has its label.  The class around the type and those inside it come last, as far as
they are not listed before (`relatedClasses_breadthFirst`).
-/

set_option autoImplicit false

namespace ClassAtlas

/-- Whether a relatedness is that of a super class or an interface of the type itself. -/
def Relatedness.Direct (relation : Relatedness) : Prop :=
  relation = .extended ∨ relation = .implemented

namespace RelatedClass

/-- A related class that is reached through another one. -/
def indirectly (related : RelatedClass) : RelatedClass :=
  { related with relation := related.relation.indirect }

/-- The ids of listed types. -/
def ids (listed : List RelatedClass) : List Nat :=
  listed.map fun related => related.type.id

@[simp] theorem ids_nil : ids [] = [] :=
  rfl

@[simp] theorem ids_cons (related : RelatedClass) (rest : List RelatedClass) :
    ids (related :: rest) = related.type.id :: ids rest :=
  rfl

@[simp] theorem ids_append (left right : List RelatedClass) :
    ids (left ++ right) = ids left ++ ids right :=
  List.map_append

theorem mem_ids_iff {listed : List RelatedClass} {id : Nat} :
    id ∈ ids listed ↔ ∃ related ∈ listed, related.type.id = id :=
  List.mem_map

/-! ## First places -/

/-- Of all that is listed, the types that were not met before, each at its first place. -/
structure FirstPlaces (met : List Nat) (all kept : List RelatedClass) : Prop where
  ordered : kept.Sublist all
  distinct : (ids kept).Nodup
  mem_iff : ∀ related, related ∈ kept ↔ related.type.id ∉ met ∧
    all.find? (fun other => other.type.id == related.type.id) = some related

variable {met : List Nat} {all kept : List RelatedClass}

/-- What is kept are the types that were not met before. -/
theorem FirstPlaces.mem_ids_iff (first : FirstPlaces met all kept) {id : Nat} :
    id ∈ ids kept ↔ id ∈ ids all ∧ id ∉ met := by
  constructor
  · intro member
    obtain ⟨related, listed, rfl⟩ := RelatedClass.mem_ids_iff.1 member
    refine ⟨RelatedClass.mem_ids_iff.2 ⟨related, first.ordered.subset listed, rfl⟩, ?_⟩
    exact ((first.mem_iff related).1 listed).1
  · rintro ⟨member, new⟩
    obtain ⟨related, listed, rfl⟩ := RelatedClass.mem_ids_iff.1 member
    have present : (all.find? fun other => other.type.id == related.type.id).isSome :=
      List.find?_isSome.2 ⟨related, listed, beq_self_eq_true _⟩
    obtain ⟨place, found⟩ := Option.isSome_iff_exists.1 present
    have same : place.type.id = related.type.id := by simpa using List.find?_some found
    refine RelatedClass.mem_ids_iff.2 ⟨place, (first.mem_iff place).2 ?_, same⟩
    rw [same]
    exact ⟨new, found⟩

theorem unmet_cons_of_mem {related : RelatedClass} (known : related.type.id ∈ met) :
    unmet met (related :: all) = unmet met all := by
  simp [unmet, known]

theorem unmet_cons_of_not_mem {related : RelatedClass} (new : related.type.id ∉ met) :
    unmet met (related :: all) =
      (related :: (unmet (related.type.id :: met) all).1,
        (unmet (related.type.id :: met) all).2) := by
  simp [unmet, new]

theorem unmet_append (met : List Nat) (left right : List RelatedClass) :
    unmet met (left ++ right) =
      ((unmet met left).1 ++ (unmet (unmet met left).2 right).1,
        (unmet (unmet met left).2 right).2) := by
  induction left generalizing met with
  | nil => simp [unmet]
  | cons related rest ih =>
    by_cases known : related.type.id ∈ met
    · rw [List.cons_append, unmet_cons_of_mem known, unmet_cons_of_mem known, ih]
    · rw [List.cons_append, unmet_cons_of_not_mem known, unmet_cons_of_not_mem known, ih]
      rfl

/-- What is met afterwards is what was met before and all that is listed. -/
theorem mem_unmet_snd_iff {id : Nat} :
    id ∈ (unmet met all).2 ↔ id ∈ met ∨ id ∈ ids all := by
  induction all generalizing met with
  | nil => simp [unmet]
  | cons related rest ih =>
    by_cases known : related.type.id ∈ met
    · rw [unmet_cons_of_mem known, ih, ids_cons, List.mem_cons]
      constructor
      · rintro (old | later)
        · exact .inl old
        · exact .inr (.inr later)
      · rintro (old | rfl | later)
        · exact .inl old
        · exact .inl known
        · exact .inr later
    · rw [unmet_cons_of_not_mem known, ih, ids_cons, List.mem_cons, List.mem_cons]
      tauto

/-- **What is not met before is kept at its first place.** -/
theorem unmet_firstPlaces (met : List Nat) (all : List RelatedClass) :
    FirstPlaces met all (unmet met all).1 := by
  induction all generalizing met with
  | nil => exact ⟨.slnil, .nil, by simp [unmet]⟩
  | cons related rest ih =>
    by_cases known : related.type.id ∈ met
    · rw [unmet_cons_of_mem known]
      obtain ⟨ordered, distinct, mem_iff⟩ := ih met
      refine ⟨ordered.cons related, distinct, fun other => (mem_iff other).trans ?_⟩
      refine and_congr_right fun new => ?_
      have apart : (related.type.id == other.type.id) = false := by
        refine beq_false_of_ne fun same => new ?_
        rwa [← same]
      rw [List.find?_cons, apart]
    · rw [unmet_cons_of_not_mem known]
      obtain ⟨ordered, distinct, mem_iff⟩ := ih (related.type.id :: met)
      refine ⟨ordered.cons_cons related, ?_, fun other => ?_⟩
      · refine List.nodup_cons.2 ⟨fun again => ?_, distinct⟩
        obtain ⟨other, listed, same⟩ := RelatedClass.mem_ids_iff.1 again
        exact ((mem_iff other).1 listed).1 (same ▸ List.mem_cons_self)
      · rw [List.mem_cons, mem_iff, List.find?_cons, List.mem_cons]
        by_cases same : related.type.id = other.type.id
        · rw [same, beq_self_eq_true]
          rw [same] at known
          constructor
          · rintro (rfl | ⟨new, _⟩)
            · exact ⟨known, rfl⟩
            · exact absurd (.inl rfl) new
          · rintro ⟨_, found⟩
            exact .inl (Option.some.inj found).symm
        · rw [beq_false_of_ne same]
          constructor
          · rintro (rfl | ⟨new, found⟩)
            · exact absurd rfl same
            · exact ⟨fun old => new (.inr old), found⟩
          · rintro ⟨new, found⟩
            refine .inr ⟨?_, found⟩
            rintro (again | old)
            · exact same again.symm
            · exact new old

end RelatedClass

/-! ## Distances -/

namespace Tables

/-- The direct supertypes of a type as they are written, the super class first; a parameterized type
has those of its class. -/
def supertypesOf (tables : Tables) (id : Nat) : List RelatedClass :=
  match tables.typeData id with
  | .ok (.rawClass record) => RelatedClass.ofClass record
  | .ok (.parameterized record) =>
    match tables.typeData record.rawType.id with
    | .ok (.rawClass raw) => RelatedClass.ofClass raw
    | _ => []
  | _ => []

/-- A type is reached from another one by so many steps to direct supertypes. -/
inductive Reaches (tables : Tables) (start : Nat) : Nat → Nat → Prop where
  | start : Reaches tables start 0 start
  | step {steps id : Nat} {edge : RelatedClass} (earlier : Reaches tables start steps id)
      (written : edge ∈ tables.supertypesOf id) : Reaches tables start (steps + 1) edge.type.id

/-- A type is so many steps away from another one, and no fewer. -/
structure AtDistance (tables : Tables) (start steps id : Nat) : Prop where
  reached : tables.Reaches start steps id
  least : ∀ {fewer : Nat}, tables.Reaches start fewer id → steps ≤ fewer

variable {tables : Tables} {start : Nat}

theorem lt_of_mem_supertypesOf {id : Nat} {edge : RelatedClass}
    (written : edge ∈ tables.supertypesOf id) : id < tables.typeCount := by
  cases read : tables.typeData id with
  | ok data => exact typeData_lt read
  | error fault => simp [supertypesOf, read] at written

theorem reaches_zero_iff {id : Nat} : tables.Reaches start 0 id ↔ id = start := by
  constructor
  · intro reached
    cases reached
    rfl
  · rintro rfl
    exact .start

theorem atDistance_zero_iff {id : Nat} : tables.AtDistance start 0 id ↔ id = start := by
  constructor
  · intro away
    exact reaches_zero_iff.1 away.reached
  · rintro rfl
    exact ⟨.start, fun _ => Nat.zero_le _⟩

theorem AtDistance.unique {steps more id : Nat} (here : tables.AtDistance start steps id)
    (there : tables.AtDistance start more id) : steps = more :=
  Nat.le_antisymm (here.least there.reached) (there.least here.reached)

/-- What is reached at all has a distance. -/
theorem Reaches.exists_atDistance {steps id : Nat} (reached : tables.Reaches start steps id) :
    ∃ fewest ≤ steps, tables.AtDistance start fewest id := by
  induction steps using Nat.strong_induction_on with
  | _ steps ih =>
    by_cases shorter : ∃ fewer < steps, tables.Reaches start fewer id
    · obtain ⟨fewer, less, again⟩ := shorter
      obtain ⟨fewest, within, away⟩ := ih fewer less again
      exact ⟨fewest, Nat.le_trans within (Nat.le_of_lt less), away⟩
    · refine ⟨steps, Nat.le_refl _, reached, fun {fewer} again => ?_⟩
      exact Nat.le_of_not_lt fun less => shorter ⟨fewer, less, again⟩

/-- A type lies one step farther than a level when it is a supertype of one in the level and is not
reached in fewer steps. -/
theorem atDistance_succ_iff {steps id : Nat} :
    tables.AtDistance start (steps + 1) id ↔
      (∃ source, tables.AtDistance start steps source ∧
        id ∈ RelatedClass.ids (tables.supertypesOf source)) ∧
      ¬∃ fewer ≤ steps, tables.Reaches start fewer id := by
  constructor
  · rintro ⟨reached, least⟩
    refine ⟨?_, ?_⟩
    · cases reached with
      | @step _ source edge earlier written =>
        obtain ⟨fewest, within, away⟩ := earlier.exists_atDistance
        have same : fewest = steps := by
          have enough := least (.step away.reached written)
          omega
        exact ⟨source, same ▸ away, RelatedClass.mem_ids_iff.2 ⟨edge, written, rfl⟩⟩
    · rintro ⟨fewer, within, again⟩
      have enough := least again
      omega
  · rintro ⟨⟨source, away, member⟩, farther⟩
    obtain ⟨edge, written, rfl⟩ := RelatedClass.mem_ids_iff.1 member
    refine ⟨.step away.reached written, fun {fewer} again => ?_⟩
    exact Nat.succ_le_of_lt (Nat.lt_of_not_le fun within => farther ⟨fewer, within, again⟩)

/-- There are types at every distance up to that of a type. -/
theorem AtDistance.exists_nearer {steps nearer id : Nat} (away : tables.AtDistance start steps id)
    (within : nearer ≤ steps) : ∃ other, tables.AtDistance start nearer other := by
  induction steps generalizing id with
  | zero => exact ⟨id, Nat.le_zero.1 within ▸ away⟩
  | succ steps ih =>
    rcases Nat.lt_or_eq_of_le within with less | rfl
    · obtain ⟨⟨source, before, -⟩, -⟩ := atDistance_succ_iff.1 away
      exact ih before (Nat.le_of_lt_succ less)
    · exact ⟨id, away⟩

/-- **No type is farther away than there are types.**  Before a type lies one at each smaller
distance, and these are different types of the snapshot. -/
theorem AtDistance.le_typeCount {steps id : Nat} (away : tables.AtDistance start steps id) :
    steps ≤ tables.typeCount := by
  have path : ∃ passed : Finset Nat, passed.card = steps ∧ passed ⊆ Finset.range tables.typeCount ∧
      ∀ other ∈ passed, ∃ nearer < steps, tables.AtDistance start nearer other := by
    induction steps generalizing id with
    | zero => exact ⟨∅, rfl, Finset.empty_subset _, fun _ listed => absurd listed (by simp)⟩
    | succ steps ih =>
      obtain ⟨⟨source, before, member⟩, -⟩ := atDistance_succ_iff.1 away
      obtain ⟨passed, size, inside, nearer⟩ := ih before
      have new : source ∉ passed := by
        intro again
        obtain ⟨less, smaller, once⟩ := nearer source again
        exact absurd (before.unique once) (Nat.ne_of_gt smaller)
      obtain ⟨edge, written, -⟩ := RelatedClass.mem_ids_iff.1 member
      refine ⟨insert source passed, ?_, ?_, ?_⟩
      · rw [Finset.card_insert_of_notMem new, size]
      · exact Finset.insert_subset (Finset.mem_range.2 (lt_of_mem_supertypesOf written)) inside
      · intro other listed
        rcases Finset.mem_insert.1 listed with rfl | listed
        · exact ⟨steps, Nat.lt_succ_self steps, before⟩
        · obtain ⟨less, smaller, once⟩ := nearer other listed
          exact ⟨less, Nat.lt_succ_of_lt smaller, once⟩
  obtain ⟨passed, size, inside, -⟩ := path
  have most := Finset.card_le_card inside
  rwa [size, Finset.card_range] at most

end Tables

/-! ## Levels -/

namespace RelatedClass

open Tables (AtDistance Reaches)

variable {tables : Tables}

/-- The supertypes of some types, one type after the other, as they are listed for another type. -/
def onward (tables : Tables) (refs : List TypeRef) : List RelatedClass :=
  refs.flatMap fun ref => (tables.supertypesOf ref.id).map indirectly

theorem onward_append (left right : List TypeRef) :
    onward tables (left ++ right) = onward tables left ++ onward tables right :=
  List.flatMap_append

theorem mem_onward_iff {refs : List TypeRef} {related : RelatedClass} :
    related ∈ onward tables refs ↔
      ∃ ref ∈ refs, ∃ edge ∈ tables.supertypesOf ref.id, edge.indirectly = related := by
  simp only [onward, List.mem_flatMap, List.mem_map]

theorem mem_ids_onward_iff {refs : List TypeRef} {id : Nat} :
    id ∈ ids (onward tables refs) ↔ ∃ ref ∈ refs, id ∈ ids (tables.supertypesOf ref.id) := by
  simp only [mem_ids_iff, mem_onward_iff]
  constructor
  · rintro ⟨_, ⟨ref, listed, edge, written, rfl⟩, rfl⟩
    exact ⟨ref, listed, edge, written, rfl⟩
  · rintro ⟨ref, listed, edge, written, rfl⟩
    exact ⟨edge.indirectly, ⟨ref, listed, edge, written, rfl⟩, rfl⟩

theorem direct_eq {id : Nat} {data : TypeData} {found : List RelatedClass}
    (known : tables.typeData id = .ok data) (run : direct tables data = .ok found) :
    found = tables.supertypesOf id := by
  cases data with
  | rawClass record =>
    cases run
    simp [Tables.supertypesOf, known]
  | parameterized record =>
    obtain ⟨cls, read, given⟩ := Outcome.bind_eq_ok.1 run
    obtain ⟨raw, knownRaw, rfl⟩ := Outcome.map_eq_ok.1 read
    cases given
    cases raw <;> simp [Tables.supertypesOf, known, knownRaw, TypeData.asClass?]
  | typeVariable record =>
    cases run
    simp [Tables.supertypesOf, known]
  | wildcard record =>
    cases run
    simp [Tables.supertypesOf, known]

/-- The next level is what is new among the supertypes of a level. -/
theorem nextLevel_eq {met : List Nat} {level : List TypeRef}
    {fresh : List RelatedClass × List Nat} (run : nextLevel tables met level = .ok fresh) :
    fresh = unmet met (onward tables level) := by
  induction level generalizing met fresh with
  | nil =>
    cases run
    rfl
  | cons ref rest ih =>
    obtain ⟨data, known, run⟩ := Outcome.bind_eq_ok.1 run
    obtain ⟨found, directly, run⟩ := Outcome.bind_eq_ok.1 run
    obtain ⟨others, further, run⟩ := Outcome.bind_eq_ok.1 run
    cases run
    have here : onward tables (ref :: rest) = found.map indirectly ++ onward tables rest := by
      rw [direct_eq known directly]
      rfl
    have later : others = unmet (unmet met (found.map indirectly)).2 (onward tables rest) :=
      ih further
    rw [here, unmet_append, ← later]
    rfl

/-- No type comes after one that is farther away. -/
def NoNearer (tables : Tables) (start : Nat) (former latter : RelatedClass) : Prop :=
  ∀ near far, tables.AtDistance start near former.type.id →
    tables.AtDistance start far latter.type.id → near ≤ far

/-- Types at one distance may be listed before types that are farther away. -/
theorem noNearer_append {start steps : Nat} {former latter : List RelatedClass}
    (here : ∀ related ∈ former, tables.AtDistance start steps related.type.id)
    (ordered : latter.Pairwise (NoNearer tables start))
    (beyond : ∀ related ∈ latter, ∃ farther, steps < farther ∧
      tables.AtDistance start farther related.type.id) :
    (former ++ latter).Pairwise (NoNearer tables start) := by
  refine List.pairwise_append.2 ⟨?_, ordered, ?_⟩
  · refine List.pairwise_of_forall_mem_list fun left inLeft right inRight near far => ?_
    intro nearAway farAway
    rw [nearAway.unique (here left inLeft), farAway.unique (here right inRight)]
  · intro left inLeft right inRight near far nearAway farAway
    obtain ⟨farther, less, away⟩ := beyond right inRight
    rw [nearAway.unique (here left inLeft), farAway.unique away]
    exact Nat.le_of_lt less

/-- A type is listed for a supertype of one that is nearer by one step. -/
structure Labelled (tables : Tables) (start steps : Nat) (related : RelatedClass) : Prop where
  away : tables.AtDistance start (steps + 1) related.type.id
  edge : ∃ source, tables.AtDistance start steps source ∧
    ∃ edge ∈ tables.supertypesOf source, edge.indirectly = related

/-- What a level and those after it list, when everything nearer was met before. -/
structure Levels (tables : Tables) (start steps : Nat) (met : List Nat) (level : List TypeRef)
    (listed : List RelatedClass × List Nat) : Prop where
  places : listed = unmet met (onward tables (level ++ listed.1.map RelatedClass.type))
  labelled : ∀ related ∈ listed.1, ∃ before, steps ≤ before ∧
    Labelled tables start before related
  complete : ∀ {farther id : Nat}, steps < farther → tables.AtDistance start farther id →
    id ∈ ids listed.1
  ordered : listed.1.Pairwise (NoNearer tables start)

variable {start steps : Nat} {met : List Nat} {level : List TypeRef}

section

variable {all : List RelatedClass}
  (metIs : ∀ id, id ∈ met ↔ ∃ fewer ≤ steps, tables.Reaches start fewer id)
  (edgesAre : ∀ id, id ∈ ids all ↔
    ∃ source, tables.AtDistance start steps source ∧ id ∈ ids (tables.supertypesOf source))

include metIs edgesAre

/-- The new ones among the supertypes of a level are the types that lie one step farther. -/
theorem mem_ids_unmet_iff (id : Nat) :
    id ∈ ids (unmet met all).1 ↔ tables.AtDistance start (steps + 1) id := by
  rw [(unmet_firstPlaces met all).mem_ids_iff, edgesAre, metIs, Tables.atDistance_succ_iff]

/-- With the supertypes of a level everything is met that is reached in one step more. -/
theorem mem_unmet_iff_reaches (id : Nat) :
    id ∈ (unmet met all).2 ↔ ∃ fewer ≤ steps + 1, tables.Reaches start fewer id := by
  rw [mem_unmet_snd_iff]
  constructor
  · rintro (known | next)
    · obtain ⟨fewer, within, reached⟩ := (metIs id).1 known
      exact ⟨fewer, Nat.le_succ_of_le within, reached⟩
    · obtain ⟨source, away, member⟩ := (edgesAre id).1 next
      obtain ⟨edge, written, rfl⟩ := mem_ids_iff.1 member
      exact ⟨steps + 1, Nat.le_refl _, away.reached.step written⟩
  · rintro ⟨fewer, within, reached⟩
    obtain ⟨fewest, fewestWithin, away⟩ := reached.exists_atDistance
    rcases Nat.lt_or_eq_of_le (Nat.le_trans fewestWithin within) with less | rfl
    · exact .inl ((metIs id).2 ⟨fewest, Nat.le_of_lt_succ less, away.reached⟩)
    · exact .inr ((edgesAre id).2 (Tables.atDistance_succ_iff.1 away).1)

end

section

variable (metIs : ∀ id, id ∈ met ↔ ∃ fewer ≤ steps, tables.Reaches start fewer id)
  (levelIs : ∀ id, id ∈ level.map TypeRef.id ↔ tables.AtDistance start steps id)

include levelIs

theorem mem_ids_onward_level_iff (id : Nat) :
    id ∈ ids (onward tables level) ↔
      ∃ source, tables.AtDistance start steps source ∧ id ∈ ids (tables.supertypesOf source) := by
  rw [mem_ids_onward_iff]
  constructor
  · rintro ⟨ref, listed, member⟩
    exact ⟨ref.id, (levelIs ref.id).1 (List.mem_map_of_mem listed), member⟩
  · rintro ⟨source, away, member⟩
    obtain ⟨ref, listed, rfl⟩ := List.mem_map.1 ((levelIs source).2 away)
    exact ⟨ref, listed, member⟩

/-- Nothing lies beyond a level without types. -/
theorem levels_of_empty (empty : level = []) : Levels tables start steps met level ([], met) where
  places := by
    subst empty
    rfl
  labelled := by
    intro related listed
    cases listed
  complete := by
    intro farther id beyond away
    obtain ⟨other, here⟩ := away.exists_nearer (Nat.le_of_lt beyond)
    have listed := (levelIs other).2 here
    rw [empty] at listed
    cases listed
  ordered := .nil

include metIs

/-- A level comes before the levels that start from its new supertypes. -/
theorem Levels.before {fresh : List RelatedClass} {met' : List Nat}
    (next : (fresh, met') = unmet met (onward tables level))
    (freshAway : ∀ related ∈ fresh, tables.AtDistance start (steps + 1) related.type.id)
    {later : List RelatedClass × List Nat}
    (rest : Levels tables start (steps + 1) met' (fresh.map RelatedClass.type) later) :
    Levels tables start steps met level (fresh ++ later.1, later.2) where
  places := by
    rw [List.map_append, onward_append level, unmet_append, ← next, ← rest.places]
  labelled := by
    intro related listed
    rcases List.mem_append.1 listed with here | there
    · have kept : related ∈ (unmet met (onward tables level)).1 := next ▸ here
      obtain ⟨ref, inLevel, edge, written, same⟩ :=
        mem_onward_iff.1 ((unmet_firstPlaces met _).ordered.subset kept)
      have source := (levelIs ref.id).1 (List.mem_map_of_mem inLevel)
      exact ⟨steps, Nat.le_refl _, freshAway related here, ref.id, source, edge, written, same⟩
    · obtain ⟨before, beyond, label⟩ := rest.labelled related there
      exact ⟨before, Nat.le_of_succ_le beyond, label⟩
  complete := by
    intro farther id beyond away
    rw [ids_append, List.mem_append]
    rcases Nat.lt_or_eq_of_le (Nat.succ_le_of_lt beyond) with more | rfl
    · exact .inr (rest.complete more away)
    · refine .inl ?_
      have kept := (mem_ids_unmet_iff metIs (mem_ids_onward_level_iff levelIs) id).2 away
      rwa [← next] at kept
  ordered := by
    refine noNearer_append freshAway rest.ordered fun related there => ?_
    obtain ⟨before, beyond, label⟩ := rest.labelled related there
    exact ⟨before + 1, Nat.lt_succ_of_le beyond, label.away⟩

end

/-- **The levels list everything that is farther away, nearer types first.** -/
theorem further_levels {levels : Nat} {listed : List RelatedClass × List Nat}
    (metIs : ∀ id, id ∈ met ↔ ∃ fewer ≤ steps, tables.Reaches start fewer id)
    (levelIs : ∀ id, id ∈ level.map TypeRef.id ↔ tables.AtDistance start steps id)
    (enough : tables.typeCount < steps + levels)
    (run : further tables levels met level = .ok listed) :
    Levels tables start steps met level listed := by
  induction levels generalizing steps met level listed with
  | zero =>
    cases level with
    | nil =>
      cases run
      exact levels_of_empty levelIs rfl
    | cons ref rest =>
      have last := ((levelIs ref.id).1 List.mem_cons_self).le_typeCount
      omega
  | succ levels ih =>
    cases level with
    | nil =>
      cases run
      exact levels_of_empty levelIs rfl
    | cons ref rest =>
      obtain ⟨⟨fresh, met'⟩, found, run⟩ := Outcome.bind_eq_ok.1 run
      obtain ⟨later, onwards, run⟩ := Outcome.bind_eq_ok.1 run
      cases run
      have next := nextLevel_eq found
      have edgesAre := mem_ids_onward_level_iff levelIs
      have freshIs : ∀ id, id ∈ ids fresh ↔ tables.AtDistance start (steps + 1) id := by
        intro id
        rw [← mem_ids_unmet_iff metIs edgesAre, ← next]
      have metIs' : ∀ id, id ∈ met' ↔ ∃ fewer ≤ steps + 1, tables.Reaches start fewer id := by
        intro id
        rw [← mem_unmet_iff_reaches metIs edgesAre, ← next]
      refine Levels.before metIs levelIs next ?_ (ih metIs' ?_ (by omega) onwards)
      · intro related here
        exact (freshIs _).1 (mem_ids_iff.2 ⟨related, here, rfl⟩)
      · intro id
        rw [List.map_map]
        exact freshIs id

/-! ## The listing -/

theorem FirstPlaces.congr {met met' : List Nat} {all kept : List RelatedClass}
    (first : FirstPlaces met all kept) (same : ∀ id, id ∈ met ↔ id ∈ met') :
    FirstPlaces met' all kept :=
  ⟨first.ordered, first.distinct, fun related => by rw [first.mem_iff, same]⟩

theorem direct_of_mem_supertypesOf {id : Nat} {edge : RelatedClass}
    (written : edge ∈ tables.supertypesOf id) : edge.relation.Direct := by
  have ofClass : ∀ record : ClassRecord, edge ∈ ofClass record → edge.relation.Direct := by
    intro record listed
    rcases List.mem_append.1 listed with above | above
    · obtain ⟨ref, -, rfl⟩ := List.mem_map.1 above
      exact .inl rfl
    · obtain ⟨ref, -, rfl⟩ := List.mem_map.1 above
      exact .inr rfl
  unfold Tables.supertypesOf at written
  split at written
  · exact ofClass _ written
  · split at written
    · exact ofClass _ written
    · cases written
  · cases written

theorem not_direct_of_mem_nesting {data : TypeData} {related : RelatedClass}
    (listed : related ∈ nesting data) : ¬related.relation.Direct := by
  rcases List.mem_append.1 listed with around | inside
  · obtain ⟨ref, -, rfl⟩ := List.mem_map.1 around
    simp [Relatedness.Direct]
  · obtain ⟨ref, -, rfl⟩ := List.mem_map.1 inside
    simp [Relatedness.Direct]

/-- What is listed for a supertype of another type is not labelled as a direct supertype. -/
theorem Labelled.not_direct {start steps : Nat} {related : RelatedClass}
    (label : Labelled tables start steps related) : ¬related.relation.Direct := by
  obtain ⟨source, -, edge, written, rfl⟩ := label.edge
  have direct := direct_of_mem_supertypesOf written
  rw [indirectly]
  rcases direct with extends_ | implements_
  · simp [Relatedness.Direct, extends_, Relatedness.indirect]
  · simp [Relatedness.Direct, implements_, Relatedness.indirect]

end RelatedClass

open RelatedClass (ids FirstPlaces NoNearer Labelled onward unmet)

/-- How the classes around a type are listed: its direct supertypes, what is reached through them,
and the classes that it is nested with. -/
structure TypeView.ListsRelated (view : TypeView) (tables : Tables)
    (near far around : List RelatedClass) : Prop where
  distinct : (ids (near ++ far ++ around)).Nodup
  others : view.ref.id ∉ ids (near ++ far ++ around)
  direct : FirstPlaces [view.ref.id] (tables.supertypesOf view.ref.id) near
  direct_iff : ∀ related ∈ near ++ far ++ around, related ∈ near ↔ related.relation.Direct
  reached : ∀ id, id ∈ ids (near ++ far) ↔
    id ≠ view.ref.id ∧ ∃ steps, tables.Reaches view.ref.id steps id
  ordered : (near ++ far).Pairwise (NoNearer tables view.ref.id)
  labelled : ∀ related ∈ far, ∃ before, 1 ≤ before ∧ Labelled tables view.ref.id before related
  firstEdges : FirstPlaces [view.ref.id]
    (tables.supertypesOf view.ref.id ++ onward tables ((near ++ far).map RelatedClass.type))
    (near ++ far)
  nesting : FirstPlaces (view.ref.id :: ids (near ++ far)) (RelatedClass.nesting view.data) around

namespace TypeView

section

variable {tables : Tables} {view : TypeView} {near far : List RelatedClass} {met met' : List Nat}
  (start : unmet [view.ref.id] (tables.supertypesOf view.ref.id) = (near, met))
  (nearIs : ∀ id, id ∈ ids near ↔ tables.AtDistance view.ref.id 1 id)
  (levels : RelatedClass.Levels tables view.ref.id 1 met (near.map RelatedClass.type) (far, met'))

include start levels

/-- Direct supertypes and levels are the first places among the supertypes of all of them. -/
theorem unmet_of_levels :
    unmet [view.ref.id] (tables.supertypesOf view.ref.id ++
      onward tables ((near ++ far).map RelatedClass.type)) = (near ++ far, met') := by
  have places := levels.places
  rw [RelatedClass.unmet_append, start, List.map_append, ← places]

include nearIs

omit start in
/-- Everything that is reached is listed as a direct supertype or in a level. -/
theorem mem_ids_of_levels (id : Nat) :
    id ∈ ids (near ++ far) ↔ id ≠ view.ref.id ∧ ∃ steps, tables.Reaches view.ref.id steps id := by
  rw [RelatedClass.ids_append, List.mem_append]
  constructor
  · intro listed
    obtain ⟨steps, beyond, away⟩ :
        ∃ steps, 0 < steps ∧ tables.AtDistance view.ref.id steps id := by
      rcases listed with here | there
      · exact ⟨1, Nat.one_pos, (nearIs id).1 here⟩
      · obtain ⟨related, member, rfl⟩ := RelatedClass.mem_ids_iff.1 there
        obtain ⟨before, -, label⟩ := levels.labelled related member
        exact ⟨before + 1, Nat.succ_pos before, label.away⟩
    refine ⟨?_, steps, away.reached⟩
    rintro rfl
    exact absurd (away.least .start) (Nat.not_le_of_lt beyond)
  · rintro ⟨other, steps, reached⟩
    obtain ⟨fewest, -, away⟩ := reached.exists_atDistance
    rcases Nat.lt_trichotomy fewest 1 with none | rfl | more
    · obtain rfl := Nat.lt_one_iff.1 none
      exact absurd (Tables.atDistance_zero_iff.1 away) other
    · exact .inl ((nearIs id).2 away)
    · exact .inr (levels.complete more away)

/-- A listing is put together from direct supertypes, the levels after them and what is new among
the nested classes. -/
theorem listsRelated_of_levels :
    view.ListsRelated tables near far (unmet met' (RelatedClass.nesting view.data)).1 := by
  have whole := unmet_of_levels start levels
  have first : FirstPlaces [view.ref.id] (tables.supertypesOf view.ref.id) near := by
    have kept := RelatedClass.unmet_firstPlaces [view.ref.id] (tables.supertypesOf view.ref.id)
    rwa [start] at kept
  have edges : FirstPlaces [view.ref.id] (tables.supertypesOf view.ref.id ++
      onward tables ((near ++ far).map RelatedClass.type)) (near ++ far) := by
    have kept := RelatedClass.unmet_firstPlaces [view.ref.id] (tables.supertypesOf view.ref.id ++
      onward tables ((near ++ far).map RelatedClass.type))
    rwa [whole] at kept
  have metIs : ∀ id, id ∈ met' ↔ id ∈ view.ref.id :: ids (near ++ far) := by
    intro id
    have after : id ∈ met' ↔ _ := whole ▸ RelatedClass.mem_unmet_snd_iff
    rw [after, List.mem_singleton, List.mem_cons, edges.mem_ids_iff, List.mem_singleton]
    tauto
  have nested := (RelatedClass.unmet_firstPlaces met' (RelatedClass.nesting view.data)).congr metIs
  have new : ∀ id ∈ ids (unmet met' (RelatedClass.nesting view.data)).1,
      id ∉ view.ref.id :: ids (near ++ far) := fun id listed => (nested.mem_ids_iff.1 listed).2
  refine
    { distinct := ?_
      others := ?_
      direct := first
      direct_iff := ?_
      reached := mem_ids_of_levels nearIs levels
      ordered := ?_
      labelled := levels.labelled
      firstEdges := edges
      nesting := nested }
  · rw [RelatedClass.ids_append]
    refine List.Nodup.append edges.distinct nested.distinct ?_
    exact fun id listed again => new id again (List.mem_cons_of_mem _ listed)
  · rw [RelatedClass.ids_append, List.mem_append]
    rintro (listed | listed)
    · exact ((mem_ids_of_levels nearIs levels _).1 listed).1 rfl
    · exact new _ listed List.mem_cons_self
  · intro related listed
    refine ⟨fun here => ?_, fun direct => ?_⟩
    · exact RelatedClass.direct_of_mem_supertypesOf (first.ordered.subset here)
    · rcases List.mem_append.1 listed with before | around
      · refine (List.mem_append.1 before).resolve_right fun there => ?_
        obtain ⟨steps, -, label⟩ := levels.labelled related there
        exact label.not_direct direct
      · exact absurd direct (RelatedClass.not_direct_of_mem_nesting (nested.ordered.subset around))
  · have away : ∀ related ∈ near, tables.AtDistance view.ref.id 1 related.type.id :=
      fun related here => (nearIs _).1 (RelatedClass.mem_ids_iff.2 ⟨related, here, rfl⟩)
    refine RelatedClass.noNearer_append away levels.ordered fun related there => ?_
    obtain ⟨before, beyond, label⟩ := levels.labelled related there
    exact ⟨before + 1, Nat.lt_succ_of_le beyond, label.away⟩

end

/-- **Related classes form a closure that is listed by distance.** -/
theorem relatedClasses_breadthFirst {tables : Tables} {view : TypeView}
    (known : tables.typeData view.ref.id = .ok view.data) {listed : List RelatedClass}
    (run : view.relatedClasses tables = .ok listed) :
    ∃ near far around, listed = near ++ far ++ around ∧
      view.ListsRelated tables near far around := by
  obtain ⟨found, direct, run⟩ := Outcome.bind_eq_ok.1 run
  obtain ⟨⟨far, met'⟩, further, run⟩ := Outcome.bind_eq_ok.1 run
  cases run
  obtain rfl := RelatedClass.direct_eq known direct
  have metIs : ∀ id, id ∈ [view.ref.id] ↔ ∃ fewer ≤ 0, tables.Reaches view.ref.id fewer id := by
    intro id
    simp [Tables.reaches_zero_iff]
  have edgesAre : ∀ id, id ∈ ids (tables.supertypesOf view.ref.id) ↔
      ∃ source, tables.AtDistance view.ref.id 0 source ∧ id ∈ ids (tables.supertypesOf source) := by
    intro id
    simp [Tables.atDistance_zero_iff]
  have nearIs := RelatedClass.mem_ids_unmet_iff metIs edgesAre
  have levels := RelatedClass.further_levels (RelatedClass.mem_unmet_iff_reaches metIs edgesAre)
    (fun id => by rw [List.map_map]; exact nearIs id) (by omega) further
  exact ⟨_, far, _, rfl, listsRelated_of_levels rfl nearIs levels⟩

end TypeView

/-- A class `A` that extends `B<A>` while `B` extends `A` again, inside `B` and around two classes;
one of the interfaces is written twice, another one is also an inner class. -/
def Snapshot.relatedCycle : Snapshot :=
  { Snapshot.empty with
    types := [
      .object [("E", .nat 1), ("I", .array [.nat 4, .nat 5]), ("i", .array [.nat 2, .nat 2]),
        ("n", .nat 0), ("s", .nat 3)],
      .object [("i", .nat 4), ("n", .nat 1), ("s", .nat 0), ("v", .array [.nat 6])],
      .object [("n", .nat 2)],
      .object [("r", .nat 1), ("v", .array [.nat 0])],
      .object [("n", .nat 3)],
      .object [("n", .nat 4)],
      .object [("tv", .nat 5)]]
    names := [.text "A", .text "B", .text "Runnable", .text "Closeable", .text "Inner",
      .text "T"] }

theorem TypeView.relatedClasses_breadthFirst_cycle :
    ∃ view listed, (Tables.ofSnapshot .relatedCycle).view (.plain 0) = .ok view ∧
      view.relatedClasses (.ofSnapshot .relatedCycle) = .ok listed ∧
      listed = [⟨.extended, .plain 3⟩, ⟨.implemented, .plain 2⟩, ⟨.implementedIndirectly, .plain 4⟩,
        ⟨.enclosing, .plain 1⟩, ⟨.inner, .plain 5⟩] ∧
      ∃ near far around, listed = near ++ far ++ around ∧
        view.ListsRelated (.ofSnapshot .relatedCycle) near far around := by
  have known : (Tables.ofSnapshot .relatedCycle).view (.plain 0) = .ok _ := rfl
  exact ⟨_, _, known, rfl, rfl, relatedClasses_breadthFirst rfl rfl⟩

end ClassAtlas

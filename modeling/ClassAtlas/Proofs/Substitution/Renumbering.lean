import ClassAtlas.Proofs.Substitution.ChainEnds
import Mathlib.Logic.Equiv.Basic
import Mathlib.Tactic.IntervalCases

/-!
# Chains and the numbers of variables

Chains are followed in the order of the keys, so the numbers of the variables decide which links are
short already when a later chain comes along.  The outcome does not tell: under a renumbering of the
types the chains have the same ends, and so the resolved maps are renumberings of one another
(`resolveChains_chainEnds`).
-/

set_option autoImplicit false

namespace ClassAtlas

/-- A reference under other numbers. -/
def TypeRef.renumbered (number : Equiv.Perm Nat) (ref : TypeRef) : TypeRef :=
  ⟨number ref.id, ref.depth⟩

/-- The second map binds as the first one does, under other numbers. -/
def VarMap.Renumbered (number : Equiv.Perm Nat) (map other : VarMap) : Prop :=
  ∀ key, other.find? (number key) = (map.find? key).map (TypeRef.renumbered number)

/-- What following chains looks at is the same in both under other numbers: how many steps there are
at most, which types are variables and which ones can be read. -/
structure Atlas.Renumbered (number : Equiv.Perm Nat) (atlas other : Atlas) : Prop where
  hopLimit : other.config.hopLimit = atlas.config.hopLimit
  varies : ∀ id, other.tables.IsTypeVariable (number id) ↔ atlas.tables.IsTypeVariable id
  reads : ∀ id, (∃ data, atlas.tables.typeData id = .ok data) →
    ∃ data, other.tables.typeData (number id) = .ok data

namespace VarMap

variable {number : Equiv.Perm Nat} {map other : VarMap} {key : Nat} {value : TypeRef}

theorem Renumbered.find?_some (renumbered : map.Renumbered number other)
    (bound : map.find? key = some value) :
    other.find? (number key) = some (value.renumbered number) := by
  rw [renumbered, bound, Option.map_some]

/-- Every binding of a renumbered map comes from one of the first map. -/
theorem Renumbered.origin (renumbered : map.Renumbered number other)
    (bound : other.find? key = some value) :
    ∃ old ref, map.find? old = some ref ∧ number old = key ∧ ref.renumbered number = value := by
  obtain ⟨old, rfl⟩ := number.surjective key
  obtain ⟨ref, found, same⟩ := Option.map_eq_some_iff.1 ((renumbered old).symm.trans bound)
  exact ⟨old, ref, found, rfl, same⟩

end VarMap

namespace Atlas

variable {number : Equiv.Perm Nat} {atlas other : Atlas} {map map' : VarMap}
  {id steps last depth : Nat}

section

variable (tables : atlas.Renumbered number other) (maps : map.Renumbered number map')

include tables maps

theorem Renumbered.halts (halts : atlas.tables.Halts map id) :
    other.tables.Halts map' (number id) := by
  intro varies
  rw [maps id]
  rcases halts ((tables.varies id).1 varies) with free | itself
  · exact .inl (by rw [free, Option.map_none])
  · exact .inr (by rw [itself]; rfl)

/-- A chain keeps its steps and its dimensions under other numbers. -/
theorem Renumbered.chainEnds (ends : atlas.tables.ChainEnds map id steps last depth) :
    other.tables.ChainEnds map' (number id) steps (number last) depth := by
  induction ends with
  | rest halts => exact .rest (tables.halts maps halts)
  | @step id steps last depth next varies bound moves _ ih =>
    have moves' : next.renumbered number ≠ .plain (number id) := by
      intro same
      obtain ⟨here, flat⟩ := TypeRef.mk.inj same
      exact moves (TypeRef.mk.injEq .. ▸ ⟨number.injective here, flat⟩)
    have further := Tables.ChainEnds.step ((tables.varies id).2 varies) (maps.find?_some bound)
      moves' ih
    exact further

end

/-- A map in which every key is bound to the end of its chain. -/
def ChainsFollowed (atlas : Atlas) (map resolved : VarMap) : Prop :=
  resolved.keys = map.keys ∧ ∀ key value steps last depth, map.find? key = some value →
    atlas.tables.ChainEnds map value.id steps last depth →
    resolved.find? key = some ⟨last, value.depth + depth⟩

/-- Every chain of the map ends within the steps that are allowed, with dimensions below 2³². -/
def ChainsEnd (atlas : Atlas) (map : VarMap) : Prop :=
  ∀ key value, map.find? key = some value → ∃ steps last depth,
    atlas.tables.ChainEnds map value.id steps last depth ∧ steps ≤ atlas.config.hopLimit ∧
      value.depth + depth < limit32

/-- Where the chains end, following them succeeds with their ends. -/
theorem resolveChains_followed
    (reads : ∀ key value, map.find? key = some value →
      ∃ data, atlas.tables.typeData value.id = .ok data)
    (ends : atlas.ChainsEnd map) :
    ∃ resolved, atlas.resolveChains map = .ok resolved ∧ atlas.ChainsFollowed map resolved := by
  obtain ⟨resolved, run, bound⟩ := resolveChains_of_chainEnds reads fun key value found => by
    obtain ⟨steps, last, depth, chain, enough, -⟩ := ends key value found
    exact ⟨steps, last, depth, chain, enough⟩
  refine ⟨resolved, run, VarMap.keys_eq fun key => ?_,
    fun key value steps last depth found chain => ?_⟩
  · cases found : map.find? key with
    | none => rw [(bound key).eq_none found]
    | some value =>
      obtain ⟨steps, last, depth, chain, -⟩ := ends key value found
      rw [(bound key).eq_some found chain]
      rfl
  · obtain ⟨_, _, _, again, -, small⟩ := ends key value found
    obtain ⟨rfl, rfl, rfl⟩ := chain.unique again
    rw [(bound key).eq_some found chain, TypeRef.carried_eq chain small]

section

variable (tables : atlas.Renumbered number other) (maps : map.Renumbered number map')

include tables maps

theorem Renumbered.chainsEnd (ends : atlas.ChainsEnd map) : other.ChainsEnd map' := by
  intro key value bound
  obtain ⟨old, ref, found, rfl, rfl⟩ := maps.origin bound
  obtain ⟨steps, last, depth, chain, enough, small⟩ := ends old ref found
  exact ⟨steps, number last, depth, tables.chainEnds maps chain, tables.hopLimit ▸ enough, small⟩

/-- Maps in which the chains were followed differ by the numbers only. -/
theorem Renumbered.followed (ends : atlas.ChainsEnd map) {resolved resolved' : VarMap}
    (followed : atlas.ChainsFollowed map resolved)
    (followed' : other.ChainsFollowed map' resolved') : resolved.Renumbered number resolved' := by
  intro key
  cases found : map.find? key with
  | none =>
    have found' : map'.find? (number key) = none := by rw [maps key, found, Option.map_none]
    have absent : resolved.find? key = none := by
      rwa [VarMap.find?_eq_none_iff, followed.1, ← VarMap.find?_eq_none_iff]
    have absent' : resolved'.find? (number key) = none := by
      rwa [VarMap.find?_eq_none_iff, followed'.1, ← VarMap.find?_eq_none_iff]
    rw [absent, absent', Option.map_none]
  | some value =>
    obtain ⟨steps, last, depth, chain, -, -⟩ := ends key value found
    rw [followed.2 key value steps last depth found chain, followed'.2 _ _ steps (number last) depth
      (maps.find?_some found) (tables.chainEnds maps chain)]
    rfl

end

/-- **Following the chains of a map computes their ends.**  When the chain of every key ends within
the steps that are allowed, each key is bound to the end of its chain, in the dimensions met on the
way altogether, and under other numbers the outcome is the same under these numbers.  When a chain
runs into a cycle of at least two variables, it is said to be too long, for any number of steps. -/
theorem resolveChains_chainEnds
    (reads : ∀ key value, map.find? key = some value →
      ∃ data, atlas.tables.typeData value.id = .ok data) :
    (atlas.ChainsEnd map → ∃ resolved, atlas.resolveChains map = .ok resolved ∧
      atlas.ChainsFollowed map resolved ∧
      ∀ number other map', atlas.Renumbered number other → map.Renumbered number map' →
        ∃ resolved', other.resolveChains map' = .ok resolved' ∧
          resolved.Renumbered number resolved') ∧
    ((∃ key value, map.find? key = some value ∧ atlas.tables.Loops map value.id) →
      ∃ key ∈ map.keys,
        atlas.resolveChains map = .error (.substitutionLoop key (atlas.config.hopLimit + 1))) := by
  constructor
  · intro ends
    obtain ⟨resolved, run, followed⟩ := resolveChains_followed reads ends
    refine ⟨resolved, run, followed, fun number other map' tables maps => ?_⟩
    have reads' : ∀ key value, map'.find? key = some value →
        ∃ data, other.tables.typeData value.id = .ok data := by
      intro key value bound
      obtain ⟨old, ref, found, rfl, rfl⟩ := maps.origin bound
      exact tables.reads ref.id (reads old ref found)
    obtain ⟨resolved', run', followed'⟩ :=
      resolveChains_followed reads' (tables.chainsEnd maps ends)
    exact ⟨resolved', run', tables.followed maps ends followed followed'⟩
  · rintro ⟨key, value, bound, loops⟩
    exact resolveKeys_loops (fun _ _ => rfl) reads
      ⟨key, (VarMap.mem_keys_iff map key).2 ⟨value, bound⟩, value, bound, loops⟩

/-! ## Letters that change places -/

theorem threeLetters_reads {id : Nat} (inside : id < 3) :
    ∃ data, threeLetters.tables.typeData id = .ok data := by
  interval_cases id
  · exact ⟨_, rfl⟩
  · exact ⟨_, rfl⟩
  · exact ⟨_, rfl⟩

theorem threeLetters_values (map : VarMap) (inside : ∀ entry ∈ map.entries, entry.2.id < 3)
    (key : Nat) (value : TypeRef) (bound : map.find? key = some value) :
    ∃ data, threeLetters.tables.typeData value.id = .ok data :=
  threeLetters_reads (inside (key, value) ((VarMap.mem_entries_iff map key value).2 bound))

/-- The first two letters can change places. -/
theorem threeLetters_renumbered : Renumbered (Equiv.swap 0 1) threeLetters threeLetters := by
  have first : threeLetters.tables.IsTypeVariable 0 := ⟨_, rfl⟩
  have second : threeLetters.tables.IsTypeVariable 1 := ⟨_, rfl⟩
  refine ⟨rfl, fun id => ?_, fun id reads => ?_⟩
  · by_cases zero : id = 0
    · rw [zero, Equiv.swap_apply_left, iff_true_left second]
      exact first
    · by_cases one : id = 1
      · rw [one, Equiv.swap_apply_right, iff_true_left first]
        exact second
      · rw [Equiv.swap_apply_of_ne_of_ne zero one]
  · by_cases zero : id = 0
    · rw [zero, Equiv.swap_apply_left]
      exact threeLetters_reads (by decide)
    · by_cases one : id = 1
      · rw [one, Equiv.swap_apply_right]
        exact threeLetters_reads (by decide)
      · rwa [Equiv.swap_apply_of_ne_of_ne zero one]

/-- The same bindings for letters that have changed places. -/
def threeLetters.swapped : VarMap :=
  ⟨[(0, ⟨2, 2⟩), (1, ⟨0, 1⟩)], by decide⟩

/-- Each of the first two letters is bound to the other one. -/
def threeLetters.mutual : VarMap :=
  ⟨[(0, ⟨1, 0⟩), (1, ⟨0, 0⟩)], by decide⟩

theorem threeLetters_chained_cases {key : Nat} {value : TypeRef}
    (bound : threeLetters.chained.find? key = some value) :
    key = 0 ∧ value = ⟨1, 1⟩ ∨ key = 1 ∧ value = ⟨2, 2⟩ := by
  have listed := (VarMap.mem_entries_iff threeLetters.chained key value).2 bound
  simpa [threeLetters.chained] using listed

theorem threeLetters_swapped_renumbered :
    threeLetters.chained.Renumbered (Equiv.swap 0 1) threeLetters.swapped := by
  intro key
  by_cases zero : key = 0
  · subst zero
    rw [Equiv.swap_apply_left]
    decide
  · by_cases one : key = 1
    · subst one
      rw [Equiv.swap_apply_right]
      decide
    · rw [Equiv.swap_apply_of_ne_of_ne zero one]
      have absent : ∀ map : VarMap, map.keys = [0, 1] → map.find? key = none := by
        intro map keys
        rw [VarMap.find?_eq_none_iff, keys]
        simp [zero, one]
      rw [absent threeLetters.swapped rfl, absent threeLetters.chained rfl, Option.map_none]

/-- The chain of the first letter ends at the third one in three dimensions, whichever letter has
its turn first, and two letters that are bound to each other have no chain that ends. -/
theorem resolveChains_chainEnds_threeLetters :
    (∃ resolved resolved', threeLetters.resolveChains threeLetters.chained = .ok resolved ∧
      threeLetters.resolveChains threeLetters.swapped = .ok resolved' ∧
      resolved.find? 0 = some ⟨2, 3⟩ ∧ resolved'.find? 1 = some ⟨2, 3⟩) ∧
    ∃ key ∈ [0, 1], threeLetters.resolveChains threeLetters.mutual =
      .error (.substitutionLoop key 1001) := by
  have ends : threeLetters.ChainsEnd threeLetters.chained := by
    intro key value bound
    rcases threeLetters_chained_cases bound with ⟨rfl, rfl⟩ | ⟨rfl, rfl⟩
    · exact ⟨1, 2, 2, threeLetters_chained_second, by decide, by decide⟩
    · exact ⟨0, 2, 0, threeLetters_chained_last, by decide, by decide⟩
  obtain ⟨resolved, run, followed, otherwise⟩ :=
    (resolveChains_chainEnds (threeLetters_values threeLetters.chained (by decide))).1 ends
  obtain ⟨resolved', run', renumbered⟩ :=
    otherwise _ _ _ threeLetters_renumbered threeLetters_swapped_renumbered
  have first : resolved.find? 0 = some ⟨2, 3⟩ :=
    followed.2 0 ⟨1, 1⟩ 1 2 2 (by decide) threeLetters_chained_second
  refine ⟨⟨resolved, resolved', run, run', first, ?_⟩, ?_⟩
  · have second := renumbered.find?_some first
    rwa [Equiv.swap_apply_left] at second
  · have onward : threeLetters.tables.Leads threeLetters.mutual 0 1 :=
      ⟨⟨_, rfl⟩, ⟨1, 0⟩, by decide, rfl⟩
    have back : threeLetters.tables.Leads threeLetters.mutual 1 0 :=
      ⟨⟨_, rfl⟩, ⟨0, 0⟩, by decide, rfl⟩
    exact (resolveChains_chainEnds (threeLetters_values threeLetters.mutual (by decide))).2
      ⟨0, ⟨1, 0⟩, by decide, 1, 0, by decide, .refl, .single back, .single onward⟩

end Atlas

end ClassAtlas

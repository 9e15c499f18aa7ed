import ClassAtlas.VarMap
import Mathlib.Data.List.Perm.Basic

/-!
# Lookups in maps of type variables

What a map holds is told by its lookups alone: maps with equal lookups are equal (`find?_ext`).
Bindings that are added one after the other never replace one that is there, so the first one wins
(`find?_addNew`, `find?_firstWins`).
-/

set_option autoImplicit false

namespace ClassAtlas.VarMap

theorem nodup_entries (map : VarMap) : map.entries.Nodup := by
  refine map.ascending.imp ?_
  rintro left right before rfl
  exact Nat.lt_irrefl _ before

theorem nodup_keys (map : VarMap) : map.keys.Nodup :=
  List.pairwise_map.2 (map.ascending.imp fun before => Nat.ne_of_lt before)

theorem mem_of_lookup {entries : List (Nat × TypeRef)} {key : Nat} {value : TypeRef}
    (found : entries.lookup key = some value) : (key, value) ∈ entries := by
  induction entries with
  | nil => cases found
  | cons first rest ih =>
    obtain ⟨firstKey, firstValue⟩ := first
    rw [lookup_cons] at found
    split at found
    · next same =>
      cases found
      exact same ▸ List.mem_cons_self
    · exact List.mem_cons_of_mem _ (ih found)

theorem lookup_eq_none_of_not_mem {pairs : List (Nat × TypeRef)} {key : Nat}
    (new : key ∉ pairs.map Prod.fst) : pairs.lookup key = none := by
  refine List.lookup_eq_none_iff.2 fun pair listed => bne_iff_ne.2 ?_
  exact fun same => new (List.mem_map.2 ⟨pair, listed, same.symm⟩)

/-- What is found for one of several different variables is what it is bound to. -/
theorem lookup_eq_some_of_nodup {pairs : List (Nat × TypeRef)}
    (distinct : (pairs.map Prod.fst).Nodup) {key : Nat} {value : TypeRef}
    (bound : (key, value) ∈ pairs) : pairs.lookup key = some value := by
  induction pairs with
  | nil => cases bound
  | cons first rest ih =>
    obtain ⟨firstKey, firstValue⟩ := first
    obtain ⟨new, distinct⟩ := List.nodup_cons.1 distinct
    rw [lookup_cons]
    rcases List.mem_cons.1 bound with same | bound
    · cases same
      exact if_pos rfl
    · rw [if_neg fun same => new (List.mem_map.2 ⟨_, bound, same⟩)]
      exact ih distinct bound

theorem mem_entries_iff (map : VarMap) (key : Nat) (value : TypeRef) :
    (key, value) ∈ map.entries ↔ map.find? key = some value :=
  ⟨lookup_eq_some_of_nodup map.nodup_keys, mem_of_lookup⟩

theorem mem_keys_iff (map : VarMap) (key : Nat) :
    key ∈ map.keys ↔ ∃ value, map.find? key = some value := by
  simp only [keys, List.mem_map, Prod.exists, exists_and_right, exists_eq_right, mem_entries_iff]

theorem find?_eq_none_iff (map : VarMap) (key : Nat) : map.find? key = none ↔ key ∉ map.keys := by
  rw [mem_keys_iff, ← Option.isSome_iff_exists, Option.not_isSome_iff_eq_none]

/-- **Maps with equal lookups are equal.** -/
theorem find?_ext {left right : VarMap} (same : ∀ key, left.find? key = right.find? key) :
    left = right := by
  have members : ∀ entry, entry ∈ left.entries ↔ entry ∈ right.entries := by
    rintro ⟨key, value⟩
    rw [mem_entries_iff, mem_entries_iff, same]
  have perm := (List.perm_ext_iff_of_nodup left.nodup_entries right.nodup_entries).2 members
  have entries : left.entries = right.entries :=
    perm.eq_of_pairwise (fun _ _ _ _ before after => absurd before (Nat.lt_asymm after))
      left.ascending right.ascending
  cases left
  cases right
  cases entries
  rfl

/-- Maps that bind the same variables list them alike. -/
theorem keys_eq {left right : VarMap}
    (same : ∀ key, (left.find? key).isSome = (right.find? key).isSome) :
    left.keys = right.keys := by
  have members : ∀ key, key ∈ left.keys ↔ key ∈ right.keys := by
    intro key
    rw [mem_keys_iff, mem_keys_iff, ← Option.isSome_iff_exists, same, Option.isSome_iff_exists]
  have perm := (List.perm_ext_iff_of_nodup left.nodup_keys right.nodup_keys).2 members
  have ascending : ∀ map : VarMap, map.keys.Pairwise (· < ·) := fun map =>
    List.pairwise_map.2 map.ascending
  exact perm.eq_of_pairwise (fun _ _ _ _ before after => absurd before (Nat.lt_asymm after))
    (ascending left) (ascending right)

/-- Bindings of different variables that are put in one after the other can be looked up. -/
theorem find?_foldl_insert {pairs : List (Nat × TypeRef)} (distinct : (pairs.map Prod.fst).Nodup)
    (map : VarMap) (key : Nat) :
    (pairs.foldl (fun map pair => map.insert pair.1 pair.2) map).find? key =
      (pairs.lookup key).or (map.find? key) := by
  induction pairs generalizing map with
  | nil => rfl
  | cons first rest ih =>
    obtain ⟨firstKey, value⟩ := first
    obtain ⟨new, distinct⟩ := List.nodup_cons.1 distinct
    rw [List.foldl_cons, ih distinct, find?_insert, lookup_cons]
    by_cases same : key = firstKey
    · subst same
      rw [lookup_eq_none_of_not_mem new, Option.none_or, if_pos rfl, if_pos rfl, Option.some_or]
    · rw [if_neg same, if_neg same]

theorem nodup_zip_fst {declared : List Nat} (distinct : declared.Nodup)
    (arguments : List TypeRef) : ((declared.zip arguments).map Prod.fst).Nodup := by
  induction declared generalizing arguments with
  | nil => exact .nil
  | cons first rest ih =>
    cases arguments with
    | nil => exact .nil
    | cons argument arguments =>
      obtain ⟨new, distinct⟩ := List.nodup_cons.1 distinct
      refine List.nodup_cons.2 ⟨fun again => new ?_, ih distinct arguments⟩
      obtain ⟨pair, listed, same⟩ := List.mem_map.1 again
      obtain rfl : pair.1 = first := same
      exact (List.of_mem_zip listed).1

theorem lookup_isSome_iff {pairs : List (Nat × TypeRef)} {key : Nat} :
    (pairs.lookup key).isSome ↔ ∃ value, (key, value) ∈ pairs := by
  constructor
  · intro found
    obtain ⟨value, found⟩ := Option.isSome_iff_exists.1 found
    exact ⟨value, mem_of_lookup found⟩
  · rintro ⟨value, listed⟩
    rw [← Option.ne_none_iff_isSome]
    intro absent
    exact bne_iff_ne.1 (List.lookup_eq_none_iff.1 absent _ listed) rfl

theorem find?_insertIfNew (map : VarMap) (key other : Nat) (value : TypeRef) :
    (map.insertIfNew key value).find? other =
      (map.find? other).or (if other = key then some value else none) := by
  rw [insertIfNew]
  split
  · next bound =>
    obtain ⟨old, found⟩ := Option.isSome_iff_exists.1 bound
    by_cases same : other = key
    · subst same
      rw [found, Option.some_or]
    · rw [if_neg same, Option.or_none]
  · next free =>
    have absent : map.find? key = none := by simpa [contains] using free
    rw [find?_insert]
    by_cases same : other = key
    · subst same
      rw [absent, if_pos rfl, Option.none_or]
    · rw [if_neg same, if_neg same, Option.or_none]

/-- Adds bindings one after the other, each for a variable that is not bound yet. -/
def addNew (map : VarMap) (pairs : List (Nat × TypeRef)) : VarMap :=
  pairs.foldl (fun merged pair => merged.insertIfNew pair.1 pair.2) map

/-- The map with given bindings, the first one of each variable winning. -/
def firstWins (pairs : List (Nat × TypeRef)) : VarMap :=
  empty.addNew pairs

theorem mergeMissing_eq_addNew (map other : VarMap) :
    map.mergeMissing other = map.addNew other.entries :=
  rfl

theorem addNew_append (map : VarMap) (first second : List (Nat × TypeRef)) :
    map.addNew (first ++ second) = (map.addNew first).addNew second :=
  List.foldl_append

theorem find?_addNew (map : VarMap) (pairs : List (Nat × TypeRef)) (key : Nat) :
    (map.addNew pairs).find? key = (map.find? key).or (pairs.lookup key) := by
  induction pairs generalizing map with
  | nil => exact (Option.or_none ..).symm
  | cons first rest ih =>
    obtain ⟨firstKey, value⟩ := first
    rw [addNew, List.foldl_cons, ← addNew, ih, find?_insertIfNew, lookup_cons, Option.or_assoc]
    by_cases same : key = firstKey
    · rw [if_pos same, if_pos same, Option.some_or]
    · rw [if_neg same, if_neg same, Option.none_or]

theorem lookup_entries (map : VarMap) (key : Nat) : map.entries.lookup key = map.find? key :=
  rfl

theorem find?_mergeMissing (left right : VarMap) (key : Nat) :
    (left.mergeMissing right).find? key = (left.find? key).or (right.find? key) :=
  find?_addNew left right.entries key

theorem find?_firstWins (pairs : List (Nat × TypeRef)) (key : Nat) :
    (firstWins pairs).find? key = pairs.lookup key := by
  rw [firstWins, find?_addNew, find?_empty, Option.none_or]

theorem lookup_map_snd (pairs : List (Nat × TypeRef)) (change : TypeRef → TypeRef) (key : Nat) :
    (pairs.map fun pair => (pair.1, change pair.2)).lookup key = (pairs.lookup key).map change := by
  induction pairs with
  | nil => rfl
  | cons first rest ih =>
    obtain ⟨firstKey, value⟩ := first
    rw [List.map_cons, lookup_cons, lookup_cons, ih]
    split <;> rfl

/-- A lookup in bindings from several sources ends at the first source that has the variable. -/
theorem lookup_flatMap_eq_some_iff {α : Type} {sources : List α} {pairs : α → List (Nat × TypeRef)}
    {key : Nat} {value : TypeRef} :
    (sources.flatMap pairs).lookup key = some value ↔
      ∃ before source after, sources = before ++ source :: after ∧
        (∀ other ∈ before, (pairs other).lookup key = none) ∧
        (pairs source).lookup key = some value := by
  induction sources with
  | nil => simp
  | cons first rest ih =>
    rw [List.flatMap_cons, List.lookup_append]
    constructor
    · intro found
      rcases here : (pairs first).lookup key with _ | own
      · rw [here, Option.none_or, ih] at found
        obtain ⟨before, source, after, rfl, none, some⟩ := found
        exact ⟨first :: before, source, after, rfl, List.forall_mem_cons.2 ⟨here, none⟩, some⟩
      · rw [here, Option.some_or] at found
        exact ⟨[], first, rest, rfl, by simp, here.trans found⟩
    · rintro ⟨before, source, after, same, none, some⟩
      cases before with
      | nil =>
        cases same
        rw [some, Option.some_or]
      | cons other before =>
        cases same
        rw [none first List.mem_cons_self, Option.none_or, ih]
        exact ⟨before, source, after, rfl, fun item member =>
          none item (List.mem_cons_of_mem _ member), some⟩

theorem lookup_flatMap_isSome_iff {α : Type} (sources : List α) (pairs : α → List (Nat × TypeRef))
    (key : Nat) :
    ((sources.flatMap pairs).lookup key).isSome ↔
      ∃ source ∈ sources, ((pairs source).lookup key).isSome := by
  induction sources with
  | nil => simp
  | cons first rest ih =>
    rw [List.flatMap_cons, List.lookup_append, Option.isSome_or, Bool.or_eq_true, ih,
      List.exists_mem_cons_iff]

end ClassAtlas.VarMap

import Mathlib.Data.List.Induction
import Mathlib.Data.List.Nodup
import ClassAtlas.Json.Value

/-!
# Members of objects

An object may write a key more than once, and then the last member of the key counts.  Sorting the
members keeps what each key stands for (`member?_sortMembers`) and leaves one member for each key
(`mem_sortMembers_iff`), so a value and its canonical form have the same fields
(`field?_canonical`).
-/

set_option autoImplicit false

namespace ClassAtlas.Json

variable {key : String} {value : Json} {members : List (String × Json)}

@[simp] theorem member?_nil (key : String) : member? [] key = none := rfl

theorem member?_concat (members : List (String × Json)) (last : String × Json) (key : String) :
    member? (members ++ [last]) key =
      if last.1 = key then some last.2 else member? members key := by
  simp [member?]

/-- What a key stands for is written with that key. -/
theorem mem_of_member? (found : member? members key = some value) : (key, value) ∈ members := by
  induction members using List.reverseRecOn with
  | nil => simp at found
  | append_singleton members last ih =>
    rw [member?_concat] at found
    split at found
    · next same =>
      obtain rfl := Option.some.inj found
      simp [← same]
    · exact List.mem_append_left _ (ih found)

/-- A key that is written, always with the same value, stands for that value. -/
theorem member?_eq_of_mem (written : (key, value) ∈ members)
    (only : ∀ other, (key, other) ∈ members → other = value) :
    member? members key = some value := by
  induction members using List.reverseRecOn with
  | nil => simp at written
  | append_singleton members last ih =>
    obtain ⟨lastKey, lastValue⟩ := last
    rw [member?_concat]
    split
    · next same =>
      obtain rfl : lastKey = key := same
      rw [only lastValue (by simp)]
    · next different =>
      have earlier : (key, value) ∈ members := by
        rcases List.mem_append.1 written with earlier | last
        · exact earlier
        · exact absurd (congrArg Prod.fst (List.mem_singleton.1 last)).symm different
      exact ih earlier fun other listed => only other (List.mem_append_left _ listed)

/-- Keys that tell their items apart stand for the values of these items. -/
theorem member?_map_eq_some_iff {α : Type} {items : List α} {name : α → String}
    {content : α → Json} (apart : ∀ left ∈ items, ∀ right ∈ items, name left = name right →
      left = right) :
    member? (items.map fun item => (name item, content item)) key = some value ↔
      ∃ item ∈ items, name item = key ∧ content item = value := by
  constructor
  · intro found
    obtain ⟨item, listed, same⟩ := List.mem_map.1 (mem_of_member? found)
    exact ⟨item, listed, (Prod.mk.inj same).1, (Prod.mk.inj same).2⟩
  · rintro ⟨item, listed, rfl, rfl⟩
    refine member?_eq_of_mem (List.mem_map.2 ⟨item, listed, rfl⟩) fun other written => ?_
    obtain ⟨twin, twinListed, same⟩ := List.mem_map.1 written
    obtain ⟨sameName, rfl⟩ := Prod.mk.inj same
    rw [apart twin twinListed item listed sameName]

/-! ## Sorted members -/

/-- Members with strictly ascending keys. -/
def KeysAscend (members : List (String × Json)) : Prop :=
  members.Pairwise fun first second => first.1 < second.1

theorem mem_putMember_iff (ascend : KeysAscend members) (member : String × Json) :
    member ∈ putMember key value members ↔
      member = (key, value) ∨ member ∈ members ∧ member.1 ≠ key := by
  induction members with
  | nil => simp [putMember]
  | cons first rest ih =>
    obtain ⟨other, old⟩ := first
    obtain ⟨above, ascendRest⟩ := List.pairwise_cons.1 ascend
    have notBelow : ∀ member ∈ rest, ∀ least, least < other ∨ least = other →
        member.1 ≠ least := by
      rintro member listed least (below | rfl) rfl
      · exact String.lt_asymm below (above member listed)
      · exact String.lt_irrefl _ (above member listed)
    rw [putMember]
    split
    · next same =>
      subst same
      have apart := fun listed : member ∈ rest => notBelow member listed key (.inr rfl)
      rw [List.mem_cons, List.mem_cons, or_and_right, and_iff_left_of_imp apart]
      have older : ¬(member = (key, old) ∧ member.1 ≠ key) := fun ⟨same, different⟩ =>
        different (congrArg Prod.fst same)
      rw [or_iff_right older]
    · split
      · next different earlier =>
        have apart : member ∈ (other, old) :: rest → member.1 ≠ key := by
          rintro listed
          rcases List.mem_cons.1 listed with rfl | listed
          · exact fun same => different same.symm
          · exact notBelow member listed key (.inl earlier)
        rw [List.mem_cons, and_iff_left_of_imp apart]
      · next different later =>
        have apart : member = (other, old) → member.1 ≠ key := by
          rintro rfl same
          exact different same.symm
        rw [List.mem_cons, List.mem_cons, ih ascendRest, or_and_right,
          and_iff_left_of_imp apart, or_left_comm]

theorem keysAscend_putMember (ascend : KeysAscend members) :
    KeysAscend (putMember key value members) := by
  induction members with
  | nil => exact List.pairwise_singleton _ _
  | cons first rest ih =>
    obtain ⟨other, old⟩ := first
    obtain ⟨above, ascendRest⟩ := List.pairwise_cons.1 ascend
    rw [putMember]
    split
    · next same =>
      exact List.pairwise_cons.2 ⟨fun member listed => same ▸ above member listed, ascendRest⟩
    · split
      · next different earlier =>
        have below : ∀ member ∈ rest, key < member.1 := fun member listed =>
          String.lt_trans earlier (above member listed)
        exact List.pairwise_cons.2 ⟨List.forall_mem_cons.2 ⟨earlier, below⟩, ascend⟩
      · next different later =>
        refine List.pairwise_cons.2 ⟨fun member listed => ?_, ih ascendRest⟩
        rcases (mem_putMember_iff ascendRest member).1 listed with rfl | ⟨listed, -⟩
        · exact Std.lt_of_le_of_ne later (Ne.symm different)
        · exact above member listed

theorem sortMembers_concat (members : List (String × Json)) (last : String × Json) :
    sortMembers (members ++ [last]) = putMember last.1 last.2 (sortMembers members) := by
  simp [sortMembers]

theorem keysAscend_sortMembers (members : List (String × Json)) :
    KeysAscend (sortMembers members) := by
  induction members using List.reverseRecOn with
  | nil => exact .nil
  | append_singleton members last ih =>
    rw [sortMembers_concat]
    exact keysAscend_putMember ih

/-- **Sorting leaves one member for each key**, the last one. -/
theorem mem_sortMembers_iff (members : List (String × Json)) (key : String) (value : Json) :
    (key, value) ∈ sortMembers members ↔ member? members key = some value := by
  induction members using List.reverseRecOn with
  | nil => simp [sortMembers]
  | append_singleton members last ih =>
    obtain ⟨lastKey, lastValue⟩ := last
    rw [sortMembers_concat, mem_putMember_iff (keysAscend_sortMembers members), ih,
      member?_concat]
    split
    · next same =>
      obtain rfl : lastKey = key := same
      simp [eq_comm]
    · next different => simp [Ne.symm different]

theorem member?_sortMembers (members : List (String × Json)) (key : String) :
    member? (sortMembers members) key = member? members key := by
  refine Option.ext fun value => ⟨fun found => ?_, fun found => ?_⟩
  · exact (mem_sortMembers_iff members key value).1 (mem_of_member? found)
  · have listed := (mem_sortMembers_iff members key value).2 found
    refine member?_eq_of_mem listed fun other listed => ?_
    have again := (mem_sortMembers_iff members key other).1 listed
    exact Option.some.inj (again.symm.trans found)

/-! ## Members with different keys -/

theorem KeysAscend.nodup_keys (ascend : KeysAscend members) : (members.map Prod.fst).Nodup :=
  List.pairwise_map.2 (ascend.imp fun below => Std.ne_of_lt below)

/-- Members with different keys say what they are written with. -/
theorem member?_eq_some_iff (apart : (members.map Prod.fst).Nodup) :
    member? members key = some value ↔ (key, value) ∈ members := by
  refine ⟨mem_of_member?, fun written => member?_eq_of_mem written fun other listed => ?_⟩
  exact (Prod.mk.inj (List.inj_on_of_nodup_map apart listed written rfl)).2

/-- Sorting changes nothing but the order of members with different keys. -/
theorem sortMembers_perm (apart : (members.map Prod.fst).Nodup) :
    (sortMembers members).Perm members := by
  have sorted := (keysAscend_sortMembers members).nodup_keys
  refine (List.perm_ext_iff_of_nodup (.of_map _ sorted) (.of_map _ apart)).2 fun member => ?_
  rw [mem_sortMembers_iff members member.1 member.2, member?_eq_some_iff apart]

/-! ## Canonical forms -/

theorem canonicalItems_eq_map (items : List Json) : canonicalItems items = items.map canonical := by
  induction items with
  | nil => rfl
  | cons item rest ih => rw [canonicalItems, ih, List.map_cons]

theorem canonicalMembers_eq_map (members : List (String × Json)) :
    canonicalMembers members = members.map fun member => (member.1, member.2.canonical) := by
  induction members with
  | nil => rfl
  | cons member rest ih => rw [canonicalMembers, ih, List.map_cons]

theorem canonical_array (items : List Json) :
    (Json.array items).canonical = .array (items.map canonical) := by
  rw [canonical, canonicalItems_eq_map]

/-- An object with one member keeps it. -/
theorem canonical_singleton (key : String) (value : Json) :
    (Json.object [(key, value)]).canonical = .object [(key, value.canonical)] := by
  rw [canonical, canonicalMembers_eq_map]
  rfl

theorem member?_canonicalMembers (members : List (String × Json)) (key : String) :
    member? (canonicalMembers members) key = (member? members key).map canonical := by
  rw [canonicalMembers_eq_map]
  induction members using List.reverseRecOn with
  | nil => rfl
  | append_singleton members last ih =>
    rw [List.map_append, List.map_singleton, member?_concat, member?_concat, ih]
    split <;> rfl

theorem mem_canonicalMembers_iff (members : List (String × Json)) (key : String) (value : Json) :
    (key, value) ∈ sortMembers (canonicalMembers members) ↔
      ∃ written, member? members key = some written ∧ written.canonical = value := by
  rw [mem_sortMembers_iff, member?_canonicalMembers, Option.map_eq_some_iff]

theorem canonical_eq_object_iff {value : Json} {members : List (String × Json)} :
    value.canonical = .object members ↔
      ∃ written, value = .object written ∧ sortMembers (canonicalMembers written) = members := by
  cases value <;> simp [canonical]

theorem canonical_eq_array_iff {value : Json} {items : List Json} :
    value.canonical = .array items ↔
      ∃ written, value = .array written ∧ written.map canonical = items := by
  cases value <;> simp [canonical, canonicalItems_eq_map]

theorem canonical_eq_nat_iff {value : Json} {number : Nat} :
    value.canonical = .nat number ↔ value = .nat number := by
  cases value <;> simp [canonical, nat]

/-- **A value and its canonical form have the same fields.** -/
theorem field?_canonical (key : String) (value : Json) :
    field? key value.canonical = (field? key value).map canonical := by
  cases value with
  | object members =>
    rw [canonical, field?, field?, member?_sortMembers, member?_canonicalMembers]
  | _ => rfl

end ClassAtlas.Json

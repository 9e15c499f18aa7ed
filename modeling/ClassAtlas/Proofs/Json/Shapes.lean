import ClassAtlas.Json.Shape
import ClassAtlas.Proofs.Json.Members
import ClassAtlas.Proofs.Outcome

/-!
# Typed readers

What a reader makes of a value that was written in its form.  A list is read back when each of its
items is (`items_map`).

A reader of a record sees the members one key at a time.  As long as the key is written once at
most, all that counts is what the key stands for (`field_eq`), so the order of the members makes no
difference.
-/

set_option autoImplicit false

namespace ClassAtlas

theorem Json.nat_injective : Function.Injective Json.nat := fun left right same => by
  simpa [Json.nat] using same

namespace Shape

/-! ## Numbers and lists -/

theorem nat32_eq_ok_iff {value : Json} {id : Nat} :
    nat32 value = .ok id ↔ value = .nat id ∧ id < limit32 := by
  rw [nat32, Json.nat]
  fun_cases boundedNat limit32 "u32" value with
  | case1 written below => grind
  | case2 written above => grind
  | case3 magnitude => simp
  | case4 other notNatural notNegative => simpa using fun same => absurd same (notNatural id)

theorem nat32_nat {id : Nat} (below : id < limit32) : nat32 (.nat id) = .ok id :=
  nat32_eq_ok_iff.2 ⟨rfl, below⟩

section

variable {α : Type} {shape : Shape α} {encode : α → Json} {values : List α}

/-- Items that are read back make a list that is read back. -/
theorem items_map (reads : ∀ value ∈ values, shape (encode value) = .ok value) :
    items shape (values.map encode) = .ok values := by
  induction values with
  | nil => rfl
  | cons value rest ih =>
    obtain ⟨here, there⟩ := List.forall_mem_cons.1 reads
    rw [List.map_cons, items, here, ih there]
    rfl

theorem list_ofList (reads : ∀ value ∈ values, shape (encode value) = .ok value) :
    list shape (.ofList encode values) = .ok values :=
  items_map reads

/-- What can be read as a list is read so, also where one item would do. -/
theorem oneOrMany_ofList (reads : ∀ value ∈ values, shape (encode value) = .ok value) :
    oneOrMany shape (.ofList encode values) = .ok values := by
  rw [oneOrMany, list_ofList reads]
  exact fun same => nomatch same

/-- A value that is neither a list nor `null` is read as one item. -/
theorem oneOrMany_of_one {value : Json} {item : α} (some : value ≠ .null)
    (single : ∀ items, value ≠ .array items) (read : shape value = .ok item) :
    oneOrMany shape value = .ok [item] := by
  cases value with
  | null => exact absurd rfl some
  | array items => exact absurd rfl (single items)
  | bool | number | text | object =>
    simp only [oneOrMany, list, read]

end

theorem items_map_nat {ids : List Nat} (below : ∀ id ∈ ids, id < limit32) :
    items nat32 (ids.map Json.nat) = .ok ids :=
  items_map fun id listed => nat32_nat (below id listed)

/-- A list of numbers is read from the list of these numbers only. -/
theorem eq_map_of_items {values : List Json} {ids : List Nat}
    (read : items nat32 values = .ok ids) :
    values = ids.map Json.nat ∧ ∀ id ∈ ids, id < limit32 := by
  induction values generalizing ids with
  | nil =>
    obtain rfl : [] = ids := by simpa [items] using read
    simp
  | cons value rest ih =>
    obtain ⟨id, first, read⟩ := Outcome.bind_eq_ok.1 read
    obtain ⟨tail, others, read⟩ := Outcome.bind_eq_ok.1 read
    obtain rfl : id :: tail = ids := Except.ok.inj read
    obtain ⟨rfl, below⟩ := nat32_eq_ok_iff.1 first
    obtain ⟨rfl, tailBelow⟩ := ih others
    exact ⟨rfl, List.forall_mem_cons.2 ⟨below, tailBelow⟩⟩

/-! ## Fields of records -/

section

variable {α : Type} {members : List (String × Json)} {key : String}

theorem occurrences_le_one (apart : (members.map Prod.fst).Nodup) (key : String) :
    occurrences key members ≤ 1 := by
  have counted : occurrences key members = (members.map Prod.fst).count key := by
    rw [occurrences, List.count, List.countP_map, List.countP_eq_length_filter]
    simp [Function.comp_def, Bool.beq_eq_decide_eq]
  rw [counted]
  exact List.nodup_iff_count_le_one.1 apart key

/-- **A field that is written once at most is read from what its key stands for.** -/
theorem field_eq (once : occurrences key members ≤ 1) (shape : Shape α) :
    field members key shape =
      match Json.member? members key with
      | none => .ok none
      | some value => (shape value).map some := by
  rw [field]
  exact if_neg (Nat.not_lt.2 once)

theorem fieldOr_of_absent (once : occurrences key members ≤ 1)
    (absent : Json.member? members key = none) (shape : Shape α) (default : α) :
    fieldOr members key shape default = .ok default := by
  rw [fieldOr, field_eq once, absent]
  rfl

theorem fieldOr_of_present (once : occurrences key members ≤ 1) {value : Json}
    (present : Json.member? members key = some value) (shape : Shape α) (default : α) :
    fieldOr members key shape default = shape value := by
  rw [fieldOr, field_eq once, present]
  simp only
  cases shape value <;> rfl

end

end Shape

end ClassAtlas

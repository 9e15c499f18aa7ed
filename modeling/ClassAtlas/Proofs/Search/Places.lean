import ClassAtlas.Search.Hits
import Mathlib.Data.List.Nodup

/-!
# Places of search subjects

What can be found in a snapshot stands at a place: a type, or a member of a class that declares it.
A search looks at the places of all types in their order (`Tables.pairwise_places`), and no two of
them are the same (`Tables.nodup_places`), so hits can be counted by their places.
-/

set_option autoImplicit false

namespace ClassAtlas

/-! ## Places -/

/-- Where a subject stands in a snapshot. -/
inductive Place where
  | type (id : Nat)
  | field (declaring index : Nat)
  | method (declaring index : Nat)
  | parameter (declaring : Nat) (owner : ParameterOwner) (index : Nat)
  deriving DecidableEq, Repr

/-- The place of a subject. -/
def Subject.place : Subject → Place
  | .type view => .type view.ref.id
  | .field member => .field member.declaring member.index
  | .method member => .method member.declaring member.index
  | .parameter member => .parameter member.declaring member.owner member.index

/-- The hits of a kind, in their order. -/
def SearchHits.subjects (hits : SearchHits) : SearchKind → List Subject
  | .classes => hits.classes.map .type
  | .fields => hits.fields.map .field
  | .methods => hits.methods.map .method
  | .parameters => hits.parameters.map fun hit => .parameter hit.parameter

/-- The places of the hits of a kind. -/
def SearchHits.places (hits : SearchHits) (kind : SearchKind) : List Place :=
  (hits.subjects kind).map Subject.place

/-- The members that a class declares; there are none where the type is no class or cannot be
read. -/
def Tables.declaredMembers (tables : Tables) (id : Nat) : ClassMembers :=
  match tables.typeData id, tables.membersOf id with
  | .ok (.rawClass _), .ok members => members
  | _, _ => ⟨[], [], []⟩

/-- The places of a kind that belong to a type: the type itself, the fields or the methods that it
declares as a class, or the parameters of those methods. -/
def Tables.placesOf (tables : Tables) (id : Nat) : SearchKind → List Place
  | .classes => [.type id]
  | .fields => (List.range (tables.declaredMembers id).fields.length).map (.field id)
  | .methods => (List.range (tables.declaredMembers id).methods.length).map (.method id)
  | .parameters => ((tables.declaredMembers id).methods.mapIdx fun index method =>
      (List.range method.parameters.length).map (.parameter id (.method index))).flatten

/-- All places of a kind. -/
def Tables.places (tables : Tables) (kind : SearchKind) : List Place :=
  tables.typeIds.flatMap fun id => tables.placesOf id kind

/-! ## The order of places -/

namespace Place

/-- The type that a place belongs to. -/
def owner : Place → Nat
  | .type id => id
  | .field declaring _ => declaring
  | .method declaring _ => declaring
  | .parameter declaring _ _ => declaring

/-- The number of a member, or of the member that a parameter belongs to, in its class. -/
def member : Place → Nat
  | .type _ => 0
  | .field _ index => index
  | .method _ index => index
  | .parameter _ (.method index) _ => index
  | .parameter _ (.constructor index) _ => index

/-- The number of a parameter in its member. -/
def inner : Place → Nat
  | .parameter _ _ index => index
  | _ => 0

/-- The order of places of one kind: that of the types, then that of the members, then that of their
parameters. -/
def Before (first second : Place) : Prop :=
  first.owner < second.owner ∨ first.owner = second.owner ∧
    (first.member < second.member ∨ first.member = second.member ∧ first.inner < second.inner)

theorem Before.ne {first second : Place} (before : first.Before second) : first ≠ second := by
  rintro rfl
  unfold Before at before
  omega

end Place

namespace Tables

variable (tables : Tables)

theorem parameterPlaces_eq (id : Nat) :
    tables.placesOf id .parameters =
      (tables.declaredMembers id).methods.zipIdx.flatMap fun pair =>
        (List.range pair.1.parameters.length).map (.parameter id (.method pair.2)) := by
  rw [placesOf, List.mapIdx_eq_zipIdx_map, List.flatMap_def]

theorem owner_of_mem_placesOf {id : Nat} {kind : SearchKind} {place : Place}
    (listed : place ∈ tables.placesOf id kind) : place.owner = id := by
  cases kind with
  | classes =>
    cases List.mem_singleton.1 listed
    rfl
  | fields | methods =>
    obtain ⟨index, _, rfl⟩ := List.mem_map.1 listed
    rfl
  | parameters =>
    rw [parameterPlaces_eq] at listed
    obtain ⟨pair, _, listed⟩ := List.mem_flatMap.1 listed
    obtain ⟨index, _, rfl⟩ := List.mem_map.1 listed
    rfl

theorem pairwise_placesOf (id : Nat) (kind : SearchKind) :
    (tables.placesOf id kind).Pairwise Place.Before := by
  have ascending : ∀ (count : Nat) (place : Nat → Place),
      (∀ {low high}, low < high → (place low).Before (place high)) →
        ((List.range count).map place).Pairwise Place.Before := fun count place before =>
    List.pairwise_map.2 (List.pairwise_lt_range.imp before)
  cases kind with
  | classes => exact List.pairwise_singleton _ _
  | fields | methods => exact ascending _ _ fun less => .inr ⟨rfl, .inl less⟩
  | parameters =>
    rw [parameterPlaces_eq, List.pairwise_flatMap]
    refine ⟨fun pair _ => ascending _ _ fun less => .inr ⟨rfl, .inr ⟨rfl, less⟩⟩, ?_⟩
    have numbered : (tables.declaredMembers id).methods.zipIdx.Pairwise fun first second =>
        first.2 < second.2 := by
      rw [← List.pairwise_map, List.zipIdx_map_snd]
      exact List.pairwise_lt_range'
    refine numbered.imp fun less place here other there => ?_
    obtain ⟨_, _, rfl⟩ := List.mem_map.1 here
    obtain ⟨_, _, rfl⟩ := List.mem_map.1 there
    exact .inr ⟨rfl, .inl less⟩

/-- The places of a kind come in their order. -/
theorem pairwise_places (kind : SearchKind) : (tables.places kind).Pairwise Place.Before := by
  refine List.pairwise_flatMap.2 ⟨fun id _ => tables.pairwise_placesOf id kind, ?_⟩
  refine List.pairwise_lt_range.imp fun less place here other there => .inl ?_
  rwa [tables.owner_of_mem_placesOf here, tables.owner_of_mem_placesOf there]

theorem nodup_places (kind : SearchKind) : (tables.places kind).Nodup :=
  (tables.pairwise_places kind).imp Place.Before.ne

theorem mem_places_type {id : Nat} :
    Place.type id ∈ tables.places .classes ↔ id < tables.typeCount := by
  simp [places, placesOf, typeIds]

end Tables

end ClassAtlas

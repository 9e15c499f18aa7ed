import ClassAtlas.Search.Subject
import ClassAtlas.Search.Terms

/-!
# Search

A search looks at every type and, for classes, at the members that the class declares.  Each kind of
subject is searched on its own, and a kind without filters is not searched.

A fault ends the visit of one type.  It is recorded for that type; what was found before it stays,
and the search goes on with the next type.

Classes are listed by simple name, members by name, without regard to case; subjects of equal names
keep the order in which they were found.
-/

set_option autoImplicit false

namespace ClassAtlas

open Work (lift)

/-- A parameter together with its method. -/
structure ParameterHit where
  method : Method
  parameter : Parameter

/-- A type whose visit ended in a fault. -/
structure SearchFailure where
  type : Nat
  fault : Fault

/-- What a search has found. -/
structure SearchHits where
  classes : List TypeView
  fields : List Field
  methods : List Method
  parameters : List ParameterHit
  failures : List SearchFailure

namespace SearchHits

/-- Nothing found. -/
def empty : SearchHits := ⟨[], [], [], [], []⟩

/-- Whether no subject was found. -/
def isEmpty (hits : SearchHits) : Bool :=
  hits.classes.isEmpty && hits.fields.isEmpty && hits.methods.isEmpty && hits.parameters.isEmpty

end SearchHits

/-- A step of a search: it adds to the hits, and what it has added stays when it fails. -/
abbrev Visit : Type := Remembering (Memory × SearchHits) Unit

namespace SearchQuery

/-- Asks whether a subject passes all filters, and adds it to the hits if it does.  Without
filters nothing is asked. -/
def consider (atlas : Atlas) (filters : List Filter) (subject : Subject)
    (add : SearchHits → SearchHits) : Visit := fun (memory, hits) =>
  if filters.isEmpty then (.ok (), memory, hits)
  else match Filter.evaluateAll atlas subject filters memory with
    | (.ok true, memory) => (.ok (), memory, add hits)
    | (.ok false, memory) => (.ok (), memory, hits)
    | (.error fault, memory) => (.error fault, memory, hits)

/-- A computation that adds nothing to the hits. -/
def aside {α : Type} (step : Work α) : Remembering (Memory × SearchHits) α :=
  fun (memory, hits) =>
    match step memory with
    | (outcome, memory) => (outcome, memory, hits)

/-- Does a step for each item of a list. -/
def each {α : Type} (step : α → Visit) : List α → Visit
  | [] => pure ()
  | item :: rest => do
    step item
    each step rest

/-- Looks at the parameters of a method. -/
def visitParameters (atlas : Atlas) (filters : List Filter) (method : Method) : Visit := do
  if filters.isEmpty then return
  let parameters ← aside (lift (method.parameters atlas.tables))
  each (fun parameter => consider atlas filters (.parameter parameter) fun hits =>
    { hits with parameters := hits.parameters ++ [⟨method, parameter⟩] }) parameters

/-- Looks at the members that a class declares. -/
def visitMembers (atlas : Atlas) (query : SearchQuery) (view : TypeView) : Visit := do
  if !query.fields.isEmpty then
    let fields ← aside (view.fields atlas true)
    each (fun field => consider atlas query.fields (.field field) fun hits =>
      { hits with fields := hits.fields ++ [field] }) fields
  if query.methods.isEmpty && query.parameters.isEmpty then return
  let methods ← aside (view.methods atlas true)
  each (fun method => do
    visitParameters atlas query.parameters method
    consider atlas query.methods (.method method) fun hits =>
      { hits with methods := hits.methods ++ [method] }) methods

/-- Looks at a type and, if it is a class, at its members. -/
def visit (atlas : Atlas) (query : SearchQuery) (id : Nat) : Visit := do
  let view ← aside (lift (atlas.tables.view (.plain id)))
  consider atlas query.classes (.type view) fun hits =>
    { hits with classes := hits.classes ++ [view] }
  if view.data.isClass then visitMembers atlas query view

/-- Looks at some types, recording the faults.  A fault of nesting without end is not recorded. -/
def visitAll (atlas : Atlas) (query : SearchQuery) : List Nat → SearchHits → Work SearchHits
  | [], hits => pure hits
  | id :: rest, hits => fun memory =>
    match query.visit atlas id (memory, hits) with
    | (.ok (), memory, hits) => visitAll atlas query rest hits memory
    | (.error (.endless type), memory, _) => (.error (.endless type), memory)
    | (.error fault, memory, hits) =>
      visitAll atlas query rest { hits with failures := hits.failures ++ [⟨id, fault⟩] } memory

end SearchQuery

/-- The key of an item under which it is listed: its name in lower case, empty if there is none. -/
def sortKey (name : Work (Option String)) : Work String := do
  match ← Work.attempt name with
  | .ok (some text) => return Text.lower text
  | .ok none => return ""
  | .error _ => return ""

/-- Lists items by their keys; items with equal keys keep their order.  The key of a single item is
not asked for. -/
def sortedBy {α : Type} (name : α → Work (Option String)) (items : List α) : Work (List α) := do
  if items.length < 2 then return items
  else do
    let keyed ← Work.forAll (fun item => do return (← sortKey (name item), item)) items
    return (keyed.mergeSort fun left right => left.1 ≤ right.1).map Prod.snd

/-- Lists all hits by their names. -/
def SearchHits.sorted (hits : SearchHits) (atlas : Atlas) : Work SearchHits := do
  let tables := atlas.tables
  let classes ← sortedBy (fun view => do return some (← view.simpleName atlas)) hits.classes
  let fields ← sortedBy (fun field => tables.optionalName field.record.name) hits.fields
  let methods ← sortedBy (fun method => tables.optionalName method.record.name) hits.methods
  let parameters ← sortedBy
    (fun hit => tables.optionalName hit.parameter.record.name) hits.parameters
  return { hits with classes, fields, methods, parameters }

/-- Searches all types. -/
def SearchQuery.run (query : SearchQuery) (atlas : Atlas) : Work SearchHits := do
  let hits ←
    if query.isEmpty then pure .empty
    else query.visitAll atlas atlas.tables.typeIds .empty
  hits.sorted atlas

end ClassAtlas

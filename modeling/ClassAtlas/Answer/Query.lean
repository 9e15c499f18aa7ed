import ClassAtlas.Answer.Entries
import ClassAtlas.Answer.Listing
import ClassAtlas.Index.Build
import ClassAtlas.Query.Doc

/-!
# Answers to queries

A query is answered from the index of a snapshot and from the snapshot itself.  A target that names
no type and a search that cannot be understood end a query; rows that cannot be made do not.
-/

set_option autoImplicit false

namespace ClassAtlas

/-- A search with the rows of what it has found. -/
structure SearchResults where
  classes : Listing ClassEntry
  fields : Listing MemberEntry
  methods : Listing MemberEntry
  parameters : Listing MemberEntry
  deriving Repr

/-- The answer to a query. -/
inductive QueryResult where
  | classes (listing : Listing ClassEntry)
  | members (listing : Listing MemberEntry)
  | related (listing : Listing RelatedEntry)
  | relations (listing : Listing RelationEntry)
  | search (results : SearchResults)
  | events (groups : List EventEntry)
  | bindings (listing : Listing BindingEntry)
  | stats (stats : IndexStats)
  deriving Repr

/-- A computation with the whole memory that a front end has asked for. -/
abbrev Answering (α : Type) : Type := ExceptT RequestError (StateM Memory) α

/-- A computation as part of a request. -/
def Work.requested {α : Type} (step : Work α) : Answering α := fun memory =>
  match step memory with
  | (outcome, memory) => (outcome.mapError RequestError.ofFault, memory)

/-- An index together with what it was made from. -/
structure Prepared where
  atlas : Atlas
  index : Index
  loadedFromCache : Bool

namespace Prepared

/-- The numbers of the index. -/
def stats (prepared : Prepared) : Except Fault IndexStats := do
  let bindings ← prepared.atlas.tables.readBindings
  return prepared.index.stats bindings.length prepared.loadedFromCache

end Prepared

namespace DocQuery

/-- How a type is called in failures. -/
def typeSubject (id : Nat) : String :=
  s!"type {id}"

/-- How a member is called in failures. -/
def memberSubject {α : Type} (kind : MemberKind) (member : Member α) : String :=
  s!"{kind.label} {member.index} of type {member.declaring}"

/-- How a parameter is called in failures. -/
def parameterSubject (hit : ParameterHit) : String :=
  s!"parameter {hit.parameter.index} of method {hit.method.index} in type {hit.method.declaring}"

/-- The type that a target names. -/
def target (atlas : Atlas) (name : String) : Answering TypeView := do
  match ← Work.requested (atlas.resolve name) with
  | some ref => Work.requested (Work.lift (atlas.tables.view ref))
  | none => throw (.notFound s!"class '{Text.trimmed name}'")

/-- Rows for the hits of a search, and the types whose visit failed. -/
def searchResults (atlas : Atlas) (query : SearchQuery) : Work SearchResults := do
  let hits ← query.run atlas
  let classes ← Listing.build (fun view => typeSubject view.ref.id)
    (ClassEntry.ofView atlas) hits.classes
  let failures := hits.failures.map fun failure =>
    (⟨typeSubject failure.type, failure.fault.message⟩ : RowFailure)
  let fields ← Listing.build (memberSubject .field) (MemberEntry.ofField atlas) hits.fields
  let methods ← Listing.build (memberSubject .method) (MemberEntry.ofMethod atlas) hits.methods
  let parameters ← Listing.build parameterSubject (MemberEntry.ofParameter atlas) hits.parameters
  return { classes := { classes with failures := classes.failures ++ failures }
           fields, methods, parameters }

/-- The answer to a search. -/
def runSearch (atlas : Atlas) : Except QueryFlaw SearchQuery → Answering QueryResult
  | .ok query => do return .search (← Work.requested (searchResults atlas query))
  | .error flaw => throw (.ofFault (.invalidQuery flaw))

/-- The relations of a type to others, of one kind or of all kinds. -/
def relationPairs (graph : Graph) (id : Nat) : Option RelationKind → List (RelationKind × Nat)
  | some kind => (graph.relation kind id).map fun other => (kind, other)
  | none => (graph.relationsOf id).flatMap fun pair => pair.2.map fun other => (pair.1, other)

/-- The row of a type by its id. -/
def entryOf (atlas : Atlas) (id : Nat) : Work ClassEntry := do
  let view ← Work.lift (atlas.tables.view (.plain id))
  ClassEntry.ofView atlas view

/-- The rows of event groups; types whose rows cannot be made are left out. -/
def eventEntries (atlas : Atlas) : List (String × List Nat) → Work (List EventEntry)
  | [] => pure []
  | (base, ids) :: rest => do
    let listing ← Listing.build typeSubject (entryOf atlas) ids
    let others ← eventEntries atlas rest
    return ⟨base, listing.rows⟩ :: others

/-- Answers a query. -/
def run (prepared : Prepared) : DocQuery → Answering QueryResult
  | .search params => runSearch prepared.atlas (SearchQuery.ofParams params)
  | .searchExpr expr inclusive exact =>
    runSearch prepared.atlas (SearchQuery.ofExpr expr ⟨inclusive, exact, exact⟩)
  | .describe name => do
    let view ← target prepared.atlas name
    let listing ← Work.requested (Listing.build (fun view => typeSubject view.ref.id)
      (ClassEntry.ofView prepared.atlas) [view])
    return .classes listing
  | .fields name shallow => do
    let view ← target prepared.atlas name
    let members ← Work.requested (view.fields prepared.atlas shallow)
    let listing ← Work.requested
      (Listing.build (memberSubject .field) (MemberEntry.ofField prepared.atlas) members)
    return .members listing
  | .methods name shallow => do
    let view ← target prepared.atlas name
    let members ← Work.requested (view.methods prepared.atlas shallow)
    let listing ← Work.requested
      (Listing.build (memberSubject .method) (MemberEntry.ofMethod prepared.atlas) members)
    return .members listing
  | .constructors name => do
    let view ← target prepared.atlas name
    let members ← Work.requested (view.constructors prepared.atlas)
    let listing ← Work.requested
      (Listing.build (memberSubject .constructor) (MemberEntry.ofConstructor prepared.atlas)
        members)
    return .members listing
  | .related name => do
    let view ← target prepared.atlas name
    let related ← Work.requested (Work.lift (view.relatedClasses prepared.atlas.tables))
    let row (found : RelatedClass) : Work RelatedEntry := do
      let seen ← view.relatedView prepared.atlas found
      return ⟨found.relation.label, ← ClassEntry.ofView prepared.atlas seen⟩
    let listing ← Work.requested
      (Listing.build (fun found => typeSubject found.type.id) row related)
    return .related listing
  | .relations name kind => do
    let view ← target prepared.atlas name
    let pairs := relationPairs prepared.index.graph view.ref.id kind
    let subject (pair : RelationKind × Nat) : String :=
      s!"{pair.1.wireName} {typeSubject pair.2}"
    let row (pair : RelationKind × Nat) : Work RelationEntry := do
      return ⟨pair.1, ← entryOf prepared.atlas pair.2⟩
    return .relations (← Work.requested (Listing.build subject row pairs))
  | .events => do
    return .events (← Work.requested (eventEntries prepared.atlas prepared.index.events))
  | .bindings => do
    let bindings ← Work.requested (Work.lift prepared.atlas.tables.readBindings)
    let listing ← Work.requested (Listing.build (fun binding => s!"binding {binding.name}")
      (BindingEntry.ofBinding prepared.atlas) bindings)
    return .bindings listing
  | .stats => do return .stats (← Work.requested (Work.lift prepared.stats))

end DocQuery

namespace QueryResult

/-- The data of an answer and the name of its form. -/
def parts : QueryResult → String × Json
  | .classes listing => ("classes", listing.toJson ClassEntry.toJson)
  | .members listing => ("members", listing.toJson MemberEntry.toJson)
  | .related listing => ("related", listing.toJson RelatedEntry.toJson)
  | .relations listing => ("relations", listing.toJson RelationEntry.toJson)
  | .search results =>
    ("search", .object [
      ("classes", results.classes.toJson ClassEntry.toJson),
      ("fields", results.fields.toJson MemberEntry.toJson),
      ("methods", results.methods.toJson MemberEntry.toJson),
      ("parameters", results.parameters.toJson MemberEntry.toJson)])
  | .events groups => ("events", .ofList EventEntry.toJson groups)
  | .bindings listing => ("bindings", listing.toJson BindingEntry.toJson)
  | .stats numbers => ("stats", numbers.toJson)

/-- An answer as JSON. -/
def toJson (result : QueryResult) : Json :=
  let (kind, data) := result.parts
  .object [("kind", .text kind), ("data", data)]

end QueryResult

end ClassAtlas

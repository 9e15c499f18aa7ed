import ClassAtlas.Index.Facts
import ClassAtlas.Lookup

/-!
# The index of a snapshot

One pass over all types gives the relationship graph, the types by variant, the groups of event
classes, the names that were looked up on the way, and warnings about records that do not fit
together.

An event group belongs to a base class that the settings name: the base class itself, then what
inherits from it, then what applies it to arguments.
-/

set_option autoImplicit false

namespace ClassAtlas

open Work (lift)

/-- What the pass over a snapshot gives.  Event groups and looked-up names are in the order of
their names. -/
structure Index where
  graph : Graph
  partitions : Partitions
  events : List (String × List Nat)
  lookups : List (String × TypeRef)
  warnings : List String
  deriving DecidableEq, Repr

/-- Puts a group under its name into a list in ascending order, in the place of an older one. -/
def putGroup (name : String) (group : List Nat) :
    List (String × List Nat) → List (String × List Nat)
  | [] => [(name, group)]
  | entry :: rest =>
    if name < entry.1 then (name, group) :: entry :: rest
    else if name = entry.1 then (name, group) :: rest
    else entry :: putGroup name group rest

/-- The names found so far, in their order. -/
def Memory.lookups (memory : Memory) : List (String × TypeRef) :=
  memory.found.toList.mergeSort fun left right => left.1 ≤ right.1

/-- The group of a base class. -/
def Graph.eventGroup (graph : Graph) (base : Nat) : List Nat :=
  base :: Hierarchy.unmet [base]
    (graph.relation .inheritedBy base ++ graph.relation .parameterizedVariant base)

/-- The groups of some base classes; those that are not in the snapshot have none. -/
def Atlas.eventGroups (atlas : Atlas) (graph : Graph) :
    List String → List (String × List Nat) → Work (List (String × List Nat))
  | [], groups => pure groups
  | base :: rest, groups => do
    match ← atlas.findByName base with
    | some found =>
      eventGroups atlas graph rest (putGroup base (graph.eventGroup found.id) groups)
    | none => eventGroups atlas graph rest groups

/-- Indexes a snapshot. -/
def Atlas.index (atlas : Atlas) : Work Index := do
  let partitions ← atlas.tables.partitions
  let hierarchy ← lift (Hierarchy.ofTables atlas.tables)
  let findings ← lift (atlas.tables.facts hierarchy atlas.tables.typeIds)
  let graph := Graph.ofRelations findings.edges
  let events ← atlas.eventGroups graph atlas.config.eventBaseClasses []
  let memory ← get
  return { graph, partitions, events, lookups := memory.lookups, warnings := findings.warnings }

/-- The numbers of an index. -/
structure IndexStats where
  types : Nat
  rawClasses : Nat
  parameterized : Nat
  typeVariables : Nat
  wildcards : Nat
  edges : Nat
  relationCounts : List (RelationKind × Nat)
  eventClasses : Nat
  bindings : Nat
  warnings : List String
  loadedFromCache : Bool
  deriving DecidableEq, Repr

namespace Index

/-- How many types are in some event group. -/
def eventClassCount (index : Index) : Nat :=
  (Hierarchy.unmet [] (index.events.flatMap Prod.snd)).length

/-- The numbers of an index of a snapshot with so many bindings. -/
def stats (index : Index) (bindings : Nat) (loadedFromCache : Bool) : IndexStats :=
  { types := index.partitions.size
    rawClasses := index.partitions.rawClasses.length
    parameterized := index.partitions.parameterized.length
    typeVariables := index.partitions.typeVariables.length
    wildcards := index.partitions.wildcards.length
    edges := index.graph.edgeCount
    relationCounts := index.graph.counts
    eventClasses := index.eventClassCount
    bindings, warnings := index.warnings, loadedFromCache }

end Index

/-- The numbers as JSON. -/
def IndexStats.toJson (stats : IndexStats) : Json :=
  .object [
    ("types", .nat stats.types),
    ("raw_classes", .nat stats.rawClasses),
    ("parameterized", .nat stats.parameterized),
    ("type_variables", .nat stats.typeVariables),
    ("wildcards", .nat stats.wildcards),
    ("edges", .nat stats.edges),
    ("relation_counts",
      .object (stats.relationCounts.map fun pair => (pair.1.wireName, .nat pair.2))),
    ("event_classes", .nat stats.eventClasses),
    ("bindings", .nat stats.bindings),
    ("warnings", .texts stats.warnings),
    ("loaded_from_cache", .bool stats.loadedFromCache)]

end ClassAtlas

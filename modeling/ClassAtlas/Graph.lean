import ClassAtlas.Json.Printer
import ClassAtlas.Json.Reader
import ClassAtlas.Json.Shape
import ClassAtlas.RelationKind
import ClassAtlas.Text.Numerals

/-!
# The relationship graph

Typed, directed relations between types.  A graph is the list of its edges in ascending order of
kind, source and target, so that equal graphs are equal lists.  Adding an edge adds its inverse too,
and lookups against the direction of an edge are lookups of the inverse kind.

The written form groups the edges by the name of their kind and by their source in decimal digits,
both in the order of texts.  Reading accepts every spelling of a kind and of a number, merges
repeated ones, and adds only what is written.
-/

set_option autoImplicit false

namespace ClassAtlas

/-- A directed relation between two types. -/
structure Edge where
  kind : RelationKind
  source : Nat
  target : Nat
  deriving DecidableEq, Repr, Hashable

namespace Edge

/-- The order of edges: by kind, then by source, then by target. -/
def before (left right : Edge) : Bool :=
  left.kind.rank < right.kind.rank ||
    (left.kind.rank == right.kind.rank &&
      (left.source < right.source ||
        (left.source == right.source && left.target < right.target)))

/-- The same relation seen from its target. -/
def inverse (edge : Edge) : Edge :=
  ⟨edge.kind.inverse, edge.target, edge.source⟩

end Edge

/-- A set of edges in ascending order. -/
structure Graph where
  edges : List Edge
  deriving DecidableEq, Repr, Inhabited

namespace Graph

/-- No edges. -/
def empty : Graph := ⟨[]⟩

/-- Puts an edge into its place in an ascending list. -/
def insertEdge (edge : Edge) : List Edge → List Edge
  | [] => [edge]
  | first :: rest =>
    if edge.before first then edge :: first :: rest
    else if edge = first then first :: rest
    else first :: insertEdge edge rest

/-- Adds one edge, in its written direction only. -/
def insert (graph : Graph) (edge : Edge) : Graph :=
  ⟨insertEdge edge graph.edges⟩

/-- Adds an edge and its inverse. -/
def add (graph : Graph) (source : Nat) (kind : RelationKind) (target : Nat) : Graph :=
  let edge : Edge := ⟨kind, source, target⟩
  (graph.insert edge).insert edge.inverse

/-- Merges two ascending lists of edges. -/
def mergeEdges : List Edge → List Edge → List Edge
  | [], right => right
  | left, [] => left
  | first :: left, second :: right =>
    if first.before second then first :: mergeEdges left (second :: right)
    else if first = second then first :: mergeEdges left right
    else second :: mergeEdges (first :: left) right

/-- Joins neighbouring lists of edges pairwise. -/
def mergePairs : List (List Edge) → List (List Edge)
  | first :: second :: rest => mergeEdges first second :: mergePairs rest
  | short => short

/-- Merges ascending lists in rounds, each of which halves their number. -/
def mergeAll : Nat → List (List Edge) → List Edge
  | 0, lists => lists.flatten
  | _, [] => []
  | _, [only] => only
  | rounds + 1, lists => mergeAll rounds (mergePairs lists)

/-- The graph with given edges, in whatever order and repetition. -/
def ofEdges (edges : List Edge) : Graph :=
  ⟨mergeAll edges.length (edges.map fun edge => [edge])⟩

/-- Whether an edge is in the graph. -/
def has (graph : Graph) (source : Nat) (kind : RelationKind) (target : Nat) : Bool :=
  graph.edges.contains ⟨kind, source, target⟩

/-- The targets of one kind of edges that leave a type, ascending. -/
def relation (graph : Graph) (kind : RelationKind) (source : Nat) : List Nat :=
  (graph.edges.filter fun edge => edge.kind == kind && edge.source == source).map Edge.target

/-- The kinds of edges that leave a type, in their order, each with its targets. -/
def relationsOf (graph : Graph) (source : Nat) : List (RelationKind × List Nat) :=
  let leaving : Graph := ⟨graph.edges.filter fun edge => edge.source == source⟩
  (RelationKind.all.map fun kind => (kind, leaving.relation kind source)).filter fun pair =>
    !pair.2.isEmpty

/-- All edges in ascending order. -/
def triples (graph : Graph) : List (RelationKind × Nat × Nat) :=
  graph.edges.map fun edge => (edge.kind, edge.source, edge.target)

/-- How many edges there are of a kind. -/
def count (graph : Graph) (kind : RelationKind) : Nat :=
  (graph.edges.filter fun edge => edge.kind == kind).length

/-- The number of edges of each kind that has some, in the order of kinds. -/
def counts (graph : Graph) : List (RelationKind × Nat) :=
  (RelationKind.all.map fun kind => (kind, graph.count kind)).filter fun pair => pair.2 ≠ 0

/-- The number of edges. -/
def edgeCount (graph : Graph) : Nat :=
  graph.edges.length

/-- Whether there is no edge. -/
def isEmpty (graph : Graph) : Bool :=
  graph.edges.isEmpty

/-! ## The written form -/

/-- The numbers of a list without neighbours that are equal. -/
def dropRepeats : List Nat → List Nat
  | first :: second :: rest =>
    if first = second then dropRepeats (second :: rest) else first :: dropRepeats (second :: rest)
  | short => short

/-- The sources of the edges of a kind, ascending. -/
def sourcesOf (graph : Graph) (kind : RelationKind) : List Nat :=
  dropRepeats ((graph.edges.filter fun edge => edge.kind == kind).map Edge.source)

/-- The edges of one kind: from sources as texts to lists of targets, in the order of texts. -/
def kindToJson (graph : Graph) (kind : RelationKind) : Json :=
  let ofKind : Graph := ⟨graph.edges.filter fun edge => edge.kind == kind⟩
  .object (Json.sortMembers ((ofKind.sourcesOf kind).map fun source =>
    (toString source, .ofList .nat (ofKind.relation kind source))))

/-- The graph as JSON: from names of kinds to the edges of each kind, in the order of texts. -/
def toJson (graph : Graph) : Json :=
  .object (Json.sortMembers ((graph.counts.map Prod.fst).map fun kind =>
    (kind.wireName, graph.kindToJson kind)))

/-- The graph as a JSON text. -/
def toText (graph : Graph) : String :=
  graph.toJson.compact

/-- Reads the targets that belong to one source. -/
def readTargets (kind : RelationKind) (source : String) (targets : Json) :
    Option (List Edge) := do
  let source ← Text.readNat limit32 source
  match targets with
  | .array targets =>
    match Shape.items Shape.nat32 targets with
    | .ok targets => return targets.map fun target => ⟨kind, source, target⟩
    | .error _ => none
  | _ => none

/-- Reads the edges of one kind. -/
def readSources (kind : RelationKind) : List (String × Json) → Option (List Edge)
  | [] => some []
  | (source, targets) :: rest => do
    let first ← readTargets kind source targets
    let others ← readSources kind rest
    return first ++ others

/-- Reads all edges. -/
def readKinds : List (String × Json) → Option (List Edge)
  | [] => some []
  | (name, .object sources) :: rest => do
    let kind ← RelationKind.parse? name
    let first ← readSources kind sources
    let others ← readKinds rest
    return first ++ others
  | _ => none

/-- The graph that JSON describes: exactly the edges that are written, the last of two equal keys
counting. -/
def ofJson? : Json → Option Graph
  | .object kinds => (readKinds kinds).map ofEdges
  | _ => none

/-- Whether a value is an object of objects of lists of numbers, every member counted. -/
def hasShape : Json → Bool
  | .object kinds => kinds.all fun kind =>
    match kind.2 with
    | .object sources => sources.all fun source => (Shape.list Shape.nat32 source.2).isOk
    | _ => false
  | _ => false

/-- The graph that a text describes. -/
def ofText? (text : String) : Option Graph := do
  let value ← Json.ofText? text
  if hasShape value then ofJson? value.canonical else none

end Graph

end ClassAtlas

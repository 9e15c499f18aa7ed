import ClassAtlas.Json.Printer
import ClassAtlas.Store

/-!
# Stored indices as text

The form in which a stored index is kept in a file: a JSON object with the stamps and the parts of
the index.  A text that does not have this form is a damaged file.
-/

set_option autoImplicit false

namespace ClassAtlas

/-- A pair, as a list of two. -/
def Shape.pair {α β : Type} (first : Shape α) (second : Shape β) : Shape (α × β)
  | .array [one, other] => do return (← first one, ← second other)
  | other => .error (.wrongKind other "a pair")

/-- The groups of types by variant. -/
def Shape.partitions : Shape Partitions := fun value => do
  let fields ← members ["wildcards", "parameterized", "type_variables", "raw"] "partitions" value
  let ids (key : String) := field fields key (list nat32) >>= required key
  return ⟨← ids "wildcards", ← ids "parameterized", ← ids "type_variables", ← ids "raw"⟩

/-- A relationship graph; of equal keys the last one counts. -/
def Shape.graph : Shape Graph := fun value =>
  match Graph.ofJson? value.canonical with
  | some graph => .ok graph
  | none => .error (.wrongKind value "a graph")

/-- An index as JSON. -/
def Index.toJson (index : Index) : Json :=
  .object [
    ("graph", index.graph.toJson),
    ("partitions", index.partitions.toJson),
    ("events", .ofList
      (fun group => .array [.text group.1, .ofList .nat group.2]) index.events),
    ("lookups", .ofList (fun entry => .array [.text entry.1, entry.2.toJson]) index.lookups),
    ("warnings", .texts index.warnings)]

/-- An index. -/
def Shape.index : Shape Index := fun value => do
  let fields ← members ["graph", "partitions", "events", "lookups", "warnings"] "an index" value
  let graph ← field fields "graph" graph >>= required "graph"
  let partitions ← field fields "partitions" partitions >>= required "partitions"
  let events ← field fields "events" (list (pair string (list nat32))) >>= required "events"
  let lookups ← field fields "lookups" (list (pair string typeRef)) >>= required "lookups"
  let warnings ← field fields "warnings" (list string) >>= required "warnings"
  return ⟨graph, partitions, events, lookups, warnings⟩

/-- A stored index with its stamps. -/
def Shape.storedIndex : Shape StoredIndex := fun value => do
  let fields ← members ["version", "source", "index"] "a stored index" value
  let version ← field fields "version" nat32 >>= required "version"
  let source ← field fields "source" string >>= required "source"
  let index ← field fields "index" index >>= required "index"
  return ⟨version, source, index⟩

namespace StoredFile

/-- The text of a file that keeps an index; a damaged file has none. -/
def toText : StoredFile → String
  | .damaged => ""
  | .saved stored =>
    (Json.object [
      ("version", .nat stored.version), ("source", .text stored.source),
      ("index", stored.index.toJson)]).compact

/-- The file with a text. -/
def ofText (text : String) : StoredFile :=
  match Json.ofText? text with
  | none => .damaged
  | some value =>
    match Shape.storedIndex value with
    | .ok stored => .saved stored
    | .error _ => .damaged

end StoredFile

end ClassAtlas

import ClassAtlas.Answer.Query
import ClassAtlas.Shell.Grid
import ClassAtlas.Shell.Style

/-!
# Answers on the screen

How the answer to a query is shown: as a table of its rows, with the failures below.  A single class
is shown by its properties, one in a line.  An answer without rows and without failures is one line
that says so.
-/

set_option autoImplicit false

namespace ClassAtlas.Shell

/-- The columns in which items are shown. -/
structure Columns (α : Type) where
  headings : List String
  cells : α → List String

namespace Columns

/-- The table of some items. -/
def grid {α : Type} (columns : Columns α) (items : List α) : Grid :=
  ⟨columns.headings, items.map columns.cells⟩

end Columns

/-- A text, or a hyphen for the empty one. -/
def orHyphen (text : String) : String :=
  if text.isEmpty then "-" else text

/-- The columns of types. -/
def classColumns : Columns ClassEntry :=
  ⟨["id", "variant", "name", "package", "modifiers"], fun entry =>
    [toString entry.id, entry.variant.toText, entry.name, orHyphen entry.package,
      orHyphen entry.modifiers]⟩

/-- The columns of members. -/
def memberColumns : Columns MemberEntry :=
  ⟨["kind", "name", "type", "signature", "declared_in"], fun entry =>
    [entry.kind.label, entry.name, entry.typeName, entry.signature,
      shortName entry.declaringClassName]⟩

/-- The headings of related classes and of relations. -/
def relationHeadings : List String := ["relation", "id", "class"]

/-- The columns of related classes. -/
def relatedColumns : Columns RelatedEntry :=
  ⟨relationHeadings, fun entry =>
    [entry.relation, toString entry.type.id, entry.type.referenceName]⟩

/-- The columns of relations. -/
def relationColumns : Columns RelationEntry :=
  ⟨relationHeadings, fun entry =>
    [entry.relation.wireName, toString entry.type.id, entry.type.referenceName]⟩

/-- The columns of bindings. -/
def bindingColumns : Columns BindingEntry :=
  ⟨["id", "type", "data"], fun entry =>
    [entry.id, entry.typeName, (entry.data.map Json.compact).getD "-"]⟩

/-- The columns of properties. -/
def propertyColumns : Columns (String × String) :=
  ⟨["property", "value"], fun property => [property.1, property.2]⟩

/-- What is shown when there is nothing to show. -/
def noRecords : String := "NO RECORDS FOUND"

/-- The line of a failure. -/
def failureLine (failure : RowFailure) : String :=
  (Style.coloured .red).paint s!"! {failure.subject}: {failure.message}"

/-- A text with the failures in the lines below it. -/
def withFailures (body : String) (failures : List RowFailure) : String :=
  "\n".intercalate ((if body.isEmpty then [] else [body]) ++ failures.map failureLine)

/-- A listing as a table. -/
def listingText {α : Type} (columns : Columns α) (listing : Listing α) : String :=
  if listing.isEmpty then noRecords
  else
    let body := if listing.rows.isEmpty then "" else (columns.grid listing.rows).text
    withFailures body listing.failures

/-- The heading of a part of an answer, with the number of its rows. -/
def title (name : String) (count : Nat) : String :=
  s!"{(Style.bold .lightBlue).paint name} ({count})\n"

/-- A listing under a heading, unless there is nothing in it. -/
def part {α : Type} (name : String) (columns : Columns α) (listing : Listing α) : List String :=
  if listing.isEmpty then []
  else [title name listing.rows.length ++ listingText columns listing]

/-- Parts with an empty line between them. -/
def joined (parts : List String) : String :=
  if parts.isEmpty then noRecords else "\n\n".intercalate parts

/-- What a search has found. -/
def searchText (results : SearchResults) : String :=
  joined (part "Classes" classColumns results.classes ++
    part "Fields" memberColumns results.fields ++
    part "Methods" memberColumns results.methods ++
    part "Parameters" memberColumns results.parameters)

/-- The groups of event classes. -/
def eventsText (groups : List EventEntry) : String :=
  joined (groups.map fun group =>
    title group.base group.classes.length ++ (classColumns.grid group.classes).text)

/-- The properties of a class. -/
def classProperties (entry : ClassEntry) : List (String × String) :=
  [("id", toString entry.id), ("name", entry.referenceName), ("kind", entry.variant.toText),
    ("package", orHyphen entry.package), ("modifiers", orHyphen entry.modifiers)] ++
  (if entry.arrayDepth = 0 then [] else [("array depth", toString entry.arrayDepth)]) ++
  (entry.superClass.map fun name => ("extends", name)).toList ++
  (if entry.interfaces.isEmpty then []
    else [("implements", ", ".intercalate entry.interfaces)]) ++
  (entry.annotations.map fun text => ("annotation", text)) ++
  (entry.loadSnippet.map fun line => ("load", line)).toList

/-- The numbers of an index. -/
def statsProperties (stats : IndexStats) : List (String × String) :=
  [("types", toString stats.types), ("raw classes", toString stats.rawClasses),
    ("parameterized", toString stats.parameterized),
    ("type variables", toString stats.typeVariables), ("wildcards", toString stats.wildcards),
    ("edges", toString stats.edges), ("event classes", toString stats.eventClasses),
    ("bindings", toString stats.bindings),
    ("from stored index", if stats.loadedFromCache then "true" else "false")] ++
  stats.relationCounts.map fun pair => (pair.1.wireName, toString pair.2)

/-- The numbers of an index as a table, with the warnings below. -/
def statsText (stats : IndexStats) : String :=
  "\n".intercalate ((propertyColumns.grid (statsProperties stats)).text ::
    stats.warnings.map fun warning => (Style.coloured .yellow).paint s!"warning: {warning}")

/-- The text of an answer. -/
def screenText : QueryResult → String
  | .classes listing =>
    match listing.rows with
    | [entry] =>
      withFailures (propertyColumns.grid (classProperties entry)).text listing.failures
    | _ => listingText classColumns listing
  | .members listing => listingText memberColumns listing
  | .related listing => listingText relatedColumns listing
  | .relations listing => listingText relationColumns listing
  | .bindings listing => listingText bindingColumns listing
  | .search results => searchText results
  | .events groups => eventsText groups
  | .stats numbers => statsText numbers

end ClassAtlas.Shell

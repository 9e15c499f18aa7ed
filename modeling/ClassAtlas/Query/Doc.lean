import ClassAtlas.Query.Expr
import ClassAtlas.Query.Params
import ClassAtlas.RelationKind

/-!
# Documentation queries

What a front end can ask of a prepared session.  On the wire a query is an object whose member
`command` says which query it is; its other members are the arguments.  It may also be a list that
starts with the command and goes on with the arguments in their order.
-/

set_option autoImplicit false

namespace ClassAtlas

/-- A query.  A `target` is a type id in decimal digits or the name of a class. -/
inductive DocQuery where
  | search (params : SearchParams)
  | searchExpr (expr : QueryExpr) (inclusive exact : Bool)
  | describe (target : String)
  | fields (target : String) (shallow : Bool)
  | methods (target : String) (shallow : Bool)
  | constructors (target : String)
  | related (target : String)
  | relations (target : String) (kind : Option RelationKind)
  | events
  | bindings
  | stats
  deriving Repr

namespace DocQuery

/-- The query as JSON. -/
def toJson : DocQuery → Json
  | .search params => .object [("command", .text "search"), ("params", params.toJson)]
  | .searchExpr expr inclusive exact =>
    .object [
      ("command", .text "search_expr"), ("expr", expr.toJson),
      ("inclusive", .bool inclusive), ("exact", .bool exact)]
  | .describe target => .object [("command", .text "show"), ("target", .text target)]
  | .fields target shallow =>
    .object [("command", .text "fields"), ("target", .text target), ("shallow", .bool shallow)]
  | .methods target shallow =>
    .object [("command", .text "methods"), ("target", .text target), ("shallow", .bool shallow)]
  | .constructors target => .object [("command", .text "constructors"), ("target", .text target)]
  | .related target => .object [("command", .text "related"), ("target", .text target)]
  | .relations target kind =>
    .object [
      ("command", .text "relations"), ("target", .text target),
      ("kind", .ofOption (fun kind => .text kind.wireName) kind)]
  | .events => .object [("command", .text "events")]
  | .bindings => .object [("command", .text "bindings")]
  | .stats => .object [("command", .text "stats")]

/-- The kinds of queries, by their command. -/
inductive Command where
  | search
  | searchExpr
  | describe
  | fields
  | methods
  | constructors
  | related
  | relations
  | events
  | bindings
  | stats
  deriving DecidableEq, Repr

/-- All commands. -/
def Command.all : List Command :=
  [.search, .searchExpr, .describe, .fields, .methods, .constructors, .related, .relations, .events,
    .bindings, .stats]

/-- The name of a command on the wire. -/
def Command.wireName : Command → String
  | .search => "search"
  | .searchExpr => "search_expr"
  | .describe => "show"
  | .fields => "fields"
  | .methods => "methods"
  | .constructors => "constructors"
  | .related => "related"
  | .relations => "relations"
  | .events => "events"
  | .bindings => "bindings"
  | .stats => "stats"

/-- The names of the arguments of a command, in their order. -/
def Command.arguments : Command → List String
  | .search => ["params"]
  | .searchExpr => ["expr", "inclusive", "exact"]
  | .describe => ["target"]
  | .fields => ["target", "shallow"]
  | .methods => ["target", "shallow"]
  | .constructors => ["target"]
  | .related => ["target"]
  | .relations => ["target", "kind"]
  | .events => []
  | .bindings => []
  | .stats => []

/-- Reads the name of a command. -/
def readCommand : Json → Except Mismatch Command
  | .text name =>
    match Command.all.find? fun command => command.wireName == name with
    | some command => .ok command
    | none => .error (.unknownAlternative name)
  | other => .error (.wrongKind other "variant identifier")

/-- A kind of relation by its exact name, alone or as the key of an object without content. -/
def readKind : Json → Except Mismatch RelationKind
  | .text name => find name
  | .object [(name, .null)] => find name
  | .object [(name, .object [])] => find name
  | other => .error (.wrongKind other "a relation kind")
where
  /-- The kind with exactly this name. -/
  find (name : String) : Except Mismatch RelationKind :=
    match RelationKind.ofWireName? name with
    | some kind => .ok kind
    | none => .error (.unknownAlternative name)

/-- Reads a target. -/
def readTarget (members : List (String × Json)) : Except Mismatch String := do
  let target ← Shape.field members "target" Shape.string
  Shape.required "target" target

/-- Reads the arguments of a command. -/
def ofArguments (command : Command) (members : List (String × Json)) :
    Except Mismatch DocQuery :=
  match command with
  | .search => do
    let params ← Shape.field members "params" Shape.searchParams
    let params ← Shape.required "params" params
    return .search params
  | .searchExpr => do
    let expr ← Shape.field members "expr" QueryExpr.ofJson
    let inclusive ← Shape.fieldOr members "inclusive" Shape.boolean true
    let exact ← Shape.fieldOr members "exact" Shape.boolean false
    let expr ← Shape.required "expr" expr
    return .searchExpr expr inclusive exact
  | .describe => (readTarget members).map .describe
  | .fields => do
    let target ← readTarget members
    let shallow ← Shape.fieldOr members "shallow" Shape.boolean false
    return .fields target shallow
  | .methods => do
    let target ← readTarget members
    let shallow ← Shape.fieldOr members "shallow" Shape.boolean false
    return .methods target shallow
  | .constructors => (readTarget members).map .constructors
  | .related => (readTarget members).map .related
  | .relations => do
    let target ← readTarget members
    let kind ← Shape.fieldOr members "kind" (Shape.optional readKind) none
    return .relations target kind
  | .events => .ok .events
  | .bindings => .ok .bindings
  | .stats => .ok .stats

/-- Reads a query. -/
def ofJson : Json → Except Mismatch DocQuery
  | .object members => do
    let command ← Shape.field members "command" readCommand
    let command ← Shape.required "command" command
    ofArguments command (members.filter fun member => member.1 ≠ "command")
  | .array (command :: values) => do
    let command ← readCommand command
    let members ← Shape.members command.arguments "the arguments of a query" (.array values)
    ofArguments command members
  | other => .error (.wrongKind other "a query")

end DocQuery

end ClassAtlas

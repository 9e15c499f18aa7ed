import ClassAtlas.Arguments
import ClassAtlas.Json.Reader
import ClassAtlas.Query.Doc
import ClassAtlas.Query.ExprText
import ClassAtlas.Shell.Words

/-!
# Commands of the shell

The commands that can be typed into the shell, their arguments, and the queries they stand for.
Most commands ask for a class by name or by id, and take the current class when none is given.
-/

set_option autoImplicit false

namespace ClassAtlas.Shell

open Arguments (Refusal)

/-- The first words of commands. -/
inductive Verb where
  | search
  | expr
  | describe
  | fields
  | methods
  | constructors
  | related
  | relations
  | events
  | bindings
  | stats
  | json
  | enter
  | whereabouts
  | save
  | clear
  deriving DecidableEq, Repr

namespace Verb

/-- All verbs in their order. -/
def all : List Verb :=
  [.search, .expr, .describe, .fields, .methods, .constructors, .related, .relations, .events,
    .bindings, .stats, .json, .enter, .whereabouts, .save, .clear]

/-- The word that is typed. -/
def name : Verb → String
  | .search => "search"
  | .expr => "expr"
  | .describe => "show"
  | .fields => "fields"
  | .methods => "methods"
  | .constructors => "ctors"
  | .related => "related"
  | .relations => "relations"
  | .events => "events"
  | .bindings => "bindings"
  | .stats => "stats"
  | .json => "json"
  | .enter => "cd"
  | .whereabouts => "pwd"
  | .save => "save"
  | .clear => "clear"

/-- The verb with a name. -/
def ofName? (name : String) : Option Verb :=
  all.find? fun verb => verb.name == name

/-- Whether the first argument is a class. -/
def takesClass : Verb → Bool
  | .describe => true
  | .fields => true
  | .methods => true
  | .constructors => true
  | .related => true
  | .relations => true
  | .enter => true
  | _ => false

/-- No two verbs share a name. -/
theorem name_injective {first second : Verb} (same : first.name = second.name) :
    first = second := by
  cases first <;> cases second <;> first | rfl | exact absurd same (by decide)

end Verb

/-- The words that can stand at the start of a line. -/
def commandNames : List String :=
  ["help", "exit", "quit"] ++ Verb.all.map Verb.name

/-- Whether a word starts a command whose first argument is a class. -/
def takesClass (name : String) : Bool :=
  (Verb.ofName? name).any Verb.takesClass

/-! ## Arguments -/

/-- The class, which may be left out. -/
def classPlace : Arguments.Place := ⟨"target", false, Arguments.anyText⟩

/-- An argument that may not be left out. -/
def textPlace (name : String) : Arguments.Place := ⟨name, true, Arguments.anyText⟩

/-- The option that leaves out inherited members. -/
def shallowChoice : Arguments.Choice := ⟨"shallow", some 's', .mark⟩

/-- The option that names a kind of relations. -/
def kindChoice : Arguments.Choice :=
  ⟨"kind", none, .value fun text =>
    if (RelationKind.parse? text).isSome then none else some .badValue⟩

/-- The options and places of a command. -/
def Verb.arguments (verb : Verb) : Arguments.Command :=
  let (choices, places) : List Arguments.Choice × List Arguments.Place := match verb with
    | .search => ([], [textPlace "query"])
    | .expr => ([⟨"exclusive", none, .mark⟩, ⟨"exact", none, .mark⟩], [textPlace "expr"])
    | .describe => ([], [classPlace])
    | .fields => ([shallowChoice], [classPlace])
    | .methods => ([shallowChoice], [classPlace])
    | .constructors => ([], [classPlace])
    | .related => ([], [classPlace])
    | .relations => ([kindChoice], [classPlace])
    | .events => ([], [])
    | .bindings => ([], [])
    | .stats => ([], [])
    | .json => ([], [textPlace "query"])
    | .enter => ([], [textPlace "target"])
    | .whereabouts => ([], [])
    | .save => ([], [])
    | .clear => ([], [])
  ⟨verb.name, choices ++ [.help], places, none⟩

/-- The grammar of the shell. -/
def grammar : Arguments.Grammar :=
  ⟨[.help], Verb.all.map Verb.arguments⟩

/-! ## Commands -/

/-- A command with its arguments. -/
inductive Command where
  | search (query : String)
  | expr (text : String) (exclusive exact : Bool)
  | describe (target : Option String)
  | fields (target : Option String) (shallow : Bool)
  | methods (target : Option String) (shallow : Bool)
  | constructors (target : Option String)
  | related (target : Option String)
  | relations (target : Option String) (kind : Option RelationKind)
  | events
  | bindings
  | stats
  | json (text : String)
  | enter (target : String)
  | whereabouts
  | save
  | clear
  deriving DecidableEq, Repr

namespace Command

/-- The first word of a command. -/
def verb : Command → Verb
  | .search _ => .search
  | .expr .. => .expr
  | .describe _ => .describe
  | .fields .. => .fields
  | .methods .. => .methods
  | .constructors _ => .constructors
  | .related _ => .related
  | .relations .. => .relations
  | .events => .events
  | .bindings => .bindings
  | .stats => .stats
  | .json _ => .json
  | .enter _ => .enter
  | .whereabouts => .whereabouts
  | .save => .save
  | .clear => .clear

/-- The command with a verb and what is given for its options and places. -/
def ofGiven (verb : Verb) (given : Arguments.Given) : Command :=
  let target := given.place? "target"
  let text (name : String) := (given.place? name).getD ""
  match verb with
  | .search => .search (text "query")
  | .expr => .expr (text "expr") (given.marked "exclusive") (given.marked "exact")
  | .describe => .describe target
  | .fields => .fields target (given.marked "shallow")
  | .methods => .methods target (given.marked "shallow")
  | .constructors => .constructors target
  | .related => .related target
  | .relations => .relations target ((given.value? "kind").bind RelationKind.parse?)
  | .events => .events
  | .bindings => .bindings
  | .stats => .stats
  | .json => .json (text "query")
  | .enter => .enter (text "target")
  | .whereabouts => .whereabouts
  | .save => .save
  | .clear => .clear

/-- Reads the arguments of a command, the verb included. -/
def ofArguments (arguments : List String) : Except Refusal Command := do
  let invocation ← grammar.read arguments
  match Verb.ofName? invocation.command with
  | some verb => return ofGiven verb invocation.given
  | none => throw .unknownCommand

end Command

/-- Why a line is no command. -/
inductive LineFault where
  | unmatchedQuotes
  | refused (refusal : Refusal)
  deriving DecidableEq, Repr

/-- The wording for a line that is no command. -/
def LineFault.message : LineFault → String
  | .unmatchedQuotes => "Invalid quoting"
  | .refused refusal => refusal.message

/-- Reads a line of the shell. -/
def Command.ofLine (line : String) : Except LineFault Command :=
  match wordsOf? line with
  | none => .error .unmatchedQuotes
  | some words => (Command.ofArguments words).mapError .refused

/-! ## Queries of commands -/

/-- The class that commands without a class are about. -/
structure CurrentClass where
  id : Nat
  name : String
  deriving DecidableEq, Repr

/-- Why a command that asks something gives no query. -/
inductive NoQuery where
  /-- no class is given, and there is no current one -/
  | noClass
  /-- the JSON of the argument spells no query -/
  | malformed
  deriving DecidableEq, Repr

/-- The wording for a command without a query. -/
def NoQuery.message : NoQuery → String
  | .noClass => "No class given and no current class"
  | .malformed => "Invalid JSON"

/-- A class that is given, or else the id of the current class. -/
def targetOr (current : Option CurrentClass) (given : Option String) : Except NoQuery String :=
  match given, current with
  | some target, _ => .ok target
  | none, some current => .ok (toString current.id)
  | none, none => .error .noClass

/-- What a text spells, if it is well formed. -/
def wellFormed {α : Type} : Option α → Except NoQuery α
  | some value => .ok value
  | none => .error .malformed

/-- The query that a JSON text spells. -/
def docQueryOfText? (text : String) : Option DocQuery :=
  (Json.ofText? text).bind fun value => (DocQuery.ofJson value).toOption

/-- The query that a command stands for.  Four commands act on the shell itself and stand for
none. -/
def Command.query? (current : Option CurrentClass) :
    Command → Except NoQuery (Option DocQuery)
  | .search query => .ok (some (.search (SearchParams.parse query)))
  | .expr text exclusive exact =>
    (wellFormed (QueryExpr.ofText? text)).map fun expr => some (.searchExpr expr (!exclusive) exact)
  | .describe target => (targetOr current target).map fun target => some (.describe target)
  | .fields target shallow =>
    (targetOr current target).map fun target => some (.fields target shallow)
  | .methods target shallow =>
    (targetOr current target).map fun target => some (.methods target shallow)
  | .constructors target => (targetOr current target).map fun target => some (.constructors target)
  | .related target => (targetOr current target).map fun target => some (.related target)
  | .relations target kind =>
    (targetOr current target).map fun target => some (.relations target kind)
  | .events => .ok (some .events)
  | .bindings => .ok (some .bindings)
  | .stats => .ok (some .stats)
  | .json text => (wellFormed (docQueryOfText? text)).map some
  | .enter _ => .ok none
  | .whereabouts => .ok none
  | .save => .ok none
  | .clear => .ok none

/-- The commands that stand for no query are those that act on the shell. -/
theorem Command.query?_eq_none_iff (current : Option CurrentClass) (command : Command) :
    command.query? current = .ok none ↔
      command.verb ∈ [Verb.enter, Verb.whereabouts, Verb.save, Verb.clear] := by
  have mapped {α : Type} (outcome : Except NoQuery α) (f : α → DocQuery) :
      (outcome.map fun value => some (f value)) ≠ .ok none := by
    cases outcome <;> simp [Except.map]
  cases command <;> simp [query?, verb, mapped]

end ClassAtlas.Shell

import ClassAtlas.Fault
import ClassAtlas.Query.Expr
import ClassAtlas.Search.Filter
import ClassAtlas.Text.Blank
import ClassAtlas.Text.Numerals

/-!
# Search terms

The keys of search terms, what each of them asks of classes, fields, methods and parameters, and the
filters of whole searches.  A term speaks of some of the four kinds and is silent on the others.

In a flat search every term adds a filter to the lists of the kinds it speaks of, and terms with
unknown keys are passed over.  In a structured search the expression is carried over kind by kind:
parts that are silent on a kind do not count for it, and an unknown key is an error.
-/

set_option autoImplicit false

namespace ClassAtlas

/-- What can be searched for. -/
inductive SearchKind where
  | classes
  | fields
  | methods
  | parameters
  deriving DecidableEq, Repr

/-- One optional filter for each kind. -/
structure KindFilters where
  classes : Option Filter
  fields : Option Filter
  methods : Option Filter
  parameters : Option Filter
  deriving Repr

namespace KindFilters

/-- The filter of a kind. -/
def get (filters : KindFilters) : SearchKind → Option Filter
  | .classes => filters.classes
  | .fields => filters.fields
  | .methods => filters.methods
  | .parameters => filters.parameters

/-- The filters that a function gives. -/
def ofFun (filter : SearchKind → Option Filter) : KindFilters :=
  ⟨filter .classes, filter .fields, filter .methods, filter .parameters⟩

/-- A filter for every kind. -/
def every (filter : SearchKind → Filter) : KindFilters :=
  ofFun fun kind => some (filter kind)

/-- A filter for one kind only. -/
def only (wanted : SearchKind) (filter : Filter) : KindFilters :=
  ofFun fun kind => if kind = wanted then some filter else none

/-- Joins the filters of a kind; one filter alone stays as it is. -/
def join (combine : List Filter → Filter) : List Filter → Option Filter
  | [] => none
  | [only] => some only
  | filters => some (combine filters)

/-- Joins filters kind by kind. -/
def combine (parts : List KindFilters) (combine : List Filter → Filter) : KindFilters :=
  ofFun fun kind => join combine (parts.filterMap (·.get kind))

/-- Negates every filter that is there. -/
def negate (filters : KindFilters) : KindFilters :=
  ofFun fun kind => (filters.get kind).map .not

end KindFilters

/-- What a term means. -/
inductive Term where
  | any (scope : Option SearchKind)
  | classId
  | name
  | simpleName
  | memberName (kind : SearchKind)
  | typeText (aspect : TypeAttribute) (scope : Option SearchKind)
  | parameterCount
  | ignore (kind : SearchKind)
  | variant (variant : TypeVariant) (expected : Bool)
  deriving DecidableEq, Repr

namespace Term

/-- The keys of terms and what they mean. -/
def table : List (String × Term) :=
  [ ("any", .any none),
    ("class-any", .any (some .classes)),
    ("field-any", .any (some .fields)),
    ("method-any", .any (some .methods)),
    ("parameter-any", .any (some .parameters)),
    ("class-id", .classId),
    ("field-id", .typeText .referenceName (some .fields)),
    ("method-id", .typeText .referenceName (some .methods)),
    ("parameter-id", .typeText .referenceName (some .parameters)),
    ("name", .name),
    ("class-name", .typeText .name (some .classes)),
    ("field-name", .memberName .fields),
    ("method-name", .memberName .methods),
    ("parameter-name", .memberName .parameters),
    ("simplename", .simpleName),
    ("class-type-simplename", .typeText .simpleName (some .classes)),
    ("field-type-simplename", .typeText .simpleName (some .fields)),
    ("method-type-simplename", .typeText .simpleName (some .methods)),
    ("parameter-type-simple-name", .typeText .simpleName (some .parameters)),
    ("raw-type", .typeText .rawType none),
    ("class-raw-type", .typeText .rawType (some .classes)),
    ("field-raw-type", .typeText .rawType (some .fields)),
    ("method-raw-type", .typeText .rawType (some .methods)),
    ("parameter-raw-type", .typeText .rawType (some .parameters)),
    ("type-name", .typeText .name none),
    ("class-type-name", .typeText .name (some .classes)),
    ("field-type-name", .typeText .name (some .fields)),
    ("method-type-name", .typeText .name (some .methods)),
    ("parameter-type-name", .typeText .name (some .parameters)),
    ("package", .typeText .package none),
    ("class-package", .typeText .package (some .classes)),
    ("field-type-package", .typeText .package (some .fields)),
    ("method-type-package", .typeText .package (some .methods)),
    ("parameter-type-package", .typeText .package (some .parameters)),
    ("parameter-count", .parameterCount),
    ("ignore-classes", .ignore .classes),
    ("ignore-fields", .ignore .fields),
    ("ignore-methods", .ignore .methods),
    ("ignore-parameters", .ignore .parameters),
    ("raw-class-only", .variant .rawClass true),
    ("non-raw-class-only", .variant .rawClass false),
    ("type-variable-only", .variant .typeVariable true),
    ("non-type-variable-only", .variant .typeVariable false),
    ("wildcard-only", .variant .wildcard true),
    ("non-wildcard-only", .variant .wildcard false)]

/-- The keys of terms. -/
def keys : List String :=
  table.map Prod.fst

/-- The spelling of a key that decides its meaning: in lower case, without characters other than
ASCII letters, digits, hyphens and underscores. -/
def normalizeKey (key : String) : String :=
  String.ofList ((Text.lower key).toList.filter fun c =>
    ('a' ≤ c && c ≤ 'z') || ('0' ≤ c && c ≤ '9') || c == '-' || c == '_')

/-- The term that a key means. -/
def ofKey? (key : String) : Option Term :=
  table.lookup (normalizeKey key)

/-- A text test on the type of the subject. -/
def typeTest (aspect : TypeAttribute) (value : String) (options : MatchOptions) : Filter :=
  Filter.text (.type aspect) value options

/-- A text test on the name of a member. -/
def nameTest (value : String) (options : MatchOptions) : Filter :=
  Filter.text .memberName value options

/-- A text anywhere: in the reference name, the own name, the simple name or the package. -/
def anywhere (value : String) (options : MatchOptions) (kind : SearchKind) : Filter :=
  Filter.alternatives
    [typeTest .referenceName value options,
      if kind = .classes then typeTest .name value options else nameTest value options,
      typeTest .simpleName value options,
      typeTest .package value options]
    options

/-- A text in the name of a member or in an attribute of its type. -/
def ownOrType (aspect : TypeAttribute) (value : String) (options : MatchOptions) : Filter :=
  Filter.alternatives [nameTest value options, typeTest aspect value options] options

/-- The same filter for the kinds of a scope; no scope is all kinds. -/
def inScope (scope : Option SearchKind) (filter : SearchKind → Filter) : KindFilters :=
  match scope with
  | none => .every filter
  | some kind => .only kind (filter kind)

/-- The filters of a term with a value. -/
def filters (term : Term) (value : String) (options : MatchOptions) :
    Except QueryFlaw KindFilters :=
  match term with
  | .any scope => .ok (inScope scope (anywhere value options))
  | .classId =>
    .ok (.only .classes
      (match Text.readNat limit32 (Text.trimmed value) with
        | some id => .leaf (.id id options.inclusive)
        | none => typeTest .referenceName value options))
  | .name =>
    .ok (.every fun kind =>
      if kind = .classes then typeTest .name value options else ownOrType .name value options)
  | .simpleName =>
    .ok (.every fun kind =>
      if kind = .classes ∨ kind = .methods then typeTest .simpleName value options
      else ownOrType .simpleName value options)
  | .memberName kind => .ok (.only kind (nameTest value options))
  | .typeText aspect scope => .ok (inScope scope fun _ => typeTest aspect value options)
  | .parameterCount =>
    match Text.readNat limit64 (Text.trimmed value) with
    | some count => .ok (.only .methods (.leaf (.parameterCount count)))
    | none => .error (.parameterCount value)
  | .ignore kind => .ok (.only kind .never)
  | .variant wanted expected => .ok (.only .classes (.leaf (.variant wanted expected)))

/-- The filters of a key with a value, `none` for an unknown key. -/
def expand (key value : String) (options : MatchOptions) :
    Except QueryFlaw (Option KindFilters) :=
  match ofKey? key with
  | none => .ok none
  | some term => (term.filters value options).map some

end Term

/-- For each kind the filters that a subject must all pass; a kind without filters is not
searched. -/
structure SearchQuery where
  classes : List Filter
  fields : List Filter
  methods : List Filter
  parameters : List Filter
  deriving Repr

namespace SearchQuery

/-- The search that looks at nothing. -/
def empty : SearchQuery := ⟨[], [], [], []⟩

/-- The filters of a kind. -/
def get (query : SearchQuery) : SearchKind → List Filter
  | .classes => query.classes
  | .fields => query.fields
  | .methods => query.methods
  | .parameters => query.parameters

/-- Adds a filter to the lists of the kinds that have one. -/
def push (query : SearchQuery) (filters : KindFilters) : SearchQuery :=
  { classes := query.classes ++ filters.classes.toList
    fields := query.fields ++ filters.fields.toList
    methods := query.methods ++ filters.methods.toList
    parameters := query.parameters ++ filters.parameters.toList }

/-- Whether no kind is searched. -/
def isEmpty (query : SearchQuery) : Bool :=
  query.classes.isEmpty && query.fields.isEmpty && query.methods.isEmpty &&
    query.parameters.isEmpty

/-- Adds terms one after the other, unknown keys passed over. -/
def pushTerms (options : MatchOptions) (query : SearchQuery) :
    List (String × String) → Except QueryFlaw SearchQuery
  | [] => .ok query
  | (key, value) :: rest => do
    match ← Term.expand key value options with
    | some filters => pushTerms options (query.push filters) rest
    | none => pushTerms options query rest

/-- The search of flat parameters. -/
def ofParams (params : SearchParams) : Except QueryFlaw SearchQuery :=
  pushTerms (.ofParams params) empty params.terms

mutual
/-- The filters of an expression. -/
def compile (options : MatchOptions) : QueryExpr → Except QueryFlaw KindFilters
  | .term key value => do
    match ← Term.expand key value options with
    | some filters => return filters
    | none => throw (.unknownTerm key)
  | .and parts => do
    let parts ← compileList options parts
    return .combine parts .all
  | .or parts => do
    let parts ← compileList options parts
    return .combine parts .any
  | .not part => do
    let part ← compile options part
    return part.negate

/-- The filters of several expressions. -/
def compileList (options : MatchOptions) :
    List QueryExpr → Except QueryFlaw (List KindFilters)
  | [] => .ok []
  | part :: rest => do
    let first ← compile options part
    let others ← compileList options rest
    return first :: others
end

/-- The search of an expression. -/
def ofExpr (expr : QueryExpr) (options : MatchOptions) : Except QueryFlaw SearchQuery :=
  (compile options expr).map empty.push

/-- The search as JSON, by the shapes of its filters. -/
def toJson (query : SearchQuery) : Json :=
  .object [
    ("classes", .ofList Filter.toJson query.classes),
    ("fields", .ofList Filter.toJson query.fields),
    ("methods", .ofList Filter.toJson query.methods),
    ("parameters", .ofList Filter.toJson query.parameters),
    ("empty", .bool query.isEmpty)]

end SearchQuery

end ClassAtlas

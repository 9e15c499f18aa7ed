import ClassAtlas.Query.Params
import ClassAtlas.Record.Types
import ClassAtlas.Text.Case

/-!
# Filters

What a search asks of a class, a field, a method or a parameter: boolean combinations of tests on
texts, on ids, on the number of parameters and on the variant of a type.  A text test compares with
the value of an attribute of the subject; a missing or empty value fails an inclusive test and
satisfies an exclusive one.
-/

set_option autoImplicit false

namespace ClassAtlas

/-- How texts are compared: whether the text is wanted or unwanted, whether all of the value must
equal it, and whether letters of different case differ. -/
structure MatchOptions where
  inclusive : Bool
  exact : Bool
  caseSensitive : Bool
  deriving DecidableEq, Repr

/-- The options of a flat search. -/
def MatchOptions.ofParams (params : SearchParams) : MatchOptions :=
  ⟨params.inclusive, params.exact, params.isCaseSensitive⟩

/-- What of a type is compared. -/
inductive TypeAttribute where
  | referenceName
  | name
  | simpleName
  | package
  | rawType
  deriving DecidableEq, Repr

/-- Where a text test reads its value: the name of the member itself, or an attribute of the class
or of the type of the member. -/
inductive Attribute where
  | memberName
  | type (aspect : TypeAttribute)
  deriving DecidableEq, Repr

/-- The name of an attribute. -/
def Attribute.label : Attribute → String
  | .memberName => "member_name"
  | .type .referenceName => "reference_name"
  | .type .name => "name"
  | .type .simpleName => "simple_name"
  | .type .package => "package"
  | .type .rawType => "raw_type"

/-- A text to look for; unless case counts it is held in lower case. -/
structure TextMatcher where
  query : String
  options : MatchOptions
  deriving DecidableEq, Repr

namespace TextMatcher

/-- Prepares a text to look for. -/
def ofQuery (query : String) (options : MatchOptions) : TextMatcher :=
  ⟨if options.caseSensitive then query else Text.lower query, options⟩

/-- Whether the text is found in a value that is not empty. -/
def hits (matcher : TextMatcher) (value : String) : Bool :=
  let value := if matcher.options.caseSensitive then value else Text.lower value
  if matcher.options.exact then value == matcher.query else Text.occursIn matcher.query value

/-- Whether a value, perhaps missing, passes. -/
def accepts (matcher : TextMatcher) : Option String → Bool
  | none => !matcher.options.inclusive
  | some value =>
    if value.isEmpty then !matcher.options.inclusive
    else matcher.hits value == matcher.options.inclusive

end TextMatcher

/-- A single test. -/
inductive Predicate where
  | text (aspect : Attribute) (matcher : TextMatcher)
  | id (id : Nat) (inclusive : Bool)
  | parameterCount (count : Nat)
  | variant (variant : TypeVariant) (expected : Bool)
  | never
  deriving DecidableEq, Repr

/-- A boolean combination of tests. -/
inductive Filter where
  | leaf (predicate : Predicate)
  | all (filters : List Filter)
  | any (filters : List Filter)
  | not (filter : Filter)
  deriving Repr, Inhabited

namespace Filter

/-- A test on a text. -/
def text (aspect : Attribute) (query : String) (options : MatchOptions) : Filter :=
  .leaf (.text aspect (.ofQuery query options))

/-- The test that nothing passes. -/
def never : Filter := .leaf .never

/-- Several places where a text may stand: one of them must hold a wanted text, none of them may
hold an unwanted one. -/
def alternatives (filters : List Filter) (options : MatchOptions) : Filter :=
  match filters with
  | [only] => only
  | _ => if options.inclusive then .any filters else .all filters

mutual
/-- The filter as JSON, by its shape. -/
def toJson : Filter → Json
  | .leaf (.text aspect _) => .object [("text", .text aspect.label)]
  | .leaf (.id id inclusive) => .object [("id", .nat id), ("inclusive", .bool inclusive)]
  | .leaf (.parameterCount count) => .object [("parameter_count", .nat count)]
  | .leaf (.variant variant expected) =>
    .object [("variant", .text variant.wireName), ("expected", .bool expected)]
  | .leaf .never => .text "never"
  | .all filters => .object [("all", .array (listToJson filters))]
  | .any filters => .object [("any", .array (listToJson filters))]
  | .not filter => .object [("not", toJson filter)]

/-- Filters as JSON. -/
def listToJson : List Filter → List Json
  | [] => []
  | filter :: rest => toJson filter :: listToJson rest
end

end Filter

end ClassAtlas

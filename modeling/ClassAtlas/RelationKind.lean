import ClassAtlas.Text.Blank
import ClassAtlas.Text.Numerals

/-!
# Kinds of relations

The relationship graph connects types by directed relations.  Kinds come in pairs: whenever one type
stands to another in some kind, the other stands to the first in the inverse kind.
-/

set_option autoImplicit false

namespace ClassAtlas

/-- A kind of relation between two types. -/
inductive RelationKind where
  | inherits
  | inheritedBy
  | superClass
  | subclass
  | references
  | referencedBy
  | fieldType
  | fieldTypeOf
  | methodReturnType
  | methodReturnTypeOf
  | parameterType
  | parameterTypeOf
  | constructorParameterType
  | constructorParameterTypeOf
  | methodParameterType
  | methodParameterTypeOf
  | typeVariableOf
  | componentOf
  | declaringClass
  | declaresClass
  | enclosingClass
  | enclosesClass
  | rawType
  | parameterizedVariant
  | ownerType
  | ownedType
  | lowerBound
  | lowerBoundOf
  | upperBound
  | upperBoundOf
  | typeVariableBounds
  | boundedWithin
  deriving DecidableEq, Repr, Hashable, Inhabited

namespace RelationKind

/-- All kinds in their order. -/
def all : List RelationKind :=
  [.inherits, .inheritedBy, .superClass, .subclass, .references, .referencedBy, .fieldType,
    .fieldTypeOf, .methodReturnType, .methodReturnTypeOf, .parameterType, .parameterTypeOf,
    .constructorParameterType, .constructorParameterTypeOf, .methodParameterType,
    .methodParameterTypeOf, .typeVariableOf, .componentOf, .declaringClass, .declaresClass,
    .enclosingClass, .enclosesClass, .rawType, .parameterizedVariant, .ownerType, .ownedType,
    .lowerBound, .lowerBoundOf, .upperBound, .upperBoundOf, .typeVariableBounds, .boundedWithin]

/-- The place of a kind in the order of kinds. -/
def rank (kind : RelationKind) : Nat :=
  kind.ctorIdx

/-- The kind that holds in the other direction. -/
def inverse : RelationKind → RelationKind
  | .inherits => .inheritedBy
  | .inheritedBy => .inherits
  | .superClass => .subclass
  | .subclass => .superClass
  | .references => .referencedBy
  | .referencedBy => .references
  | .fieldType => .fieldTypeOf
  | .fieldTypeOf => .fieldType
  | .methodReturnType => .methodReturnTypeOf
  | .methodReturnTypeOf => .methodReturnType
  | .parameterType => .parameterTypeOf
  | .parameterTypeOf => .parameterType
  | .constructorParameterType => .constructorParameterTypeOf
  | .constructorParameterTypeOf => .constructorParameterType
  | .methodParameterType => .methodParameterTypeOf
  | .methodParameterTypeOf => .methodParameterType
  | .typeVariableOf => .componentOf
  | .componentOf => .typeVariableOf
  | .declaringClass => .declaresClass
  | .declaresClass => .declaringClass
  | .enclosingClass => .enclosesClass
  | .enclosesClass => .enclosingClass
  | .rawType => .parameterizedVariant
  | .parameterizedVariant => .rawType
  | .ownerType => .ownedType
  | .ownedType => .ownerType
  | .lowerBound => .lowerBoundOf
  | .lowerBoundOf => .lowerBound
  | .upperBound => .upperBoundOf
  | .upperBoundOf => .upperBound
  | .typeVariableBounds => .boundedWithin
  | .boundedWithin => .typeVariableBounds

/-- The name of a kind in queries, answers and written graphs. -/
def wireName : RelationKind → String
  | .inherits => "INHERITS"
  | .inheritedBy => "INHERITED_BY"
  | .superClass => "SUPER_CLASS"
  | .subclass => "SUBCLASS"
  | .references => "REFERENCES"
  | .referencedBy => "REFERENCED_BY"
  | .fieldType => "FIELD_TYPE"
  | .fieldTypeOf => "FIELD_TYPE_OF"
  | .methodReturnType => "METHOD_RETURN_TYPE"
  | .methodReturnTypeOf => "METHOD_RETURN_TYPE_OF"
  | .parameterType => "PARAMETER_TYPE"
  | .parameterTypeOf => "PARAMETER_TYPE_OF"
  | .constructorParameterType => "CONSTRUCTOR_PARAMETER_TYPE"
  | .constructorParameterTypeOf => "CONSTRUCTOR_PARAMETER_TYPE_OF"
  | .methodParameterType => "METHOD_PARAMETER_TYPE"
  | .methodParameterTypeOf => "METHOD_PARAMETER_TYPE_OF"
  | .typeVariableOf => "TYPE_VARIABLE_OF"
  | .componentOf => "COMPONENT_OF"
  | .declaringClass => "DECLARING_CLASS"
  | .declaresClass => "DECLARES_CLASS"
  | .enclosingClass => "ENCLOSING_CLASS"
  | .enclosesClass => "ENCLOSES_CLASS"
  | .rawType => "RAW_TYPE"
  | .parameterizedVariant => "PARAMETERIZED_VARIANT"
  | .ownerType => "OWNER_TYPE"
  | .ownedType => "OWNED_TYPE"
  | .lowerBound => "LOWER_BOUND"
  | .lowerBoundOf => "LOWER_BOUND_OF"
  | .upperBound => "UPPER_BOUND"
  | .upperBoundOf => "UPPER_BOUND_OF"
  | .typeVariableBounds => "TYPE_VARIABLE_BOUNDS"
  | .boundedWithin => "BOUNDED_WITHIN"

/-- The kind with exactly this name. -/
def ofWireName? (name : String) : Option RelationKind :=
  all.find? fun kind => kind.wireName == name

/-- The spelling of a name that decides which kind it means: without outer blanks, in upper case,
with an underscore for a hyphen or a space. -/
def normalizeName (name : String) : String :=
  String.ofList ((Text.trim name.toList).map fun c =>
    if c == '-' || c == ' ' then '_' else Text.upperAscii c)

/-- The kind that a name means, as users may write it. -/
def parse? (name : String) : Option RelationKind :=
  ofWireName? (normalizeName name)

/-- What is said of a name that means no kind. -/
def unknownMessage (name : String) : String :=
  s!"unknown relation kind: {name}"

theorem inverse_inverse (kind : RelationKind) : kind.inverse.inverse = kind := by
  cases kind <;> rfl

end RelationKind

end ClassAtlas

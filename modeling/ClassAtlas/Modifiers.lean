import ClassAtlas.Text.Numerals

/-!
# Modifiers

The modifiers of classes and members are a bit mask.  Keywords are listed in a fixed order that does
not follow the bits.
-/

set_option autoImplicit false

namespace ClassAtlas

/-- A modifier with a keyword. -/
inductive Modifier where
  | isPublic
  | isProtected
  | isPrivate
  | isAbstract
  | isStatic
  | isFinal
  | isTransient
  | isVolatile
  | isSynchronized
  | isNative
  | isStrict
  | isInterface
  deriving DecidableEq, Repr

namespace Modifier

/-- All modifiers in the order in which keywords are written. -/
def all : List Modifier :=
  [.isPublic, .isProtected, .isPrivate, .isAbstract, .isStatic, .isFinal, .isTransient,
    .isVolatile, .isSynchronized, .isNative, .isStrict, .isInterface]

/-- The number of the bit that stands for a modifier. -/
def bit : Modifier → Nat
  | .isPublic => 0
  | .isPrivate => 1
  | .isProtected => 2
  | .isStatic => 3
  | .isFinal => 4
  | .isSynchronized => 5
  | .isVolatile => 6
  | .isTransient => 7
  | .isNative => 8
  | .isInterface => 9
  | .isAbstract => 10
  | .isStrict => 11

/-- The keyword of a modifier. -/
def keyword : Modifier → String
  | .isPublic => "public"
  | .isProtected => "protected"
  | .isPrivate => "private"
  | .isAbstract => "abstract"
  | .isStatic => "static"
  | .isFinal => "final"
  | .isTransient => "transient"
  | .isVolatile => "volatile"
  | .isSynchronized => "synchronized"
  | .isNative => "native"
  | .isStrict => "strictfp"
  | .isInterface => "interface"

/-- The mask of a modifier alone. -/
def mask (modifier : Modifier) : Nat :=
  Nat.pow 2 modifier.bit

/-- The modifier with a keyword, whatever the case of its ASCII letters. -/
def ofKeyword? (keyword : String) : Option Modifier :=
  all.find? fun modifier => Text.sameIgnoringAsciiCase modifier.keyword keyword

end Modifier

/-- A set of modifiers as a bit mask. -/
structure Modifiers where
  bits : Nat
  deriving DecidableEq, Repr, Inhabited

namespace Modifiers

/-- No modifiers. -/
def empty : Modifiers := ⟨0⟩

/-- Whether a modifier is in the set. -/
def has (modifiers : Modifiers) (modifier : Modifier) : Bool :=
  modifiers.bits.testBit modifier.bit

/-- The keywords of the set in writing order. -/
def keywords (modifiers : Modifiers) : List String :=
  (Modifier.all.filter modifiers.has).map Modifier.keyword

/-- The keywords with a space between them. -/
def toText (modifiers : Modifiers) : String :=
  " ".intercalate modifiers.keywords

end Modifiers

end ClassAtlas

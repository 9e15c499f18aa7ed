import ClassAtlas.Text.Blank
import ClassAtlas.Text.LetterTable
import ClassAtlas.Text.Numerals
import ClassAtlas.TypeView

/-!
# Finding types by name

A type can be named by its number or by a class name, with a pair of brackets for each array
dimension.  The look of a name decides among which types it is searched and in which order; a name
with a dot must be a qualified name, any other one must not.

A name that nothing has is no fault.  What was found is remembered under the text that was asked
for.
-/

set_option autoImplicit false

namespace ClassAtlas

open Work (lift)

/-- A character that can occur in the name of a type. -/
def isNameChar (c : Char) : Bool :=
  "_$.<>?,&[]".toList.contains c || Text.isBlank c || Text.inRanges Text.letterRanges c

/-- Takes pairs of brackets off the end of a reversed name, and counts them. -/
def dropDimensions : List Char → List Char × Nat
  | ']' :: '[' :: rest =>
    let (element, depth) := dropDimensions (rest.dropWhile Text.isBlank)
    (element, depth + 1)
  | name => (name, 0)
  termination_by name => name.length
  decreasing_by
    have := (List.dropWhile_sublist (p := Text.isBlank) (l := rest)).length_le
    simp only [List.length_cons]
    omega

/-- Cuts a name into the name of the element type and the number of array dimensions. -/
def splitDimensions (name : String) : String × Nat :=
  let (element, depth) := dropDimensions (Text.trim name.toList).reverse
  (String.ofList element.reverse, depth)

namespace Partitions

/-- The types among which a name is searched, in the order of the search. -/
def candidates (partitions : Partitions) (name : String) : List Nat :=
  let chars := name.toList
  if chars.head? == some '?' then partitions.wildcards
  else if chars.contains '<' then partitions.parameterized ++ partitions.rawClasses
  else if chars.contains '$' then partitions.rawClasses
  else partitions.rawClasses ++ partitions.typeVariables

end Partitions

/-- The types by variant, grouped at the first call. -/
def Tables.partitions (tables : Tables) : Work Partitions := do
  match (← get).partitions with
  | some partitions => return partitions
  | none => do
    let partitions ← lift (Partitions.ofTables tables)
    modify fun memory => { memory with partitions := some partitions }
    return partitions

namespace TypeView

/-- The name without package and type arguments, behind the declaring class. -/
def binaryName (view : TypeView) (atlas : Atlas) : Work String := do
  let qualified ← view.qualifiedName atlas false
  let package ← view.packageName atlas
  let outer := (package ++ ".").toList
  if !package.isEmpty && outer.isPrefixOf qualified.toList then
    return String.ofList (qualified.toList.drop outer.length)
  else return qualified

/-- Whether a type has a name. -/
def hasName (view : TypeView) (atlas : Atlas) (name : String) : Work Bool := do
  if name.toList.contains '.' then
    if (← view.referenceName atlas) == name then return true
    else return (← view.qualifiedName atlas false) == name
  else if (← view.name atlas) == name then return true
  else if (← view.simpleName atlas) == name then return true
  else if view.data.isClass then return (← view.binaryName atlas) == name
  else return false

end TypeView

namespace Atlas

/-- The first of some types that has a name. -/
def findAmong (atlas : Atlas) (name : String) : List Nat → Work (Option Nat)
  | [] => return none
  | id :: rest => do
    let view ← lift (atlas.tables.view (.plain id))
    if ← view.hasName atlas name then return some id
    else findAmong atlas name rest

/-- Remembers what a name stands for. -/
def remember (name : String) (ref : TypeRef) : Work Unit :=
  modify fun memory => { memory with found := memory.found.insert name ref }

/-- The type with a name. -/
def findByName (atlas : Atlas) (name : String) : Work (Option TypeRef) := do
  match (← get).found[name]? with
  | some ref => return some ref
  | none =>
    let (element, depth) := splitDimensions name
    if element.isEmpty || !element.toList.all isNameChar then return none
    else do
      let partitions ← atlas.tables.partitions
      match ← atlas.findAmong element (partitions.candidates element) with
      | none => return none
      | some id => do
        remember name ⟨id, depth⟩
        return some ⟨id, depth⟩

/-- The type with a number or a name. -/
def resolve (atlas : Atlas) (target : String) : Work (Option TypeRef) := do
  let target := Text.trimmed target
  if !target.isEmpty && target.toList.all Text.isDigit then
    return ((Text.readNat limit32 target).filter (· < atlas.tables.typeCount)).map TypeRef.plain
  else atlas.findByName target

end Atlas

end ClassAtlas

import ClassAtlas.Config
import ClassAtlas.Partitions
import ClassAtlas.Render.Options
import Std.Data.HashMap

/-!
# Work with memory

What is asked of a snapshot is computed with a memory of earlier answers: resolved names and
packages, substitution maps, rendered texts, found class names and the partitions of the types.  A
step gives a result or a fault and keeps the memory in both cases, so what was learned before a
fault is not lost.

The memory of names and packages belongs to the tables; the rest belongs to one type system and is
dropped with it.
-/

set_option autoImplicit false

namespace ClassAtlas

/-- Earlier answers. -/
structure Memory where
  names : Std.HashMap Nat String
  packages : Std.HashMap Nat String
  maps : Std.HashMap Nat VarMap
  texts : Std.HashMap (TypeRef × NameOptions) String
  found : Std.HashMap String TypeRef
  partitions : Option Partitions

namespace Memory

/-- No earlier answers. -/
def empty : Memory := ⟨∅, ∅, ∅, ∅, ∅, none⟩

/-- The memory of a new type system over the same tables. -/
def renew (memory : Memory) : Memory :=
  { empty with names := memory.names, packages := memory.packages }

/-- Drops the answers that can be computed again, the partitions excepted. -/
def clear (memory : Memory) : Memory :=
  { memory with maps := ∅, texts := ∅, found := ∅ }

end Memory

/-- A computation that remembers in `σ` and may end in a fault. -/
abbrev Remembering (σ α : Type) : Type := ExceptT Fault (StateM σ) α

/-- A computation with the whole memory. -/
abbrev Work (α : Type) : Type := ExceptT Fault (StateM Memory) α

namespace Work

/-- A computation that remembers nothing. -/
def lift {σ α : Type} (result : Except Fault α) : ExceptT Fault (StateM σ) α :=
  fun memory => (result, memory)

/-- The outcome of a step as a value.  A step that does not end has no outcome to go on with. -/
def attempt {σ α : Type} (step : ExceptT Fault (StateM σ) α) :
    ExceptT Fault (StateM σ) (Except Fault α) :=
  fun memory =>
    match step memory with
    | (.error (.endless id), memory) => (.error (.endless id), memory)
    | (outcome, memory) => (.ok outcome, memory)

/-- A computation that remembers substitution maps only. -/
def onMaps {α : Type} (step : Remembering (Std.HashMap Nat VarMap) α) : Work α :=
  fun memory =>
    let maps := memory.maps
    match step maps with
    | (outcome, maps) => (outcome, { memory with maps := maps })

/-- Does the same work for each item of a list, up to the first fault. -/
def forAll {σ α β : Type} (step : α → ExceptT Fault (StateM σ) β) :
    List α → ExceptT Fault (StateM σ) (List β)
  | [] => pure []
  | item :: rest => do
    let first ← step item
    let others ← forAll step rest
    return first :: others

end Work

/-- Decoded tables together with the settings of a session. -/
structure Atlas where
  tables : Tables
  config : Config

end ClassAtlas

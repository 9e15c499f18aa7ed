import ClassAtlas.Proofs.Names.Entries
import ClassAtlas.Proofs.Tables

/-!
# Asking for names

What is remembered of names and packages only helps: with it every name has a text that has one
without it (`resolveName_meets`, `resolvePackage_meets`).  So when all names and packages of the
types can be put together, asking for them never fails, and if it fails it is for a missing entry or
a chain that is too deep.
-/

set_option autoImplicit false

namespace ClassAtlas.Tables

variable {tables : Tables}

/-- Every class and every type variable has a name that can be put together, and a class a package
if it has one at all. -/
structure Named (tables : Tables) : Prop where
  typeVariables : ∀ {id : Nat} {record : TypeVariableRecord},
    tables.typeData id = .ok (.typeVariable record) →
      ∃ text, tables.resolveName ∅ (chainLimit + 1) record.name = .ok text
  classes : ∀ {id : Nat} {record : ClassRecord}, tables.typeData id = .ok (.rawClass record) →
    ∃ text, tables.resolveName ∅ (chainLimit + 1) record.name = .ok text
  packages : ∀ {id : Nat} {record : ClassRecord}, tables.typeData id = .ok (.rawClass record) →
    ∀ package ∈ record.package,
      ∃ text, tables.resolvePackage ∅ (chainLimit + 1) package = .ok text

/-- The fault of a computation is a final one, and another computation ends in a fault as well. -/
def FailsWith {α : Type} (other : Except Fault α) (flaw : Fault) : Prop :=
  flaw.Final ∧ ∀ value, other ≠ .ok value

variable (tables) in
/-- A name has a text whatever is remembered, if it has one without memory. -/
theorem resolveName_meets (known : Std.HashMap Nat String) (levels id : Nat) :
    Outcome.Meets (tables.resolveName known levels id) (fun _ => True)
      (FailsWith (tables.resolveName ∅ levels id)) := by
  cases found : tables.resolveName known levels id with
  | ok text => trivial
  | error flaw => exact tables.nameDirectory.final_of_error found

/-- A name that is written out is its own text. -/
theorem resolveName_text {id : Nat} {text : String} (entry : tables.names[id]? = some (.text text))
    (levels : Nat) : tables.resolveName ∅ (levels + 1) id = .ok text := by
  rw [resolveName_succ entry Std.HashMap.getElem?_empty, readName]

variable (tables) in
/-- A package has a text whatever is remembered, if it has one without memory. -/
theorem resolvePackage_meets (known : Std.HashMap Nat String) (levels id : Nat) :
    Outcome.Meets (tables.resolvePackage known levels id) (fun _ => True)
      (FailsWith (tables.resolvePackage ∅ levels id)) := by
  cases found : tables.resolvePackage known levels id with
  | ok text => trivial
  | error flaw => exact tables.packageDirectory.final_of_error found

section

variable {memory : Memory} {id : Nat}

/-- Asking for a name changes what is remembered of names only. -/
theorem name_apply : tables.name id memory =
    (tables.resolveName memory.names (chainLimit + 1) id,
      { memory with names := tables.nameDirectory.ask memory.names id }) := by
  rw [name]
  cases resolved : tables.resolveName memory.names (chainLimit + 1) id with
  | ok text =>
    have asked : tables.nameDirectory.ask memory.names id = _ := Directory.ask_of_ok resolved
    rw [asked]
  | error fault =>
    have asked : tables.nameDirectory.ask memory.names id = _ := Directory.ask_of_error resolved
    rw [asked]

/-- A name that is written out is given when no names are remembered. -/
theorem name_of_text {text : String} (fresh : memory.names = ∅)
    (entry : tables.names[id]? = some (.text text)) :
    tables.name id memory = (.ok text, { memory with names := memory.names.insert id text }) := by
  rw [name, fresh, resolveName_text entry]

/-- Asking for a package changes what is remembered of packages only. -/
theorem packageName_apply : tables.packageName id memory =
    (tables.resolvePackage memory.packages (chainLimit + 1) id,
      { memory with packages := tables.packageDirectory.ask memory.packages id }) := by
  rw [packageName]
  cases resolved : tables.resolvePackage memory.packages (chainLimit + 1) id with
  | ok text =>
    have asked : tables.packageDirectory.ask memory.packages id = _ := Directory.ask_of_ok resolved
    rw [asked]
  | error fault =>
    have asked : tables.packageDirectory.ask memory.packages id = _ :=
      Directory.ask_of_error resolved
    rw [asked]

end

section

variable {invariant : Memory → Prop}

/-- Asking for a name fails only for a name that has no text without memory either. -/
theorem name_meets
    (kept : ∀ memory names, invariant memory → invariant { memory with names := names })
    (id : Nat) :
    Work.Meets invariant (tables.name id) (fun _ => True)
      (FailsWith (tables.resolveName ∅ (chainLimit + 1) id)) := by
  intro memory sound
  rw [name_apply]
  exact ⟨kept memory _ sound, resolveName_meets tables memory.names (chainLimit + 1) id⟩

/-- Asking for a package fails only for a package that has no text without memory either. -/
theorem packageName_meets
    (kept : ∀ memory packages, invariant memory → invariant { memory with packages := packages })
    (id : Nat) :
    Work.Meets invariant (tables.packageName id) (fun _ => True)
      (FailsWith (tables.resolvePackage ∅ (chainLimit + 1) id)) := by
  intro memory sound
  rw [packageName_apply]
  exact ⟨kept memory _ sound, resolvePackage_meets tables memory.packages (chainLimit + 1) id⟩

end

end ClassAtlas.Tables

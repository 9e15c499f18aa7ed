import ClassAtlas.Proofs.Descent
import ClassAtlas.Proofs.Rendering.Texts

/-!
# Nested names

A name is made of those that its entry refers to, and a package stands in its parent.  Where no
chain of such references is longer than the limit, more levels make no difference to a name or a
package (`Tables.resolveName_of_within`), so each has its text within the limit if it has one at all
(`Tables.Nested.shallowName`).
-/

set_option autoImplicit false

namespace ClassAtlas

namespace Tables

variable {tables : Tables}

/-- Snapshots whose names and packages refer to others for no longer than the limit. -/
structure Nested (tables : Tables) : Prop where
  names : ∀ id, Descent.Within tables.MadeOf (chainLimit + 1) id
  packages : ∀ id, Descent.Within tables.StandsIn (chainLimit + 1) id

/-- Names that refer to no others, and packages that stand alone. -/
theorem nested_of_flat (names : ∀ entry ∈ tables.names, entry.refers = [])
    (packages : ∀ entry ∈ tables.packages, entry.parent = none) : tables.Nested where
  names := by
    rintro id part ⟨entry, listed, refers⟩
    rw [names entry (Array.mem_of_getElem? listed)] at refers
    cases refers
  packages := by
    rintro id parent ⟨entry, listed, stands⟩
    cases (packages entry (Array.mem_of_getElem? listed)).symm.trans stands

namespace Nested

variable (nested : tables.Nested)

include nested

theorem shallowName (id : Nat) : tables.ShallowName id := by
  rintro text ⟨enough, given⟩
  rw [← resolveName_of_within (nested.names id) (Nat.le_max_right enough _)]
  exact given _ (Nat.le_max_left _ _)

theorem shallowPackage (id : Nat) : tables.ShallowPackage id := by
  rintro text ⟨enough, given⟩
  rw [← resolvePackage_of_within (nested.packages id) (Nat.le_max_right enough _)]
  exact given _ (Nat.le_max_left _ _)

theorem legible : tables.Legible where
  typeVariables := fun _ => nested.shallowName _
  classes := fun _ => nested.shallowName _
  packages := fun _ package _ => nested.shallowPackage package

end Nested

end Tables

end ClassAtlas

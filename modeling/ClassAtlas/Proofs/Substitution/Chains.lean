import ClassAtlas.Proofs.Substitution.ChainEnds
import ClassAtlas.Proofs.Substitution.Reference

/-!
# Chains of one step

The bindings that a class takes from its supertypes are gathered first and followed to the ends of
their chains afterwards, in place.  When every chain is over after one step, its end is what the
value leads to in the map as it was gathered, so this is what replaces the value
(`resolveChains_eq_ok`).
-/

set_option autoImplicit false

namespace ClassAtlas

namespace Tables

variable (tables : Tables)

/-- A value that leads no further in a map. -/
def Settled (map : VarMap) (value : TypeRef) : Prop :=
  tables.IsTypeVariable value.id → map.find? value.id = none

/-- Maps whose values can be read and lead, in one step at most, to values that lead no further. -/
structure OneStep (map : VarMap) : Prop where
  reads : ∀ key value, map.find? key = some value → ∃ data, tables.typeData value.id = .ok data
  next : ∀ key value, map.find? key = some value → tables.IsTypeVariable value.id →
    ∀ next, map.find? value.id = some next → next.id ≠ value.id ∧ tables.Settled map next

variable {tables} {map : VarMap}

theorem substitute_of_settled {value : TypeRef} (settled : tables.Settled map value) :
    tables.substitute map.entries value = value := by
  by_cases varies : tables.IsTypeVariable value.id
  · have absent : map.entries.lookup value.id = none := settled varies
    rw [substitute, absent]
    split
    · next found => cases found
    · rfl
  · exact substitute_of_not_variable varies

/-- A chain of one step at most ends at what its value leads to. -/
theorem OneStep.chainEnds (step : tables.OneStep map) {key : Nat} {value : TypeRef}
    (found : map.find? key = some value) :
    ∃ steps last depth, tables.ChainEnds map value.id steps last depth ∧ steps ≤ 1 ∧
      value.carried steps last depth = tables.substitute map.entries value := by
  by_cases settled : tables.Settled map value
  · refine ⟨0, value.id, 0, .rest fun varies => .inl (settled varies), Nat.zero_le 1, ?_⟩
    rw [substitute_of_settled settled, TypeRef.carried_zero]
  · obtain ⟨varies, bound⟩ := Classical.not_imp.1 settled
    obtain ⟨next, bound⟩ := Option.ne_none_iff_exists'.1 bound
    obtain ⟨other, rests⟩ := step.next key value found varies next bound
    have moves : next ≠ .plain value.id := by
      rintro rfl
      exact other rfl
    refine ⟨1, next.id, next.depth + 0, .step varies bound moves (.rest fun varies =>
      .inl (rests varies)), Nat.le_refl 1, ?_⟩
    rw [substitute_of_lookup varies bound]
    rfl

end Tables

/-- **The resolution replaces every value by what it leads to in the gathered map.** -/
theorem Atlas.resolveChains_eq_ok {atlas : Atlas} {map : VarMap} (hops : 1 ≤ atlas.config.hopLimit)
    (step : atlas.tables.OneStep map) :
    ∃ resolved, atlas.resolveChains map = .ok resolved ∧ ∀ key, resolved.find? key =
      (map.find? key).map (atlas.tables.substitute map.entries) := by
  obtain ⟨resolved, run, ends⟩ := resolveChains_of_chainEnds step.reads fun key value found => by
    obtain ⟨steps, last, depth, chain, few, -⟩ := step.chainEnds found
    exact ⟨steps, last, depth, chain, few.trans hops⟩
  refine ⟨resolved, run, fun key => ?_⟩
  cases found : map.find? key with
  | none => exact (ends key).eq_none found
  | some value =>
    obtain ⟨steps, last, depth, chain, -, leads⟩ := step.chainEnds found
    rw [(ends key).eq_some found chain, Option.map_some, leads]

end ClassAtlas

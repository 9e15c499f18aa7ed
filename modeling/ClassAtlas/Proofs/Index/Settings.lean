import ClassAtlas.Proofs.Index.Relations
import ClassAtlas.Proofs.Substitution.Computation

/-!
# What an index takes from the settings

Substitution maps are bounded by the hop limit and the owner limit of the settings, and names are
written with the maps.  Nothing else of a name depends on the settings, so neither does what a name
stands for (`Alike.findByName`).

An index reads the settings in one place: the event bases are looked up.  Two settings with the same
event bases and the same limits give the same index (`Alike.index`), wherever they keep it.  Any two
settings give the same graph, the same partitions and the same warnings (`index_findings_eq`); only
the event groups and the looked-up names can differ.
-/

set_option autoImplicit false

namespace ClassAtlas

namespace Atlas

/-- Two atlases of the same tables, with the same limits. -/
structure Alike (left right : Atlas) : Prop where
  tables : left.tables = right.tables
  hopLimit : left.config.hopLimit = right.config.hopLimit
  ownerLimit : left.config.ownerLimit = right.config.ownerLimit

namespace Alike

variable {left right : Atlas} (alike : left.Alike right)

include alike

/-! ## Maps -/

theorem followArgument (declared : Nat) (map : VarMap) (steps : Nat) (current : TypeRef) :
    left.followArgument declared map steps current =
      right.followArgument declared map steps current := by
  induction steps generalizing current with
  | zero =>
    unfold Atlas.followArgument
    simp only [alike.tables, alike.hopLimit]
  | succ steps ih =>
    unfold Atlas.followArgument
    simp only [alike.tables, ih]

theorem remap (id : Nat) (record : ParameterizedRecord) (map : VarMap) :
    left.remap id record map = right.remap id record map := by
  have pairs : ∀ (pairs : List (Nat × TypeRef)) (map : VarMap),
      left.remapPairs pairs map = right.remapPairs pairs map := by
    intro pairs
    induction pairs with
    | nil => exact fun _ => rfl
    | cons pair rest ih =>
      intro map
      simp only [remapPairs, remapOne, alike.followArgument, alike.tables, alike.hopLimit, ih]
  simp only [Atlas.remap, declaredVariables, alike.tables, pairs]

theorem resolveChains (map : VarMap) : left.resolveChains map = right.resolveChains map := by
  have chain : ∀ (key : Nat) (map : VarMap) (steps : Nat) (value : TypeRef),
      left.followChain key map steps value = right.followChain key map steps value := by
    intro key map steps
    induction steps with
    | zero =>
      intro value
      rw [followChain_eq, followChain_eq]
      simp only [alike.tables, alike.hopLimit]
    | succ steps ih =>
      intro value
      rw [followChain_eq, followChain_eq]
      simp only [alike.tables, ih]
  have keys : ∀ (keys : List Nat) (map : VarMap),
      left.resolveKeys keys map = right.resolveKeys keys map := by
    intro keys
    induction keys with
    | nil => exact fun _ => rfl
    | cons key rest ih =>
      intro map
      simp only [resolveKeys, chain, alike.hopLimit, ih]
  exact keys map.keys map

theorem mergeOwners (nested : Nat → Remembering MapMemory VarMap) (stack : List Nat) (levels : Nat)
    (owner : Option TypeRef) (map : VarMap) :
    left.mergeOwners nested stack levels owner map =
      right.mergeOwners nested stack levels owner map := by
  induction levels generalizing owner map with
  | zero => cases owner <;> rfl
  | succ levels ih =>
    cases owner with
    | none => rfl
    | some owner =>
      simp only [Atlas.mergeOwners, bindPositional, declaredVariables, alike.tables, ih]

theorem mergeSupertypes (nested : Nat → Remembering MapMemory VarMap) (stack : List Nat)
    (supertypes : List TypeRef) (map : VarMap) :
    left.mergeSupertypes nested stack supertypes map =
      right.mergeSupertypes nested stack supertypes map := by
  induction supertypes generalizing map with
  | nil => rfl
  | cons supertype rest ih =>
    simp only [Atlas.mergeSupertypes, alike.tables, alike.remap, alike.mergeOwners,
      alike.ownerLimit, ih]

theorem mapWithin (levels : Nat) (stack : List Nat) (id : Nat) :
    left.mapWithin levels stack id = right.mapWithin levels stack id := by
  induction levels generalizing stack id with
  | zero => simp only [Atlas.mapWithin]
  | succ levels ih =>
    have nested : left.mapWithin levels (id :: stack) = right.mapWithin levels (id :: stack) :=
      funext (ih (id :: stack))
    simp only [Atlas.mapWithin, computeMap, bindPositional, declaredVariables, alike.tables,
      alike.mergeOwners, alike.mergeSupertypes, alike.ownerLimit, alike.resolveChains, nested]

theorem typeVariableMap (id : Nat) : left.typeVariableMap id = right.typeVariableMap id := by
  simp only [Atlas.typeVariableMap, exhaustive, alike.tables, alike.mapWithin]

/-! ## Names -/

theorem hasName (view : TypeView) (name : String) :
    view.hasName left name = view.hasName right name := by
  simp only [TypeView.hasName, TypeView.binaryName, TypeView.referenceName, TypeView.qualifiedName,
    TypeView.name, TypeView.simpleName, TypeView.packageName, TypeView.nameOptions,
    TypeView.variableMap, TypeView.nameWith, TypeView.declaredSuffix, alike.typeVariableMap,
    alike.tables]

/-- **What a name stands for depends on the tables and the limits only.** -/
theorem findByName (name : String) : left.findByName name = right.findByName name := by
  have among : ∀ (element : String) (ids : List Nat),
      left.findAmong element ids = right.findAmong element ids := by
    intro element ids
    induction ids with
    | nil => rfl
    | cons id rest ih => simp only [findAmong, alike.tables, alike.hasName, ih]
  simp only [Atlas.findByName, alike.tables, among]

theorem eventGroups (graph : Graph) (bases : List String) (groups : List (String × List Nat)) :
    left.eventGroups graph bases groups = right.eventGroups graph bases groups := by
  induction bases generalizing groups with
  | nil => rfl
  | cons base rest ih => simp only [Atlas.eventGroups, alike.findByName, ih]

/-- **An index depends on the tables, the limits and the event bases only.** -/
theorem index (bases : left.config.eventBaseClasses = right.config.eventBaseClasses) :
    left.index = right.index := by
  simp only [Atlas.index, alike.tables, alike.eventGroups, bases]

end Alike

/-! ## What the settings cannot change -/

/-- When nothing was remembered before, the types are grouped for the index. -/
theorem index_fresh_parts {atlas : Atlas} {index : Index} {after : Memory}
    (run : atlas.index .empty = (.ok index, after)) :
    ∃ hierarchy findings, Partitions.ofTables atlas.tables = .ok index.partitions ∧
      Hierarchy.ofTables atlas.tables = .ok hierarchy ∧
      atlas.tables.facts hierarchy atlas.tables.typeIds = .ok findings ∧
      index.graph = .ofRelations findings.edges ∧ index.warnings = findings.warnings := by
  obtain ⟨hierarchy, findings, _, sorted, read, found, graph, warnings, -⟩ := index_parts run
  obtain ⟨_, _, got, sorted⟩ := Work.bind_eq_ok.1 sorted
  cases got
  obtain ⟨_, _, fresh, sorted⟩ := Work.bind_eq_ok.1 sorted
  cases sorted
  exact ⟨hierarchy, findings, (Work.lift_eq_ok.1 fresh).1, read, found, graph, warnings⟩

/-- **The graph, the partitions and the warnings of an index depend on the tables only.** -/
theorem index_findings_eq {left right : Atlas} (same : left.tables = right.tables)
    {index other : Index} {after later : Memory} (run : left.index .empty = (.ok index, after))
    (again : right.index .empty = (.ok other, later)) :
    index.graph = other.graph ∧ index.partitions = other.partitions ∧
      index.warnings = other.warnings := by
  obtain ⟨hierarchy, findings, grouped, read, found, graph, warnings⟩ := index_fresh_parts run
  obtain ⟨_, _, grouped', read', found', graph', warnings'⟩ := index_fresh_parts again
  rw [same] at grouped read found
  cases read.symm.trans read'
  cases found.symm.trans found'
  exact ⟨graph.trans graph'.symm, Except.ok.inj (grouped.symm.trans grouped'),
    warnings.trans warnings'.symm⟩

end Atlas

end ClassAtlas

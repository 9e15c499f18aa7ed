import ClassAtlas.Proofs.Rendering.Members
import ClassAtlas.Proofs.Substitution.ChainEnds

/-!
# Rendering through bindings

Before a type is written, it is followed through the bindings of the options, one step after the
other, and never to a type that was met before (`Tables.Onward`).  A step leaves fewer types to go
to, so on every map, one with cycles as well, the way ends, and it ends within the number of steps
that the bindings allow (`exists_trail`).

Where a chain of bindings ends by itself, the way is the chain, and the dimensions that are met on
it add up (`ChainEnds.followed`).  They add up the same wherever on the chain the way begins.  So a
bound variable is written as what it is bound to, in the dimensions of both, and in the end as the
last type of its chain, with the brackets for all dimensions
(`Memory.Reached.render_throughBindings`).
-/

set_option autoImplicit false

namespace ClassAtlas

open Relation (ReflTransGen TransGen)

/-- A way through bindings: the type where it has come to, and all types that were met. -/
structure BindingTrail where
  current : TypeRef
  met : List Nat

/-- The way that begins at a type. -/
def BindingTrail.start (ref : TypeRef) : BindingTrail :=
  ⟨ref, [ref.id]⟩

namespace Tables

/-- One step of the way: from a variable to what it is bound to, if that was not met yet. -/
inductive Onward (tables : Tables) (map : VarMap) : BindingTrail → BindingTrail → Prop where
  | step {current next : TypeRef} {met : List Nat} (varies : tables.IsTypeVariable current.id)
      (bound : map.find? current.id = some next) (new : next.id ∉ met) :
      Onward tables map ⟨current, met⟩ ⟨next.deepen current.depth, next.id :: met⟩

/-- The way goes no further. -/
def Stuck (tables : Tables) (map : VarMap) (trail : BindingTrail) : Prop :=
  ∀ after, ¬tables.Onward map trail after

variable {tables : Tables} {map : VarMap} {trail after : BindingTrail} {id steps last depth : Nat}

theorem onward_unique (tables : Tables) (map : VarMap) :
    Relator.RightUnique (tables.Onward map) := by
  rintro _ _ _ ⟨_, bound, _⟩ ⟨_, again, _⟩
  cases bound.symm.trans again
  rfl

/-- From a place there is one way that cannot be continued. -/
theorem Stuck.unique {other : BindingTrail} (stuck : tables.Stuck map after)
    (way : ReflTransGen (tables.Onward map) trail after) (stuck' : tables.Stuck map other)
    (way' : ReflTransGen (tables.Onward map) trail other) : after = other := by
  rcases ReflTransGen.total_of_right_unique (tables.onward_unique map) way way' with ahead | ahead
  · rcases ReflTransGen.cases_head ahead with same | ⟨_, step, -⟩
    · exact same
    · exact absurd step (stuck _)
  · rcases ReflTransGen.cases_head ahead with same | ⟨_, step, -⟩
    · exact same.symm
    · exact absurd step (stuck' _)

/-! ## The way ends -/

/-- The types that something is bound to and that were not met yet. -/
def unmet (map : VarMap) (trail : BindingTrail) : Finset Nat :=
  (map.entries.map fun entry => entry.2.id).toFinset.filter (· ∉ trail.met)

theorem Onward.fewer_unmet (step : tables.Onward map trail after) :
    (unmet map after).card < (unmet map trail).card := by
  obtain @⟨current, next, met, _, bound, new⟩ := step
  refine Finset.card_lt_card (Finset.ssubset_iff_subset_ne.2 ⟨fun other left => ?_, fun same => ?_⟩)
  · obtain ⟨listed, unmet⟩ := Finset.mem_filter.1 left
    exact Finset.mem_filter.2 ⟨listed, fun before => unmet (List.mem_cons_of_mem _ before)⟩
  · have listed : next.id ∈ (map.entries.map fun entry => entry.2.id).toFinset :=
      List.mem_toFinset.2 (List.mem_map.2 ⟨_, (VarMap.mem_entries_iff map _ _).2 bound, rfl⟩)
    have here : next.id ∈ unmet map ⟨current, met⟩ := Finset.mem_filter.2 ⟨listed, new⟩
    rw [← same] at here
    exact (Finset.mem_filter.1 here).2 List.mem_cons_self

theorem onward_ends (tables : Tables) (map : VarMap) (trail : BindingTrail) :
    Descent.Ends (tables.Onward map) trail :=
  Subrelation.accessible (fun step => step.fewer_unmet)
    (InvImage.accessible (fun trail => (unmet map trail).card) (Nat.lt_wfRel.wf.apply _))

theorem followBindings_onward (left : Nat) (step : tables.Onward map trail after) :
    tables.followBindings map (left + 1) trail.met trail.current =
      tables.followBindings map left after.met after.current := by
  obtain @⟨current, next, met, varies, bound, new⟩ := step
  have fresh : met.contains (next.deepen current.depth).id = false := by
    simpa [TypeRef.deepen] using new
  rw [followBindings, (isVariable_iff current).2 varies, Outcome.ok_bind, if_pos rfl, bound]
  simp only [fresh, Bool.false_eq_true, if_false]
  rfl

theorem followBindings_stuck (left : Nat) (stuck : tables.Stuck map trail) :
    tables.followBindings map (left + 1) trail.met trail.current =
      (tables.isVariable trail.current).map fun _ => trail.current := by
  rw [followBindings]
  cases read : tables.isVariable trail.current with
  | error fault => rfl
  | ok varies =>
    cases varies with
    | false => rfl
    | true =>
      rw [Outcome.ok_bind, if_pos rfl]
      split
      · rfl
      · next next bound =>
        have met : trail.met.contains (next.deepen trail.current.depth).id = true := by
          by_contra new
          have fresh : next.id ∉ trail.met := by simpa [TypeRef.deepen] using new
          exact stuck _ (.step ((isVariable_iff _).1 read) bound fresh)
        simp only [met, if_true]
        rfl

/-- With more steps than there are types left to go to, the way is followed to its end. -/
theorem exists_trail {left : Nat} (enough : (unmet map trail).card < left) :
    ∃ final, ReflTransGen (tables.Onward map) trail final ∧ tables.Stuck map final ∧
      tables.followBindings map left trail.met trail.current =
        (tables.isVariable final.current).map fun _ => final.current := by
  induction left generalizing trail with
  | zero => exact absurd enough (Nat.not_lt_zero _)
  | succ left ih =>
    by_cases stuck : tables.Stuck map trail
    · exact ⟨trail, .refl, stuck, followBindings_stuck left stuck⟩
    · obtain ⟨after, step⟩ := not_forall_not.1 stuck
      obtain ⟨final, way, stops, run⟩ :=
        ih (Nat.lt_of_lt_of_le step.fewer_unmet (Nat.le_of_lt_succ enough))
      exact ⟨final, .head step way, stops, (followBindings_onward left step).trans run⟩

/-- **The number of steps that is allowed is enough on every map.** -/
theorem exists_trail_start (tables : Tables) (map : VarMap) (ref : TypeRef) :
    ∃ final, ReflTransGen (tables.Onward map) (.start ref) final ∧ tables.Stuck map final ∧
      tables.followBindings map (map.entries.length + 1) [ref.id] ref =
        (tables.isVariable final.current).map fun _ => final.current := by
  have few : (unmet map (.start ref)).card ≤ map.entries.length := by
    refine (Finset.card_filter_le _ _).trans ((List.toFinset_card_le _).trans ?_)
    exact Nat.le_of_eq (List.length_map ..)
  exact exists_trail (Nat.lt_succ_of_le few)

/-! ## The way along a chain -/

/-- **A chain that ends is followed to its end, and the dimensions add up.**  The types that were
met have longer chains than those that are ahead, so none of them stops the way. -/
theorem ChainEnds.followed (ends : tables.ChainEnds map id steps last depth) {dimensions : Nat}
    {met : List Nat} (here : id ∈ met) (longer : ∀ other ∈ met, ∃ more last depth,
      tables.ChainEnds map other more last depth ∧ steps ≤ more)
    (small : dimensions + depth < limit32) :
    ∃ all, ReflTransGen (tables.Onward map) ⟨⟨id, dimensions⟩, met⟩
      ⟨⟨last, dimensions + depth⟩, all⟩ ∧ tables.Stuck map ⟨⟨last, dimensions + depth⟩, all⟩ := by
  induction ends generalizing dimensions met with
  | @rest id halts =>
    refine ⟨met, .refl, ?_⟩
    rintro after ⟨varies, bound, new⟩
    cases halts.not_moves varies bound
    exact new here
  | @step id steps last depth next varies bound moves onward ih =>
    have new : next.id ∉ met := by
      intro again
      obtain ⟨more, _, _, other, enough⟩ := longer next.id again
      obtain ⟨rfl, -, -⟩ := onward.unique other
      omega
    have sum : next.deepen dimensions = ⟨next.id, dimensions + next.depth⟩ := by
      rw [TypeRef.deepen, Nat.mod_eq_of_lt (by omega), Nat.add_comm]
    have step : tables.Onward map ⟨⟨id, dimensions⟩, met⟩
        ⟨⟨next.id, dimensions + next.depth⟩, next.id :: met⟩ := sum ▸ .step varies bound new
    have longer' : ∀ other ∈ next.id :: met, ∃ more last depth,
        tables.ChainEnds map other more last depth ∧ steps ≤ more := by
      refine List.forall_mem_cons.2 ⟨⟨steps, last, depth, onward, Nat.le_refl _⟩, ?_⟩
      intro other listed
      obtain ⟨more, last, depth, chain, enough⟩ := longer other listed
      exact ⟨more, last, depth, chain, Nat.le_of_succ_le enough⟩
    obtain ⟨all, way, stuck⟩ := ih List.mem_cons_self longer'
      (show dimensions + next.depth + depth < limit32 by omega)
    rw [Nat.add_assoc] at way stuck
    exact ⟨all, .head step way, stuck⟩

/-- What stands for a type is the end of its chain, in all dimensions of the chain. -/
theorem ChainEnds.standIn {options : NameOptions} (outside : options.definingVariable = false)
    (some : options.map.isEmpty = false)
    (ends : tables.ChainEnds options.map id steps last depth) (small : depth < limit32) :
    tables.standIn (.plain id) options =
      (tables.isVariable (.plain last)).map fun _ => ⟨last, depth⟩ := by
  have longer : ∀ other ∈ [id], ∃ more last depth,
      tables.ChainEnds options.map other more last depth ∧ steps ≤ more :=
    List.forall_mem_singleton.2 ⟨steps, last, depth, ends, Nat.le_refl _⟩
  obtain ⟨all, way, stuck⟩ := ends.followed List.mem_cons_self longer
    (show 0 + depth < limit32 by omega)
  obtain ⟨final, way', stuck', run⟩ := exists_trail_start tables options.map (.plain id)
  obtain rfl := stuck.unique way stuck' way'
  rw [Tables.standIn, outside, some]
  rw [Nat.zero_add] at run
  exact run

end Tables

/-! ## Texts -/

section

variable {tables : Tables} {good : MapMemory → Prop} {memory : Memory} {options : NameOptions}
  {steps last depth : Nat}

/-- A type is written as the end of its chain, with the brackets for all dimensions. -/
theorem Memory.Rewrites.render_chain (rewrites : memory.Rewrites tables good)
    (outside : options.definingVariable = false) (some : options.map.isEmpty = false)
    {ref : TypeRef} (ends : tables.ChainEnds options.map ref.id steps last depth)
    (small : ref.depth + depth < limit32) :
    (tables.render ref options memory).1 =
      (tables.render (.plain last) options memory).1.map
        (· ++ arraySuffix (ref.depth + depth)) := by
  have stands : tables.standIn ref.element options = _ :=
    ends.standIn outside some (Nat.lt_of_le_of_lt (Nat.le_add_left ..) small)
  have stands' : tables.standIn (TypeRef.plain last).element options = _ :=
    (Tables.ChainEnds.rest ends.halts).standIn outside some (by decide)
  have sum : (TypeRef.mk last depth).deepen ref.depth = ⟨last, ref.depth + depth⟩ := by
    rw [TypeRef.deepen, Nat.add_comm, Nat.mod_eq_of_lt small]
  have flat : ((TypeRef.mk last 0).deepen (TypeRef.plain last).depth).depth = 0 := rfl
  rw [Tables.render_outcome rewrites, Tables.render_outcome rewrites, stands, stands']
  cases tables.isVariable (.plain last) with
  | error fault => rfl
  | ok varies =>
    simp only [Except.map, Outcome.ok_bind, sum, flat]
    cases (tables.renderVariant (tables.renderWithin (8 * tables.typeCount + 1)) last options
      memory).1 with
    | error fault => rfl
    | ok body =>
      have unchanged : body ++ arraySuffix 0 = body := String.append_empty
      exact congrArg Except.ok (by rw [unchanged])

/-- **Array dimensions add up when variables are followed.**  Whatever was asked before, a variable
that is bound, on a chain that does not come back, is written as what it is bound to in the
dimensions of both, whether that succeeds or fails, and in the end as the last type of the chain
with the brackets for all dimensions.  On every map, with cycles or not, the way through the
bindings ends, and it is followed to its end. -/
theorem Memory.Reached.render_throughBindings {atlas : Atlas} (reached : memory.Reached atlas)
    (outside : options.definingVariable = false) :
    (∀ letter value, atlas.tables.IsTypeVariable letter →
      options.map.find? letter = some value →
      (∀ other, ReflTransGen (atlas.tables.Leads options.map) letter other →
        ¬TransGen (atlas.tables.Leads options.map) other other) →
      ∃ steps last depth, atlas.tables.ChainEnds options.map value.id steps last depth ∧
        ∀ dimensions, dimensions + value.depth + depth < limit32 →
          (atlas.tables.render ⟨letter, dimensions⟩ options memory).1 =
            (atlas.tables.render ⟨value.id, dimensions + value.depth⟩ options memory).1 ∧
          (atlas.tables.render ⟨letter, dimensions⟩ options memory).1 =
            (atlas.tables.render (.plain last) options memory).1.map
              (· ++ arraySuffix (dimensions + value.depth + depth))) ∧
    ∀ map ref, Descent.Ends (atlas.tables.Onward map) (.start ref) ∧
      ∃ final, ReflTransGen (atlas.tables.Onward map) (.start ref) final ∧
        atlas.tables.Stuck map final ∧
        atlas.tables.followBindings map (map.entries.length + 1) [ref.id] ref =
          (atlas.tables.isVariable final.current).map fun _ => final.current := by
  refine ⟨fun letter value varies bound acyclic => ?_, fun map ref =>
    ⟨atlas.tables.onward_ends map _, atlas.tables.exists_trail_start map ref⟩⟩
  have leads : atlas.tables.Leads options.map letter value.id := ⟨varies, value, bound, rfl⟩
  have moves : value ≠ .plain letter := by
    rintro rfl
    exact acyclic letter .refl (.single leads)
  obtain ⟨steps, last, depth, onward⟩ := Tables.exists_chainEnds fun other way =>
    acyclic other (.head leads way)
  have whole := Tables.ChainEnds.step varies bound moves onward
  have some : options.map.isEmpty = false := by
    rw [VarMap.isEmpty, List.isEmpty_eq_false_iff]
    intro nothing
    rw [VarMap.find?, nothing] at bound
    cases bound
  refine ⟨steps, last, depth, onward, fun dimensions small => ?_⟩
  have first : (atlas.tables.render ⟨letter, dimensions⟩ options memory).1 = _ :=
    reached.rewrites.render_chain outside some whole (Nat.add_assoc .. ▸ small)
  have second : (atlas.tables.render ⟨value.id, dimensions + value.depth⟩ options memory).1 = _ :=
    reached.rewrites.render_chain outside some onward small
  rw [← Nat.add_assoc] at first
  exact ⟨first.trans second.symm, first⟩

end

namespace Atlas

/-- The three letters are followed along their chain, and written without a package. -/
def threeLetters.options : NameOptions :=
  NameOptions.short.withMap threeLetters.chained

/-- Each of the letters leads to a later one. -/
theorem threeLetters_acyclic (id : Nat) :
    ¬TransGen (threeLetters.tables.Leads threeLetters.chained) id id := by
  have up : ∀ {id next}, threeLetters.tables.Leads threeLetters.chained id next → id < next := by
    rintro id next ⟨-, ref, bound, rfl⟩
    have listed := (VarMap.mem_entries_iff threeLetters.chained id ref).2 bound
    exact (show ∀ entry ∈ threeLetters.chained.entries, entry.1 < entry.2.id by decide) _ listed
  intro cycle
  exact Descent.not_cycle_of_lt up id (Relation.transGen_swap.2 cycle)

end Atlas

/-- Arrays of the first of three letters are written as the third one with four pairs of brackets,
and so are arrays of arrays of the second one.  The way through bindings in a circle ends. -/
theorem Memory.Reached.render_throughBindings_threeLetters :
    (Atlas.threeLetters.tables.render ⟨0, 1⟩ Atlas.threeLetters.options .empty).1 =
        .ok "V[][][][]" ∧
      (Atlas.threeLetters.tables.render ⟨1, 2⟩ Atlas.threeLetters.options .empty).1 =
        .ok "V[][][][]" ∧
      Descent.Ends (Atlas.threeLetters.tables.Onward ⟨[(0, ⟨1, 0⟩), (1, ⟨0, 0⟩)], by decide⟩)
        (.start ⟨0, 0⟩) := by
  have reached : Memory.Reached Atlas.threeLetters .empty := .start
  have outside : Atlas.threeLetters.options.definingVariable = false := rfl
  obtain ⟨bindings, ways⟩ := render_throughBindings reached outside
  obtain ⟨steps, last, depth, chain, written⟩ := bindings 0 ⟨1, 1⟩ ⟨_, rfl⟩ (by decide)
    fun other _ => Atlas.threeLetters_acyclic other
  obtain ⟨rfl, rfl, rfl⟩ := chain.unique Atlas.threeLetters_chained_second
  obtain ⟨same, text⟩ := written 1 (by decide)
  have read : Atlas.threeLetters.tables.typeData 2 = .ok (.typeVariable ⟨2, []⟩) := rfl
  have body := Tables.renderVariant_of_unbounded read rfl rfl (show Memory.empty.names = ∅ from rfl)
  have final : (Atlas.threeLetters.tables.render (.plain 2) Atlas.threeLetters.options .empty).1 =
      .ok "V" := by
    rw [Tables.render_outcome reached.rewrites]
    exact congrArg (fun outcome => outcome.map (· ++ arraySuffix 0)) (body _ _)
  rw [final] at text
  exact ⟨text, same.symm.trans text, (ways _ _).1⟩

end ClassAtlas

import ClassAtlas.Members
import ClassAtlas.Proofs.Rendering.Replays
import ClassAtlas.Proofs.Substitution.Resolution

/-!
# What can be remembered

`Memory.Reached` is every memory that a session can have: names, packages, maps and texts are asked
for in any order, with or without success, class names and partitions are noted, and the memory is
dropped in part.  A run that is outdated leaves the names and packages it has learned.

Whatever was asked before, every remembered text would be written again and every remembered map is
resolved (`Reached.rewrites`).  So the members of a type are listed with a map that is resolved and
binds no variable to itself (`members_reached`).
-/

set_option autoImplicit false

namespace ClassAtlas

/-- The memories that can be reached. -/
inductive Memory.Reached (atlas : Atlas) : Memory → Prop where
  | start : Reached atlas .empty
  | named {memory : Memory} (earlier : Reached atlas memory) (id : Nat) :
      Reached atlas (atlas.tables.name id memory).2
  | packaged {memory : Memory} (earlier : Reached atlas memory) (id : Nat) :
      Reached atlas (atlas.tables.packageName id memory).2
  | mapped {memory : Memory} (earlier : Reached atlas memory) (call : MapCall) :
      Reached atlas (call.run atlas memory).2
  | written {memory : Memory} (earlier : Reached atlas memory) (ref : TypeRef)
      (options : NameOptions) : Reached atlas (atlas.tables.render ref options memory).2
  | noted {memory : Memory} (earlier : Reached atlas memory) (found : Std.HashMap String TypeRef)
      (partitions : Option Partitions) :
      Reached atlas { memory with found := found, partitions := partitions }
  | cleared {memory : Memory} (earlier : Reached atlas memory) : Reached atlas memory.clear
  | renewed {memory : Memory} (earlier : Reached atlas memory) : Reached atlas memory.renew
  | outdated {memory other : Memory} (earlier : Reached atlas memory) (aside : Reached atlas other)
      (names : Keeps memory.names other.names) (packages : Keeps memory.packages other.packages) :
      Reached atlas { memory with names := other.names, packages := other.packages }

namespace Tables

/-- All maps that are remembered are resolved. -/
def AllResolved (tables : Tables) (maps : MapMemory) : Prop :=
  maps.Holds fun _ => tables.Resolved

variable {tables : Tables} {map : VarMap}

/-- A resolved map that binds no variable to itself. -/
structure Stripped (tables : Tables) (map : VarMap) : Prop extends tables.Resolved map where
  moves : ∀ key value, map.find? key = some value → value ≠ .plain key

theorem stripped_empty (tables : Tables) : tables.Stripped .empty where
  reads _ _ found := nomatch found
  rests _ _ found := nomatch found
  moves _ _ found := nomatch found

theorem Resolved.stripped (resolved : tables.Resolved map) : tables.Stripped map.stripSelf where
  reads key value found := resolved.reads key value (VarMap.find?_stripSelf.1 found).1
  rests key value found varies next bound :=
    resolved.rests key value (VarMap.find?_stripSelf.1 found).1 varies next
      (VarMap.find?_stripSelf.1 bound).1
  moves _ _ found := (VarMap.find?_stripSelf.1 found).2

end Tables

namespace Atlas

variable {atlas : Atlas}

theorem exhaustive_allResolved (atlas : Atlas) (id : Nat) :
    Work.Meets atlas.tables.AllResolved (atlas.exhaustive id) atlas.tables.Resolved fun _ => True :=
  mapWithin_holds (fun _ _ id others => computeMap_meets atlas.closed_resolved id others) _ [] id

end Atlas

namespace Memory

variable {atlas : Atlas} {memory : Memory}

/-- **Whatever was asked before, texts would be written again and maps are resolved.** -/
theorem Reached.rewrites (reached : memory.Reached atlas) :
    memory.Rewrites atlas.tables atlas.tables.AllResolved := by
  induction reached with
  | start => exact rewrites_of_no_texts rfl (MapMemory.holds_empty _)
  | named earlier id ih => exact (atlas.tables.name_rewrites id _ ih).1
  | packaged earlier id ih => exact (atlas.tables.packageName_rewrites id _ ih).1
  | mapped earlier call ih =>
    rw [Atlas.memory_of_run]
    have kept := (atlas.exhaustive_allResolved call.id _ ih.maps).1
    exact ih.mono ⟨.refl _, .refl _, .refl _⟩ rfl kept
  | written earlier ref options ih => exact (Tables.renderWithin_rewrites _ ref options _ ih).1
  | noted earlier found partitions ih => exact ih.mono ⟨.refl _, .refl _, .refl _⟩ rfl ih.maps
  | cleared earlier ih => exact rewrites_of_no_texts rfl (MapMemory.holds_empty _)
  | renewed earlier ih => exact rewrites_of_no_texts rfl (MapMemory.holds_empty _)
  | outdated earlier aside names packages ih _ =>
    exact ih.mono ⟨names, packages, .refl _⟩ rfl ih.maps

end Memory

/-! ## Members -/

theorem Atlas.typeVariableMap_reached (atlas : Atlas) (id : Nat) :
    Work.Meets (Memory.Reached atlas) (atlas.typeVariableMap id) atlas.tables.Stripped
      fun _ => True := by
  intro memory reached
  refine ⟨reached.mapped (.typeVariableMap id), ?_⟩
  have outcome := (atlas.exhaustive_allResolved id _ reached.rewrites.maps).2
  rw [typeVariableMap, Work.bind_apply, Work.onMaps]
  rcases run : atlas.exhaustive id memory.maps with ⟨fault | map, maps⟩
  · trivial
  · rw [run] at outcome
    exact outcome.stripped

namespace TypeView

variable {atlas : Atlas} {ref : TypeRef} {view : TypeView}
  (seen : atlas.tables.view ref = .ok view)

include seen

/-- Seen from nowhere else, a type has its own bindings. -/
theorem variableMap_reached :
    Work.Meets (Memory.Reached atlas) (view.variableMap atlas) atlas.tables.Stripped
      fun _ => True := by
  obtain ⟨data, -, seen⟩ := Outcome.bind_eq_ok.1 seen
  obtain rfl := Except.ok.inj seen
  exact (atlas.typeVariableMap_reached ref.id).bind fun own stripped =>
    Work.meets_pure stripped.toResolved.stripped

variable {α : Type} (part : ClassMembers → List α)

theorem membersIn_reached (classes : List Nat) :
    Work.Meets (Memory.Reached atlas) (view.membersIn atlas part classes)
      (fun members => ∀ member ∈ members, atlas.tables.Stripped member.map) fun _ => True := by
  induction classes with
  | nil => exact Work.meets_pure (List.forall_mem_nil _)
  | cons declaring rest ih =>
    refine Work.meets_lift_bind (Outcome.meets_true _) fun records _ _ => ?_
    have onward : ∀ map, atlas.tables.Stripped map → Work.Meets (Memory.Reached atlas)
        (do
          let others ← view.membersIn atlas part rest
          return (part records).mapIdx (fun index record =>
            { declaring, index, map, record : Member α }) ++ others)
        (fun members => ∀ member ∈ members, atlas.tables.Stripped member.map) fun _ => True := by
      refine fun map stripped => ih.bind fun others each => Work.meets_pure ?_
      intro member listed
      rcases List.mem_append.1 listed with here | there
      · obtain ⟨index, _, rfl⟩ := List.mem_mapIdx.1 here
        exact stripped
      · exact each member there
    dsimp only
    split
    · exact (Work.meets_pure (atlas.tables.stripped_empty)).bind onward
    · exact (variableMap_reached seen).bind onward

/-- **The members of a type carry a resolved map in which no variable stands for itself.** -/
theorem members_reached (shallow : Bool) :
    Work.Meets (Memory.Reached atlas) (view.members atlas part shallow)
      (fun members => ∀ member ∈ members, atlas.tables.Stripped member.map) fun _ => True :=
  Work.meets_lift_bind (Outcome.meets_true _) fun classes _ _ =>
    membersIn_reached seen part classes

end TypeView

end ClassAtlas

import Mathlib.Data.Finset.Card
import Mathlib.Logic.Relation

/-!
# Descents in finite graphs

Following the edges of a graph from a node comes to an end when no cycle can be reached, and when
the graph is finite it comes to an end after as many nodes as the graph has (`within_of_acyclic`).
The other way round, a node all of whose descents end reaches no cycle (`not_cycle_of_ends`).
-/

set_option autoImplicit false

namespace ClassAtlas.Descent

open Relation (ReflTransGen TransGen)

variable {α : Type} {next : α → α → Prop}

/-- Every descent from a node goes through so many nodes at most. -/
def Within (next : α → α → Prop) : Nat → α → Prop
  | 0, _ => False
  | steps + 1, node => ∀ inner, next node inner → Within next steps inner

theorem Within.mono {steps more : Nat} {node : α} (within : Within next steps node)
    (enough : steps ≤ more) : Within next more node := by
  induction steps generalizing more node with
  | zero => cases within
  | succ steps ih =>
    cases more with
    | zero => cases enough
    | succ more => exact fun inner step => ih (within inner step) (Nat.le_of_succ_le_succ enough)

/-- Every descent from a node ends. -/
def Ends (next : α → α → Prop) (node : α) : Prop :=
  Acc (fun inner outer => next outer inner) node

theorem Within.ends {steps : Nat} {node : α} (within : Within next steps node) :
    Ends next node := by
  induction steps generalizing node with
  | zero => cases within
  | succ steps ih => exact ⟨_, fun inner step => ih (within inner step)⟩

theorem Ends.inner {node inner : α} (ends : Ends next node) (step : next node inner) :
    Ends next inner :=
  ends.inv step

/-- A node that reaches a cycle has a descent without end. -/
theorem not_cycle_of_ends {start node : α} (ends : Ends next start)
    (way : ReflTransGen next start node) : ¬TransGen next node node := by
  have here : Ends next node := by
    induction way with
    | refl => exact ends
    | tail _ step ih => exact ih.inner step
  clear ends way
  induction here with
  | intro node _ ih =>
    intro cycle
    -- the cycle seen from the second of its nodes
    obtain ⟨second, step, rest⟩ := TransGen.head'_iff.1 cycle
    exact ih second step (TransGen.tail' rest step)

/-- Steps that lead to smaller numbers form no cycle. -/
theorem not_cycle_of_lt {next : Nat → Nat → Prop}
    (down : ∀ {outer inner : Nat}, next outer inner → inner < outer) (node : Nat) :
    ¬TransGen next node node := by
  intro cycle
  have lower : ∀ {inner}, TransGen next node inner → inner < node := by
    intro inner way
    induction way with
    | single step => exact down step
    | tail _ step ih => exact Nat.lt_trans (down step) ih
  exact Nat.lt_irrefl node (lower cycle)

/-- **In a finite graph a node that reaches no cycle has short descents only.**  The nodes on the
way to a node all differ from it, so each step leaves fewer nodes to go to. -/
theorem within_of_acyclic [DecidableEq α] {all : Finset α}
    (inside : ∀ outer ∈ all, ∀ inner, next outer inner → inner ∈ all) {start : α}
    (member : start ∈ all)
    (acyclic : ∀ node, ReflTransGen next start node → ¬TransGen next node node) :
    Within next all.card start := by
  have descends : ∀ (steps : Nat) (path : Finset α) (node : α), path ⊆ all → node ∈ all →
      (∀ earlier ∈ path, TransGen next earlier node) → ReflTransGen next start node →
        all.card ≤ steps + path.card → Within next steps node := by
    intro steps
    induction steps with
    | zero =>
      intro path node part here before way enough
      have new : node ∉ path := fun again => acyclic node way (before node again)
      have more := Finset.card_le_card (Finset.insert_subset here part)
      rw [Finset.card_insert_of_notMem new] at more
      omega
    | succ steps ih =>
      intro path node part here before way enough inner step
      have new : node ∉ path := fun again => acyclic node way (before node again)
      refine ih (insert node path) inner (Finset.insert_subset here part)
        (inside node here inner step) ?_ (way.tail step) ?_
      · intro earlier listed
        rcases Finset.mem_insert.1 listed with rfl | listed
        · exact .single step
        · exact (before earlier listed).tail step
      · rw [Finset.card_insert_of_notMem new]
        omega
  exact descends all.card ∅ start (Finset.empty_subset all) member
    (fun _ listed => absurd listed (Finset.notMem_empty _)) .refl (Nat.le_add_right _ _)

end ClassAtlas.Descent

import ClassAtlas.Answer.Listing
import ClassAtlas.Proofs.Outcome

/-!
# What a listing says of its items

The rows of a listing are made one after the other, each in the memory that the ones before it have
left.  An item that has no row is a failure in its place among the failures, so the listing accounts
for every item once and in the order of the items (`Listing.Accounts`).

Nothing but a row that never ends stands in the way of this (`build_of_ends`), and such a row takes
the whole listing with it (`build_of_not_ends`).
-/

set_option autoImplicit false

namespace ClassAtlas

namespace Work

variable {α : Type} {step : Work α} {before : Memory}

theorem attempt_of_ends (ends : Outcome.Ends (step before).1) :
    attempt step before = (.ok (step before).1, (step before).2) := by
  unfold attempt
  split
  · next id after run => exact absurd (congrArg Prod.fst run) (ends id)
  · next outcome after _ run => rw [run]

theorem attempt_of_endless {after : Memory} {id : Nat}
    (run : step before = (.error (.endless id), after)) :
    attempt step before = (.error (.endless id), after) := by
  rw [attempt, run]

end Work

namespace Listing

variable {ι α : Type} {subject : ι → String} {row : ι → Work α}

/-- Rows that are made one after the other and all come to an end. -/
def Ends (row : ι → Work α) : List ι → Memory → Prop
  | [], _ => True
  | item :: rest, memory =>
    Outcome.Ends (row item memory).1 ∧ Ends row rest (row item memory).2

/-- A listing that has, for each item in turn, its row in front of the rows of the others or its
failure in front of their failures.  The memories before and after belong to it. -/
inductive Accounts (subject : ι → String) (row : ι → Work α) :
    List ι → Memory → Listing α → Memory → Prop where
  | nil (memory : Memory) : Accounts subject row [] memory empty memory
  | row {item : ι} {rest : List ι} {before between after : Memory} {made : α}
      {others : Listing α} (run : row item before = (.ok made, between))
      (listed : Accounts subject row rest between others after) :
      Accounts subject row (item :: rest) before (others.addRow made) after
  | failure {item : ι} {rest : List ι} {before between after : Memory} {fault : Fault}
      {others : Listing α} (run : row item before = (.error fault, between))
      (listed : Accounts subject row rest between others after) :
      Accounts subject row (item :: rest) before
        (others.addFailure ⟨subject item, fault.message⟩) after

/-- There are as many rows and failures as items. -/
theorem Accounts.length {items : List ι} {before after : Memory} {listing : Listing α}
    (accounts : Accounts subject row items before listing after) :
    listing.rows.length + listing.failures.length = items.length := by
  induction accounts with
  | nil memory => rfl
  | row run listed ih =>
    simp only [addRow, List.length_cons]
    omega
  | failure run listed ih =>
    simp only [addFailure, List.length_cons]
    omega

/-- **Rows that end make a listing that accounts for every item.** -/
theorem build_of_ends (subject : ι → String) {items : List ι} {before : Memory}
    (ends : Ends row items before) :
    ∃ listing after, build subject row items before = (.ok listing, after) ∧
      Accounts subject row items before listing after := by
  induction items generalizing before with
  | nil => exact ⟨empty, before, rfl, .nil before⟩
  | cons item rest ih =>
    obtain ⟨here, there⟩ := ends
    obtain ⟨others, after, built, accounts⟩ := ih there
    have tried := Work.attempt_of_ends here
    rcases run : row item before with ⟨fault | made, between⟩
    · rw [run] at tried built accounts
      refine ⟨_, after, ?_, .failure run accounts⟩
      rw [build, Work.bind_of_ok tried, Work.bind_of_ok built]
      rfl
    · rw [run] at tried built accounts
      refine ⟨_, after, ?_, .row run accounts⟩
      rw [build, Work.bind_of_ok tried, Work.bind_of_ok built]
      rfl

/-- A row that never ends takes the rows of the other items with it. -/
theorem build_of_not_ends (subject : ι → String) {items : List ι} {before : Memory}
    (endless : ¬Ends row items before) :
    ∃ id after, build subject row items before = (.error (.endless id), after) := by
  induction items generalizing before with
  | nil => exact absurd trivial endless
  | cons item rest ih =>
    by_cases here : Outcome.Ends (row item before).1
    · obtain ⟨id, after, built⟩ := ih fun there => endless ⟨here, there⟩
      refine ⟨id, after, ?_⟩
      rw [build, Work.bind_of_ok (Work.attempt_of_ends here), Work.bind_of_error built]
    · obtain ⟨id, run⟩ : ∃ id, (row item before).1 = .error (.endless id) := by
        simpa [Outcome.Ends] using here
      have tried := Work.attempt_of_endless (Prod.ext run rfl : row item before = (_, _))
      exact ⟨id, _, by rw [build, Work.bind_of_error tried]⟩

end Listing

end ClassAtlas

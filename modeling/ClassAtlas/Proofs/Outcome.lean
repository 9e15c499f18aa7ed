import ClassAtlas.Work

/-!
# Outcomes of steps

How a sequence of steps runs: the first fault ends it, and the memory goes on to the next step in
any case.  The lemmas `bind_eq_ok` take a sequence that gave a result apart, step by step, so that
no proof has to open the monads.

A step is specified by what holds of its result, of its fault and of the memory that it leaves
(`Work.Meets`), and the specification of a sequence is put together from those of its steps.
-/

set_option autoImplicit false

namespace ClassAtlas

/-- Whether a fault is another one than nesting without end. -/
def Fault.Final (fault : Fault) : Prop :=
  ∀ id, fault ≠ .endless id

theorem Fault.final_or_endless (fault : Fault) : fault.Final ∨ ∃ id, fault = .endless id := by
  by_cases endless : ∃ id, fault = .endless id
  · exact .inr endless
  · exact .inl fun id same => endless ⟨id, same⟩

namespace Outcome

section

variable {ε α β : Type}

@[simp] theorem ok_bind (value : α) (next : α → Except ε β) :
    (Except.ok value >>= next) = next value :=
  rfl

@[simp] theorem error_bind (flaw : ε) (next : α → Except ε β) :
    (Except.error flaw >>= next) = .error flaw :=
  rfl

@[simp] theorem pure_eq (value : α) : (pure value : Except ε α) = .ok value :=
  rfl

@[simp] theorem throw_eq (flaw : ε) : (throw flaw : Except ε α) = .error flaw :=
  rfl

theorem exists_of_isOk {outcome : Except ε α} (ends : outcome.isOk = true) :
    ∃ value, outcome = .ok value := by
  cases outcome with
  | error flaw => cases ends
  | ok value => exact ⟨value, rfl⟩

/-- Two computations one after the other give a result when both do. -/
theorem bind_eq_ok {first : Except ε α} {next : α → Except ε β} {result : β} :
    (first >>= next) = .ok result ↔ ∃ value, first = .ok value ∧ next value = .ok result := by
  cases first with
  | error flaw => simp
  | ok value => simp

/-- A mapped computation gives a result when the computation does. -/
theorem map_eq_ok {first : Except ε α} {change : α → β} {result : β} :
    first.map change = .ok result ↔ ∃ value, first = .ok value ∧ change value = result := by
  cases first <;> simp [Except.map]

/-- Steps that all succeed give the list of their results. -/
theorem mapM_eq_ok {step : α → Except ε β} {result : α → β} {items : List α}
    (succeeds : ∀ item ∈ items, step item = .ok (result item)) :
    items.mapM step = .ok (items.map result) := by
  induction items with
  | nil => rfl
  | cons item rest ih =>
    obtain ⟨here, there⟩ := List.forall_mem_cons.1 succeeds
    rw [List.mapM_cons, here, ih there]
    rfl

end

variable {α β : Type}

/-- Whether a computation ends, be it with a result or with a fault. -/
def Ends (outcome : Except Fault α) : Prop :=
  ∀ id, outcome ≠ .error (.endless id)

theorem ends_error {flaw : Fault} : Ends (.error flaw : Except Fault α) ↔ flaw.Final :=
  ⟨fun ends id same => ends id (congrArg _ same),
    fun final id same => final id (Except.error.inj same)⟩

/-- What holds of the result of a computation, and what of its fault. -/
def Meets (outcome : Except Fault α) (result : α → Prop) (fault : Fault → Prop) : Prop :=
  match outcome with
  | .ok value => result value
  | .error flaw => fault flaw

variable {result result' : α → Prop} {onward : β → Prop} {fault fault' : Fault → Prop}

theorem Meets.mono {outcome : Except Fault α} (meets : Meets outcome result fault)
    (results : ∀ value, result value → result' value) (faults : ∀ flaw, fault flaw → fault' flaw) :
    Meets outcome result' fault' := by
  cases outcome with
  | error flaw => exact faults flaw meets
  | ok value => exact results value meets

theorem Meets.bind {first : Except Fault α} {next : α → Except Fault β}
    (meets : Meets first result fault)
    (then_ : ∀ value, result value → Meets (next value) onward fault) :
    Meets (first >>= next) onward fault := by
  cases first with
  | error flaw => exact meets
  | ok value => exact then_ value meets

theorem meets_true (outcome : Except Fault α) :
    Meets outcome (fun _ => True) fun _ => True := by
  cases outcome <;> trivial

/-- A computation without faults gives a result. -/
theorem meets_iff_ok {outcome : Except Fault α} :
    Meets outcome result (fun _ => False) ↔ ∃ value, outcome = .ok value ∧ result value := by
  cases outcome with
  | error flaw => simp [Meets]
  | ok value => simp [Meets]

end Outcome

namespace Work

variable {σ α β : Type}

theorem bind_apply (first : Remembering σ α) (next : α → Remembering σ β) (memory : σ) :
    (first >>= next) memory =
      match first memory with
      | (.ok value, memory) => next value memory
      | (.error fault, memory) => (.error fault, memory) := by
  show (ExceptT.bind first next) memory = _
  simp only [ExceptT.bind, ExceptT.mk, bind, StateT.bind, ExceptT.bindCont]
  rcases first memory with ⟨_ | value, after⟩ <;> rfl

/-- What comes after a step that gave a result. -/
theorem bind_of_ok {first : Remembering σ α} {next : α → Remembering σ β} {before between : σ}
    {value : α} (run : first before = (.ok value, between)) :
    (first >>= next) before = next value between := by
  rw [bind_apply, run]

/-- Nothing comes after a step that ended in a fault. -/
theorem bind_of_error {first : Remembering σ α} {next : α → Remembering σ β} {before after : σ}
    {fault : Fault} (run : first before = (.error fault, after)) :
    (first >>= next) before = (.error fault, after) := by
  rw [bind_apply, run]

@[simp] theorem pure_apply (value : α) (memory : σ) :
    (pure value : Remembering σ α) memory = (.ok value, memory) :=
  rfl

@[simp] theorem throw_apply (fault : Fault) (memory : σ) :
    (throw fault : Remembering σ α) memory = (.error fault, memory) :=
  rfl

@[simp] theorem get_apply (memory : σ) : (get : Remembering σ σ) memory = (.ok memory, memory) :=
  rfl

@[simp] theorem modify_apply (change : σ → σ) (memory : σ) :
    (modify change : Remembering σ PUnit) memory = (.ok ⟨⟩, change memory) :=
  rfl

@[simp] theorem lift_apply (result : Except Fault α) (memory : σ) :
    (lift result : Remembering σ α) memory = (result, memory) :=
  rfl

/-- Two steps one after the other give a result when both do. -/
theorem bind_eq_ok {first : Remembering σ α} {next : α → Remembering σ β} {before after : σ}
    {result : β} :
    (first >>= next) before = (.ok result, after) ↔
      ∃ value between, first before = (.ok value, between) ∧
        next value between = (.ok result, after) := by
  rw [bind_apply]
  rcases first before with ⟨_ | value, between⟩
  · constructor
    · intro run
      cases run
    · rintro ⟨_, _, run, _⟩
      cases run
  · constructor
    · intro run
      exact ⟨value, between, rfl, run⟩
    · rintro ⟨_, _, first, next⟩
      cases first
      exact next

/-- A computation without memory gives a result and keeps the memory. -/
theorem lift_eq_ok {outcome : Except Fault α} {before after : σ} {result : α} :
    (lift outcome : Remembering σ α) before = (.ok result, after) ↔
      outcome = .ok result ∧ before = after :=
  ⟨Prod.mk.inj, fun ⟨same, kept⟩ => Prod.ext same kept⟩

/-! ## Specifications -/

/-- What holds of a step: started with a memory that satisfies an invariant, it leaves one that
does, its result satisfies one property and its fault another. -/
def Meets (invariant : σ → Prop) (step : Remembering σ α) (result : α → Prop)
    (fault : Fault → Prop) : Prop :=
  ∀ memory, invariant memory →
    invariant (step memory).2 ∧ Outcome.Meets (step memory).1 result fault

variable {invariant : σ → Prop} {result result' : α → Prop} {onward : β → Prop}
  {fault fault' : Fault → Prop}

theorem meets_pure {value : α} (holds : result value) :
    Meets invariant (pure value : Remembering σ α) result fault :=
  fun _ sound => ⟨sound, holds⟩

theorem meets_throw {flaw : Fault} (holds : fault flaw) :
    Meets invariant (throw flaw : Remembering σ α) result fault :=
  fun _ sound => ⟨sound, holds⟩

theorem meets_lift {outcome : Except Fault α} (meets : Outcome.Meets outcome result fault) :
    Meets invariant (lift outcome : Remembering σ α) result fault :=
  fun _ sound => ⟨sound, meets⟩

/-- Of every step nothing is known. -/
theorem meets_true (step : Remembering σ α) :
    Meets (fun _ => True) step (fun _ => True) fun _ => True :=
  fun _ _ => ⟨trivial, Outcome.meets_true _⟩

theorem Meets.mono {step : Remembering σ α} (meets : Meets invariant step result fault)
    (results : ∀ value, result value → result' value) (faults : ∀ flaw, fault flaw → fault' flaw) :
    Meets invariant step result' fault' :=
  fun memory sound => ⟨(meets memory sound).1, (meets memory sound).2.mono results faults⟩

/-- What holds of a step that gave a result. -/
theorem Meets.of_ok {step : Remembering σ α} (meets : Meets invariant step result fault)
    {before after : σ} {value : α} (sound : invariant before)
    (run : step before = (.ok value, after)) : invariant after ∧ result value := by
  have held := meets before sound
  rwa [run] at held

/-- A step without faults gives a result. -/
theorem Meets.exists_ok {step : Remembering σ α}
    (meets : Meets invariant step result fun _ => False) {before : σ} (sound : invariant before) :
    ∃ value after, step before = (.ok value, after) ∧ result value := by
  obtain ⟨value, given, holds⟩ := Outcome.meets_iff_ok.1 (meets before sound).2
  exact ⟨value, _, Prod.ext given rfl, holds⟩

/-- The steps of a sequence meet their specifications one after the other. -/
theorem Meets.bind {first : Remembering σ α} {next : α → Remembering σ β}
    (meets : Meets invariant first result fault)
    (then_ : ∀ value, result value → Meets invariant (next value) onward fault) :
    Meets invariant (first >>= next) onward fault := by
  intro memory sound
  obtain ⟨between, outcome⟩ := meets memory sound
  rw [bind_apply]
  rcases run : first memory with ⟨flaw | value, after⟩
  · rw [run] at between outcome
    exact ⟨between, outcome⟩
  · rw [run] at between outcome
    exact then_ value outcome after between

/-- What comes after a computation without memory can go on from what it gave. -/
theorem meets_lift_bind {outcome : Except Fault α} {next : α → Remembering σ β}
    (meets : Outcome.Meets outcome result fault)
    (then_ : ∀ value, outcome = .ok value → result value →
      Meets invariant (next value) onward fault) :
    Meets invariant (lift outcome >>= next) onward fault := by
  cases outcome with
  | error flaw => exact fun _ sound => ⟨sound, meets⟩
  | ok value => exact then_ value rfl meets

/-- The same work for each item of a list, when each item meets its specification. -/
theorem meets_forAll {step : α → Remembering σ β} {items : List α} {done : α → Prop}
    (each : ∀ item ∈ items, Meets invariant (step item) (fun _ => done item) fault) :
    Meets invariant (forAll step items) (fun _ => ∀ item ∈ items, done item) fault := by
  induction items with
  | nil => exact meets_pure fun item listed => absurd listed List.not_mem_nil
  | cons item rest ih =>
    obtain ⟨here, there⟩ := List.forall_mem_cons.1 each
    refine here.bind fun first firstDone => ?_
    refine (ih there).bind fun others restDone => ?_
    exact meets_pure (List.forall_mem_cons.2 ⟨firstDone, restDone⟩)

end Work

end ClassAtlas

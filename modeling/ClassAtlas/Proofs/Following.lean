import ClassAtlas.Proofs.Outcome

/-!
# Computations side by side

A computation that remembers and one that does not, or the same computation with more levels, do not
run in step: what one looks up the other has to compute.  They are compared by what they give.  The
second follows the first when it gives every result of the first once it has enough levels,
whatever it remembers itself (`Work.Follows`).

That is a specification of the first computation, so it passes from the steps of a sequence to the
sequence.  No number of levels has to be found for this: of those that are enough for two steps the
larger one is enough for both.

A step with one answer, whatever sound memory it is started with, is steady (`Work.Steady`).  A step
is steady when all its results are the only one of their kind and it fails only where there is none
(`steady_of_unique`).
-/

set_option autoImplicit false

namespace ClassAtlas

/-- What holds of all entries of a table and of a new one holds of all entries afterwards. -/
theorem forall_getElem?_insert {κ ν : Type} [BEq κ] [Hashable κ] [LawfulBEq κ]
    {table : Std.HashMap κ ν} {holds : κ → ν → Prop}
    (before : ∀ {key value}, table[key]? = some value → holds key value) {key : κ} {value : ν}
    (here : holds key value) {other : κ} {found : ν}
    (there : (table.insert key value)[other]? = some found) : holds other found := by
  rw [Std.HashMap.getElem?_insert] at there
  split at there
  · next same =>
    cases beq_iff_eq.1 same
    cases there
    exact here
  · exact before there

namespace Outcome

variable {α β : Type} {outcome rest : Nat → Except Fault α} {value other : α}

/-- Whether a computation gives a value as soon as it has enough levels. -/
def Settles (outcome : Nat → Except Fault α) (value : α) : Prop :=
  ∃ enough, ∀ levels, enough ≤ levels → outcome levels = .ok value

/-- A computation that gives a value has a first level with which it gives any, when it gives none
without levels and more levels change no value. -/
theorem exists_first (outcome : Nat → Except Fault α) {enough : Nat}
    (given : outcome enough = .ok value) (none : ∀ other, outcome 0 ≠ .ok other)
    (more : ∀ levels other, outcome levels = .ok other → outcome (levels + 1) = .ok other) :
    ∃ last < enough, outcome (last + 1) = .ok value ∧ ∀ other, outcome last ≠ .ok other := by
  induction enough with
  | zero => exact absurd given (none value)
  | succ enough ih =>
    cases before : outcome enough with
    | error fault =>
      refine ⟨enough, Nat.lt_succ_self _, given, fun other early => ?_⟩
      cases before.symm.trans early
    | ok other =>
      cases given.symm.trans (more enough other before)
      obtain ⟨last, less, first, early⟩ := ih before
      exact ⟨last, Nat.lt_succ_of_lt less, first, early⟩

theorem Settles.unique (settles : Settles outcome value) (again : Settles outcome other) :
    value = other := by
  obtain ⟨enough, given⟩ := settles
  obtain ⟨more, given'⟩ := again
  have here := given _ (Nat.le_max_left enough more)
  exact Except.ok.inj (here.symm.trans (given' _ (Nat.le_max_right enough more)))

/-- A computation settles when what it does after its first level does. -/
theorem Settles.of_succ (settles : Settles rest value)
    (step : ∀ levels, outcome (levels + 1) = rest levels) : Settles outcome value := by
  obtain ⟨enough, given⟩ := settles
  refine ⟨enough + 1, fun levels above => ?_⟩
  obtain ⟨levels, rfl⟩ := Nat.exists_eq_add_one_of_ne_zero (Nat.ne_zero_of_lt above)
  exact (step levels).trans (given levels (Nat.le_of_succ_le_succ above))

theorem Settles.bind {next : Nat → α → Except Fault β} {result : β}
    (settles : Settles outcome value) (onward : Settles (fun levels => next levels value) result) :
    Settles (fun levels => outcome levels >>= next levels) result := by
  obtain ⟨enough, given⟩ := settles
  obtain ⟨more, given'⟩ := onward
  refine ⟨max enough more, fun levels above => Outcome.bind_eq_ok.2 ⟨value, ?_, ?_⟩⟩
  · exact given levels (Nat.le_trans (Nat.le_max_left _ _) above)
  · exact given' levels (Nat.le_trans (Nat.le_max_right _ _) above)

theorem settles_of_eq {outcome : Except Fault α} (given : outcome = .ok value) :
    Settles (fun _ => outcome) value :=
  ⟨0, fun _ _ => given⟩

theorem Settles.map (settles : Settles outcome value) (change : α → β) :
    Settles (fun levels => do return change (← outcome levels)) (change value) :=
  settles.bind (settles_of_eq rfl)

end Outcome

namespace Work

variable {σ τ α β : Type}

/-- Whether a step gives a value, and only that, in every sound memory. -/
def Always (sound : σ → Prop) (step : Remembering σ α) (value : α) : Prop :=
  Meets sound step (· = value) fun _ => False

/-- Whether a computation always gives a value once it has enough levels. -/
def Eventually (sound : τ → Prop) (step : Nat → Remembering τ α) (value : α) : Prop :=
  ∃ enough, ∀ levels, enough ≤ levels → Always sound (step levels) value

/-- One computation keeps its memory sound, and the other eventually gives what it gives. -/
def Follows (kept : σ → Prop) (leader : Remembering σ α) (sound : τ → Prop)
    (follower : Nat → Remembering τ α) : Prop :=
  Meets kept leader (Eventually sound follower) fun _ => True

/-- A step that keeps its memory sound and has the same answer in every sound memory: a result with
a property, or a fault. -/
def Steady (sound : σ → Prop) (step : Remembering σ α) (result : α → Prop) : Prop :=
  ∃ answer : Option α, (∀ value ∈ answer, result value) ∧
    Meets sound step (· ∈ answer) fun _ => answer = none

variable {kept : σ → Prop} {sound : τ → Prop}

/-! ## Always -/

theorem always_pure (value : α) : Always kept (pure value : Remembering σ α) value :=
  meets_pure rfl

theorem always_lift {outcome : Except Fault α} {value : α} (given : outcome = .ok value) :
    Always kept (lift outcome : Remembering σ α) value :=
  meets_lift (given ▸ rfl)

/-- A sequence does what it does after a step that always gives the same value. -/
theorem Always.bind_meets {first : Remembering σ α} {next : α → Remembering σ β} {value : α}
    {result : β → Prop} {fault : Fault → Prop} (given : Always kept first value)
    (onward : Meets kept (next value) result fault) : Meets kept (first >>= next) result fault :=
  Meets.bind (given.mono (fun _ same => same) fun _ never => never.elim) fun _ same => same ▸ onward

theorem Always.bind {first : Remembering σ α} {next : α → Remembering σ β} {value : α} {result : β}
    (given : Always kept first value) (onward : Always kept (next value) result) :
    Always kept (first >>= next) result :=
  given.bind_meets onward

theorem Always.fst_eq {step : Remembering σ α} {value : α} (given : Always kept step value)
    {memory : σ} (start : kept memory) : (step memory).1 = .ok value := by
  obtain ⟨_, _, run, rfl⟩ := given.exists_ok start
  exact congrArg Prod.fst run

/-! ## Following -/

theorem eventually_of_always {step : Remembering τ α} {value : α}
    (given : Always sound step value) : Eventually sound (fun _ => step) value :=
  ⟨0, fun _ _ => given⟩

theorem eventually_lift {outcome : Nat → Except Fault α} {value : α}
    (settles : Outcome.Settles outcome value) :
    Eventually sound (fun levels => (lift (outcome levels) : Remembering τ α)) value := by
  obtain ⟨enough, given⟩ := settles
  exact ⟨enough, fun levels above => always_lift (given levels above)⟩

theorem Eventually.bind {first : Nat → Remembering τ α} {next : Nat → α → Remembering τ β}
    {value : α} {result : β} (given : Eventually sound first value)
    (onward : Eventually sound (fun levels => next levels value) result) :
    Eventually sound (fun levels => first levels >>= next levels) result := by
  obtain ⟨enough, gives⟩ := given
  obtain ⟨more, goesOn⟩ := onward
  refine ⟨max enough more, fun levels above => ?_⟩
  exact (gives levels (Nat.le_trans (Nat.le_max_left _ _) above)).bind
    (goesOn levels (Nat.le_trans (Nat.le_max_right _ _) above))

/-- What is eventually given in every sound memory is what the outcome in one of them settles to. -/
theorem Eventually.settles {step : Nat → Remembering τ α} {value : α}
    (given : Eventually sound step value) (memory : τ) (start : sound memory) :
    Outcome.Settles (fun levels => (step levels memory).1) value := by
  obtain ⟨enough, gives⟩ := given
  exact ⟨enough, fun levels above => (gives levels above).fst_eq start⟩

theorem follows_of_always {step : Remembering σ α} {step' : Remembering τ α} {value : α}
    (given : Always kept step value) (given' : Always sound step' value) :
    Follows kept step sound fun _ => step' :=
  given.mono (fun _ same => same ▸ eventually_of_always given') fun _ never => never.elim

theorem follows_pure (value : α) :
    Follows kept (pure value) sound fun _ => (pure value : Remembering τ α) :=
  follows_of_always (always_pure value) (always_pure value)

theorem follows_lift (outcome : Except Fault α) :
    Follows kept (lift outcome) sound fun _ => (lift outcome : Remembering τ α) := by
  cases outcome with
  | error fault => exact meets_lift trivial
  | ok value => exact follows_pure value

/-- What both begin with the same outcome goes on from its value. -/
theorem follows_lift_bind {outcome : Except Fault α} {next : α → Remembering σ β}
    {next' : Nat → α → Remembering τ β}
    (then_ : ∀ value, outcome = .ok value →
      Follows kept (next value) sound fun levels => next' levels value) :
    Follows kept (lift outcome >>= next) sound fun levels => lift outcome >>= next' levels := by
  cases outcome with
  | error fault => exact fun memory start => ⟨start, trivial⟩
  | ok value => exact then_ value rfl

/-- A sequence follows a sequence when its steps follow the steps. -/
theorem Follows.bind {leader : Remembering σ α} {follower : Nat → Remembering τ α}
    {next : α → Remembering σ β} {next' : Nat → α → Remembering τ β}
    (follows : Follows kept leader sound follower)
    (then_ : ∀ value, Follows kept (next value) sound fun levels => next' levels value) :
    Follows kept (leader >>= next) sound fun levels => follower levels >>= next' levels :=
  Meets.bind follows fun value given =>
    (then_ value).mono (fun _ onward => given.bind onward) fun _ same => same

/-! ## Steady steps -/

section

variable {result result' : α → Prop} {onward : β → Prop}

theorem Always.steady {step : Remembering σ α} {value : α} (given : Always kept step value)
    (holds : result value) : Steady kept step result :=
  ⟨some value, fun _ same => Option.some.inj same ▸ holds,
    given.mono (fun _ same => same ▸ rfl) fun _ never => never.elim⟩

theorem steady_pure {value : α} (holds : result value) :
    Steady kept (pure value : Remembering σ α) result :=
  (always_pure value).steady holds

/-- A step without memory gives what it gives. -/
theorem steady_lift (outcome : Except Fault α) :
    Steady kept (lift outcome : Remembering σ α) (outcome = .ok ·) := by
  cases outcome with
  | error fault => exact ⟨none, fun _ same => (nomatch same), meets_lift rfl⟩
  | ok value => exact (always_lift rfl).steady rfl

theorem Steady.bind {first : Remembering σ α} {next : α → Remembering σ β}
    (steady : Steady kept first result)
    (then_ : ∀ value, result value → Steady kept (next value) onward) :
    Steady kept (first >>= next) onward := by
  obtain ⟨answer, holds, meets⟩ := steady
  cases answer with
  | none =>
    have fails : Meets kept first (fun _ => False) fun _ => (none : Option β) = none :=
      meets.mono (fun _ same => (nomatch same)) fun _ _ => rfl
    exact ⟨none, fun _ same => (nomatch same), fails.bind fun _ never => never.elim⟩
  | some value =>
    obtain ⟨answer', holds', meets'⟩ := then_ value (holds value rfl)
    refine ⟨answer', holds', Meets.bind (meets.mono (fun _ same => same) ?_) fun other same => ?_⟩
    · exact fun _ none => (nomatch none)
    · cases same
      exact meets'

/-- A step is steady when there is at most one value that it can give, and it fails only when it
cannot give any. -/
theorem steady_of_unique {step : Remembering σ α} (truth : α → Prop) (able : Prop)
    (unique : ∀ value other, truth value → truth other → value = other)
    (holds : ∀ value, truth value → result value)
    (meets : Meets kept step (fun value => truth value ∧ able) fun _ => ¬able) :
    Steady kept step result := by
  by_cases given : able ∧ ∃ value, truth value
  · obtain ⟨possible, value, is⟩ := given
    refine ⟨some value, fun _ same => Option.some.inj same ▸ holds value is, ?_⟩
    exact meets.mono (fun other there => congrArg some (unique value other is there.1))
      fun _ undone => absurd possible undone
  · refine ⟨none, fun _ same => (nomatch same), ?_⟩
    exact meets.mono (fun value there => absurd ⟨there.2, value, there.1⟩ given) fun _ _ => rfl

variable {step : Remembering σ α} (steady : Steady kept step result)

include steady

/-- A steady step, whatever holds of its result. -/
theorem Steady.anything : Steady kept step fun _ => True := by
  obtain ⟨answer, -, meets⟩ := steady
  exact ⟨answer, fun _ _ => trivial, meets⟩

theorem Steady.keeps : Meets kept step result fun _ => True := by
  obtain ⟨answer, holds, meets⟩ := steady
  exact meets.mono holds fun _ _ => trivial

/-- What a steady step gives in one sound memory, it always gives. -/
theorem Steady.always {memory : σ} (start : kept memory) {value : α}
    (given : (step memory).1 = .ok value) : Always kept step value := by
  obtain ⟨answer, -, meets⟩ := steady
  have here := (meets memory start).2
  rw [given] at here
  obtain rfl : answer = some value := here
  exact meets.mono (fun other same => (Option.some.inj same).symm) fun _ none => (nomatch none)

/-- A steady step follows itself. -/
theorem Steady.follows : Follows kept step kept fun _ => step := by
  intro memory start
  refine ⟨(steady.keeps memory start).1, ?_⟩
  cases given : (step memory).1 with
  | error fault => trivial
  | ok value => exact eventually_of_always (steady.always start given)

theorem Steady.ok_iff {memory other : σ} (start : kept memory) (start' : kept other) (value : α) :
    (step memory).1 = .ok value ↔ (step other).1 = .ok value :=
  ⟨fun given => (steady.always start given).fst_eq start',
    fun given => (steady.always start' given).fst_eq start⟩

/-- A steady step gives what it gives in one sound memory. -/
theorem Steady.given {memory : σ} (start : kept memory) :
    Steady kept step fun value => (step memory).1 = .ok value := by
  obtain ⟨answer, -, meets⟩ := steady
  refine ⟨answer, fun value same => ?_, meets⟩
  cases same
  have here := (meets memory start).2
  cases given : (step memory).1 with
  | error fault =>
    rw [given] at here
    cases here
  | ok other =>
    rw [given] at here
    cases here
    rfl

end

/-! ## Sure steps -/

/-- A steady step that ends. -/
structure Sure (sound : σ → Prop) (step : Remembering σ α) (result : α → Prop) : Prop where
  steady : Steady sound step result
  ends : Meets sound step (fun _ => True) Fault.Final

section

variable {result result' : α → Prop} {onward : β → Prop} {step : Remembering σ α}

theorem Always.sure {value : α} (given : Always kept step value) (holds : result value) :
    Sure kept step result :=
  ⟨given.steady holds, given.mono (fun _ _ => trivial) fun _ never => never.elim⟩

/-- A steady step is sure when it ends, whatever it is started with. -/
theorem Steady.sure (steady : Steady kept step result)
    (ends : Meets (fun _ => True) step (fun _ => True) Fault.Final) : Sure kept step result :=
  ⟨steady, fun memory start => ⟨(steady.keeps memory start).1, (ends memory trivial).2⟩⟩

theorem sure_pure {value : α} (holds : result value) :
    Sure kept (pure value : Remembering σ α) result :=
  (always_pure value).sure holds

theorem sure_lift {outcome : Except Fault α}
    (ends : Outcome.Meets outcome (fun _ => True) Fault.Final) :
    Sure kept (lift outcome : Remembering σ α) (outcome = .ok ·) :=
  ⟨steady_lift outcome, meets_lift ends⟩

theorem Sure.bind {next : α → Remembering σ β} (sure : Sure kept step result)
    (then_ : ∀ value, result value → Sure kept (next value) onward) :
    Sure kept (step >>= next) onward := by
  refine ⟨sure.steady.bind fun value holds => (then_ value holds).steady, ?_⟩
  obtain ⟨answer, holds, meets⟩ := sure.steady
  intro memory start
  obtain ⟨kept, outcome⟩ := meets memory start
  have final := (sure.ends memory start).2
  rw [bind_apply]
  rcases run : step memory with ⟨fault | value, after⟩
  · rw [run] at kept final
    exact ⟨kept, final⟩
  · rw [run] at kept outcome
    exact (then_ value (holds value outcome)).ends after kept

/-- What the memory that a step is tried with at first makes of it, it always gives. -/
theorem Sure.given (sure : Sure kept step result) {memory : σ} (start : kept memory) :
    Sure kept step fun value => (step memory).1 = .ok value :=
  ⟨sure.steady.given start, sure.ends⟩

end

end Work

end ClassAtlas

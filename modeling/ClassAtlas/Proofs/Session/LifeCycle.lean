import ClassAtlas.Proofs.Session.Interleaving

/-!
# The life cycle of a shared session

Starting and finishing to prepare a session are two moments, and a failed run replaces the type
system without a new generation.  The generations keep order all the same.  At any moment at most
one run under way carries the generation of the session, and one does exactly while the session is
indexing.  That run started on the type system that the session still holds, so the index it brings
belongs to that type system when it is installed.

A session keeps its state, its index and the origin of the index apart, and nothing in a session
forces them to fit.  A run that fails writes the state only; it leaves no index behind because there
was none while it ran.  So that a session is ready exactly when an index is installed
(`Session.Consistent`) is a part of the invariant, like everything else here.

The invariant is `Sound`.  Every event keeps it (`Sound.step`), so it holds in every reachable state
(`sound_after`), and `life_cycle` reads off what users of a session rely on.
-/

set_option autoImplicit false

namespace ClassAtlas

/-- Two memories of one type system: they differ at most in names and packages, which belong to the
tables. -/
structure Memory.SameSystem (left right : Memory) : Prop where
  maps : left.maps = right.maps
  texts : left.texts = right.texts
  found : left.found = right.found
  partitions : left.partitions = right.partitions

theorem Memory.SameSystem.refl (memory : Memory) : memory.SameSystem memory :=
  ⟨rfl, rfl, rfl, rfl⟩

theorem Memory.SameSystem.trans {first second third : Memory} (left : first.SameSystem second)
    (right : second.SameSystem third) : first.SameSystem third :=
  ⟨left.maps.trans right.maps, left.texts.trans right.texts, left.found.trans right.found,
    left.partitions.trans right.partitions⟩

namespace Session

/-- A session that is ready exactly when an index is installed, and that remembers an index as
restored only when there is one. -/
structure Consistent (session : Session) : Prop where
  ready_iff : session.state = .ready ↔ session.index?.isSome
  unmarked : session.index? = none → session.loadedFromCache = false

namespace Consistent

variable {session : Session}

theorem of_none (state : session.state ≠ .ready) (index : session.index? = none)
    (unmarked : session.loadedFromCache = false) : session.Consistent :=
  ⟨⟨fun ready => absurd ready state, fun some => by rw [index] at some; cases some⟩,
    fun _ => unmarked⟩

theorem of_some {index : Index} (state : session.state = .ready)
    (installed : session.index? = some index) : session.Consistent :=
  ⟨⟨fun _ => by rw [installed]; rfl, fun _ => state⟩,
    fun none => by rw [installed] at none; cases none⟩

/-- A session that is not ready has no index. -/
theorem index?_eq_none (consistent : session.Consistent) (state : session.state ≠ .ready) :
    session.index? = none :=
  Option.not_isSome_iff_eq_none.1 (state ∘ consistent.ready_iff.2)

end Consistent

/-- Asking for the index needs both, the state and the index. -/
theorem ready_eq_ok_iff {session : Session} {prepared : Prepared} :
    session.ready = .ok prepared ↔ session.state = .ready ∧ ∃ index,
      session.index? = some index ∧ prepared = ⟨session.atlas, index, session.loadedFromCache⟩ := by
  unfold ready
  split
  · next state installed => simp [state, installed, eq_comm]
  · next refused =>
    refine ⟨nofun, ?_⟩
    rintro ⟨state, index, installed, -⟩
    exact absurd installed (refused index state)

end Session

/-- An index that was restored or built in the memory that the session holds. -/
def Session.Computed (session : Session) (index : Index) (loadedFromCache : Bool) : Prop :=
  ∃ restored before after,
    Desk.restoreOrBuild session.atlas restored before = (.ok (index, loadedFromCache), after) ∧
      session.memory.SameSystem after

/-- A step of a worker: it changes nothing of a session but its memory. -/
structure Desk.Keeps (earlier later : Desk) : Prop where
  atlas : later.session.atlas = earlier.session.atlas
  generation : later.session.generation = earlier.session.generation
  state : later.session.state = earlier.session.state
  index? : later.session.index? = earlier.session.index?
  loadedFromCache : later.session.loadedFromCache = earlier.session.loadedFromCache

theorem Session.Computed.keep {earlier later : Desk} {index : Index} {loadedFromCache : Bool}
    (computed : earlier.session.Computed index loadedFromCache) (kept : earlier.Keeps later)
    (same : later.session.memory.SameSystem earlier.session.memory) :
    later.session.Computed index loadedFromCache := by
  obtain ⟨restored, before, after, outcome, memory⟩ := computed
  exact ⟨restored, before, after, by rw [kept.atlas]; exact outcome, same.trans memory⟩

theorem Session.Consistent.keep {earlier later : Desk} (consistent : earlier.session.Consistent)
    (kept : earlier.Keeps later) : later.session.Consistent := by
  constructor
  · rw [kept.state, kept.index?]
    exact consistent.ready_iff
  · rw [kept.index?, kept.loadedFromCache]
    exact consistent.unmarked

/-! ## What the parts of a call do to a session -/

namespace Desk

/-- A run starts on an empty session only; otherwise nothing changes. -/
theorem start_cases (desk : Desk) :
    (desk.session.state = .empty ∧
      desk.start = (.ok (.inl ⟨desk.session.generation⟩),
        { desk with session := { desk.session with state := .indexing } })) ∨
    (desk.session.state ≠ .empty ∧ desk.start.2 = desk ∧ ∀ run, desk.start.1 ≠ .ok (.inl run)) := by
  cases standing : desk.session.state with
  | empty => exact .inl ⟨rfl, by simp only [start, standing]⟩
  | indexing =>
    refine .inr ⟨by simp, by simp only [start, standing], fun run => ?_⟩
    simp [start, standing]
  | ready =>
    refine .inr ⟨by simp, by simp only [start, standing], fun run => ?_⟩
    simp only [start, standing]
    cases desk.session.stats <;> simp [Except.map]

theorem perform_keeps (desk : Desk) (run : Run) : desk.Keeps (desk.perform run).2 :=
  ⟨rfl, rfl, rfl, rfl, rfl⟩

theorem breakDown_keeps (desk : Desk) (run : Run) (left : Memory) :
    desk.Keeps (desk.breakDown run left) :=
  ⟨rfl, rfl, rfl, rfl, rfl⟩

/-- A current run works in the memory of the session. -/
theorem perform_current {desk : Desk} {run : Run}
    (current : run.generation = desk.session.generation) :
    ∃ restored stored,
      let worked := restoreOrBuild desk.session.atlas restored desk.session.memory
      desk.perform run = (worked.1, ⟨{ desk.session with memory := worked.2 }, stored⟩) := by
  cases source : desk.session.source with
  | none =>
    refine ⟨none, desk.stored, ?_⟩
    simp only [perform, source, if_pos current]
    rfl
  | some text =>
    refine ⟨(StoredFile.load text desk.stored).1, (StoredFile.load text desk.stored).2, ?_⟩
    simp only [perform, source, if_pos current]
    rfl

/-- A current run that succeeds leaves the memory in which its index was computed. -/
theorem perform_computed {desk : Desk} {run : Run} {index : Index} {loadedFromCache : Bool}
    (current : run.generation = desk.session.generation)
    (success : (desk.perform run).1 = .ok (index, loadedFromCache)) :
    (desk.perform run).2.session.Computed index loadedFromCache := by
  obtain ⟨restored, stored, performed⟩ := perform_current current
  rw [performed] at success ⊢
  exact ⟨restored, desk.session.memory, _, Prod.ext success rfl, .refl _⟩

/-- A run of an older generation leaves the type system of the session alone. -/
theorem perform_sameSystem {desk : Desk} {run : Run}
    (stale : run.generation ≠ desk.session.generation) :
    (desk.perform run).2.session.memory.SameSystem desk.session.memory := by
  simp only [perform, if_neg stale]
  exact ⟨rfl, rfl, rfl, rfl⟩

theorem breakDown_sameSystem {desk : Desk} {run : Run} {left : Memory}
    (stale : run.generation ≠ desk.session.generation) :
    (desk.breakDown run left).session.memory.SameSystem desk.session.memory := by
  simp only [breakDown, if_neg stale]
  exact ⟨rfl, rfl, rfl, rfl⟩

/-- A run of an older generation is refused and changes nothing. -/
theorem finish_stale {desk : Desk} {run : Run} (outcome : Except Fault (Index × Bool))
    (stale : run.generation ≠ desk.session.generation) :
    desk.finish run outcome = (.error (.notReady desk.session.state), desk) := by
  simp only [finish, if_pos stale]

/-- A current run that succeeded makes the session ready with its index. -/
theorem finish_success {desk : Desk} {run : Run} (index : Index) (loadedFromCache : Bool)
    (current : run.generation = desk.session.generation) :
    (desk.finish run (.ok (index, loadedFromCache))).2 =
      { desk with
        session :=
          { desk.session with state := .ready, index? := some index, loadedFromCache } } := by
  simp only [finish, ne_eq, current, not_true_eq_false, if_false]

/-- A current run that failed leaves an empty session with a new type system, and the index as it
was. -/
theorem finish_failure {desk : Desk} {run : Run} (fault : Fault)
    (current : run.generation = desk.session.generation) :
    desk.finish run (.error fault) =
      (.error fault, { desk with
        session := { desk.session with
          state := .empty, memory := desk.session.memory.renew } }) := by
  simp only [finish, ne_eq, current, not_true_eq_false, if_false]

end Desk

/-! ## The invariant -/

namespace Life

/-- An index of the session that was brought by a run which started on the type system of the
session, after the latest reset, and that was computed in the memory of this type system. -/
structure Installed (life : Life) (index : Index) : Prop where
  origin : ∃ origin, life.origin = some origin ∧
    origin.result = some (.ok (index, life.desk.session.loadedFromCache)) ∧
    origin.system = life.system ∧ origin.resets = life.resets
  computed : life.desk.session.Computed index life.desk.session.loadedFromCache

/-- What every reachable state of a shared session keeps. -/
structure Sound (life : Life) : Prop where
  /-- The session is ready exactly when an index is installed. -/
  consistent : life.desk.session.Consistent
  /-- No run is ahead of the session. -/
  notAhead : ∀ caller pending, life.pending caller = some pending →
    pending.run.generation ≤ life.desk.session.generation
  /-- At most one run carries the generation of the session. -/
  unique : ∀ first second, life.RunsNow first → life.RunsNow second → first = second
  /-- One does exactly while the session is indexing. -/
  indexing : life.desk.session.state = .indexing ↔ ∃ caller, life.RunsNow caller
  /-- It started on the type system of the session, after the latest reset. -/
  started : ∀ caller pending, life.pending caller = some pending → life.IsCurrent pending.run →
    pending.system = life.system ∧ pending.resets = life.resets
  /-- What it brings was computed in the memory of the session. -/
  computed : ∀ caller pending index loadedFromCache, life.pending caller = some pending →
    life.IsCurrent pending.run → pending.result = some (.ok (index, loadedFromCache)) →
    life.desk.session.Computed index loadedFromCache
  /-- So was the index that is installed, by a run of the same kind. -/
  installed : ∀ index, life.desk.session.index? = some index → life.Installed index

theorem put_pending (life : Life) (caller other : Nat) (pending : Option Pending) :
    (life.put caller pending).pending other =
      if other = caller then pending else life.pending other := by
  simp only [put, Function.update_apply]

/-- A session without a run of its generation, which is not indexing either. -/
theorem sound_of_idle {life : Life} (consistent : life.desk.session.Consistent)
    (notAhead : ∀ caller pending, life.pending caller = some pending →
      pending.run.generation ≤ life.desk.session.generation)
    (stale : ∀ caller pending, life.pending caller = some pending → ¬ life.IsCurrent pending.run)
    (standing : life.desk.session.state ≠ .indexing)
    (installed : ∀ index, life.desk.session.index? = some index → life.Installed index) :
    life.Sound where
  consistent := consistent
  notAhead := notAhead
  unique := fun first _ ⟨pending, held, current⟩ _ => absurd current (stale first pending held)
  indexing := ⟨fun indexing => absurd indexing standing,
    fun ⟨caller, pending, held, current⟩ => absurd current (stale caller pending held)⟩
  started := fun caller pending held current => absurd current (stale caller pending held)
  computed := fun caller pending _ _ held current _ => absurd current (stale caller pending held)
  installed := installed

/-- A session that is indexing, with one run of its generation. -/
theorem sound_of_single {life : Life} (caller : Nat) {mine : Pending}
    (consistent : life.desk.session.Consistent)
    (notAhead : ∀ other pending, life.pending other = some pending →
      pending.run.generation ≤ life.desk.session.generation)
    (held : life.pending caller = some mine) (current : life.IsCurrent mine.run)
    (only : ∀ other pending, life.pending other = some pending → life.IsCurrent pending.run →
      other = caller)
    (standing : life.desk.session.state = .indexing)
    (started : mine.system = life.system ∧ mine.resets = life.resets)
    (computed : ∀ index loadedFromCache, mine.result = some (.ok (index, loadedFromCache)) →
      life.desk.session.Computed index loadedFromCache) : life.Sound := by
  have same : ∀ other pending, life.pending other = some pending →
      life.IsCurrent pending.run → pending = mine := by
    intro other pending found now
    rw [only other pending found now, held] at found
    exact (Option.some.inj found).symm
  have bare : life.desk.session.index? = none :=
    consistent.index?_eq_none (by rw [standing]; rintro ⟨⟩)
  refine ⟨consistent, notAhead, ?_, ⟨fun _ => ⟨caller, mine, held, current⟩, fun _ => standing⟩,
    ?_, ?_, ?_⟩
  · rintro first second ⟨_, firstHeld, firstNow⟩ ⟨_, secondHeld, secondNow⟩
    rw [only first _ firstHeld firstNow, only second _ secondHeld secondNow]
  · intro other pending found now
    rw [same other pending found now]
    exact started
  · intro other pending index loadedFromCache found now
    rw [same other pending found now]
    exact computed index loadedFromCache
  · intro index installed
    cases bare.symm.trans installed

theorem sound_opened (config : Config) (snapshot : Snapshot) (source : Option String)
    (stored : Option StoredFile) : (opened config snapshot source stored).Sound :=
  sound_of_idle (.of_none (by rintro ⟨⟩) rfl rfl) (by rintro _ _ ⟨⟩) (by rintro _ _ ⟨⟩)
    (by rintro ⟨⟩) (by rintro _ ⟨⟩)

namespace Sound

variable {life : Life} (sound : life.Sound)
include sound

/-- While the session is not indexing, no run carries its generation. -/
theorem stale_of_state (standing : life.desk.session.state ≠ .indexing) (caller : Nat)
    (pending : Pending) (held : life.pending caller = some pending) :
    ¬ life.IsCurrent pending.run :=
  fun current => standing (sound.indexing.2 ⟨caller, pending, held, current⟩)

/-- While a run carries the generation of the session, the session is indexing. -/
theorem state_of_current {caller : Nat} {pending : Pending}
    (held : life.pending caller = some pending) (current : life.IsCurrent pending.run) :
    life.desk.session.state = .indexing :=
  sound.indexing.2 ⟨caller, pending, held, current⟩

/-- Then no index is installed. -/
theorem bare_of_current {caller : Nat} {pending : Pending}
    (held : life.pending caller = some pending) (current : life.IsCurrent pending.run) :
    life.desk.session.index? = none :=
  sound.consistent.index?_eq_none (by rw [sound.state_of_current held current]; rintro ⟨⟩)

theorem start (caller : Nat) : (life.start caller).Sound := by
  rcases life.desk.start_cases with ⟨empty, granted⟩ | ⟨_, kept, refused⟩
  · have stale := sound.stale_of_state (by rw [empty]; rintro ⟨⟩)
    have bare := sound.consistent.index?_eq_none (by rw [empty]; rintro ⟨⟩)
    have begun : life.start caller = { life with desk := { life.desk with
        session := { life.desk.session with state := .indexing } } }.put caller
          (some ⟨⟨life.desk.session.generation⟩, life.system, life.resets, none⟩) := by
      simp only [Life.start, granted]
    rw [begun]
    refine sound_of_single caller (.of_none (by rintro ⟨⟩) bare (sound.consistent.unmarked bare)) ?_
      ((put_pending ..).trans (if_pos rfl)) rfl ?_ rfl ⟨rfl, rfl⟩ (by rintro _ _ ⟨⟩)
    · intro other pending held
      rw [put_pending] at held
      split at held
      · cases held
        exact Nat.le_refl _
      · exact sound.notAhead other pending held
    · intro other pending held current
      rw [put_pending] at held
      split at held
      · assumption
      · exact absurd current (stale other pending held)
  · have same : life.start caller = life := by
      unfold Life.start
      split
      · next run desk started => exact absurd (congrArg Prod.fst started) (refused run)
      · next answer desk _ started =>
        have unchanged : desk = life.desk := (congrArg Prod.snd started).symm.trans kept
        rw [unchanged]
    rw [same]
    exact sound

/-- A change that leaves the runs of the present generation and the type system alone. -/
theorem transfer {next : Life} (kept : life.desk.Keeps next.desk)
    (memory : next.desk.session.memory.SameSystem life.desk.session.memory)
    (system : next.system = life.system) (resets : next.resets = life.resets)
    (origin : next.origin = life.origin)
    (runs : ∀ caller pending, life.IsCurrent pending.run →
      (next.pending caller = some pending ↔ life.pending caller = some pending))
    (notAhead : ∀ caller pending, next.pending caller = some pending →
      pending.run.generation ≤ life.desk.session.generation) : next.Sound := by
  have current : ∀ run, next.IsCurrent run ↔ life.IsCurrent run := fun run => by
    rw [IsCurrent, IsCurrent, kept.generation]
  have runsNow : ∀ caller, next.RunsNow caller ↔ life.RunsNow caller := fun caller =>
    exists_congr fun pending => by
      rw [current]
      exact and_congr_left (runs caller pending)
  have back : ∀ caller pending, next.pending caller = some pending → next.IsCurrent pending.run →
      life.pending caller = some pending ∧ life.IsCurrent pending.run :=
    fun caller pending held now =>
      ⟨(runs caller pending ((current _).1 now)).1 held, (current _).1 now⟩
  refine ⟨sound.consistent.keep kept, ?_, ?_, ?_, ?_, ?_, ?_⟩
  · rw [kept.generation]
    exact notAhead
  · intro first second firstNow secondNow
    exact sound.unique first second ((runsNow first).1 firstNow) ((runsNow second).1 secondNow)
  · rw [kept.state, sound.indexing]
    exact exists_congr fun caller => (runsNow caller).symm
  · intro caller pending held now
    obtain ⟨held, now⟩ := back caller pending held now
    rw [system, resets]
    exact sound.started caller pending held now
  · intro caller pending index loadedFromCache held now result
    obtain ⟨held, now⟩ := back caller pending held now
    exact (sound.computed caller pending index loadedFromCache held now result).keep kept memory
  · intro index standing
    rw [kept.index?] at standing
    obtain ⟨started, computed⟩ := sound.installed index standing
    constructor
    · rw [origin, system, resets, kept.loadedFromCache]
      exact started
    · rw [kept.loadedFromCache]
      exact computed.keep kept memory

/-- Replacing a run of an older generation, by another one or by none, leaves the others alone. -/
theorem put_stale {caller : Nat} {pending : Pending} {replacement : Option Pending} {desk : Desk}
    (held : life.pending caller = some pending) (stale : ¬ life.IsCurrent pending.run)
    (same : ∀ other, replacement = some other → other.run = pending.run)
    (kept : life.desk.Keeps desk)
    (memory : desk.session.memory.SameSystem life.desk.session.memory) :
    ({ life with desk := desk }.put caller replacement).Sound := by
  refine sound.transfer kept memory rfl rfl rfl ?_ ?_
  · intro other found current
    rw [put_pending]
    split
    · next here =>
      subst here
      rw [held]
      constructor
      · intro replaced
        rw [same found replaced] at current
        exact absurd current stale
      · intro found
        cases found
        exact absurd current stale
    · exact Iff.rfl
  · intro other found present
    rw [put_pending] at present
    split at present
    · rw [same found present]
      exact sound.notAhead caller pending held
    · exact sound.notAhead other found present

/-- A worker brings its result: the session keeps its standing, and its type system changes only if
the run is current. -/
theorem deliver {caller : Nat} {pending : Pending} {desk : Desk}
    {outcome : Except Fault (Index × Bool)} (held : life.pending caller = some pending)
    (kept : life.desk.Keeps desk)
    (fresh : life.IsCurrent pending.run → ∀ index loadedFromCache,
      outcome = .ok (index, loadedFromCache) → desk.session.Computed index loadedFromCache)
    (apart : ¬ life.IsCurrent pending.run →
      desk.session.memory.SameSystem life.desk.session.memory) :
    ({ life with desk := desk }.put caller
      (some { pending with result := some outcome })).Sound := by
  by_cases current : life.IsCurrent pending.run
  · have generation : ∀ run, run.generation = desk.session.generation → life.IsCurrent run :=
      fun run now => now.trans kept.generation
    refine sound_of_single caller (sound.consistent.keep kept) ?_
      ((put_pending ..).trans (if_pos rfl)) (current.trans kept.generation.symm) ?_
      (kept.state.trans (sound.state_of_current held current))
      (sound.started caller pending held current)
      (fun index loadedFromCache result =>
        fresh current index loadedFromCache (Option.some.inj result))
    · intro other found present
      show found.run.generation ≤ desk.session.generation
      rw [put_pending] at present
      rw [kept.generation]
      split at present
      · cases present
        exact sound.notAhead caller pending held
      · exact sound.notAhead other found present
    · intro other found present now
      rw [put_pending] at present
      split at present
      · assumption
      · exact sound.unique other caller ⟨found, present, generation _ now⟩ ⟨pending, held, current⟩
  · exact sound.put_stale held current (by rintro other ⟨⟩; rfl) kept (apart current)

theorem work {caller : Nat} {pending : Pending} (held : life.pending caller = some pending) :
    (life.work caller pending).Sound :=
  sound.deliver held (life.desk.perform_keeps pending.run)
    (fun current _ _ success => Desk.perform_computed current success)
    (fun stale => Desk.perform_sameSystem stale)

theorem breakDown {caller : Nat} {pending : Pending} (held : life.pending caller = some pending)
    (fault : Fault) (left : Memory) : (life.breakDown caller pending fault left).Sound :=
  sound.deliver held (life.desk.breakDown_keeps pending.run left)
    (fun _ _ _ success => by cases success)
    (fun stale => Desk.breakDown_sameSystem stale)

theorem finish {caller : Nat} {pending : Pending} {outcome : Except Fault (Index × Bool)}
    (held : life.pending caller = some pending) (result : pending.result = some outcome) :
    (life.finish caller pending outcome).Sound := by
  by_cases current : life.IsCurrent pending.run
  · -- The finished run was the only one of its generation.
    have stale : ∀ other found, (if other = caller then none else life.pending other) = some found →
        life.pending other = some found ∧ ¬ life.IsCurrent found.run := by
      intro other found present
      split at present
      · cases present
      · next differs =>
        exact ⟨present, fun now =>
          differs (sound.unique other caller ⟨found, present, now⟩ ⟨pending, held, current⟩)⟩
    simp only [Life.finish, if_pos current]
    cases outcome with
    | ok brought =>
      obtain ⟨index, loadedFromCache⟩ := brought
      simp only [Desk.finish_success index loadedFromCache current]
      refine sound_of_idle (.of_some rfl rfl) ?_ ?_ (by rintro ⟨⟩) ?_
      · intro other found present
        exact sound.notAhead other found (stale other found (put_pending .. ▸ present)).1
      · intro other found present
        exact (stale other found (put_pending .. ▸ present)).2
      · rintro _ ⟨⟩
        exact ⟨⟨pending, rfl, result, sound.started caller pending held current⟩,
          sound.computed caller pending index loadedFromCache held current result⟩
    | error fault =>
      -- The run left the index alone, and there was none while it ran.
      have bare := sound.bare_of_current held current
      simp only [Desk.finish_failure fault current]
      refine sound_of_idle (.of_none (by rintro ⟨⟩) bare (sound.consistent.unmarked bare)) ?_ ?_
        (by rintro ⟨⟩) fun index installed => nomatch bare.symm.trans installed
      · intro other found present
        exact sound.notAhead other found (stale other found (put_pending .. ▸ present)).1
      · intro other found present
        exact (stale other found (put_pending .. ▸ present)).2
  · simp only [Life.finish, if_neg current, Desk.finish_stale outcome current]
    exact sound.put_stale held current (by rintro other ⟨⟩) ⟨rfl, rfl, rfl, rfl, rfl⟩ (.refl _)

/-- A session that was reset is ahead of every run under way. -/
theorem restart {desk : Desk} (generation : desk.session.generation =
      life.desk.session.generation + 1) (empty : desk.session.state = .empty)
    (bare : desk.session.index? = none) (unmarked : desk.session.loadedFromCache = false) :
    (life.restart desk).Sound := by
  have behind : ∀ caller pending, life.pending caller = some pending →
      pending.run.generation < desk.session.generation := by
    intro caller pending held
    have := sound.notAhead caller pending held
    omega
  have idle : ∀ state, state ≠ .empty → desk.session.state ≠ state := by
    rintro state other rfl
    exact other empty
  exact sound_of_idle (.of_none (idle _ (by rintro ⟨⟩)) bare unmarked)
    (fun caller pending held => Nat.le_of_lt (behind caller pending held))
    (fun caller pending held => Nat.ne_of_lt (behind caller pending held))
    (idle _ (by rintro ⟨⟩)) fun index installed => nomatch bare.symm.trans installed

/-- Every event keeps the invariant. -/
theorem step (event : Event) : (life.step event).Sound := by
  cases event with
  | start caller =>
    simp only [Life.step]
    split
    · exact sound.start caller
    · exact sound
  | work caller =>
    simp only [Life.step]
    split
    · next held => exact sound.work held
    · exact sound
  | breakDown caller fault left =>
    simp only [Life.step]
    split
    · next held => exact sound.breakDown held fault left
    · exact sound
  | finish caller =>
    simp only [Life.step]
    split
    · next held => exact sound.finish held rfl
    · exact sound
  | reset => exact sound.restart rfl rfl rfl rfl
  | clearSaved => exact sound.restart rfl rfl rfl rfl
  | ready => exact sound

end Sound

/-- **Every reachable state of a shared session is sound.** -/
theorem sound_after {life : Life} (sound : life.Sound) (events : List Event) :
    (life.after events).Sound := by
  induction events generalizing life with
  | nil => exact sound
  | cons event events ih => exact ih (sound.step event)

end Life

/-- In a consistent session, asking for the index succeeds exactly when the session is ready. -/
theorem Session.Consistent.ready_isOk_iff {session : Session} (consistent : session.Consistent) :
    (∃ prepared, session.ready = .ok prepared) ↔ session.state = .ready := by
  constructor
  · rintro ⟨prepared, answered⟩
    exact (ready_eq_ok_iff.1 answered).1
  · intro ready
    obtain ⟨index, installed⟩ := Option.isSome_iff_exists.1 (consistent.ready_iff.1 ready)
    exact ⟨_, ready_eq_ok_iff.2 ⟨ready, index, installed, rfl⟩⟩

/-- **The life cycle of a shared session**, whatever the order of events since it was opened.

It is ready exactly when an index is installed.  It is indexing exactly when one run under way
carries its generation, and there is never more than one such run.  An installed index was brought
by a run that started after the latest reset and on the type system that the session holds, and it
was computed in the memory of that type system.  A run of an older generation is refused with the
state of the moment and changes nothing; a run of the present generation that failed leaves an empty
session with nothing remembered of its types.  Asking for the index succeeds exactly in a ready
session. -/
theorem life_cycle (config : Config) (snapshot : Snapshot) (source : Option String)
    (stored : Option StoredFile) (events : List Event) :
    let life := (Life.opened config snapshot source stored).after events
    let session := life.desk.session
    (session.state = .ready ↔ session.index?.isSome) ∧
    (session.state = .indexing ↔ ∃! caller, life.RunsNow caller) ∧
    (∀ first second, life.RunsNow first → life.RunsNow second → first = second) ∧
    (∀ index, session.index? = some index → ∃ origin, life.origin = some origin ∧
      origin.result = some (.ok (index, session.loadedFromCache)) ∧
      origin.resets = life.resets ∧ origin.system = life.system ∧
      session.Computed index session.loadedFromCache) ∧
    (∀ caller pending outcome, life.pending caller = some pending → ¬ life.IsCurrent pending.run →
      life.desk.finish pending.run outcome = (.error (.notReady session.state), life.desk)) ∧
    (∀ caller pending fault, life.pending caller = some pending → life.IsCurrent pending.run →
      ∃ failed, life.desk.finish pending.run (.error fault) = (.error fault, failed) ∧
        failed.session.state = .empty ∧ failed.session.index? = none ∧
        failed.session.memory.SameSystem Memory.empty) ∧
    ((∃ prepared, session.ready = .ok prepared) ↔ session.state = .ready) := by
  intro life session
  have sound : life.Sound :=
    Life.sound_after (Life.sound_opened config snapshot source stored) events
  refine ⟨sound.consistent.ready_iff, ?_, sound.unique, ?_, ?_, ?_,
    sound.consistent.ready_isOk_iff⟩
  · rw [sound.indexing]
    constructor
    · rintro ⟨caller, now⟩
      exact ⟨caller, now, fun other otherNow => sound.unique other caller otherNow now⟩
    · exact ExistsUnique.exists
  · intro index installed
    obtain ⟨⟨origin, brought, result, system, resets⟩, computed⟩ := sound.installed index installed
    exact ⟨origin, brought, result, resets, system, computed⟩
  · intro caller pending outcome _ stale
    exact Desk.finish_stale outcome stale
  · intro caller pending fault held current
    exact ⟨_, Desk.finish_failure fault current, rfl, sound.bare_of_current held current,
      rfl, rfl, rfl, rfl⟩

/-- A reset outdates a run under way, and the next one starts beside it. -/
example (config : Config) (source : Option String) (stored : Option StoredFile) :
    let life := (Life.opened config .empty source stored).after [.start 0, .reset, .start 1]
    life.desk.session.state = .indexing ∧
      (life.pending 0).map (fun pending => pending.run.generation) = some 0 ∧
      (life.pending 1).map (fun pending => pending.run.generation) = some 1 :=
  ⟨rfl, rfl, rfl⟩

end ClassAtlas

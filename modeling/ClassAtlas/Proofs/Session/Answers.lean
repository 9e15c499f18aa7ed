import ClassAtlas.Proofs.Outcome
import ClassAtlas.Proofs.Session.LifeCycle

/-!
# What a call answers and what it leaves

A call that prepares a session is answered at once by a ready session, or else by the finish of the
run that it was granted.  Unless the session is reset in between, a run that finishes still belongs
to the session (`after_generation`), so it is taken over.

The numbers with which a call is answered count the bindings of the snapshot, and these are read
only when the index is installed already.  So the answer and the session agree exactly when all
bindings can be read (`prepare_answers`): a binding that cannot be read lets every call fail, and
the session is ready all the same (`prepare_strayBinding`).
-/

set_option autoImplicit false

namespace ClassAtlas

/-- Whether an event resets the session. -/
def Event.IsReset : Event → Prop
  | .reset => True
  | .clearSaved => True
  | _ => False

namespace Desk

/-- Starting a run leaves the snapshot and the generation as they are. -/
theorem start_keeps (desk : Desk) :
    desk.start.2.session.atlas = desk.session.atlas ∧
      desk.start.2.session.generation = desk.session.generation := by
  rcases desk.start_cases with ⟨_, granted⟩ | ⟨_, kept, _⟩
  · rw [granted]
    exact ⟨rfl, rfl⟩
  · rw [kept]
    exact ⟨rfl, rfl⟩

/-- Finishing a run changes where a session stands and what it remembers, nothing else. -/
theorem finish_keeps (desk : Desk) (run : Run) (outcome : Except Fault (Index × Bool)) :
    (desk.finish run outcome).2.session.atlas = desk.session.atlas ∧
      (desk.finish run outcome).2.session.generation = desk.session.generation := by
  by_cases current : run.generation = desk.session.generation
  · rcases outcome with fault | ⟨index, loadedFromCache⟩
    · rw [finish_failure fault current]
      exact ⟨rfl, rfl⟩
    · rw [finish_success index loadedFromCache current]
      exact ⟨rfl, rfl⟩
  · rw [finish_stale outcome current]
    exact ⟨rfl, rfl⟩

/-- A ready session answers with its numbers, and nothing changes. -/
theorem start_ready {desk : Desk} (ready : desk.session.state = .ready) :
    desk.start = (desk.session.stats.map .inr, desk) := by
  simp only [start, ready]

/-- A current run that succeeded is answered with the numbers of the session it makes ready. -/
theorem finish_success_answer {desk : Desk} {run : Run} (index : Index) (loadedFromCache : Bool)
    (current : run.generation = desk.session.generation) :
    (desk.finish run (.ok (index, loadedFromCache))).1 =
      (desk.finish run (.ok (index, loadedFromCache))).2.session.stats := by
  simp only [finish, ne_eq, current, not_true_eq_false, if_false]

end Desk

namespace Session

theorem stats_of_installed {session : Session} {index : Index} (ready : session.state = .ready)
    (installed : session.index? = some index) :
    session.stats = Prepared.stats ⟨session.atlas, index, session.loadedFromCache⟩ := by
  rw [stats, ready_eq_ok_iff.2 ⟨ready, index, installed, rfl⟩]
  rfl

/-- A session that is ready with an index has numbers when its bindings can be read, and otherwise
their fault. -/
theorem stats_of_ready {session : Session} (ready : session.state = .ready)
    (installed : session.index?.isSome) :
    (∀ bindings, session.atlas.tables.readBindings = .ok bindings →
      ∃ stats, session.stats = .ok stats) ∧
    ∀ fault, session.atlas.tables.readBindings = .error fault → session.stats = .error fault := by
  obtain ⟨index, installed⟩ := Option.isSome_iff_exists.1 installed
  rw [stats_of_installed ready installed]
  constructor
  · intro bindings read
    exact ⟨_, Outcome.bind_eq_ok.2 ⟨bindings, read, rfl⟩⟩
  · intro fault unread
    rw [Prepared.stats, unread]
    rfl

end Session

namespace Life

variable {life : Life} {caller : Nat}

/-! ## What events leave alone -/

theorem start_desk (life : Life) (caller : Nat) : (life.start caller).desk = life.desk.start.2 := by
  unfold start
  split
  · next started =>
    rw [started]
    rfl
  · next started =>
    rw [started]

theorem finish_desk (life : Life) (caller : Nat) (pending : Pending)
    (outcome : Except Fault (Index × Bool)) :
    (life.finish caller pending outcome).desk = (life.desk.finish pending.run outcome).2 := by
  unfold finish
  split
  · cases outcome <;> rfl
  · rfl

/-- No event exchanges the snapshot of a session, and only a reset gives the session a new
generation. -/
theorem step_keeps (life : Life) (event : Event) :
    (life.step event).desk.session.atlas = life.desk.session.atlas ∧
      (¬event.IsReset →
        (life.step event).desk.session.generation = life.desk.session.generation) := by
  cases event with
  | start caller =>
    simp only [step]
    split
    · rw [start_desk]
      exact ⟨(Desk.start_keeps _).1, fun _ => (Desk.start_keeps _).2⟩
    · exact ⟨rfl, fun _ => rfl⟩
  | finish caller =>
    simp only [step]
    split
    · rw [finish_desk]
      exact ⟨(Desk.finish_keeps ..).1, fun _ => (Desk.finish_keeps ..).2⟩
    · exact ⟨rfl, fun _ => rfl⟩
  | work caller | breakDown caller =>
    simp only [step]
    split <;> exact ⟨rfl, fun _ => rfl⟩
  | reset | clearSaved => exact ⟨rfl, fun calm => absurd trivial calm⟩
  | ready => exact ⟨rfl, fun _ => rfl⟩

theorem after_atlas (life : Life) (events : List Event) :
    (life.after events).desk.session.atlas = life.desk.session.atlas := by
  induction events generalizing life with
  | nil => rfl
  | cons event events ih => exact (ih (life.step event)).trans (life.step_keeps event).1

theorem after_generation (life : Life) {events : List Event}
    (calm : ∀ event ∈ events, ¬event.IsReset) :
    (life.after events).desk.session.generation = life.desk.session.generation := by
  induction events generalizing life with
  | nil => rfl
  | cons event events ih =>
    obtain ⟨here, there⟩ := List.forall_mem_cons.1 calm
    exact (ih (life.step event) there).trans ((life.step_keeps event).2 here)

/-- Something that is put in the place of a call leaves every call its run, if it has the run of the
call whose place it takes. -/
theorem put_run {pending : Pending} (held : life.pending caller = some pending) {changed : Life}
    (same : changed.pending = life.pending) (someone : Nat) (brought : Pending)
    (run : someone = caller → brought.run = pending.run) :
    ∃ pending', (changed.put someone (some brought)).pending caller = some pending' ∧
      pending'.run = pending.run := by
  rw [put_pending]
  split
  · next mine => exact ⟨brought, rfl, run mine.symm⟩
  · exact ⟨pending, same ▸ held, rfl⟩

/-- The finish of a call leaves the other calls as they are. -/
theorem finish_pending_of_ne {someone : Nat} (other : caller ≠ someone) (finished : Pending)
    (outcome : Except Fault (Index × Bool)) :
    (life.finish someone finished outcome).pending caller = life.pending caller := by
  unfold finish
  split
  · cases outcome <;> exact (put_pending ..).trans (if_neg other)
  · exact (put_pending ..).trans (if_neg other)

/-- A call keeps its run until it finishes. -/
theorem step_run {event : Event} {pending : Pending} (other : event ≠ .finish caller)
    (held : life.pending caller = some pending) :
    ∃ pending', (life.step event).pending caller = some pending' ∧ pending'.run = pending.run := by
  cases event with
  | start someone =>
    simp only [step]
    split
    · next idle =>
      unfold start
      split
      · refine put_run held rfl someone _ fun mine => ?_
        rw [mine, held] at idle
        cases idle
      · exact ⟨pending, held, rfl⟩
    · exact ⟨pending, held, rfl⟩
  | finish someone =>
    have differs : caller ≠ someone := by
      rintro rfl
      exact other rfl
    simp only [step]
    split
    · exact ⟨pending, (finish_pending_of_ne differs ..).trans held, rfl⟩
    · exact ⟨pending, held, rfl⟩
  | work someone =>
    simp only [step]
    split
    · next present =>
      refine put_run held rfl someone _ fun mine => ?_
      rw [mine, held] at present
      cases present
      rfl
    · exact ⟨pending, held, rfl⟩
  | breakDown someone fault left =>
    simp only [step]
    split
    · next present =>
      refine put_run held rfl someone _ fun mine => ?_
      rw [mine, held] at present
      cases present
      rfl
    · exact ⟨pending, held, rfl⟩
  | reset | clearSaved | ready => exact ⟨pending, held, rfl⟩

theorem after_run {events : List Event} {pending : Pending}
    (others : ∀ event ∈ events, event ≠ .finish caller)
    (held : life.pending caller = some pending) :
    ∃ pending', (life.after events).pending caller = some pending' ∧
      pending'.run = pending.run := by
  induction events generalizing life pending with
  | nil => exact ⟨pending, held, rfl⟩
  | cons event events ih =>
    obtain ⟨here, there⟩ := List.forall_mem_cons.1 others
    obtain ⟨between, present, same⟩ := step_run here held
    obtain ⟨last, kept, run⟩ := ih there present
    exact ⟨last, kept, run.trans same⟩

/-! ## Calls -/

/-- A call that prepares the session, with its answer and what it leaves.  A ready session answers
at once.  An empty one grants a run, and the call is answered when the run finishes; meanwhile
anything may happen but a reset. -/
inductive Prepares (before : Life) (caller : Nat) : Except Fault IndexStats → Life → Prop where
  | atOnce {answer : Except Fault IndexStats} (idle : before.pending caller = none)
      (ready : before.desk.session.state = .ready)
      (answered : before.desk.start.1 = answer.map .inr) :
      Prepares before caller answer (before.step (.start caller))
  | finished {run : Run} {during : List Event} {pending : Pending}
      {outcome : Except Fault (Index × Bool)} (idle : before.pending caller = none)
      (granted : before.desk.start.1 = .ok (.inl run))
      (calm : ∀ event ∈ during, ¬event.IsReset)
      (unfinished : ∀ event ∈ during, event ≠ .finish caller)
      (held : ((before.step (.start caller)).after during).pending caller = some pending)
      (brought : pending.result = some outcome) :
      Prepares before caller
        (((before.step (.start caller)).after during).desk.finish pending.run outcome).1
        (((before.step (.start caller)).after during).step (.finish caller))

/-- A caller starts its run on the generation of the session. -/
theorem step_start_pending (idle : life.pending caller = none)
    (empty : life.desk.session.state = .empty) :
    (life.step (.start caller)).pending caller =
      some ⟨⟨life.desk.session.generation⟩, life.system, life.resets, none⟩ := by
  obtain ⟨-, started⟩ := life.desk.start_cases.resolve_right fun other => other.1 empty
  simp only [step, idle, start, started]
  exact (put_pending ..).trans (if_pos rfl)

theorem step_start_desk (idle : life.pending caller = none) :
    (life.step (.start caller)).desk = life.desk.start.2 := by
  simp only [step, idle, start_desk]

/-- A worker brings the result of its work. -/
theorem step_work_pending {pending : Pending} (held : life.pending caller = some pending)
    (waits : pending.result = none) :
    (life.step (.work caller)).pending caller =
        some { pending with result := some (life.desk.perform pending.run).1 } ∧
      (life.step (.work caller)).desk = (life.desk.perform pending.run).2 := by
  obtain ⟨run, system, resets, result⟩ := pending
  cases waits
  simp only [step, held]
  exact ⟨(put_pending ..).trans (if_pos rfl), rfl⟩

theorem state_of_granted {desk : Desk} {run : Run} (granted : desk.start.1 = .ok (.inl run)) :
    desk.session.state = .empty := by
  rcases desk.start_cases with ⟨empty, _⟩ | ⟨_, _, refused⟩
  · exact empty
  · exact absurd granted (refused run)

/-- A run that was not interrupted by a reset belongs to the session when it finishes. -/
theorem current_of_calm {run : Run} {during : List Event} {pending : Pending}
    (idle : life.pending caller = none) (granted : life.desk.start.1 = .ok (.inl run))
    (calm : ∀ event ∈ during, ¬event.IsReset)
    (unfinished : ∀ event ∈ during, event ≠ .finish caller)
    (held : ((life.step (.start caller)).after during).pending caller = some pending) :
    ((life.step (.start caller)).after during).IsCurrent pending.run := by
  have present := step_start_pending idle (state_of_granted granted)
  obtain ⟨kept, again, same⟩ := after_run unfinished present
  rw [held] at again
  cases again
  have start : ¬(Event.start caller).IsReset := id
  rw [IsCurrent, same, after_generation _ calm, (step_keeps ..).2 start]

theorem step_finish {pending : Pending} {outcome : Except Fault (Index × Bool)}
    (held : life.pending caller = some pending) (brought : pending.result = some outcome) :
    (life.step (.finish caller)).desk = (life.desk.finish pending.run outcome).2 := by
  obtain ⟨run, system, resets, result⟩ := pending
  cases brought
  simp only [step, held, finish_desk]

/-- What an answer and the session that a call leaves have to do with each other. -/
def Agrees (answer : Except Fault IndexStats) (session : Session)
    (bindings : Except Fault (List Binding)) : Prop :=
  ((∃ stats, answer = .ok stats) ↔ session.state = .ready ∧ ∃ read, bindings = .ok read) ∧
    ∀ fault, answer = .error fault →
      (session.state = .empty ∧ session.index? = none) ∨
        (session.state = .ready ∧ bindings = .error fault)

/-- The numbers of a ready session agree with it. -/
theorem agrees_of_ready {session : Session} (ready : session.state = .ready)
    (installed : session.index?.isSome) :
    Agrees session.stats session session.atlas.tables.readBindings := by
  obtain ⟨counted, uncounted⟩ := Session.stats_of_ready ready installed
  cases read : session.atlas.tables.readBindings with
  | ok bindings =>
    obtain ⟨stats, given⟩ := counted bindings read
    simp [Agrees, given, ready]
  | error flaw => simp [Agrees, uncounted flaw read, ready]

/-- A fault agrees with an empty session without an index. -/
theorem agrees_of_empty {session : Session} {fault : Fault}
    {bindings : Except Fault (List Binding)} (empty : session.state = .empty)
    (bare : session.index? = none) : Agrees (.error fault) session bindings := by
  simp [Agrees, empty, bare]

variable {before after : Life} {answer : Except Fault IndexStats}

theorem Prepares.atlas (prepares : before.Prepares caller answer after) :
    after.desk.session.atlas = before.desk.session.atlas := by
  cases prepares with
  | atOnce => exact (before.step_keeps _).1
  | finished => rw [(step_keeps ..).1, after_atlas, (step_keeps ..).1]

/-- The finish of a run that belongs to the session agrees with the session it leaves. -/
theorem agrees_of_finish {desk : Desk} {run : Run} (outcome : Except Fault (Index × Bool))
    (current : run.generation = desk.session.generation) (bare : desk.session.index? = none) :
    Agrees (desk.finish run outcome).1 (desk.finish run outcome).2.session
      (desk.finish run outcome).2.session.atlas.tables.readBindings := by
  rcases outcome with fault | ⟨index, loadedFromCache⟩
  · rw [Desk.finish_failure fault current]
    exact agrees_of_empty rfl bare
  · rw [Desk.finish_success_answer index loadedFromCache current,
      Desk.finish_success index loadedFromCache current]
    exact agrees_of_ready rfl rfl

/-- A call that is answered at once, or whose run is not interrupted by a reset, is answered in
agreement with the session it leaves. -/
theorem Prepares.agrees (sound : before.Sound) (prepares : before.Prepares caller answer after) :
    Agrees answer after.desk.session after.desk.session.atlas.tables.readBindings := by
  cases prepares with
  | atOnce idle ready answered =>
    have unchanged : (before.step (.start caller)).desk = before.desk := by
      simp only [step, idle, start_desk, Desk.start_ready ready]
    have given : answer = before.desk.session.stats := by
      rw [Desk.start_ready ready] at answered
      revert answered
      cases answer <;> cases before.desk.session.stats <;> simp [Except.map, eq_comm]
    rw [unchanged, given]
    exact agrees_of_ready ready (sound.consistent.ready_iff.1 ready)
  | finished idle granted calm unfinished held brought =>
    have current := current_of_calm idle granted calm unfinished held
    have bare := (sound_after (sound.step _) _).bare_of_current held current
    rw [step_finish held brought]
    exact agrees_of_finish _ current bare

/-- A call on an empty session during which nothing else happens is an uninterrupted preparation. -/
theorem prepares_alone (idle : before.pending caller = none)
    (empty : before.desk.session.state = .empty) :
    ∃ after, before.Prepares caller before.desk.prepare.1 after ∧
      after.desk = before.desk.prepare.2 := by
  obtain ⟨-, started⟩ := before.desk.start_cases.resolve_right fun other => other.1 empty
  have granted : before.desk.start.1 = .ok (.inl ⟨before.desk.session.generation⟩) := by
    rw [started]
  have work : ∀ event ∈ [Event.work caller], ¬event.IsReset := by simp [Event.IsReset]
  obtain ⟨held, worked⟩ := step_work_pending (step_start_pending idle empty) rfl
  have finished : ((before.step (.start caller)).step (.work caller)).desk.finish
      ⟨before.desk.session.generation⟩
      ((before.step (.start caller)).desk.perform ⟨before.desk.session.generation⟩).1 =
        before.desk.prepare := by
    rw [worked, step_start_desk idle]
    simp only [Desk.prepare, started]
  have prepares := Prepares.finished idle granted work (by simp) held rfl
  exact ⟨_, finished ▸ prepares, (step_finish held rfl).trans (congrArg Prod.snd finished)⟩

/-- **The answer of a call and the session it leaves.**  Whatever happened before, and whatever else
happens during the call as long as it is no reset: a call gives numbers exactly when it leaves a
ready session and the bindings of the snapshot can be read.  If it fails it leaves an empty session
without an index, or a ready one whose bindings cannot be read, and then their fault is the
answer. -/
theorem prepare_answers {config : Config} {snapshot : Snapshot} {source : Option String}
    {stored : Option StoredFile} {events : List Event} {caller : Nat}
    {answer : Except Fault IndexStats} {after : Life}
    (prepares :
      ((opened config snapshot source stored).after events).Prepares caller answer after) :
    let session := after.desk.session
    let bindings := (Tables.ofSnapshot snapshot).readBindings
    ((∃ stats, answer = .ok stats) ↔ session.state = .ready ∧ ∃ read, bindings = .ok read) ∧
    ∀ fault, answer = .error fault →
      (session.state = .empty ∧ session.index? = none) ∨
        (session.state = .ready ∧ bindings = .error fault) := by
  have atlas : after.desk.session.atlas.tables = .ofSnapshot snapshot := by
    rw [prepares.atlas, after_atlas]
    rfl
  have agrees := prepares.agrees (sound_after (sound_opened config snapshot source stored) events)
  rw [atlas] at agrees
  exact agrees

end Life

/-! ### A binding that cannot be read -/

/-- A class, and a number where a binding should be. -/
def Snapshot.strayBinding : Snapshot :=
  { empty with
    types := [.object [("n", .nat 0)]]
    names := [.text "Box"]
    bindings := [.nat 5] }

/-- A session on `strayBinding`, without event groups. -/
def Session.strayBinding : Session :=
  .ofSnapshot { Config.default with eventBaseClasses := [] } .strayBinding

/-- The snapshot can be indexed. -/
theorem Session.strayBinding_index :
    ∃ index after, strayBinding.atlas.index strayBinding.memory = (.ok index, after) := by
  obtain ⟨index, done⟩ :
      ∃ index, (strayBinding.atlas.index strayBinding.memory).1 = .ok index :=
    Outcome.exists_of_isOk (by decide +kernel)
  exact ⟨index, _, Prod.ext done rfl⟩

/-- Its binding cannot be read. -/
theorem Session.strayBinding_bindings :
    ∃ fault, (Tables.ofSnapshot .strayBinding).readBindings = .error fault :=
  ⟨_, rfl⟩

/-- A run that finds no stored index hands the index that it builds to the session. -/
theorem Desk.perform_of_index {session : Session} {stored : Option StoredFile} {index : Index}
    {after : Memory} (sourceless : session.source = none)
    (built : session.atlas.index session.memory = (.ok index, after)) :
    perform ⟨session, stored⟩ ⟨session.generation⟩ =
      (.ok (index, false), ⟨{ session with memory := after }, stored⟩) := by
  have worked : restoreOrBuild session.atlas none session.memory = (.ok (index, false), after) :=
    Work.bind_eq_ok.2 ⟨index, after, built, rfl⟩
  simp only [perform, sourceless, if_pos, worked]

/-- The index is installed before the numbers of the answer are asked for. -/
theorem Desk.prepare_strayBinding_eq :
    ∃ ready : Session, prepare ⟨.strayBinding, none⟩ = (ready.stats, ⟨ready, none⟩) ∧
      ready.atlas = Session.strayBinding.atlas ∧ ready.state = .ready ∧ ready.index?.isSome := by
  obtain ⟨index, memory, built⟩ := Session.strayBinding_index
  let indexing : Session := { Session.strayBinding with state := .indexing }
  have started : start ⟨.strayBinding, none⟩ = (.ok (.inl ⟨0⟩), ⟨indexing, none⟩) := rfl
  have performed : perform ⟨indexing, none⟩ ⟨0⟩ =
      (.ok (index, false), ⟨{ indexing with memory := memory }, none⟩) :=
    perform_of_index rfl built
  simp only [prepare, started, performed]
  exact ⟨_, rfl, rfl, rfl, rfl⟩

/-- **A call on `strayBinding` fails and leaves a session that is ready.** -/
theorem Desk.prepare_strayBinding :
    ∃ fault after, prepare ⟨.strayBinding, none⟩ = (.error fault, after) ∧
      after.session.state = .ready ∧ after.session.index?.isSome := by
  obtain ⟨ready, prepared, atlas, standing, installed⟩ := prepare_strayBinding_eq
  obtain ⟨fault, unread⟩ := Session.strayBinding_bindings
  rw [(Session.stats_of_ready standing installed).2 fault (atlas ▸ unread)] at prepared
  exact ⟨fault, _, prepared, standing, installed⟩

/-- The same call in a shared session. -/
theorem Life.prepare_answers_strayBinding :
    ∃ answer after, (opened Session.strayBinding.atlas.config .strayBinding none none).Prepares 0
        answer after ∧
      after.desk.session.state = .ready ∧ ¬∃ stats, answer = .ok stats := by
  let opened := opened Session.strayBinding.atlas.config .strayBinding none none
  obtain ⟨ready, prepared, -, standing, -⟩ := Desk.prepare_strayBinding_eq
  obtain ⟨fault, unread⟩ := Session.strayBinding_bindings
  obtain ⟨after, prepares, left⟩ : ∃ after,
      (opened.after []).Prepares 0 opened.desk.prepare.1 after ∧
      after.desk = opened.desk.prepare.2 := prepares_alone rfl rfl
  have agrees := (prepare_answers prepares).1
  have there : after.desk.session.state = .ready := by
    rw [left, show opened.desk = ⟨.strayBinding, none⟩ from rfl, prepared]
    exact standing
  refine ⟨_, after, prepares, there, fun given => ?_⟩
  obtain ⟨-, read, bindings⟩ := agrees.1 given
  rw [unread] at bindings
  cases bindings

end ClassAtlas

import ClassAtlas.Proofs.Index.Ancestors
import ClassAtlas.Proofs.Store.Prepare

/-!
# Sessions that can be reached

`Desk.Reachable` is every state that a session can get into, with the file that keeps its index and
what its runs have brought.  Runs are started, do their work and are finished in any order, the
session is reset, saved and asked anything in between, and the file may be exchanged by somebody
else.

A session gets ready only with an index that a pass over its types has given, be it in this session
or in one on the same text that saved it (`Reachable.backed`).  So the types of a ready session have
a hierarchy: every type can be read and nothing above it lies outside the snapshot
(`Reachable.hierarchy`).
-/

set_option autoImplicit false

namespace ClassAtlas

/-- Whether a pass over the types has succeeded, under some settings and in some memory. -/
def Tables.Indexable (tables : Tables) : Prop :=
  ∃ config before index after, Atlas.index ⟨tables, config⟩ before = (.ok index, after)

/-- A file that serves a text only if a snapshot with this text could be indexed. -/
def StoredFile.Honest (file : Option StoredFile) : Prop :=
  ∀ text index snapshot, file.bind (usable? text) = some index →
    Snapshot.ofText? text = some snapshot → (Tables.ofSnapshot snapshot).Indexable

/-- What runs have brought so far. -/
abbrev Brought : Type := List (Run × Except Fault (Index × Bool))

namespace Desk

/-- The desks that can be reached, with what runs have brought. -/
inductive Reachable : Desk → Brought → Prop where
  | opened (config : Config) (snapshot : Snapshot) {file : Option StoredFile}
      (honest : StoredFile.Honest file) : Reachable ⟨.ofSnapshot config snapshot, file⟩ []
  | openedFile {config : Config} {text : String} {session : Session} {file : Option StoredFile}
      (opened : Session.ofFile? config text = some session) (honest : StoredFile.Honest file) :
      Reachable ⟨session, file⟩ []
  | started {desk : Desk} {brought : Brought} (earlier : Reachable desk brought) :
      Reachable desk.start.2 brought
  | performed {desk : Desk} {brought : Brought} (earlier : Reachable desk brought) (run : Run) :
      Reachable (desk.perform run).2 ((run, (desk.perform run).1) :: brought)
  | brokeDown {desk : Desk} {brought : Brought} (earlier : Reachable desk brought) (run : Run)
      (fault : Fault) (left : Memory) :
      Reachable (desk.breakDown run left) ((run, .error fault) :: brought)
  | finished {desk : Desk} {brought : Brought} (earlier : Reachable desk brought) {run : Run}
      {outcome : Except Fault (Index × Bool)} (listed : (run, outcome) ∈ brought) :
      Reachable (desk.finish run outcome).2 brought
  | asked {desk : Desk} {brought : Brought} (earlier : Reachable desk brought) (memory : Memory) :
      Reachable { desk with session := { desk.session with memory := memory } } brought
  | saved {desk : Desk} {brought : Brought} (earlier : Reachable desk brought) :
      Reachable desk.save.2 brought
  | reset {desk : Desk} {brought : Brought} (earlier : Reachable desk brought) :
      Reachable desk.reset brought
  | exchanged {desk : Desk} {brought : Brought} (earlier : Reachable desk brought)
      {file : Option StoredFile} (honest : StoredFile.Honest file) :
      Reachable { desk with stored := file } brought

/-! ## The invariant -/

/-- What every reachable desk keeps. -/
structure Backed (desk : Desk) (brought : Brought) : Prop where
  /-- A session that was opened from a file is on the snapshot of its text. -/
  source : ∀ text, desk.session.source = some text → ∃ snapshot,
    Snapshot.ofText? text = some snapshot ∧ desk.session.atlas.tables = .ofSnapshot snapshot
  /-- The file is honest. -/
  file : StoredFile.Honest desk.stored
  /-- A run brings an index only if there was a pass that gave it. -/
  brought : ∀ run result, (run, .ok result) ∈ brought → desk.session.atlas.tables.Indexable
  /-- A ready session has one. -/
  installed : desk.session.state = .ready → desk.session.index?.isSome
  /-- So there was a pass for it, too. -/
  ready : desk.session.state = .ready → desk.session.atlas.tables.Indexable

namespace Backed

variable {desk : Desk} {brought : Brought} (backed : desk.Backed brought)

include backed

/-- A desk with the same snapshot, which is ready only if the old one was, and then with the same
index. -/
theorem keep {next : Desk} (atlas : next.session.atlas = desk.session.atlas)
    (source : next.session.source = desk.session.source) (file : StoredFile.Honest next.stored)
    (ready : next.session.state = .ready →
      desk.session.state = .ready ∧ next.session.index? = desk.session.index?) :
    next.Backed brought where
  source := by
    rw [atlas, source]
    exact backed.source
  file := file
  brought := by
    rw [atlas]
    exact backed.brought
  installed := fun standing => (ready standing).2 ▸ backed.installed (ready standing).1
  ready := by
    rw [atlas]
    exact fun standing => backed.ready (ready standing).1

/-- Another run brings something. -/
theorem bring {run : Run} {outcome : Except Fault (Index × Bool)}
    (indexable : ∀ result, outcome = .ok result → desk.session.atlas.tables.Indexable) :
    desk.Backed ((run, outcome) :: brought) where
  source := backed.source
  file := backed.file
  brought := by
    intro other result listed
    rcases List.mem_cons.1 listed with same | listed
    · exact indexable result (Prod.mk.inj same).2.symm
    · exact backed.brought other result listed
  installed := backed.installed
  ready := backed.ready

theorem start : desk.start.2.Backed brought := by
  rcases desk.start_cases with ⟨-, granted⟩ | ⟨-, kept, -⟩
  · rw [granted]
    exact backed.keep rfl rfl backed.file (by rintro ⟨⟩)
  · rw [kept]
    exact backed

/-- What the file serves and what a pass gives are both there only if a pass has succeeded. -/
theorem indexable_of_perform {run : Run} {result : Index × Bool}
    (brings : (desk.perform run).1 = .ok result) : desk.session.atlas.tables.Indexable := by
  have built : ∀ before after, restoreOrBuild desk.session.atlas none before = (.ok result, after) →
      desk.session.atlas.tables.Indexable := by
    intro before after given
    obtain ⟨index, between, built, -⟩ := Work.bind_eq_ok.1 given
    exact ⟨_, before, index, between, built⟩
  cases source : desk.session.source with
  | none =>
    simp only [perform, source] at brings
    exact built _ _ (Prod.ext brings rfl)
  | some text =>
    simp only [perform, source] at brings
    cases served : desk.stored.bind (StoredFile.usable? text) with
    | some index =>
      obtain ⟨snapshot, read, tables⟩ := backed.source text source
      rw [tables]
      exact backed.file text index snapshot served read
    | none =>
      rw [StoredFile.load_of_unusable served] at brings
      exact built _ _ (Prod.ext brings rfl)

/-- Work on the file only looks at it, and removes it if it cannot serve. -/
theorem honest_of_perform (run : Run) : StoredFile.Honest (desk.perform run).2.stored := by
  cases source : desk.session.source with
  | none =>
    simp only [perform, source]
    exact backed.file
  | some text =>
    simp only [perform, source]
    cases served : desk.stored.bind (StoredFile.usable? text) with
    | some index =>
      rw [StoredFile.load_of_usable served]
      exact backed.file
    | none =>
      rw [StoredFile.load_of_unusable served]
      rintro _ _ _ ⟨⟩

theorem perform (run : Run) :
    (desk.perform run).2.Backed ((run, (desk.perform run).1) :: brought) := by
  have kept : (desk.perform run).2.Backed brought :=
    backed.keep rfl rfl (backed.honest_of_perform run) fun ready => ⟨ready, rfl⟩
  exact kept.bring fun _ brings => backed.indexable_of_perform brings

theorem breakDown (run : Run) (fault : Fault) (left : Memory) :
    (desk.breakDown run left).Backed ((run, .error fault) :: brought) := by
  have kept : (desk.breakDown run left).Backed brought :=
    backed.keep rfl rfl backed.file fun ready => ⟨ready, rfl⟩
  exact kept.bring fun _ brings => nomatch brings

theorem finish {run : Run} {outcome : Except Fault (Index × Bool)}
    (listed : (run, outcome) ∈ brought) : (desk.finish run outcome).2.Backed brought := by
  by_cases current : run.generation = desk.session.generation
  · rcases outcome with fault | ⟨index, loadedFromCache⟩
    · rw [finish_failure fault current]
      exact backed.keep rfl rfl backed.file (by rintro ⟨⟩)
    · rw [finish_success index loadedFromCache current]
      exact ⟨backed.source, backed.file, backed.brought, fun _ => rfl,
        fun _ => backed.brought run _ listed⟩
  · rw [finish_stale outcome current]
    exact backed

/-- A session saves only an index that it has, for the text of its own snapshot. -/
theorem save : desk.save.2.Backed brought := by
  rcases desk.save_cases with ⟨fault, failed⟩ | ⟨text, index, source, ready, -, saved⟩
  · rw [failed]
    exact backed
  · rw [saved]
    refine backed.keep rfl rfl ?_ fun ready => ⟨ready, rfl⟩
    intro other _ snapshot served read
    cases StoredFile.usable_eq_some_iff.1 served
    obtain ⟨same, again, tables⟩ := backed.source text source
    cases read.symm.trans again
    rw [← tables]
    exact backed.ready ready

end Backed

/-- **Every reachable desk keeps the invariant.** -/
theorem Reachable.backed {desk : Desk} {brought : Brought} (reachable : desk.Reachable brought) :
    desk.Backed brought := by
  induction reachable with
  | opened config snapshot honest =>
    exact ⟨by rintro _ ⟨⟩, honest, by rintro _ _ ⟨⟩, by rintro ⟨⟩, by rintro ⟨⟩⟩
  | openedFile opened honest =>
    obtain ⟨snapshot, read, rfl⟩ := Option.map_eq_some_iff.1 opened
    refine ⟨?_, honest, by rintro _ _ ⟨⟩, by rintro ⟨⟩, by rintro ⟨⟩⟩
    rintro text ⟨⟩
    exact ⟨snapshot, read, rfl⟩
  | started earlier ih => exact ih.start
  | performed earlier run ih => exact ih.perform run
  | brokeDown earlier run fault left ih => exact ih.breakDown run fault left
  | finished earlier listed ih => exact ih.finish listed
  | asked earlier memory ih => exact ih.keep rfl rfl ih.file fun ready => ⟨ready, rfl⟩
  | saved earlier ih => exact ih.save
  | reset earlier ih => exact ih.keep rfl rfl ih.file (by rintro ⟨⟩)
  | exchanged earlier honest ih => exact ih.keep rfl rfl honest fun ready => ⟨ready, rfl⟩

theorem honest_none : StoredFile.Honest none :=
  fun _ _ _ nothing => nomatch nothing

/-- The types of a ready session have a hierarchy. -/
theorem Reachable.hierarchy {desk : Desk} {brought : Brought} (reachable : desk.Reachable brought)
    (ready : desk.session.state = .ready) :
    ∃ hierarchy, Hierarchy.ofTables desk.session.atlas.tables = .ok hierarchy := by
  obtain ⟨config, before, index, after, built⟩ := reachable.backed.ready ready
  obtain ⟨partitions, between, -, built⟩ := Work.bind_eq_ok.1 built
  obtain ⟨hierarchy, _, read, -⟩ := Work.bind_eq_ok.1 built
  exact ⟨hierarchy, (Work.lift_eq_ok.1 read).1⟩

/-- Preparing exchanges no snapshot. -/
theorem prepare_atlas (desk : Desk) : desk.prepare.2.session.atlas = desk.session.atlas := by
  have begun := desk.start_keeps.1
  unfold Desk.prepare
  split
  · next started =>
    rw [started] at begun
    exact begun
  · next started =>
    rw [started] at begun
    exact begun
  · next run between started =>
    rw [started] at begun
    exact ((finish_keeps _ _ _).1.trans (between.perform_keeps run).atlas).trans begun

/-- A session that is prepared without interruption stays reachable. -/
theorem Reachable.prepare {desk : Desk} {brought : Brought} (reachable : desk.Reachable brought) :
    ∃ more, desk.prepare.2.Reachable more := by
  have begun := reachable.started
  unfold Desk.prepare
  split
  · next started =>
    rw [started] at begun
    exact ⟨brought, begun⟩
  · next started =>
    rw [started] at begun
    exact ⟨brought, begun⟩
  · next run _ started =>
    rw [started] at begun
    exact ⟨_, (begun.performed run).finished List.mem_cons_self⟩

end Desk

end ClassAtlas

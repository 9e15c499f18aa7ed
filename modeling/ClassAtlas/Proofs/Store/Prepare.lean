import ClassAtlas.Proofs.Session.Answers

/-!
# Preparing from a stored index

An empty session that was opened from a file is prepared in one of three ways.  A stored index that
can serve is installed, and its file stays (`prepare_restored`).  Otherwise no file is left, and the
index is built (`prepare_built`) or its fault is the answer (`prepare_failed`).
-/

set_option autoImplicit false

namespace ClassAtlas

namespace StoredFile

variable {text : String} {file : Option StoredFile}

theorem load_of_usable {index : Index} (served : file.bind (usable? text) = some index) :
    load text file = (some index, file) := by
  rw [load, served]

theorem load_of_unusable (unserved : file.bind (usable? text) = none) :
    load text file = (none, none) := by
  rw [load, unserved]

/-- A file can serve a text when it is an index of that text in the version of the format. -/
theorem usable_eq_some_iff {index : Index} :
    file.bind (usable? text) = some index ↔ file = some (ofIndex text index) := by
  constructor
  · intro served
    obtain ⟨kept, rfl, usable⟩ := Option.bind_eq_some_iff.1 served
    cases kept with
    | damaged => cases usable
    | saved stored =>
      rw [usable?] at usable
      split at usable
      · next stamps =>
        obtain ⟨version, source, kept⟩ := stored
        obtain ⟨rfl, rfl⟩ := stamps
        cases usable
        rfl
      · cases usable
  · rintro rfl
    exact if_pos ⟨rfl, rfl⟩

end StoredFile

namespace Session

/-- The session with an index installed, restored or built, and what is remembered then. -/
def installed (session : Session) (index : Index) (loadedFromCache : Bool) (memory : Memory) :
    Session :=
  { session with state := .ready, index? := some index, loadedFromCache, memory }

end Session

namespace Desk

section

variable {desk : Desk} {text : String} {index : Index} {memory : Memory}
  (empty : desk.session.state = .empty) (source : desk.session.source = some text)

include empty source

/-- How an empty session is prepared: the file is looked at, an index is restored or built, and the
session takes the outcome over. -/
theorem prepare_of_outcome {restored : Option Index} {stored : Option StoredFile}
    {outcome : Except Fault (Index × Bool)}
    (loaded : StoredFile.load text desk.stored = (restored, stored))
    (worked : restoreOrBuild desk.session.atlas restored desk.session.memory = (outcome, memory)) :
    desk.prepare = finish ⟨{ desk.session with state := .indexing, memory := memory }, stored⟩
      ⟨desk.session.generation⟩ outcome := by
  obtain ⟨-, granted⟩ := desk.start_cases.resolve_right fun other => other.1 empty
  simp only [prepare, granted, perform, source, loaded, if_true, worked]

/-- **A stored index that can serve is installed, and its file stays.** -/
theorem prepare_restored (served : desk.stored.bind (StoredFile.usable? text) = some index) :
    ∃ memory, desk.prepare = ((desk.session.installed index true memory).stats,
      ⟨desk.session.installed index true memory, desk.stored⟩) := by
  have worked : restoreOrBuild desk.session.atlas (some index) desk.session.memory =
      (.ok (index, true), takeOver index desk.session.memory) := rfl
  refine ⟨takeOver index desk.session.memory, ?_⟩
  rw [prepare_of_outcome empty source (StoredFile.load_of_usable served) worked]
  simp [finish, Session.installed]

/-- **Otherwise no file is left, and the index is built.** -/
theorem prepare_built (unserved : desk.stored.bind (StoredFile.usable? text) = none)
    (built : desk.session.atlas.index desk.session.memory = (.ok index, memory)) :
    desk.prepare = ((desk.session.installed index false memory).stats,
      ⟨desk.session.installed index false memory, none⟩) := by
  have worked : restoreOrBuild desk.session.atlas none desk.session.memory =
      (.ok (index, false), memory) := Work.bind_eq_ok.2 ⟨index, memory, built, rfl⟩
  rw [prepare_of_outcome empty source (StoredFile.load_of_unusable unserved) worked]
  simp [finish, Session.installed]

/-- A fault of the build is the answer, and no file is left either. -/
theorem prepare_failed (unserved : desk.stored.bind (StoredFile.usable? text) = none)
    {fault : Fault}
    (failed : desk.session.atlas.index desk.session.memory = (.error fault, memory)) :
    desk.prepare = (.error fault,
      ⟨{ desk.session with state := .empty, memory := memory.renew }, none⟩) := by
  have worked : restoreOrBuild desk.session.atlas none desk.session.memory =
      (.error fault, memory) := Work.bind_of_error failed
  rw [prepare_of_outcome empty source (StoredFile.load_of_unusable unserved) worked]
  simp [finish]

end

/-- A ready session answers with its numbers, and nothing changes. -/
theorem prepare_ready {desk : Desk} (ready : desk.session.state = .ready) :
    desk.prepare = (desk.session.stats, desk) := by
  rw [prepare, start_ready ready]
  cases desk.session.stats <;> rfl

/-- A ready session with an index saves it. -/
theorem save_installed {session : Session} {text : String} (source : session.source = some text)
    (index : Index) (loadedFromCache : Bool) (memory : Memory) (stored : Option StoredFile) :
    save ⟨session.installed index loadedFromCache memory, stored⟩ =
      (.ok (), ⟨session.installed index loadedFromCache memory, some (.ofIndex text index)⟩) := by
  simp only [save, Session.installed, Session.ready, source]

/-- A save fails and changes nothing, or it brings a file with the index of a ready session. -/
theorem save_cases (desk : Desk) :
    (∃ fault, desk.save = (.error fault, desk)) ∨
      ∃ text index, desk.session.source = some text ∧ desk.session.state = .ready ∧
        desk.session.index? = some index ∧
        desk.save = (.ok (), { desk with stored := some (.ofIndex text index) }) := by
  unfold save
  cases answered : desk.session.ready with
  | error fault => exact .inl ⟨fault, rfl⟩
  | ok prepared =>
    obtain ⟨ready, index, installed, rfl⟩ := Session.ready_eq_ok_iff.1 answered
    cases source : desk.session.source with
    | none => exact .inl ⟨_, rfl⟩
    | some text => exact .inr ⟨text, index, rfl, ready, installed, rfl⟩

end Desk

end ClassAtlas

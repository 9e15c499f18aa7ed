import ClassAtlas.Proofs.Store.Prepare
import ClassAtlas.Proofs.Store.WrittenForm
import Mathlib.Logic.Function.Basic

/-!
# The life cycle of a stored index

The stored index of a snapshot file outlives the sessions on it.  Sessions are opened on the path
one after another or beside each other, each on the text that the file has at that time, and they
prepare, save, are reset and clear the index in any order.  Somebody else may damage the stored file
or stamp another version on it.

`Shelf` is such a path under one configuration, and `ShelfStep` is all that happens to it.  A shelf
also remembers which session saved last, in the state in which it saved.  This only watches: no step
reads it.

The invariant `Sound` ties the file to that session: a file that is not damaged carries the source
and the index of the session that saved last, whatever its version is by then.  Every step keeps it
(`Sound.step`), so it holds after any steps (`sound_after`), and `stored_index_life_cycle` reads off
when a prepare restores the stored index and what it leaves of the file.

A stored index is kept as text.  The text of the file of a shelf gives that file back
(`ofText_toText_after`), as long as 32 bits count the types of each document and the dimensions of
each event base.
-/

set_option autoImplicit false

namespace ClassAtlas

/-- The sessions that were opened on a path, the file that keeps their index, and the session that
saved last, as it was then. -/
structure Shelf where
  sessions : Nat → Option Session
  stored : Option StoredFile
  saver : Option Session

/-- What happens to the sessions on a path and to their file.  Opening a session under a number that
is taken replaces the session there. -/
inductive ShelfStep where
  | opened (number : Nat) (text : String)
  | prepared (number : Nat)
  | saved (number : Nat)
  | reset (number : Nat)
  | clearedSaved (number : Nat)
  | clearedAll
  | corrupted
  | restamped (version : Nat)
  deriving DecidableEq, Repr

/-- A session that was opened on a text and is not in the middle of a run: it is empty, or ready
with an index. -/
structure Session.AtRest (session : Session) : Prop where
  opened : session.source.isSome
  idle : session.state ≠ .indexing
  consistent : session.Consistent

/-- What work on the file leaves that does not save: a session at rest on the same source, and the
same file or none. -/
structure Desk.Respects (before after : Desk) : Prop where
  source : after.session.source = before.session.source
  idle : after.session.state ≠ .indexing
  consistent : after.session.Consistent
  stored : after.stored = before.stored ∨ after.stored = none

theorem Desk.Respects.atRest {before after : Desk} (respects : before.Respects after)
    (atRest : before.session.AtRest) : after.session.AtRest :=
  ⟨respects.source ▸ atRest.opened, respects.idle, respects.consistent⟩

theorem Desk.prepare_respects {desk : Desk} (atRest : desk.session.AtRest) :
    desk.Respects desk.prepare.2 := by
  obtain ⟨text, source⟩ := Option.isSome_iff_exists.1 atRest.opened
  cases standing : desk.session.state with
  | indexing => exact absurd standing atRest.idle
  | ready =>
    rw [prepare_ready standing]
    exact ⟨rfl, atRest.idle, atRest.consistent, .inl rfl⟩
  | empty =>
    cases served : desk.stored.bind (StoredFile.usable? text) with
    | some index =>
      obtain ⟨memory, restored⟩ := prepare_restored standing source served
      rw [restored]
      exact ⟨rfl, by rintro ⟨⟩, .of_some rfl rfl, .inl rfl⟩
    | none =>
      rcases built : desk.session.atlas.index desk.session.memory with ⟨fault | index, memory⟩
      · rw [prepare_failed standing source served built]
        have bare := atRest.consistent.index?_eq_none (by rw [standing]; rintro ⟨⟩)
        exact ⟨rfl, by rintro ⟨⟩,
          .of_none (by rintro ⟨⟩) bare (atRest.consistent.unmarked bare), .inr rfl⟩
      · rw [prepare_built standing source served built]
        exact ⟨rfl, by rintro ⟨⟩, .of_some rfl rfl, .inr rfl⟩

namespace Shelf

/-- A path on which nothing was opened. -/
def bare : Shelf :=
  ⟨fun _ => none, none, none⟩

/-- A session of the shelf with the file. -/
def desk (shelf : Shelf) (session : Session) : Desk :=
  ⟨session, shelf.stored⟩

/-- The shelf when a session has worked on the file. -/
def put (shelf : Shelf) (number : Nat) (desk : Desk) : Shelf :=
  { shelf with
    sessions := Function.update shelf.sessions number (some desk.session), stored := desk.stored }

/-- A session works on the file, if there is a session of that number. -/
def act (shelf : Shelf) (number : Nat) (work : Desk → Desk) : Shelf :=
  match shelf.sessions number with
  | some session => shelf.put number (work (shelf.desk session))
  | none => shelf

/-- A session saves its index, if there is a session of that number. -/
def save (shelf : Shelf) (number : Nat) : Shelf :=
  match shelf.sessions number with
  | some session =>
    match (shelf.desk session).save with
    | (.ok _, after) => { shelf.put number after with saver := some session }
    | (.error _, after) => shelf.put number after
  | none => shelf

/-- One step.  A text that is no snapshot opens no session. -/
def step (config : Config) (shelf : Shelf) : ShelfStep → Shelf
  | .opened number text =>
    match Session.ofFile? config text with
    | some session => shelf.put number (shelf.desk session)
    | none => shelf
  | .prepared number => shelf.act number fun desk => desk.prepare.2
  | .saved number => shelf.save number
  | .reset number => shelf.act number Desk.reset
  | .clearedSaved number => shelf.act number Desk.clearSaved
  | .clearedAll => { shelf with stored := none }
  | .corrupted => { shelf with stored := some .damaged }
  | .restamped version => { shelf with stored := shelf.stored.map (StoredFile.restamp version) }

/-- The shelf after some steps on a path where nothing was opened before. -/
def after (config : Config) (steps : List ShelfStep) : Shelf :=
  steps.foldl (step config) bare

/-- Whether the file can serve a session: it is there, it is an undamaged save, it carries the
present version, and the session that saved it was opened on the same text. -/
def Serves (shelf : Shelf) (session : Session) : Prop :=
  ∃ stored saver, shelf.stored = some (.saved stored) ∧
    stored.version = StoredFile.currentVersion ∧ shelf.saver = some saver ∧
    saver.source = session.source

/-! ## The invariant -/

/-- What every shelf keeps. -/
structure Sound (shelf : Shelf) : Prop where
  /-- Every session was opened on a text, and none is being prepared between two steps. -/
  atRest : ∀ number session, shelf.sessions number = some session → session.AtRest
  /-- A file that is not damaged is what the session that saved last had to save. -/
  stamped : ∀ stored, shelf.stored = some (.saved stored) →
    ∃ saver, shelf.saver = some saver ∧ saver.source = some stored.source ∧
      saver.index? = some stored.index

theorem sound_bare : bare.Sound where
  atRest := by rintro _ _ ⟨⟩
  stamped := by rintro _ ⟨⟩

namespace Sound

variable {shelf : Shelf} (sound : shelf.Sound)

include sound

/-- A session at rest may take a place when it leaves the file as it was, or removes it. -/
theorem put {desk : Desk} (number : Nat) (atRest : desk.session.AtRest)
    (left : desk.stored = shelf.stored ∨ desk.stored = none) : (shelf.put number desk).Sound where
  atRest := by
    intro other session present
    rcases eq_or_ne other number with rfl | differs
    · cases (Function.update_self other _ _).symm.trans present
      exact atRest
    · exact sound.atRest other session ((Function.update_of_ne differs _ _).symm.trans present)
  stamped := by
    intro stored saved
    rcases left with same | removed
    · exact sound.stamped stored (same.symm.trans saved)
    · cases removed.symm.trans saved

/-- The file may be exchanged for one with the same source and index, or for none that counts. -/
theorem exchange {file : Option StoredFile}
    (kept : ∀ stored, file = some (.saved stored) → ∃ earlier,
      shelf.stored = some (.saved earlier) ∧ earlier.source = stored.source ∧
        earlier.index = stored.index) : Sound { shelf with stored := file } where
  atRest := sound.atRest
  stamped := by
    intro stored saved
    obtain ⟨earlier, present, source, index⟩ := kept stored saved
    rw [← source, ← index]
    exact sound.stamped earlier present

theorem act (number : Nat) {work : Desk → Desk}
    (respects : ∀ desk : Desk, desk.session.AtRest → desk.Respects (work desk)) :
    (shelf.act number work).Sound := by
  unfold Shelf.act
  split
  · next session present =>
    have atRest := sound.atRest number session present
    have worked := respects (shelf.desk session) atRest
    exact sound.put number (worked.atRest atRest) worked.stored
  · exact sound

/-- Only a save brings a new file, and the session that saves is remembered. -/
theorem save (number : Nat) : (shelf.save number).Sound := by
  unfold Shelf.save
  split
  · next session present =>
    have atRest := sound.atRest number session present
    rcases (shelf.desk session).save_cases with
      ⟨fault, failed⟩ | ⟨text, index, source, -, ready, saved⟩
    · rw [failed]
      exact sound.put number atRest (.inl rfl)
    · rw [saved]
      -- Sessions do not depend on the file, so the place is taken as if the file were gone.
      have placed : (shelf.put number ⟨session, none⟩).Sound :=
        sound.put number atRest (.inr rfl)
      refine ⟨placed.atRest, ?_⟩
      rintro stored ⟨⟩
      exact ⟨session, rfl, source, ready⟩
  · exact sound

/-- **Every step keeps the invariant.** -/
theorem step (config : Config) (step : ShelfStep) : (shelf.step config step).Sound := by
  cases step with
  | opened number text =>
    simp only [Shelf.step]
    split
    · next session opened =>
      obtain ⟨snapshot, -, rfl⟩ := Option.map_eq_some_iff.1 opened
      have atRest :
          Session.AtRest { Session.ofSnapshot config snapshot with source := some text } :=
        ⟨rfl, by rintro ⟨⟩, .of_none (by rintro ⟨⟩) rfl rfl⟩
      exact sound.put number atRest (.inl rfl)
    · exact sound
  | prepared number => exact sound.act number fun _ => Desk.prepare_respects
  | saved number => exact sound.save number
  | reset number =>
    exact sound.act number fun _ _ =>
      ⟨rfl, by rintro ⟨⟩, .of_none (by rintro ⟨⟩) rfl rfl, .inl rfl⟩
  | clearedSaved number =>
    exact sound.act number fun _ atRest =>
      ⟨rfl, by rintro ⟨⟩, .of_none (by rintro ⟨⟩) rfl rfl, .inr (if_pos atRest.opened)⟩
  | clearedAll => exact sound.exchange (by rintro _ ⟨⟩)
  | corrupted => exact sound.exchange (by rintro _ ⟨⟩)
  | restamped version =>
    refine sound.exchange fun stored present => ?_
    obtain ⟨file, there, restamped⟩ := Option.map_eq_some_iff.1 present
    cases file with
    | damaged => cases restamped
    | saved earlier =>
      cases restamped
      exact ⟨earlier, there, rfl, rfl⟩

end Sound

/-- **The invariant holds after any steps.** -/
theorem sound_after (config : Config) (steps : List ShelfStep) : (after config steps).Sound :=
  List.foldlRecOn (motive := Sound) steps _ sound_bare
    fun _ sound here _ => sound.step config here

/-! ## The text of the file -/

end Shelf

/-- A session on a snapshot with few enough types, whose index can be kept, and which begins to
prepare with no type known. -/
structure Session.Keeps (config : Config) (session : Session) : Prop where
  atlas : ∃ snapshot, session.atlas = ⟨.ofSnapshot snapshot, config⟩ ∧
    (Tables.ofSnapshot snapshot).typeCount ≤ limit32
  fresh : session.state = .empty → session.memory.partitions = none ∧ session.memory.found = ∅
  index : ∀ index, session.index? = some index → index.Bounded

/-- A file is damaged, or its index can be kept. -/
def StoredFile.Bounded (file : Option StoredFile) : Prop :=
  ∀ stored, file = some (.saved stored) → stored.index.Bounded

/-- Preparing builds an index that can be kept, or takes one over from the file. -/
theorem Desk.prepare_keeps {config : Config} {desk : Desk} (atRest : desk.session.AtRest)
    (flat : ∀ base ∈ config.eventBaseClasses, (splitDimensions base).2 < limit32)
    (keeps : desk.session.Keeps config) (bounded : StoredFile.Bounded desk.stored) :
    desk.prepare.2.session.Keeps config ∧ StoredFile.Bounded desk.prepare.2.stored := by
  obtain ⟨text, source⟩ := Option.isSome_iff_exists.1 atRest.opened
  have gone : StoredFile.Bounded none := by rintro _ ⟨⟩
  cases standing : desk.session.state with
  | indexing => exact absurd standing atRest.idle
  | ready =>
    rw [prepare_ready standing]
    exact ⟨keeps, bounded⟩
  | empty =>
    cases served : desk.stored.bind (StoredFile.usable? text) with
    | some index =>
      obtain ⟨memory, restored⟩ := prepare_restored standing source served
      rw [restored]
      refine ⟨⟨keeps.atlas, by rintro ⟨⟩, ?_⟩, bounded⟩
      rintro _ ⟨⟩
      exact bounded _ (StoredFile.usable_eq_some_iff.1 served)
    | none =>
      rcases built : desk.session.atlas.index desk.session.memory with ⟨fault | index, memory⟩
      · rw [prepare_failed standing source served built]
        exact ⟨⟨keeps.atlas, fun _ => ⟨rfl, rfl⟩, keeps.index⟩, gone⟩
      · rw [prepare_built standing source served built]
        refine ⟨⟨keeps.atlas, by rintro ⟨⟩, ?_⟩, gone⟩
        rintro _ ⟨⟩
        obtain ⟨snapshot, atlas, few⟩ := keeps.atlas
        obtain ⟨ungrouped, unfound⟩ := keeps.fresh standing
        rw [atlas] at built
        exact Index.bounded_of_run few flat ungrouped unfound built

namespace Shelf

/-- The sessions of a shelf have indices that can be kept, and so has the file. -/
structure Bounded (config : Config) (shelf : Shelf) : Prop where
  sessions : ∀ number session, shelf.sessions number = some session → session.Keeps config
  stored : StoredFile.Bounded shelf.stored

namespace Bounded

variable {config : Config} {shelf : Shelf} (bounded : shelf.Bounded config)

include bounded

theorem put {desk : Desk} (number : Nat) (keeps : desk.session.Keeps config)
    (file : StoredFile.Bounded desk.stored) : (shelf.put number desk).Bounded config where
  sessions := by
    intro other session present
    rcases eq_or_ne other number with rfl | differs
    · cases (Function.update_self other _ _).symm.trans present
      exact keeps
    · exact bounded.sessions other session
        ((Function.update_of_ne differs _ _).symm.trans present)
  stored := file

theorem act (number : Nat) {work : Desk → Desk} (keeps : ∀ session,
    shelf.sessions number = some session → session.Keeps config →
      (work (shelf.desk session)).session.Keeps config ∧
        StoredFile.Bounded (work (shelf.desk session)).stored) :
    (shelf.act number work).Bounded config := by
  cases present : shelf.sessions number with
  | none =>
    rw [Shelf.act, present]
    exact bounded
  | some session =>
    rw [Shelf.act, present]
    obtain ⟨kept, file⟩ := keeps session present (bounded.sessions number session present)
    exact bounded.put number kept file

theorem save (number : Nat) : (shelf.save number).Bounded config := by
  unfold Shelf.save
  split
  · next session present =>
    have keeps := bounded.sessions number session present
    rcases (shelf.desk session).save_cases with
      ⟨fault, failed⟩ | ⟨text, index, source, -, ready, saved⟩
    · rw [failed]
      exact bounded.put number keeps bounded.stored
    · rw [saved]
      have file : StoredFile.Bounded (some (.ofIndex text index)) := by
        rintro _ ⟨⟩
        exact keeps.index index ready
      have placed : (shelf.put number ⟨session, some (.ofIndex text index)⟩).Bounded config :=
        bounded.put number keeps file
      exact ⟨placed.sessions, placed.stored⟩
  · exact bounded

/-- What keeps a step in range: the text that it opens has few enough types. -/
theorem step {step : ShelfStep} (sound : shelf.Sound)
    (flat : ∀ base ∈ config.eventBaseClasses, (splitDimensions base).2 < limit32)
    (few : ∀ number text snapshot, step = .opened number text →
      Snapshot.ofText? text = some snapshot → (Tables.ofSnapshot snapshot).typeCount ≤ limit32) :
    (shelf.step config step).Bounded config := by
  have gone : StoredFile.Bounded none := by rintro _ ⟨⟩
  cases step with
  | opened number text =>
    simp only [Shelf.step]
    split
    · next session opened =>
      obtain ⟨snapshot, read, rfl⟩ := Option.map_eq_some_iff.1 opened
      exact bounded.put number
        ⟨⟨snapshot, rfl, few number text snapshot rfl read⟩, fun _ => ⟨rfl, rfl⟩, by rintro _ ⟨⟩⟩
        bounded.stored
    · exact bounded
  | prepared number =>
    have prepared : (shelf.act number fun desk => desk.prepare.2).Bounded config :=
      bounded.act number fun session present keeps =>
        have atRest : (shelf.desk session).session.AtRest := sound.atRest number session present
        Desk.prepare_keeps atRest flat keeps bounded.stored
    exact prepared
  | saved number => exact bounded.save number
  | reset number =>
    exact bounded.act number fun _ _ keeps =>
      ⟨⟨keeps.atlas, fun _ => ⟨rfl, rfl⟩, by rintro _ ⟨⟩⟩, bounded.stored⟩
  | clearedSaved number =>
    refine bounded.act number fun session _ keeps =>
      ⟨⟨keeps.atlas, fun _ => ⟨rfl, rfl⟩, by rintro _ ⟨⟩⟩, ?_⟩
    simp only [Desk.clearSaved]
    split
    · exact gone
    · exact bounded.stored
  | clearedAll => exact ⟨bounded.sessions, gone⟩
  | corrupted => exact ⟨bounded.sessions, by rintro _ ⟨⟩⟩
  | restamped version =>
    refine ⟨bounded.sessions, fun stored present => ?_⟩
    obtain ⟨file, there, restamped⟩ := Option.map_eq_some_iff.1 present
    cases file with
    | damaged => cases restamped
    | saved earlier =>
      cases restamped
      exact bounded.stored earlier there

end Bounded

/-- **The file holds as much as its text.**  When the texts that are opened have few enough types,
and no event base too many dimensions, the stored index that a shelf ends with is read back from its
text. -/
theorem ofText_toText_after {config : Config} {steps : List ShelfStep}
    (flat : ∀ base ∈ config.eventBaseClasses, (splitDimensions base).2 < limit32)
    (few : ∀ number text snapshot, .opened number text ∈ steps →
      Snapshot.ofText? text = some snapshot → (Tables.ofSnapshot snapshot).typeCount ≤ limit32)
    {stored : StoredIndex} (kept : (after config steps).stored = some (.saved stored))
    (version : stored.version < limit32) :
    StoredFile.ofText (StoredFile.toText (.saved stored)) = .saved stored := by
  have bounded : (after config steps).Bounded config := by
    have both := List.foldlRecOn (motive := fun shelf => shelf.Sound ∧ shelf.Bounded config) steps
      (step config) ⟨sound_bare, by rintro _ _ ⟨⟩, by rintro _ ⟨⟩⟩
      fun shelf ⟨sound, bounded⟩ step listed => ⟨sound.step config step,
        bounded.step sound flat fun number text snapshot same =>
          few number text snapshot (same ▸ listed)⟩
    exact both.2
  exact StoredFile.ofText_toText version (bounded.stored stored kept)

/-! ## Restoring -/

section Restoring

variable {shelf : Shelf} {session : Session}

/-- An index that the file holds for a text is the one that was saved, by a session on that text. -/
theorem Sound.saver_of_usable (sound : shelf.Sound) {text : String} {index : Index}
    (usable : shelf.stored.bind (StoredFile.usable? text) = some index) :
    ∃ saver, shelf.saver = some saver ∧ saver.source = some text ∧ saver.index? = some index :=
  sound.stamped _ (StoredFile.usable_eq_some_iff.1 usable)

/-- The file can serve a session exactly when it holds an index for the text of the session. -/
theorem Sound.serves_iff (sound : shelf.Sound) {text : String}
    (source : session.source = some text) :
    shelf.Serves session ↔ ∃ index, shelf.stored.bind (StoredFile.usable? text) = some index := by
  constructor
  · rintro ⟨⟨version, kept, index⟩, saver, present, rfl, saved, same⟩
    obtain ⟨saver', remembered, stamp, -⟩ := sound.stamped _ present
    cases saved.symm.trans remembered
    cases stamp.symm.trans (same.trans source)
    exact ⟨index, StoredFile.usable_eq_some_iff.2 present⟩
  · rintro ⟨index, usable⟩
    obtain ⟨saver, saved, stamp, -⟩ := sound.saver_of_usable usable
    exact ⟨_, saver, StoredFile.usable_eq_some_iff.1 usable, rfl, saved, stamp.trans source.symm⟩

/-- The numbers of a session with readable bindings tell whether its index was restored. -/
theorem stats_installed {bindings : List Binding} {index : Index} {loadedFromCache : Bool}
    {memory : Memory} (readable : session.atlas.tables.readBindings = .ok bindings) :
    (session.installed index loadedFromCache memory).stats =
      .ok (index.stats bindings.length loadedFromCache) :=
  (Session.stats_of_installed rfl rfl).trans (Outcome.bind_eq_ok.2 ⟨bindings, readable, rfl⟩)

/-- **A file that can serve is restored.**  The prepare reports it, the file stays, and the index
that is installed is the one that was saved. -/
theorem Sound.prepare_of_serves (sound : shelf.Sound) {bindings : List Binding}
    (opened : session.source.isSome) (empty : session.state = .empty)
    (readable : session.atlas.tables.readBindings = .ok bindings)
    (serves : shelf.Serves session) :
    (∃ stats, (shelf.desk session).prepare.1 = .ok stats ∧ stats.loadedFromCache = true) ∧
      (shelf.desk session).prepare.2.stored = shelf.stored ∧
      ∃ saver index, shelf.saver = some saver ∧ saver.index? = some index ∧
        (shelf.desk session).prepare.2.session.index? = some index := by
  obtain ⟨text, source⟩ := Option.isSome_iff_exists.1 opened
  obtain ⟨index, usable⟩ := (sound.serves_iff source).1 serves
  obtain ⟨saver, saved, -, ready⟩ := sound.saver_of_usable usable
  have standing : (shelf.desk session).session.state = .empty := empty
  obtain ⟨memory, restored⟩ := Desk.prepare_restored standing source usable
  rw [restored]
  exact ⟨⟨_, stats_installed readable, rfl⟩, rfl, saver, index, saved, ready, rfl⟩

/-- **Otherwise nothing is restored and no file is left**, whether the index can be built or not. -/
theorem Sound.prepare_of_not_serves (sound : shelf.Sound) {bindings : List Binding}
    (opened : session.source.isSome) (empty : session.state = .empty)
    (readable : session.atlas.tables.readBindings = .ok bindings)
    (serves : ¬shelf.Serves session) :
    (∀ stats, (shelf.desk session).prepare.1 = .ok stats → stats.loadedFromCache = false) ∧
      (shelf.desk session).prepare.2.stored = none := by
  obtain ⟨text, source⟩ := Option.isSome_iff_exists.1 opened
  have unserved : shelf.stored.bind (StoredFile.usable? text) = none :=
    Option.eq_none_iff_forall_ne_some.2 fun index usable =>
      serves ((sound.serves_iff source).2 ⟨index, usable⟩)
  have standing : (shelf.desk session).session.state = .empty := empty
  rcases built : session.atlas.index session.memory with ⟨fault | index, memory⟩
  · rw [Desk.prepare_failed standing source unserved built]
    exact ⟨by rintro _ ⟨⟩, rfl⟩
  · rw [Desk.prepare_built standing source unserved built]
    refine ⟨?_, rfl⟩
    rintro stats answered
    cases (stats_installed readable).symm.trans answered
    rfl

end Restoring

/-- What a session does that is there. -/
theorem act_of_present {shelf : Shelf} {number : Nat} {session : Session}
    (present : shelf.sessions number = some session) (work : Desk → Desk) :
    shelf.act number work = shelf.put number (work (shelf.desk session)) := by
  rw [act, present]

/-- A save that fails leaves the file alone. -/
theorem save_stored_of_failed {shelf : Shelf} {number : Nat} {session : Session} {fault : Fault}
    (present : shelf.sessions number = some session)
    (failed : (shelf.desk session).save.1 = .error fault) :
    (shelf.save number).stored = shelf.stored := by
  rcases (shelf.desk session).save_cases with ⟨fault, kept⟩ | ⟨text, index, -, -, -, saved⟩
  · simp only [save, present, kept]
    rfl
  · rw [saved] at failed
    cases failed

/-- **The life cycle of a stored index.**  After any steps, a prepare of an empty session reports a
restored index exactly when the file can serve it: the file exists, is an undamaged save in the
present version, and was saved by a session that was opened on the same text.  Then the file stays,
and the session has the index that the saving session had.  In every other case no file exists after
the prepare, whether the index could be built or not.  A prepare of a ready session leaves the file
alone, and so does a save that fails. -/
theorem stored_index_life_cycle (config : Config) (steps : List ShelfStep) {number : Nat}
    {session : Session} (present : (after config steps).sessions number = some session)
    {bindings : List Binding} (readable : session.atlas.tables.readBindings = .ok bindings) :
    let shelf := after config steps
    let prepared := shelf.step config (.prepared number)
    (session.state = .empty →
      ((∃ stats, (shelf.desk session).prepare.1 = .ok stats ∧ stats.loadedFromCache = true) ↔
        shelf.Serves session) ∧
      (shelf.Serves session → prepared.stored = shelf.stored ∧
        ∃ saver now index, shelf.saver = some saver ∧ saver.index? = some index ∧
          prepared.sessions number = some now ∧ now.index? = some index) ∧
      (¬shelf.Serves session → prepared.stored = none)) ∧
    (session.state = .ready → prepared.stored = shelf.stored) ∧
    ∀ fault, (shelf.desk session).save.1 = .error fault →
      (shelf.step config (.saved number)).stored = shelf.stored := by
  intro shelf prepared
  have sound : shelf.Sound := sound_after config steps
  have opened := (sound.atRest number session present).opened
  have worked : prepared = shelf.put number (shelf.desk session).prepare.2 :=
    act_of_present present fun desk => desk.prepare.2
  rw [worked]
  refine ⟨fun empty => ?_, fun ready => ?_, fun fault failed => ?_⟩
  · refine ⟨⟨fun ⟨stats, answered, restored⟩ => ?_, fun serves => ?_⟩, fun serves => ?_,
      fun serves => ?_⟩
    · by_contra serves
      have built := (sound.prepare_of_not_serves opened empty readable serves).1 stats answered
      exact Bool.false_ne_true (built.symm.trans restored)
    · exact (sound.prepare_of_serves opened empty readable serves).1
    · obtain ⟨-, kept, saver, index, saved, ready, installed⟩ :=
        sound.prepare_of_serves opened empty readable serves
      exact ⟨kept, saver, _, index, saved, ready, Function.update_self .., installed⟩
    · exact (sound.prepare_of_not_serves opened empty readable serves).2
  · have ready' : (shelf.desk session).session.state = .ready := ready
    rw [Desk.prepare_ready ready']
    rfl
  · exact save_stored_of_failed present failed

/-- A document with a class and a subclass of it. -/
def subclassText : String :=
  "\x7b\"types\":[\x7b\"n\":0\x7d,\x7b\"n\":1,\"s\":0\x7d],\"names\":[\"Base\",\"Heir\"]\x7d"

/-- A session on this document prepares and saves, and a later one is opened on the same text. -/
def savedThenOpened : List ShelfStep :=
  [.opened 0 subclassText, .prepared 0, .saved 0, .opened 1 subclassText]

/-- The later session restores the index of both classes, and the text of the file gives the file
back. -/
theorem stored_index_life_cycle_savedThenOpened :
    let shelf := after ⟨[], 0, 0, none⟩ savedThenOpened
    ∃ session bindings stored, shelf.sessions 1 = some session ∧
      session.atlas.tables.readBindings = .ok bindings ∧ session.state = .empty ∧
      shelf.stored = some (.saved stored) ∧ stored.index.partitions.rawClasses = [0, 1] ∧
      StoredFile.ofText (StoredFile.toText (.saved stored)) = .saved stored ∧
      shelf.Serves session ∧
      ∃ stats, (shelf.desk session).prepare.1 = .ok stats ∧ stats.loadedFromCache = true := by
  intro shelf
  have opened : (shelf.sessions 1).map (fun session => (session.source, session.state,
      session.atlas.tables.readBindings.isOk)) = some (some subclassText, .empty, true) := by
    decide +kernel
  have kept : (shelf.stored.bind (StoredFile.usable? subclassText)).map
      (fun index => index.partitions.rawClasses) = some [0, 1] := by
    decide +kernel
  obtain ⟨session, present, standing⟩ := Option.map_eq_some_iff.1 opened
  obtain ⟨source, empty, readable⟩ : session.source = some subclassText ∧
      session.state = .empty ∧ session.atlas.tables.readBindings.isOk = true := by
    simpa using standing
  obtain ⟨bindings, read⟩ := Outcome.exists_of_isOk readable
  obtain ⟨index, usable, classes⟩ := Option.map_eq_some_iff.1 kept
  have file := StoredFile.usable_eq_some_iff.1 usable
  have serves : shelf.Serves session := ((sound_after _ _).serves_iff source).2 ⟨index, usable⟩
  have report := ((stored_index_life_cycle ⟨[], 0, 0, none⟩ savedThenOpened present read).1 empty).1
  have version : StoredFile.currentVersion < limit32 := by decide
  have two : (Snapshot.ofText? subclassText).map
      (fun snapshot => (Tables.ofSnapshot snapshot).typeCount) = some 2 := by
    decide +kernel
  refine ⟨session, bindings, _, present, read, empty, file, classes,
    ofText_toText_after (by rintro _ ⟨⟩) ?_ file version, serves, report.2 serves⟩
  intro number text snapshot listed document
  have which : number = 0 ∧ text = subclassText ∨ number = 1 ∧ text = subclassText := by
    simpa [savedThenOpened] using listed
  obtain rfl : text = subclassText := which.elim And.right And.right
  rw [document] at two
  exact (Option.some.inj two).trans_le (by decide)

end Shelf

end ClassAtlas

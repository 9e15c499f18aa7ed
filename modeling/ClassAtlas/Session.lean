import ClassAtlas.Answer.Query
import ClassAtlas.Store

/-!
# Sessions

A session holds the decoded tables of one snapshot and, once it is prepared, their index.  It starts
empty, is indexing while a run is under way, and is ready with an index.  Queries need a ready
session.

Preparing has three parts: a run is started, the run does its work, and the session takes the result
over.  In between the session can be reset, which gives it a new generation; a run of an older
generation is discarded.  A run that fails leaves an empty session with nothing remembered but names
and packages, which belong to the tables.

A session that was opened from a file looks for a stored index of that file before it builds one,
and can store its index there.
-/

set_option autoImplicit false

namespace ClassAtlas

/-- A session.  `source` is the text of the snapshot file that it was opened from, if any.  Where it
stands, its index, and whether the index was stored are kept apart from each other: a run that fails
writes the state and leaves the other two alone. -/
structure Session where
  atlas : Atlas
  source : Option String
  generation : Nat
  state : SessionState
  index? : Option Index
  loadedFromCache : Bool
  memory : Memory

namespace Session

/-- An empty session on a snapshot. -/
def ofSnapshot (config : Config) (snapshot : Snapshot) : Session :=
  { atlas := ⟨.ofSnapshot snapshot, config⟩, source := none, generation := 0
    state := .empty, index? := none, loadedFromCache := false, memory := .empty }

/-- An empty session on a snapshot file with a text. -/
def ofFile? (config : Config) (text : String) : Option Session :=
  (Snapshot.ofText? text).map fun snapshot =>
    { ofSnapshot config snapshot with source := some text }

/-- The index of a ready session. -/
def ready (session : Session) : Except Fault Prepared :=
  match session.state, session.index? with
  | .ready, some index => .ok ⟨session.atlas, index, session.loadedFromCache⟩
  | state, _ => .error (.notReady state)

/-- Drops the index and everything remembered of the types, and outdates a run under way. -/
def reset (session : Session) : Session :=
  { session with
    generation := session.generation + 1
    state := .empty, index? := none, loadedFromCache := false, memory := session.memory.renew }

/-- The numbers of a ready session. -/
def stats (session : Session) : Except Fault IndexStats := do
  let prepared ← session.ready
  prepared.stats

/-- Does some work with the memory of the session. -/
def work {α : Type} (session : Session) (step : Atlas → Work α) : Except Fault α × Session :=
  match step session.atlas session.memory with
  | (outcome, memory) => (outcome, { session with memory := memory })

/-- Answers a query. -/
def query (session : Session) (query : DocQuery) : Except RequestError QueryResult × Session :=
  match session.ready with
  | .error fault => (.error (.ofFault fault), session)
  | .ok prepared =>
    match query.run prepared session.memory with
    | (outcome, memory) => (outcome, { session with memory := memory })

end Session

/-- A run that prepares a session, by the generation in which it was started. -/
structure Run where
  generation : Nat
  deriving DecidableEq, Repr

/-- A session together with the file that keeps its index. -/
structure Desk where
  session : Session
  stored : Option StoredFile

namespace Desk

/-- Starts to prepare the session.  A ready session gives its numbers at once, and only one run is
under way at a time. -/
def start (desk : Desk) : Except Fault (Run ⊕ IndexStats) × Desk :=
  match desk.session.state with
  | .ready => (desk.session.stats.map .inr, desk)
  | .indexing => (.error (.notReady .indexing), desk)
  | .empty =>
    (.ok (.inl ⟨desk.session.generation⟩),
      { desk with session := { desk.session with state := .indexing } })

/-- Takes over what a stored index knows: the types by variant, unless they are known already, and
the names that were looked up. -/
def takeOver (index : Index) (memory : Memory) : Memory :=
  { memory with
    partitions := memory.partitions <|> some index.partitions
    found := index.lookups.foldl (fun found entry => found.insert entry.1 entry.2) memory.found }

/-- The index for a session, stored or else built, and whether it was stored. -/
def restoreOrBuild (atlas : Atlas) (restored : Option Index) : Work (Index × Bool) := do
  match restored with
  | some index => do
    modify (takeOver index)
    return (index, true)
  | none => return (← atlas.index, false)

/-- Does the work of a run.  A run of an older generation works on a memory of its own, and only
the names and packages that it learns are kept. -/
def perform (desk : Desk) (run : Run) : Except Fault (Index × Bool) × Desk :=
  let session := desk.session
  let (restored, stored) := match session.source with
    | some source => StoredFile.load source desk.stored
    | none => (none, desk.stored)
  let isCurrent := run.generation = session.generation
  let before := if isCurrent then session.memory else session.memory.renew
  let (outcome, after) := restoreOrBuild session.atlas restored before
  let memory :=
    if isCurrent then after
    else { session.memory with names := after.names, packages := after.packages }
  (outcome, ⟨{ session with memory := memory }, stored⟩)

/-- Hands the result of a run to the session.  A fault is written into the state, and the types are
forgotten; the index is not touched. -/
def finish (desk : Desk) (run : Run) (outcome : Except Fault (Index × Bool)) :
    Except Fault IndexStats × Desk :=
  let session := desk.session
  if run.generation ≠ session.generation then (.error (.notReady session.state), desk)
  else match outcome with
    | .ok (index, loadedFromCache) =>
      let session := { session with state := .ready, index? := some index, loadedFromCache }
      (session.stats, { desk with session := session })
    | .error fault =>
      (.error fault,
        { desk with session := { session with state := .empty, memory := session.memory.renew } })

/-- Prepares the session without interruption. -/
def prepare (desk : Desk) : Except Fault IndexStats × Desk :=
  match desk.start with
  | (.error fault, desk) => (.error fault, desk)
  | (.ok (.inr stats), desk) => (.ok stats, desk)
  | (.ok (.inl run), desk) =>
    let (outcome, desk) := desk.perform run
    desk.finish run outcome

/-- Stores the index of a ready session that was opened from a file. -/
def save (desk : Desk) : Except Fault Unit × Desk :=
  match desk.session.ready with
  | .error fault => (.error fault, desk)
  | .ok prepared =>
    match desk.session.source with
    | none => (.error (.storage "session was not opened from a snapshot file"), desk)
    | some source => (.ok (), { desk with stored := some (.ofIndex source prepared.index) })

/-- Resets the session. -/
def reset (desk : Desk) : Desk :=
  { desk with session := desk.session.reset }

/-- Resets the session and removes its stored index. -/
def clearSaved (desk : Desk) : Desk :=
  { session := desk.session.reset
    stored := if desk.session.source.isSome then none else desk.stored }

/-- Removes all stored indices. -/
def clearAll (desk : Desk) : Desk :=
  { desk with stored := none }

/-- Opens the snapshot file again, with a new text perhaps; the old session stays when the text is
no snapshot. -/
def reopen (desk : Desk) (text : String) : Option Desk :=
  (Session.ofFile? desk.session.atlas.config text).map fun session =>
    { desk with session := session }

end Desk

end ClassAtlas

import ClassAtlas.Session
import Mathlib.Logic.Function.Basic

/-!
# Interleaved use of a session

Several callers share a session.  A call that prepares the session is cut into its start, the work
of its run and its finish, and anything may happen in between: other callers prepare, the session is
reset, its stored index is cleared, its index is asked for.  A worker may also break down, with any
fault and with anything left behind in the memory it worked on.

The type system of a session is replaced by a reset and by a run that fails.  It is numbered here,
and so are the resets, so that a run can be told to have started on the type system that the session
still holds and after its latest reset.  These numbers only watch: no step of the session reads
them.
-/

set_option autoImplicit false

namespace ClassAtlas

/-- A call that prepares the session and has not finished: its run, the numbers of the type system
and of the latest reset when it started, and what its worker has brought so far. -/
structure Pending where
  run : Run
  system : Nat
  resets : Nat
  result : Option (Except Fault (Index × Bool))

/-- A shared session: the calls that are under way by their callers, the number of the type system
that the session holds, how often it was reset, and the call whose index was installed last. -/
structure Life where
  desk : Desk
  pending : Nat → Option Pending
  system : Nat
  resets : Nat
  origin : Option Pending

/-- What happens to a shared session. -/
inductive Event where
  | start (caller : Nat)
  | work (caller : Nat)
  | breakDown (caller : Nat) (fault : Fault) (left : Memory)
  | finish (caller : Nat)
  | reset
  | clearSaved
  | ready

/-- What a worker that breaks down leaves behind.  A run of an older generation works on a memory of
its own, and only names and packages belong to the tables. -/
def Desk.breakDown (desk : Desk) (run : Run) (left : Memory) : Desk :=
  let session := desk.session
  let memory :=
    if run.generation = session.generation then left
    else { session.memory with names := left.names, packages := left.packages }
  { desk with session := { session with memory := memory } }

namespace Life

/-- A session that was just opened, on a snapshot file with a text perhaps, beside which an index
may be stored. -/
def opened (config : Config) (snapshot : Snapshot) (source : Option String)
    (stored : Option StoredFile) : Life :=
  { desk := ⟨{ Session.ofSnapshot config snapshot with source := source }, stored⟩
    pending := fun _ => none, system := 0, resets := 0, origin := none }

/-- Whether a run belongs to the generation of the session. -/
def IsCurrent (life : Life) (run : Run) : Prop :=
  run.generation = life.desk.session.generation

instance (life : Life) (run : Run) : Decidable (life.IsCurrent run) :=
  inferInstanceAs (Decidable (_ = _))

/-- Whether a caller has a run under way that carries the generation of the session. -/
def RunsNow (life : Life) (caller : Nat) : Prop :=
  ∃ pending, life.pending caller = some pending ∧ life.IsCurrent pending.run

/-- Sets what is under way for a caller. -/
def put (life : Life) (caller : Nat) (pending : Option Pending) : Life :=
  { life with pending := Function.update life.pending caller pending }

/-- A caller starts to prepare the session; a run is under way then if the session grants it. -/
def start (life : Life) (caller : Nat) : Life :=
  match life.desk.start with
  | (.ok (.inl run), desk) =>
    { life with desk := desk }.put caller (some ⟨run, life.system, life.resets, none⟩)
  | (_, desk) => { life with desk := desk }

/-- The worker of a call does its work. -/
def work (life : Life) (caller : Nat) (pending : Pending) : Life :=
  let (outcome, desk) := life.desk.perform pending.run
  { life with desk := desk }.put caller (some { pending with result := some outcome })

/-- The worker of a call breaks down. -/
def breakDown (life : Life) (caller : Nat) (pending : Pending) (fault : Fault) (left : Memory) :
    Life :=
  { life with desk := life.desk.breakDown pending.run left }.put caller
    (some { pending with result := some (.error fault) })

/-- A call hands the result of its worker to the session.  A current run that fails has the type
system replaced. -/
def finish (life : Life) (caller : Nat) (pending : Pending)
    (outcome : Except Fault (Index × Bool)) : Life :=
  let closed := { life with desk := (life.desk.finish pending.run outcome).2 }.put caller none
  if life.IsCurrent pending.run then
    match outcome with
    | .ok _ => { closed with origin := some pending }
    | .error _ => { closed with system := life.system + 1 }
  else closed

/-- The session is replaced by one that was reset. -/
def restart (life : Life) (desk : Desk) : Life :=
  { life with desk := desk, system := life.system + 1, resets := life.resets + 1 }

/-- What an event makes of a shared session.  A caller waits for the end of its call before it calls
again, a worker brings one result, and a call finishes after its worker. -/
def step (life : Life) : Event → Life
  | .start caller =>
    match life.pending caller with
    | none => life.start caller
    | some _ => life
  | .work caller =>
    match life.pending caller with
    | some ⟨run, system, resets, none⟩ => life.work caller ⟨run, system, resets, none⟩
    | _ => life
  | .breakDown caller fault left =>
    match life.pending caller with
    | some ⟨run, system, resets, none⟩ =>
      life.breakDown caller ⟨run, system, resets, none⟩ fault left
    | _ => life
  | .finish caller =>
    match life.pending caller with
    | some ⟨run, system, resets, some outcome⟩ =>
      life.finish caller ⟨run, system, resets, some outcome⟩ outcome
    | _ => life
  | .reset => life.restart life.desk.reset
  | .clearSaved => life.restart life.desk.clearSaved
  | .ready => life

/-- What some events make of a shared session, one after the other. -/
def after (life : Life) (events : List Event) : Life :=
  events.foldl step life

end Life

end ClassAtlas

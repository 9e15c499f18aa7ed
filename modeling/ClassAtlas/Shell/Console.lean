import ClassAtlas.Session
import ClassAtlas.Shell.Prompt
import ClassAtlas.Shell.Screen

/-!
# The console

The shell on one session: it reads lines, keeps the current class, and answers each line with a
text.  A line that fails changes nothing but what the session remembers.
-/

set_option autoImplicit false

namespace ClassAtlas.Shell

/-- Why a line of the shell fails. -/
inductive ShellFault where
  /-- the line is no command -/
  | line (fault : LineFault)
  /-- the command gives no query -/
  | query (cause : NoQuery)
  /-- the session does not answer -/
  | request (error : RequestError)
  /-- there is no such class to go to -/
  | noSuchClass (reason : String)
  deriving DecidableEq, Repr

/-- The wording of a fault of the shell. -/
def ShellFault.message : ShellFault → String
  | .line fault => fault.message
  | .query cause => cause.message
  | .request error => error.message
  | .noSuchClass reason => reason

/-- What a line of the shell is answered with. -/
inductive Reply where
  /-- there is nothing on the line -/
  | skipped
  /-- the shell is left -/
  | left
  /-- help is shown -/
  | helped
  /-- a text, which may be empty -/
  | shown (text : String)
  deriving DecidableEq, Repr

/-- A shell: its session and the class that commands without a class are about. -/
structure Console where
  desk : Desk
  current : Option CurrentClass

namespace Console

/-- A shell on a session, without a current class. -/
def ofDesk (desk : Desk) : Console := ⟨desk, none⟩

/-- Prepares the session, and stores the index if it had to be built.  A failed attempt to store it
is passed over. -/
def prepare (desk : Desk) : Except Fault IndexStats × Desk :=
  match desk.prepare with
  | (.error fault, desk) => (.error fault, desk)
  | (.ok stats, desk) => (.ok stats, if stats.loadedFromCache then desk else desk.save.2)

/-- Asks the session. -/
def ask (console : Console) (query : DocQuery) : Except RequestError QueryResult × Console :=
  let (answer, session) := console.desk.session.query query
  (answer, { console with desk := { console.desk with session := session } })

/-- The targets that leave the current class. -/
def leavesClass (target : String) : Bool :=
  target == ".." || target == "/"

/-- The class that an answer to the question after a target describes. -/
def describedClass (target : String) (listing : Listing ClassEntry) :
    Except ShellFault CurrentClass :=
  match listing.rows, listing.failures with
  | entry :: _, _ => .ok ⟨entry.id, entry.referenceName⟩
  | [], failure :: _ => .error (.noSuchClass failure.message)
  | [], [] => .error (.noSuchClass s!"class '{target}' not found")

/-- Makes a class the current one. -/
def enter (console : Console) (target : String) : Except ShellFault Unit × Console :=
  if leavesClass target then (.ok (), { console with current := none })
  else match console.ask (.describe target) with
    | (.error error, console) => (.error (.request error), console)
    | (.ok (.classes listing), console) =>
      match describedClass target listing with
      | .ok found => (.ok (), { console with current := some found })
      | .error fault => (.error fault, console)
    | (.ok _, console) => (.error (.noSuchClass "unexpected result for show"), console)

/-- The current class with its id. -/
def whereabouts (console : Console) : String :=
  match console.current with
  | some current => s!"{current.name} (id {current.id})"
  | none => "/"

/-- Runs a command. -/
def perform (console : Console) (command : Command) : Except ShellFault String × Console :=
  match command with
  | .enter target =>
    match console.enter target with
    | (outcome, console) => (outcome.map fun _ => "", console)
  | .whereabouts => (.ok console.whereabouts, console)
  | .save =>
    match console.desk.save with
    | (.ok _, desk) => (.ok "Index saved.", { console with desk := desk })
    | (.error fault, desk) =>
      (.error (.request (.ofFault fault)), { console with desk := desk })
  | .clear => (.ok "", console)
  | asking =>
    match asking.query? console.current with
    | .error cause => (.error (.query cause), console)
    | .ok none => (.ok "", console)
    | .ok (some query) =>
      match console.ask query with
      | (.ok result, console) => (.ok (screenText result), console)
      | (.error error, console) => (.error (.request error), console)

/-- The words that leave the shell. -/
def leaves (line : String) : Bool :=
  line == "exit" || line == "quit"

/-- Answers one line. -/
def answer (console : Console) (line : String) : Except ShellFault Reply × Console :=
  let line := Text.trimmed line
  if line.isEmpty then (.ok .skipped, console)
  else if leaves line then (.ok .left, console)
  else match Command.ofLine line with
    | .error (.refused .helpAsked) => (.ok .helped, console)
    | .error (.refused .versionAsked) => (.ok .helped, console)
    | .error fault => (.error (.line fault), console)
    | .ok command =>
      match console.perform command with
      | (outcome, console) => (outcome.map .shown, console)

/-- The prompt before the next line. -/
def prompt (console : Console) (label : String) : Prompt :=
  let types := match console.desk.session.ready with
    | .ok prepared => some prepared.atlas.tables.typeCount
    | .error _ => none
  ⟨label, console.current, types⟩

/-- Whether a line leaves the shell. -/
def hasLeft : Except ShellFault Reply → Bool
  | .ok .left => true
  | _ => false

/-- Answers lines one after the other, up to the one that leaves the shell.  Each answer comes with
the shell after it. -/
def run (console : Console) : List String → List (Except ShellFault Reply × Console)
  | [] => []
  | line :: lines =>
    let (outcome, after) := console.answer line
    (outcome, after) :: if hasLeft outcome then [] else after.run lines

end Console

end ClassAtlas.Shell

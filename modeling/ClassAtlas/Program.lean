import ClassAtlas.Shell.Console

/-!
# The program

What can be asked of the program on its command line: to index a snapshot and keep the index, to run
one command of the shell against a snapshot, to start the shell, and to remove kept indices.

A run sees the texts of the files that its command line names and the index that is kept for its
snapshot.  It gives the texts to print, the reason if it fails, and what becomes of the kept index.
-/

set_option autoImplicit false

namespace ClassAtlas.Program

open Arguments (Refusal)

/-- The name of the program. -/
def name : String := "refdoc"

/-- The version of the program. -/
def version : String := "0.4.0"

/-! ## The command line -/

/-- What is asked of the program. -/
inductive Task where
  | index (snapshot : String)
  | query (snapshot : String) (json : Bool) (words : List String)
  | shell (snapshot : String)
  | clear (snapshot : Option String)
  deriving DecidableEq, Repr

namespace Task

/-- The snapshot file that a task is about. -/
def snapshot? : Task → Option String
  | .index snapshot => some snapshot
  | .query snapshot _ _ => some snapshot
  | .shell snapshot => some snapshot
  | .clear snapshot => snapshot

end Task

/-- A command line: the task and the file with the settings. -/
structure CommandLine where
  settings : Option String
  task : Task
  deriving DecidableEq, Repr

/-- The place of the snapshot file. -/
def snapshotPlace (required : Bool) : Arguments.Place :=
  ⟨"snapshot", required, Arguments.filledText⟩

/-- The options that are known before and after the command. -/
def sharedChoices : List Arguments.Choice :=
  [⟨"config", none, .value Arguments.filledText⟩, ⟨"verbose", some 'v', .mark⟩, .help]

/-- The grammar of command lines. -/
def grammar : Arguments.Grammar where
  choices := sharedChoices ++ [⟨"version", some 'V', .version⟩]
  commands := [
    ⟨"index", sharedChoices, [snapshotPlace true], none⟩,
    ⟨"query", sharedChoices ++ [⟨"json", none, .mark⟩], [snapshotPlace true], some "args"⟩,
    ⟨"shell", sharedChoices, [snapshotPlace true], none⟩,
    ⟨"clear", sharedChoices, [snapshotPlace false], none⟩]

namespace CommandLine

/-- The task that a command and its arguments stand for. -/
def taskOf (command : String) (given : Arguments.Given) : Except Refusal Task :=
  match command, given.place? "snapshot" with
  | "index", some snapshot => .ok (.index snapshot)
  | "query", some snapshot => .ok (.query snapshot (given.marked "json") given.rest)
  | "shell", some snapshot => .ok (.shell snapshot)
  | "clear", snapshot => .ok (.clear snapshot)
  | _, _ => .error .placeMissing

/-- Reads a command line. -/
def ofArguments (arguments : List String) : Except Refusal CommandLine := do
  let invocation ← grammar.read arguments
  return ⟨invocation.value? "config", ← taskOf invocation.command invocation.given⟩

end CommandLine

/-! ## Runs -/

/-- Why a run fails. -/
inductive Failure where
  /-- a file cannot be read or does not have the right form -/
  | fault (fault : Fault)
  /-- the words of a query are no command of the shell -/
  | refused (refusal : Refusal)
  /-- the command gives no query -/
  | query (cause : Shell.NoQuery)
  /-- the command acts on the shell -/
  | shellOnly (verb : Shell.Verb)
  /-- the session does not answer -/
  | request (error : RequestError)

/-- The wording of a failure. -/
def Failure.message : Failure → String
  | .fault cause => cause.message
  | .refused refusal => refusal.message
  | .query cause => cause.message
  | .shellOnly verb => s!"'{verb.name}' only works inside the shell"
  | .request error => error.message

/-- What becomes of kept indices. -/
inductive Kept where
  /-- this is kept for the snapshot of the task -/
  | file (stored : Option StoredFile)
  /-- nothing is kept for any snapshot -/
  | nothing
  deriving DecidableEq, Repr

/-- What a run comes to. -/
structure Outcome where
  output : List String
  failure : Option Failure
  kept : Kept

/-- The status that the program ends with. -/
def Outcome.status (outcome : Outcome) : Nat :=
  if outcome.failure.isSome then 1 else 0

/-- What a run sees of the world. -/
structure Surroundings where
  /-- the text of the file with the settings, or why it cannot be read -/
  settings : Except String String
  /-- the text of the snapshot file, or why it cannot be read -/
  snapshot : Except String String
  /-- what is kept for the snapshot -/
  stored : Option StoredFile
  /-- where that is kept -/
  indexFile : String
  /-- the directory of kept indices for given settings -/
  indexDir : Config → String

namespace Surroundings

/-- A run that prints something and leaves what is kept as it is. -/
def printing (around : Surroundings) (output : List String) : Outcome :=
  ⟨output, none, .file around.stored⟩

/-- A run that fails at once. -/
def failing (around : Surroundings) (failure : Failure) : Outcome :=
  ⟨[], some failure, .file around.stored⟩

/-- The settings of the run. -/
def config (around : Surroundings) (line : CommandLine) : Except Fault Config :=
  if line.settings.isNone then .ok .default
  else match around.settings with
    | .error reason => .error (.unreadable reason)
    | .ok text =>
      match Config.ofText? text with
      | some config => .ok config
      | none => .error .malformed

/-- Opens the snapshot. -/
def openDesk (around : Surroundings) (config : Config) : Except Fault Desk :=
  match around.snapshot with
  | .error reason => .error (.unreadable reason)
  | .ok text =>
    match Session.ofFile? config text with
    | some session => .ok ⟨session, around.stored⟩
    | none => .error .malformed

/-- Indexes the snapshot. -/
def runIndex (around : Surroundings) (config : Config) (snapshot : String) : Outcome :=
  match around.openDesk config with
  | .error fault => around.failing (.fault fault)
  | .ok desk =>
    match Shell.Console.prepare desk with
    | (.error fault, desk) => ⟨[], some (.request (.ofFault fault)), .file desk.stored⟩
    | (.ok stats, desk) =>
      let first :=
        if stats.loadedFromCache then s!"Loaded stored index for {snapshot}"
        else s!"Indexed {snapshot}"
      ⟨[first, s!"Index file: {around.indexFile}", Shell.statsText stats], none,
        .file desk.stored⟩

/-- Asks one query. -/
def ask (around : Surroundings) (config : Config) (json : Bool) (query : DocQuery) : Outcome :=
  match around.openDesk config with
  | .error fault => around.failing (.fault fault)
  | .ok desk =>
    match desk.prepare with
    | (.error fault, desk) => ⟨[], some (.request (.ofFault fault)), .file desk.stored⟩
    | (.ok _, desk) =>
      match (desk.session.query query).1 with
      | .ok result =>
        ⟨[if json then result.toJson.pretty else Shell.screenText result], none,
          .file desk.stored⟩
      | .error error =>
        ⟨if json then [error.toJson.pretty] else [], some (.request error), .file desk.stored⟩

/-- Runs one command of the shell. -/
def runQuery (around : Surroundings) (config : Config) (json : Bool) (words : List String) :
    Outcome :=
  match Shell.Command.ofArguments words with
  | .error .helpAsked => around.printing [Shell.grammar.usage]
  | .error refusal => around.failing (.refused refusal)
  | .ok command =>
    match command.query? none with
    | .error cause => around.failing (.query cause)
    | .ok none => around.failing (.shellOnly command.verb)
    | .ok (some query) => around.ask config json query

/-- Removes kept indices. -/
def runClear (around : Surroundings) (config : Config) : Option String → Outcome
  | none => ⟨[s!"All indices under {around.indexDir config} cleared."], none, .nothing⟩
  | some snapshot =>
    match around.openDesk config with
    | .error fault => around.failing (.fault fault)
    | .ok desk => ⟨[s!"Index for {snapshot} cleared."], none, .file desk.clearSaved.stored⟩

/-- Runs a task.  The shell is only opened here: its lines come one by one. -/
def run (around : Surroundings) (line : CommandLine) : Outcome :=
  match around.config line with
  | .error fault => around.failing (.fault fault)
  | .ok config =>
    match line.task with
    | .index snapshot => around.runIndex config snapshot
    | .query _ json words => around.runQuery config json words
    | .clear snapshot => around.runClear config snapshot
    | .shell _ =>
      match around.openDesk config with
      | .error fault => around.failing (.fault fault)
      | .ok _ => around.printing []

end Surroundings

/-- How the program ends when its command line gives no task: what is printed, and the status. -/
def refusalOutput : Refusal → String × Nat
  | .helpAsked => (grammar.usage, 0)
  | .versionAsked => (s!"{name} {version}", 0)
  | refusal => (refusal.message, 2)

end ClassAtlas.Program

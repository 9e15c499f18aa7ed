import ClassAtlas.Program
import ClassAtlas.Shell.Completion
import ClassAtlas.Store.Text

/-!
# Running the program

The outer layer: reads the command line, the files that it names and the lines of the shell, and
prints what the program answers.
-/

set_option autoImplicit false

namespace ClassAtlas.Program

/-- The text of a file, or why it cannot be read. -/
def readFile (path : String) : IO (Except String String) := do
  try return .ok (← IO.FS.readFile path)
  catch error => return .error (toString error)

/-- The directory of kept indices. -/
def indexDirOf (override : Option String) (home : String) (config : Config) : String :=
  override.getD (config.indexDir home)

/-- The file in which the index of a snapshot is kept. -/
def indexFileOf (dir snapshot : String) : String :=
  s!"{dir}/{hash snapshot}.json"

/-- What is kept in a file, if the file exists. -/
def readStored (path : String) : IO (Option StoredFile) := do
  match ← readFile path with
  | .ok text => return some (.ofText text)
  | .error _ => return none

/-- Keeps an index in a file, or removes the file. -/
def writeStored (dir path : String) (stored : Option StoredFile) : IO Unit := do
  match stored with
  | some file =>
    IO.FS.createDirAll dir
    IO.FS.writeFile path file.toText
  | none => try IO.FS.removeFile path catch _ => pure ()

/-- Prints the answer to a line of the shell. -/
def printReply : Except Shell.ShellFault Shell.Reply → IO Unit
  | .ok .skipped => pure ()
  | .ok .left => pure ()
  | .ok .helped => IO.println Shell.grammar.usage
  | .ok (.shown text) => if text.isEmpty then pure () else IO.println text
  | .error fault => IO.eprintln s!"Error: {fault.message}"

/-- Reads lines and answers them until the shell is left. -/
partial def serveShell (label : String) (console : Shell.Console) : IO Shell.Console := do
  let prompt := console.prompt label
  IO.print prompt.left
  (← IO.getStdout).flush
  let line ← (← IO.getStdin).getLine
  if line.isEmpty then
    IO.println "Bye!"
    return console
  let (outcome, console) := console.answer line
  printReply outcome
  if Shell.Console.hasLeft outcome then return console
  serveShell label console

/-- Prepares a session and serves its shell. -/
def runShell (around : Surroundings) (line : CommandLine) (snapshot : String) : IO Outcome := do
  let opened := do
    let config ← around.config line
    around.openDesk config
  match opened with
  | .error fault => return around.failing (.fault fault)
  | .ok desk =>
    IO.println s!"Snapshot: {snapshot}"
    match Shell.Console.prepare desk with
    | (.error fault, desk) => return ⟨[], some (.request (.ofFault fault)), .file desk.stored⟩
    | (.ok stats, desk) =>
      let source := if stats.loadedFromCache then "Index loaded from disk" else "Indexed"
      IO.println s!"{source}. Types: {stats.types}, Edges: {stats.edges}"
      for warning in stats.warnings do
        IO.println s!"warning: {warning}"
      IO.println "Type 'help' for commands."
      let console ← serveShell snapshot (.ofDesk desk)
      return ⟨[], none, .file console.desk.stored⟩

end ClassAtlas.Program

open ClassAtlas Program in
/-- Runs the program. -/
def main (arguments : List String) : IO UInt32 := do
  match CommandLine.ofArguments arguments with
  | .error refusal =>
    let (text, status) := refusalOutput refusal
    if status = 0 then IO.println text else IO.eprintln s!"Error: {text}"
    return status.toUInt32
  | .ok line =>
    let settings ← match line.settings with
      | some path => readFile path
      | none => pure (.error "")
    let home := (← IO.getEnv "HOME").getD "."
    let dirOf := indexDirOf (← IO.getEnv "REFDOC_INDEX_DIR") home
    let snapshot := line.task.snapshot?.getD ""
    let dir := dirOf (match settings.toOption.bind Config.ofText? with
      | some config => config
      | none => .default)
    let indexFile := indexFileOf dir snapshot
    let around : Surroundings := {
      settings, indexFile
      snapshot := ← readFile snapshot
      stored := ← readStored indexFile
      indexDir := dirOf }
    let outcome ← match line.task with
      | .shell path => runShell around line path
      | _ => pure (around.run line)
    for text in outcome.output do
      IO.println text
    match outcome.kept with
    | .nothing => try IO.FS.removeDirAll dir catch _ => pure ()
    | .file stored => if stored ≠ around.stored then writeStored dir indexFile stored
    if let some failure := outcome.failure then
      IO.eprintln s!"Error: {failure.message}"
    return outcome.status.toUInt32

/-!
# Arguments of commands

A small grammar of command lines and the reader for it.  A command line has two levels: options that
stand before a command, and the options and places of the command itself.  Arguments are read from
left to right:

* an argument that starts with two hyphens names an option by its long name, with its value after an
  equals sign or in the next argument; one hyphen is followed by short names;
* `--` alone says that only places follow, and a command among them is refused as such;
* the first other argument at the upper level is the command, every other one fills the next place.

An option's value is looked at when the next option or place is met, so a mistake further left wins.
-/

set_option autoImplicit false

namespace ClassAtlas.Arguments

/-- Why a list of arguments gives no invocation. -/
inductive Refusal where
  /-- the help text was asked for -/
  | helpAsked
  /-- the version was asked for -/
  | versionAsked
  /-- nothing at all was given where a command is needed -/
  | nothingGiven
  /-- there are options but no command -/
  | commandMissing
  /-- a word that is no command stands where a command is needed -/
  | unknownCommand
  /-- an option that does not exist, or one word too many -/
  | unknownArgument
  /-- a place that has to be filled is empty -/
  | placeMissing
  /-- an option stands without its value, or the value is empty where it must not be -/
  | valueMissing
  /-- a value that its option does not accept -/
  | badValue
  /-- an option that may be given once is given again -/
  | givenTwice
  /-- a value is given to an option that takes none -/
  | valueRefused
  deriving DecidableEq, Repr

/-- The wording of a refusal. -/
def Refusal.message : Refusal → String
  | .helpAsked => "help is asked for"
  | .versionAsked => "the version is asked for"
  | .nothingGiven => "nothing is given"
  | .commandMissing => "a command is missing"
  | .unknownCommand => "there is no such command"
  | .unknownArgument => "an argument is not expected here"
  | .placeMissing => "a required argument is missing"
  | .valueMissing => "an option is without its value"
  | .badValue => "an option does not accept its value"
  | .givenTwice => "an option is given twice"
  | .valueRefused => "an option takes no value"

/-- What is wrong with a value, if anything. -/
abbrev Check := String → Option Refusal

/-- Accepts every text. -/
def anyText : Check := fun _ => none

/-- Accepts every text but the empty one. -/
def filledText : Check := fun text => if text.isEmpty then some .valueMissing else none

/-- What an option is for. -/
inductive Purpose where
  /-- it is given or not -/
  | mark
  /-- it carries a value -/
  | value (check : Check)
  /-- it asks for the help text -/
  | help
  /-- it asks for the version -/
  | version

/-- An option. -/
structure Choice where
  long : String
  short : Option Char
  purpose : Purpose

/-- The option that asks for help. -/
def Choice.help : Choice := ⟨"help", some 'h', .help⟩

/-- A place for an argument without a name. -/
structure Place where
  name : String
  required : Bool
  check : Check

/-- The options and places of one command.  When `rest` is set, the place after the others takes all
arguments that are left, at least one.  The first of them may look like an option that is not known;
those after it may look like any option. -/
structure Command where
  name : String
  choices : List Choice
  places : List Place
  rest : Option String

/-- A grammar of command lines. -/
structure Grammar where
  choices : List Choice
  commands : List Command

/-- What one level of a command line gives. -/
structure Given where
  marks : List String
  values : List (String × String)
  places : List (String × String)
  rest : List String
  deriving Inhabited

namespace Given

/-- Nothing is given. -/
def nothing : Given := ⟨[], [], [], []⟩

/-- Whether a mark is given. -/
def marked (given : Given) (name : String) : Bool :=
  given.marks.contains name

/-- The value of an option. -/
def value? (given : Given) (name : String) : Option String :=
  given.values.lookup name

/-- The argument in a place. -/
def place? (given : Given) (name : String) : Option String :=
  given.places.lookup name

end Given

/-- An argument that has been met and is not yet looked at. -/
inductive Pending where
  /-- an option that waits for its value -/
  | awaiting (name : String) (check : Check)
  /-- an option with its value -/
  | valued (name : String) (check : Check) (text : String)
  /-- a place with its argument -/
  | placed (place : Place) (text : String)

/-- How far the arguments of a level have been read. -/
structure Progress where
  given : Given
  pending : Option Pending
  /-- the number of places that are filled -/
  filled : Nat
  /-- only places follow -/
  onlyPlaces : Bool

namespace Progress

/-- Nothing is read. -/
def start : Progress := ⟨.nothing, none, 0, false⟩

/-- Records the value of an option. -/
def record (progress : Progress) (name : String) (check : Check) (text : String) :
    Except Refusal Progress :=
  if (progress.given.value? name).isSome then .error .givenTwice
  else match check text with
    | some refusal => .error refusal
    | none =>
      .ok { progress with
        given := { progress.given with values := progress.given.values ++ [(name, text)] } }

/-- Looks at the argument that is pending. -/
def settle (progress : Progress) : Except Refusal Progress :=
  let settled := { progress with pending := none }
  match progress.pending with
  | none => .ok settled
  | some (.awaiting _ _) => .error .valueMissing
  | some (.valued name check text) => settled.record name check text
  | some (.placed place text) =>
    match place.check text with
    | some refusal => .error refusal
    | none =>
      .ok { settled with
        given := { settled.given with places := settled.given.places ++ [(place.name, text)] } }

/-- Takes a mark. -/
def mark (progress : Progress) (name : String) : Except Refusal Progress :=
  if progress.given.marked name then .error .givenTwice
  else .ok { progress with
    given := { progress.given with marks := progress.given.marks ++ [name] } }

/-- Takes an option that carries no value of its own here. -/
def take (progress : Progress) (choice : Choice) : Except Refusal Progress := do
  let settled ← progress.settle
  match choice.purpose with
  | .mark => settled.mark choice.long
  | .value check => return { settled with pending := some (.awaiting choice.long check) }
  | .help => throw .helpAsked
  | .version => throw .versionAsked

/-- Takes an option with a value after an equals sign. -/
def takeWith (progress : Progress) (choice : Choice) (text : String) : Except Refusal Progress :=
  match choice.purpose with
  | .value check => do
    let settled ← progress.settle
    settled.record choice.long check text
  | .mark => .error .valueRefused
  | .help => .error .valueRefused
  | .version => .error .valueRefused

/-- Takes options by their short names. -/
def takeShort (choices : List Choice) (progress : Progress) : List Char → Except Refusal Progress
  | [] => .ok progress
  | c :: rest =>
    match choices.find? fun choice => choice.short == some c with
    | none => .error .unknownArgument
    | some choice => do
      let taken ← progress.take choice
      takeShort choices taken rest

end Progress

/-- How an argument looks. -/
inductive Form where
  /-- two hyphens -/
  | separator
  /-- a long name, perhaps with a value -/
  | long (name : String) (text : Option String)
  /-- short names -/
  | short (names : List Char)
  /-- anything else -/
  | plain
  deriving Repr

/-- The form of an argument.  A single hyphen is no option. -/
def Form.of (argument : String) : Form :=
  match argument.toList with
  | ['-', '-'] => .separator
  | '-' :: '-' :: name =>
    match name.span (· != '=') with
    | (name, []) => .long (String.ofList name) none
    | (name, _ :: text) => .long (String.ofList name) (some (String.ofList text))
  | '-' :: c :: names => .short (c :: names)
  | _ => .plain

/-- One level of a grammar: the options and places that are known there, and the words that leave it
for the level below. -/
structure Level where
  choices : List Choice
  places : List Place
  rest : Option String
  commands : List String

namespace Level

/-- Whether the next place takes arguments that look like options but are none. -/
def takesAll (level : Level) (progress : Progress) : Bool :=
  level.rest.isSome && level.places.length ≤ progress.filled

/-- Whether an option has a short name. -/
def knowsShort (level : Level) (name : Char) : Bool :=
  level.choices.any fun choice => choice.short == some name

/-- Whether a word leaves the level for the one below: a command, or the word `help` where there
are commands. -/
def leads (level : Level) (word : String) : Bool :=
  !level.commands.isEmpty && (word == "help" || level.commands.contains word)

/-- Puts an argument into the next place.  The second part says whether all arguments after it
belong there too. -/
def fill (level : Level) (progress : Progress) (argument : String) :
    Except Refusal (Progress × Bool) :=
  match level.places[progress.filled]? with
  | some place => do
    let settled ← progress.settle
    return ({ settled with
      pending := some (.placed place argument), filled := settled.filled + 1 }, false)
  | none =>
    if level.rest.isSome then do
      let settled ← progress.settle
      return (settled, true)
    else if level.commands.isEmpty || (progress.onlyPlaces && level.leads argument) then
      .error .unknownArgument
    else .error .unknownCommand

/-- Takes an argument as the value of the option that waits for one, or puts it into a place. -/
def word (level : Level) (progress : Progress) (argument : String) :
    Except Refusal (Progress × Bool) :=
  match progress.onlyPlaces, progress.pending with
  | false, some (.awaiting name check) =>
    .ok ({ progress with pending := some (.valued name check argument) }, false)
  | _, _ => level.fill progress argument

/-- Takes one argument that is no command. -/
def step (level : Level) (progress : Progress) (argument : String) :
    Except Refusal (Progress × Bool) :=
  if progress.onlyPlaces then level.word progress argument
  else match Form.of argument with
    | .separator => .ok ({ progress with onlyPlaces := true }, false)
    | .long name text =>
      match level.choices.find? fun choice => choice.long == name, text with
      | some choice, none => (progress.take choice).map fun taken => (taken, false)
      | some choice, some text => (progress.takeWith choice text).map fun taken => (taken, false)
      | none, _ =>
        if level.takesAll progress then level.word progress argument else .error .unknownArgument
    | .short names =>
      if level.takesAll progress && !names.all level.knowsShort then level.word progress argument
      else (progress.takeShort level.choices names).map fun taken => (taken, false)
    | .plain => level.word progress argument

/-- Whether an option waits for its value. -/
def awaits (progress : Progress) : Bool :=
  match progress.pending with
  | some (.awaiting _ _) => true
  | _ => false

/-- What is asked for by the word `help` and the words after it. -/
def helpOn (level : Level) : List String → Refusal
  | [] => .helpAsked
  | [topic] =>
    if topic == "help" || level.commands.contains topic then .helpAsked else .unknownCommand
  | _ => .unknownCommand

/-- Reads the arguments of a level, up to the command that leaves it. -/
def read (level : Level) :
    Progress → List String → Except Refusal (Progress × Option (String × List String))
  | progress, [] => .ok (progress, none)
  | progress, argument :: arguments =>
    let mayLeave := !level.commands.isEmpty && !progress.onlyPlaces && !awaits progress
    if mayLeave && level.commands.contains argument then
      .ok (progress, some (argument, arguments))
    else if mayLeave && argument == "help" then .error (level.helpOn arguments)
    else do
      let (progress, all) ← level.step progress argument
      if all then
        return ({ progress with
          given := { progress.given with rest := argument :: arguments } }, none)
      else level.read progress arguments

/-- What a level gives once all its arguments are read. -/
def finish (level : Level) (progress : Progress) : Except Refusal Given := do
  let settled ← progress.settle
  let given := settled.given
  if level.places.any fun place => place.required && (given.place? place.name).isNone then
    throw .placeMissing
  if level.rest.isSome && given.rest.isEmpty then throw .placeMissing
  return given

end Level

/-- A command line that has been understood. -/
structure Invocation where
  /-- what stands before the command -/
  above : Given
  command : String
  given : Given

/-- The value of an option that is known at both levels.  The one after the command counts. -/
def Invocation.value? (invocation : Invocation) (name : String) : Option String :=
  (invocation.given.value? name).or (invocation.above.value? name)

namespace Grammar

/-- The upper level. -/
def above (grammar : Grammar) : Level :=
  ⟨grammar.choices, [], none, grammar.commands.map (·.name)⟩

/-- The level of a command. -/
def below (command : Command) : Level :=
  ⟨command.choices, command.places, command.rest, []⟩

/-- Reads a command line. -/
def read (grammar : Grammar) (arguments : List String) : Except Refusal Invocation := do
  let (progress, entered) ← grammar.above.read .start arguments
  match entered with
  | none =>
    let given ← grammar.above.finish progress
    throw (if given.marks.isEmpty && given.values.isEmpty then .nothingGiven else .commandMissing)
  | some (name, arguments) =>
    match grammar.commands.find? fun command => command.name == name with
    | none => throw .unknownCommand
    | some command =>
      let (inner, _) ← (below command).read .start arguments
      let given ← (below command).finish inner
      let above ← grammar.above.finish progress
      return ⟨above, name, given⟩

/-- A short help text: the commands with their places. -/
def usage (grammar : Grammar) : String :=
  "\n".intercalate ("Commands:" :: grammar.commands.map fun command =>
    let places := command.places.map (·.name) ++ command.rest.toList
    String.join ("  " :: command.name :: places.map fun place => s!" <{place}>"))

end Grammar

end ClassAtlas.Arguments

import LabLifecycle.Stage

/-!
# Arguments of the command line

The command `apply` applies apps to an experiment in a file, `list` lists the names that a
scenario can declare. A settings file can be given before or after the command, or in the
environment; what is given on the command line counts more, and most what comes after the
command.

An option takes its value after an equals sign, or from the next argument unless that looks
like an option. No option can be given twice at one level. Help and version are answered as
soon as they are met; so a mistake before them counts, and one after them does not.
-/
namespace LabLifecycle.Cli

/-- What `apply` is asked to do. -/
structure ApplyRequest where
  stage : Stage
  experiment : String
  dryRun : Bool := false
  output : Option String := none
  deriving DecidableEq, Repr

/-- A command. -/
inductive Command where
  | apply (request : ApplyRequest)
  | list
  deriving DecidableEq, Repr

/-- What arguments ask for: a command with a settings file, or help, or the version. -/
inductive Request where
  | run (config : Option String) (command : Command)
  | help
  | version
  deriving DecidableEq, Repr

/-- What an option is for. -/
inductive OptionKind where
  | path
  | stage
  | switch
  | help
  | version
  deriving DecidableEq, Repr

/-- A level of the command line: its long and short options, and the commands below it. -/
structure Level where
  long : List (String × OptionKind)
  short : List (Char × OptionKind) := [('h', .help)]
  commands : List String := []
  deriving DecidableEq, Repr

/-- The level before the command. -/
def topLevel : Level where
  long := [("config", .path), ("help", .help), ("version", .version)]
  short := [('h', .help), ('V', .version)]
  commands := ["apply", "list", "help"]

/-- The level of `apply`. -/
def applyLevel : Level where
  long := [
    ("config", .path), ("stage", .stage), ("experiment", .path), ("dry-run", .switch),
    ("output", .path), ("help", .help)]

/-- The level of `list`. -/
def listLevel : Level where
  long := [("config", .path), ("help", .help)]

/-- What an argument looks like. -/
inductive Argument where
  | long (name : String) (value : Option String)
  | short (options : List Char)
  | terminator
  | plain (text : String)
  deriving DecidableEq, Repr

/-- Look at an argument. A dash alone is no option. -/
def Argument.ofString (s : String) : Argument :=
  match s.toList with
  | ['-', '-'] => .terminator
  | '-' :: '-' :: text =>
    let name := text.takeWhile (· != '=')
    .long (String.ofList name)
      (if name.length < text.length then some (String.ofList (text.drop (name.length + 1)))
      else none)
  | '-' :: c :: rest => .short (c :: rest)
  | _ => .plain s

/-- The options given at a level, with their values. -/
abbrev Given := List (String × String)

/-- Whether an option of a kind takes a value. -/
def OptionKind.allows (value : String) : OptionKind → Bool
  | .path => value != ""
  | .stage => (Stage.ofName? value).isSome
  | .switch | .help | .version => false

/-- The options given after another one, unless that was given before or has a value that
it does not take. -/
def Given.add (g : Given) (name : String) (kind : OptionKind) (value : String) :
    Option Given :=
  if kind.allows value && (g.lookup name).isNone then some (g ++ [(name, value)]) else none

/-- Why reading a level stops: its arguments are over, a command follows, help or the
version is asked for, or there is a mistake. -/
inductive Ending where
  | finished (given : Given)
  | command (given : Given) (name : String) (rest : List String)
  | asked (request : Request)
  | mistaken
  deriving DecidableEq, Repr

/-- What an option without a value means: a switch is on, or the reading stops. -/
def Given.turn (g : Given) (name : String) : OptionKind → Except Ending Given
  | .switch => if (g.lookup name).isNone then .ok (g ++ [(name, "")]) else .error .mistaken
  | .help => .error (.asked .help)
  | .version => .error (.asked .version)
  | .path | .stage => .error .mistaken

/-- Read the arguments of a level. An option may be waiting for its value. -/
def Level.read (l : Level) : List String → Option (String × OptionKind) → Given → Ending
  | [], none, g => .finished g
  | [], some _, _ => .mistaken
  | a :: rest, waiting, g =>
    match Argument.ofString a, waiting with
    | .plain text, some (name, kind) =>
      match g.add name kind text with
      | some g => l.read rest none g
      | none => .mistaken
    | .plain text, none =>
      if l.commands.contains text then .command g text rest else .mistaken
    | _, some _ => .mistaken
    | .terminator, none => if rest.isEmpty then .finished g else .mistaken
    | .short options, none =>
      match options.head?.bind fun c => l.short.lookup c with
      | some .help => .asked .help
      | some .version => .asked .version
      | _ => .mistaken
    | .long name value, none =>
      match l.long.lookup name, value with
      | none, _ => .mistaken
      | some kind, some value =>
        match g.add name kind value with
        | some g => l.read rest none g
        | none => .mistaken
      | some .path, none => l.read rest (some (name, .path)) g
      | some .stage, none => l.read rest (some (name, .stage)) g
      | some kind, none =>
        match g.turn name kind with
        | .ok g => l.read rest none g
        | .error ending => ending

/-- What `apply` is asked to do by the options given. -/
def applyRequest? (g : Given) : Option ApplyRequest := do
  let stage ← Stage.ofName? (← g.lookup "stage")
  let experiment ← g.lookup "experiment"
  return {
    stage := stage, experiment := experiment, dryRun := (g.lookup "dry-run").isSome,
    output := g.lookup "output" }

/-- The settings file: the one given after the command, or before it, or in the
environment. The value in the environment is looked at, and refused if it is empty, when one
of the levels does not give a file. -/
def configPath? (environment : Option String) (outer inner : Given) : Option (Option String) :=
  let given := (inner.lookup "config").or (outer.lookup "config")
  if environment = some "" &&
      ((inner.lookup "config").isNone || (outer.lookup "config").isNone) then none
  else some (given.or environment)

/-- A command with the options given before and after it. -/
def finish? (environment : Option String) (outer : Given) (name : String) (inner : Given) :
    Option Request := do
  let config ← configPath? environment outer inner
  if name = "apply" then return .run config (.apply (← applyRequest? inner))
  else return .run config .list

/-- What is asked for after `help`: it can be asked for on one command at most. -/
def helpRequest? : List String → Option Request
  | [] => some .help
  | [command] => if topLevel.commands.contains command then some .help else none
  | _ => none

/-- What arguments ask for, or nothing if they are mistaken. The settings file may be given
in the environment. -/
def Request.ofArguments (environment : Option String) (arguments : List String) :
    Option Request :=
  match topLevel.read arguments none [] with
  | .asked request => some request
  | .finished _ | .mistaken => none
  | .command outer name rest =>
    if name = "help" then helpRequest? rest
    else
      match (if name = "apply" then applyLevel else listLevel).read rest none [] with
      | .asked request => some request
      | .finished inner => finish? environment outer name inner
      | .command .. | .mistaken => none

end LabLifecycle.Cli

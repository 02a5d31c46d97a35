import LabLifecycle.Shell.Builtins
import LabLifecycle.Shell.Redirection

/-!
# Finding commands

What the name of a command means: a function, a command of the shell itself, or a program,
which is looked for on the search path unless its name has a slash in it.
-/
namespace LabLifecycle.Shell

/-- Commands of the shell itself. All but the last ones need nothing but the state. -/
inductive Own where
  | plain (run : Builtin)
  | evaluate
  | source
  | replace
  | bypass
  | describe
  | track

/-- The commands of the shell itself by name. -/
def ownCommands : List (String × Own) := [
  (".", .source), (":", .plain fun _ => return 0), ("[", .plain Builtin.bracket),
  ("alias", .plain Builtin.defineAliases), ("bg", .plain Builtin.resume),
  ("break", .plain (Builtin.leaveLoops .loops)), ("cd", .plain Builtin.cd),
  ("chdir", .plain Builtin.cd), ("command", .bypass),
  ("continue", .plain (Builtin.leaveLoops .round)), ("echo", .plain Builtin.echo),
  ("eval", .evaluate), ("exec", .replace), ("exit", .plain Builtin.exit),
  ("export", .plain Builtin.exportNames), ("false", .plain fun _ => return 1),
  ("fg", .plain Builtin.resume), ("getopts", .plain Builtin.getopts), ("hash", .track),
  ("jobs", .plain Builtin.jobs), ("kill", .plain Builtin.kill),
  ("local", .plain Builtin.localNames), ("printf", .plain Builtin.printf),
  ("pwd", .plain Builtin.pwd), ("read", .plain Builtin.read),
  ("readonly", .plain Builtin.fixNames), ("return", .plain Builtin.leaveBody),
  ("set", .plain Builtin.set), ("shift", .plain Builtin.shift), ("test", .plain Builtin.test),
  ("times", .plain Builtin.times), ("trap", .plain Builtin.trap),
  ("true", .plain fun _ => return 0), ("type", .describe), ("ulimit", .plain Builtin.ulimit),
  ("umask", .plain Builtin.umask), ("unalias", .plain Builtin.unalias),
  ("unset", .plain Builtin.unset), ("wait", .plain Builtin.wait)]

/-- The command of the shell itself of a name. -/
def own? (name : Raw) : Option Own := ownCommands.lookup (String.ofList name)

/-- The commands whose mistakes end the shell, and whose assignments last. -/
def specialNames : List String :=
  [".", ":", "break", "continue", "eval", "exec", "exit", "export", "local", "readonly", "return",
    "set", "shift", "times", "trap", "unset"]

/-- Whether mistakes of a command end the shell. -/
def isSpecialCommand (name : Raw) : Bool := specialNames.contains (String.ofList name)

/-- The commands to which assignments are arguments like any other. -/
def takesAssignments (name : Raw) : Bool :=
  ["alias", "export", "local", "readonly"].contains (String.ofList name)

/-- The search path that is used if there is none. -/
def usualSearchPath : Raw :=
  "/usr/local/sbin:/usr/local/bin:/usr/sbin:/usr/bin:/sbin:/bin".toList

/-- The paths that a name can stand for on a search path. -/
def candidates (searchPath name : Raw) : List Raw :=
  (searchPath.splitOn ':').map fun d => if d.isEmpty then name else d ++ '/' :: name

/-- Whether a file is missing, as opposed to out of reach. -/
def isMissing : FileError → Bool
  | .notFound | .notDirectory => true
  | _ => false

/-- The first of some paths that leads to a program, or why the last one that exists does
not. -/
def firstProgram : List Raw → FileError → Step (Except FileError Raw)
  | [], reason => return .error reason
  | path :: rest, reason => do
    match ← Step.request (.info path true) with
    | .error e => firstProgram rest (if isMissing e then reason else e)
    | .ok i =>
      if i.kind == .file && FileTree.hasExecuteBit i.mode then return .ok path
      else firstProgram rest .denied

/-- The program of a name on a search path. -/
def findProgram (searchPath name : Raw) : Step (Except FileError Raw) :=
  firstProgram (candidates searchPath name) .notFound

/-- What is said about a command that cannot be run. -/
def commandReason (name : Raw) (e : FileError) : String :=
  String.ofList name ++ ": " ++ fileReason "not found" e

/-- Become the first of some programs that can be run, or tell why that fails. A file that is
no program is taken for a script. -/
def becomeFirst (arguments : List Raw) (environment : Environment) :
    List Raw → FileError → Step FileError
  | [], reason => return reason
  | path :: rest, reason => do
    match ← Step.request (.become path arguments environment) with
    | .notExecutable =>
      let shell := "/bin/sh".toList
      let _ ← Step.request (.become shell (shell :: path :: arguments.tail) environment)
      becomeFirst arguments environment rest .notExecutable
    | e => becomeFirst arguments environment rest (if isMissing e then reason else e)

/-- Become a program. If that fails, the shell ends. -/
def become {α : Type} (searchPath : Raw) (words : List Raw) : Step α := do
  let environment := (← get).environment
  let name := words.headD []
  let paths := if name.contains '/' then [name] else candidates searchPath name
  let e ← becomeFirst words environment paths .notFound
  let missing := match e with
    | .notFound | .notDirectory | .linkLoop => true
    | _ => false
  Step.setStatus (if missing then 127 else 126)
  Step.warn (commandReason name e)
  Step.jump .ended

/-- The search path. -/
def searchPath : Step Raw := do return ((← get).value? "PATH".toList).getD []

/-- Remember that a program was looked up. -/
def trackName (name : Raw) : Step Unit :=
  modify fun s => { s with tracked := if s.tracked.contains name then s.tracked else
    name :: s.tracked }

/-- Say what the name of a command means, at length or in short. -/
def describe (verbose : Bool) (path : Option Raw) (name : Raw) : Step Nat := do
  let s ← get
  let say (long short : Raw) : Step Nat :=
    Builtin.output (if verbose then name ++ long ++ ['\n'] else short ++ ['\n'])
  let missing : Step Nat := do
    if verbose then let _ ← Builtin.output (name ++ ": not found\n".toList)
    return 127
  if (keywords.map String.toList).contains name then say " is a shell keyword".toList name
  else match s.aliases.lookup name with
  | some value =>
    if verbose then say (" is an alias for ".toList ++ value) []
    else Builtin.output ("alias ".toList ++ Builtin.aliasLine name value)
  | none =>
    if name.contains '/' then
      match ← Step.request (.info name true) with
      | .ok _ => say (" is ".toList ++ name) name
      | .error _ => missing
    else if (s.functions.lookup name).isSome then say " is a shell function".toList name
    else if (own? name).isSome then
      say (if isSpecialCommand name then " is a special shell builtin".toList
        else " is a shell builtin".toList) name
    else
      match ← findProgram (path.getD (← searchPath)) name with
      | .error _ => missing
      | .ok found =>
        let known := s.tracked.contains name
        trackName name
        say ((if known then " is a tracked alias for " else " is ").toList ++ found) found

/-- Look programs up, forget about them, or list them. -/
def track : Builtin := fun arguments => do
  let (found, names) ← Builtin.letters "rv" arguments
  if found.contains 'r' then
    modify fun s => { s with tracked := [] }
    return 0
  else if names.isEmpty then
    let path ← searchPath
    (← get).tracked.forM fun name => do
      match ← findProgram path name with
      | .ok p =>
        let _ ← Builtin.output (p ++ ['\n'])
      | .error _ => pure ()
    return 0
  else
    names.foldlM (fun status name => do
      let s ← get
      if (own? name).isSome || (s.functions.lookup name).isSome then return status
      else
        match ← findProgram (← searchPath) name with
        | .ok _ =>
          trackName name
          return status
        | .error e =>
          Step.warn (commandReason name e)
          return 1) 0

end LabLifecycle.Shell

import LabLifecycle.Tools.Options

/-!
# Running a program in another environment

`env` runs a program in an environment to which names and values are added, or from which
names are taken; without a program it writes that environment.
-/
namespace LabLifecycle.Surround

/-- The options of `env`. -/
def rules : List OptionRule := [
  ⟨'i', ["ignore-environment"], .none, true⟩, ⟨'u', ["unset"], .needed, true⟩,
  ⟨'C', ["chdir"], .needed, true⟩, ⟨'0', ["null"], .none, true⟩,
  ⟨'v', ["debug"], .none, true⟩, ⟨'S', ["split-string"], .needed, true⟩]

/-- The environment with a value for a name. -/
def put (environment : Environment) (name value : Raw) : Environment :=
  if environment.any (·.1 == name) then
    environment.map fun v => if v.1 == name then (name, value) else v
  else environment ++ [(name, value)]

/-- The environment that options and assignments make, and the words after them. -/
def assigned : Environment → List Raw → Environment × List Raw
  | environment, [] => (environment, [])
  | environment, word :: rest =>
    match Raw.cut? '=' word with
    | some (name, value) => assigned (put environment name value) rest
    | none => (environment, word :: rest)

/-- The arguments with those in the place of a text that is to be split. -/
def split (words : List Raw) : List Raw :=
  match words with
  | name :: ('-' :: 'S' :: text) :: rest =>
    let (text, rest) := if text.isEmpty then (rest.headD [], rest.tail) else (text, rest)
    name :: ((text.splitOn ' ').filter (!·.isEmpty)) ++ rest
  | words => words

/-- Become the first of some programs that can be run, or tell why that fails. -/
def becomeFirst (words : List Raw) (environment : Environment) :
    List Raw → FileError → Action FileError
  | [], reason => return reason
  | path :: rest, reason => do
    match ← Action.request (.become path words environment) with
    | .notExecutable =>
      let shell := "/bin/sh".toList
      Action.request (.become shell (shell :: path :: words.tail) environment)
    | .denied => becomeFirst words environment rest .denied
    | .notFound | .notDirectory => becomeFirst words environment rest reason
    | e => return e

/-- The paths to look at for a program. -/
def paths (environment : Environment) (program : Raw) : List Raw :=
  if program.contains '/' then [program]
  else
    let searchPath := (environment.lookup "PATH".toList).getD "/bin:/usr/bin".toList
    (searchPath.splitOn ':').map fun d => if d.isEmpty then program else d ++ '/' :: program

/-- Write an environment. -/
def write (stop : Char) (environment : Environment) : Action Nat := do
  let lines := environment.map fun (name, value) => name ++ '=' :: value ++ [stop]
  let _ ← Action.write 1 lines.flatten
  return 0

/-- The program. -/
def program : Program := fun words environment => Action.task do
  let words := split words
  let name := words.headD []
  match Arguments.ofWords rules words.tail false with
  | .error fault =>
    Action.blameArguments name fault.message
    return 125
  | .ok a =>
    let (clears, operands) := match a.operands with
      | ['-'] :: rest => (true, rest)
      | operands => (a.has 'i', operands)
    let start : Environment := if clears then [] else environment
    let removed := a.options.filterMap fun o => if o.1 = 'u' then o.2 else none
    let (environment, operands) :=
      assigned (start.filter fun v => !removed.contains v.1) operands
    match operands with
    | [] => write (if a.has '0' then '\x00' else '\n') environment
    | program :: _ =>
      let e ← becomeFirst operands environment (paths environment program) .notFound
      Action.blame name ("'" ++ String.ofList program ++ "': " ++ e.reason)
      let isMissing := e == .notFound || e == .notDirectory
      if isMissing && program.any Raw.isBlank then
        Action.blame name "use -[v]S to pass options in shebang lines"
      return if isMissing then 127 else 126

end LabLifecycle.Surround

import LabLifecycle.Shell.Evaluation

/-!
# The shell as a program

How a shell starts: its options, the text, file or input that it takes commands from, its
parameters, and the variables that the environment sets.
-/
namespace LabLifecycle.Shell

/-- How a shell is started: its options in order, each switched on or off, whether a text of
commands is given, and the other arguments. -/
structure Started where
  hasText : Bool := false
  words : List Raw := []

/-- Take options off the arguments of a shell. -/
def startOptions : Nat → List Raw → Bool → Step Started
  | 0, words, hasText => return ⟨hasText, words⟩
  | fuel + 1, words, hasText =>
    match words with
    | ['-'] :: rest | ['-', '-'] :: rest => return ⟨hasText, rest⟩
    | ('-' :: letters) :: rest => do
      let rest ← Builtin.switchLetters true (letters.filter (· != 'c')) rest
      startOptions fuel rest (hasText || letters.contains 'c')
    | ('+' :: letters) :: rest => do
      startOptions fuel (← Builtin.switchLetters false letters rest) hasText
    | words => return ⟨hasText, words⟩

/-- The bindings that an environment makes, and those that every shell has. -/
def startBindings (environment : Environment) (parent : Nat) : List (Raw × Binding) :=
  let given := (environment.filter fun v => isName v.1).foldl (fun all (name, value) =>
    putNamed name ({ value := some value, exported := true } : Binding) all) []
  let usual (name : String) (value : Raw) (all : List (Raw × Binding)) : List (Raw × Binding) :=
    if (all.lookup name.toList).isSome then all
    else putNamed name.toList { value := some value } all
  let fixed (name : String) (value : Raw) (all : List (Raw × Binding)) : List (Raw × Binding) :=
    putNamed name.toList { value := some value } all
  fixed "IFS" [' ', '\t', '\n'] <| fixed "OPTIND" ['1'] <| fixed "PPID" (Raw.ofNat parent) <|
    usual "PATH" usualSearchPath <| usual "PS1" ['#', ' '] <| usual "PS2" ['>', ' '] <|
    usual "PS4" ['+', ' '] given

/-- The directory that a shell takes itself to be in: the one that the environment names, if
that is where it is. -/
def startDirectory (environment : Environment) : Action Raw := do
  let place ← Action.request .whereabouts
  match environment.lookup "PWD".toList with
  | some ('/' :: path) =>
    match ← Action.request (.info ('/' :: path) true), ← Action.request (.info ['.'] true) with
    | .ok a, .ok b => return if a.place.isSome && a.place == b.place then '/' :: path else place
    | _, _ => return place
  | _ => return place

/-- Take commands from a file or from the input. -/
def runStarted (e : Evaluator) (started : Started) : Step Unit := do
  let parameters (words : List Raw) : Step Unit := do
    modify fun s => { s with line := 1 }
    Builtin.setParameters words
  if started.hasText then
    match started.words with
    | [] => Step.refuse "-c requires an argument"
    | text :: rest =>
      match rest with
      | [] => pure ()
      | title :: _ => modify fun s => { s with title := title }
      parameters rest.tail
      let _ ← e.text { exits := !(← get).has 's' } text
  else
    match started.words, (← get).has 's' with
    | title :: rest, false =>
      let opened ← openFile title .read
      let d := (← Step.request (.keep opened)).getD opened
      Step.request (.close opened)
      modify fun s => { s with title := title }
      parameters rest
      let _ ← e.script (some d) {} { rest := [], complete := false }
    | words, _ =>
      Builtin.switch 's' true
      parameters words
      let _ ← e.script (some 0) {} { rest := [], complete := false }

/-- The depth to which commands can be nested. -/
def nesting : Nat := 0xFFFFFFFFFF

/-- The program. -/
def program : Program := fun words environment =>
  let run : Action Nat := do
    let (process, parent) ← Action.request .identity
    let directory ← startDirectory environment
    let s : State := {
      title := words.headD "sh".toList
      bindings := startBindings environment parent
      process := process
      parent := parent
      line := 0
      directory := directory }
    let e := evaluator nesting
    let body : Step Unit := do
      Builtin.assignExported "PWD" directory
      let started ← startOptions (words.length + 1) words.tail false
      runStarted e started
    let _ ← (e.finish body).run.run s
    return 0
  run.task

end LabLifecycle.Shell

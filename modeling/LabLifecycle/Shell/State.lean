import LabLifecycle.Host.Task
import LabLifecycle.Shell.Arithmetic
import LabLifecycle.Shell.Lexer

/-!
# The state of a shell

What a shell knows while it runs, and the steps that its work consists of. A step can look at
the state and change it, ask the machine for something, and be broken off: by a mistake, by
`exit`, or because nothing is left to do.
-/
namespace LabLifecycle.Shell

/-- A variable. One without a value can still be exported or fixed. -/
structure Binding where
  value : Option Raw := none
  exported : Bool := false
  fixed : Bool := false
  deriving DecidableEq, Repr, Inhabited

/-- What is passed over: nothing, the rest of some loops, the rest of the current round of a
loop that is that far out, or the rest of a function or script. The flag tells whether a
status was given with it. -/
inductive Skip where
  | nothing
  | loops (count : Nat)
  | round (count : Nat)
  | body (given : Bool)
  deriving DecidableEq, Repr

/-- Why the work is broken off. -/
inductive Jump where
  | failed
  | exited
  | ended
  deriving DecidableEq, Repr

/-- Processes that were started together, with the ends that are known. -/
structure Job where
  processes : List (Nat × Option Exit)
  heard : Bool := false
  deriving DecidableEq, Repr

/-- What a descriptor was before it was redirected: closed, or what a copy of it stands for. -/
abbrev SavedDescriptor := Nat × Option Nat

/-- What a variable was before it became local. -/
abbrev SavedBinding := Raw × Option Binding

/-- What a shell knows. -/
structure State where
  title : Raw
  parameters : List Raw := []
  bindings : List (Raw × Binding) := []
  functions : List (Raw × Command) := []
  aliases : List (Raw × Raw) := []
  options : List Char := []
  status : Nat := 0
  heldStatus : Option Nat := none
  outputStatus : Nat := 0
  line : Nat := 1
  readLine : Nat := 1
  speaker : Option Raw := none
  documents : Documents := []
  skip : Skip := .nothing
  loops : Nat := 0
  calls : Nat := 0
  traps : List (Nat × Raw) := []
  arrived : List Nat := []
  process : Nat := 0
  parent : Nat := 0
  background : Option Nat := none
  jobs : List (Nat × Job) := []
  directory : Raw := []
  locals : List (List SavedBinding) := []
  redirections : List (List SavedDescriptor) := []
  optionIndex : Nat := 1
  optionOffset : Nat := 0
  mask : Nat := 0o022
  tracked : List Raw := []
  nextDocument : Nat := 0

/-- A step of a shell. -/
abbrev Step := ExceptT Jump (StateT State Action)

/-- The value of a name in a list, and the list with another value there. -/
def putNamed {α : Type} (name : Raw) (a : α) : List (Raw × α) → List (Raw × α)
  | [] => [(name, a)]
  | (n, b) :: rest => if n == name then (n, a) :: rest else (n, b) :: putNamed name a rest

namespace State

/-- Whether an option is set. -/
def has (s : State) (option : Char) : Bool := s.options.contains option

/-- The value of a variable. -/
def value? (s : State) (name : Raw) : Option Raw := (s.bindings.lookup name).bind (·.value)

/-- The value of a variable with a plain name; nothing if it has none. -/
def valueOf (s : State) (name : String) : Raw := (s.value? name.toList).getD []

/-- The characters that separate fields. -/
def separators (s : State) : Raw := (s.value? "IFS".toList).getD [' ', '\t', '\n']

/-- The names and values that programs get to see. -/
def environment (s : State) : Environment :=
  s.bindings.filterMap fun (name, b) =>
    if b.exported then b.value.map fun v => (name, v) else none

end State

namespace Step
variable {α : Type}

/-- Make a request to the machine. -/
def request (r : Request) : Step r.Answer := liftM (Action.request r)

/-- Do something without looking at the state. -/
def act (a : Action α) : Step α := liftM a

/-- Write to a descriptor, whether or not that can be done. -/
def tell (descriptor : Nat) (text : Raw) : Step Unit := do
  let _ ← act (Action.write descriptor text)
  return ()

/-- Say what is wrong, with the name of the script, the line, and who says so. -/
def warn (message : String) : Step Unit := do
  let s ← get
  let speaker := match s.speaker with
    | some name => String.ofList name ++ ": "
    | none => ""
  tell 2 (String.ofList s.title ++ ": " ++ toString s.line ++ ": " ++ speaker ++ message ++
    "\n").toList

/-- Set the status. -/
def setStatus (n : Nat) : Step Unit := modify fun s => { s with status := n }

/-- Break the work off. -/
def jump (j : Jump) : Step α := throw j

/-- Say what is wrong and break the work off. -/
def refuse (message : String) : Step α := do
  warn message
  setStatus 2
  throw .failed

/-- Do something, and tell why it was broken off if it was. -/
def attempt (first : Step α) : Step (Except Jump α) := fun s => do
  let (r, s) ← first s
  return (.ok r, s)

/-- Do something, and tell whether it went without a mistake. -/
def guarded (first : Step Unit) : Step Bool := do
  match ← attempt first with
  | .ok _ => return true
  | .error .failed => return false
  | .error j => throw j

/-- Go through rounds until one yields a value. -/
def rounds {σ : Type} (step : σ → Step (σ ⊕ α)) : Nat → σ → Step α
  | 0, _ => throw .ended
  | fuel + 1, a => do
    match ← step a with
    | .inl a => rounds step fuel a
    | .inr b => return b

/-- Repeat a step until it yields a value. -/
def loop {σ : Type} (step : σ → Step (σ ⊕ α)) (start : σ) : Step α :=
  rounds step Action.patience start

/-! ### Variables -/

/-- Take note of a new value: the parsing of options starts anew with its index, and with the
search path changes where programs are. -/
def noteValue (name value : Raw) : Step Unit := do
  if name == "OPTIND".toList then
    let n := if value.all Char.isDigit && !value.isEmpty then Raw.digitsValue value else 1
    modify fun s => { s with optionIndex := max 1 n, optionOffset := 0 }
  else if name == "PATH".toList then modify fun s => { s with tracked := [] }

/-- Change a variable that is not fixed. -/
def change (name : Raw) (f : Binding → Binding) : Step Unit := do
  let s ← get
  let b := (s.bindings.lookup name).getD {}
  if b.fixed then refuse (String.ofList name ++ ": is read only")
  else set { s with bindings := putNamed name (f b) s.bindings }

/-- Give a variable a value. -/
def assign (name value : Raw) : Step Unit := do
  let all := (← get).has 'a'
  change name fun b => { b with value := some value, exported := b.exported || all }
  noteValue name value

/-- Take a variable away. -/
def unset (name : Raw) : Step Unit := do
  let s ← get
  match s.bindings.lookup name with
  | none => return ()
  | some b =>
    if b.fixed then refuse (String.ofList name ++ ": is read only")
    else set { s with bindings := s.bindings.filter (·.1 != name) }

/-- Remember what a variable is until the innermost function or command ends. -/
def keepLocal (name : Raw) : Step Unit := do
  let s ← get
  match s.locals with
  | [] => return ()
  | frame :: rest =>
    let kept := if frame.any (·.1 == name) then frame else (name, s.bindings.lookup name) :: frame
    set { s with locals := kept :: rest }

/-- The state with a variable as it was. -/
def restored (s : State) (saved : SavedBinding) : State :=
  if saved.1 == ['-'] then
    match saved.2.bind (·.value) with
    | some options => { s with options := options }
    | none => s
  else
    match saved.2 with
    | some b => { s with bindings := putNamed saved.1 b s.bindings }
    | none => { s with bindings := s.bindings.filter (·.1 != saved.1) }

/-- Let variables be what they were, down to a number of levels. -/
def dropLocals (depth : Nat) : Step Unit :=
  modify fun s =>
    let frames := s.locals.take (s.locals.length - depth)
    { frames.flatten.foldl restored s with locals := s.locals.drop (s.locals.length - depth) }

end Step
end LabLifecycle.Shell

import LabLifecycle.Host.FileTree
import LabLifecycle.Text.Raw

/-!
# What processes do

A `Task` is everything that a process is going to do: a tree of requests to the machine it
runs on, where what comes next depends on the answer. Tasks are put together from `Action`s,
which are parts of a task that yield a value; an action is given what follows it.
-/
namespace LabLifecycle

/-- How a process ends. -/
inductive Exit where
  | code (n : Nat)
  | killed (signal : Nat)
  deriving DecidableEq, Repr

/-- The status that a shell shows for an end. -/
def Exit.status : Exit → Nat
  | code n => n
  | killed signal => 128 + signal

/-- How a file is opened: to be read, to be written from the start after being emptied, to be
written at its end, to be read and written, or to be written as a new file. -/
inductive OpenMode where
  | read
  | write
  | append
  | update
  | fresh
  deriving DecidableEq, Repr

/-- The kinds of things that can be opened. -/
inductive FileKind where
  | file
  | directory
  | link
  | pipe
  | device
  deriving DecidableEq, Repr

/-- What can be learned about a file without opening it. -/
structure FileInfo where
  kind : FileKind
  mode : Nat := 0o755
  size : Nat := 0
  place : Option Place := none
  deriving DecidableEq, Repr

/-- What a signal does to a process. -/
inductive Disposition where
  | usual
  | ignored
  | caught
  deriving DecidableEq, Repr

/-- What waiting for a child comes to: a child has ended, there is none, or a caught signal
came first. -/
inductive Awaited where
  | ended (process : Nat) (exit : Exit)
  | nobody
  | interrupted
  deriving DecidableEq, Repr

/-- What a process asks of its machine.

* `tick` lets a moment pass, and tells which caught signals have come;
* `openFile` yields the lowest free descriptor;
* `copy` lets the second descriptor stand for what the first one does;
* `keep` does so with the lowest free one that no other program gets to see;
* `readLine` reads up to the end of a line, or what there is of it;
* `giveBack` makes as if some of what was read had not been, where that can be done;
* `permit` gives the file that a descriptor stands for a mode;
* `info` looks at what stands at a path, through a link or not;
* `await` waits for the end of a child, perhaps only until a caught signal comes;
* `reap` asks for the end of a child without waiting;
* `become` replaces the program, and is answered only if that fails. -/
inductive Request where
  | tick
  | openFile (path : Raw) (mode : OpenMode)
  | close (descriptor : Nat)
  | copy (source target : Nat)
  | keep (descriptor : Nat)
  | pipe
  | read (descriptor most : Nat)
  | readLine (descriptor : Nat)
  | giveBack (descriptor count : Nat)
  | permit (descriptor mode : Nat)
  | write (descriptor : Nat) (data : Raw)
  | info (path : Raw) (followed : Bool)
  | infoOf (descriptor : Nat)
  | names (path : Raw)
  | enter (path : Raw)
  | whereabouts
  | sleep (nanos : Nat)
  | await (interruptible : Bool)
  | reap
  | send (process signal : Nat)
  | dispose (signal : Nat) (disposition : Disposition)
  | identity
  | become (path : Raw) (arguments : List Raw) (environment : List (Raw × Raw))
  deriving DecidableEq, Repr

/-- What a request is answered with. -/
abbrev Request.Answer : Request → Type
  | tick => List Nat
  | openFile _ _ => Except FileError Nat
  | close _ => Unit
  | copy _ _ => Except FileError Unit
  | keep _ => Option Nat
  | pipe => Nat × Nat
  | read _ _ | readLine _ => Except FileError Raw
  | giveBack _ _ | permit _ _ => Unit
  | write _ _ => Except FileError Unit
  | info _ _ | infoOf _ => Except FileError FileInfo
  | names _ => Except FileError (List Raw)
  | enter _ => Except FileError Unit
  | whereabouts => Raw
  | sleep _ => Unit
  | await _ => Awaited
  | reap => Option (Nat × Exit)
  | send _ _ => Bool
  | dispose _ _ => Unit
  | identity => Nat × Nat
  | become .. => FileError

/-- What a process does: it ends, or makes a request, or starts a child of its own kind and
goes on with the child's number. -/
inductive Task where
  | exit (e : Exit)
  | call (r : Request) (next : r.Answer → Task)
  | fork (child : Task) (next : Nat → Task)

instance : Inhabited Task := ⟨.exit (.code 0)⟩

/-- Names and values that a program is started with. -/
abbrev Environment := List (Raw × Raw)

/-- A program: what it does for the arguments it is called with, its own name first, and for
an environment. -/
abbrev Program := List Raw → Environment → Task

/-- A part of a task that yields a value, given what follows it. -/
def Action (α : Type) : Type := (α → Task) → Task

namespace Action
variable {α β σ : Type}

instance : Monad Action where
  pure a := fun next => next a
  bind part rest := fun next => part fun a => rest a next

/-- Make a request. -/
def request (r : Request) : Action r.Answer := Task.call r

/-- Start a child. -/
def fork (child : Task) : Action Nat := Task.fork child

/-- End the process. -/
def exit (e : Exit) : Action α := fun _ => .exit e

/-- The task of an action that yields an exit code. -/
def task (part : Action Nat) : Task := part fun n => .exit (.code n)

/-- The number of rounds after which a loop is given up. -/
def patience : Nat := 0xFFFFFFFFFF

/-- Go through rounds until one yields a value. -/
def rounds (step : σ → Action (σ ⊕ α)) : Nat → σ → Action α
  | 0, _ => exit (.killed 9)
  | fuel + 1, s => do
    match ← step s with
    | .inl s => rounds step fuel s
    | .inr a => pure a

/-- Repeat a step on a state until it yields a value. -/
def loop (step : σ → Action (σ ⊕ α)) (start : σ) : Action α := rounds step patience start

/-- Write to a descriptor. Nothing is done for no text. -/
def write (descriptor : Nat) (text : Raw) : Action (Except FileError Unit) :=
  if text.isEmpty then pure (.ok ()) else request (.write descriptor text)

/-- Write to standard error, whether or not that can be done. -/
def complain (text : Raw) : Action Unit := do
  let _ ← write 2 text
  return ()

/-- The number of bytes that are read at once. -/
def blockSize : Nat := 0x10000

/-- Read a descriptor up to its end. -/
def readAll (descriptor : Nat) : Action (Except FileError Raw) :=
  loop (fun parts => do
    match ← request (.read descriptor blockSize) with
    | .error e => return .inr (.error e)
    | .ok [] => return .inr (.ok parts.reverse.flatten)
    | .ok part => return .inl (part :: parts)) ([] : List Raw)

end Action
end LabLifecycle

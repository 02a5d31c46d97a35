import LabLifecycle.Host.CommandSearch
import LabLifecycle.Tools.Programs

/-!
# Starting commands

A workplace is a file tree, a directory in it where relative paths start, and the variables
that commands see, among them the search path. A command is started there as a process of a
machine. Its input is fed to it by another process, and what it writes is collected. It has
ended when its process has, when no more can be fed to it, and when no process is left that
could write more.
-/
namespace LabLifecycle

/-- A place where commands are started. -/
structure Workplace where
  tree : FileTree
  place : Place := []
  searchPath : Option String := none
  environment : List (String × String) := []

namespace Workplace

/-- The machine before any command is started. -/
def machine (w : Workplace) : Machine := { files := w.tree }

/-- The variables that commands see. -/
def variablesSeen (w : Workplace) : Environment :=
  ((w.searchPath.map fun p => ("PATH", p)).toList ++ w.environment).map fun v =>
    (Raw.ofString v.1, Raw.ofString v.2)

/-- What a command does that is started as a file. -/
def fileTask (w : Workplace) (m : Machine) (path : String) (arguments : List Raw) :
    Except FileError Task :=
  Machine.loadTask systemPrograms m.files w.place (Raw.ofString path) arguments w.variablesSeen

/-- What a command does that is looked for by its file name: it is taken from the first
directory that has one to run. If there is none, the last one that has the file tells why it
does not let it run. -/
def searchedTask (w : Workplace) (m : Machine) (name : String) (arguments : List Raw) :
    List String → FileError → Except FileError Task
  | [], reason => .error reason
  | directory :: rest, reason =>
    match w.fileTask m (CommandPath.mk directory name).text arguments with
    | .ok task => .ok task
    | .error .denied => w.searchedTask m name arguments rest .denied
    | .error .notFound | .error .notDirectory => w.searchedTask m name arguments rest reason
    | .error e => .error e

/-- What a command does. A path without a slash is looked for on the search path. -/
def commandTask (w : Workplace) (m : Machine) (l : Launch) : Except FileError Task :=
  let path := l.path.text
  let arguments := Raw.ofString path :: l.arguments.map Raw.ofString
  if path.toList.contains '/' then w.fileTask m path arguments
  else w.searchedTask m path arguments (searchPathOf w.searchPath) .notFound

/-! ### Running -/

/-- The parent of processes that are started from outside. -/
def outside : Nat := 0

/-- The machine without what is left of an earlier command: its process is killed, and nobody
collects any more what others write. -/
def cleared (m : Machine) : Machine :=
  let left := (m.ready ++ m.waiting).filter (·.parent = outside)
  let isOther (p : Process) : Bool := p.parent != outside
  let m := { m with
    ready := m.ready.filter isOther, waiting := m.waiting.filter isOther, collected := [] }
  let m := left.foldl (fun m p => m.bury p (.killed 9)) m
  { m with ended := m.ended.filter (·.parent != outside) }

/-- The task of feeding an input to a command. It makes no difference how much is taken. -/
def feeding (input : Raw) : Task :=
  Action.task do
    match ← Action.write 1 input with
    | .ok _ => return 0
    | .error _ => return 1

/-- Start a task as a command. -/
def begin (w : Workplace) (m : Machine) (task : Task) (input : Bytes) : Machine × Running :=
  let n := m.next
  let r : Running := { process := n, feeder := n + 1, output := n + 2, errors := n + 3 }
  let pipe := n + 4
  let collecting (number : Nat) : Opened :=
    { target := .collector number, readable := false, writable := true }
  let command : Process := {
    number := r.process
    parent := outside
    task := task
    place := w.place
    descriptors := [(0, n + 5), (1, r.output), (2, r.errors)] }
  let feeder : Process := {
    number := r.feeder
    parent := outside
    task := feeding (Raw.ofBytes input)
    descriptors := [(1, n + 6)]
    ignored := [13] }
  let opened : List (Nat × Opened) := [
    (n + 5, { target := .source pipe }),
    (n + 6, { target := .drain pipe, readable := false, writable := true }),
    (r.output, collecting r.output), (r.errors, collecting r.errors)]
  ({ m with
    next := n + 7
    opened := opened ++ m.opened
    pipes := (pipe, {}) :: m.pipes
    collected := [(r.output, []), (r.errors, [])]
    ready := m.ready ++ [feeder, command] }.later Machine.startTime, r)

/-- Whether a command has ended and nothing more can come of it. -/
def isOver (r : Running) (m : Machine) : Bool :=
  m.ended.any (·.number = r.process) && m.ended.any (·.number = r.feeder) &&
    m.opened.all fun o =>
      o.2.target != .collector r.output && o.2.target != .collector r.errors

/-- What a collector holds. -/
def collectedBy (m : Machine) (number : Nat) : Bytes :=
  Raw.toBytes ((m.collected.lookup number).getD []).reverse.flatten

/-- How the process of a number ended. -/
def exitOf (m : Machine) (number : Nat) : Option Nat :=
  match m.ended.find? (·.number = number) with
  | some { exit := .code n, .. } => some n
  | _ => none

/-- What a command that has ended leaves. -/
def resultOf (r : Running) (m : Machine) : Completed where
  code := exitOf m r.process
  stdout := collectedBy m r.output
  stderr := collectedBy m r.errors
  feed := if exitOf m r.feeder = some 0 then .complete else .cutShort

/-- The time in nanoseconds for which a machine runs until it is looked at. -/
def spell : Nat := 10000000

/-- Let a machine run for a while, or until a command has ended. -/
def advance (r : Running) (m : Machine) : Machine :=
  let moment := m.clock + spell
  let m := m.run systemPrograms (isOver r) moment spell
  if m.ready.isEmpty && !isOver r m then
    match m.nextWake with
    | some t => { m with clock := max m.clock (min t moment) }.wakeDue
    | none => m
  else m

/-- Let a command run for a while. -/
def proceed (r : Running) (m : Machine) : Machine × Duration × Progress :=
  let later := advance r m
  let time : Duration := ⟨later.clock - m.clock⟩
  if isOver r later then (cleared later, time, .ended (resultOf r later))
  else if later.ready.isEmpty && later.nextWake.isNone then (later, time, .stuck)
  else (later, time, .goesOn)

/-- Start a command. -/
def start (w : Workplace) (m : Machine) (l : Launch) : Except String (Machine × Running) :=
  match w.commandTask m l with
  | .error e => .error e.message
  | .ok task => .ok (w.begin (cleared m) task l.input)

/-! ### The host -/

/-- Some directories as a search path in the file tree of a machine. -/
def search (w : Workplace) (directories : List String) (m : Machine) : CommandSearch where
  tree := m.files
  start := w.place
  directories := directories

/-- The workplace as a host of the commands in some directories. -/
def host (w : Workplace) (directories : List String) : CommandHost where
  finder m := (w.search directories m).finder
  start := w.start
  proceed := proceed

end Workplace
end LabLifecycle

import LabLifecycle.Host.Task

/-!
# Machines

A machine has a file tree, a clock, and processes. A process has descriptors; several
descriptors can stand for one open file, pipe end or collector, which is closed when the last
of them is gone. What is written to a collector is kept for whoever started the command.
-/
namespace LabLifecycle

/-- What an open descriptor stands for. -/
inductive Target where
  | file (place : Place)
  | directory (place : Place)
  | sink
  | source (pipe : Nat)
  | drain (pipe : Nat)
  | collector (number : Nat)
  deriving DecidableEq, Repr

/-- An open file: what it is, how far it has been read or written, and the number of
descriptors that stand for it. -/
structure Opened where
  target : Target
  offset : Nat := 0
  readable : Bool := true
  writable : Bool := false
  appends : Bool := false
  holders : Nat := 1
  deriving DecidableEq, Repr

/-- A pipe: what was written to it and not read yet, and whether its ends are open. -/
structure Pipe where
  front : List Raw := []
  back : List Raw := []
  size : Nat := 0
  hasReader : Bool := true
  hasWriter : Bool := true
  deriving DecidableEq, Repr

/-- A process. -/
structure Process where
  number : Nat
  parent : Nat
  task : Task
  place : Place := []
  descriptors : List (Nat × Nat) := []
  ignored : List Nat := []
  caught : List Nat := []
  pending : List Nat := []
  wake : Option Nat := none
  deriving Inhabited

/-- A process that has ended and that its parent has not heard of yet. -/
structure Ended where
  number : Nat
  parent : Nat
  exit : Exit
  deriving DecidableEq, Repr

/-- A machine. Processes are ready to run, in that order, or wait for something. -/
structure Machine where
  files : FileTree := {}
  clock : Nat := 0
  next : Nat := 100
  opened : List (Nat × Opened) := []
  pipes : List (Nat × Pipe) := []
  collected : List (Nat × List Raw) := []
  ready : List Process := []
  waiting : List Process := []
  ended : List Ended := []
  deriving Inhabited

/-- A command that was started from outside: its process, the one that feeds it, and the
collectors of what it writes to standard output and standard error. -/
structure Running where
  process : Nat
  feeder : Nat
  output : Nat
  errors : Nat
  deriving DecidableEq, Repr

/-- A list of numbered things with one of them replaced or added. -/
def putNumbered {α : Type} (n : Nat) (a : α) : List (Nat × α) → List (Nat × α)
  | [] => [(n, a)]
  | (m, b) :: rest => if m = n then (n, a) :: rest else (m, b) :: putNumbered n a rest

/-- A list of numbered things without one of them. -/
def dropNumbered {α : Type} (n : Nat) (l : List (Nat × α)) : List (Nat × α) :=
  l.filter (·.1 != n)

namespace Pipe

/-- The number of bytes that a pipe holds. -/
def capacity : Nat := 0x10000

/-- The pipe after something was written to it. -/
def push (p : Pipe) (part : Raw) : Pipe :=
  { p with back := part :: p.back, size := p.size + part.length }

/-- Parts of a pipe's content up to a size, and what is left of it. -/
def takeParts (most : Nat) : List Raw → List Raw → List Raw × List Raw
  | taken, [] => (taken, [])
  | taken, part :: rest =>
    if part.length ≤ most then takeParts (most - part.length) (part :: taken) rest
    else (part.take most :: taken, part.drop most :: rest)

/-- What a reader gets of a pipe's content, and the pipe after that. -/
def pop (p : Pipe) (most : Nat) : Raw × Pipe :=
  let (taken, rest) := takeParts most [] (p.front ++ p.back.reverse)
  let data := taken.reverse.flatten
  (data, { p with front := rest, back := [], size := p.size - data.length })

/-- Parts of a pipe's content up to the end of a line. -/
def lineParts : List Raw → List Raw → List Raw × List Raw
  | taken, [] => (taken, [])
  | taken, part :: rest =>
    match part.cut? '\n' with
    | some (line, after) => ((line ++ ['\n']) :: taken, after :: rest)
    | none => lineParts (part :: taken) rest

/-- What a reader of lines gets of a pipe's content, and the pipe after that. -/
def popLine (p : Pipe) : Raw × Pipe :=
  let (taken, rest) := lineParts [] (p.front ++ p.back.reverse)
  let data := taken.reverse.flatten
  (data, { p with
    front := rest.filter (!·.isEmpty), back := [], size := p.size - data.length })

end Pipe

namespace Process

/-- The lowest free descriptor from a number on. -/
def freeFrom (p : Process) (least : Nat) : Nat :=
  ((List.range (p.descriptors.length + 1)).map (· + least)).find?
    (fun n => (p.descriptors.lookup n).isNone) |>.getD least

end Process

namespace Machine

/-- Let all processes that wait for anything but a moment look again. -/
def rouse (m : Machine) : Machine :=
  if m.waiting.isEmpty then m
  else
    let (asleep, others) := m.waiting.partition (·.wake.isSome)
    { m with ready := m.ready ++ others, waiting := asleep }

/-- Let the processes go on whose moment has come. -/
def wakeDue (m : Machine) : Machine :=
  if m.waiting.isEmpty then m
  else
    let (due, others) := m.waiting.partition fun p => p.wake.any (· ≤ m.clock)
    if due.isEmpty then m
    else { m with
      ready := m.ready ++ (due.mergeSort fun p q => p.wake.getD 0 ≤ q.wake.getD 0).map
        fun p => { p with wake := none }
      waiting := others }

/-- The moment at which the first of the sleeping processes wakes. -/
def nextWake (m : Machine) : Option Nat := (m.waiting.filterMap (·.wake)).min?

/-- The open file of a number. -/
def open? (m : Machine) (number : Nat) : Option Opened := m.opened.lookup number

/-- The open file that a descriptor stands for, and its number. -/
def descriptor? (m : Machine) (p : Process) (descriptor : Nat) : Option (Nat × Opened) := do
  let number ← p.descriptors.lookup descriptor
  let o ← m.open? number
  return (number, o)

/-- The machine with an open file changed. -/
def putOpened (m : Machine) (number : Nat) (o : Opened) : Machine :=
  { m with opened := putNumbered number o m.opened }

/-- The machine with a pipe changed, unless both its ends are closed. -/
def putPipe (m : Machine) (number : Nat) (pipe : Pipe) : Machine :=
  if pipe.hasReader || pipe.hasWriter then { m with pipes := putNumbered number pipe m.pipes }
  else { m with pipes := dropNumbered number m.pipes }

/-- One more descriptor for an open file. -/
def hold (m : Machine) (number : Nat) : Machine :=
  match m.open? number with
  | some o => m.putOpened number { o with holders := o.holders + 1 }
  | none => m

/-- One descriptor less for an open file, which is closed with the last one. -/
def release (m : Machine) (number : Nat) : Machine :=
  match m.open? number with
  | none => m
  | some o =>
    if 1 < o.holders then m.putOpened number { o with holders := o.holders - 1 }
    else
      let m := { m with opened := dropNumbered number m.opened }
      match o.target with
      | .source pipe =>
        match m.pipes.lookup pipe with
        | some q => (m.putPipe pipe { q with hasReader := false }).rouse
        | none => m
      | .drain pipe =>
        match m.pipes.lookup pipe with
        | some q => (m.putPipe pipe { q with hasWriter := false }).rouse
        | none => m
      | _ => m

/-- Close a descriptor of a process. -/
def closeDescriptor (m : Machine) (p : Process) (descriptor : Nat) : Machine × Process :=
  match p.descriptors.lookup descriptor with
  | none => (m, p)
  | some number =>
    (m.release number, { p with descriptors := dropNumbered descriptor p.descriptors })

/-- Let a descriptor of a process stand for an open file that is already counted. -/
def attach (m : Machine) (p : Process) (descriptor number : Nat) : Machine × Process :=
  let (m, p) := m.closeDescriptor p descriptor
  (m, { p with descriptors := putNumbered descriptor number p.descriptors })

/-- Open something for a process at its lowest free descriptor. -/
def openAt (m : Machine) (p : Process) (o : Opened) : Nat × Machine × Process :=
  let descriptor := p.freeFrom 0
  let number := m.next
  let m := { m with next := number + 1, opened := (number, o) :: m.opened }
  (descriptor, m.attach p descriptor number)

/-- The processes that a process leaves behind go to nobody. -/
def orphan (m : Machine) (number : Nat) : Machine :=
  let adopt (p : Process) : Process := if p.parent = number then { p with parent := 1 } else p
  { m with
    ready := m.ready.map adopt
    waiting := m.waiting.map adopt
    ended := m.ended.filter (·.parent != number) }

/-- The machine after the end of a process that is in none of its lists any more. -/
def bury (m : Machine) (p : Process) (exit : Exit) : Machine :=
  let m := p.descriptors.foldl (fun m d => m.release d.2) m
  let m := m.orphan p.number
  let m := if p.parent = 1 then m else { m with ended := m.ended ++ [⟨p.number, p.parent, exit⟩] }
  m.rouse

/-- Whether a signal does nothing by itself. -/
def isHarmless (signal : Nat) : Bool :=
  [17, 18, 19, 20, 21, 22, 23, 28].contains signal

/-- What a signal does to a process: it ends it, or makes it know of the signal, or nothing. -/
inductive Blow where
  | deadly
  | noticed
  | nothing
  deriving DecidableEq, Repr

/-- What a signal does to a process. -/
def blow (p : Process) (signal : Nat) : Blow :=
  if signal = 9 then .deadly
  else if signal = 0 || p.ignored.contains signal then .nothing
  else if p.caught.contains signal then .noticed
  else if isHarmless signal then .nothing
  else .deadly

/-- Send a signal to a process that is not running. The flag says whether there is one. -/
def send (m : Machine) (number signal : Nat) : Machine × Bool :=
  match (m.ready ++ m.waiting).find? (·.number = number) with
  | none => (m, m.ended.any (·.number = number))
  | some p =>
    let others (l : List Process) : List Process := l.filter (·.number != number)
    match blow p signal with
    | .nothing => (m, true)
    | .deadly =>
      (bury { m with ready := others m.ready, waiting := others m.waiting } p (.killed signal),
        true)
    | .noticed =>
      let note (q : Process) : Process :=
        if q.number = number then { q with pending := q.pending ++ [signal] } else q
      (rouse { m with ready := m.ready.map note, waiting := m.waiting.map note }, true)

end Machine
end LabLifecycle

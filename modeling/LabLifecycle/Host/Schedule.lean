import LabLifecycle.Host.Machine

/-!
# Running processes

A machine answers the requests of its processes, one process at a time, each for a turn at
most. Every request takes a little time. A request that cannot be answered yet leaves its
process waiting, and is looked at again when something has changed. `Machine.run` goes on
until nothing but the clock can help, or some time has passed.
-/
namespace LabLifecycle

/-- What comes of a request: an answer, or the process has to wait, or a signal ends it. -/
inductive Served (α : Type) where
  | answered (answer : α) (m : Machine) (p : Process)
  | blocked
  | killed (signal : Nat)

/-- The programs of a machine by name. -/
abbrev Programs := String → Option Program

/-- What a path means that is to be run: the name of a program, and its arguments. -/
structure Loaded where
  program : String
  arguments : List Raw
  deriving DecidableEq, Repr

namespace Machine

/-! ### Programs -/

/-- The interpreter that the first line of a script names, and the argument it is given. -/
def interpreterLine? (content : Raw) : Option (Raw × List Raw) :=
  let isGap (c : Char) : Bool := c == ' ' || c == '\t'
  match content with
  | '#' :: '!' :: rest =>
    let line := ((rest.take 253).takeWhile (· != '\n')).dropWhile isGap
    let name := line.takeWhile (!isGap ·)
    let argument :=
      (((line.drop name.length).dropWhile isGap).reverse.dropWhile isGap).reverse
    if name.isEmpty then none
    else some (name, if argument.isEmpty then [] else [argument])
  | _ => none

/-- What a path means that is to be run from a directory with some arguments. A tool runs by
itself, a script is run by its interpreter, which can be a script in turn. -/
def load (files : FileTree) (place : Place) :
    Nat → Raw → List Raw → Except FileError Loaded
  | 0, _, _ => .error .linkLoop
  | depth + 1, path, arguments =>
    match files.resolve place path.toBytes with
    | .error e => .error e
    | .ok (_, .tool name) => .ok ⟨name, arguments⟩
    | .ok (_, .file mode content) =>
      if FileTree.hasExecuteBit mode then
        match interpreterLine? (Raw.ofBytes (content.take 256)) with
        | none => .error .notExecutable
        | some (interpreter, argument) =>
          load files place depth interpreter (interpreter :: argument ++ path :: arguments.tail)
      else .error .denied
    | .ok _ => .error .denied

/-- The number of scripts on the way to a program. -/
def loadDepth : Nat := 6

/-- The task of a program that replaces another one. -/
def loadTask (programs : Programs) (files : FileTree) (place : Place) (path : Raw)
    (arguments : List Raw) (environment : Environment) : Except FileError Task :=
  match load files place loadDepth path arguments with
  | .error e => .error e
  | .ok l =>
    match programs l.program with
    | some program => .ok (program l.arguments environment)
    | none => .error .notExecutable

/-! ### Files -/

/-- The content of the file at a place. -/
def content (m : Machine) (place : Place) : Bytes :=
  match m.files.entry? place with
  | some (.file _ content) => content
  | _ => []

/-- The machine with the content of the file at a place changed. -/
def putContent (m : Machine) (place : Place) (content : Bytes) : Machine :=
  match m.files.entry? place with
  | some (.file mode _) => { m with files := m.files.put place (.file mode content) }
  | _ => { m with files := m.files.put place (.file 0o644 content) }

/-- What opening the thing at a place in some mode yields, if it is there. -/
def openEntry (m : Machine) (place : Place) (mode : OpenMode) :
    FileEntry → Except FileError (Machine × Opened)
  | .directory =>
    if mode = .read then .ok (m, { target := .directory place }) else .error .isDirectory
  | .file .. =>
    match mode with
    | .read => .ok (m, { target := .file place })
    | .write =>
      .ok (m.putContent place [], { target := .file place, readable := false, writable := true })
    | .append =>
      .ok (m, { target := .file place, readable := false, writable := true, appends := true })
    | .update => .ok (m, { target := .file place, writable := true })
    | .fresh => .error .occupied
  | .tool _ => if mode = .read then .ok (m, { target := .sink }) else .error .denied
  | _ => .ok (m, { target := .sink, writable := true })

/-- Open a path for a process. -/
def openPath (m : Machine) (p : Process) (path : Raw) (mode : OpenMode) :
    Served (Except FileError Nat) :=
  let found :=
    if mode = .read then (m.files.resolve p.place path.toBytes).map fun f => (f.1, some f.2)
    else m.files.target p.place path.toBytes
  match found with
  | .error e => .answered (.error e) m p
  | .ok (_, some (.descriptor n)) =>
    match p.descriptors.lookup n with
    | none => .answered (.error .notFound) m p
    | some number =>
      let descriptor := p.freeFrom 0
      let (m, p) := (m.hold number).attach p descriptor number
      .answered (.ok descriptor) m p
  | .ok (place, entry) =>
    let opened := match entry with
      | some e => m.openEntry place mode e
      | none =>
        .ok (m.putContent place [], {
          target := .file place
          readable := mode = OpenMode.update
          writable := true
          appends := mode = OpenMode.append })
    match opened with
    | .error e => .answered (.error e) m p
    | .ok (m, o) =>
      let (descriptor, m, p) := m.openAt p o
      .answered (.ok descriptor) m p

/-- What is known about a thing in the file tree. -/
def infoOfEntry (place : Place) : FileEntry → FileInfo
  | .file mode content => {
      kind := .file, mode := mode, size := content.length, place := some place }
  | .tool _ => { kind := .file, size := 0x10000, place := some place }
  | .directory => { kind := .directory, size := 4096, place := some place }
  | .link target => { kind := .link, size := target.length, place := some place }
  | .sink | .descriptor _ => { kind := .device, mode := 0o666, place := some place }

/-- What is known about an open file. -/
def infoOfOpened (m : Machine) (o : Opened) : FileInfo :=
  match o.target with
  | .file place =>
    match m.files.entry? place with
    | some e => infoOfEntry place e
    | none => { kind := .file, place := some place }
  | .directory place => { kind := .directory, place := some place }
  | .sink => { kind := .device, mode := 0o666 }
  | .source _ | .drain _ | .collector _ => { kind := .pipe, mode := 0o600 }

/-! ### Reading and writing -/

/-- Read from a descriptor of a process, up to a size or up to the end of a line. -/
def readFrom (m : Machine) (p : Process) (descriptor : Nat) (most : Option Nat) :
    Served (Except FileError Raw) :=
  match m.descriptor? p descriptor with
  | none => .answered (.error .badDescriptor) m p
  | some (number, o) =>
    if !o.readable then .answered (.error .badDescriptor) m p
    else match o.target with
    | .directory _ => .answered (.error .isDirectory) m p
    | .file place =>
      let rest := (m.content place).drop o.offset
      let data : Bytes := match most with
        | some most => rest.take most
        | none => rest.takeWhile (· != 0x0A) ++ [0x0A] |>.take rest.length
      .answered (.ok (Raw.ofBytes data))
        (m.putOpened number { o with offset := o.offset + data.length }) p
    | .source pipe =>
      match m.pipes.lookup pipe with
      | none => .answered (.ok []) m p
      | some q =>
        if q.size = 0 then if q.hasWriter then .blocked else .answered (.ok []) m p
        else
          let (data, q) := match most with
            | some most => q.pop most
            | none => q.popLine
          .answered (.ok data) (m.putPipe pipe q).rouse p
    | _ => .answered (.ok []) m p

/-- A file's content after something was written into it at an offset. -/
def overwrite (content : Bytes) (offset : Nat) (data : Bytes) : Bytes :=
  if offset = content.length then content ++ data
  else
    content.take offset ++ List.replicate (offset - content.length) 0 ++ data ++
      content.drop (offset + data.length)

/-- What becomes of a process that writes where nobody reads. -/
def unread (m : Machine) (p : Process) : Served (Except FileError Unit) :=
  if p.ignored.contains 13 then .answered (.error .brokenPipe) m p
  else if p.caught.contains 13 then
    .answered (.error .brokenPipe) m { p with pending := p.pending ++ [13] }
  else .killed 13

/-- Write to a descriptor of a process. What does not fit into a pipe is written later. -/
def writeTo (m : Machine) (p : Process) (descriptor : Nat) (data : Raw) :
    Served (Except FileError Unit) ⊕ (Machine × Raw) :=
  match m.descriptor? p descriptor with
  | none => .inl (.answered (.error .badDescriptor) m p)
  | some (number, o) =>
    if !o.writable then .inl (.answered (.error .badDescriptor) m p)
    else match o.target with
    | .file place =>
      let content := m.content place
      let offset := if o.appends then content.length else o.offset
      let m := m.putContent place (overwrite content offset data.toBytes)
      .inl (.answered (.ok ()) (m.putOpened number { o with offset := offset + data.length }) p)
    | .collector n =>
      match m.collected.lookup n with
      | some parts =>
        .inl (.answered (.ok ())
          { m with collected := putNumbered n (data :: parts) m.collected } p)
      | none => .inl (m.unread p)
    | .drain pipe =>
      match m.pipes.lookup pipe with
      | none => .inl (m.unread p)
      | some q =>
        if !q.hasReader then .inl (m.unread p)
        else
          let room := Pipe.capacity - q.size
          if data.length ≤ room then
            .inl (.answered (.ok ()) (m.putPipe pipe (q.push data)).rouse p)
          else if room = 0 then .inl .blocked
          else .inr ((m.putPipe pipe (q.push (data.take room))).rouse, data.drop room)
    | _ => .inl (.answered (.ok ()) m p)

/-! ### Other requests -/

/-- The machine with the mode changed of the file that a descriptor of a process stands for. -/
def permit (m : Machine) (p : Process) (descriptor mode : Nat) : Machine :=
  match m.descriptor? p descriptor with
  | some (_, { target := .file place, .. }) =>
    match m.files.entry? place with
    | some (.file _ content) => { m with files := m.files.put place (.file mode content) }
    | _ => m
  | _ => m

/-- Make a pipe for a process. -/
def makePipe (m : Machine) (p : Process) : Served (Nat × Nat) :=
  let pipe := m.next
  let m := { m with next := pipe + 1, pipes := (pipe, {}) :: m.pipes }
  let (source, m, p) := m.openAt p { target := .source pipe }
  let (drain, m, p) := m.openAt p { target := .drain pipe, readable := false, writable := true }
  .answered (source, drain) m p

/-- Let a process wait for a child. -/
def awaitChild (m : Machine) (p : Process) (interruptible : Bool) : Served Awaited :=
  match m.ended.find? (·.parent = p.number) with
  | some e =>
    .answered (.ended e.number e.exit)
      { m with ended := m.ended.filter (·.number != e.number) } p
  | none =>
    if interruptible && !p.pending.isEmpty then .answered .interrupted m p
    else if (m.ready ++ m.waiting).any (·.parent = p.number) then .blocked
    else .answered .nobody m p

/-- Send a signal from a process, perhaps to itself. -/
def sendFrom (m : Machine) (p : Process) (number signal : Nat) : Served Bool :=
  if number = p.number then
    match blow p signal with
    | .nothing => .answered true m p
    | .noticed => .answered true m { p with pending := p.pending ++ [signal] }
    | .deadly => .killed signal
  else
    let (m, found) := m.send number signal
    .answered found m p

/-- Let a process treat a signal in some way. -/
def dispose (p : Process) (signal : Nat) (d : Disposition) : Process :=
  let ignored := p.ignored.filter (· != signal)
  let caught := p.caught.filter (· != signal)
  match d with
  | .usual => { p with ignored := ignored, caught := caught }
  | .ignored => { p with ignored := signal :: ignored, caught := caught }
  | .caught => { p with ignored := ignored, caught := signal :: caught }

/-- The least descriptor that other programs do not get to see. -/
def leastKept : Nat := 10

/-- Answer a request, except for those that a turn sees to itself. -/
def serve (m : Machine) (p : Process) : (r : Request) → Served r.Answer
  | .tick => .answered p.pending m { p with pending := [] }
  | .openFile path mode => m.openPath p path mode
  | .close d =>
    let (m, p) := m.closeDescriptor p d
    .answered () m p
  | .copy source target =>
    match p.descriptors.lookup source with
    | none => .answered (.error .badDescriptor) m p
    | some number =>
      if source = target then .answered (.ok ()) m p
      else
        let (m, p) := (m.hold number).attach p target number
        .answered (.ok ()) m p
  | .keep d =>
    match p.descriptors.lookup d with
    | none => .answered none m p
    | some number =>
      let target := p.freeFrom leastKept
      let (m, p) := (m.hold number).attach p target number
      .answered (some target) m p
  | .pipe => m.makePipe p
  | .read d most => m.readFrom p d (some most)
  | .readLine d => m.readFrom p d none
  | .giveBack d count =>
    .answered () (match m.descriptor? p d with
      | some (number, o) => m.putOpened number { o with offset := o.offset - count }
      | none => m) p
  | .permit d mode => .answered () (m.permit p d mode) p
  | .write _ _ => .answered (.ok ()) m p
  | .info path followed =>
    .answered (if followed then
        match m.files.resolve p.place path.toBytes with
        | .ok (_, .descriptor n) =>
          match m.descriptor? p n with
          | some (_, o) => .ok (m.infoOfOpened o)
          | none => .error .notFound
        | .ok (place, e) => .ok (infoOfEntry place e)
        | .error e => .error e
      else (m.files.unfollowed p.place path.toBytes).map (infoOfEntry [])) m p
  | .infoOf d =>
    .answered (match m.descriptor? p d with
      | some (_, o) => .ok (m.infoOfOpened o)
      | none => .error .badDescriptor) m p
  | .names path =>
    .answered (match m.files.resolve p.place path.toBytes with
      | .ok (place, .directory) => .ok ((m.files.names place).map Raw.ofBytes)
      | .ok _ => .error .notDirectory
      | .error e => .error e) m p
  | .enter path =>
    match m.files.resolve p.place path.toBytes with
    | .ok (place, .directory) => .answered (.ok ()) m { p with place := place }
    | .ok _ => .answered (.error .notDirectory) m p
    | .error e => .answered (.error e) m p
  | .whereabouts => .answered (Raw.ofBytes (placePath p.place)) m p
  | .sleep _ => .answered () m p
  | .await interruptible => m.awaitChild p interruptible
  | .reap =>
    match m.ended.find? (·.parent = p.number) with
    | some e =>
      .answered (some (e.number, e.exit))
        { m with ended := m.ended.filter (·.number != e.number) } p
    | none => .answered none m p
  | .send number signal => m.sendFrom p number signal
  | .dispose signal d => .answered () m (dispose p signal d)
  | .identity => .answered (p.number, p.parent) m p
  | .become .. => .answered .notExecutable m p

/-! ### Turns -/

/-- The time in nanoseconds that a request takes. -/
def requestTime : Nat := 300

/-- The time in nanoseconds that it takes to start a child, or another program. -/
def startTime : Nat := 400000

/-- A process that becomes another program. Signals that it caught are usual for that, and
what it kept to itself is closed. -/
def renewed (m : Machine) (p : Process) (task : Task) : Machine × Process :=
  let hidden := p.descriptors.filter (leastKept ≤ ·.1)
  let m := hidden.foldl (fun m d => m.release d.2) m
  (m, { p with
    task := task
    caught := []
    descriptors := p.descriptors.filter (·.1 < leastKept) })

/-- A child of a process. -/
def child (m : Machine) (p : Process) (task : Task) : Machine :=
  let m := p.descriptors.foldl (fun m d => m.hold d.2) m
  { m with
    next := m.next + 1
    ready := m.ready ++ [{ p with
      number := m.next, parent := p.number, task := task, pending := [] }] }

/-- The number of requests in a turn. -/
def turnLength : Nat := 500

/-- The machine at a later moment. -/
def later (m : Machine) (nanos : Nat) : Machine := { m with clock := m.clock + nanos }

/-- The machine with one more waiting process. -/
def park (m : Machine) (p : Process) : Machine := { m with waiting := m.waiting ++ [p] }

/-- Let a process have its turn. -/
def turn (programs : Programs) : Nat → Machine → Process → Machine
  | 0, m, p => { m with ready := m.ready ++ [p] }
  | fuel + 1, m, p =>
    match p.task with
    | .exit e => m.bury p e
    | .fork task next =>
      let number := m.next
      turn programs fuel ((m.child p task).later startTime) { p with task := next number }
    | .call (.become path arguments environment) next =>
      match loadTask programs m.files p.place path arguments environment with
      | .ok task =>
        let (m, p) := m.renewed p task
        turn programs fuel (m.rouse.later startTime) p
      | .error e => turn programs fuel (m.later requestTime) { p with task := next e }
    | .call (.write d data) next =>
      match m.writeTo p d data with
      | .inl (.answered a m p) =>
        turn programs fuel (m.later requestTime) { p with task := next a }
      | .inl (.killed signal) => m.bury p (.killed signal)
      | .inr (m, rest) => m.park { p with task := .call (.write d rest) next }
      | .inl .blocked => m.park p
    | .call (.sleep nanos) next =>
      m.park { p with task := next (), wake := some (m.clock + nanos) }
    | .call r next =>
      match m.serve p r with
      | .answered a m p => turn programs fuel (m.later requestTime) { p with task := next a }
      | .blocked => m.park p
      | .killed signal => m.bury p (.killed signal)

/-- Let processes have their turns, until a condition holds, or a moment is reached, or no
process is ready. -/
def run (programs : Programs) (enough : Machine → Bool) (moment : Nat) : Nat → Machine → Machine
  | 0, m => m
  | fuel + 1, m =>
    if enough m || moment ≤ m.clock then m
    else match m.ready with
    | [] => m
    | p :: rest =>
      run programs enough moment fuel
        (turn programs turnLength { m with ready := rest } p).wakeDue

end Machine
end LabLifecycle

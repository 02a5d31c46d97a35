import LabLifecycle.Tools.Edit.Reading
import LabLifecycle.Tools.Edit.Substitution
import LabLifecycle.Tools.Options

/-!
# Editing lines

`sed` runs a script for every line of its input, or of files, and writes what becomes of
them. The last line is known as such because the input is looked at one step ahead. A line
without an end at the end of the input is written without an end, unless more is written.
-/
namespace LabLifecycle.Edit

/-- How lines are edited. -/
structure Settings where
  name : Raw
  environment : Environment := []
  script : Script := {}
  arguments : Nat := 1
  quiet : Bool := false
  separate : Bool := false
  backup : Option Raw := none
  inPlace : Bool := false
  width : Nat := 70
  delimiter : Char := '\n'

/-- Where output goes: to standard output, into the file that is edited, or to a descriptor. -/
inductive Sink where
  | standard
  | edited
  | descriptor (number : Nat)
  deriving DecidableEq, Repr

/-- An output, and whether its last line has no end yet. -/
structure Output where
  sink : Sink
  isOpen : Bool := false
  deriving DecidableEq, Repr

/-- A text that is worked on, and whether its line had an end. -/
structure Space where
  text : Raw := []
  ended : Bool := true
  deriving DecidableEq, Repr

/-- The input: files still to come, the one that is read with its descriptor, and what was
read and not used yet. -/
structure Input where
  coming : List Raw
  name : Raw := ['-']
  descriptor : Option Nat := none
  unused : Raw := []
  deriving DecidableEq, Repr

/-- What is written when the next line is read. -/
inductive Queued where
  | text (t : Raw)
  | file (path : Raw)
  deriving DecidableEq, Repr

/-- Whether a command is within its range, and the line it ends at if that is known. -/
inductive Range where
  | outside
  | within (stop : Option Nat)
  deriving DecidableEq, Repr, Inhabited

/-- A file that is read line by line, and what was read of it and not used yet. -/
structure Source where
  path : Raw
  descriptor : Option Nat
  unused : Raw := []
  deriving DecidableEq, Repr

/-- The state of an editor. -/
structure Editor where
  settings : Settings
  input : Input
  space : Space := {}
  held : Space := {}
  line : Nat := 0
  replaced : Bool := false
  rerun : Bool := false
  queue : List Queued := []
  last : Option Pattern := none
  ranges : Array Range := #[]
  outputs : List (Raw × Output) := []
  sources : List Source := []
  pending : List Raw := []
  pendingSize : Nat := 0
  edited : List Raw := []
  missing : Bool := false

/-- The ranges that hold before any line is read: those that start at line zero hold. -/
def firstRanges (s : Script) : Array Range :=
  s.commands.map fun c => if c.1.first = some (.line 0) then .within none else .outside

/-- A step of an editor. -/
abbrev Work := StateT Editor Action

namespace Work

/-- Make a request. -/
def request (r : Request) : Work r.Answer := liftM (Action.request r)

/-- Go through rounds until one yields a value. -/
def rounds {σ α : Type} (step : σ → Work (σ ⊕ α)) : Nat → σ → Work α
  | 0, _ => liftM (Action.exit (.killed 9) : Action α)
  | fuel + 1, s => do
    match ← step s with
    | .inl s => rounds step fuel s
    | .inr a => return a

/-- Repeat a step until it yields a value. -/
def loop {σ α : Type} (step : σ → Work (σ ⊕ α)) (start : σ) : Work α :=
  rounds step Action.patience start

/-! ### Output -/

/-- The name of the main output among the outputs. -/
def mainOutput : Raw := []

/-- Write what is kept for standard output. -/
def flush : Work Unit := do
  let e ← get
  set { e with pending := [], pendingSize := 0 }
  match ← liftM (Action.write 1 e.pending.reverse.flatten) with
  | .ok _ => return ()
  | .error fault =>
    liftM (Action.blame e.settings.name ("couldn't close stdout: " ++ fault.reason) : Action Unit)
    liftM (Action.exit (.code 4) : Action Unit)

/-- End the tool. What was read ahead of its input is there for others. -/
def stop {α : Type} (code : Nat) : Work α := do
  flush
  let e ← get
  if e.input.descriptor = some 0 then request (.giveBack 0 e.input.unused.length)
  liftM (Action.exit (.code code) : Action α)

/-- Say what is wrong and end the tool. -/
def fail {α : Type} (code : Nat) (message : String) : Work α := do
  flush
  liftM (Action.blame (← get).settings.name message : Action Unit)
  stop code

/-- There is something wrong with the script that shows only now. -/
def refuse {α : Type} (message : String) : Work α := do
  let e ← get
  fail 1 ("-e expression #" ++ toString e.settings.arguments ++ ", char 0: " ++ message)

/-- The number of bytes that are kept before they are written. -/
def bufferSize : Nat := 4096

/-- Write to a sink. -/
def put (s : Sink) (text : Raw) : Work Unit := do
  match s with
  | .standard =>
    modify fun e =>
      { e with pending := text :: e.pending, pendingSize := e.pendingSize + text.length }
    if bufferSize ≤ (← get).pendingSize then flush
  | .edited => modify fun e => { e with edited := text :: e.edited }
  | .descriptor n =>
    let _ ← liftM (Action.write n text)

/-- An output. -/
def output (name : Raw) : Work Output := do
  return ((← get).outputs.lookup name).getD { sink := .standard }

/-- Take note of an output. -/
def setOutput (name : Raw) (o : Output) : Work Unit :=
  modify fun e => { e with
    outputs := (name, o) :: e.outputs.filter (·.1 != name) }

/-- End the last line of an output if it has no end. -/
def endLine (name : Raw) : Work Sink := do
  let o ← output name
  if o.isOpen then
    put o.sink ['\n']
    setOutput name { o with isOpen := false }
  return o.sink

/-- Write a text on lines of its own. -/
def say (text : Raw) : Work Unit := do
  put (← endLine mainOutput) text

/-- Write a line to an output. -/
def sayLine (name : Raw) (text : Raw) (ended : Bool) : Work Unit := do
  let sink ← endLine name
  let delimiter := (← get).settings.delimiter
  put sink (if ended then text ++ [delimiter] else text)
  if !ended then setOutput name { sink := sink, isOpen := true }

/-! ### Input -/

/-- The number of bytes that are read at once. -/
def inputSize : Nat := 4096

/-- The name under which a file is kept when it is replaced. -/
def backupName (suffix path : Raw) : Raw :=
  if suffix.contains '*' then suffix.flatMap fun c => if c = '*' then path else [c]
  else path ++ suffix

/-- Keep the file of a path under another name, with the mode that it has. -/
def keepFile (path name : Raw) : Work Unit := do
  match ← request (.openFile path .read) with
  | .error _ => pure ()
  | .ok d =>
    let old ← liftM (Action.readAll d)
    let known ← request (.infoOf d)
    request (.close d)
    match ← request (.openFile name .write) with
    | .error fault => fail 4 ("cannot rename " ++ String.ofList path ++ ": " ++ fault.reason)
    | .ok d =>
      match known with
      | .ok i => request (.permit d i.mode)
      | .error _ => pure ()
      let _ ← liftM (Action.write d (old.toOption.getD []))
      request (.close d)

/-- Put the edited file in the place of the one that was read. -/
def replaceFile (path : Raw) : Work Unit := do
  let e ← get
  match e.settings.backup with
  | none => pure ()
  | some suffix => keepFile path (backupName suffix path)
  match ← request (.openFile path .write) with
  | .error fault => fail 4 ("couldn't open file " ++ String.ofList path ++ ": " ++ fault.reason)
  | .ok d =>
    let _ ← liftM (Action.write d e.edited.reverse.flatten)
    request (.close d)
  set { ← get with edited := [] }
  setOutput mainOutput { sink := .edited }

/-- Close the file that is read. -/
def closeInput : Work Unit := do
  let e ← get
  match e.input.descriptor with
  | none => return ()
  | some d =>
    set { e with input := { e.input with descriptor := none, unused := [] } }
    if d != 0 then request (.close d)
    if e.settings.inPlace then replaceFile e.input.name

/-- Start counting anew for another file, if files are edited on their own. -/
def startFile : Work Unit := do
  let e ← get
  if e.settings.separate && 0 < e.line then
    set { e with line := 0, ranges := firstRanges e.settings.script, sources := [] }
    let _ ← endLine mainOutput

/-- Open the next file. If that cannot be done, it is passed over. -/
def openInput (path : Raw) (coming : List Raw) : Work Unit := do
  startFile
  let e ← get
  let settle (descriptor : Option Nat) : Work Unit :=
    modify fun e => { e with
      input := { coming := coming, name := path, descriptor := descriptor }
      missing := e.missing || descriptor.isNone }
  if path = ['-'] && !e.settings.inPlace then settle (some 0)
  else
    match ← request (.openFile path .read) with
    | .error fault =>
      liftM (Action.blame e.settings.name
        ("can't read " ++ String.ofList path ++ ": " ++ fault.reason) : Action Unit)
      settle none
    | .ok d =>
      if e.settings.inPlace then
        match ← request (.infoOf d) with
        | .ok i =>
          if i.kind != .file then
            fail 4 ("couldn't edit " ++ String.ofList path ++ ": not a regular file")
        | .error _ => pure ()
        setOutput mainOutput { sink := .edited }
      settle (some d)

/-- Read more of the input that is open. Yields whether there is more. -/
def readMore : Work Bool := do
  let e ← get
  match e.input.descriptor with
  | none => return false
  | some d =>
    match ← request (.read d inputSize) with
    | .ok [] => return false
    | .ok part =>
      modify fun e => { e with input := { e.input with unused := e.input.unused ++ part } }
      return true
    | .error fault =>
      let name := if e.input.name = ['-'] then "stdin" else String.ofList e.input.name
      fail 4 ("read error on " ++ name ++ ": " ++ fault.reason)

/-- Whether there is more in the file that is open. -/
def fileGoesOn : Work Bool := do
  if (← get).input.unused.isEmpty then readMore else return true

/-- Whether there is more in the file that is open or in those to come, which are opened to
see that. -/
def goesOn : Work Bool := do
  if ← fileGoesOn then return true
  search ((← get).input.coming.length + 1)
where
  /-- Look at the files to come. -/
  search : Nat → Work Bool
    | 0 => return false
    | fuel + 1 => do
      match (← get).input.coming with
      | [] => return false
      | path :: coming =>
        closeInput
        openInput path coming
        if ← fileGoesOn then return true else search fuel

/-- Whether the current line is the last one. -/
def atEnd : Work Bool := do
  if (← get).settings.separate then return !(← fileGoesOn) else return !(← goesOn)

/-- Take a line of the file that is open. -/
def takeLine : Work Space :=
  loop (fun (_ : Unit) => do
    let e ← get
    match Raw.cut? e.settings.delimiter e.input.unused with
    | some (line, rest) =>
      set { e with input := { e.input with unused := rest } }
      return .inr { text := line }
    | none =>
      if ← readMore then return .inl ()
      else
        set { e with input := { e.input with unused := [] } }
        return .inr { text := e.input.unused, ended := false }) ()

/-- Write what was put off until the next line is read. -/
def writeQueue : Work Unit := do
  let e ← get
  set { e with queue := [] }
  e.queue.forM fun q => do
    let sink ← endLine mainOutput
    match q with
    | .text t => put sink t
    | .file path =>
      match ← (if path = "/dev/stdin".toList then pure (.ok 0)
          else request (.openFile path .read) : Work (Except FileError Nat)) with
      | .error _ => pure ()
      | .ok d =>
        let content ← liftM (Action.readAll d)
        if d != 0 then request (.close d)
        put sink (content.toOption.getD [])

/-- Read the next line, alone or after the text that is there. Yields whether there is one. -/
def readLine (longer : Bool) : Work Bool := do
  writeQueue
  modify fun e => { e with replaced := false }
  if ← goesOn then
    let line ← takeLine
    modify fun e => { e with
      line := e.line + 1
      space := if longer then { line with
        text := e.space.text ++ e.settings.delimiter :: line.text } else line }
    return true
  else
    closeInput
    return false

/-! ### Selection -/

/-- The pattern to look for: the one given, or the last one. -/
def patternOf (p : Option Pattern) : Work Pattern := do
  match p, (← get).last with
  | some p, _ | none, some p =>
    modify fun e => { e with last := some p }
    return p
  | none, none => refuse "no previous regular expression"

/-- Whether an address means the current line. -/
def isAt : Address → Work Bool
  | .line n => return (← get).line = n
  | .every first step => do
    let line := (← get).line
    return first ≤ line && (line - first) % step = 0
  | .last => atEnd
  | .search p => do
    let p ← patternOf p
    return p.regex.occursIn { text := (← get).space.text.toArray, byLine := p.byLine }
  | .further _ | .multiple _ => return false

/-- The range of a command that starts at a line, if it goes on after that. -/
def rangeFrom (line : Nat) : Address → Range
  | .line n => if n ≤ line then .outside else .within (some n)
  | .further n => if n = 0 then .outside else .within (some (line + n))
  | .multiple n =>
    if n = 0 || line % n = 0 then .outside else .within (some ((line / n + 1) * n))
  | _ => .within none

/-- Whether the current line is in the range of a command. -/
def isInRange (place : Nat) (first second : Address) : Work Bool := do
  let e ← get
  let set (r : Range) : Work Unit :=
    modify fun e => { e with ranges := e.ranges.set! place r }
  match (e.ranges[place]?).getD .outside with
  | .outside =>
    if ← isAt first then
      set (rangeFrom e.line second)
      return true
    else return false
  | .within (some stop) =>
    if stop ≤ e.line then set .outside
    if e.line ≤ stop then return true else isAt first
  | .within none =>
    if ← isAt second then set .outside
    return true

/-- Whether the current line is selected for a command. -/
def isSelected (place : Nat) (s : Selector) : Work Bool := do
  let found ← match s.first, s.second with
    | none, _ => pure true
    | some a, none => isAt a
    | some a, some b => isInRange place a b
  return found != s.negated

/-! ### Commands -/

/-- Where to go on: at a command, or after the end of the script, where the text is printed
or not, or with the script anew for what is left of the text. -/
inductive Turn where
  | at (place : Nat)
  | done
  | dropped
  | again

/-- Change the text that is worked on. -/
def changeText (f : Raw → Raw) : Work Unit :=
  modify fun e => { e with space := { e.space with text := f e.space.text } }

/-- Run a shell command and yield its output. -/
def captured (command : Raw) : Work Raw := do
  flush
  let environment := (← get).settings.environment
  let (source, drain) ← request .pipe
  let child : Action Nat := do
    Action.request (.close source)
    let _ ← Action.request (.copy drain 1)
    if drain != 1 then Action.request (.close drain)
    let _ ← Action.request
      (.become "/bin/sh".toList ["sh".toList, "-c".toList, command] environment)
    return 127
  let _ ← liftM (Action.fork child.task)
  request (.close drain)
  let text ← liftM (Action.readAll source)
  request (.close source)
  let _ ← request (.await false)
  return text.toOption.getD []

/-- Replace the text by the output of the command that it is. -/
def evaluateText : Work Unit := do
  let text ← captured (← get).space.text
  changeText fun _ => if text.getLast? = some '\n' then text.dropLast else text

/-- Carry a substitution out. -/
def substitute (s : Substitution) : Work Unit := do
  let p ← patternOf s.pattern
  let greatest := greatestGroup s.pieces
  if p.groups < greatest then
    refuse ("invalid reference \\" ++ toString greatest ++ " on \x60s' command's RHS")
  match s.result? p (← get).space.text with
  | none => return ()
  | some text =>
    modify fun e => { e with replaced := true }
    changeText fun _ => text
    if s.evaluates then evaluateText
    let space := (← get).space
    if s.prints then sayLine mainOutput space.text space.ended
    match s.output with
    | some name => sayLine name space.text space.ended
    | none => return ()

/-- A character as it is listed. -/
def listed (c : Char) : Raw :=
  match [('\\', '\\'), ('\x07', 'a'), ('\x08', 'b'), ('\x0C', 'f'), ('\n', 'n'),
      ('\r', 'r'), ('\t', 't'), ('\x0B', 'v')].lookup c with
  | some d => ['\\', d]
  | none =>
    if ' ' ≤ c && c ≤ '~' then [c]
    else
      let n := c.toNat
      '\\' :: [n / 64, n / 8 % 8, n % 8].map Nat.digitChar

/-- A text as it is listed, in lines of some width; zero stands for lines of any width. -/
def listing (width : Nat) (text : Raw) : Raw :=
  let (out, _) := text.foldl (fun (out, column) c =>
    let part := listed c
    if width != 0 && width - 1 < column + part.length then
      (part.reverseAux ('\n' :: '\\' :: out), part.length)
    else (part.reverseAux out, column + part.length)) (([] : Raw), 0)
  out.reverseAux ['$', '\n']

/-- Take the next line of a file that is read line by line. -/
def sourceLine (path : Raw) : Work (Option Raw) := do
  let known := (← get).sources.find? (·.path == path)
  let source ← match known with
    | some s => pure s
    | none =>
      let opened ← request (.openFile path .read)
      pure { path := path, descriptor := opened.toOption : Source }
  let keep (s : Source) : Work Unit :=
    modify fun e => { e with sources := s :: e.sources.filter (·.path != path) }
  loop (fun (s : Source) => do
    match Raw.cut? '\n' s.unused, s.descriptor with
    | some (line, rest), _ =>
      keep { s with unused := rest }
      return .inr (some (line ++ ['\n']))
    | none, none =>
      keep { s with unused := [] }
      return .inr (if s.unused.isEmpty then none else some s.unused)
    | none, some d =>
      match ← request (.read d inputSize) with
      | .ok (c :: part) => return .inl { s with unused := s.unused ++ c :: part }
      | _ =>
        request (.close d)
        return .inl { s with descriptor := none }) source

/-- Print the text unless nothing is to be printed by itself. -/
def printUsually : Work Unit := do
  let e ← get
  if !e.settings.quiet then sayLine mainOutput e.space.text e.space.ended

/-- The exit code after an end without trouble. -/
def endCode (code : Nat) : Work Nat := do
  return if (← get).missing then 2 else code

/-- The place to go on at after a branch. -/
def branchTurn (label : Raw) : Work Turn := do
  if label.isEmpty then return .done
  else return match (← get).settings.script.labels.lookup label with
    | some place => .at place
    | none => .done

/-- Carry out a command that is selected. -/
def perform (place : Nat) (c : Command) : Work Turn := do
  let e ← get
  let delimiter := e.settings.delimiter
  let onward : Turn := .at (place + 1)
  let queue (q : Queued) : Work Turn := do
    modify fun e => { e with queue := e.queue ++ [q] }
    return onward
  match c with
  | .block _ | .closing => return onward
  | .append t => queue (.text t)
  | .readFile path => queue (.file path)
  | .readLine path =>
    match ← sourceLine path with
    | some line => queue (.text line)
    | none => return onward
  | .insert t =>
    say t
    return onward
  | .change t =>
    match (e.ranges[place]?).getD .outside with
    | .within _ => pure ()
    | .outside => say t
    return .dropped
  | .branch .always label => branchTurn label
  | .branch .replaced label =>
    if e.replaced then
      set { e with replaced := false }
      branchTurn label
    else return onward
  | .branch .unreplaced label =>
    if e.replaced then
      set { e with replaced := false }
      return onward
    else branchTurn label
  | .delete => return .dropped
  | .deleteLine =>
    match Raw.cut? delimiter e.space.text with
    | none => return .dropped
    | some (_, rest) =>
      changeText fun _ => rest
      return .again
  | .evaluate command =>
    if command.isEmpty then evaluateText else say (← captured command)
    return onward
  | .fileName =>
    say (e.input.name ++ ['\n'])
    return onward
  | .get =>
    set { e with space := e.held }
    return onward
  | .getMore =>
    changeText (· ++ delimiter :: e.held.text)
    return onward
  | .hold =>
    set { e with held := e.space }
    return onward
  | .holdMore =>
    set { e with held := { e.held with text := e.held.text ++ delimiter :: e.space.text } }
    return onward
  | .exchange =>
    set { e with held := e.space, space := e.held }
    return onward
  | .listing width =>
    say (listing (width.getD e.settings.width) e.space.text)
    return onward
  | .next =>
    if ← atEnd then return .done
    else
      printUsually
      if ← readLine false then return onward else return .done
  | .nextMore =>
    if ← atEnd then return .done
    else if ← readLine true then return onward
    else return .done
  | .print =>
    sayLine mainOutput e.space.text e.space.ended
    return onward
  | .printLine =>
    match Raw.cut? delimiter e.space.text with
    | some (line, _) => sayLine mainOutput line true
    | none => sayLine mainOutput e.space.text e.space.ended
    return onward
  | .quit silently code =>
    if !silently then
      printUsually
      let _ ← endLine mainOutput
      writeQueue
    stop (← endCode code)
  | .substitute s =>
    substitute s
    return onward
  | .writeFile name =>
    sayLine name e.space.text e.space.ended
    return onward
  | .writeLine name =>
    match Raw.cut? delimiter e.space.text with
    | some (line, _) => sayLine name line true
    | none => sayLine name e.space.text true
    return onward
  | .translate pairs =>
    changeText fun text => text.map fun c => (pairs.lookup c).getD c
    return onward
  | .clear =>
    changeText fun _ => []
    return onward
  | .number =>
    say (Raw.ofNat e.line ++ ['\n'])
    return onward

/-- Run the script for a line. -/
def runScript : Work Turn :=
  loop (fun place => do
    match (← get).settings.script.commands[place]? with
    | none => return .inr .done
    | some (s, c) =>
      let turn ←
        if ← isSelected place s then perform place c
        else pure (match c with
          | .block after => Turn.at after
          | _ => .at (place + 1))
      match turn with
      | .at place => return .inl place
      | turn => return .inr turn) 0

/-- Edit all lines. -/
def editLines : Work Nat := do
  loop (fun (fresh : Bool) => do
    let more ← if fresh then readLine false else pure true
    if more then
      match ← runScript with
      | .done | .at _ =>
        printUsually
        return .inl true
      | .dropped => return .inl true
      | .again =>
        writeQueue
        return .inl false
    else return .inr ()) true
  endCode 0

end Work

/-! ### The tool -/

/-- The options of `sed`. -/
def rules : List OptionRule := [
  ⟨'n', ["quiet", "silent"], .none, true⟩, ⟨'e', ["expression"], .needed, true⟩,
  ⟨'f', ["file"], .needed, true⟩, ⟨'i', ["in-place"], .possible, true⟩,
  ⟨'l', ["line-length"], .needed, true⟩, ⟨'E', ["regexp-extended"], .none, true⟩,
  ⟨'r', [], .none, true⟩, ⟨'s', ["separate"], .none, true⟩, ⟨'u', ["unbuffered"], .none, true⟩,
  ⟨'z', ["null-data", "zero-terminated"], .none, true⟩, ⟨'b', ["binary"], .none, true⟩,
  ⟨'p', ["posix"], .none, false⟩, ⟨'g', ["debug"], .none, false⟩,
  ⟨'x', ["sandbox"], .none, false⟩, ⟨'k', ["follow-symlinks"], .none, false⟩]

/-- How `sed` is used, in short. -/
def usage : String :=
  "Usage: sed [OPTION]... \x7bscript-only-if-no-other-script\x7d [input-file]...\n"

/-- The parts of a script that arguments give. The first operand is one if there is no
other. -/
def scriptParts (name : Raw) : Nat → List OptionSet → Action (List (Origin × Raw))
  | _, [] => return []
  | count, ('e', some text) :: rest => do
    return (.argument (count + 1), text) :: (← scriptParts name (count + 1) rest)
  | count, ('f', some path) :: rest => do
    let opened : Except FileError Nat ←
      if path = ['-'] then pure (.ok 0) else Action.request (.openFile path .read)
    match opened with
    | .error e =>
      Action.blame name ("couldn't open file " ++ String.ofList path ++ ": " ++ e.reason)
      Action.exit (.code 4)
    | .ok d =>
      match ← Action.readAll d with
      | .error e =>
        Action.blame name ("read error on " ++ String.ofList path ++ ": " ++ e.reason)
        Action.exit (.code 4)
      | .ok text =>
        if d != 0 then Action.request (.close d)
        return (.file path, text) :: (← scriptParts name count rest)
  | count, _ :: rest => scriptParts name count rest

/-- Open the files that a script writes to. -/
def openOutputs (name : Raw) : List Raw → Action (List (Raw × Output))
  | [] => return []
  | path :: rest => do
    let sink : Sink ←
      if path = "/dev/stdout".toList then pure Sink.standard
      else if path = "/dev/stderr".toList then pure (Sink.descriptor 2)
      else match ← Action.request (.openFile path .write) with
      | .ok d => pure (Sink.descriptor d)
      | .error e =>
        Action.blame name ("couldn't open file " ++ String.ofList path ++ ": " ++ e.reason)
        Action.exit (.code 4)
    return (path, { sink := sink }) :: (← openOutputs name rest)

/-- The program. -/
def program : Program := fun words environment => Action.task do
  let name := words.headD []
  match Arguments.ofWords rules words.tail with
  | .error fault =>
    Action.blame name fault.message
    Action.complain usage.toList
    return 1
  | .ok a =>
    let given ← scriptParts name 0 a.options
    match given, a.operands with
    | [], [] =>
      Action.complain usage.toList
      return 1
    | given, operands =>
      let (parts, files) : List (Origin × Raw) × List Raw := match given, operands with
        | [], text :: files => ([(.argument 1, text)], files)
        | given, files => (given, files)
      let (result, script) := Script.read (a.has 'E' || a.has 'r') parts
      let outputs ← openOutputs name script.outputs
      match result with
      | .error fault =>
        Action.blame name fault.message
        return fault.code
      | .ok _ =>
        let width := a.options.foldl (fun w o =>
          if o.1 = 'l' then Raw.digitsValue ((o.2.getD []).takeWhile Char.isDigit) else w) 70
        let settings : Settings := {
          name := name
          environment := environment
          script := script
          arguments := (parts.filter fun p => match p.1 with
            | .argument _ => true
            | .file _ => false).length
          quiet := a.has 'n' || script.quiet
          separate := a.has 's' || a.has 'i'
          backup := (a.options.filter (·.1 = 'i')).getLast?.bind (·.2)
          inPlace := a.has 'i'
          width := width
          delimiter := if a.has 'z' then '\x00' else '\n' }
        let e : Editor := {
          settings := settings
          input := { coming := if files.isEmpty then [['-']] else files }
          ranges := firstRanges script
          outputs := outputs }
        let work : Work Nat := do Work.stop (← Work.editLines)
        let (code, _) ← work.run e
        return code

end LabLifecycle.Edit

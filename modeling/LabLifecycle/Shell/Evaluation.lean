import LabLifecycle.Shell.Lookup
import LabLifecycle.Shell.Parser

/-!
# Carrying out commands

What a shell does for a command. Commands hold commands, and some of them carry out texts; all
of that goes through an `Evaluator`, so that each kind of command is described by itself. An
evaluator of some depth uses the one below it.
-/
namespace LabLifecycle.Shell

/-- How a command is carried out: whether nothing comes after it, so that the shell can become
the program it starts, and whether its status is tested, so that a failure ends nothing. -/
structure Mode where
  exits : Bool := false
  tested : Bool := false
  deriving DecidableEq, Repr

/-- What carries out commands and texts, and yields their status. -/
structure Evaluator where
  command : Mode → Command → Step Nat
  text : Mode → Raw → Step Nat

namespace Evaluator
variable (e : Evaluator)

/-! ### Traps -/

/-- Carry out the action of a signal that has come. The status stays as it was, unless the
action leaves the function around it with one. -/
def runTrap (action : Raw) : Step Unit := do
  let before ← get
  set { before with heldStatus := some (before.heldStatus.getD before.status) }
  let _ ← e.text {} action
  modify fun s => { s with
    status := if s.skip = .body true then s.status else before.status
    heldStatus := before.heldStatus }

/-- Carry out the actions of the signals that have come, unless something is passed over. -/
def runTraps : Step Unit := do
  Step.noteSignals
  Step.loop (fun () => do
    let s ← get
    match s.arrived with
    | [] => return .inr ()
    | first :: others =>
      if s.skip != .nothing then return .inr ()
      else
        let signal := others.foldl min first
        set { s with arrived := s.arrived.filter (· != signal) }
        match s.traps.lookup signal with
        | some (c :: action) => e.runTrap (c :: action)
        | _ => pure ()
        return .inl ()) ()

/-- What is left to do at the end of a shell: its last trap. -/
def runLastTrap : Step Unit := do
  let s ← get
  match s.traps.lookup 0 with
  | none => return ()
  | some action =>
    set { s with
      traps := s.traps.filter (·.1 != 0), heldStatus := some s.status, skip := .nothing }
    let r ← Step.attempt (e.text {} action)
    modify fun s => { s with
      status := match r with
        | .ok _ | .error .exited => s.heldStatus.getD s.status
        | .error _ => s.status }
    unwindRedirects 0

/-- Do something, and end the shell after that. -/
def finish (body : Step Unit) : Step Unit := do
  let r ← Step.attempt body
  modify fun s => { s with
    status := match r with
      | .error .exited => s.heldStatus.getD s.status
      | _ => s.status
    heldStatus := none }
  unwindRedirects 0
  e.runLastTrap
  let s ← get
  Step.act (Action.exit (.code (s.status % 256)))

/-! ### Children -/

/-- What a child of a shell knows. Only traps that do nothing are left. -/
def childState (s : State) : State :=
  { s with
    traps := s.traps.filter (·.2.isEmpty), jobs := [], redirections := [], arrived := []
    heldStatus := none }

/-- Make a child ready: signals are as usual again, and in the background nobody can interrupt
it, or lets it read. -/
def prepareChild (trapped : List Nat) (background isFirst : Bool) : Step Unit := do
  trapped.forM fun n => Step.request (.dispose n .usual)
  if background then
    Step.request (.dispose 2 .ignored)
    Step.request (.dispose 3 .ignored)
    if isFirst then
      Step.request (.close 0)
      let _ ← Step.request (.openFile "/dev/null".toList .read)

/-- Start a child that does something. -/
def fork (background isFirst : Bool) (body : Step Unit) : Step Nat := do
  let s ← get
  let trapped := (s.traps.filter fun t => t.1 != 0 && !t.2.isEmpty).map (·.1)
  let child := e.finish do
    prepareChild trapped background isFirst
    body
  Step.act <| Action.fork <| (do
    let _ ← child.run.run (childState s)
    return 0 : Action Nat).task

/-- Run the commands of a substitution. -/
def substitute : Substituter := fun c => do
  let (source, drain) ← Step.request .pipe
  let process ← e.fork false true do
    Step.request (.close source)
    if drain != 1 then
      let _ ← Step.request (.copy drain 1)
      Step.request (.close drain)
    let _ ← e.command { exits := true } c
  Step.request (.close drain)
  let data ← Step.act (Action.readAll source)
  Step.request (.close source)
  let status ← Step.awaitAll [process]
  modify fun s => { s with outputStatus := status }
  return match data with
    | .ok text => text
    | .error _ => []

/-- Look the program of a stage of a pipeline up, if its name is plain to see. -/
def lookAhead : Command → Step Unit
  | .simple _ _ (w :: _) _ => do
    let s ← get
    let name := (plain? w).getD []
    if isName name && (own? name).isNone && (s.functions.lookup name).isNone then
      match ← findProgram (← searchPath) name with
      | .ok _ => trackName name
      | .error _ => return ()
  | _ => return ()

/-- The stages of a pipeline, given what the first one reads from. Yields their numbers. -/
def startStages (mode : Mode) (background : Bool) :
    List Command → Option Nat → Bool → Step (List Nat)
  | [], _, _ => return []
  | c :: rest, previous, isFirst => do
    lookAhead c
    let next ← if rest.isEmpty then pure none else some <$> Step.request .pipe
    let process ← e.fork background isFirst do
      match next with
      | some (source, _) => Step.request (.close source)
      | none => pure ()
      match previous with
      | some n =>
        if n != 0 then
          let _ ← Step.request (.copy n 0)
          Step.request (.close n)
      | none => pure ()
      match next with
      | some (_, drain) =>
        if drain != 1 then
          let _ ← Step.request (.copy drain 1)
          Step.request (.close drain)
      | none => pure ()
      let _ ← e.command { mode with exits := true } c
    match previous with
    | some n => Step.request (.close n)
    | none => pure ()
    match next with
    | some (_, drain) => Step.request (.close drain)
    | none => pure ()
    let others ← startStages mode background rest (next.map (·.1)) false
    return process :: others

/-- Carry out a pipeline. -/
def pipeline (mode : Mode) (stages : List Command) : Step Nat := do
  let processes ← e.startStages mode false stages none true
  Step.awaitAll processes

/-- Start a command that runs by itself. -/
def background (mode : Mode) (c : Command) : Step Nat := do
  let processes ← match c with
    | .pipe stages => e.startStages mode true stages none true
    | c => do
      let process ← e.fork true true do
        let _ ← e.command { exits := true } c
      pure [process]
  Step.addJob processes
  modify fun s => { s with background := processes.getLast? }
  return 0

/-- Make redirections ready. -/
def ready (redirects : List Redirect) : Step (List Opening) :=
  redirects.mapM (readyRedirect e.substitute)

/-- Carry out commands in a shell of their own. -/
def isolated (mode : Mode) (line : Nat) (body : Command) (redirects : List Redirect) :
    Step Nat := do
  modify fun s => { s with line := line }
  let openings ← e.ready redirects
  let inside : Step Unit := do
    openings.forM (redirect false)
    let _ ← e.command { mode with exits := true } body
  if mode.exits && !(← get).traps.any (!·.2.isEmpty) then
    inside
    Step.jump .ended
  else
    let process ← e.fork false true inside
    Step.awaitAll [process]

/-- Carry out a command with redirections for all of it. -/
def redirected (mode : Mode) (line : Nat) (body : Command) (redirects : List Redirect) :
    Step Nat := do
  modify fun s => { s with line := line }
  let openings ← e.ready redirects
  let worked ← redirectSafely openings
  let status ← if worked then e.command { tested := mode.tested } body else pure 2
  popRedirects false
  return status

/-! ### Loops and choices -/

/-- What a round of a loop comes to: the next one follows, or the loop is left. A jump that
leads further out is counted down. -/
def endRound : Step Bool := do
  let s ← get
  match s.skip with
  | .nothing => return true
  | .body _ => return false
  | .loops n =>
    set { s with skip := if n ≤ 1 then .nothing else .loops (n - 1) }
    return false
  | .round n =>
    set { s with skip := if n ≤ 1 then .nothing else .round (n - 1) }
    return n ≤ 1

/-- Do something inside of a loop. -/
def inLoop (body : Step Nat) : Step Nat := do
  modify fun s => { s with loops := s.loops + 1 }
  let status ← body
  modify fun s => { s with loops := s.loops - 1 }
  return status

/-- Repeat commands while a condition holds, or as long as it does not. -/
def conditionLoop (mode : Mode) (condition body : Command) (goOn : Bool) : Step Nat :=
  inLoop <| Step.loop (fun status => do
    let found ← e.command { tested := true } condition
    let skipped := (← get).skip
    if !(← endRound) then
      return .inr (match skipped with
        | .body _ => found
        | _ => status)
    else if skipped != .nothing then return .inl status
    else if (found == 0) != goOn then return .inr status
    else
      let status ← e.command { tested := mode.tested } body
      return if ← endRound then .inl status else .inr status) 0

/-- Repeat commands for each of some words. -/
def wordLoop (mode : Mode) (line : Nat) (name : Raw) (words : List Word) (body : Command) :
    Step Nat := do
  modify fun s => { s with line := line }
  let fields ← words.mapM (expandFields e.substitute)
  inLoop <| Step.loop (fun (fields, status) => do
    match fields with
    | [] => return .inr status
    | f :: rest =>
      Step.assign name f
      let status ← e.command { tested := mode.tested } body
      return if ← endRound then .inl (rest, status) else .inr status) (fields.flatten, 0)

/-- Whether one of some patterns matches a text. -/
def anyFits (subject : Raw) : List Word → Step Bool
  | [] => return false
  | w :: rest => do
    let p ← expandPattern e.substitute w
    if p.fits subject then return true else anyFits subject rest

/-- Carry out the first arm whose patterns match a text. -/
def chooseArm (mode : Mode) (subject : Raw) : List (List Word × Command) → Step Nat
  | [] => return 0
  | (patterns, body) :: rest => do
    if ← e.anyFits subject patterns then
      match body with
      | .nothing => return 0
      | body => e.command mode body
    else chooseArm mode subject rest

/-! ### Simple commands -/

/-- Expand words until there is a field. -/
def firstFields : List Word → Step (List Raw × List Word)
  | [] => return ([], [])
  | w :: rest => do
    let fields ← expandFields e.substitute w
    if fields.isEmpty then firstFields rest else return (fields, rest)

/-- What the name of a command means so far. Programs are looked for later. -/
inductive Meaning where
  | function (body : Command)
  | own (o : Own)
  | program

/-- What a simple command comes to before its arguments are expanded: the fields so far, those
that were passed over, what the name means, whether a mistake ends the shell, whether
assignments last, whether functions count, and the search path to use. -/
structure Resolved where
  passed : List Raw := []
  fields : List Raw
  rest : List Word
  meaning : Meaning := .program
  isSpecial : Bool := false
  lasts : Bool := false
  functions : Bool := true
  path : Option Raw := none

/-- The meaning of a name. -/
def meaningOf (s : State) (name : Raw) (functions : Bool) : Meaning :=
  if name.contains '/' then .program
  else
    match if functions then s.functions.lookup name else none with
    | some body => .function body
    | none =>
      match own? name with
      | some o => .own o
      | none => .program

/-- What a simple command comes to, given that the fields are those after `command`: they are
passed over together with options, unless those ask for something else or nothing follows. -/
def bypassed (r : Resolved) : Nat → List Raw → List Raw → List Word → Option Raw → Step Resolved
  | 0, _, _, _, _ => return r
  | fuel + 1, passed, fields, rest, path => do
    let (fields, rest) ← if fields.isEmpty then e.firstFields rest else pure (fields, rest)
    let unchanged : Resolved := { r with fields := passed ++ fields, rest := rest }
    let found (passed fields : List Raw) (rest : List Word) : Resolved := { r with
      passed := r.passed ++ passed, fields := fields, rest := rest, functions := false
      path := path }
    match fields with
    | [] => return unchanged
    | ['-', '-'] :: more =>
      let (more, rest) ← if more.isEmpty then e.firstFields rest else pure (more, rest)
      if more.isEmpty then return { unchanged with rest := [] }
      else return found (passed ++ [['-', '-']]) more rest
    | ('-' :: c :: letters) :: more =>
      if (c :: letters).all (· == 'p') then
        bypassed r fuel (passed ++ ['-' :: c :: letters]) more
          rest (some usualSearchPath)
      else return unchanged
    | fields => return found passed fields rest

/-- Find out what a command means, given its first fields. -/
def resolve : Nat → Resolved → Step Resolved
  | 0, r => return r
  | fuel + 1, r => do
    let name := r.fields.headD []
    let r := { r with meaning := meaningOf (← get) name r.functions }
    match r.meaning with
    | .own .bypass =>
      let next ← e.bypassed r (r.fields.length + r.rest.length + 2) [name] r.fields.tail r.rest
        r.path
      if next.passed.length = r.passed.length then return next else resolve fuel next
    | _ => return r

/-- The fields of the remaining words, some of which are assignments. -/
def furtherFields (assigning : Bool) : List Word → Step (List Raw)
  | [] => return []
  | w :: rest => do
    let fields ←
      if assigning && (assignment? w).isSome then do pure [← expandValue e.substitute w]
      else expandFields e.substitute w
    return fields ++ (← furtherFields assigning rest)

/-- Show a command that is about to be carried out, where its own redirections do not lead. -/
def showCommand (isRedirected : Bool) (assigned : List (Raw × Raw)) (words : List Raw) : Step Unit := do
  let s ← get
  if s.has 'x' then
    set { s with options := s.options.filter (· != 'x') }
    let start ← expandPieces e.substitute false .script (documentWord (s.valueOf "PS4"))
    modify fun t => { t with options := s.options }
    let shown := (assigned.map fun (n, v) => n ++ '=' :: v) ++ words
    let descriptor := match isRedirected, s.redirections with
      | true, frame :: _ => ((frame.lookup 2).bind id).getD 2
      | _, _ => 2
    Step.tell descriptor (wholeText start ++ Raw.joined [' '] shown ++ ['\n'])

/-- Call a function. -/
def callFunction (mode : Mode) (body : Command) (arguments : List Raw) : Step Nat := do
  let s ← get
  if 1000 ≤ s.calls then Step.refuse "Maximum function recursion depth (1000) reached"
  set { s with
    parameters := arguments, optionIndex := 1, optionOffset := 0, loops := 0
    calls := s.calls + 1 }
  let r ← Step.attempt (e.command { tested := mode.tested } body)
  modify fun t => { t with
    parameters := s.parameters, optionIndex := s.optionIndex, optionOffset := s.optionOffset
    loops := s.loops, calls := s.calls
    skip := match t.skip with
      | .body _ => .nothing
      | skip => skip }
  match r with
  | .ok status => return status
  | .error j => Step.jump j

/-- The number of bytes of a script that are read at once. -/
def chunkSize : Nat := 8192

/-- Carry out a script, of which more can come from a descriptor. -/
def script (descriptor : Option Nat) (mode : Mode) (start : Source) : Step Nat :=
  Step.loop (fun (source, status) => do
    let s ← get
    let source : Source := { source with
      aliases := s.aliases, next := s.nextDocument, documents := [] }
    let display (rest : Raw) : Step Unit :=
      if s.has 'v' then Step.tell 2 (source.rest.take (source.rest.length - rest.length))
      else pure ()
    match source.nextCommand with
    | .stopped .incomplete =>
      match descriptor with
      | none => return .inl ({ source with complete := true }, status)
      | some d =>
        match ← Step.request (.read d chunkSize) with
        | .error _ | .ok [] => return .inl ({ source with complete := true }, status)
        | .ok data => return .inl ({ source with rest := source.rest ++ data }, status)
    | .stopped (.wrong line message) =>
      set { s with line := line, readLine := line }
      Step.refuse message
    | .finished rest =>
      display rest.rest
      return .inr status
    | .command c rest =>
      display rest.rest
      set { s with
        documents := rest.documents ++ s.documents, nextDocument := rest.next
        readLine := rest.line }
      let isLast := rest.rest.isEmpty && rest.complete && source.rest.getLast? != some '\n'
      let status ← e.command { mode with exits := mode.exits && isLast } c
      if (← get).skip = .nothing then return .inl (rest, status) else return .inr status) (start, 0)

/-- Carry out a script in a file. -/
def sourceFile (arguments : List Raw) : Step Nat := do
  let (_, arguments) ← Builtin.letters "" arguments
  match arguments with
  | [] => return 0
  | name :: _ =>
    let path ←
      if name.contains '/' then pure name
      else
        let found ← (candidates (← searchPath) name).findM? fun p => do
          match ← Step.request (.info p true) with
          | .ok i => return i.kind == .file
          | .error _ => return false
        match found with
        | some p => pure p
        | none => Step.refuse (String.ofList name ++ ": not found")
    let opened ← openFile path .read
    let d := (← Step.request (.keep opened)).getD opened
    Step.request (.close opened)
    let line := (← get).readLine
    modify fun s => { s with speaker := some path }
    let r ← Step.attempt (e.script (some d) {} { rest := [], complete := false })
    Step.request (.close d)
    modify fun s => { s with
      readLine := line
      skip := match s.skip with
        | .body _ => .nothing
        | skip => skip }
    match r with
    | .ok status => return status
    | .error j => Step.jump j

/-- Carry out a command of the shell itself. -/
def runOwn (mode : Mode) (o : Own) (words : List Raw) : Step Nat :=
  let arguments := words.tail
  match o with
  | .plain run => run arguments
  | .evaluate =>
    if arguments.isEmpty then return 0
    else e.text { tested := mode.tested } (Raw.joined [' '] arguments)
  | .source => e.sourceFile arguments
  | .replace => do
    let (_, arguments) ← Builtin.letters "" arguments
    if arguments.isEmpty then return 0 else become (← searchPath) arguments
  | .bypass => do
    let (found, names) ← Builtin.letters "pvV" arguments
    let path := if found.contains 'p' then some usualSearchPath else none
    match names with
    | [] => return 0
    | name :: _ =>
      if found.contains 'v' || found.contains 'V' then
        describe (found.contains 'V') path name
      else return 0
  | .describe =>
    arguments.foldlM (fun status name => do
      let found ← describe true none name
      return status ||| found) 0
  | .track => track arguments

/-- Carry out a command of the shell itself. A mistake in one that is not special ends nothing
but that command. -/
def guardOwn (mode : Mode) (isSpecial : Bool) (o : Own) (words : List Raw) : Step Unit := do
  let speaker := (← get).speaker
  modify fun s => { s with speaker := words.head? }
  let r ← Step.attempt (e.runOwn mode o words)
  modify fun s => { s with speaker := speaker }
  match r with
  | .ok status => Step.setStatus status
  | .error .failed => if isSpecial then Step.jump .failed else pure ()
  | .error j => Step.jump j

/-- Run a program. -/
def runProgram (mode : Mode) (path : Option Raw) (words : List Raw) : Step Nat := do
  let name := words.headD []
  let path ← match path with
    | some p => pure p
    | none => searchPath
  let found ← if name.contains '/' then pure (.ok name) else findProgram path name
  match found with
  | .error reason =>
    Step.warn (commandReason name reason)
    return 127
  | .ok _ =>
    if !name.contains '/' then trackName name
    if mode.exits && !(← get).traps.any (!·.2.isEmpty) then become path words
    else
      let process ← e.fork false true (become path words)
      Step.awaitAll [process]

/-- Make the assignments before a command. Those that do not last are exported. -/
def assignAll (lasts exported : Bool) : List (Raw × Word) → Step (List (Raw × Raw))
  | [] => return []
  | (name, w) :: rest => do
    let value ← expandValue e.substitute w
    if !lasts then Step.keepLocal name
    Step.assign name value
    if !lasts || exported then Step.change name fun b => { b with exported := true }
    return (name, value) :: (← assignAll lasts exported rest)

/-- Carry out a simple command. -/
def simple (mode : Mode) (line : Nat) (assignments : List (Raw × Word)) (words : List Word)
    (redirects : List Redirect) : Step Nat := do
  modify fun s => { s with line := line, outputStatus := 0 }
  let (fields, rest) ← e.firstFields words
  let start : Resolved := { fields := fields, rest := rest, lasts := true }
  let r ←
    if fields.isEmpty then pure start
    else
      let first := meaningOf (← get) (fields.headD []) true
      let isSpecial := match first with
        | .own _ => isSpecialCommand (fields.headD [])
        | _ => false
      e.resolve (words.length + fields.length + 1)
        { start with isSpecial := isSpecial, lasts := isSpecial }
  let assigning := match r.meaning with
    | .own _ => takesAssignments (r.fields.headD [])
    | _ => false
  let all := r.fields ++ (← e.furtherFields assigning r.rest)
  let replaces := match r.meaning with
    | .own .replace => true
    | _ => false
  let locals := (← get).locals.length
  let redirections := (← get).redirections.length
  if !r.lasts then modify fun s => { s with locals := [] :: s.locals }
  let openings ← e.ready redirects
  let finish (status : Nat) : Step Nat := do
    if !openings.isEmpty then popRedirects replaces
    unwindRedirects redirections
    Step.dropLocals locals
    return status
  if !(← redirectSafely openings) then
    Step.setStatus 2
    if r.isSpecial then Step.jump .failed else finish 2
  else
    let assigned ← e.assignAll r.lasts (replaces && 1 < all.length) assignments
    e.showCommand (!openings.isEmpty) assigned (r.passed ++ all)
    if all.isEmpty then finish (← get).outputStatus
    else
      match r.meaning with
      | .own o =>
        e.guardOwn mode r.isSpecial o all
        finish (← get).status
      | .function body =>
        let status ← e.callFunction mode body all.tail
        finish status
      | .program => finish (← e.runProgram mode r.path all)

/-! ### Commands -/

/-- Carry out a command of any kind. The flag tells whether its failure can end the shell. -/
def runCommand (mode : Mode) : Command → Step (Nat × Bool)
  | .nothing => return ((← get).status, false)
  | .simple line assignments words redirects => do
    return (← e.simple mode line assignments words redirects, true)
  | .pipe stages => do return (← e.pipeline mode stages, true)
  | .background c => do return (← e.background mode c, true)
  | .negate c => do
    let status ← e.command { tested := true } c
    let passes := (← get).skip != .nothing
    return (if passes then status else if status = 0 then 1 else 0, false)
  | .both first second => do
    let status ← e.command { tested := true } first
    if status != 0 || (← get).skip != .nothing then return (status, false)
    else return (← e.command mode second, false)
  | .either first second => do
    let status ← e.command { tested := true } first
    if status = 0 || (← get).skip != .nothing then return (status, false)
    else return (← e.command mode second, false)
  | .sequence first second => do
    let status ← e.command { tested := mode.tested } first
    if (← get).skip != .nothing then return (status, false)
    else return (← e.command mode second, false)
  | .branch condition yes no => do
    let status ← e.command { tested := true } condition
    if (← get).skip != .nothing then return (status, false)
    else if status = 0 then return (← e.command mode yes, false)
    else
      match no with
      | .nothing => return (0, false)
      | no => return (← e.command mode no, false)
  | .choose line subject arms => do
    modify fun s => { s with line := line }
    let text ← expandText e.substitute subject
    return (← e.chooseArm mode text arms, false)
  | .loop condition body goOn => do return (← e.conditionLoop mode condition body goOn, false)
  | .each line name words body => do return (← e.wordLoop mode line name words body, false)
  | .isolated line body redirects => do return (← e.isolated mode line body redirects, true)
  | .redirected line body redirects => do
    return (← e.redirected mode line body redirects, true)
  | .define _ name body => do
    modify fun s => { s with functions := putNamed name body s.functions }
    return (0, false)

/-- Carry out a command, and end the shell after it if it was the last one, or failed where
failures end the shell. -/
def step (mode : Mode) (c : Command) : Step Nat := do
  if (← get).has 'n' then return (← get).status
  e.runTraps
  let (status, counts) ← e.runCommand mode c
  Step.setStatus status
  if !(← get).traps.isEmpty then e.runTraps
  if counts && status != 0 && !mode.tested && (← get).has 'e' then Step.jump .ended
  if mode.exits then Step.jump .ended
  return (← get).status

/-- Carry out a text. -/
def runText (mode : Mode) (text : Raw) : Step Nat := do
  let line := (← get).readLine
  let status ← e.script none mode { rest := text }
  modify fun s => { s with readLine := line }
  return status

end Evaluator

/-- The evaluator of some depth. -/
def evaluator : Nat → Evaluator
  | 0 => { command := fun _ _ => Step.jump .ended, text := fun _ _ => Step.jump .ended }
  | depth + 1 => {
      command := fun mode c => (evaluator depth).step mode c
      text := fun mode t => (evaluator depth).runText mode t }

end LabLifecycle.Shell

import LabLifecycle.Shell.Condition
import LabLifecycle.Shell.Fields
import LabLifecycle.Shell.Format
import LabLifecycle.Shell.Jobs

/-!
# Commands of the shell itself

The commands that need nothing but the state of the shell and requests to the machine: those
that write texts, test conditions and read lines, those that change variables, parameters,
options and the directory, and those for jobs, signals and traps. A command gets its arguments
and yields its status.
-/
namespace LabLifecycle.Shell

/-- A command of the shell itself. -/
abbrev Builtin := List Raw → Step Nat

namespace Builtin

/-! ### Arguments -/

/-- Write a text to standard output. A complaint follows if that cannot be done. -/
def output (text : Raw) : Step Nat := do
  match ← Step.act (Action.write 1 text) with
  | .ok _ => return 0
  | .error _ =>
    let speaker := ((← get).speaker.map String.ofList).getD ""
    Step.warn (speaker ++ ": I/O error")
    return 1

/-- Write lines. -/
def outputLines (lines : List String) : Step Nat :=
  output ((String.join (lines.map (· ++ "\n"))).toList)

/-- Take the option letters off arguments. A letter of the second text takes an argument. -/
def options (plain withArgument : Raw) :
    Nat → List Raw → Step (List (Char × Raw) × List Raw)
  | 0, arguments => return ([], arguments)
  | fuel + 1, arguments =>
    match arguments with
    | ['-', '-'] :: rest => return ([], rest)
    | ('-' :: c :: more) :: rest => do
      let others := if more.isEmpty then rest else ('-' :: more) :: rest
      if plain.contains c then
        let (letters, left) ← options plain withArgument fuel others
        return ((c, []) :: letters, left)
      else if withArgument.contains c then
        match more, rest with
        | [], [] => Step.refuse ("No arg for -" ++ String.ofList [c] ++ " option")
        | [], a :: rest =>
          let (letters, left) ← options plain withArgument fuel rest
          return ((c, a) :: letters, left)
        | more, rest =>
          let (letters, left) ← options plain withArgument fuel rest
          return ((c, more) :: letters, left)
      else Step.refuse ("Illegal option -" ++ String.ofList [c])
    | arguments => return ([], arguments)

/-- Take option letters off arguments. -/
def letters (plain : String) (arguments : List Raw) : Step (List Char × List Raw) := do
  let size := (arguments.map List.length).foldl (· + ·) arguments.length
  let (found, rest) ← options plain.toList [] (size + 1) arguments
  return (found.map (·.1), rest)

/-- The number that digits denote. -/
def number (s : Raw) : Step Nat :=
  if !s.isEmpty && s.all Char.isDigit then return Raw.digitsValue s
  else Step.refuse ("Illegal number: " ++ String.ofList s)

/-! ### Texts, conditions and lines -/

/-- Write arguments. -/
def echo : Builtin := fun arguments => output (echoText arguments)

/-- Write arguments in a format. -/
def printf : Builtin := fun arguments => do
  let (_, arguments) ← letters "" arguments
  match arguments with
  | [] => Step.refuse "usage: printf format [arg ...]"
  | format :: arguments =>
    let p := printFormat format arguments
    p.complaints.reverse.forM Step.warn
    match p.mistake with
    | none =>
      let written ← output p.out.reverse.flatten
      return max written (if p.complaints.isEmpty then 0 else 1)
    | some message =>
      Step.warn message
      let _ ← output p.out.reverse.flatten
      Step.setStatus 2
      Step.jump .failed

/-- The status of a condition, or the refusal of a mistaken one. -/
def condition (found : Action (Except String Nat)) : Step Nat := do
  match ← Step.act found with
  | .ok status => return status
  | .error message => Step.refuse message

/-- Test a condition. -/
def test : Builtin := fun arguments => condition (testStatus arguments)

/-- Test a condition that a bracket ends. -/
def bracket : Builtin := fun arguments => condition (bracketStatus arguments)

/-- The characters of a line, with backslashes carried out unless they count as themselves.
The flag tells whether the line goes on after its end. -/
def lineChars (raw : Bool) : Raw → Field × Bool
  | '\\' :: rest =>
    if raw then
      let (more, goesOn) := lineChars raw rest
      (('\\', false) :: more, goesOn)
    else
      match rest with
      | [] => ([], true)
      | c :: rest =>
        let (more, goesOn) := lineChars raw rest
        ((c, true) :: more, goesOn)
  | c :: rest =>
    let (more, goesOn) := lineChars raw rest
    ((c, false) :: more, goesOn)
  | [] => ([], false)

/-- Read a line that may go on after its end. The flag tells whether its end was there. -/
def readLine (raw : Bool) : Step (Field × Bool) :=
  Step.loop (fun (before : Field) => do
    match ← Step.request (.readLine 0) with
    | .error _ | .ok [] => return .inr (before, false)
    | .ok data =>
      let ended := data.getLast? == some '\n'
      let text := (if ended then data.dropLast else data).filter (· != '\x00')
      let (chars, goesOn) := lineChars raw text
      if ended && !goesOn then return .inr (before ++ chars, true)
      else return .inl (before ++ chars)) []

/-- Give a variable a value, if its name is one. -/
def assignNamed (name value : Raw) : Step Unit :=
  if isName name then Step.assign name value
  else Step.refuse (String.ofList name ++ ": bad variable name")

/-- Read a line into variables. -/
def read : Builtin := fun arguments => do
  let size := (arguments.map List.length).foldl (· + ·) arguments.length
  let (found, names) ← options ['r'] ['p'] (size + 1) arguments
  if names.isEmpty then Step.refuse "arg count"
  let (line, ended) ← readLine (found.any (·.1 == 'r'))
  let separators := (← get).separators
  (readFields separators names line).forM fun (name, value) => assignNamed name value
  return if ended then 0 else 1

/-! ### Variables -/

/-- A text between quotes, in which quotes stand between quotes of the other kind. -/
def quotedFrom : Nat → Raw → Raw
  | 0, _ => []
  | fuel + 1, s =>
    let head := s.takeWhile (· != '\'')
    let quotes := (s.drop head.length).takeWhile (· == '\'')
    let rest := s.drop (head.length + quotes.length)
    '\'' :: head ++ ['\''] ++ (if quotes.isEmpty then [] else '"' :: quotes ++ ['"']) ++
      if rest.isEmpty then [] else quotedFrom fuel rest

/-- A text between quotes. -/
def quoted (s : Raw) : Raw := quotedFrom (s.length + 1) s

/-- Variables in the order of their names, after a word. -/
def listing (word : String) (bindings : List (Raw × Binding)) : Step Nat :=
  output <| (bindings.mergeSort fun a b => !decide (b.1 < a.1)).flatMap fun (name, b) =>
    word.toList ++ name ++ (b.value.map fun v => '=' :: quoted v).getD [] ++ ['\n']

/-- Mark variables that arguments name, perhaps with values. -/
def declare (mark : Binding → Binding) (argument : Raw) : Step Unit := do
  let (name, value) := match argument.cut? '=' with
    | some (name, value) => (name, some value)
    | none => (argument, none)
  if !isName name then Step.refuse (String.ofList name ++ ": bad variable name")
  match value with
  | some v => Step.assign name v
  | none => pure ()
  modify fun s =>
    { s with bindings := putNamed name (mark ((s.bindings.lookup name).getD {})) s.bindings }

/-- Let programs see variables. -/
def exportNames : Builtin := fun arguments => do
  let (found, names) ← letters "p" arguments
  if found.isEmpty && !names.isEmpty then
    names.forM (declare fun b => { b with exported := true })
    return 0
  else listing "export " ((← get).bindings.filter (·.2.exported))

/-- Fix variables. -/
def fixNames : Builtin := fun arguments => do
  let (found, names) ← letters "p" arguments
  if found.isEmpty && !names.isEmpty then
    names.forM (declare fun b => { b with fixed := true })
    return 0
  else listing "readonly " ((← get).bindings.filter (·.2.fixed))

/-- Let variables be local to a function. -/
def localNames : Builtin := fun arguments => do
  if (← get).calls = 0 then Step.refuse "not in a function"
  arguments.forM fun a => do
    if a == ['-'] then
      modify fun s =>
        match s.locals with
        | frame :: rest =>
          { s with locals := ((['-'], some { value := some s.options }) :: frame) :: rest }
        | [] => s
    else
      let (name, value) := match a.cut? '=' with
        | some (name, value) => (name, some value)
        | none => (a, none)
      if !isName name then Step.refuse (String.ofList name ++ ": bad variable name")
      Step.keepLocal name
      match value with
      | some v => Step.assign name v
      | none => return ()
  return 0

/-- Take variables or functions away. -/
def unset : Builtin := fun arguments => do
  let (found, names) ← letters "vf" arguments
  names.forM fun name => do
    if found.getLast? = some 'f' then
      modify fun s => { s with functions := s.functions.filter (·.1 != name) }
    else if isName name then Step.unset name
    else Step.refuse (String.ofList name ++ ": bad variable name")
  return 0

/-! ### Parameters and options -/

/-- The options by letter, with their names, in the order of listings. -/
def optionNames : List (Char × String) := [
  ('e', "errexit"), ('f', "noglob"), ('I', "ignoreeof"), ('i', "interactive"), ('m', "monitor"),
  ('n', "noexec"), ('s', "stdin"), ('x', "xtrace"), ('v', "verbose"), ('V', "vi"), ('E', "emacs"),
  ('C', "noclobber"), ('a', "allexport"), ('b', "notify"), ('u', "nounset"), ('\x00', "nolog"),
  ('\x01', "debug")]

/-- Switch an option on or off. -/
def switch (option : Char) (on : Bool) : Step Unit :=
  if optionNames.any (·.1 == option) then
    modify fun s =>
      let others := s.options.filter (· != option)
      { s with options := if on then option :: others else others }
  else Step.refuse ("Illegal option -" ++ String.ofList [option])

/-- Switch an option given by name, or list all of them. -/
def switchNamed (on : Bool) : Option Raw → Step Unit
  | none => do
    let s ← get
    let lines := optionNames.map fun (c, name) =>
      if on then name ++ String.ofList (List.replicate (16 - name.length) ' ') ++
        (if s.has c then "on" else "off")
      else "set " ++ (if s.has c then "-o " else "+o ") ++ name
    let _ ← outputLines (if on then "Current option settings" :: lines else lines)
  | some name =>
    match optionNames.find? (·.2.toList == name) with
    | some (c, _) => switch c on
    | none => Step.refuse ("Illegal option " ++ (if on then "-" else "+") ++ "o " ++
        String.ofList name)

/-- Switch the options that letters name. An `o` takes the next argument. -/
def switchLetters (on : Bool) : Raw → List Raw → Step (List Raw)
  | [], rest => return rest
  | 'o' :: more, rest => do
    switchNamed on rest.head?
    switchLetters on more rest.tail
  | c :: more, rest => do
    switch c on
    switchLetters on more rest

/-- Take options off the arguments of `set`. The flag tells whether the parameters are
replaced even by none. -/
def setOptions : Nat → List Raw → Step (Bool × List Raw)
  | 0, arguments => return (false, arguments)
  | fuel + 1, arguments =>
    match arguments with
    | ['-'] :: rest => do
      switch 'x' false
      switch 'v' false
      return (false, rest)
    | ['-', '-'] :: rest => return (true, rest)
    | ('-' :: more) :: rest => do setOptions fuel (← switchLetters true more rest)
    | ('+' :: more) :: rest => do setOptions fuel (← switchLetters false more rest)
    | arguments => return (false, arguments)

/-- Replace the parameters. -/
def setParameters (parameters : List Raw) : Step Unit :=
  modify fun s => { s with parameters := parameters, optionIndex := 1, optionOffset := 0 }

/-- Change options and parameters, or list variables. -/
def set : Builtin := fun arguments => do
  if arguments.isEmpty then
    listing "" ((← get).bindings.filter (·.2.value.isSome))
  else
    let (replaced, rest) ← setOptions (arguments.length + 1) arguments
    if replaced || !rest.isEmpty then setParameters rest
    return 0

/-- Drop the first parameters. -/
def shift : Builtin := fun arguments => do
  let n ← match arguments with
    | [] => pure 1
    | a :: _ => number a
  let s ← get
  if s.parameters.length < n then Step.refuse "can't shift that many"
  setParameters (s.parameters.drop n)
  return 0

/-- What the parsing of an option comes to: a letter, what stands with it, the place of the
next argument, and how far into the argument before that parsing has come. -/
structure ParsedOption where
  letter : Char
  argument : Option Raw := none
  index : Nat
  offset : Nat := 0
  complaint : Option String := none
  isLast : Bool := false

/-- Parse the next option of some arguments. -/
def nextOption (allowed : Raw) (arguments : List Raw) (index offset : Nat) : ParsedOption :=
  let isQuiet := allowed.head? == some ':'
  let current := if 1 < index && 0 < offset then (arguments.getD (index - 2) []).drop offset else []
  let (rest, index, isOver) : Raw × Nat × Bool :=
    if !current.isEmpty then (current, index, false)
    else
      match arguments[index - 1]? with
      | some ['-', '-'] => ([], index + 1, true)
      | some ('-' :: c :: more) => (c :: more, index + 1, false)
      | _ => ([], index, true)
  match isOver, rest with
  | false, c :: more =>
    let whole := (arguments.getD (index - 2) []).length
    let offset := whole - more.length
    let known := allowed.dropWhile (· == ':') |>.dropWhile (· != c)
    if c == ':' || known.isEmpty then
      { letter := '?', index := index, offset := offset
        argument := if isQuiet then some [c] else none
        complaint := if isQuiet then none else some ("Illegal option -" ++ String.ofList [c]) }
    else if known[1]? == some ':' then
      match more, arguments[index - 1]? with
      | [], none =>
        { letter := if isQuiet then ':' else '?', index := index
          argument := if isQuiet then some [c] else none
          complaint :=
            if isQuiet then none
            else some ("No arg for -" ++ String.ofList [c] ++ " option") }
      | [], some a => { letter := c, argument := some a, index := index + 1 }
      | more, _ => { letter := c, argument := some more, index := index }
    else { letter := c, argument := some [], index := index, offset := offset }
  | _, _ => { letter := '?', index := index, isLast := true }

/-- Parse the next option of the parameters, or of arguments. -/
def getopts : Builtin := fun arguments => do
  let (_, arguments) ← letters "" arguments
  match arguments with
  | allowed :: name :: rest =>
    let s ← get
    let words := if rest.isEmpty then s.parameters else rest
    let (index, offset) :=
      if words.length + 1 < s.optionIndex then (1, 0) else (s.optionIndex, s.optionOffset)
    let o := nextOption allowed words index offset
    match o.complaint with
    | some message => Step.tell 2 ((message ++ "\n").toList)
    | none => pure ()
    if !o.isLast then
      match o.argument with
      | some a => Step.assign "OPTARG".toList a
      | none => Step.unset "OPTARG".toList
    Step.assign "OPTIND".toList (Raw.ofNat o.index)
    assignNamed name [o.letter]
    modify fun s => { s with optionIndex := o.index, optionOffset := o.offset }
    return if o.isLast then 1 else 0
  | _ => Step.refuse "Usage: getopts optstring var [arg...]"

/-! ### The directory -/

/-- A path from a directory on, with points and double slashes taken out. -/
def plainPath (directory path : Raw) : Raw :=
  let (root, start) : Raw × List Raw := match path with
    | '/' :: '/' :: c :: _ => if c = '/' then (['/'], []) else (['/', '/'], [])
    | ['/', '/'] => (['/', '/'], [])
    | '/' :: _ => (['/'], [])
    | _ =>
      (if ['/', '/'].isPrefixOf directory && directory[2]? != some '/' then ['/', '/'] else ['/'],
        (directory.splitOn '/').filter (!·.isEmpty))
  let parts := (path.splitOn '/').foldl (fun parts part =>
    if part.isEmpty || part == ['.'] then parts
    else if part == ['.', '.'] then parts.dropLast
    else parts ++ [part]) start
  root ++ Raw.joined ['/'] parts

/-- Export a variable with a value. -/
def assignExported (name : String) (value : Raw) : Step Unit := do
  Step.assign name.toList value
  Step.change name.toList fun b => { b with exported := true }

/-- Go to a directory. The flag of the result tells whether that worked. -/
def enter (physical : Bool) (path : Raw) : Step Bool := do
  let s ← get
  let target := if physical then path else plainPath s.directory path
  match ← Step.request (.enter target) with
  | .error _ => return false
  | .ok _ =>
    let now ← if physical then Step.request .whereabouts else pure target
    assignExported "OLDPWD" s.directory
    modify fun s => { s with directory := now }
    assignExported "PWD" now
    return true

/-- The directories before a path in which it is looked for. -/
def searchDirectories (s : State) (path : Raw) : List Raw :=
  let isFixed := match path with
    | '/' :: _ | ['.'] | '.' :: '/' :: _ | ['.', '.'] | '.' :: '.' :: '/' :: _ => true
    | _ => false
  if isFixed || path.isEmpty then []
  else
    match s.value? "CDPATH".toList with
    | some directories => directories.splitOn ':'
    | none => []

/-- Go to a directory. -/
def cd : Builtin := fun arguments => do
  let (found, rest) ← letters "LP" arguments
  let physical := found.getLast? == some 'P'
  let s ← get
  let (path, shown) := match rest.head? with
    | none => (s.valueOf "HOME", false)
    | some ['-'] => (s.valueOf "OLDPWD", true)
    | some path => (path, false)
  let candidates := (searchDirectories s path).map fun d =>
    (if d.isEmpty then path else d ++ '/' :: path, !d.isEmpty)
  let found ← candidates.findM? fun (p, _) => do
    match ← Step.request (.info p true) with
    | .ok i => return i.kind == .directory
    | .error _ => return false
  let (target, told) := found.getD (if path.isEmpty then ['.'] else path, false)
  if ← enter physical target then
    if shown || told then outputLines [String.ofList (← get).directory] else return 0
  else Step.refuse ("can't cd to " ++ String.ofList path)

/-- Say where the shell is. -/
def pwd : Builtin := fun arguments => do
  let (found, _) ← letters "LP" arguments
  let place ← if found.getLast? == some 'P' then Step.request .whereabouts
    else pure (← get).directory
  outputLines [String.ofList place]

/-- The digits of a mask for new files. -/
def maskDigits (n : Nat) : String :=
  let shown := Nat.toDigits 8 n
  String.ofList (List.replicate (4 - shown.length) '0' ++ shown)

/-- What a mask lets through, in letters. -/
def maskLetters (n : Nat) : String :=
  let part (who : String) (bits : Nat) : String :=
    who ++ "=" ++ (if bits / 4 % 2 = 0 then "r" else "") ++
      (if bits / 2 % 2 = 0 then "w" else "") ++ (if bits % 2 = 0 then "x" else "")
  ",".intercalate [part "u" (n / 64 % 8), part "g" (n / 8 % 8), part "o" (n % 8)]

/-- The permissions of those whom letters name. -/
def whoBits (who : Raw) : Nat :=
  if who.isEmpty || who.contains 'a' then 0o777
  else
    (if who.contains 'u' then 0o700 else 0) + (if who.contains 'g' then 0o070 else 0) +
      if who.contains 'o' then 0o007 else 0

/-- The permissions that letters stand for, for everybody. -/
def permissionBits (mode : Nat) (letters : Raw) : Nat :=
  letters.foldl (fun bits c => bits ||| match c with
    | 'r' => 0o444
    | 'w' => 0o222
    | 'x' => 0o111
    | 'X' => if mode &&& 0o111 = 0 then 0 else 0o111
    | 'u' => mode / 64 % 8 * 0o111
    | 'g' => mode / 8 % 8 * 0o111
    | 'o' => mode % 8 * 0o111
    | _ => 0) 0

/-- A mode after changes of the permissions of some. -/
def changeMode (who : Nat) : Nat → Nat → Raw → Option Nat
  | 0, mode, _ => some mode
  | _ + 1, mode, [] => some mode
  | fuel + 1, mode, sign :: rest =>
    let letters := rest.takeWhile "rwxXstugo".toList.contains
    let bits := permissionBits mode letters &&& who
    let rest := rest.drop letters.length
    match sign with
    | '+' => changeMode who fuel (mode ||| bits) rest
    | '-' => changeMode who fuel (mode &&& (0o777 - bits)) rest
    | '=' => changeMode who fuel ((mode &&& (0o777 - who)) ||| bits) rest
    | _ => none

/-- A mode after changes that letters describe. -/
def symbolicMode (mode : Nat) (changes : Raw) : Option Nat :=
  (changes.splitOn ',').foldlM (fun mode clause =>
    let who := clause.takeWhile "ugoa".toList.contains
    let change := clause.drop who.length
    if clause.isEmpty then none else changeMode (whoBits who) change.length mode change) mode

/-- Show or set the mask for new files. -/
def umask : Builtin := fun arguments => do
  let (found, rest) ← letters "S" arguments
  let n := (← get).mask
  match rest.head? with
  | none => outputLines [if found.isEmpty then maskDigits n else maskLetters n]
  | some a =>
    if a.head?.any Char.isDigit then
      if a.all isOctal then
        modify fun s => { s with mask := (Numeral.digits 8 a).1 % 512 }
        return 0
      else Step.refuse ("Illegal number: " ++ String.ofList a)
    else
      match symbolicMode (0o777 - n % 512) a with
      | some mode =>
        modify fun s => { s with mask := 0o777 - mode }
        return 0
      | none => Step.refuse ("Illegal mode: " ++ String.ofList a)

/-! ### Jobs and signals -/

/-- Wait for jobs, or for all of them. -/
def wait : Builtin := fun arguments => do
  let (_, names) ← letters "" arguments
  let hear (chosen : Nat → Bool) : Step Unit :=
    modify fun s => { s with jobs := s.jobs.map fun (n, j) =>
      (n, if chosen n && j.isDone then { j with heard := true } else j) }
  if names.isEmpty then
    let interruption ← Step.awaitJobs (fun s => s.jobs.all (·.2.isDone)) []
    hear fun _ => true
    return (interruption.map (128 + ·)).getD 0
  else
    Step.loop (fun (names, status) => do
      match names with
      | [] => return .inr status
      | name :: rest =>
        let found ← match name with
          | '%' :: _ => do pure (some (← Step.job name))
          | _ => do
            let n ← number name
            pure ((← get).jobs.find? (·.2.last == n))
        match found with
        | none => return .inl (rest, 127)
        | some (place, j) =>
          let now (s : State) : Job := (s.jobs.lookup place).getD j
          let interruption ← Step.awaitJobs (fun s => (now s).isDone) (j.processes.map (·.1))
          match interruption with
          | some signal => return .inr (128 + signal)
          | none =>
            hear (· == place)
            return .inl (rest, (now (← get)).status)) (names, 127)

/-- List jobs. Those that have ended are forgotten after that. -/
def jobs : Builtin := fun arguments => do
  let (found, _) ← letters "lp" arguments
  Step.noteEnds
  let s ← get
  let _ ← outputLines <| s.jobs.zipIdx.map fun ((place, j), rank) =>
    let rank := ((s.jobs.take rank).filter fun (_, j) => !j.isDone).length
    if found.contains 'p' then toString ((j.processes.head?.map (·.1)).getD 0)
    else (Step.jobLine rank place j).dropEnd 1 |>.toString
  modify fun s => { s with jobs := s.jobs.filter fun (_, j) => !j.isDone }
  return 0

/-- How `kill` is used. -/
def killUsage : String :=
  "Usage: kill [-s sigspec | -signum | -sigspec] [pid | job]... or\nkill -l [exitstatus]"

/-- The signal that an option of `kill` names. -/
def optionSignal? (s : Raw) : Option Nat := (signal? s).filter fun n => n != 0 || s == ['0']

/-- List signals, or name the one that a status tells of. -/
def killList : List Raw → Step Nat
  | [] => outputLines ("0" :: signalNames)
  | a :: _ => do
    let n ← number a
    let n := if 128 < n then n - 128 else n
    if 0 < n && n ≤ 64 then outputLines [signalName n]
    else Step.refuse ("invalid signal number or exit status: " ++ String.ofList a)

/-- Send a signal to processes. -/
def sendAll (signal : Nat) : List Raw → Nat → Step Nat
  | [], status => return status
  | name :: rest, status => do
    let targets ← match name with
      | '%' :: _ => do
        let _ ← Step.job name
        pure none
      | '-' :: digits => do
        let _ ← number digits
        pure none
      | _ => do pure (some (← number name))
    let sent ← match targets with
      | some n => Step.request (.send n signal)
      | none => pure false
    if sent then sendAll signal rest status
    else
      Step.warn "No such process\n"
      sendAll signal rest 1

/-- Send a signal to processes, or list signals. -/
def kill : Builtin := fun arguments => do
  let (signal, isList, rest) ← match arguments with
    | ('-' :: name) :: rest =>
      match optionSignal? name with
      | some n => pure (some n, false, rest)
      | none => do
        let size := (arguments.map List.length).foldl (· + ·) arguments.length
        let (found, rest) ← options ['l'] ['s'] (size + 1) arguments
        let signal ← match found.find? (·.1 == 's') with
          | none => pure none
          | some (_, name) =>
            match optionSignal? name with
            | some n => pure (some n)
            | none =>
              Step.refuse ("invalid signal number or name: " ++ String.ofList name)
        pure (signal, found.any (·.1 == 'l'), rest)
    | arguments => pure (none, false, arguments)
  if isList then killList rest
  else if rest.isEmpty then Step.refuse killUsage
  else sendAll (signal.getD 15) rest 0

/-- Let signals be treated in some way. -/
def trapAll (action : Option Raw) : List Raw → Step Nat
  | [] => return 0
  | name :: rest => do
    match signal? name with
    | none =>
      Step.tell 2 ("trap: ".toList ++ name ++ ": bad trap\n".toList)
      return 1
    | some n =>
      let others := (← get).traps.filter (·.1 != n)
      let action := action.filter (· != ['-'])
      modify fun s => { s with traps := others ++ (action.map fun a => (n, a)).toList }
      if n != 0 then
        Step.request (.dispose n (match action with
          | none => .usual
          | some [] => .ignored
          | some _ => .caught))
      trapAll action rest

/-- Say what is to be done at signals and at the end, or list that. -/
def trap : Builtin := fun arguments => do
  let (_, arguments) ← letters "" arguments
  match arguments with
  | [] =>
    let traps := (← get).traps.mergeSort fun a b => a.1 ≤ b.1
    output <| traps.flatMap fun (n, a) =>
      "trap -- ".toList ++ quoted a ++ (" " ++ signalName n ++ "\n").toList
  | [name] => trapAll none [name]
  | first :: rest =>
    if !first.isEmpty && first.all Char.isDigit then trapAll none (first :: rest)
    else trapAll (some first) rest

/-! ### Aliases and others -/

/-- The listing of an alias. -/
def aliasLine (name value : Raw) : Raw := name ++ '=' :: quoted value ++ ['\n']

/-- Define aliases, or list them. -/
def defineAliases : Builtin := fun arguments => do
  if arguments.isEmpty then output ((← get).aliases.flatMap fun (n, v) => aliasLine n v)
  else
    arguments.foldlM (fun status a => do
      match Raw.cut? '=' a.tail with
      | some (name, value) =>
        modify fun s => { s with aliases := putNamed (a.take 1 ++ name) value s.aliases }
        return status
      | none =>
        match (← get).aliases.lookup a with
        | some v =>
          let _ ← output (aliasLine a v)
          return status
        | none =>
          Step.tell 2 ("alias: ".toList ++ a ++ " not found\n".toList)
          return 1) 0

/-- Take aliases away. -/
def unalias : Builtin := fun arguments => do
  let (found, names) ← letters "a" arguments
  if !found.isEmpty then
    modify fun s => { s with aliases := [] }
    return 0
  else
    names.foldlM (fun status name => do
      if ((← get).aliases.lookup name).isSome then
        modify fun s => { s with aliases := s.aliases.filter (·.1 != name) }
        return status
      else
        Step.tell 2 ("unalias: ".toList ++ name ++ " not found\n".toList)
        return 1) 0

/-- Say how much time was used. -/
def times : Builtin := fun _ =>
  outputLines ["0m0.000000s 0m0.000000s", "0m0.000000s 0m0.000000s"]

/-- Say that nothing is limited. -/
def ulimit : Builtin := fun _ => outputLines ["unlimited"]

/-- Refuse to continue a job, for there is no control over jobs. -/
def resume : Builtin := fun arguments => do
  let _ ← Step.job (arguments.headD ['%'])
  Step.refuse "job not created under job control"

/-! ### Control -/

/-- Leave loops, or go on with their next rounds. -/
def leaveLoops (skip : Nat → Skip) : Builtin := fun arguments => do
  let n ← match arguments with
    | [] => pure 1
    | a :: _ =>
      let n ← number a
      if n = 0 then Step.refuse ("Illegal number: " ++ String.ofList a) else pure n
  let depth := min n (← get).loops
  if 0 < depth then modify fun s => { s with skip := skip depth }
  return 0

/-- Leave a function or a script. -/
def leaveBody : Builtin := fun arguments => do
  match arguments with
  | [] =>
    modify fun s => { s with skip := .body false }
    return (← get).status
  | a :: _ =>
    let n ← number a
    modify fun s => { s with skip := .body true }
    return n

/-- End the shell. -/
def exit : Builtin := fun arguments => do
  match arguments with
  | [] => Step.jump .exited
  | a :: _ =>
    let n ← number a
    modify fun s => { s with heldStatus := some n }
    Step.jump .exited

end Builtin
end LabLifecycle.Shell

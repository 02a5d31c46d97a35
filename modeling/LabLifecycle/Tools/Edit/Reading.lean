import LabLifecycle.Tools.Edit.Script

/-!
# Reading editing scripts

Scripts come in parts, from arguments and from files. A text or a block can be begun in one
part and go on in the next one. What is wrong with a script is reported with the number of
characters read so far of an argument, or with the line of a file.
-/
namespace LabLifecycle.Edit

/-- Where a part of a script comes from: an argument of a number, or a file. -/
inductive Origin where
  | argument (number : Nat)
  | file (path : Raw)
  deriving DecidableEq, Repr

/-- What is wrong with a script: at some place, or with all of it. -/
inductive Fault where
  | placed (origin : Origin) (place : Nat) (message : String)
  | general (message : String)
  deriving DecidableEq, Repr

namespace Fault

/-- The wording of a fault. -/
def message : Fault → String
  | placed (.argument n) place message =>
    "-e expression #" ++ toString n ++ ", char " ++ toString place ++ ": " ++ message
  | placed (.file path) place message =>
    "file " ++ String.ofList path ++ " line " ++ toString place ++ ": " ++ message
  | general message => message

/-- The exit code for a fault. -/
def code : Fault → Nat
  | placed .. => 1
  | general _ => 4

end Fault

/-- A block that is still open: the place of its brace, and where that was read. -/
structure OpenBlock where
  command : Nat
  origin : Origin
  line : Nat

/-- How far the reading of a script has come. -/
structure Draft where
  origin : Origin := .argument 1
  rest : Raw := []
  taken : Nat := 0
  line : Nat := 1
  isFirst : Bool := true
  extended : Bool := false
  script : Script := {}
  blocks : List OpenBlock := []
  unfinished : Option Raw := none

/-- A step of reading. What was read before a fault is kept. -/
abbrev Reading := ExceptT Fault (StateM Draft)

namespace Reading

/-- Take a character. -/
def take : Reading (Option Char) := do
  let d ← get
  match d.rest with
  | [] => return none
  | c :: rest =>
    set { d with
      rest := rest, taken := d.taken + 1, line := if c = '\n' then d.line + 1 else d.line }
    return some c

/-- Put a character back. -/
def putBack : Option Char → Reading Unit
  | none => return ()
  | some c => modify fun d =>
    { d with
      rest := c :: d.rest, taken := d.taken - 1, line := if c = '\n' then d.line - 1 else d.line }

/-- Take the first characters of a kind. -/
def takeWhile (p : Char → Bool) : Reading Raw := do
  let d ← get
  let run := d.rest.takeWhile p
  set { d with
    rest := d.rest.drop run.length
    taken := d.taken + run.length
    line := d.line + run.count '\n' }
  return run

/-- A blank or a tab. -/
def isGap (c : Char) : Bool := c == ' ' || c == '\t'

/-- Take the first character that is no blank. -/
def takeFilled : Reading (Option Char) := do
  let _ ← takeWhile isGap
  take

/-- There is something wrong here. -/
def wrong {α : Type} (message : String) : Reading α := do
  let d ← get
  throw (.placed d.origin (match d.origin with
    | .argument _ => d.taken
    | .file _ => d.line) message)

/-- Take a number whose first digit has been taken. -/
def number (first : Option Char) : Reading Nat := do
  match first with
  | some c =>
    if c.isDigit then return Raw.digitsValue (c :: (← takeWhile Char.isDigit))
    else
      putBack first
      return 0
  | none => return 0

/-- Take the end of a command. -/
def commandEnd : Reading Unit := do
  match ← takeFilled with
  | none | some '\n' | some ';' => return ()
  | some '}' => putBack (some '}')
  | some '#' => putBack (some '#')
  | some _ => wrong "extra characters after command"

/-! ### Expressions -/

/-- The part of a bracket expression up to its closing bracket, after the opening one, if it
is complete. -/
def bracketLength (s : Raw) : Option Nat :=
  let head := match s with
    | '^' :: ']' :: _ => 2
    | '^' :: _ | ']' :: _ => 1
    | _ => 0
  inside (s.length + 1) head (s.drop head)
where
  /-- Look for the closing bracket. -/
  inside : Nat → Nat → Raw → Option Nat
    | 0, _, _ => none
    | fuel + 1, n, s =>
      match s with
      | [] | '\n' :: _ => none
      | ']' :: _ => some (n + 1)
      | '[' :: mark :: rest =>
        if mark = ':' || mark = '.' || mark = '=' then
          let body := named mark 0 rest
          match body with
          | some k => inside fuel (n + 2 + k) (rest.drop k)
          | none => none
        else inside fuel (n + 1) (mark :: rest)
      | _ :: rest => inside fuel (n + 1) rest
  /-- The number of characters up to a mark and a bracket, both included. -/
  named (mark : Char) (n : Nat) : Raw → Option Nat
    | [] => none
    | c :: rest =>
      if c = mark && rest.head? = some ']' then some (n + 2) else named mark (n + 1) rest

/-- Take an expression or a replacement up to a delimiter. A backslash takes the meaning of
the delimiter away and is left out before it. In an expression the delimiter can stand
between brackets. -/
def delimited (delimiter : Char) (isExpression : Bool) : Nat → Raw → Reading (Option Raw)
  | 0, _ => return none
  | fuel + 1, out => do
    match ← take with
    | none => return none
    | some c =>
      if c = delimiter then return some out.reverse
      else if c = '\n' then
        putBack (some c)
        return none
      else if c = '\\' then
        match ← take with
        | none => return none
        | some d =>
          if isExpression && (d = 'n' || d = '\n') then
            delimited delimiter isExpression fuel ('\n' :: out)
          else if d = delimiter && (isExpression || d != '&') then
            delimited delimiter isExpression fuel (d :: out)
          else delimited delimiter isExpression fuel (d :: '\\' :: out)
      else if c = '[' && isExpression then
        match bracketLength (← get).rest with
        | some n =>
          let d ← get
          let body := d.rest.take n
          set { d with rest := d.rest.drop n, taken := d.taken + n }
          delimited delimiter isExpression fuel (body.reverseAux (c :: out))
        | none =>
          let _ ← takeWhile (· != '\n')
          return none
      else delimited delimiter isExpression fuel (c :: out)

/-- Take an expression up to a delimiter. -/
def expression (delimiter : Char) : Reading (Option Raw) := do
  delimited delimiter true ((← get).rest.length + 1) []

/-- Take a replacement up to a delimiter. -/
def replacement (delimiter : Char) : Reading (Option Raw) := do
  delimited delimiter false ((← get).rest.length + 1) []

/-- The pattern of an expression; none for an empty one. -/
def pattern (source : Raw) (anyCase byLine : Bool) : Reading (Option Pattern) := do
  if source.isEmpty then
    if anyCase || byLine then wrong "cannot specify modifiers on empty regexp"
    else return none
  else
    let x : Regex.Notation := { extended := (← get).extended, anyCase := anyCase }
    match Regex.read x (plainExpression (source.length + 1) source) with
    | .ok (regex, groups) => return some ⟨regex, groups, byLine⟩
    | .error message => wrong message

/-! ### Addresses -/

/-- Take the letters after an expression in an address. -/
def addressFlags : Nat → Bool → Bool → Reading (Bool × Bool)
  | 0, anyCase, byLine => return (anyCase, byLine)
  | fuel + 1, anyCase, byLine => do
    match ← takeFilled with
    | some 'I' => addressFlags fuel true byLine
    | some 'M' => addressFlags fuel anyCase true
    | c =>
      putBack c
      return (anyCase, byLine)

/-- Take an address whose first character has been taken, if it is one. -/
def address? (first : Option Char) : Reading (Option Address) := do
  let search (delimiter : Option Char) : Reading (Option Address) := do
    match delimiter with
    | none => wrong "unterminated address regex"
    | some delimiter =>
      if delimiter = '\n' then wrong "unterminated address regex"
      else match ← expression delimiter with
      | none => wrong "unterminated address regex"
      | some source =>
        let (anyCase, byLine) ← addressFlags ((← get).rest.length + 1) false false
        return some (.search (← pattern source anyCase byLine))
  match first with
  | none => return none
  | some '/' => search first
  | some '\\' => search (← take)
  | some '$' => return some .last
  | some '+' => return some (.further (← number (← takeFilled)))
  | some '~' => return some (.multiple (← number (← takeFilled)))
  | some c =>
    if c.isDigit then
      let n ← number first
      match ← takeFilled with
      | some '~' =>
        let step ← number (← takeFilled)
        return some (if step = 0 then .line n else .every n step)
      | c =>
        putBack c
        return some (.line n)
    else return none

/-- Take the addresses of a command whose first character has been taken. Yields the next
character as well. -/
def selector (first : Option Char) : Reading (Selector × Option Char) := do
  let (s, c) ← do
    match ← address? first with
    | none => pure (({} : Selector), first)
    | some (.further _) | some (.multiple _) =>
      wrong "invalid usage of +N or ~N as first address"
    | some a =>
      let c ← takeFilled
      let (s, c) ← do
        if c = some ',' then
          match ← address? (← takeFilled) with
          | none => wrong "unexpected \x60,'"
          | some b => pure (({ first := some a, second := some b } : Selector), ← takeFilled)
        else pure (({ first := some a } : Selector), c)
      let endsBySearch := match s.second with
        | some (.search _) => true
        | _ => false
      if a = .line 0 && !endsBySearch then wrong "invalid usage of line address 0"
      pure (s, c)
  if c = some '!' then
    match ← takeFilled with
    | some '!' => wrong "multiple \x60!'s"
    | c => return ({ s with negated := true }, c)
  else return (s, c)

/-! ### Commands -/

/-- Take a label. -/
def label : Reading Raw := do
  let _ ← takeWhile isGap
  takeWhile fun c => !Raw.isSpace c && c != ';' && c != '}'

/-- Take the name of a file, up to the end of the line. -/
def fileName : Reading Raw := do
  let _ ← takeWhile isGap
  let name ← takeWhile (· != '\n')
  if name.isEmpty then wrong "missing filename in r/R/w/W commands"
  let _ ← take
  return name

/-- Take the name of a file that is written to. -/
def outputName : Reading Raw := do
  let name ← fileName
  modify fun d =>
    if d.script.outputs.contains name then d
    else { d with script := { d.script with outputs := d.script.outputs ++ [name] } }
  return name

/-- Take a text up to a line end without a backslash before it. The flag tells whether it
ended in a backslash at the end of the part. -/
def textBody : Nat → Raw → Reading (Raw × Bool)
  | 0, out => return (out.reverse, false)
  | fuel + 1, out => do
    match ← take with
    | none | some '\n' => return (('\n' :: out).reverse, false)
    | some '\\' =>
      match ← take with
      | none => return (('\n' :: out).reverse, true)
      | some c => textBody fuel (c :: '\\' :: out)
    | some c => textBody fuel (c :: out)

/-- Take the text of a command. If the part ends before it does, it goes on in the next
part. -/
def text : Reading Raw := do
  let body : Reading Raw := do
    let (body, isOpen) ← textBody ((← get).rest.length + 1) []
    let text := plainText (body.length + 1) body
    if isOpen then modify fun d => { d with unfinished := some text }
    return text
  match ← takeFilled with
  | none => wrong "expected \\ after \x60a', \x60c' or \x60i'"
  | some '\\' =>
    match ← take with
    | none =>
      modify fun d => { d with unfinished := some [] }
      return []
    | some '\n' => body
    | c =>
      putBack c
      body
  | c =>
    putBack c
    body

/-- The flags of a substitution. -/
structure Flags where
  number : Option Nat := none
  general : Bool := false
  prints : Bool := false
  evaluates : Bool := false
  anyCase : Bool := false
  byLine : Bool := false
  output : Option Raw := none

/-- Take the flags of a substitution and the end of the command. -/
def flags : Nat → Flags → Reading Flags
  | 0, f => return f
  | fuel + 1, f => do
    match ← take with
    | none | some '\n' | some ';' => return f
    | some '}' =>
      putBack (some '}')
      return f
    | some '#' =>
      putBack (some '#')
      return f
    | some 'g' =>
      if f.general then wrong "multiple \x60g' options to \x60s' command"
      flags fuel { f with general := true }
    | some 'p' =>
      if f.prints then wrong "multiple \x60p' options to \x60s' command"
      flags fuel { f with prints := true }
    | some 'e' => flags fuel { f with evaluates := true }
    | some 'i' | some 'I' => flags fuel { f with anyCase := true }
    | some 'm' | some 'M' => flags fuel { f with byLine := true }
    | some 'w' => return { f with output := some (← outputName) }
    | some c =>
      if isGap c then flags fuel f
      else if c.isDigit then
        if f.number.isSome then wrong "multiple number options to \x60s' command"
        let n ← number (some c)
        if n = 0 then wrong "number option to \x60s' command may not be zero"
        flags fuel { f with number := some n }
      else wrong "unknown option to \x60s'"

/-- Take a substitution. -/
def substitution : Reading Substitution := do
  let unended {α : Type} : Reading α := wrong "unterminated \x60s' command"
  match ← take with
  | none | some '\n' => unended
  | some delimiter =>
    match ← expression delimiter with
    | none => unended
    | some source =>
      match ← replacement delimiter with
      | none => unended
      | some target =>
        let f ← flags ((← get).rest.length + 1) {}
        let pieces := pieces (target.length + 1) target
        let p ← pattern source f.anyCase f.byLine
        let greatest := greatestGroup pieces
        if p.any (·.groups < greatest) then
          wrong ("invalid reference \\" ++ toString greatest ++ " on \x60s' command's RHS")
        return {
          pattern := p
          pieces := pieces
          number := f.number.getD 1
          general := f.general
          prints := f.prints
          evaluates := f.evaluates
          output := f.output }

/-- The characters of a list for a translation. -/
def translated : Nat → Raw → Raw
  | 0, s => s
  | _ + 1, [] => []
  | fuel + 1, '\\' :: '\\' :: rest => '\\' :: translated fuel rest
  | fuel + 1, '\\' :: rest =>
    match escape? rest with
    | some (c, rest) => c :: translated fuel rest
    | none =>
      match rest with
      | 'n' :: rest => '\n' :: translated fuel rest
      | c :: rest => c :: translated fuel rest
      | [] => ['\\']
  | fuel + 1, c :: rest => c :: translated fuel rest

/-- Take a translation. -/
def translation : Reading (List (Char × Char)) := do
  let unended {α : Type} : Reading α := wrong "unterminated \x60y' command"
  match ← take with
  | none | some '\n' => unended
  | some delimiter =>
    match ← replacement delimiter with
    | none => unended
    | some source =>
      match ← replacement delimiter with
      | none => unended
      | some target =>
        let source := translated (source.length + 1) source
        let target := translated (target.length + 1) target
        if source.length != target.length then
          wrong "strings for \x60y' command are different lengths"
        commandEnd
        return source.zip target

/-- The commands that are a letter and no more. -/
def plainCommands : List (Char × Command) := [
  ('=', .number), ('d', .delete), ('D', .deleteLine), ('F', .fileName), ('g', .get),
  ('G', .getMore), ('h', .hold), ('H', .holdMore), ('n', .next), ('N', .nextMore), ('p', .print),
  ('P', .printLine), ('x', .exchange), ('z', .clear)]

/-- Take the number that may follow a command, and the command's end. -/
def optionalNumber : Reading (Option Nat) := do
  let c ← takeFilled
  let n ← do
    if c.any Char.isDigit then pure (some (← number c))
    else
      putBack c
      pure none
  commandEnd
  return n

/-- Add a command to the script. -/
def add (s : Selector) (c : Command) : Reading Unit :=
  modify fun d => { d with
    script := { d.script with commands := d.script.commands.push (s, c) } }

/-- Close the innermost block. -/
def closeBlock (s : Selector) : Reading Unit := do
  match (← get).blocks with
  | [] => wrong "unexpected \x60\x7d'"
  | block :: rest =>
    if s.first.isSome then wrong "\x7d doesn't want any addresses"
    commandEnd
    add s .closing
    modify fun d =>
      let commands := d.script.commands
      let commands := match commands[block.command]? with
        | some (selector, _) =>
          commands.set! block.command (selector, .block commands.size)
        | none => commands
      { d with blocks := rest, script := { d.script with commands := commands } }

/-- Take a comment. The first line of a script can ask for silence. -/
def comment (s : Selector) : Reading Unit := do
  if s.first.isSome then wrong "comments don't accept any addresses"
  let d ← get
  let body ← takeWhile (· != '\n')
  let _ ← take
  if d.isFirst && d.taken = 1 && body = ['n'] then
    modify fun d => { d with script := { d.script with quiet := true } }

/-- Take a command whose first character has been taken. -/
def command (s : Selector) : Option Char → Reading Unit
  | none => wrong "missing command"
  | some '\n' => wrong "missing command"
  | some ';' => wrong "missing command"
  | some '#' => comment s
  | some '{' => do
    modify fun d => { d with blocks := ⟨d.script.commands.size, d.origin, d.line⟩ :: d.blocks }
    add s (.block 0)
  | some '}' => closeBlock s
  | some ':' => do
    if s.first.isSome then wrong ": doesn't want any addresses"
    let name ← label
    if name.isEmpty then wrong "\":\" lacks a label"
    modify fun d =>
      { d with script := { d.script with
        labels := (name, d.script.commands.size) :: d.script.labels } }
  | some 'a' => do add s (.append (← text))
  | some 'i' => do add s (.insert (← text))
  | some 'c' => do add s (.change (← text))
  | some 'b' => do add s (.branch .always (← label))
  | some 't' => do add s (.branch .replaced (← label))
  | some 'T' => do add s (.branch .unreplaced (← label))
  | some 'e' => do
    let _ ← takeWhile isGap
    let body ← takeWhile (· != '\n')
    let _ ← take
    add s (.evaluate body)
  | some 'l' => do add s (.listing (← optionalNumber))
  | some 'q' => do
    if s.second.isSome then wrong "command only uses one address"
    add s (.quit false ((← optionalNumber).getD 0))
  | some 'Q' => do
    if s.second.isSome then wrong "command only uses one address"
    add s (.quit true ((← optionalNumber).getD 0))
  | some 'r' => do add s (.readFile (← fileName))
  | some 'R' => do add s (.readLine (← fileName))
  | some 's' => do add s (.substitute (← substitution))
  | some 'v' => do let _ ← label
  | some 'w' => do add s (.writeFile (← outputName))
  | some 'W' => do add s (.writeLine (← outputName))
  | some 'y' => do add s (.translate (← translation))
  | some c =>
    match plainCommands.lookup c with
    | some command => do
      commandEnd
      add s command
    | none => wrong ("unknown command: \x60" ++ c.toString ++ "'")

/-- Take commands up to the end of the part. -/
def commands : Nat → Reading Unit
  | 0 => return ()
  | fuel + 1 => do
    let _ ← takeWhile fun c => Raw.isSpace c || c == ';'
    match ← take with
    | none => return ()
    | first =>
      let (s, c) ← selector first
      command s c
      commands fuel

/-- The command with more text at its end. -/
def extendText (more : Raw) : Command → Command
  | .append t => .append (t ++ more)
  | .insert t => .insert (t ++ more)
  | .change t => .change (t ++ more)
  | c => c

/-- Finish the text that was begun in an earlier part. -/
def finishText : Reading Unit := do
  match (← get).unfinished with
  | none => return ()
  | some _ =>
    modify fun d => { d with unfinished := none }
    let (body, isOpen) ← textBody ((← get).rest.length + 1) []
    let more := plainText (body.length + 1) body
    modify fun d =>
      let commands := d.script.commands
      let last := commands.size - 1
      { d with
        unfinished := if isOpen then some [] else none
        script := { d.script with commands := match commands[last]? with
          | some (s, c) => commands.set! last (s, extendText more c)
          | none => commands } }

/-- Take a part of a script. -/
def part (origin : Origin) (source : Raw) : Reading Unit := do
  modify fun d => { d with origin := origin, rest := source, taken := 0, line := 1 }
  finishText
  commands (source.length + 1)
  modify fun d => { d with isFirst := false }

/-- The labels that commands branch to and that do not occur. -/
def missingLabel? (s : Script) : Option Raw :=
  (s.commands.toList.filterMap fun c => match c.2 with
    | .branch _ l => if l.isEmpty || (s.labels.lookup l).isSome then none else some l
    | _ => none).head?

/-- See that the script is complete. -/
def finish : Reading Unit := do
  let d ← get
  match d.blocks with
  | block :: _ =>
    throw (.placed block.origin (match block.origin with
      | .argument _ => 0
      | .file _ => block.line) "unmatched \x60\x7b'")
  | [] =>
    match missingLabel? d.script with
    | some l => throw (.general ("can't find label for jump to \x60" ++ String.ofList l ++ "'"))
    | none => return ()

end Reading

/-- Read a script in parts. Yields what was read up to a fault, and the fault. -/
def Script.read (extended : Bool) (parts : List (Origin × Raw)) : Except Fault Unit × Script :=
  let reading : Reading Unit := do
    parts.forM fun (origin, source) => Reading.part origin source
    Reading.finish
  let (result, d) := reading.run.run { extended := extended }
  (result, d.script)

end LabLifecycle.Edit

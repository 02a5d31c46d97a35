import LabLifecycle.Shell.Lexer

/-!
# Reading shell commands

The grammar of the shell, read with one token of foresight. A script is read one complete
command at a time, so that what comes before a mistake is carried out. Words that structure
commands count as such only where a command can start or go on.
-/
namespace LabLifecycle.Shell

/-- How a list of commands ends: with the line, or before a word or mark that closes something
around it. In the second case it may have to hold a command. -/
inductive ListEnd where
  | line
  | closing (mayBeEmpty : Bool)
  deriving DecidableEq, Repr

/-- What reads lists of commands inside other commands. -/
abbrev ListReader := ListEnd → Reader Command

namespace Reader

/-- What reads the commands of a substitution. -/
def inner (lists : ListReader) : CommandReader := lists (.closing true)

/-- The next token. -/
def peek (lists : ListReader) : Reader Token := peekToken (inner lists)

/-- The next token after any line ends. -/
def peekPastLines (lists : ListReader) : Nat → Reader Token
  | 0 => peek lists
  | fuel + 1 => do
    match ← peek lists with
    | .newline =>
      dropToken
      peekPastLines lists fuel
    | t => return t

/-- Put the text of an alias in the place of a word that has one. -/
def expandAlias (lists : ListReader) : Nat → Reader Token
  | 0 => peek lists
  | fuel + 1 => do
    let t ← peek lists
    let s ← get
    match s.aliases.isEmpty, t with
    | false, .word w =>
      match plain? w with
      | none => return t
      | some name =>
        let length := s.rest.length
        let expanding := s.expanding.filter (·.2 < length)
        match s.aliases.lookup name with
        | some text =>
          if expanding.any (·.1 == name) then return t
          else
            set { s with
              rest := text ++ s.rest, peeked := none, expanding := (name, length) :: expanding }
            expandAlias lists fuel
        | none => return t
    | _, _ => return t

end Reader

/-- Whether a token closes a list of commands. -/
def Token.closes (t : Token) : Bool :=
  match t with
  | .mark s => s == ")" || s == ";;"
  | .ending => true
  | _ => t.keyword?.any fun k =>
    ["\x7d", "do", "done", "elif", "else", "esac", "fi", "then"].contains k

/-- Take a keyword that has to come. -/
def expectKeyword (lists : ListReader) (k : String) : Reader Unit := do
  let t ← Reader.peek lists
  dropToken
  if t.keyword? == some k then return () else Reader.unexpected t (some (inQuotes k))

/-- Take a mark that has to come. -/
def expectMark (lists : ListReader) (m : String) : Reader Unit := do
  let t ← Reader.peek lists
  dropToken
  match t with
  | .mark s => if s == m then return () else Reader.unexpected t (some (inQuotes m))
  | t => Reader.unexpected t (some (inQuotes m))

/-! ### Redirections -/

/-- The descriptor that a redirection changes if none is named. -/
def usualDescriptor (mark : String) : Nat := if mark.startsWith "<" then 0 else 1

/-- What a mark does with its descriptor. -/
def redirectKind (mark : String) : RedirectKind :=
  match mark with
  | ">" => .write
  | ">|" => .clobber
  | ">>" => .append
  | "<>" => .update
  | "<&" | ">&" => .copy
  | _ => .read

/-- The text of a word as it was written, without its quotes. -/
def literalText : Word → Raw
  | [] => []
  | .text s _ :: rest => s ++ literalText rest
  | .parameter name _ _ :: rest => '$' :: name ++ literalText rest
  | _ :: rest => literalText rest

/-- Read a redirection after its mark. -/
def redirection (lists : ListReader) (descriptor : Option Nat) (mark : String) :
    Reader Redirect := do
  let d := descriptor.getD (usualDescriptor mark)
  let t ← Reader.peek lists
  match t with
  | .word w =>
    dropToken
    if mark == "<<" || mark == "<<-" then
      let number := (← get).next
      let o : Owed := {
        number := number, delimiter := literalText w, dropsTabs := mark == "<<-",
        isVerbatim := hasQuotes w }
      modify fun s => { s with next := number + 1, owed := s.owed ++ [o] }
      return .document d number
    else return .file d (redirectKind mark) w
  | t => Reader.unexpected t none

/-- Read redirections as long as there are any. -/
def redirections (lists : ListReader) : Nat → List Redirect → Reader (List Redirect)
  | 0, taken => return taken.reverse
  | fuel + 1, taken => do
    match ← Reader.peek lists with
    | .redirect descriptor mark =>
      dropToken
      let r ← redirection lists descriptor mark
      redirections lists fuel (r :: taken)
    | _ => return taken.reverse

/-! ### Simple commands -/

/-- The name and the value of an assignment that a word is. -/
def assignment? : Word → Option (Raw × Word)
  | .text s false :: rest =>
    match s.cut? '=' with
    | some (name, value) =>
      if isName name then some (name, if value.isEmpty then rest else .text value false :: rest)
      else none
    | none => none
  | _ => none

/-- The parts of a simple command, each in reverse order. -/
structure SimpleDraft where
  assignments : List (Raw × Word) := []
  words : List Word := []
  redirects : List Redirect := []

/-- The names of the commands of the shell that no function can have. -/
def reservedNames : List String :=
  [".", ":", "break", "continue", "eval", "exec", "exit", "export", "readonly", "return", "set",
    "shift", "times", "trap", "unset"]

/-- Read a simple command, or the definition of a function. -/
def simpleCommand (lists : ListReader) (body : Reader Command) (line : Nat) :
    Nat → SimpleDraft → Reader Command
  | 0, _ => return .nothing
  | fuel + 1, d => do
    let finished : Reader Command :=
      return .simple line d.assignments.reverse d.words.reverse d.redirects.reverse
    let t ← if d.words.isEmpty then Reader.expandAlias lists Reader.patience else Reader.peek lists
    match t with
    | .word w =>
      dropToken
      match d.words.isEmpty, assignment? w with
      | true, some a =>
        simpleCommand lists body line fuel { d with assignments := a :: d.assignments }
      | _, _ => simpleCommand lists body line fuel { d with words := w :: d.words }
    | .redirect descriptor mark =>
      dropToken
      let r ← redirection lists descriptor mark
      simpleCommand lists body line fuel { d with redirects := r :: d.redirects }
    | .mark "(" =>
      match d.assignments.isEmpty && d.redirects.isEmpty, d.words with
      | true, [w] =>
        dropToken
        expectMark lists ")"
        match plain? w with
        | some name =>
          if isName name && !(reservedNames.map String.toList).contains name then
            let _ ← Reader.peekPastLines lists Reader.patience
            return .define (← get).line name (← body)
          else Reader.refuse "Bad function name"
        | none => Reader.refuse "Bad function name"
      | _, _ => finished
    | _ => finished

/-! ### Compound commands -/

/-- The words up to something else. -/
def wordList (lists : ListReader) : Nat → List Word → Reader (List Word)
  | 0, taken => return taken.reverse
  | fuel + 1, taken => do
    match ← Reader.peek lists with
    | .word w =>
      dropToken
      wordList lists fuel (w :: taken)
    | _ => return taken.reverse

/-- The branches of a condition, after its `if` or an `elif`. -/
def branches (lists : ListReader) : Nat → Reader Command
  | 0 => return .nothing
  | fuel + 1 => do
    let condition ← lists (.closing false)
    expectKeyword lists "then"
    let yes ← lists (.closing false)
    let t ← Reader.peek lists
    match t.keyword? with
    | some "elif" =>
      dropToken
      return .branch condition yes (← branches lists fuel)
    | some "else" =>
      dropToken
      let no ← lists (.closing false)
      expectKeyword lists "fi"
      return .branch condition yes no
    | _ =>
      expectKeyword lists "fi"
      return .branch condition yes .nothing

/-- A loop over words, after its `for`. -/
def eachLoop (lists : ListReader) (line : Nat) : Reader Command := do
  let t ← Reader.peek lists
  let name ← match t with
    | .word w =>
      match plain? w with
      | some name => if isName name then pure name else Reader.refuse "Bad for loop variable"
      | none => Reader.refuse "Bad for loop variable"
    | _ => Reader.refuse "Bad for loop variable"
  dropToken
  let t ← Reader.peekPastLines lists Reader.patience
  let words ←
    if t.keyword? == some "in" then do
      dropToken
      let words ← wordList lists Reader.patience []
      match ← Reader.peek lists with
      | .newline | .mark ";" => dropToken
      | t => Reader.unexpected t none
      pure words
    else do
      match t with
      | .mark ";" => dropToken
      | _ => pure ()
      pure [[.parameter ['@'] .value true]]
  let _ ← Reader.peekPastLines lists Reader.patience
  expectKeyword lists "do"
  let body ← lists (.closing false)
  expectKeyword lists "done"
  return .each line name words body

/-- The patterns of an arm, between vertical bars. -/
def armPatterns (lists : ListReader) : Nat → List Word → Reader (List Word)
  | 0, taken => return taken.reverse
  | fuel + 1, taken => do
    let t ← Reader.peek lists
    match t with
    | .word w =>
      dropToken
      match ← Reader.peek lists with
      | .mark "|" =>
        dropToken
        armPatterns lists fuel (w :: taken)
      | _ => return (w :: taken).reverse
    | t => Reader.unexpected t (some (inQuotes ")"))

/-- The arms of a choice, up to its end. -/
def arms (lists : ListReader) :
    Nat → List (List Word × Command) → Reader (List (List Word × Command))
  | 0, taken => return taken.reverse
  | fuel + 1, taken => do
    let t ← Reader.peekPastLines lists Reader.patience
    if t.keyword? == some "esac" then
      dropToken
      return taken.reverse
    match t with
    | .mark "(" => dropToken
    | _ => pure ()
    let patterns ← armPatterns lists Reader.patience []
    expectMark lists ")"
    let body ← lists (.closing true)
    let t ← Reader.peekPastLines lists Reader.patience
    match t with
    | .mark ";;" =>
      dropToken
      arms lists fuel ((patterns, body) :: taken)
    | t =>
      if t.keyword? == some "esac" then
        dropToken
        return ((patterns, body) :: taken).reverse
      else Reader.unexpected t (some (inQuotes ";;"))

/-- A choice, after its `case`. -/
def choice (lists : ListReader) (line : Nat) : Reader Command := do
  match ← Reader.peek lists with
  | .word w =>
    dropToken
    let t ← Reader.peekPastLines lists Reader.patience
    dropToken
    if t.keyword? == some "in" then
      return .choose line w (← arms lists Reader.patience [])
    else Reader.unexpected t (some (inQuotes "in"))
  | t => Reader.unexpected t (some "word")

/-- The command with redirections for all of it. -/
def withRedirects (line : Nat) (c : Command) (redirects : List Redirect) : Command :=
  if redirects.isEmpty then c
  else
    match c with
    | .isolated l body _ => .isolated l body redirects
    | c => .redirected line c redirects

/-- Read a command. -/
def command (lists : ListReader) : Nat → Reader Command
  | 0 => return .nothing
  | fuel + 1 => do
    let t ← Reader.expandAlias lists Reader.patience
    let line := (← get).line
    let compound (read : Reader Command) : Reader Command := do
      dropToken
      let c ← read
      return withRedirects line c (← redirections lists Reader.patience [])
    match t.keyword?, t with
    | some "if", _ => compound (branches lists Reader.patience)
    | some "while", _ => compound do
      let condition ← lists (.closing false)
      expectKeyword lists "do"
      let body ← lists (.closing false)
      expectKeyword lists "done"
      return .loop condition body true
    | some "until", _ => compound do
      let condition ← lists (.closing false)
      expectKeyword lists "do"
      let body ← lists (.closing false)
      expectKeyword lists "done"
      return .loop condition body false
    | some "for", _ => compound (eachLoop lists line)
    | some "case", _ => compound (choice lists line)
    | some "\x7b", _ => compound do
      let c ← lists (.closing false)
      expectKeyword lists "\x7d"
      return c
    | some "in", _ => simpleCommand lists (command lists fuel) line Reader.patience {}
    | some _, t => Reader.unexpected t none
    | none, .mark "(" => compound do
      let c ← lists (.closing false)
      expectMark lists ")"
      return .isolated line c []
    | none, .word _ | none, .redirect _ _ =>
      simpleCommand lists (command lists fuel) line Reader.patience {}
    | none, t => Reader.unexpected t none

/-! ### Lists -/

/-- The further commands of a pipeline. -/
def stages (lists : ListReader) : Nat → List Command → Reader (List Command)
  | 0, taken => return taken.reverse
  | fuel + 1, taken => do
    match ← Reader.peek lists with
    | .mark "|" =>
      dropToken
      let _ ← Reader.peekPastLines lists Reader.patience
      let c ← command lists Reader.patience
      stages lists fuel (c :: taken)
    | _ => return taken.reverse

/-- A pipeline, perhaps negated. -/
def pipeline (lists : ListReader) : Reader Command := do
  let t ← Reader.peek lists
  let negated := t.keyword? == some "!"
  if negated then dropToken
  let first ← command lists Reader.patience
  let c ← match ← stages lists Reader.patience [first] with
    | [c] => pure c
    | all => pure (.pipe all)
  return if negated then .negate c else c

/-- Pipelines joined by conditions. -/
def conditional (lists : ListReader) : Nat → Command → Reader Command
  | 0, c => return c
  | fuel + 1, c => do
    match ← Reader.peek lists with
    | .mark "&&" =>
      dropToken
      let _ ← Reader.peekPastLines lists Reader.patience
      conditional lists fuel (.both c (← pipeline lists))
    | .mark "||" =>
      dropToken
      let _ ← Reader.peekPastLines lists Reader.patience
      conditional lists fuel (.either c (← pipeline lists))
    | _ => return c

/-- One command after another. -/
def Command.andThen : Command → Command → Command
  | .nothing, c => c
  | c, d => .sequence c d

/-- Read a list of commands, after some of them. -/
def listFrom (lists : ListReader) (ending : ListEnd) : Nat → Bool → Command → Reader Command
  | 0, _, c => return c
  | fuel + 1, started, c => do
    let t ← match ending with
      | .line => Reader.peek lists
      | .closing _ => Reader.peekPastLines lists Reader.patience
    match ending, t with
    | .line, .newline =>
      dropToken
      return c
    | _, .ending =>
      if started || ending != .closing false then return c else Reader.unexpected t none
    | _, _ =>
      let mayEnd := match ending with
        | .line => started
        | .closing mayBeEmpty => started || mayBeEmpty
      if mayEnd && t.closes && ending != .line then return c
      else
        let next ← conditional lists Reader.patience (← pipeline lists)
        match ← Reader.peek lists with
        | .mark "&" =>
          dropToken
          listFrom lists ending fuel true (c.andThen (.background next))
        | .mark ";" =>
          dropToken
          listFrom lists ending fuel true (c.andThen next)
        | .newline => listFrom lists ending fuel true (c.andThen next)
        | .ending => return c.andThen next
        | t => if ending = .line then Reader.unexpected t none else return c.andThen next

/-- Read lists of commands, nested up to some depth. -/
def lists : Nat → ListReader
  | 0, _ => Reader.fail "Syntax error: too deeply nested"
  | depth + 1, ending => listFrom (lists depth) ending Reader.patience false .nothing

/-- What reading a script comes to: a command with the texts it refers to and what is left,
the end of the script, or a reason to stop. -/
inductive Reading where
  | command (c : Command) (rest : Source)
  | finished (rest : Source)
  | stopped (s : Stop)

/-- Read the next complete command of a script. -/
def Source.nextCommand (s : Source) : Reading :=
  let reader : Reader (Option Command) := do
    match ← peekToken (Reader.inner (lists Reader.patience)) with
    | .ending =>
      settle (Reader.inner (lists Reader.patience))
      return none
    | _ =>
      let c ← lists Reader.patience .line
      settle (Reader.inner (lists Reader.patience))
      return some c
  match reader.run { s with peeked := none, owed := [] } with
  | .error e => .stopped e
  | .ok (none, t) => .finished t
  | .ok (some c, t) => .command c t

end LabLifecycle.Shell

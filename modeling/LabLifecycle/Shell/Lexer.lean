import LabLifecycle.Shell.Grammar

/-!
# Tokens of shell scripts

A script is a sequence of words, redirections and marks. Quotes, backslashes and dollar signs
inside a word split it into pieces; a comment runs from a `#` at the start of a word to the
end of the line. The text of a here-document is taken from the lines that follow the one on
which it is announced.

A script need not be there as a whole: reading that comes to the end of a part of one stops,
and is begun anew when more of it has come.
-/
namespace LabLifecycle.Shell

/-- Why reading stops: more of the script is needed, or it is wrong at some line. -/
inductive Stop where
  | incomplete
  | wrong (line : Nat) (message : String)
  deriving DecidableEq, Repr

/-- A token. -/
inductive Token where
  | word (w : Word)
  | redirect (descriptor : Option Nat) (mark : String)
  | mark (s : String)
  | newline
  | ending

/-- A text that was announced and that the next lines hold: its number, the line that ends it,
whether tabs at the starts of lines are dropped, and whether it is taken as it stands. -/
structure Owed where
  number : Nat
  delimiter : Raw
  dropsTabs : Bool
  isVerbatim : Bool
  deriving DecidableEq, Repr

/-- A script that is being read. -/
structure Source where
  rest : Raw
  line : Nat := 1
  complete : Bool := true
  peeked : Option Token := none
  owed : List Owed := []
  documents : Documents := []
  next : Nat := 0
  aliases : List (Raw × Raw) := []
  expanding : List (Raw × Nat) := []

/-- A reader of scripts. -/
abbrev Reader := StateT Source (Except Stop)

namespace Reader

/-- A number of steps that no script needs. -/
def patience : Nat := 0xFFFFFFFF

/-- Stop at a mistake on the current line. -/
def fail {α : Type} (message : String) : Reader α := do throw (.wrong (← get).line message)

/-- Stop at a mistake in the syntax. -/
def refuse {α : Type} (message : String) : Reader α := fail ("Syntax error: " ++ message)

/-- The next character, which is not taken. -/
def look : Reader (Option Char) := do
  let s ← get
  match s.rest with
  | c :: _ => return some c
  | [] => if s.complete then return none else throw .incomplete

/-- Take the next character. -/
def take : Reader (Option Char) := do
  let s ← get
  match s.rest with
  | c :: rest =>
    set { s with rest := rest, line := if c = '\n' then s.line + 1 else s.line }
    return some c
  | [] => if s.complete then return none else throw .incomplete

/-- Pass over line ends that a backslash joins. -/
def skipJoins : Nat → Reader Unit
  | 0 => return ()
  | fuel + 1 => do
    let s ← get
    match s.rest with
    | '\\' :: '\n' :: rest =>
      set { s with rest := rest, line := s.line + 1 }
      skipJoins fuel
    | ['\\'] => if s.complete then return () else throw .incomplete
    | _ => return ()

/-- The next character after joined lines, which is not taken. -/
def lookJoined : Reader (Option Char) := do
  skipJoins patience
  look

/-- Take the next character after joined lines. -/
def takeJoined : Reader (Option Char) := do
  skipJoins patience
  take

/-- Take characters as long as they satisfy a condition. -/
def takeWhile (condition : Char → Bool) : Nat → Raw → Reader Raw
  | 0, taken => return taken.reverse
  | fuel + 1, taken => do
    match ← lookJoined with
    | some c =>
      if condition c then
        let _ ← take
        takeWhile condition fuel (c :: taken)
      else return taken.reverse
    | none => return taken.reverse

end Reader

/-! ### Words -/

/-- A word that is being read: its pieces so far, the last one first, and text that is no
piece yet, the last character first. -/
structure Draft where
  pieces : List Piece := []
  buffer : Raw := []
  quoted : Bool := false

namespace Draft

/-- The draft with its text made a piece. -/
def flush (d : Draft) : Draft :=
  if d.buffer.isEmpty then d
  else { d with pieces := .text d.buffer.reverse d.quoted :: d.pieces, buffer := [] }

/-- The draft with a character added. -/
def addChar (d : Draft) (c : Char) (quoted : Bool) : Draft :=
  if d.quoted = quoted then { d with buffer := c :: d.buffer }
  else { d.flush with buffer := [c], quoted := quoted }

/-- The draft with a piece added. -/
def addPiece (d : Draft) (p : Piece) : Draft :=
  let d := d.flush
  { d with pieces := p :: d.pieces }

/-- The draft with a mark that something in it is quoted, even if that is nothing. -/
def addQuote (d : Draft) : Draft := d.addPiece (.text [] true)

/-- The finished word. -/
def word (d : Draft) : Word := d.flush.pieces.reverse

end Draft

/-! ### Complaints -/

/-- The words that structure commands, where a command can start. -/
def keywords : List String :=
  ["!", "\x7b", "\x7d", "case", "do", "done", "elif", "else", "esac", "fi", "for", "if", "in",
    "then", "until", "while"]

/-- The keyword that a token is. -/
def Token.keyword? : Token → Option String
  | .word w => (plain? w).bind fun s => keywords.find? (·.toList == s)
  | _ => none

/-- A text between double quotes. -/
def inQuotes (s : String) : String := "\"" ++ s ++ "\""

/-- How a complaint names a token. -/
def Token.title (t : Token) : String :=
  match t.keyword?, t with
  | some k, _ => inQuotes k
  | none, .word _ => "word"
  | none, .redirect _ _ => "redirection"
  | none, .mark s => inQuotes s
  | none, .newline => "newline"
  | none, .ending => "end of file"

/-- Complain about a token, where another one may have been expected. -/
def Reader.unexpected {α : Type} (t : Token) (expected : Option String) : Reader α :=
  let tail := match expected with
    | some e => " (expecting " ++ e ++ ")"
    | none => ""
  Reader.refuse (t.title ++ " unexpected" ++ tail)

/-! ### Pieces -/

/-- Where in a word reading is: outside quotes, between double quotes, in the braces of a
parameter, in a here-document, or in an expression with some parentheses open. -/
inductive Context where
  | open
  | quotes
  | braces (quoted : Bool)
  | document
  | sum (depth : Nat)
  deriving DecidableEq, Repr

namespace Context

/-- Whether text counts as quoted there. -/
def isQuoted : Context → Bool
  | .open | braces false => false
  | quotes | braces true | document | sum _ => true

/-- Whether a double quote starts or ends something there. -/
def isDelimited : Context → Bool
  | .open | quotes | braces _ => true
  | document | sum _ => false

/-- Whether a backslash before a character makes a plain character of it there. -/
def escapes (x : Context) (c : Char) : Bool :=
  match x with
  | .open | braces false => true
  | quotes | sum _ => c == '$' || c == '`' || c == '"' || c == '\\'
  | braces true => c == '$' || c == '`' || c == '"' || c == '\\' || c == '}'
  | document => c == '$' || c == '`' || c == '\\'

end Context

/-- A character that ends a word. -/
def isDelimiter (c : Char) : Bool := " \t\n;&|()<>".toList.contains c

/-- The characters of parameters that are no names. -/
def isSpecial (c : Char) : Bool := "@*#?$!-".toList.contains c

/-- A condition on a character that may be missing. -/
def holds (condition : Char → Bool) (c : Option Char) : Bool := c.any condition

/-- The text between backquotes. A backslash before a backslash, a dollar sign or a backquote
is dropped, between double quotes also before one of those. -/
def backquoted (quoted : Bool) : Nat → Raw → Reader Raw
  | 0, taken => return taken.reverse
  | fuel + 1, taken => do
    match ← Reader.take with
    | none => Reader.refuse "EOF in backquote substitution"
    | some '`' => return taken.reverse
    | some '\\' =>
      match ← Reader.take with
      | none => Reader.refuse "EOF in backquote substitution"
      | some '\n' => backquoted quoted fuel taken
      | some c =>
        if c = '\\' || c = '`' || c = '$' || (quoted && c = '"') then
          backquoted quoted fuel (c :: taken)
        else backquoted quoted fuel (c :: '\\' :: taken)
    | some c => backquoted quoted fuel (c :: taken)

/-- The text up to the next single quote. -/
def singleQuoted : Nat → Raw → Reader Raw
  | 0, taken => return taken.reverse
  | fuel + 1, taken => do
    match ← Reader.take with
    | none => Reader.refuse "Unterminated quoted string"
    | some '\'' => return taken.reverse
    | some c => singleQuoted fuel (c :: taken)

/-- Read a script of its own with a reader, up to its end. -/
def Reader.within {α : Type} (text : Raw) (line : Nat) (r : Reader α) : Reader α := do
  let s ← get
  let inner : Source := { s with
    rest := text, line := line, complete := true, peeked := none, owed := [] }
  match r.run inner with
  | .error .incomplete => throw (.wrong line "Syntax error: end of file unexpected")
  | .error e => throw e
  | .ok (a, t) =>
    set { s with documents := t.documents, next := t.next }
    return a

/-- What reads the commands of a command substitution up to its end. -/
abbrev CommandReader := Reader Command

/-- A command substitution, after its opening parenthesis. Here-documents that are owed
outside of it stay so. -/
def substitution (commands : CommandReader) : Reader Command := do
  let s ← get
  set { s with owed := [], peeked := none }
  let c ← commands
  let t ← get
  set { t with owed := s.owed }
  match t.peeked with
  | some (.mark ")") =>
    modify fun t => { t with peeked := none }
    return c
  | other => Reader.unexpected (other.getD .ending) (some (inQuotes ")"))

/-- A command substitution between backquotes, after the first of them. -/
def oldSubstitution (commands : CommandReader) (quoted : Bool) : Reader Command := do
  let text ← backquoted quoted Reader.patience []
  Reader.within text 1 commands

/-- The name of the parameter between braces, whether its length is meant, and the character
after it. -/
def bracedName : Reader (Option (Raw × Bool)) := do
  let named (first : Char) : Reader Raw := do
    if isNameStart first then Reader.takeWhile isNameChar Reader.patience []
    else Reader.takeWhile Char.isDigit Reader.patience []
  match ← Reader.lookJoined with
  | none => return none
  | some '#' =>
    let _ ← Reader.take
    match ← Reader.lookJoined with
    | none => return none
    | some c =>
      if isNameChar c then return some (← named c, true)
      else if c = '}' then return some (['#'], false)
      else
        match (← get).rest with
        | _ :: '}' :: _ =>
          if isSpecial c then
            let _ ← Reader.take
            return some ([c], true)
          else return none
        | _ => return some (['#'], false)
  | some c =>
    if isNameStart c || c.isDigit then return some (← named c, false)
    else if isSpecial c then
      let _ ← Reader.take
      return some ([c], false)
    else return none

/-- Read a word, or a part of one, from a place in it on. -/
def scan (commands : CommandReader) : Nat → Context → Draft → Reader Draft
  | 0, _, d => return d
  | fuel + 1, x, d => do
    let line := (← get).line
    let ended (message : String) : Reader Draft := do
      throw (.wrong (max line (← get).line) ("Syntax error: " ++ message))
    match ← Reader.look with
    | none =>
      match x with
      | .open | .document => return d
      | .quotes | .braces true => ended "Unterminated quoted string"
      | .braces false => ended "Missing '\x7d'"
      | .sum _ => ended "Missing '))'"
    | some c =>
      let literal : Reader Draft := do
        let _ ← Reader.take
        scan commands fuel x (d.addChar c x.isQuoted)
      if x = .open && isDelimiter c then return d
      else if c = '\\' then
        let _ ← Reader.take
        match ← Reader.look with
        | none => scan commands fuel x (d.addChar '\\' x.isQuoted)
        | some '\n' =>
          let _ ← Reader.take
          scan commands fuel x d
        | some e =>
          if x.escapes e then
            let _ ← Reader.take
            scan commands fuel x (d.addQuote.addChar e true)
          else scan commands fuel x (d.addChar '\\' x.isQuoted)
      else if c = '\'' && !x.isQuoted then
        let _ ← Reader.take
        let text ← singleQuoted Reader.patience []
        scan commands fuel x (d.addPiece (.text text true))
      else if c = '"' && x.isDelimited then
        let _ ← Reader.take
        if x = .quotes then return d
        else
          let d ← scan commands fuel .quotes d.addQuote
          scan commands fuel x d
      else if c = '}' then
        match x with
        | .braces _ =>
          let _ ← Reader.take
          return d
        | _ => literal
      else if c = '`' then
        let _ ← Reader.take
        let script ← oldSubstitution commands (x = .quotes)
        scan commands fuel x (d.addPiece (.output script x.isQuoted))
      else if c = '$' then
        let _ ← Reader.take
        let d ← dollar commands fuel x d
        scan commands fuel x d
      else
        match x with
        | .sum depth =>
          if c = '(' then
            let _ ← Reader.take
            scan commands fuel (.sum (depth + 1)) (d.addChar c true)
          else if c = ')' then
            let _ ← Reader.take
            if 0 < depth then scan commands fuel (.sum (depth - 1)) (d.addChar c true)
            else
              match ← Reader.lookJoined with
              | some ')' =>
                let _ ← Reader.take
                return d
              | _ => scan commands fuel x (d.addChar c true)
          else literal
        | _ => literal
where
  /-- Read what a dollar sign starts, after it. -/
  dollar (commands : CommandReader) (fuel : Nat) (x : Context) (d : Draft) : Reader Draft := do
    let q := x.isQuoted
    match ← Reader.lookJoined with
    | some '(' =>
      let _ ← Reader.take
      match ← Reader.lookJoined with
      | some '(' =>
        let _ ← Reader.take
        let inner ← scan commands fuel (.sum 0) {}
        return d.addPiece (.arithmetic inner.word q)
      | _ =>
        let script ← substitution commands
        return d.addPiece (.output script q)
    | some '{' =>
      let _ ← Reader.take
      match ← bracedName with
      | none =>
        let _ ← scan commands fuel (.braces q) {}
        return d.addPiece (.parameter [] .mistaken q)
      | some (name, true) =>
        match ← Reader.lookJoined with
        | some '}' =>
          let _ ← Reader.take
          return d.addPiece (.parameter name .length q)
        | _ =>
          let _ ← scan commands fuel (.braces q) {}
          return d.addPiece (.parameter name .mistaken q)
      | some (name, false) =>
        match ← Reader.takeJoined with
        | some '}' => return d.addPiece (.parameter name .value q)
        | some ':' =>
          let mark ← Reader.takeJoined
          if mark = some '}' then return d.addPiece (.parameter name .value q)
          else
            let inner ← scan commands fuel (.braces q) {}
            return d.addPiece (.parameter name (form true mark inner.word) q)
        | some '%' => trimmed commands fuel name true '%' q d
        | some '#' => trimmed commands fuel name false '#' q d
        | mark =>
          let inner ← scan commands fuel (.braces q) {}
          return d.addPiece (.parameter name (form false mark inner.word) q)
    | some c =>
      if isNameStart c then
        let name ← Reader.takeWhile isNameChar Reader.patience []
        return d.addPiece (.parameter name .value q)
      else if c.isDigit || isSpecial c then
        let _ ← Reader.take
        return d.addPiece (.parameter [c] .value q)
      else return d.addChar '$' q
    | none => return d.addChar '$' q
  /-- Read a pattern that is to be taken off a value, after its first mark. -/
  trimmed (commands : CommandReader) (fuel : Nat) (name : Raw) (atEnd : Bool) (mark : Char)
      (quoted : Bool) (d : Draft) : Reader Draft := do
    let longest := holds (· == mark) (← Reader.lookJoined)
    if longest then
      let _ ← Reader.take
    let inner ← scan commands fuel (.braces false) {}
    return d.addPiece (.parameter name (.trim atEnd longest inner.word) quoted)
  /-- The form that a mark after a name means. -/
  form (ifEmpty : Bool) (mark : Option Char) (word : Word) : Form :=
    match mark with
    | some '-' => .orElse ifEmpty word
    | some '=' => .assign ifEmpty word
    | some '?' => .demand ifEmpty word
    | some '+' => .instead ifEmpty word
    | _ => .mistaken

/-- Whether anything in a word is quoted. -/
def hasQuotes : Word → Bool
  | [] => false
  | .text _ true :: _ => true
  | _ :: rest => hasQuotes rest

/-! ### Here-documents -/

/-- The lines of a here-document, the last one first, up to the line that ends it. A line
whose end is joined to the next one lets that one not count as the end. -/
def documentLines (o : Owed) : Nat → Bool → List Raw → Reader (List Raw)
  | 0, _, taken => return taken
  | fuel + 1, joined, taken => do
    let s ← get
    match s.rest.cut? '\n' with
    | none =>
      if !s.complete then throw .incomplete
      let line := if o.dropsTabs && !joined then s.rest.dropWhile (· == '\t') else s.rest
      set { s with rest := [] }
      return if line.isEmpty || (line == o.delimiter && !joined) then taken else line :: taken
    | some (line, rest) =>
      set { s with rest := rest, line := s.line + 1 }
      let line := if o.dropsTabs && !joined then line.dropWhile (· == '\t') else line
      if line == o.delimiter && !joined then return taken
      let joins := !o.isVerbatim && ((line.reverse.takeWhile (· == '\\')).length % 2 == 1)
      documentLines o fuel joins ((line ++ ['\n']) :: taken)

/-- Read the text of a here-document. -/
def document (commands : CommandReader) (o : Owed) : Reader Unit := do
  let line := (← get).line
  let lines ← documentLines o Reader.patience false []
  let text := lines.reverse.flatten
  let word ←
    if o.isVerbatim then pure [Piece.text text true]
    else Reader.within text line do
      let d ← scan commands Reader.patience .document {}
      return d.word
  modify fun s => { s with documents := (o.number, word) :: s.documents }

/-- The word of a text that is read like a here-document, without any commands in it. -/
def documentWord (text : Raw) : Word :=
  match (scan (Reader.refuse "commands are left out") Reader.patience .document {}).run
    { rest := text } with
  | .ok (d, _) => d.word
  | .error _ => [.text text true]

/-- Read the texts that are owed. -/
def settle (commands : CommandReader) : Reader Unit := do
  let s ← get
  set { s with owed := [] }
  s.owed.forM (document commands)

/-! ### Tokens -/

/-- Pass over blanks, joined lines and a comment. -/
def skipGap : Nat → Reader Unit
  | 0 => return ()
  | fuel + 1 => do
    match ← Reader.lookJoined with
    | some ' ' | some '\t' =>
      let _ ← Reader.take
      skipGap fuel
    | some '#' =>
      let s ← get
      match s.rest.cut? '\n' with
      | some (_, rest) => set { s with rest := '\n' :: rest }
      | none => if s.complete then set { s with rest := [] } else throw .incomplete
    | _ => return ()

/-- The mark of a redirection, after its first character. -/
def redirectMark (first : Char) : Reader String := do
  let follow (marks : List (Char × String)) (otherwise : String) : Reader String := do
    match ← Reader.lookJoined with
    | some c =>
      match marks.lookup c with
      | some mark =>
        let _ ← Reader.take
        return mark
      | none => return otherwise
    | none => return otherwise
  if first = '>' then follow [('>', ">>"), ('&', ">&"), ('|', ">|")] ">"
  else
    match ← follow [('&', "<&"), ('>', "<>"), ('<', "<<")] "<" with
    | "<<" => follow [('-', "<<-")] "<<"
    | mark => return mark

/-- Take a token from the script. -/
def freshToken (commands : CommandReader) : Reader Token := do
  skipGap Reader.patience
  let doubled (c : Char) (double single : String) : Reader Token := do
    let _ ← Reader.take
    if holds (· == c) (← Reader.lookJoined) then
      let _ ← Reader.take
      return .mark double
    else return .mark single
  match ← Reader.look with
  | none => return .ending
  | some '\n' =>
    let _ ← Reader.take
    settle commands
    return .newline
  | some '&' => doubled '&' "&&" "&"
  | some '|' => doubled '|' "||" "|"
  | some ';' => doubled ';' ";;" ";"
  | some '(' =>
    let _ ← Reader.take
    return .mark "("
  | some ')' =>
    let _ ← Reader.take
    return .mark ")"
  | some c =>
    if c = '<' || c = '>' then
      let _ ← Reader.take
      return .redirect none (← redirectMark c)
    else
      let d ← scan commands Reader.patience .open {}
      let w := d.word
      match plain? w, ← Reader.look with
      | some [n], some mark =>
        if n.isDigit && (mark = '<' || mark = '>') then
          let _ ← Reader.take
          return .redirect (some (n.toNat - '0'.toNat)) (← redirectMark mark)
        else return .word w
      | _, _ => return .word w

/-- The next token, which is not taken. -/
def peekToken (commands : CommandReader) : Reader Token := do
  match (← get).peeked with
  | some t => return t
  | none =>
    let t ← freshToken commands
    modify fun s => { s with peeked := some t }
    return t

/-- Take the token that was looked at. -/
def dropToken : Reader Unit := modify fun s => { s with peeked := none }

end LabLifecycle.Shell

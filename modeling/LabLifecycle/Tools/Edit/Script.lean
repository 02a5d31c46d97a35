import LabLifecycle.Tools.Regex

/-!
# Editing scripts

A script of a line editor is a list of commands, each for the lines that its addresses select.
Lines are read one after the other; the text worked on need not be a single line, and a second
text is kept beside it. Commands between braces are listed like others: the opening brace
knows where to go on if it is not selected.
-/
namespace LabLifecycle.Edit

/-- An expression to look for, the number of its groups, and whether lines within the text
have starts and ends. -/
structure Pattern where
  regex : Regex
  groups : Nat
  byLine : Bool := false
  deriving DecidableEq, Repr

/-- An address. Without an expression, the one that was used last is meant. The last two
count from where a range starts, and only end one. -/
inductive Address where
  | line (n : Nat)
  | every (first step : Nat)
  | last
  | search (p : Option Pattern)
  | further (n : Nat)
  | multiple (n : Nat)
  deriving DecidableEq, Repr

/-- The lines that a command is for. -/
structure Selector where
  first : Option Address := none
  second : Option Address := none
  negated : Bool := false
  deriving DecidableEq, Repr

/-- How the letters of what follows are changed: all of them, or the next one. -/
inductive Casing where
  | plain
  | upper
  | lower
  | nextUpper
  | nextLower
  deriving DecidableEq, Repr

/-- A part of a replacement. The group zero is the whole match. -/
inductive Piece where
  | character (c : Char)
  | group (number : Nat)
  | casing (c : Casing)
  deriving DecidableEq, Repr

/-- A substitution: of the match of a number, and of all later ones too if it is general. -/
structure Substitution where
  pattern : Option Pattern
  pieces : List Piece
  number : Nat := 1
  general : Bool := false
  prints : Bool := false
  evaluates : Bool := false
  output : Option Raw := none
  deriving DecidableEq, Repr

/-- When a branch is taken: always, if a substitution was made since the last line was read
or the last such branch, or if none was made. -/
inductive Condition where
  | always
  | replaced
  | unreplaced
  deriving DecidableEq, Repr

/-- A command. -/
inductive Command where
  | block (after : Nat)
  | closing
  | append (text : Raw)
  | insert (text : Raw)
  | change (text : Raw)
  | branch (c : Condition) (label : Raw)
  | delete
  | deleteLine
  | evaluate (command : Raw)
  | fileName
  | get
  | getMore
  | hold
  | holdMore
  | listing (width : Option Nat)
  | next
  | nextMore
  | print
  | printLine
  | quit (silently : Bool) (code : Nat)
  | readFile (path : Raw)
  | readLine (path : Raw)
  | substitute (s : Substitution)
  | writeFile (path : Raw)
  | writeLine (path : Raw)
  | exchange
  | translate (pairs : List (Char × Char))
  | clear
  | number
  deriving DecidableEq, Repr

/-- A script: its commands, the places of its labels, the files that it writes to, and
whether the lines are not to be printed. -/
structure Script where
  commands : Array (Selector × Command) := #[]
  labels : List (Raw × Nat) := []
  outputs : List Raw := []
  quiet : Bool := false
  deriving Repr, Inhabited

/-! ### Escape sequences -/

/-- The value of a digit of any base. -/
def digitValue (c : Char) : Nat :=
  if c.isDigit then c.toNat - '0'.toNat
  else if c.isAlpha then c.toLower.toNat - 'a'.toNat + 10
  else 99

/-- The character of at most so many digits of some base. -/
def numbered? (base most : Nat) (s : Raw) : Option (Char × Raw) :=
  let digits := (s.take most).takeWhile (digitValue · < base)
  if digits.isEmpty then none
  else
    some (Char.ofNat (digits.foldl (fun n c => n * base + digitValue c) 0 % 256),
      s.drop digits.length)

/-- The character that is meant by what follows a backslash, if that has such a meaning, and
the rest. -/
def escape? : Raw → Option (Char × Raw)
  | 'a' :: rest => some ('\x07', rest)
  | 'f' :: rest => some ('\x0C', rest)
  | 'r' :: rest => some ('\r', rest)
  | 't' :: rest => some ('\t', rest)
  | 'v' :: rest => some ('\x0B', rest)
  | 'c' :: '\\' :: '\\' :: rest => some ('\x1C', rest)
  | 'c' :: c :: rest => some (Char.ofNat (c.toUpper.toNat ^^^ 0x40), rest)
  | 'd' :: rest => numbered? 10 3 rest
  | 'o' :: rest => numbered? 8 3 rest
  | 'x' :: rest => numbered? 16 2 rest
  | _ => none

/-- An expression with the characters in the place of their escape sequences. What else
follows a backslash stays as it is. -/
def plainExpression : Nat → Raw → Raw
  | 0, s => s
  | _ + 1, [] => []
  | fuel + 1, '\\' :: rest =>
    match escape? rest with
    | some (c, rest) => c :: plainExpression fuel rest
    | none =>
      match rest with
      | c :: rest => '\\' :: c :: plainExpression fuel rest
      | [] => ['\\']
  | fuel + 1, c :: rest => c :: plainExpression fuel rest

/-- A text with the characters in the place of their escape sequences. Any other backslash
is left out. -/
def plainText : Nat → Raw → Raw
  | 0, s => s
  | _ + 1, [] => []
  | fuel + 1, '\\' :: rest =>
    match escape? rest with
    | some (c, rest) => c :: plainText fuel rest
    | none =>
      match rest with
      | 'n' :: rest => '\n' :: plainText fuel rest
      | c :: rest => c :: plainText fuel rest
      | [] => []
  | fuel + 1, c :: rest => c :: plainText fuel rest

/-- The parts of a replacement. -/
def pieces : Nat → Raw → List Piece
  | 0, _ => []
  | _ + 1, [] => []
  | fuel + 1, '&' :: rest => .group 0 :: pieces fuel rest
  | fuel + 1, '\\' :: rest =>
    match escape? rest with
    | some (c, rest) => .character c :: pieces fuel rest
    | none =>
      match rest with
      | [] => []
      | c :: rest =>
        let piece : Piece := match c with
          | 'n' => .character '\n'
          | 'L' => .casing .lower
          | 'U' => .casing .upper
          | 'E' => .casing .plain
          | 'l' => .casing .nextLower
          | 'u' => .casing .nextUpper
          | c => if c.isDigit then .group (c.toNat - '0'.toNat) else .character c
        piece :: pieces fuel rest
  | fuel + 1, c :: rest => .character c :: pieces fuel rest

/-- The greatest number of a group in a replacement. -/
def greatestGroup (l : List Piece) : Nat :=
  l.foldl (fun n p => match p with
    | .group m => max n m
    | _ => n) 0

end LabLifecycle.Edit

import LabLifecycle.Text.Raw

/-!
# Shell commands

What a shell script consists of: words, which are expanded before use, redirections, and
commands built from them. A word is a list of pieces. Commands remember the line that they
start on, because complaints name it.
-/
namespace LabLifecycle.Shell

/-- What a redirection does with its descriptor: open a file in some way, or let it stand for
what another descriptor does. -/
inductive RedirectKind where
  | read
  | write
  | clobber
  | append
  | update
  | copy
  deriving DecidableEq, Repr

mutual

/-- A piece of a word: text, a parameter, the output of commands, or the value of an
expression. Quoted pieces are neither split into fields nor read as patterns. -/
inductive Piece where
  | text (s : Raw) (quoted : Bool)
  | parameter (name : Raw) (form : Form) (quoted : Bool)
  | output (script : Command) (quoted : Bool)
  | arithmetic (expression : List Piece) (quoted : Bool)

/-- What is made of the value of a parameter. `orElse`, `assign`, `demand` and `instead` go by
whether it is set, or also by whether it is empty; `trim` takes a match of a pattern off its
start or its end; `mistaken` stands for a form that does not exist. -/
inductive Form where
  | value
  | length
  | orElse (ifEmpty : Bool) (word : List Piece)
  | assign (ifEmpty : Bool) (word : List Piece)
  | demand (ifEmpty : Bool) (word : List Piece)
  | instead (ifEmpty : Bool) (word : List Piece)
  | trim (atEnd longest : Bool) (pattern : List Piece)
  | mistaken

/-- A redirection of a descriptor, to a file or to a text that stands in the script. -/
inductive Redirect where
  | file (descriptor : Nat) (kind : RedirectKind) (target : List Piece)
  | document (descriptor number : Nat)

/-- A command. -/
inductive Command where
  | nothing
  | simple (line : Nat) (assignments : List (Raw × List Piece)) (words : List (List Piece))
      (redirects : List Redirect)
  | pipe (stages : List Command)
  | background (c : Command)
  | negate (c : Command)
  | both (first second : Command)
  | either (first second : Command)
  | sequence (first second : Command)
  | branch (condition yes no : Command)
  | choose (line : Nat) (subject : List Piece) (arms : List (List (List Piece) × Command))
  | loop (condition body : Command) (goOn : Bool)
  | each (line : Nat) (name : Raw) (words : List (List Piece)) (body : Command)
  | isolated (line : Nat) (body : Command) (redirects : List Redirect)
  | redirected (line : Nat) (body : Command) (redirects : List Redirect)
  | define (line : Nat) (name : Raw) (body : Command)

end

instance : Inhabited Command := ⟨.nothing⟩

/-- A word: its pieces in order. -/
abbrev Word := List Piece

/-- A text that stands in a script, with the number by which redirections refer to it. -/
abbrev Documents := List (Nat × Word)

namespace Piece

/-- Whether a piece is quoted. -/
def isQuoted : Piece → Bool
  | text _ quoted | parameter _ _ quoted | output _ quoted | arithmetic _ quoted => quoted

/-- Whether a piece is nothing but the start of quotes. -/
def isOpening : Piece → Bool
  | text [] true => true
  | _ => false

end Piece

/-- The text of a word that consists of plain text only. -/
def plain? : Word → Option Raw
  | [] => some []
  | [.text s false] => some s
  | _ => none

/-- A letter or an underscore, as it starts a name. -/
def isNameStart (c : Char) : Bool := c.isAlpha || c == '_'

/-- A character of a name. -/
def isNameChar (c : Char) : Bool := c.isAlphanum || c == '_'

/-- Whether a text is a name. -/
def isName : Raw → Bool
  | [] => false
  | c :: rest => isNameStart c && rest.all isNameChar

end LabLifecycle.Shell

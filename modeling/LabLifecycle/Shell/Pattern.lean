import LabLifecycle.Text.CharSet

/-!
# Patterns of the shell

In a pattern `*` stands for any text, `?` for any character, and brackets for one of a set.
After a backslash a character stands for itself. A pattern is matched in one pass over the
text, by keeping all places in the pattern that the text read so far can lead to.
-/
namespace LabLifecycle.Shell

/-- A part of a pattern. -/
inductive Glyph where
  | char (c : Char)
  | any
  | set (s : CharSet)
  | star
  deriving DecidableEq, Repr, Inhabited

/-- A pattern: its parts in order. -/
abbrev Pattern := Array Glyph

namespace Pattern

/-- The parts of a pattern given by characters that may stand for themselves. -/
def glyphs : Nat → List CharSet.Marked → List Glyph
  | 0, _ => []
  | _ + 1, [] => []
  | fuel + 1, (c, quoted) :: rest =>
    if quoted then .char c :: glyphs fuel rest
    else if c = '*' then .star :: glyphs fuel rest
    else if c = '?' then .any :: glyphs fuel rest
    else if c = '\\' then
      match rest with
      | (d, _) :: rest => .char d :: glyphs fuel rest
      | [] => [.char c]
    else if c = '[' then
      match CharSet.bracket? ['!', '^'] rest with
      | some (set, rest) => .set set :: glyphs fuel rest
      | none => .char c :: glyphs fuel rest
    else .char c :: glyphs fuel rest

/-- The pattern that characters stand for. -/
def ofMarked (s : List CharSet.Marked) : Pattern := (glyphs (s.length + 1) s).toArray

/-- Whether a part of a pattern stands for a character. -/
def admits (g : Glyph) (c : Char) : Bool :=
  match g with
  | .char d => c == d
  | .any | .star => true
  | .set s => s.contains c

/-- The place in a pattern and those after stars from there on. -/
def places (p : Pattern) : Nat → Nat → List Nat
  | 0, n => [n]
  | fuel + 1, n => if p[n]? = some Glyph.star then n :: places p fuel (n + 1) else [n]

/-- The places with some more, each once. -/
def union (more places : List Nat) : List Nat :=
  more.foldl (fun all n => if all.contains n then all else n :: all) places

/-- The places that a character leads to from some places. -/
def advance (p : Pattern) (c : Char) (starts : List Nat) : List Nat :=
  starts.foldl (fun all n =>
    match (p[n]? : Option Glyph) with
    | none => all
    | some .star => union (places p p.size n) all
    | some g => if admits g c then union (places p p.size (n + 1)) all else all) []

/-- The lengths of the shortest and of the longest start of a text that a pattern matches, and
whether it matches the text as a whole. -/
def scan (p : Pattern) : Nat → List Nat → Option (Nat × Nat) → Raw → Option (Nat × Nat) × Bool
  | n, here, found, s =>
    let accepted := here.contains p.size
    let found := if accepted then some ((found.map (·.1)).getD n, n) else found
    match s with
    | [] => (found, accepted)
    | c :: rest =>
      if here.isEmpty then (found, false) else scan p (n + 1) (p.advance c here) found rest

/-- Whether a pattern matches a text as a whole. -/
def fits (p : Pattern) (s : Raw) : Bool := (p.scan 0 (places p p.size 0) none s).2

/-- The length of the shortest or the longest start of a text that a pattern matches. -/
def startLength? (p : Pattern) (longest : Bool) (s : Raw) : Option Nat :=
  (p.scan 0 (places p p.size 0) none s).1.map fun r => if longest then r.2 else r.1

/-- A text without the shortest or the longest start, or end, that a pattern matches. -/
def trim (p : Pattern) (atEnd longest : Bool) (s : Raw) : Raw :=
  if atEnd then
    match startLength? p.reverse longest s.reverse with
    | some n => (s.reverse.drop n).reverse
    | none => s
  else
    match p.startLength? longest s with
    | some n => s.drop n
    | none => s

/-- Whether characters ask for a pattern at all. -/
def isAsked (s : List CharSet.Marked) : Bool :=
  s.any fun (c, quoted) => !quoted && (c == '*' || c == '?' || c == '[')

end Pattern
end LabLifecycle.Shell

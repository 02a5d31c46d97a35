import LabLifecycle.Text.Raw

/-!
# Sets of characters

Patterns name sets of characters between brackets: single characters, ranges, and classes such
as `[:digit:]`. A set can also be given by what is not in it.
-/
namespace LabLifecycle

/-- A set of characters: ranges, or everything outside of them. -/
structure CharSet where
  excluded : Bool := false
  ranges : List (Char × Char)
  deriving DecidableEq, Repr

namespace CharSet

/-- Whether a character is in a set. -/
def contains (s : CharSet) (c : Char) : Bool :=
  s.ranges.any (fun r => r.1 ≤ c && c ≤ r.2) != s.excluded

/-- The set of one character. -/
def single (c : Char) : CharSet := ⟨false, [(c, c)]⟩

/-- The set with the other case of its letters in it. -/
def anyCase (s : CharSet) : CharSet :=
  let letters := ((List.range 26).flatMap fun n =>
    let lower := Char.ofNat (97 + n)
    let upper := Char.ofNat (65 + n)
    let inRanges (c : Char) : Bool := s.ranges.any fun r => r.1 ≤ c && c ≤ r.2
    if inRanges lower || inRanges upper then [(lower, lower), (upper, upper)] else [])
  { s with ranges := s.ranges ++ letters }

/-- The ranges of a named class of characters. -/
def classRanges? : String → Option (List (Char × Char))
  | "digit" => some [('0', '9')]
  | "alpha" => some [('a', 'z'), ('A', 'Z')]
  | "alnum" => some [('a', 'z'), ('A', 'Z'), ('0', '9')]
  | "lower" => some [('a', 'z')]
  | "upper" => some [('A', 'Z')]
  | "space" => some [('\t', '\r'), (' ', ' ')]
  | "blank" => some [('\t', '\t'), (' ', ' ')]
  | "xdigit" => some [('0', '9'), ('a', 'f'), ('A', 'F')]
  | "punct" => some [('!', '/'), (':', '@'), ('[', '\x60'), ('\x7b', '~')]
  | "cntrl" => some [('\x00', '\x1f'), ('\x7f', '\x7f')]
  | "print" => some [(' ', '~')]
  | "graph" => some [('!', '~')]
  | _ => none

/-- The characters of words. -/
def word : CharSet := ⟨false, [('a', 'z'), ('A', 'Z'), ('0', '9'), ('_', '_')]⟩

/-- White space. -/
def space : CharSet := ⟨false, [('\t', '\r'), (' ', ' ')]⟩

/-- Everything outside of a set. -/
def inverse (s : CharSet) : CharSet := { s with excluded := !s.excluded }

/-- A character of a pattern, and whether it can only stand for itself. -/
abbrev Marked := Char × Bool

/-- What stands between `[` and a mark, and what follows the mark and a bracket. -/
def bracketName? (mark : Char) : List Marked → Option (Raw × List Marked)
  | (c, false) :: (']', false) :: rest =>
    if c = mark then some ([], rest)
    else (bracketName? mark ((']', false) :: rest)).map fun r => (c :: r.1, r.2)
  | (c, _) :: rest => (bracketName? mark rest).map fun r => (c :: r.1, r.2)
  | [] => none

/-- One end of a range, or a class: the ranges it stands for, and what follows. -/
def member? : List Marked → Option (List (Char × Char) × List Marked)
  | ('[', false) :: (':', false) :: rest =>
    match bracketName? ':' rest with
    | some (name, rest) => (classRanges? (String.ofList name)).map fun r => (r, rest)
    | none => some ([('[', '[')], (':', false) :: rest)
  | ('[', false) :: (mark, false) :: rest =>
    if mark = '=' || mark = '.' then
      match bracketName? mark rest with
      | some ([c], rest) => some ([(c, c)], rest)
      | _ => none
    else some ([('[', '[')], (mark, false) :: rest)
  | (c, _) :: rest => some ([(c, c)], rest)
  | [] => none

/-- The ranges of a bracket expression up to its closing bracket, which cannot come first. -/
def members? : Nat → Bool → List Marked → Option (List (Char × Char) × List Marked)
  | 0, _, _ => none
  | _ + 1, _, [] => none
  | fuel + 1, first, (c, quoted) :: rest =>
    if c = ']' && !quoted && !first then some ([], rest)
    else do
      let (low, rest) ← member? ((c, quoted) :: rest)
      match low, rest with
      | [(a, _)], ('-', false) :: (']', false) :: more => do
        let (ranges, rest) ← members? fuel false (('-', false) :: (']', false) :: more)
        return ((a, a) :: ranges, rest)
      | [(a, _)], ('-', false) :: more => do
        match ← member? more with
        | ([(b, _)], rest) =>
          let (ranges, rest) ← members? fuel false rest
          return ((a, b) :: ranges, rest)
        | _ => none
      | low, rest => do
        let (ranges, rest) ← members? fuel false rest
        return (low ++ ranges, rest)

/-- A bracket expression after its opening bracket. Some characters, if they come first, say
that the set is given by what is not in it. -/
def bracket? (negations : Raw) (s : List Marked) : Option (CharSet × List Marked) :=
  let (excluded, s) := match s with
    | (c, false) :: rest => if negations.contains c then (true, rest) else (false, s)
    | s => (false, s)
  (members? (s.length + 1) true s).map fun r => (⟨excluded, r.1⟩, r.2)

end CharSet
end LabLifecycle

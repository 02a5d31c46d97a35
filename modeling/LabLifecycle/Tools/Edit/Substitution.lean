import LabLifecycle.Tools.Edit.Script

/-!
# Substitutions

What a substitution makes of a text. Matches are looked for from left to right and do not
overlap; an empty match right after another match does not count. The replacement can change
the case of letters, of all that follow or of the next one.
-/
namespace LabLifecycle.Edit

/-- How the letters that are written next are changed. -/
structure Case where
  all : Casing := .plain
  next : Option Casing := none
  deriving DecidableEq, Repr

namespace Case

/-- A character in some case. -/
def change : Casing → Char → Char
  | .plain, c => c
  | .upper, c | .nextUpper, c => c.toUpper
  | .lower, c | .nextLower, c => c.toLower

/-- The case after a mark for it. -/
def mark (k : Case) : Casing → Case
  | .nextUpper => { k with next := some .nextUpper }
  | .nextLower => { k with next := some .nextLower }
  | casing => { k with all := casing }

/-- A text in some case, before what is written already in reverse, and the case after it. -/
def write (k : Case) (out : Raw) : Raw → Raw × Case
  | [] => (out, k)
  | c :: rest =>
    write { k with next := none } (change (k.next.getD k.all) c :: out) rest

end Case

namespace Substitution

/-- The part of a text between two places. -/
def slice (text : Array Char) (start stop : Nat) : Raw := (text.extract start stop).toList

/-- The text of a group of a match. -/
def groupText (text : Array Char) (m : Regex.Match) (number : Nat) : Raw :=
  if number = 0 then slice text m.start m.stop
  else
    match m.groups.lookup number with
    | some (start, stop) => slice text start stop
    | none => []

/-- The replacement of a match, before what is written already in reverse. -/
def expand (text : Array Char) (m : Regex.Match) (pieces : List Piece) (out : Raw) : Raw :=
  (pieces.foldl (fun (out, k) p =>
    match p with
    | .character c => Case.write k out [c]
    | .group n => Case.write k out (groupText text m n)
    | .casing c => (out, Case.mark k c)) (out, ({} : Case))).1

/-- How far a substitution has come: the place to go on from, the end of the last match, the
number of matches, what is written in reverse, and whether anything was replaced. -/
structure Progress where
  place : Nat := 0
  lastStop : Option Nat := none
  count : Nat := 0
  out : Raw := []
  replaced : Bool := false

/-- Go on with a substitution. -/
def go (s : Substitution) (p : Pattern) (t : Regex.Subject) : Nat → Progress → Progress
  | 0, g => g
  | fuel + 1, g =>
    let ending : Progress :=
      { g with out := (slice t.text g.place t.text.size).reverseAux g.out }
    if t.text.size < g.place then g
    else match p.regex.find? t g.place with
    | none => ending
    | some m =>
      let g := { g with out := (slice t.text g.place m.start).reverseAux g.out }
      let stepOver (g : Progress) : Progress :=
        if m.start = m.stop then
          { g with
            place := m.stop + 1
            out := (slice t.text m.stop (m.stop + 1)).reverseAux g.out }
        else { g with place := m.stop }
      if m.start = m.stop && g.lastStop = some m.start then go s p t fuel (stepOver g)
      else
        let g := { g with count := g.count + 1, lastStop := some m.stop }
        if g.count < s.number then
          go s p t fuel
            (stepOver { g with out := (slice t.text m.start m.stop).reverseAux g.out })
        else
          let g := { g with out := expand t.text m s.pieces g.out, replaced := true }
          if s.general then go s p t fuel (stepOver g)
          else { g with out := (slice t.text m.stop t.text.size).reverseAux g.out }

/-- A text after a substitution, if anything was replaced. -/
def result? (s : Substitution) (p : Pattern) (text : Raw) : Option Raw :=
  let t : Regex.Subject := { text := text.toArray, byLine := p.byLine }
  let g := go s p t (2 * t.text.size + 3) {}
  if g.replaced then some g.out.reverse else none

end Substitution
end LabLifecycle.Edit

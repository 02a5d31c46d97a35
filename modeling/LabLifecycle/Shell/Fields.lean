import LabLifecycle.Shell.Pattern

/-!
# Fields

What the expansion of a word yields is a run of fragments. Those that came of an expansion
outside of quotes are split where separators occur in them; each piece between is a field.
White space among the separators never yields an empty field, other separators do.
-/
namespace LabLifecycle.Shell

/-- Where a fragment comes from: from inside quotes, from the script, or from an expansion. -/
inductive Origin where
  | quoted
  | script
  | value
  deriving DecidableEq, Repr

/-- The origin of what is expanded inside quotes or outside of them. -/
def Origin.ofQuoted (quoted : Bool) : Origin := if quoted then .quoted else .value

/-- A part of an expanded word. A boundary ends a field in any case. -/
inductive Fragment where
  | text (s : Raw) (origin : Origin)
  | boundary
  deriving DecidableEq, Repr

/-- A field: its characters, each with whether it only stands for itself. -/
abbrev Field := List CharSet.Marked

/-- The text of a field. -/
def Field.text (f : Field) : Raw := f.map (·.1)

/-- Fields as far as they are known: the finished ones and the current one, both in reverse
order, whether there is anything in the current one, and whether white space has just ended
a field, so that a separator after it belongs to the same end. -/
structure Splitting where
  fields : List Field := []
  current : Field := []
  started : Bool := false
  spaced : Bool := false

namespace Splitting

/-- End the current field. -/
def cut (s : Splitting) (spaced : Bool) : Splitting :=
  { fields := s.current.reverse :: s.fields, spaced := spaced }

/-- Add a character to the current field. -/
def add (s : Splitting) (c : Char) (quoted : Bool) : Splitting :=
  { s with current := (c, quoted) :: s.current, started := true, spaced := false }

/-- Take in a character of an expansion. -/
def takeChar (separators : Raw) (s : Splitting) (c : Char) : Splitting :=
  if !separators.contains c then s.add c false
  else if Raw.isBlank c then if s.started then s.cut true else s
  else if s.started then s.cut false
  else if s.spaced then { s with spaced := false }
  else s.cut false

/-- Take in a fragment. -/
def take (separators : Raw) (s : Splitting) : Fragment → Splitting
  | .boundary => if s.started then s.cut false else { s with spaced := false }
  | .text t .value => t.foldl (takeChar separators) s
  | .text t .script => t.foldl (fun s c => s.add c false) s
  | .text t .quoted => t.foldl (fun s c => s.add c true) { s with started := true, spaced := false }

/-- All fields. -/
def finish (s : Splitting) : List Field :=
  (if s.started then (s.cut false).fields else s.fields).reverse

end Splitting

/-- The fields of some fragments. -/
def splitFields (separators : Raw) (fragments : List Fragment) : List Field :=
  (fragments.foldl (Splitting.take separators) {}).finish

/-- The fragments as a single field. -/
def wholeField (fragments : List Fragment) : Field :=
  fragments.flatMap fun
    | .text t .quoted => t.map fun c => (c, true)
    | .text t _ => t.map fun c => (c, false)
    | .boundary => [(' ', true)]

/-- The fragments as text. -/
def wholeText (fragments : List Fragment) : Raw := Field.text (wholeField fragments)

/-! ### Lines -/

/-- The start of a line up to a separator, and what follows the separator and what belongs to
it. Characters that only stand for themselves separate nothing. -/
def cutField (separators : Raw) (line : Field) : Field × Field :=
  let ends (c : CharSet.Marked) : Bool := !c.2 && separators.contains c.1
  let space (c : CharSet.Marked) : Bool := ends c && Raw.isBlank c.1
  let first := line.takeWhile (!ends ·)
  let rest := (line.drop first.length).dropWhile space
  match rest with
  | c :: more => (first, if ends c then more.dropWhile space else rest)
  | [] => (first, [])

/-- A line without white space at its end that separates fields. -/
def trimEnd (separators : Raw) (line : Field) : Field :=
  (line.reverse.dropWhile fun c =>
    !c.2 && separators.contains c.1 && Raw.isBlank c.1).reverse

/-- The values of some names for a line: a field for each, and for the last one all that is
left, without its separator if that is a single field. -/
def lineFields (separators : Raw) : List Raw → Field → List (Raw × Raw)
  | [], _ => []
  | [name], line =>
    let rest := trimEnd separators line
    let (first, more) := cutField separators rest
    [(name, Field.text (if more.isEmpty then first else rest))]
  | name :: names, line =>
    let (first, rest) := cutField separators line
    (name, Field.text first) :: lineFields separators names rest

/-- The values of some names for a line, after white space at its start. -/
def readFields (separators : Raw) (names : List Raw) (line : Field) : List (Raw × Raw) :=
  lineFields separators names (line.dropWhile fun c =>
    !c.2 && separators.contains c.1 && Raw.isBlank c.1)

end LabLifecycle.Shell

import LabLifecycle.Tools.Options

/-!
# Counting lines, words and bytes

`wc` counts in its input, or in files, and writes what it is asked for in columns.
-/
namespace LabLifecycle.Count

/-- What is counted. Columns of a line are counted up to its end, tabs to the next stop. -/
structure Counts where
  lines : Nat := 0
  words : Nat := 0
  bytes : Nat := 0
  widest : Nat := 0
  inWord : Bool := false
  column : Nat := 0
  deriving DecidableEq, Repr

namespace Counts

/-- A character that can be seen, or a blank. -/
def isPrintable (c : Char) : Bool := ' ' ≤ c && c ≤ '~'

/-- The counts after one more character. -/
def add (k : Counts) (c : Char) : Counts :=
  let k := { k with bytes := k.bytes + 1 }
  if c = '\n' then
    { k with
      lines := k.lines + 1, inWord := false, widest := max k.widest k.column, column := 0 }
  else if c = '\r' || c = '\x0c' then
    { k with inWord := false, widest := max k.widest k.column, column := 0 }
  else if c = '\t' then { k with inWord := false, column := k.column + 8 - k.column % 8 }
  else if c = ' ' then { k with inWord := false, column := k.column + 1 }
  else if c = '\x0b' then { k with inWord := false }
  else
    { k with
      words := if k.inWord then k.words else k.words + 1
      inWord := true
      column := if isPrintable c then k.column + 1 else k.column }

/-- The counts of a text. -/
def finished (k : Counts) : Counts := { k with widest := max k.widest k.column }

/-- The counts of two texts together. -/
def plus (a b : Counts) : Counts where
  lines := a.lines + b.lines
  words := a.words + b.words
  bytes := a.bytes + b.bytes
  widest := max a.widest b.widest

end Counts

/-- The options of `wc`. -/
def rules : List OptionRule := [
  ⟨'c', ["bytes"], .none, true⟩, ⟨'m', ["chars"], .none, true⟩, ⟨'l', ["lines"], .none, true⟩,
  ⟨'L', ["max-line-length"], .none, true⟩, ⟨'w', ["words"], .none, true⟩]

/-- What is shown: the letters of the options that are set, or the usual ones. -/
def columns (a : Arguments) : List Char :=
  let asked := ['l', 'w', 'm', 'c', 'L'].filter a.has
  if asked.isEmpty then ['l', 'w', 'c'] else asked

/-- The number in a column. -/
def cell (k : Counts) : Char → Nat
  | 'l' => k.lines
  | 'w' => k.words
  | 'L' => k.widest
  | _ => k.bytes

/-- A number, filled up with blanks on the left. -/
def padded (width n : Nat) : Raw :=
  let digits := Raw.ofNat n
  List.replicate (width - digits.length) ' ' ++ digits

/-- A line of counts, with the name of a file. -/
def row (columns : List Char) (width : Nat) (k : Counts) (name : Option Raw) : Raw :=
  Raw.joined [' '] (columns.map fun c => padded width (cell k c)) ++
    (match name with
    | some n => ' ' :: n
    | none => []) ++ ['\n']

/-- The width of the columns: one for a single number, and otherwise enough for the sizes of
all files together, and not too small where a size is not known. -/
def width (columns : List Char) (files : List (Except FileError FileInfo)) : Nat :=
  if files.length ≤ 1 && columns.length = 1 then 1
  else
    let known := files.filterMap fun f => f.toOption
    let total := (known.filterMap fun i => if i.kind == .file then some i.size else none).foldl
      (· + ·) 0
    let least := if known.any (·.kind != .file) then 7 else 1
    if known.isEmpty then 1 else max least (Raw.ofNat total).length

/-- Count in what a descriptor yields. Yields the counts, and what was wrong. -/
def countFrom (descriptor : Nat) : Action (Counts × Option FileError) :=
  Action.loop (fun k => do
    match ← Action.request (.read descriptor Action.blockSize) with
    | .error e => return .inr (k, some e)
    | .ok [] => return .inr (k.finished, none)
    | .ok part => return .inl (part.foldl Counts.add k)) ({} : Counts)

/-- Write a line. If that cannot be done, the tool ends. -/
def say (name text : Raw) : Action Unit := do
  match ← Action.write 1 text with
  | .ok _ => return ()
  | .error e =>
    Action.blame name ("write error: " ++ e.reason)
    Action.exit (.code 1)

/-- Count in a file and write the line for it. Yields the counts if there are any, and
whether all went well. -/
def countFile (name : Raw) (columns : List Char) (width : Nat) (path : Option Raw) :
    Action (Option Counts × Bool) := do
  let opened : Except FileError Nat ← match path with
    | none | some ['-'] => pure (.ok 0)
    | some path => Action.request (.openFile path .read)
  let shown := path.getD "standard input".toList
  match opened with
  | .error e =>
    Action.blameFile name shown e.reason
    return (none, false)
  | .ok descriptor =>
    let (k, fault) ← countFrom descriptor
    if descriptor != 0 then Action.request (.close descriptor)
    match fault with
    | some e => Action.blameFile name shown e.reason
    | none => pure ()
    say name (row columns width k path)
    return (some k, fault.isNone)

/-- What is known about a file before it is read. -/
def examine (path : Option Raw) : Action (Except FileError FileInfo) :=
  match path with
  | none | some ['-'] => Action.request (.infoOf 0)
  | some path => Action.request (.info path true)

/-- The program. -/
def program : Program := fun words _ => Action.task do
  let name := words.headD []
  match Arguments.ofWords rules words.tail with
  | .error fault =>
    Action.blameArguments name fault.message
    return 1
  | .ok a =>
    let columns := columns a
    let paths := if a.operands.isEmpty then [none] else a.operands.map some
    let width := width columns (← paths.mapM examine)
    let (total, fine) ← paths.foldlM (fun (total, fine) path => do
      let (k, good) ← countFile name columns width path
      return (total.plus (k.getD {}), fine && good)) (({} : Counts), true)
    if 1 < paths.length then say name (row columns width total (some "total".toList))
    let closed ← if paths.any (fun p => p.getD ['-'] == ['-']) then Action.request (.infoOf 0)
      else pure (.ok { kind := .pipe })
    match closed with
    | .error e =>
      Action.blameFile name ['-'] e.reason
      return 1
    | .ok _ => return if fine then 0 else 1

end LabLifecycle.Count

import LabLifecycle.Toml.Outline
import LabLifecycle.Toml.Scalar

/-!
# Reading TOML documents

A document is a sequence of lines: headers, which open a table or add one to an array of
tables, and pairs of a key and a value, which go into the table opened last. `Toml.lines` reads
the lines, and `Toml.read` yields the entries that they build, or nothing if the document is not
well formed.
-/
namespace LabLifecycle.Toml

mutual

/-- Read a value, with some levels of nesting left below it. -/
def readValue : Nat → Nat → Scan Value
  | 0, _, _ => none
  | fuel + 1, depth, s =>
    match s, depth with
    | '[' :: _, 0 | '\x7b' :: _, 0 => none
    | '[' :: s, depth + 1 => do
      let (items, s) ← readItems fuel depth s
      return (.array items, s)
    | '\x7b' :: s, depth + 1 =>
      match skipBlanks s with
      | '\x7d' :: s => some (.table [], s)
      | s => do
        let (entries, s) ← readPairs fuel depth [] s
        return (.table (finishEntries entries), s)
    | s, _ => scalar s

/-- Read the items of an array up to its end. -/
def readItems : Nat → Nat → Scan (List Value)
  | 0, _, _ => none
  | fuel + 1, depth, s =>
    match skipGap (s.length + 1) s with
    | ']' :: s => some ([], s)
    | s => do
      let (item, s) ← readValue fuel depth s
      match skipGap (s.length + 1) s with
      | ',' :: s =>
        let (items, s) ← readItems fuel depth s
        return (item :: items, s)
      | ']' :: s => return ([item], s)
      | _ => none

/-- Read the pairs of an inline table up to its end. -/
def readPairs : Nat → Nat → Entries → Scan Entries
  | 0, _, _, _ => none
  | fuel + 1, depth, entries, s => do
    let ((path, name), s) ← key s
    let (v, s) ← readValue fuel depth (skipBlanks (← after? '=' s))
    let entries ← entries.define path name v
    match skipBlanks s with
    | ',' :: s => readPairs fuel depth entries s
    | '\x7d' :: s => return (entries, s)
    | _ => none

end

/-- A line of a document that says something: a header opens a table or adds one to an array of
tables, and a pair defines an entry. The parts of a key before the last one are its path. -/
inductive Line where
  | opens (path : List String) (name : String)
  | adds (path : List String) (name : String)
  | defines (path : List String) (name : String) (v : Value)

/-- Read a header after its opening bracket. -/
def readHeader : Scan Line
  | '[' :: s => do
    let ((path, name), s) ← key s
    let s ← endLine? (← after? ']' (← after? ']' s))
    return (.adds path name, s)
  | s => do
    let ((path, name), s) ← key s
    let s ← endLine? (← after? ']' s)
    return (.opens path name, s)

/-- Read a pair of a key and a value. -/
def readPair : Scan Line := fun s => do
  let ((path, name), s) ← key s
  let s ← after? '=' s
  let (v, s) ← readValue (2 * s.length + 2) (depthLimit - 1) (skipBlanks s)
  let s ← endLine? s
  return (.defines path name v, s)

/-- Read lines up to the end of the document, one per step of fuel. -/
def readLines : Nat → List Char → Option (List Line)
  | 0, _ => none
  | fuel + 1, s =>
    match skipBlanks s with
    | [] => some []
    | '[' :: s => do
      let (line, s) ← readHeader s
      return line :: (← readLines fuel s)
    | s => match endLine? s with
      | some s => readLines fuel s
      | none => do
        let (line, s) ← readPair s
        return line :: (← readLines fuel s)

/-- A text without a byte order mark at its start. -/
def skipMark : List Char → List Char
  | '\uFEFF' :: rest => rest
  | s => s

/-- The lines of a document. -/
def lines (text : String) : Option (List Line) :=
  let s := skipMark text.toList
  readLines (s.length + 1) s

/-- A document under construction: the tables that are finished, and the one that the last
header opened, with its place and whether it is an element of an array. -/
structure Builder where
  root : Entries := []
  current : Entries := []
  place : Option (List String × String) := none
  isElement : Bool := false

namespace Builder

/-- Put the open table in its place. -/
def close (b : Builder) : Option Entries :=
  match b.place with
  | none => some b.current
  | some (path, name) =>
    if b.isElement then b.root.pushTable path name b.current
    else b.root.putTable path name b.current

/-- Open the table of a header. -/
def openTable (b : Builder) (path : List String) (name : String) : Option Builder := do
  let root ← b.close
  let (current, root) ← root.takeOut path name
  return { root := root, current := current, place := some (path, name) }

/-- Open a new element of an array of tables. -/
def openElement (b : Builder) (path : List String) (name : String) : Option Builder := do
  let root ← b.close
  let root ← root.openTables path name
  return { root := root, place := some (path, name), isElement := true }

/-- Add a pair to the open table. -/
def define (b : Builder) (path : List String) (name : String) (v : Value) : Option Builder := do
  let current ← b.current.define path name v
  return { b with current := current }

/-- Take in the next line. -/
def add (b : Builder) : Line → Option Builder
  | .opens path name => b.openTable path name
  | .adds path name => b.openElement path name
  | .defines path name v => b.define path name v

end Builder

/-- The entries that lines build. -/
def build (lines : List Line) : Option Entries := do
  let b ← lines.foldlM Builder.add {}
  b.close

/-- Read a document. -/
def read (text : String) : Option Table := do
  let entries ← build (← lines text)
  return finishEntries entries

end LabLifecycle.Toml

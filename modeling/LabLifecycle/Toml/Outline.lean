import LabLifecycle.Toml.Value

/-!
# Tables under construction

While a document is read, a table remembers how it came to be: by a header, implied by the
header of a table below it, or by a key with points. That decides what may still be added:
a key with points never reaches into a table that a header opened, and a header opens only
tables that were implied by headers before.
-/
namespace LabLifecycle.Toml

/-- How a table came to be. -/
inductive Origin where
  | header
  | implied
  | dotted
  deriving DecidableEq, Repr

/-- A node of a document under construction: a finished value, a table, or the elements
of an array of tables. -/
inductive Node where
  | value (v : Value)
  | table (origin : Origin) (entries : List (String × Node))
  | tables (elements : List (List (String × Node)))

/-- The entries of a table under construction. -/
abbrev Entries := List (String × Node)

namespace Entries

/-- The entries with one replaced. -/
def replace (entries : Entries) (key : String) (node : Node) : Entries :=
  entries.map fun e => if e.1 == key then (key, node) else e

/-- The entries without one. -/
def erase (entries : Entries) (key : String) : Entries := entries.filter (·.1 != key)

/-- Change the table at the end of a path. Tables on the way that are not there come to
be as `made`; of an array of tables the last element is meant. -/
def alter (made : Origin) (change : Origin → Entries → Option Entries) :
    List String → Origin → Entries → Option Entries
  | [], origin, entries => change origin entries
  | key :: path, _, entries =>
    match entries.lookup key with
    | none => do
      let inner ← alter made change path made []
      return entries ++ [(key, .table made inner)]
    | some (.table origin inner) =>
      if made = .dotted && origin = .header then none
      else do
        let inner ← alter made change path origin inner
        return replace entries key (.table origin inner)
    | some (.tables elements) => do
      let last ← elements.getLast?
      let inner ← alter made change path .header last
      return replace entries key (.tables (elements.dropLast ++ [inner]))
    | some (.value _) => none

/-- Add an entry for a key. The tables that the parts of the key before the last one stand
for have to be of keys with points all the way at the end. -/
def define (entries : Entries) (path : List String) (key : String) (v : Value) :
    Option Entries :=
  alter .dotted (fun origin inner =>
    if !path.isEmpty && origin != .dotted then none
    else if (inner.lookup key).isSome then none
    else some (inner ++ [(key, .value v)])) path .header entries

/-- What stands at the end of a path, if it leads anywhere. -/
def find? : List String → String → Entries → Option Node
  | [], key, entries => entries.lookup key
  | part :: path, key, entries =>
    match entries.lookup part with
    | some (.table _ inner) => find? path key inner
    | some (.tables elements) => (elements.getLast?).bind (find? path key)
    | _ => none

/-- Take a table out so that a header can open it: its entries so far, none unless it was
implied before. Tables on the way come to be as implied ones. -/
def takeOut (entries : Entries) (path : List String) (key : String) :
    Option (Entries × Entries) :=
  match find? path key entries with
  | none => (alter .implied (fun _ e => some e) path .header entries).map ([], ·)
  | some (.table .implied inner) =>
    (alter .implied (fun _ e => some (e.erase key)) path .header entries).map (inner, ·)
  | some _ => none

/-- Put a table that a header opened in its place. -/
def putTable (entries : Entries) (path : List String) (key : String) (table : Entries) :
    Option Entries :=
  alter .implied (fun _ inner =>
    if (inner.lookup key).isSome then none
    else some (inner ++ [(key, .table .header table)])) path .header entries

/-- Make room for an array of tables. -/
def openTables (entries : Entries) (path : List String) (key : String) : Option Entries :=
  alter .implied (fun _ inner =>
    match inner.lookup key with
    | none => some (inner ++ [(key, .tables [])])
    | some (.tables _) => some inner
    | some _ => none) path .header entries

/-- Add an element to an array of tables. -/
def pushTable (entries : Entries) (path : List String) (key : String) (table : Entries) :
    Option Entries :=
  alter .implied (fun _ inner =>
    match inner.lookup key with
    | some (.tables elements) => some (replace inner key (.tables (elements ++ [table])))
    | _ => none) path .header entries

end Entries

mutual

/-- The finished value of a node. -/
def Node.finish : Node → Value
  | .value v => v
  | .table _ entries => .table (finishEntries entries)
  | .tables elements => .array (finishElements elements)

/-- The finished entries of a table. -/
def finishEntries : List (String × Node) → Table
  | [] => []
  | (key, node) :: rest => (key, node.finish) :: finishEntries rest

/-- The finished elements of an array of tables. -/
def finishElements : List (List (String × Node)) → List Value
  | [] => []
  | entries :: rest => .table (finishEntries entries) :: finishElements rest

end

end LabLifecycle.Toml

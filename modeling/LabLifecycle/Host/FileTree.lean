import LabLifecycle.Text.Bytes

/-!
# File trees

A tree of files, directories and symbolic links. A place in it is the list of names on the
way from the root; names are bytes, because a file name need not be text. `FileTree.find`
follows a path from a directory, through links, to the place at its end, where something
stands or where a file could come to be.
-/
namespace LabLifecycle

/-- A place in a file tree: the names on the way from the root. -/
abbrev Place := List Bytes

/-- What stands at a place. A tool is an executable that needs no interpreter; a sink is
always empty, whatever is written to it; a descriptor stands for an open file of the process
that looks at it. -/
inductive FileEntry where
  | file (mode : Nat) (content : Bytes)
  | tool (name : String)
  | sink
  | descriptor (number : Nat)
  | directory
  | link (target : Bytes)
  deriving DecidableEq, Repr

/-- Why a path leads nowhere, or an operation on files fails. -/
inductive FileError where
  | notFound
  | notDirectory
  | isDirectory
  | linkLoop
  | denied
  | notExecutable
  | occupied
  | badDescriptor
  | brokenPipe
  | invalid
  deriving DecidableEq, Repr

namespace FileError

/-- What a file error says. -/
def reason : FileError → String
  | notFound => "No such file or directory"
  | notDirectory => "Not a directory"
  | isDirectory => "Is a directory"
  | linkLoop => "Too many levels of symbolic links"
  | denied => "Permission denied"
  | notExecutable => "Exec format error"
  | occupied => "File exists"
  | badDescriptor => "Bad file descriptor"
  | brokenPipe => "Broken pipe"
  | invalid => "Invalid argument"

/-- The number of a file error. -/
def number : FileError → Nat
  | notFound => 2
  | notDirectory => 20
  | isDirectory => 21
  | linkLoop => 40
  | denied => 13
  | notExecutable => 8
  | occupied => 17
  | badDescriptor => 9
  | brokenPipe => 32
  | invalid => 22

/-- The wording of a file error. -/
def message (e : FileError) : String :=
  e.reason ++ " (os error " ++ toString e.number ++ ")"

end FileError

/-- A file tree. The root is a directory that is not listed. -/
structure FileTree where
  entries : List (Place × FileEntry) := []
  deriving DecidableEq, Repr, Inhabited

/-- The parts of a path between its slashes. -/
def pathParts (path : Bytes) : List Bytes := path.splitOn 0x2F

/-- Whether a path starts at the root. -/
def isAbsolute (path : Bytes) : Bool := path.head? == some 0x2F

/-- The path from the root to a place. -/
def placePath (place : Place) : Bytes :=
  if place.isEmpty then [0x2F] else place.flatMap (0x2F :: ·)

namespace FileTree

/-- What stands at a place. -/
def entry? (t : FileTree) (place : Place) : Option FileEntry :=
  if place.isEmpty then some .directory else t.entries.lookup place

/-- The tree with something put at a place. -/
def put (t : FileTree) (place : Place) (e : FileEntry) : FileTree :=
  ⟨(place, e) :: t.entries.filter (·.1 != place)⟩

/-- The tree with a directory at every place above the given one where nothing stands. -/
def putParents (t : FileTree) (place : Place) : FileTree :=
  (List.range place.length).foldl (fun t n =>
    match t.entry? (place.take n) with
    | some _ => t
    | none => t.put (place.take n) .directory) t

/-- The tree with something put at a place, in a directory. -/
def add (t : FileTree) (place : Place) (e : FileEntry) : FileTree :=
  (t.putParents place).put place e

/-- The names in the directory at a place. -/
def names (t : FileTree) (place : Place) : List Bytes :=
  t.entries.filterMap fun e =>
    match e.1.getLast? with
    | some name => if e.1.dropLast = place then some name else none
    | none => none

/-- The number of links that are followed on one way. -/
def linkLimit : Nat := 40

/-- Follow the parts of a path from a directory. An empty part and a point stay where they
are, two points go up, and at a link it goes `onward` with what the link says. Only the last part
may be missing. -/
def follow (t : FileTree)
    (onward : List Bytes → Place → Except FileError (Place × Option FileEntry)) :
    List Bytes → Place → Except FileError (Place × Option FileEntry)
  | [], place => .ok (place, some .directory)
  | part :: rest, place =>
    if part = [] || part = [0x2E] then t.follow onward rest place
    else if part = [0x2E, 0x2E] then t.follow onward rest place.dropLast
    else
      let next := place ++ [part]
      match t.entry? next with
      | none => if rest.isEmpty then .ok (next, none) else .error .notFound
      | some .directory => t.follow onward rest next
      | some (.link target) =>
        if target.isEmpty then .error .notFound
        else onward (pathParts target ++ rest) (if isAbsolute target then [] else place)
      | some e => if rest.isEmpty then .ok (next, some e) else .error .notDirectory

/-- Follow the parts of a path, and with them a number of links at most. -/
def walk (t : FileTree) :
    Nat → List Bytes → Place → Except FileError (Place × Option FileEntry)
  | 0 => fun _ _ => .error .linkLoop
  | links + 1 => t.follow (t.walk links)

/-- The place that a path leads to from a directory, and what stands there. -/
def find (t : FileTree) (start : Place) (path : Bytes) :
    Except FileError (Place × Option FileEntry) :=
  if path.isEmpty then .error .notFound
  else t.walk (linkLimit + 1) (pathParts path) (if isAbsolute path then [] else start)

/-- What a path leads to from a directory. -/
def resolve (t : FileTree) (start : Place) (path : Bytes) :
    Except FileError (Place × FileEntry) :=
  match t.find start path with
  | .ok (place, some e) => .ok (place, e)
  | .ok (_, none) => .error .notFound
  | .error e => .error e

/-- What stands at the end of a path; if that is a link, the link itself. -/
def unfollowed (t : FileTree) (start : Place) (path : Bytes) : Except FileError FileEntry :=
  let name := (pathParts path).getLastD []
  if name = [] || name = [0x2E] || name = [0x2E, 0x2E] then (t.resolve start path).map (·.2)
  else
    let parent := path.take (path.length - name.length)
    match (if parent.isEmpty then .ok start else (t.resolve start parent).map (·.1)) with
    | .error e => .error e
    | .ok place =>
      match t.entry? (place ++ [name]) with
      | some e => .ok e
      | none => .error .notFound

/-- The content of the file a path leads to. -/
def read (t : FileTree) (start : Place) (path : Bytes) : Except FileError Bytes :=
  match t.resolve start path with
  | .ok (_, .file _ content) => .ok content
  | .ok (_, .directory) => .error .isDirectory
  | .ok _ => .ok []
  | .error e => .error e

/-- The place of the file that a path to be written leads to, and what stands there. A path
that ends in a slash leads to no new file. -/
def target (t : FileTree) (start : Place) (path : Bytes) :
    Except FileError (Place × Option FileEntry) :=
  match t.find start path with
  | .error .notFound => .error (if path.getLast? = some 0x2F then .isDirectory else .notFound)
  | .ok (_, some .directory) => .error .isDirectory
  | found => found

/-- The tree after writing to a path. A file that does not exist comes to be in a directory
that does, also where a link leads to. Tools cannot be written to. -/
def write (t : FileTree) (start : Place) (path content : Bytes) : Except FileError FileTree :=
  match t.target start path with
  | .ok (place, some (.file mode _)) => .ok (t.put place (.file mode content))
  | .ok (place, none) => .ok (t.put place (.file 0o644 content))
  | .ok (_, some (.tool _)) => .error .denied
  | .ok (_, some _) => .ok t
  | .error e => .error e

/-- Whether any of the three execute bits of a mode is set. -/
def hasExecuteBit (mode : Nat) : Bool := mode % 2 == 1 || mode / 8 % 2 == 1 || mode / 64 % 2 == 1

/-- Whether a path leads to an executable file. -/
def isExecutable (t : FileTree) (start : Place) (path : Bytes) : Bool :=
  match t.resolve start path with
  | .ok (_, .file mode _) => hasExecuteBit mode
  | .ok (_, .tool _) => true
  | _ => false

end FileTree
end LabLifecycle

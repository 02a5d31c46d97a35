import LabLifecycle.Engine.Commands
import LabLifecycle.Host.FileTree

/-!
# Looking for commands on a search path

A search path is a list of directories. A command is a plain file name, found in the first
directory in which an executable of that name stands; so no name can lead out of the
directories. Directories that cannot be read are passed over.
-/
namespace LabLifecycle

/-- The directories in the value of a search path variable, between its colons; none if
the variable is not set. -/
def searchPathOf : Option String → List String
  | none => []
  | some value => (value.toList.splitOn ':').map String.ofList

/-- A name that is not empty, is no way to a directory itself, and has no slash in it. -/
def isPlainFileName (name : String) : Bool :=
  name != "" && name != "." && name != ".." && !name.toList.contains '/'

/-- A search path in a file tree, with the directory where relative paths start. -/
structure CommandSearch where
  tree : FileTree
  start : Place := []
  directories : List String

namespace CommandSearch

/-- Whether a path leads to an executable. -/
def isExecutable (s : CommandSearch) (p : CommandPath) : Bool :=
  s.tree.isExecutable s.start (textBytes p.text)

/-- The names in a directory that are text. -/
def names (s : CommandSearch) (directory : String) : List String :=
  match s.tree.resolve s.start (textBytes directory) with
  | .ok (place, .directory) => (s.tree.names place).filterMap Bytes.text?
  | _ => []

/-- What follows a start in a name, if that is anything. -/
def remainder? (start name : String) : Option String :=
  if start.toList.isPrefixOf name.toList && start.length < name.length then
    some (String.ofList (name.toList.drop start.length))
  else none

/-- What follows a start in the names of executables in a directory. -/
def findIn (s : CommandSearch) (start directory : String) : List String :=
  ((s.names directory).filter fun name => s.isExecutable ⟨directory, name⟩).filterMap
    (remainder? start)

/-- What follows a start in the names of executables, in ascending order, each once. -/
def find (s : CommandSearch) (start : String) : List String :=
  (SortedMap.ofList ((s.directories.flatMap (s.findIn start)).map fun n => (n, ()))).keys

/-- The executable of a name. -/
def locate (s : CommandSearch) (command : String) : Option CommandPath :=
  if isPlainFileName command then
    (s.directories.map fun d => CommandPath.mk d command).find? s.isExecutable
  else none

/-- The search as a finder. -/
def finder (s : CommandSearch) : CommandFinder := ⟨s.find, s.locate⟩

end CommandSearch
end LabLifecycle

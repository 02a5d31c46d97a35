import LabLifecycle.Cli.Needs

/-!
# The program

`main` gathers the files that a run of the command line needs, lets `Cli.run` work on them,
and puts the outcome back: two texts, the files that have changed, and the exit code. Commands
are run by the shell and the tools of this library.
-/
namespace LabLifecycle

/-- The workplace with those of some files that can be read. -/
def Workplace.gather (mode : Nat) : List String → Workplace → IO Workplace
  | [], w => return w
  | path :: rest, w => do
    let content ← try some <$> IO.FS.readBinFile path catch _ => pure none
    match content with
    | some bytes => gather mode rest (w.addFile mode path bytes.toList)
    | none => gather mode rest w

/-- The variables that commands get to see besides the search path. -/
def variableNames : List String :=
  ["HOME", "LANG", "LC_ALL", "LOGNAME", "RUST_LOG", "SHELL", "STAGEHAND_CONFIG", "TERM", "TMPDIR",
    "USER"]

/-- The values of some variables. -/
def readVariables : List String → IO (List (String × String))
  | [] => return []
  | name :: rest => do
    let others ← readVariables rest
    return match ← IO.getEnv name with
      | some value => (name, value) :: others
      | none => others

/-- The files of an outcome that differ from those at hand, by their paths. -/
def changedFiles (w : Workplace) (o : Cli.Outcome) : List (String × Bytes) :=
  o.tree.entries.filterMap fun (place, entry) =>
    match entry with
    | .file _ content =>
      if w.tree.entry? place = some entry then none
      else (Bytes.text? (placePath place)).map fun path => (path, content)
    | _ => none

/-- Write files that a run has changed. -/
def copyOut (code : Nat) : List (String × Bytes) → IO UInt32
  | [] => return code.toUInt32
  | (path, content) :: rest => do
    try
      IO.FS.writeBinFile path ⟨content.toArray⟩
      copyOut code rest
    catch _ =>
      IO.eprint (Cli.Failure.writing path .notFound).report
      return 1

/-- Run the command line. -/
def runCommandLine (arguments : List String) : IO UInt32 := do
  let environment ← IO.getEnv "STAGEHAND_CONFIG"
  let request := Cli.Request.ofArguments environment arguments
  let directory := textBytes ((← IO.getEnv "PWD").getD "")
  let place : Place := (pathParts directory).filter (!·.isEmpty)
  let w : Workplace := {
    tree := systemTree.add place .directory
    place := place
    searchPath := ← IO.getEnv "PATH"
    environment := ← readVariables variableNames }
  let w ← w.gather 0o644 (Cli.documentPaths request)
  let w ← w.gather 0o755 (Cli.commandPaths w request)
  let w := ((Cli.outputPath? request).map w.addParents).getD w
  let o := Cli.run w environment arguments
  IO.print o.stdout
  IO.eprint o.stderr
  copyOut o.code (changedFiles w o)

end LabLifecycle

/-- The program. -/
def main (arguments : List String) : IO UInt32 := LabLifecycle.runCommandLine arguments

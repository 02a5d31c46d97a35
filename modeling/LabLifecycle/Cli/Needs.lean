import LabLifecycle.Cli.Run

/-!
# Files that a run needs

Which files a run of the command line looks at is known before it starts: the settings and
the experiment, and then the executables of the apps that these two name. A workplace that
holds them is all that `apply` has to be given. Directories are not read here, so `list` sees
of the external commands only those of default apps.
-/
namespace LabLifecycle

namespace Workplace

/-- The place that a path means if no link is on its way. -/
def placeOf (w : Workplace) (path : String) : Place :=
  let bytes := textBytes path
  (pathParts bytes).foldl (fun place part =>
    if part = [] || part = [0x2E] then place
    else if part = [0x2E, 0x2E] then place.dropLast
    else place ++ [part]) (if isAbsolute bytes then [] else w.place)

/-- The workplace with a file put where a path leads. -/
def addFile (w : Workplace) (mode : Nat) (path : String) (content : Bytes) : Workplace :=
  { w with tree := w.tree.add (w.placeOf path) (.file mode content) }

/-- The workplace with the directory of a path in it. -/
def addParents (w : Workplace) (path : String) : Workplace :=
  { w with tree := w.tree.putParents (w.placeOf path) }

end Workplace

namespace Cli

/-- The file that the outcome of a request is written to. -/
def outputPath? : Option Request → Option String
  | some (.run _ (.apply r)) => r.output
  | _ => none

/-- The documents that a request names. -/
def documentPaths : Option Request → List String
  | some (.run config (.apply r)) => config.toList ++ [r.experiment]
  | some (.run config .list) => config.toList
  | _ => []

/-- The apps that the settings and the experiment of a command name. -/
def appNames (w : Workplace) (c : EngineConfig) : Command → List String
  | .list => c.defaultApps
  | .apply r =>
    match experiment w r.experiment with
    | .ok e => c.defaultApps ++ e.declaredApps
    | .error _ => c.defaultApps

/-- The executables that a request can start. -/
def commandPaths (w : Workplace) : Option Request → List String
  | some (.run config command) =>
    match settings w config with
    | .error _ => []
    | .ok c =>
      (c.directories w.searchPath).flatMap fun directory =>
        (appNames w c command).map fun name =>
          (CommandPath.mk directory (c.commandStart ++ name)).text
  | _ => []

end Cli
end LabLifecycle

import LabLifecycle.Engine.Cancel
import LabLifecycle.Experiment
import LabLifecycle.Failure
import LabLifecycle.Host.Machine
import LabLifecycle.Invocation

/-!
# Apps

An app has a name, an `init` that is told the options of a call, and a hook for every
stage. What an `init` can see and change are the `Surroundings`: the journal that apps keep,
the dry-run switches of external commands, the commands launched so far, and the machine
that these run on. Hooks work on a `Scene`, which is the experiment in its surroundings.

A `Hook` is a tree of steps. Between steps it can wait; only there can the engine take it
down, because its time is up or because the call is cancelled.
-/
namespace LabLifecycle

/-- An executable file: a directory of a search path and a file name in it. -/
structure CommandPath where
  directory : String
  file : String
  deriving DecidableEq, Repr

namespace CommandPath

/-- The path as text. The file name follows the directory after a slash, unless the
directory is empty or ends in one. -/
def text (p : CommandPath) : String :=
  if p.directory.isEmpty || p.directory.endsWith "/" then p.directory ++ p.file
  else p.directory ++ "/" ++ p.file

end CommandPath

/-- A command that is started: the file, its arguments, and what it gets to read. -/
structure Launch where
  path : CommandPath
  arguments : List String
  input : Bytes
  deriving DecidableEq, Repr

/-- What apps share besides the experiment. -/
structure Surroundings where
  journal : List String := []
  dryRuns : SortedMap Bool := SortedMap.empty
  launches : List Launch := []
  machine : Machine := {}

namespace Surroundings

/-- The surroundings with an entry added to the journal. -/
def note (s : Surroundings) (entry : String) : Surroundings :=
  { s with journal := s.journal ++ [entry] }

/-- The surroundings with the switch of an external command set. -/
def switchDryRun (s : Surroundings) (app : String) (enabled : Bool) : Surroundings :=
  { s with dryRuns := s.dryRuns.insert app enabled }

end Surroundings

/-- What hooks can see and change. -/
structure Scene extends Surroundings where
  experiment : Experiment

namespace Scene

/-- The scene with another experiment. -/
def withExperiment (s : Scene) (e : Experiment) : Scene := { s with experiment := e }

/-- The experiment in other surroundings. -/
def within (s : Scene) (r : Surroundings) : Scene := { s with toSurroundings := r }

/-- The scene with its machine at a later moment. -/
def withMachine (s : Scene) (m : Machine) : Scene := { s with machine := m }

/-- The scene with its experiment changed. -/
def update (s : Scene) (change : Experiment → Experiment) : Scene :=
  s.withExperiment (change s.experiment)

/-- The scene with an entry added to the journal. -/
def note (s : Scene) (entry : String) : Scene := s.within (s.toSurroundings.note entry)

/-- Whether the external command of an app is switched to dry runs. -/
def isDryRun (s : Scene) (app : String) : Bool :=
  (s.dryRuns.get? app).getD false

/-- The scene with one more command launched. -/
def launch (s : Scene) (l : Launch) : Scene := { s with launches := s.launches ++ [l] }

end Scene

/-- What a hook does.

* `finish` returns a result;
* `act` changes the scene and goes on with what it sees then;
* `signal` lets something happen to the cancel handle of the call;
* `wait` lets time pass;
* `hang` never returns. -/
inductive Hook where
  | finish (result : HookResult)
  | act (change : Scene → Scene) (next : Scene → Hook)
  | signal (event : HandleEvent) (next : Hook)
  | wait (time : Duration) (next : Hook)
  | hang

namespace Hook

/-- Return without doing anything. -/
def done : Hook := finish (.ok ())

/-- Fail without doing anything. -/
def fail (e : AppError) : Hook := finish (.error e)

/-- Change the scene and go on. -/
def change (f : Scene → Scene) (next : Hook) : Hook := act f fun _ => next

/-- Look at the scene and go on. -/
def look (next : Scene → Hook) : Hook := act id next

end Hook

/-- What an `init` leaves: the surroundings, what happened to the cancel handle, and a
result. -/
structure InitOutcome where
  surroundings : Surroundings
  signals : List HandleEvent := []
  result : HookResult := .ok ()

/-- An app. -/
structure App where
  name : String
  init : Invocation → Surroundings → InitOutcome
  hook : Stage → Hook

namespace App

/-- An app that does nothing at any stage. -/
def plain (name : String) : App where
  name := name
  init _ surroundings := { surroundings := surroundings }
  hook _ := .done

/-- The stand-in for a name that belongs to no app. -/
def missing (name : String) : App :=
  { plain name with hook := fun _ => .fail (.unresolved name) }

end App
end LabLifecycle

import LabLifecycle.Engine.App
import LabLifecycle.ExperimentJson

/-!
# External commands as apps

Any executable can serve as an app. For the app `name` it is called `name` after a fixed
start; it is told the stage, and `--dry-run` if the app is switched to dry runs; it reads
the experiment as JSON, and may write a changed one. A command that fails, or writes
something that is no experiment, leaves the experiment as it was.
-/
namespace LabLifecycle

/-- Where commands can be looked for. -/
structure CommandFinder where
  /-- What follows a given start in the names of executables. Used for listing only. -/
  find : String → List String
  /-- The executable of a name. -/
  locate : String → Option CommandPath

/-- How the input reached a command. A command need not read all of it. -/
inductive Feed where
  | complete
  | cutShort
  | failed (message : String)
  deriving DecidableEq, Repr

/-- How a command ended: its exit code, none after a signal, and what it wrote. -/
structure Completed where
  code : Option Nat
  stdout : Bytes := []
  stderr : Bytes := []
  feed : Feed := .complete
  deriving DecidableEq, Repr

/-- How far a command has come after a while: it has ended, or it cannot be waited for, or it
goes on, or nothing on its machine will ever happen again. -/
inductive Progress where
  | ended (result : Completed)
  | lost (message : String)
  | goesOn
  | stuck
  deriving DecidableEq, Repr

/-- A place where commands are looked for and run, on a machine.

* `finder` looks for commands among the files of a machine;
* `start` starts a command, or tells why that cannot be done;
* `proceed` lets a command run for a while, and tells how long that took. -/
structure CommandHost where
  finder : Machine → CommandFinder
  start : Machine → Launch → Except String (Machine × Running)
  proceed : Running → Machine → Machine × Duration × Progress

/-- The argument that asks a command for a dry run. -/
def dryRunFlag : String := "--dry-run"

/-- An app that is an external command. -/
structure ExternalApp where
  name : String
  start : String
  host : CommandHost

namespace ExternalApp

/-- The name of the executable. -/
def command (a : ExternalApp) : String := a.start ++ a.name

/-- The arguments of a command. -/
def arguments (stage : Stage) (dryRun : Bool) : List String :=
  stage.name :: if dryRun then [dryRunFlag] else []

/-- The experiment after a command, or why it failed. An unsuccessful end counts before
trouble with the input, and that before what was written. -/
def conclude (command : String) (r : Completed) (e : Experiment) :
    Except AppError Experiment :=
  match r.code with
  | none => .error (failure "signal")
  | some (n + 1) => .error (failure (toString (n + 1)))
  | some 0 =>
    match r.feed with
    | .failed message => .error (.io message)
    | .complete | .cutShort =>
      if Bytes.isBlank r.stdout then .ok e
      else (Experiment.decode r.stdout).mapError .json
where
  /-- The failure of a command that ended with a code. -/
  failure (code : String) : AppError :=
    .commandFailed command code (trimSpace (Bytes.lossyText r.stderr))

/-- Take over what a command made of the experiment. -/
def adopt (command : String) (r : Completed) : Hook :=
  .look fun scene =>
    match conclude command r scene.experiment with
    | .ok e => .change (·.withExperiment e) .done
    | .error failure => .fail failure

/-- The number of whiles for which a command is waited for. -/
def patience : Nat := 0xFFFFFFFFFF

/-- Wait for a command. -/
def await (a : ExternalApp) (r : Running) : Nat → Hook
  | 0 => .hang
  | whiles + 1 => .look fun scene =>
    let (m, time, progress) := a.host.proceed r scene.machine
    .change (·.withMachine m) <| .wait time <|
      match progress with
      | .ended result => adopt a.command result
      | .lost message => .fail (.io message)
      | .goesOn => a.await r whiles
      | .stuck => .hang

/-- Start a command and wait for it. -/
def launch (a : ExternalApp) (l : Launch) : Hook :=
  .look fun scene =>
    match a.host.start scene.machine l with
    | .error message => .change (·.launch l) (.fail (.io message))
    | .ok (m, r) => .change (fun s => (s.launch l).withMachine m) (a.await r patience)

/-- The hook of a stage. -/
def hook (a : ExternalApp) (stage : Stage) : Hook :=
  .look fun scene =>
    match (a.host.finder scene.machine).locate a.command with
    | none => .fail (.unresolved a.name)
    | some path =>
      a.launch {
        path := path
        arguments := arguments stage (scene.isDryRun a.name)
        input := scene.experiment.print .compact }

/-- The app. Its `init` sets the dry-run switch. -/
def app (a : ExternalApp) : App where
  name := a.name
  init i surroundings := { surroundings := surroundings.switchDryRun a.name i.dryRun }
  hook := a.hook

end ExternalApp
end LabLifecycle

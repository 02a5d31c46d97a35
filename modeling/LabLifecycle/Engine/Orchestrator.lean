import LabLifecycle.Engine.Registry
import LabLifecycle.Engine.Session

/-!
# Applying apps to an experiment

A call runs the hooks of one stage in two passes: first the default apps, in order; then the
apps that the scenario declares when the first pass is over, in order and without the default
ones. A scenario app is told the options of the call before its hook.

Any failure of a default app ends the call, and so does any failure of a scenario app other
than not being available. After the passes of the stages that set up an experiment, open
fields of the topology get their defaults. Nothing is rolled back.
-/
namespace LabLifecycle

/-- Why a call ends early: with an error, or because it waits for ever. -/
inductive Halt where
  | failed (error : ApplyError)
  | pending
  deriving DecidableEq, Repr

/-- The run and the stage of a call. -/
structure Run where
  id : RunId
  stage : Stage
  deriving DecidableEq, Repr

namespace Session

/-- Report on an app. -/
def report (s : Session) (run : Run) (app : String) (pass : Pass) (status : AppStatus) :
    Session :=
  s.emit (.reported ⟨run.id, app, run.stage, pass, status⟩)

/-- Notice something. -/
def notice (s : Session) (n : Notice) : Session := s.emit (.noticed n)

/-- Tell an app the options of the call. That an app complains is noticed and no more. -/
def prepare (s : Session) (name : String) (app : App) (options : Invocation) : Session :=
  let s := s.emit (.called (.init name options))
  let outcome := app.init options s.scene.toSurroundings
  let s := outcome.signals.foldl signal (s.act (·.within outcome.surroundings))
  match outcome.result with
  | .ok _ => s
  | .error e => s.notice (.initFailed name e)

end Session

/-- A registry, and the time limit for every hook. -/
structure Orchestrator where
  registry : Registry
  limit : Option Duration := none

namespace Orchestrator

/-- Run the hook of an app, unless the call is cancelled already. -/
def runApp (o : Orchestrator) (run : Run) (pass : Pass) (name : String) (app : App)
    (s : Session) : Session × Except Halt HookResult :=
  if s.channel.fired then (s, .error (.failed (.cancelled run.stage)))
  else
    match (s.emit (.called (.hook name run.stage pass))).runHook o.limit (app.hook run.stage) with
    | (s, .finished result) => (s, .ok result)
    | (s, .interrupted) =>
      ((s.notice (.interrupted app.name)).report run app.name pass .failed,
        .error (.failed (.cancelled run.stage)))
    | (s, .pending) => (s, .error .pending)

/-- The pass of the default apps. -/
def applyDefaults (o : Orchestrator) (run : Run) :
    List App → Session → Session × Except Halt Unit
  | [], s => (s, .ok ())
  | app :: rest, s =>
    match o.runApp run .default app.name app s with
    | (s, .error halt) => (s, .error halt)
    | (s, .ok (.ok _)) => o.applyDefaults run rest (s.report run app.name .default .ok)
    | (s, .ok (.error e)) =>
      (s.report run app.name .default .failed,
        .error (.failed (.defaultApp app.name run.stage e)))

/-- The pass of the declared apps. -/
def applyDeclared (o : Orchestrator) (run : Run) (dryRun : Bool) :
    List String → Session → Session × Except Halt Unit
  | [], s => (s, .ok ())
  | name :: rest, s =>
    if o.registry.isDefault name then
      o.applyDeclared run dryRun rest (s.notice (.alreadyApplied name))
    else
      let app := o.registry.resolve name
      let s := s.prepare name app (Invocation.forApp name dryRun)
      match o.runApp run .scenario name app s with
      | (s, .error halt) => (s, .error halt)
      | (s, .ok result) =>
        let s := s.report run name .scenario (AppStatus.of result)
        match result with
        | .ok _ | .error (.unresolved _) => o.applyDeclared run dryRun rest s
        | .error e => (s, .error (.failed (.scenarioApp name run.stage e)))

/-- The end of a call in which nothing failed. -/
def finish (stage : Stage) (s : Session) : Session :=
  let s :=
    if stage.normalizes then (s.act (·.update Experiment.setDefaults)).notice .defaultsApplied
    else s
  s.notice .applied

/-- A call for a stage. -/
def applyStage (o : Orchestrator) (run : Run) (dryRun : Bool) (s : Session) :
    Session × Except Halt Unit :=
  let s := s.notice (.opened run.stage s.scene.experiment.name dryRun)
  match o.applyDefaults run o.registry.defaults s with
  | (s, .error halt) => (s, .error halt)
  | (s, .ok _) =>
    match o.applyDeclared run dryRun s.scene.experiment.declaredApps s with
    | (s, .error halt) => (s, .error halt)
    | (s, .ok _) => (finish run.stage s, .ok ())

/-- A call with options. -/
def apply (o : Orchestrator) (id : RunId) (options : List InvocationOption) (s : Session) :
    Session × Except Halt Unit :=
  let invocation := Invocation.ofOptions options
  match invocation.stage with
  | none => (s, .error (.failed .missingStage))
  | some stage => o.applyStage ⟨id, stage⟩ invocation.dryRun s

end Orchestrator
end LabLifecycle

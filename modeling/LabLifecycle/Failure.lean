import LabLifecycle.Json.Decode
import LabLifecycle.Stage
import LabLifecycle.Text.Duration

/-!
# Failures

An app's hook can fail in six ways; only an app that is not available at all is no failure
of the experiment. Applying apps to an experiment fails with the first failure of an app
that counts, with the app and the stage, or because it was cancelled.
-/
namespace LabLifecycle

/-- The wording of why a document is not accepted. -/
def Json.Fault.message : Json.Fault → String
  | .flaw .malformed => "malformed document"
  | .flaw .truncated => "unexpected end of document"
  | .mismatch m => m.message

/-- Why a hook of an app failed. -/
inductive AppError where
  | unresolved (name : String)
  | hook (message : String)
  | commandFailed (command code stderr : String)
  | timedOut (limit : Duration)
  | io (message : String)
  | json (fault : Json.Fault)
  deriving DecidableEq, Repr

namespace AppError

/-- The app is not available. -/
def isUnresolved : AppError → Bool
  | unresolved _ => true
  | _ => false

/-- The wording of a failure. -/
def message : AppError → String
  | unresolved name => "app '" ++ name ++ "' not found"
  | hook message => message
  | commandFailed command code stderr =>
    "command " ++ command ++ " exited with " ++ code ++ ": " ++ stderr
  | timedOut limit => "hook timed out after " ++ limit.text
  | io message => "io: " ++ message
  | json fault => "experiment json: " ++ fault.message

end AppError

/-- How a hook ends. -/
abbrev HookResult := Except AppError Unit

/-- Why apps could not be applied to an experiment. -/
inductive ApplyError where
  | missingStage
  | defaultApp (app : String) (stage : Stage) (source : AppError)
  | scenarioApp (app : String) (stage : Stage) (source : AppError)
  | cancelled (stage : Stage)
  deriving DecidableEq, Repr

namespace ApplyError

/-- The app that failed. -/
def app? : ApplyError → Option String
  | defaultApp app .. | scenarioApp app .. => some app
  | missingStage | cancelled _ => none

/-- The stage for which apps were applied. -/
def stage? : ApplyError → Option Stage
  | defaultApp _ stage _ | scenarioApp _ stage _ | cancelled stage => some stage
  | missingStage => none

/-- The failure of the app. -/
def source? : ApplyError → Option AppError
  | defaultApp _ _ source | scenarioApp _ _ source => some source
  | missingStage | cancelled _ => none

/-- The wording of what went wrong. -/
def message : ApplyError → String
  | missingStage => "no stage given for app invocation"
  | defaultApp app stage source =>
    "applying default app " ++ app ++ " for stage " ++ stage.name ++ ": " ++ source.message
  | scenarioApp app stage source =>
    "applying experiment app " ++ app ++ " for stage " ++ stage.name ++ ": " ++ source.message
  | cancelled stage => "applying apps for stage " ++ stage.name ++ " cancelled"

end ApplyError
end LabLifecycle

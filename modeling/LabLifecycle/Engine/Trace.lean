import LabLifecycle.Invocation
import LabLifecycle.Status

/-!
# What happens during a call

A call leaves a trace: the inits and hooks it starts, the reports it makes, and what it
notices besides. Reports are all that a status sink sees; the log holds the reports and the
notices.
-/
namespace LabLifecycle

/-- What a call notices besides how the apps did. -/
inductive Notice where
  | opened (stage : Stage) (experiment : String) (dryRun : Bool)
  | initFailed (app : String) (error : AppError)
  | alreadyApplied (app : String)
  | interrupted (app : String)
  | defaultsApplied
  | applied
  deriving DecidableEq, Repr

/-- A call of an app: what its `init` is told, or which of its hooks runs in which pass. -/
inductive AppCall where
  | init (app : String) (options : Invocation)
  | hook (app : String) (stage : Stage) (pass : Pass)
  deriving DecidableEq, Repr

/-- Something that happens during a call. -/
inductive Event where
  | called (call : AppCall)
  | reported (report : Report)
  | noticed (notice : Notice)
  deriving DecidableEq, Repr

/-- Everything that happens during a call, in order. -/
abbrev Trace := List Event

namespace Trace

/-- The calls of apps. -/
def calls (t : Trace) : List AppCall := t.filterMap fun
  | .called c => some c
  | _ => none

/-- The reports made. -/
def reports (t : Trace) : List Report := t.filterMap fun
  | .reported r => some r
  | _ => none

end Trace

/-! ### Console lines -/

namespace Report

/-- The mark of a status on the console. -/
def mark : AppStatus → String
  | .ok => "✓"
  | .failed => "✗"
  | .unresolved => "?"

/-- What the console calls an app of a pass. -/
def kind : Pass → String
  | .default => "default"
  | .scenario => "experiment"

/-- The console line of a report. -/
def line (r : Report) : String :=
  "[" ++ mark r.status ++ "] '" ++ r.app ++ "' " ++ kind r.pass ++ " app (" ++
    r.stage.name ++ ")"

end Report

/-- The console output of some reports, a line for each. -/
def consoleText (reports : List Report) : String :=
  String.join (reports.map fun r => r.line ++ "\n")

/-! ### Log entries -/

/-- How much a log entry matters. -/
inductive LogLevel where
  | debug
  | info
  | warn
  | error
  deriving DecidableEq, Repr

/-- The name of a level. -/
def LogLevel.name : LogLevel → String
  | debug => "debug"
  | info => "info"
  | warn => "warn"
  | error => "error"

/-- An entry of the log: the start of a call, or a message with named details. -/
inductive LogEntry where
  | span (stage : Stage) (experiment : String) (dryRun : Bool)
  | event (level : LogLevel) (message : String) (details : List (String × String))
  deriving DecidableEq, Repr

/-- The level and the message of a status in the log. -/
def AppStatus.logged : AppStatus → LogLevel × String
  | .ok => (.info, "app applied")
  | .unresolved => (.warn, "app not found, skipped")
  | .failed => (.error, "app failed")

/-- The log entry of a report. -/
def Report.logEntry (r : Report) : LogEntry :=
  .event r.status.logged.1 r.status.logged.2 [
    ("run_id", r.run.display), ("app", r.app), ("stage", r.stage.name), ("pass", r.pass.name),
    ("status", r.status.name)]

/-- The log entry of a notice. -/
def Notice.logEntry : Notice → LogEntry
  | opened stage experiment dryRun => .span stage experiment dryRun
  | initFailed app error =>
    .event .warn "app init failed, running stage hook anyway"
      [("app", app), ("error", error.message)]
  | alreadyApplied app =>
    .event .debug "default app listed in scenario, already applied" [("app", app)]
  | interrupted app => .event .warn "cancelled while app was running" [("app", app)]
  | defaultsApplied => .event .debug "topology defaults applied" []
  | applied => .event .info "apps applied" []

/-- The log of a call. -/
def Trace.log (t : Trace) : List LogEntry := t.filterMap fun
  | .called _ => none
  | .reported r => some r.logEntry
  | .noticed n => some n.logEntry

end LabLifecycle

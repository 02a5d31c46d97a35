import LabLifecycle.Failure
import LabLifecycle.RunId
import LabLifecycle.Timestamp

/-!
# Status records

Every hook that is started yields one report: the run, the app, the stage, the pass and how
it went. A record is a report with the time at which it was made.
-/
namespace LabLifecycle

open Json (Value Decoder Record)

/-- How an app did. An app that is not available did not fail. -/
inductive AppStatus where
  | ok
  | failed
  | unresolved
  deriving DecidableEq, Repr

namespace AppStatus

/-- The name of a status. -/
def name : AppStatus → String
  | ok => "ok"
  | failed => "failed"
  | unresolved => "unresolved"

/-- All of them with their names. -/
def named : List (String × AppStatus) := [ok, failed, unresolved].map fun s => (s.name, s)

/-- The status of how a hook ended. -/
def of : HookResult → AppStatus
  | .ok _ => ok
  | .error e => if e.isUnresolved then unresolved else failed

/-- The status as JSON. -/
def toJson (s : AppStatus) : Value := .text s.name

/-- Decode a status. -/
def ofJson : Decoder AppStatus := .variant named

end AppStatus

/-- The pass in which an app runs: by default, or because the scenario declares it. -/
inductive Pass where
  | default
  | scenario
  deriving DecidableEq, Repr

namespace Pass

/-- The name of a pass. -/
def name : Pass → String
  | .default => "default"
  | .scenario => "scenario"

/-- Both of them with their names. -/
def named : List (String × Pass) := [.default, .scenario].map fun p => (p.name, p)

/-- The pass as JSON. -/
def toJson (p : Pass) : Value := .text p.name

/-- Decode a pass. -/
def ofJson : Decoder Pass := .variant named

end Pass

/-- The stage as JSON. -/
def Stage.toJson (s : Stage) : Value := .text s.name

/-- Decode a stage. -/
def Stage.ofJson : Decoder Stage := .variant Stage.named

/-- What is reported about a hook that was started. -/
structure Report where
  run : RunId
  app : String
  stage : Stage
  pass : Pass
  status : AppStatus
  deriving DecidableEq, Repr

/-- A report with the time at which it was made. -/
structure StatusRecord extends Report where
  time : Timestamp
  deriving DecidableEq

namespace StatusRecord

/-- The record as JSON. -/
def toJson (r : StatusRecord) : Value := .object [
  ("run_id", r.run.toJson), ("app", .text r.app), ("stage", r.stage.toJson),
  ("pass", r.pass.toJson), ("status", r.status.toJson), ("at", r.time.toJson)]

/-- A record under way. -/
structure Draft where
  run : Option RunId := none
  app : Option String := none
  stage : Option Stage := none
  pass : Option Pass := none
  status : Option AppStatus := none
  time : Option Timestamp := none

/-- The start of the calendar's first century. -/
def epoch : Timestamp where
  date := ⟨1, 1, 1, by decide, by decide, by decide, by decide, by decide⟩
  second := 0
  nanos := 0
  second_lt := by decide
  nanos_lt := by decide
  leap := by decide

/-- The fields of a record. -/
def record : Record Draft StatusRecord where
  title := "StatusRecord"
  fields := [
    .slot "run_id" true (·.run) (fun d v => { d with run := v }) RunId.ofJson,
    .slot "app" true (·.app) (fun d v => { d with app := v }) .text,
    .slot "stage" true (·.stage) (fun d v => { d with stage := v }) Stage.ofJson,
    .slot "pass" true (·.pass) (fun d v => { d with pass := v }) Pass.ofJson,
    .slot "status" true (·.status) (fun d v => { d with status := v }) AppStatus.ofJson,
    .slot "at" true (·.time) (fun d v => { d with time := v }) Timestamp.ofJson]
  blank := {}
  build d := {
    run := d.run.getD default, app := d.app.getD "", stage := d.stage.getD default,
    pass := d.pass.getD .default, status := d.status.getD .ok, time := d.time.getD epoch }

/-- Decode a record. -/
def ofJson : Decoder StatusRecord := record.decode

end StatusRecord
end LabLifecycle

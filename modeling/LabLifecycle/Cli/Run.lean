import LabLifecycle.Cli.Arguments
import LabLifecycle.Config
import LabLifecycle.Engine.Orchestrator
import LabLifecycle.Host.Workplace

/-!
# Running the command line

A run of the command line starts from a workplace, arguments and the settings file named in
the environment, and yields an exit code, two texts and a file tree. `apply` reads an
experiment, applies its apps, tells on standard error what became of each, and writes the
experiment to a file or to standard output. If anything fails, nothing is written.
-/
namespace LabLifecycle.Cli

/-! ### Failures -/

/-- Why a command fails. -/
inductive Failure where
  | loading (path : String) (error : ConfigError)
  | reading (path : String) (error : FileError)
  | parsing (path : String) (fault : Json.Fault)
  | settingUp (error : ConfigError)
  | building (error : BuildError)
  | applying (error : ApplyError)
  | unending
  | writing (path : String) (error : FileError)
  deriving DecidableEq, Repr

namespace Failure

/-- What failed. -/
def message : Failure → String
  | loading path _ => "loading " ++ path
  | reading path _ => "reading " ++ path
  | parsing path _ => "parsing " ++ path
  | settingUp _ => "setting up default apps"
  | building _ => "building app registry"
  | applying e => e.message
  | unending => "applying apps does not end"
  | writing path _ => "writing " ++ path

/-- The causes of trouble with an app. -/
def appCauses (e : AppError) : List String :=
  e.message :: match e with
    | .io message => [message]
    | .json fault => [fault.message]
    | _ => []

/-- The causes of trouble with the settings. -/
def configCauses (path : String) (e : ConfigError) : List String :=
  e.message path :: match e with
    | .read message => [message]
    | .unfit mismatch => [mismatch.message]
    | .defaultApp _ source => appCauses source
    | .malformed | .emptyStart => []

/-- Why it failed, from the nearest cause to the last. -/
def causes : Failure → List String
  | loading path e => configCauses path e
  | reading _ e | writing _ e => [e.message]
  | parsing _ fault => [fault.message]
  | settingUp e => configCauses "" e
  | building e => [e.message]
  | applying e => (e.source?.map appCauses).getD []
  | unending => []

/-- A text with something before its first line, and blanks before the others. -/
def hanging (start text : String) : String :=
  start ++ ("\n" ++ String.ofList (List.replicate start.length ' ')).intercalate
    (text.splitOn "\n")

/-- The lines for causes. They are numbered if there is more than one. -/
def causeLines : List String → List String
  | [] => []
  | [cause] => [hanging "    " cause]
  | causes => causes.zipIdx.map fun c =>
    let number := toString c.2
    hanging (String.ofList (List.replicate (5 - number.length) ' ') ++ number ++ ": ") c.1

/-- The report of a failure. -/
def report (f : Failure) : String :=
  let causes := causeLines f.causes
  "Error: " ++ f.message ++ "\n" ++
    if causes.isEmpty then ""
    else "\nCaused by:\n" ++ String.join (causes.map (· ++ "\n"))

end Failure

/-! ### Outcomes -/

/-- What a run leaves. -/
structure Outcome where
  code : Nat := 0
  stdout : String := ""
  stderr : String := ""
  tree : FileTree

namespace Outcome

/-- The outcome of a failure, after some text on standard error. -/
def failed (tree : FileTree) (told : String) (f : Failure) : Outcome where
  code := 1
  stderr := told ++ f.report
  tree := tree

/-- The outcome of mistaken arguments. -/
def mistaken (tree : FileTree) : Outcome where
  code := 2
  stderr := "error: the arguments do not fit\n\nFor more information, try '--help'.\n"
  tree := tree

end Outcome

/-- The name and the version of the program. -/
def versionText : String := "stagehand-cli 0.1.0\n"

/-- The help. -/
def helpText : String :=
  "Apply lifecycle apps to an experiment\n\n" ++
  "Usage: stagehand [--config <CONFIG>] <COMMAND>\n\n" ++
  "Commands:\n" ++
  "  apply --stage <STAGE> --experiment <FILE> [--dry-run] [--output <FILE>]\n" ++
  "        Apply default and scenario apps for one stage\n" ++
  "  list  List app names a scenario can select\n" ++
  "  help  Print this message\n"

/-! ### Commands -/

/-- The settings to use: those in the file given, or the usual ones. -/
def settings (w : Workplace) : Option String → Except Failure EngineConfig
  | none => .ok {}
  | some path =>
    (EngineConfig.load ((w.tree.read w.place (textBytes path)).mapError FileError.message)).mapError
      (.loading path)

/-- The host that the settings describe. -/
def hostOf (w : Workplace) (c : EngineConfig) : CommandHost :=
  w.host (c.directories w.searchPath)

/-- The registry that the settings describe, and the surroundings after its default apps
were told their options. -/
def registry (c : EngineConfig) (host : CommandHost) (surroundings : Surroundings) :
    Except Failure (Registry × Surroundings) := do
  let (b, surroundings) ← (c.registryBuilder host surroundings).mapError .settingUp
  let r ← b.build.mapError .building
  return (r, surroundings)

/-- The experiment in a file. -/
def experiment (w : Workplace) (path : String) : Except Failure Experiment := do
  let content ← (w.tree.read w.place (textBytes path)).mapError (.reading path)
  (Experiment.decode content).mapError (.parsing path)

/-- The stream of the run that a path to be written stands for. -/
def streamOf? (w : Workplace) (files : FileTree) (path : String) : Option Nat :=
  match files.target w.place (textBytes path) with
  | .ok (_, some (.descriptor number)) => some number
  | _ => none

/-- What `apply` writes: an experiment on lines of its own. -/
def document (e : Experiment) : String := e.text .indented ++ "\n"

/-- Put an experiment where it is asked for, into files as the commands left them. A path can
stand for standard output or standard error. -/
def deliver (w : Workplace) (files : FileTree) (told : String) (e : Experiment) :
    Option String → Outcome
  | none => { stdout := document e, stderr := told, tree := files }
  | some path =>
    match streamOf? w files path with
    | some 1 => { stdout := document e, stderr := told, tree := files }
    | some 2 => { stderr := told ++ document e, tree := files }
    | _ =>
      match files.write w.place (textBytes path) (textBytes (document e)) with
      | .ok tree => { stderr := told, tree := tree }
      | .error failure => .failed files told (.writing path failure)

/-- The outcome of a call. -/
def conclude (w : Workplace) (output : Option String) (s : Session) :
    Except Halt Unit → Outcome
  | .ok _ =>
    deliver w s.scene.machine.files (consoleText s.trace.reports) s.scene.experiment output
  | .error (.failed e) =>
    .failed s.scene.machine.files (consoleText s.trace.reports) (.applying e)
  | .error .pending => .failed s.scene.machine.files (consoleText s.trace.reports) .unending

/-- Carry out `apply`. Nothing that it leaves shows the number of the run. -/
def apply (w : Workplace) (c : EngineConfig) (r : ApplyRequest) : Outcome :=
  let c := { c with dryRun := c.dryRun || r.dryRun }
  let ready : Except Failure (Registry × Scene) := do
    let e ← experiment w r.experiment
    let (registry, surroundings) ← registry c (hostOf w c) { machine := w.machine }
    return (registry, { surroundings with experiment := e })
  match ready with
  | .error failure => .failed w.tree "" failure
  | .ok (registry, scene) =>
    let (s, completion) := (Orchestrator.mk registry c.hookTimeout).apply (RunId.ofNat 0)
      [.stage r.stage, .dryRun c.dryRun] { scene := scene, channel := {} }
    conclude w r.output s completion

/-- Carry out `list`. -/
def list (w : Workplace) (c : EngineConfig) : Outcome :=
  let host := hostOf w c
  match registry c host { machine := w.machine } with
  | .error failure => .failed w.tree "" failure
  | .ok (r, _) =>
    { stdout := String.join ((r.names (host.finder w.machine)).map (· ++ "\n")), tree := w.tree }

/-- Carry out what is asked for. -/
def carryOut (w : Workplace) : Request → Outcome
  | .help => { stdout := helpText, tree := w.tree }
  | .version => { stdout := versionText, tree := w.tree }
  | .run config command =>
    match settings w config with
    | .error failure => .failed w.tree "" failure
    | .ok c =>
      match command with
      | .apply r => apply w c r
      | .list => list w c

/-- Run the command line. -/
def run (w : Workplace) (environment : Option String) (arguments : List String) : Outcome :=
  match Request.ofArguments environment arguments with
  | none => .mistaken w.tree
  | some request => carryOut w request

end LabLifecycle.Cli

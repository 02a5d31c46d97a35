import LabLifecycle.Engine.App

/-!
# Scripted apps

An app whose `init` and hooks are given as data. Everything it does besides goes into the
journal, so what a call did can be read there.
-/
namespace LabLifecycle

/-- An action of a scripted hook. -/
inductive ScriptAction where
  | addNode (hostname : String)
  | see (hostname : String)
  | label (hostname key value : String)
  | rename (name : String)
  | setScenario (apps : Option (List String))
  | setDefaults
  | clearNodes
  | sleep (time : Duration)
  | hang
  | cancel
  | fail (error : AppError)
  deriving DecidableEq, Repr

/-- What a scripted `init` does besides making its note. -/
inductive ScriptInit where
  | succeed
  | cancel
  | fail (error : AppError)
  deriving DecidableEq, Repr

/-- A scripted app: a tag that tells apps of one name apart, its `init`, the actions for
some stages, and those for all other stages. -/
structure Script where
  name : String
  tag : Option String := none
  init : ScriptInit := .succeed
  stages : List (Stage × List ScriptAction) := []
  otherwise : List ScriptAction := []
  deriving DecidableEq, Repr

namespace ScriptAction

/-- Whether the first node of a host name has its type filled in. -/
def isDefaulted (e : Experiment) (hostname : String) : Bool :=
  (e.spec.topology.node? hostname).any (·.vmType.isSome)

/-- The words for a truth value. -/
def word : Bool → String
  | true => "true"
  | false => "false"

/-- Take an action for an app and go on. -/
def perform (app : String) : ScriptAction → Hook → Hook
  | addNode hostname, next => .change (·.update (·.withNode { hostname := hostname })) next
  | see hostname, next =>
    .change (fun s => s.note
      (app ++ " sees " ++ hostname ++ " defaulted=" ++ word (isDefaulted s.experiment hostname)))
      next
  | label hostname key value, next =>
    .change (·.update (·.updateNode hostname (·.withLabel key value))) next
  | rename name, next => .change (·.update (·.rename name)) next
  | setScenario apps, next =>
    .change (·.update (·.withScenario (apps.map Scenario.ofNames))) next
  | setDefaults, next => .change (·.update Experiment.setDefaults) next
  | clearNodes, next => .change (·.update (·.withNodes [])) next
  | sleep time, next => .wait time next
  | hang, _ => .hang
  | cancel, next => .signal .cancel next
  | fail error, _ => .fail error

end ScriptAction

namespace Script

/-- The name in the journal. -/
def journalName (s : Script) : String :=
  match s.tag with
  | some tag => s.name ++ "#" ++ tag
  | none => s.name

/-- The actions for a stage. -/
def actions (s : Script) (stage : Stage) : List ScriptAction :=
  (s.stages.lookup stage).getD s.otherwise

/-- The hook of a stage. -/
def hook (s : Script) (stage : Stage) : Hook :=
  .change (·.note (s.journalName ++ ":" ++ stage.name)) <|
    (s.actions stage).foldr (ScriptAction.perform s.name) .done

/-- The journal entry of an `init`. -/
def initNote (s : Script) (i : Invocation) : String :=
  "init:" ++ s.name ++ " name=" ++ i.name.getD "-" ++ " dry_run=" ++ ScriptAction.word i.dryRun ++
    " stage=" ++ (i.stage.map Stage.name).getD "-"

/-- The app. -/
def app (s : Script) : App where
  name := s.name
  init i surroundings :=
    let noted := surroundings.note (s.initNote i)
    match s.init with
    | .succeed => { surroundings := noted }
    | .cancel => { surroundings := noted, signals := [.cancel] }
    | .fail error => { surroundings := noted, result := .error error }
  hook := s.hook

end Script
end LabLifecycle

import LabLifecycle.Engine.Scripted
import LabLifecycle.Proofs.Hook.Launches
import LabLifecycle.Proofs.Hook.Twins

/-!
# Apps without a memory

Two scenes are level if they differ in nothing but what was there before: in older entries of
the journal, in commands launched earlier, and in switches of commands that are not known to be
set. An app without a memory does not tell level scenes apart and keeps them level. A scripted
app is of this kind. The command of an app is as well where the switch of that app is known.
-/
namespace LabLifecycle

/-- The switches that are known are set as known. -/
def Surroundings.Told (known : String → Option Bool) (s : Surroundings) : Prop :=
  ∀ name dryRun, known name = some dryRun → (s.dryRuns.get? name).getD false = dryRun

/-- The scenes agree but for what two surroundings had already, and in both the known switches
are set as known. -/
structure Scene.Level (known : String → Option Bool) (old old' : Surroundings) (s s' : Scene) :
    Prop where
  experiment : s'.experiment = s.experiment
  machine : s'.machine = s.machine
  journal : ∃ entries, s.journal = old.journal ++ entries ∧ s'.journal = old'.journal ++ entries
  launches : ∃ launched, s.launches = old.launches ++ launched ∧
    s'.launches = old'.launches ++ launched
  told : s.toSurroundings.Told known
  told' : s'.toSurroundings.Told known

namespace Scene.Level
variable {known : String → Option Bool} {old old' : Surroundings} {s s' : Scene}

theorem note (h : Level known old old' s s') (entry : String) :
    Level known old old' (s.note entry) (s'.note entry) where
  experiment := h.experiment
  machine := h.machine
  journal := by
    obtain ⟨entries, hjournal, hjournal'⟩ := h.journal
    refine ⟨entries ++ [entry], ?_, ?_⟩
    · rw [← List.append_assoc, ← hjournal]
      rfl
    · rw [← List.append_assoc, ← hjournal']
      rfl
  launches := h.launches
  told := h.told
  told' := h.told'

theorem launch (h : Level known old old' s s') (l : Launch) :
    Level known old old' (s.launch l) (s'.launch l) where
  experiment := h.experiment
  machine := h.machine
  journal := h.journal
  launches := by
    obtain ⟨launched, hlaunches, hlaunches'⟩ := h.launches
    refine ⟨launched ++ [l], ?_, ?_⟩
    · rw [← List.append_assoc, ← hlaunches]
      rfl
    · rw [← List.append_assoc, ← hlaunches']
      rfl
  told := h.told
  told' := h.told'

theorem withExperiment (h : Level known old old' s s') (e : Experiment) :
    Level known old old' (s.withExperiment e) (s'.withExperiment e) :=
  ⟨rfl, h.machine, h.journal, h.launches, h.told, h.told'⟩

theorem withMachine (h : Level known old old' s s') (m : Machine) :
    Level known old old' (s.withMachine m) (s'.withMachine m) :=
  ⟨h.experiment, rfl, h.journal, h.launches, h.told, h.told'⟩

theorem update (h : Level known old old' s s') (change : Experiment → Experiment) :
    Level known old old' (s.update change) (s'.update change) := by
  rw [Scene.update, Scene.update, h.experiment]
  exact h.withExperiment _

/-- A switch that is known is the same in both scenes. -/
theorem isDryRun_eq (h : Level known old old' s s') {name : String} {dryRun : Bool}
    (hknown : known name = some dryRun) : s'.isDryRun name = s.isDryRun name :=
  (h.told' name dryRun hknown).trans (h.told name dryRun hknown).symm

end Scene.Level

/-! ### Scripted apps -/

/-- An app that does not tell level scenes apart, whatever is known about switches. -/
structure App.Stateless (app : App) : Prop where
  init : ∀ known old old' options s s', Scene.Level known old old' s s' →
    let outcome := app.init options s.toSurroundings
    let outcome' := app.init options s'.toSurroundings
    Scene.Level known old old' (s.within outcome.surroundings) (s'.within outcome'.surroundings) ∧
      outcome'.signals = outcome.signals ∧ outcome'.result = outcome.result
  hook : ∀ known old old' stage,
    Hook.Twin (Scene.Level known old old') (app.hook stage) (app.hook stage)

/-- The stand-in for a missing app has no memory either. -/
theorem App.stateless_missing (name : String) : (App.missing name).Stateless where
  init _ _ _ _ _ _ h := ⟨h, rfl, rfl⟩
  hook _ _ _ _ := .finish _

section
variable {known : String → Option Bool} {old old' : Surroundings}

/-- An action takes the same step in level scenes. -/
theorem ScriptAction.twin_perform (app : String) (action : ScriptAction) {next : Hook}
    (hnext : Hook.Twin (Scene.Level known old old') next next) :
    Hook.Twin (Scene.Level known old old') (action.perform app next)
      (action.perform app next) := by
  cases action with
  | see hostname =>
    refine .change (fun s s' h => ?_) hnext
    rw [h.experiment]
    exact h.note _
  | addNode | label | rename | setScenario | setDefaults | clearNodes =>
    exact .change (fun s s' h => h.update _) hnext
  | sleep time => exact .wait time hnext
  | hang => exact .hang
  | cancel => exact .signal .cancel hnext
  | fail error => exact .finish _

theorem Script.twin_hook (s : Script) (stage : Stage) :
    Hook.Twin (Scene.Level known old old') (s.hook stage) (s.hook stage) := by
  refine .change (fun _ _ h => h.note _) ?_
  induction s.actions stage with
  | nil => exact .finish _
  | cons action rest ih => exact action.twin_perform s.name ih

theorem Script.stateless (s : Script) : s.app.Stateless where
  init known old old' options scene scene' h := by
    simp only [Script.app]
    cases s.init with
    | succeed => exact ⟨h.note _, rfl, rfl⟩
    | cancel => exact ⟨h.note _, rfl, rfl⟩
    | fail error => exact ⟨h.note _, rfl, rfl⟩
  hook known old old' stage := s.twin_hook stage

/-! ### External commands -/

namespace ExternalApp
variable (a : ExternalApp)

theorem twin_adopt (command : String) (r : Completed) :
    Hook.Twin (Scene.Level known old old') (adopt command r) (adopt command r) := by
  refine .look fun s s' h => ?_
  rw [h.experiment]
  split
  · exact .change (fun s s' h => h.withExperiment _) (.finish _)
  · exact .finish _

theorem twin_await (r : Running) (whiles : Nat) :
    Hook.Twin (Scene.Level known old old') (a.await r whiles) (a.await r whiles) := by
  induction whiles with
  | zero => exact .hang
  | succ whiles ih =>
    rw [await_succ]
    refine .look fun s s' h => ?_
    rw [h.machine]
    refine .change (fun s s' h => h.withMachine _) (.wait _ ?_)
    cases (a.host.proceed r s.machine).2.2 with
    | ended result => exact twin_adopt a.command result
    | lost message => exact .finish _
    | goesOn => exact ih
    | stuck => exact .hang

/-- The command of an app whose switch is known is run alike in level scenes. -/
theorem twin_hook {dryRun : Bool} (hknown : known a.name = some dryRun) (stage : Stage) :
    Hook.Twin (Scene.Level known old old') (a.hook stage) (a.hook stage) := by
  refine .look fun s s' h => ?_
  rw [h.machine, h.experiment, h.isDryRun_eq hknown]
  split
  · exact .finish _
  · refine .look fun t t' h => ?_
    rw [h.machine]
    split
    · exact .change (fun _ _ h => h.launch _) (.finish _)
    · exact .change (fun _ _ h => (h.launch _).withMachine _) (a.twin_await _ _)

end ExternalApp
end
end LabLifecycle

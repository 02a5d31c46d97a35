import LabLifecycle.Engine.Commands
import LabLifecycle.Engine.Scripted
import LabLifecycle.Proofs.Hook.Twins

/-!
# Apps that overlook the scenario

An app overlooks the scenario if its hooks neither look at it nor change it: they do not tell
apart two scenes that differ in the scenario and, for the rest, have surroundings that are alike.
Which surroundings are alike is left open; an `init` must not tell them apart either. A scripted
app that does not set the scenario overlooks it, and so does the command of an app that is
nowhere to be found.
-/
namespace LabLifecycle

/-- The second scene has another scenario than the first one, in surroundings that are alike. -/
structure Scene.Reframed (alike : Surroundings → Surroundings → Prop)
    (scenario scenario' : Option Scenario) (s s' : Scene) : Prop where
  surroundings : alike s.toSurroundings s'.toSurroundings
  scenario : s.experiment.spec.scenario = scenario
  experiment : s'.experiment = s.experiment.withScenario scenario'

/-- The app tells apart neither scenarios nor surroundings that are alike. -/
structure App.Overlooks (alike : Surroundings → Surroundings → Prop) (app : App) : Prop where
  init : ∀ options s s', alike s s' →
    alike (app.init options s).surroundings (app.init options s').surroundings ∧
      (app.init options s').signals = (app.init options s).signals ∧
      (app.init options s').result = (app.init options s).result
  hook : ∀ stage scenario scenario',
    Hook.Twin (Scene.Reframed alike scenario scenario') (app.hook stage) (app.hook stage)

section
variable {alike : Surroundings → Surroundings → Prop} {scenario scenario' : Option Scenario}
  {s s' : Scene}

/-- A change of the experiment that goes without the scenario can be made in both scenes. -/
theorem Scene.Reframed.update (h : s.Reframed alike scenario scenario' s')
    {change : Experiment → Experiment}
    (hkeeps : ∀ e, (change e).spec.scenario = e.spec.scenario)
    (hchange : ∀ e scenario, change (e.withScenario scenario) = (change e).withScenario scenario) :
    (s.update change).Reframed alike scenario scenario' (s'.update change) where
  surroundings := h.surroundings
  scenario := (hkeeps _).trans h.scenario
  experiment := (congrArg change h.experiment).trans (hchange _ _)

/-- Filling in defaults goes without the scenario. -/
theorem Scene.Reframed.setDefaults (h : s.Reframed alike scenario scenario' s') :
    (s.update Experiment.setDefaults).Reframed alike scenario scenario'
      (s'.update Experiment.setDefaults) :=
  h.update (fun _ => rfl) fun _ _ => rfl

/-! ### Scripted apps -/

/-- The surroundings differ in the switches of commands at most. -/
structure Surroundings.SameButSwitches (s s' : Surroundings) : Prop where
  journal : s'.journal = s.journal
  launches : s'.launches = s.launches
  machine : s'.machine = s.machine

theorem Surroundings.SameButSwitches.note {s s' : Surroundings} (h : s.SameButSwitches s')
    (entry : String) : (s.note entry).SameButSwitches (s'.note entry) :=
  ⟨congrArg (· ++ [entry]) h.journal, h.launches, h.machine⟩

/-- An action other than setting the scenario takes the same step in both scenes. -/
theorem ScriptAction.overlooks_perform
    (hnote : ∀ s s' entry, alike s s' → alike (s.note entry) (s'.note entry)) (app : String)
    {action : ScriptAction} (haction : ∀ apps, action ≠ .setScenario apps) {next : Hook}
    (hnext : Hook.Twin (Scene.Reframed alike scenario scenario') next next) :
    Hook.Twin (Scene.Reframed alike scenario scenario') (action.perform app next)
      (action.perform app next) := by
  cases action with
  | see hostname =>
    refine .change (fun s s' h => ?_) hnext
    have hdefaulted : ScriptAction.isDefaulted s'.experiment hostname =
        ScriptAction.isDefaulted s.experiment hostname := by
      rw [h.experiment]
      rfl
    rw [hdefaulted]
    exact ⟨hnote _ _ _ h.surroundings, h.scenario, h.experiment⟩
  | setScenario apps => exact absurd rfl (haction apps)
  | addNode | label | rename | setDefaults | clearNodes =>
    exact .change (fun s s' h => h.update (fun _ => rfl) fun _ _ => rfl) hnext
  | sleep time => exact .wait time hnext
  | hang => exact .hang
  | cancel => exact .signal .cancel hnext
  | fail error => exact .finish _

/-- A scripted app that never sets the scenario overlooks it. -/
theorem Script.overlooks
    (hnote : ∀ s s' entry, alike s s' → alike (s.note entry) (s'.note entry)) {script : Script}
    (hscript : ∀ stage apps, .setScenario apps ∉ script.actions stage) :
    script.app.Overlooks alike where
  init options s s' h := by
    simp only [Script.app]
    cases script.init with
    | succeed => exact ⟨hnote _ _ _ h, rfl, rfl⟩
    | cancel => exact ⟨hnote _ _ _ h, rfl, rfl⟩
    | fail error => exact ⟨hnote _ _ _ h, rfl, rfl⟩
  hook stage scenario scenario' := by
    refine .change (fun s s' h => ⟨hnote _ _ _ h.surroundings, h.scenario, h.experiment⟩) ?_
    have hactions := hscript stage
    generalize script.actions stage = actions at hactions ⊢
    induction actions with
    | nil => exact .finish _
    | cons action rest ih =>
      refine action.overlooks_perform hnote script.name (fun apps heq => ?_)
        (ih fun apps hmem => hactions apps (List.mem_cons_of_mem action hmem))
      exact hactions apps (heq ▸ List.mem_cons_self ..)

/-! ### Apps that are not available -/

/-- The stand-in for a missing app overlooks the scenario, as it overlooks everything. -/
theorem App.overlooks_missing (name : String) : (App.missing name).Overlooks alike where
  init _ _ _ h := ⟨h, rfl, rfl⟩
  hook _ _ _ := .finish _

/-- It does not matter to the likeness how the switch of a name is set. -/
def Indifferent (alike : Surroundings → Surroundings → Prop) (name : String) : Prop :=
  ∀ s s' dryRun, alike s s' →
    alike (s.switchDryRun name dryRun) s' ∧ alike s (s'.switchDryRun name dryRun)

theorem Surroundings.SameButSwitches.indifferent (name : String) :
    Indifferent Surroundings.SameButSwitches name :=
  fun _ _ _ h => ⟨⟨h.journal, h.launches, h.machine⟩, ⟨h.journal, h.launches, h.machine⟩⟩

/-- The command of the app is not found, whatever surroundings are alike. -/
def ExternalApp.Nowhere (alike : Surroundings → Surroundings → Prop) (a : ExternalApp) : Prop :=
  ∀ s s', alike s s' → (a.host.finder s.machine).locate a.command = none ∧
    (a.host.finder s'.machine).locate a.command = none

/-- The app of a command that is nowhere overlooks the scenario. -/
theorem ExternalApp.Nowhere.overlooks {a : ExternalApp} (hnowhere : a.Nowhere alike)
    (hswitch : Indifferent alike a.name) : a.app.Overlooks alike where
  init options s s' h :=
    ⟨(hswitch _ _ _ (hswitch _ _ options.dryRun h).2).1, rfl, rfl⟩
  hook stage scenario scenario' := by
    refine .look fun s s' h => ?_
    obtain ⟨hlocate, hlocate'⟩ := hnowhere _ _ h.surroundings
    rw [hlocate, hlocate']
    exact .finish _

end
end LabLifecycle

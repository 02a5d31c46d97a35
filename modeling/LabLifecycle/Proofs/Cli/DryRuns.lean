import LabLifecycle.Cli.Run
import LabLifecycle.Proofs.Call.Invariants
import LabLifecycle.Proofs.Call.Reports
import LabLifecycle.Proofs.Hook.Launches
import LabLifecycle.Proofs.Registry.Settings

/-!
# Dry runs on the command line

Whether an app does a dry run is its switch, and switches are set in two places: for default apps
when they are registered, and for all others before each of their hooks. The command line has
both set to the same value, so all commands of a run are started as dry runs, or none of them.
-/
namespace LabLifecycle

/-- All commands were started with the same arguments, and the apps of some names are switched
to the same for those to come. -/
structure Scene.Uniform (names : List String) (stage : Stage) (dryRun : Bool) (scene : Scene) :
    Prop where
  launched : ∀ l ∈ scene.launches, l.arguments = ExternalApp.arguments stage dryRun
  switched : ∀ name ∈ names, scene.isDryRun name = dryRun

namespace ExternalApp
variable {a : ExternalApp} {x : Slot} {dryRun : Bool}

/-- An app that is told the options has its switch set to them, and others keep theirs. -/
theorem isDryRun_arrive (happ : x.app = a.app) (hpass : x.pass = .scenario) (scene : Scene)
    (name : String) : (x.arrive dryRun scene).isDryRun name =
      if name = a.name then dryRun else scene.isDryRun name := by
  have harrive : (x.arrive dryRun scene).dryRuns = scene.dryRuns.insert a.name dryRun := by
    simp only [Slot.arrive, hpass, happ]
    rfl
  rw [Scene.isDryRun, harrive, SortedMap.get?_insert]
  split
  · rfl
  · rfl

/-- The command of a default app is started as its switch says, and that of any other app as
the options of the call say. -/
theorem keeps_uniform {names : List String} (stage : Stage) (happ : x.app = a.app)
    (hname : x.pass = .default → a.name ∈ names) :
    x.Keeps (Scene.Uniform names stage dryRun) stage dryRun := by
  have harrive : ∀ scene, scene.Uniform names stage dryRun →
      (x.arrive dryRun scene).Uniform names stage dryRun ∧
        (x.arrive dryRun scene).isDryRun a.name = dryRun := by
    intro scene hscene
    cases hpass : x.pass with
    | default =>
      have hsame : x.arrive dryRun scene = scene := by simp only [Slot.arrive, hpass]
      rw [hsame]
      exact ⟨hscene, hscene.switched _ (hname hpass)⟩
    | scenario =>
      have hlaunches : (x.arrive dryRun scene).launches = scene.launches := by
        simp only [Slot.arrive, hpass, happ]
        rfl
      refine ⟨⟨by rw [hlaunches]; exact hscene.launched, fun name hmem => ?_⟩, ?_⟩
      · rw [isDryRun_arrive happ hpass]
        split
        · rfl
        · exact hscene.switched name hmem
      · rw [isDryRun_arrive happ hpass, if_pos rfl]
  refine ⟨fun scene hscene => (harrive scene hscene).1, fun deadline scene s hscene hs => ?_⟩
  obtain ⟨⟨hlaunched, hswitched⟩, hdryRun⟩ := harrive scene hscene
  rw [← hs] at hlaunched hswitched hdryRun
  obtain ⟨hlaunches, -, hdryRuns⟩ := a.hook_leaves stage deadline s
  rw [happ]
  refine ⟨fun l hl => ?_, fun name hmem => ?_⟩
  · have hl : l ∈ s.scene.launches ++ (a.launch? stage s.scene).toList := hlaunches ▸ hl
    rcases List.mem_append.mp hl with hl | hl
    · exact hlaunched l hl
    · obtain ⟨path, -, rfl⟩ := Option.map_eq_some_iff.mp (Option.mem_toList.mp hl)
      exact congrArg (arguments stage) hdryRun
  · rw [← hswitched name hmem]
    exact congrArg (fun switches => (switches.get? name).getD false) hdryRuns

end ExternalApp

namespace Cli

/-- The settings of a run: it does dry runs if the settings or the command line ask for it. -/
def forRun (c : EngineConfig) (r : ApplyRequest) : EngineConfig :=
  { c with dryRun := c.dryRun || r.dryRun }

/-- The call that `apply` makes: of an experiment, on a host with a machine. It may be cancelled
from outside. -/
def call (c : EngineConfig) (host : CommandHost) (stage : Stage) (m : Machine) (e : Experiment)
    (channel : Channel) (upcoming : Option (Nat × HandleEvent)) :
    Except Failure (Session × Except Halt Unit) :=
  (registry c host { machine := m }).map fun ready =>
    (Orchestrator.mk ready.1 c.hookTimeout).apply (RunId.ofNat 0) [.stage stage, .dryRun c.dryRun]
      { scene := { ready.2 with experiment := e }, channel := channel, upcoming := upcoming }

/-- The outcome of a call, or of what went wrong before it. -/
def outcomeOf (w : Workplace) (output : Option String) :
    Except Failure (Session × Except Halt Unit) → Outcome
  | .error failure => .failed w.tree "" failure
  | .ok ended => conclude w output ended.1 ended.2

/-- `apply` makes its call as soon as it has the experiment, and starts no command otherwise. -/
theorem apply_eq_call (w : Workplace) (c : EngineConfig) (r : ApplyRequest) :
    apply w c r = outcomeOf w r.output (do
      let e ← experiment w r.experiment
      call (forRun c r) (hostOf w c) r.stage w.machine e {} none) := by
  have hsettings : ({ c with dryRun := c.dryRun || r.dryRun } : EngineConfig) = forRun c r := rfl
  have hhost : hostOf w (forRun c r) = hostOf w c := rfl
  simp only [apply, call, hsettings, hhost, bind, Except.bind]
  cases experiment w r.experiment with
  | error failure => rfl
  | ok e =>
    cases registry (forRun c r) (hostOf w c) { machine := w.machine } with
    | error failure => rfl
    | ok ready => rfl

/-- Settings always lead to a registry, with the default apps told whether they do dry runs. -/
theorem registry_eq_ok (c : EngineConfig) (host : CommandHost) (s : Surroundings) :
    ∃ r, registry c host s = .ok (r, c.tell c.defaultApps s) ∧
      Registry.ofSteps (c.steps host) = .ok r ∧
      (∀ name, name ∈ r.defaultNames ↔ name ∈ c.defaultApps) ∧
      ∀ name, r.resolve name = (c.external host name).app := by
  obtain ⟨r, hbuilt, hnames, hresolve, -⟩ := c.ofSteps_steps host
  have hbuild : (RegistryBuilder.run {} (c.steps host)).build = .ok r := hbuilt
  refine ⟨r, ?_, hbuilt, fun name => ?_, hresolve⟩
  · rw [registry, c.registryBuilder_eq host s]
    simp only [Except.mapError, bind, Except.bind, hbuild]
    rfl
  · rw [hnames, List.mem_eraseDups]

/-- What no external command spoils holds behind the call. Every name stands for an external
command, even if a default command has just added it to the scenario. -/
theorem call_keeps {P : Scene → Prop} (c : EngineConfig) (host : CommandHost) (stage : Stage)
    (m : Machine) (e : Experiment) (channel : Channel) (upcoming : Option (Nat × HandleEvent))
    (hslots : ∀ x : Slot, x.app = (c.external host x.name).app →
      (x.pass = .default → x.name ∈ c.defaultApps) → x.Keeps P stage c.dryRun)
    (hdefaults : ∀ scene, P scene → P (scene.update Experiment.setDefaults))
    (hstart : P { c.tell c.defaultApps { machine := m } with experiment := e }) :
    ∃ s completion, call c host stage m e channel upcoming = .ok (s, completion) ∧ P s.scene := by
  obtain ⟨r, hregistry, hbuilt, hnames, hresolve⟩ := registry_eq_ok c host { machine := m }
  have hconsistent := Registry.consistent_ofSteps hbuilt
  rw [call, hregistry]
  refine ⟨_, _, rfl, ?_⟩
  refine Orchestrator.apply_keeps (P := P) ⟨r, c.hookTimeout⟩ (RunId.ofNat 0)
    [.stage stage, .dryRun c.dryRun] (fun stage' hstage x hx => ?_) hdefaults hstart
  cases hstage
  rcases hx with hx | ⟨e, hx⟩
  · obtain ⟨happ, hname⟩ := hx.resolves hconsistent
    exact hslots x (happ.trans (hresolve x.name)) fun _ => (hnames x.name).mp hname
  · refine hslots x (hx.resolves.1.trans (hresolve x.name)) fun hpass => ?_
    rw [hx.1] at hpass
    cases hpass

/-- The call starts all its commands alike, whoever they are and whatever they do. -/
theorem uniform_call (c : EngineConfig) (host : CommandHost) (stage : Stage) (m : Machine)
    (e : Experiment) (channel : Channel) (upcoming : Option (Nat × HandleEvent)) :
    ∃ s completion, call c host stage m e channel upcoming = .ok (s, completion) ∧
      s.scene.Uniform c.defaultApps stage c.dryRun := by
  refine call_keeps c host stage m e channel upcoming
    (fun x happ hname => ExternalApp.keeps_uniform stage happ hname)
    (fun _ h => ⟨h.launched, h.switched⟩) ⟨fun l hl => ?_, fun name hname => ?_⟩
  · obtain ⟨-, hlaunches, -⟩ := c.tell_leaves c.defaultApps { machine := m }
    have hl : l ∈ (c.tell c.defaultApps { machine := m }).launches := hl
    rw [hlaunches] at hl
    cases hl
  · have hswitch := c.dryRuns_tell c.defaultApps { machine := m } name
    rw [if_pos hname] at hswitch
    exact congrArg (·.getD false) hswitch

/-- A run of `apply` starts all its commands, of default apps and of others and whatever they do,
with the stage as their argument, and `--dry-run` behind it exactly if the settings or the
command line ask for it. -/
theorem launches_uniform (w : Workplace) (c : EngineConfig) (r : ApplyRequest) :
    (apply w c r = outcomeOf w r.output (do
      let e ← experiment w r.experiment
      call (forRun c r) (hostOf w c) r.stage w.machine e {} none)) ∧
    ∀ host m e channel upcoming, ∃ s completion,
      call (forRun c r) host r.stage m e channel upcoming = .ok (s, completion) ∧
      ∀ l ∈ s.scene.launches,
        l.arguments = r.stage.name :: if c.dryRun || r.dryRun then ["--dry-run"] else [] := by
  refine ⟨apply_eq_call w c r, fun host m e channel upcoming => ?_⟩
  obtain ⟨s, completion, hcall, hlaunched, -⟩ :=
    uniform_call (forRun c r) host r.stage m e channel upcoming
  exact ⟨s, completion, hcall, hlaunched⟩

end Cli

/-! ### A dry run of a default command and of one that it declares -/

namespace Sample

/-- Settings with a default command. -/
def routine : EngineConfig where
  defaultApps := ["audit"]

/-- What is asked for is a dry run. -/
def rehearsal : Cli.ApplyRequest where
  stage := .configure
  experiment := "lab.json"
  dryRun := true

/-- A place where every command makes the scenario declare a command. -/
def recruiting : CommandHost := workshop {
  code := some 0
  stdout := ((Experiment.new "lab").withScenario (some (.ofNames ["tap"]))).print .compact }

end Sample

namespace Cli

/-- The default command and the one that it has declared are both started for a dry run. -/
theorem sample_rehearsal : ∃ s completion,
    call (forRun Sample.routine Sample.rehearsal) Sample.recruiting .configure {}
      (Experiment.new "lab") {} none = .ok (s, completion) ∧
    s.scene.launches.map (·.path.file) = ["stagehand-app-audit", "stagehand-app-tap"] ∧
    ∀ l ∈ s.scene.launches, l.arguments = ["configure", "--dry-run"] := by
  obtain ⟨s, completion, hcall, harguments⟩ :=
    (launches_uniform { tree := {} } Sample.routine Sample.rehearsal).2 Sample.recruiting {}
      (Experiment.new "lab") {} none
  have hfiles : (call (forRun Sample.routine Sample.rehearsal) Sample.recruiting .configure {}
      (Experiment.new "lab") {} none).map
        (fun ended => ended.1.scene.launches.map (·.path.file)) =
      .ok ["stagehand-app-audit", "stagehand-app-tap"] := by
    rfl
  have hcall' : call (forRun Sample.routine Sample.rehearsal) Sample.recruiting .configure {}
      (Experiment.new "lab") {} none = .ok (s, completion) := hcall
  refine ⟨s, completion, hcall', ?_, harguments⟩
  rw [hcall'] at hfiles
  exact Except.ok.inj hfiles

end Cli
end LabLifecycle

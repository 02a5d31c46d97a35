import LabLifecycle.Proofs.Call.Invariants
import LabLifecycle.Proofs.Call.Reports
import LabLifecycle.Proofs.Call.Repetition
import LabLifecycle.Proofs.Hook.Launches
import LabLifecycle.Proofs.Host.CommandSearch
import LabLifecycle.Proofs.Registry.Settings

/-!
# What is listed is what is resolved

In a registry that settings describe every hook is one of an external command. So a declared app
is unresolved exactly if its command is not located when its hook starts. As long as the
directories of the search path keep their executables, the names that are not listed are those
that stay unresolved.
-/
namespace LabLifecycle

/-! ### Hooks of external commands -/

namespace EngineConfig
variable {c : EngineConfig} {host : CommandHost} {r : Registry}

/-- The app of every slot is the external command of its name. -/
theorem app_of_has (hbuilt : Registry.ofSteps (c.steps host) = .ok r) {x : Slot} (hx : r.Has x) :
    x.app = (c.external host x.name).app := by
  obtain ⟨r', hr', -, hresolve, -⟩ := c.ofSteps_steps host
  obtain rfl : r' = r := Except.ok.inj (hr'.symm.trans hbuilt)
  have hconsistent := Registry.consistent_ofSteps hbuilt
  rcases hx with hx | ⟨e, hx⟩
  · exact (hx.resolves hconsistent).1.trans (hresolve x.name)
  · exact hx.resolves.1.trans (hresolve x.name)

end EngineConfig

namespace Visit

theorem status?_eq_unresolved_iff {v : Visit} (hpass : v.slot.pass = .scenario) :
    v.status? = some .unresolved ↔ ∃ name, v.ended = .finished (.error (.unresolved name)) := by
  unfold status?
  rw [hpass]
  split <;> simp_all

/-- The hook is one of the external command of its name, and it really ran. -/
structure OfCommand (c : EngineConfig) (host : CommandHost) (limit : Option Duration)
    (stage : Stage) (v : Visit) : Prop where
  app_eq : v.slot.app = (c.external host v.slot.name).app
  genuine : v.Genuine limit stage

namespace OfCommand
variable {c : EngineConfig} {host : CommandHost} {limit : Option Duration} {stage : Stage}
  {v : Visit}

/-- A declared app is unresolved exactly if its command is not located when its hook starts. -/
theorem unresolved_iff (h : v.OfCommand c host limit stage) (hpass : v.slot.pass = .scenario) :
    v.status? = some .unresolved ↔
      (host.finder v.before.scene.machine).locate (c.commandStart ++ v.slot.name) = none := by
  have hrun := h.genuine.run_eq
  rw [h.app_eq] at hrun
  have hunresolved : ∀ name, v.ended = .finished (.error (.unresolved name)) ↔
      (host.finder v.before.scene.machine).locate (c.commandStart ++ v.slot.name) = none ∧
        name = v.slot.name := by
    intro name
    have hhook := (c.external host v.slot.name).hook_unresolved_iff stage (v.deadline limit)
      v.before name
    have hrun : ((c.external host v.slot.name).hook stage).run (v.deadline limit) v.before =
      (v.after, v.ended) := hrun
    rwa [hrun] at hhook
  simp only [status?_eq_unresolved_iff hpass, hunresolved, exists_and_left, exists_eq, and_true]

end OfCommand
end Visit

namespace Orchestrator
variable (o : Orchestrator) {c : EngineConfig} {host : CommandHost}

/-- The hooks of a call are those of external commands, and there is a report about each of
them. -/
theorem callVisits_ofCommand (hbuilt : Registry.ofSteps (c.steps host) = .ok o.registry)
    (id : RunId) {options : List InvocationOption} {stage : Stage}
    (hstage : (Invocation.ofOptions options).stage = some stage) (s : Session) :
    (∀ v ∈ o.callVisits id options s, v.OfCommand c host o.limit stage) ∧
      (o.apply id options s).1.trace.hooks =
        s.trace.hooks ++ (o.callVisits id options s).map (·.slot.call stage) ∧
      (o.apply id options s).1.trace.reports =
        s.trace.reports ++ (o.callVisits id options s).filterMap (·.record? ⟨id, stage⟩) := by
  obtain ⟨first, t, second, u, hvisits, htold, -, hend⟩ := o.callVisits_told id hstage s
  have hcommand : ∀ v ∈ first ++ second, v.OfCommand c host o.limit stage := by
    refine fun v hv => ⟨EngineConfig.app_of_has hbuilt ?_, htold.chronicle.genuine v hv⟩
    rcases List.mem_append.mp hv with hv | hv
    · exact .inl (htold.first_slots v hv)
    · exact .inr ⟨_, htold.second_slots v hv⟩
  have hrecords : (first ++ second).filterMap (·.report? ⟨id, stage⟩) =
      (first ++ second).filterMap (·.record? ⟨id, stage⟩) := by
    refine List.filterMap_congr fun v hv => Visit.report?_eq_record? _ ?_
    rw [(hcommand v hv).app_eq]
    rfl
  rw [hvisits, hend.trace.2.1, hend.trace.2.2, ← hrecords]
  exact ⟨hcommand, htold.chronicle.hooks, htold.chronicle.reports⟩

end Orchestrator

/-! ### Listed names -/

namespace CommandSearch

/-- The same directories are searched, and they have the same executables. -/
structure Agrees (s t : CommandSearch) : Prop where
  directories : t.directories = s.directories
  isExecutable : ∀ directory ∈ s.directories, ∀ name,
    t.isExecutable ⟨directory, name⟩ = s.isExecutable ⟨directory, name⟩

theorem Agrees.isSome_locate_iff {s t : CommandSearch} (h : s.Agrees t) (command : String) :
    (t.locate command).isSome ↔ (s.locate command).isSome := by
  rw [CommandSearch.isSome_locate_iff, CommandSearch.isSome_locate_iff, h.directories]
  refine and_congr_right fun _ => exists_congr fun directory => and_congr_right fun hmem => ?_
  rw [h.isExecutable directory hmem]

/-- The commands that a search lists under a start, in ascending order and each once, are those
that it locates behind it. In calls of a registry that settings describe, as long as the
directories keep their executables, a declared app is unresolved exactly if its name is not
listed: every declared name that is not a default one comes up in its turn, and there is a report
about each that has come up. -/
theorem listed_iff_resolved {tree : FileTree} (hnames : tree.WellNamed) (place : Place)
    {directories : List String} (hdirectories : ∀ directory ∈ directories, directory ≠ "") :
    let search : FileTree → CommandSearch := fun t => ⟨t, place, directories⟩
    (∀ start, ((search tree).find start).Pairwise (· < ·) ∧
      ∀ name, name ≠ "" →
        (name ∈ (search tree).find start ↔ ((search tree).locate (start ++ name)).isSome)) ∧
    ∀ (c : EngineConfig) (host : CommandHost) (o : Orchestrator),
      (∀ m, host.finder m = (search m.files).finder) →
      Registry.ofSteps (c.steps host) = .ok o.registry →
      ∀ id options s stage dryRun, (Invocation.ofOptions options).stage = some stage →
        (Invocation.ofOptions options).dryRun = dryRun →
        (∀ v ∈ o.callVisits id options s,
          (search tree).Agrees (search v.before.scene.machine.files)) →
        (o.apply id options s).1.trace.reports =
          s.trace.reports ++ (o.callVisits id options s).filterMap (·.record? ⟨id, stage⟩) ∧
        (o.callVisits id options s).map (·.slot.name) <+: o.registry.defaultNames ++
          o.registry.others (o.between stage dryRun s.scene).declaredApps ∧
        ((o.apply id options s).2 = .ok () → (o.callVisits id options s).map (·.slot.name) =
          o.registry.defaultNames ++
            o.registry.others (o.between stage dryRun s.scene).declaredApps) ∧
        ∀ v ∈ o.callVisits id options s, v.slot.pass = .scenario → v.slot.name ≠ "" →
          (v.status? = some .unresolved ↔
            v.slot.name ∉ (search tree).find c.commandStart) := by
  intro search
  have hlisted : ∀ start name, name ≠ "" →
      (name ∈ (search tree).find start ↔ ((search tree).locate (start ++ name)).isSome) :=
    fun start name hname => mem_find_iff_isSome_locate hnames hdirectories hname
  refine ⟨fun start => ⟨SortedMap.pairwise_keys _, hlisted start⟩, ?_⟩
  intro c host o hfinder hbuilt id options s stage dryRun hstage hdryRun hagrees
  obtain ⟨hcommands, -, hreports⟩ := o.callVisits_ofCommand hbuilt id hstage s
  obtain ⟨hbegins, hall⟩ := o.callVisits_follow_names (Registry.consistent_ofSteps hbuilt) id
    hstage hdryRun s
  refine ⟨hreports, hbegins, hall, fun v hv hpass hname => ?_⟩
  rw [(hcommands v hv).unresolved_iff hpass, hlisted _ _ hname, hfinder,
    ← (hagrees v hv).isSome_locate_iff, Option.not_isSome_iff_eq_none]
  rfl

end CommandSearch

/-! ### A directory with a command that cannot be run -/

namespace Sample

/-- A directory with two commands, of which one can be run. -/
def shelf : FileTree where
  entries := [
    ([textBytes "bin"], .directory),
    ([textBytes "bin", textBytes "stagehand-app-notes"], .file 0o644 []),
    ([textBytes "bin", textBytes "stagehand-app-tap"], .tool "true")]

/-- A place where commands are looked for in that directory, and succeed without a word. -/
def counter : CommandHost :=
  { workshop { code := some 0 } with
    finder := fun m => CommandSearch.finder ⟨m.files, [], ["bin"]⟩ }

/-- A call of some apps, on a machine with some files. -/
def errand (files : FileTree) (names : List String) : Session where
  scene := {
    experiment := (Experiment.new "lab").withScenario (some (.ofNames names))
    machine := { files := files } }

/-- The registry of the usual settings on a host, without a time limit. -/
def desk (host : CommandHost) : Orchestrator where
  registry := ⟨SortedMap.empty, [],
    some fun name => (ExternalApp.mk name defaultCommandStart host).app, defaultCommandStart⟩

end Sample

namespace CommandSearch

/-- One command is listed. The other one and a command that is not there stay unresolved. -/
theorem sample_shelf :
    let visits := (Sample.desk Sample.counter).callVisits default [.stage .configure]
      (Sample.errand Sample.shelf ["notes", "ghost", "tap"])
    CommandSearch.find ⟨Sample.shelf, [], ["bin"]⟩ defaultCommandStart = ["tap"] ∧
    visits.map (·.slot.name) = ["notes", "ghost", "tap"] ∧
    ∀ v ∈ visits, v.slot.pass = .scenario ∧
      (v.status? = some .unresolved ↔ v.slot.name ≠ "tap") := by
  intro visits
  have hfind : CommandSearch.find ⟨Sample.shelf, [], ["bin"]⟩ defaultCommandStart = ["tap"] := by
    decide +kernel
  have hvisit : ∀ v ∈ visits, v.slot.name ≠ "" ∧ v.slot.pass = .scenario ∧
      v.before.scene.machine.files = Sample.shelf := by
    decide +kernel
  have hnames : Sample.shelf.WellNamed := by decide +kernel
  have hdirectories : ∀ directory ∈ ["bin"], directory ≠ "" := by decide
  obtain ⟨-, hcalls⟩ := listed_iff_resolved hnames [] hdirectories
  obtain ⟨-, -, -, hresolved⟩ := hcalls {} Sample.counter (Sample.desk Sample.counter)
    (fun m => rfl) rfl default [.stage .configure]
    (Sample.errand Sample.shelf ["notes", "ghost", "tap"]) .configure false rfl rfl
    fun v hv => by
      rw [(hvisit v hv).2.2]
      exact ⟨rfl, fun _ _ _ => rfl⟩
  refine ⟨hfind, by decide +kernel, fun v hv => ?_⟩
  obtain ⟨hname, hpass, -⟩ := hvisit v hv
  have hiff : v.status? = some .unresolved ↔
      v.slot.name ∉ CommandSearch.find ⟨Sample.shelf, [], ["bin"]⟩ defaultCommandStart :=
    hresolved v hv hpass hname
  rw [hfind, List.mem_singleton] at hiff
  exact ⟨hpass, hiff⟩

end CommandSearch
end LabLifecycle

import LabLifecycle.Host.Workplace
import LabLifecycle.Proofs.Call.CommandVisits

/-!
# What a call runs

A call starts one command for every hook whose command is located, and it starts nothing else.
The path of a started command is a plain file name, the start of the settings and the name of the
app, in the first directory of the search path that has it to run. The file that is run is the one
at this path, unless the directory is the empty one: then the path is a bare name, and a bare name
is looked for once more, in the directories of the variable for the search path.
-/
namespace LabLifecycle

/-! ### Started commands -/

namespace Visit

/-- The command that a hook starts, if it finds its executable. -/
def launch? (c : EngineConfig) (host : CommandHost) (stage : Stage) (v : Visit) : Option Launch :=
  (c.external host v.slot.name).launch? stage v.before.scene

end Visit

namespace Orchestrator
variable (o : Orchestrator) (run : Run) (dryRun : Bool) (c : EngineConfig) (host : CommandHost)

/-- A turn of an external command starts what its hook starts. -/
theorem launches_turn {x : Turn} (hx : ∀ slot, x = .serve slot →
      slot.app = (c.external host slot.name).app) (s : Session) :
    (o.turn run dryRun x s).1.scene.launches = s.scene.launches ++
      (o.visit? run dryRun x s).toList.filterMap (·.launch? c host run.stage) := by
  cases x with
  | skip name => exact (List.append_nil _).symm
  | serve x =>
    have happ := hx x rfl
    have hready : (x.ready dryRun s).scene.launches = s.scene.launches := by
      rw [x.scene_ready, Slot.arrive, happ]
      cases x.pass <;> rfl
    simp only [turn, visit?]
    split
    · rw [hready]
      exact (List.append_nil _).symm
    · obtain ⟨hlaunches, -, -⟩ := (c.external host x.name).hook_leaves run.stage
        (Hook.deadlineFrom o.limit (x.ready dryRun s).now)
        ((x.ready dryRun s).emit (.called (x.call run.stage)))
      have hafter : (x.visit o.limit run.stage (x.ready dryRun s)).after.scene.launches =
          (x.ready dryRun s).scene.launches ++
            ((x.visit o.limit run.stage (x.ready dryRun s)).launch? c host run.stage).toList := by
        refine Eq.trans ?_ hlaunches
        simp only [Slot.visit, happ]
        rfl
      rw [Visit.scene_close, hafter, hready, Option.toList_some, List.filterMap_cons,
        List.filterMap_nil]
      cases (x.visit o.limit run.stage (x.ready dryRun s)).launch? c host run.stage <;> rfl

theorem launches_sweep {turns : List Turn} (hturns : ∀ slot, .serve slot ∈ turns →
      slot.app = (c.external host slot.name).app) (s : Session) :
    (o.sweep run dryRun turns s).1.scene.launches = s.scene.launches ++
      (o.visits run dryRun turns s).filterMap (·.launch? c host run.stage) := by
  revert hturns
  refine o.sweep_induction run dryRun (motive := fun turns s visits t _ =>
    (∀ slot, .serve slot ∈ turns → slot.app = (c.external host slot.name).app) →
      t.scene.launches = s.scene.launches ++ visits.filterMap (·.launch? c host run.stage))
    ?_ ?_ ?_ turns s
  · intro s _
    exact (List.append_nil _).symm
  · intro x rest s t halt hturn hturns
    have h := o.launches_turn run dryRun c host
      (fun slot hx => hturns slot (hx ▸ List.mem_cons_self ..)) s
    rwa [hturn] at h
  · intro x rest s t visits u result hturn ih hturns
    have h := o.launches_turn run dryRun c host
      (fun slot hx => hturns slot (hx ▸ List.mem_cons_self ..)) s
    rw [hturn] at h
    rw [ih fun slot hslot => hturns slot (List.mem_cons_of_mem x hslot), h, List.filterMap_append,
      List.append_assoc]

variable {c host}

/-- Both passes start the commands of their hooks. -/
theorem launches_passes (hbuilt : Registry.ofSteps (c.steps host) = .ok o.registry) (s : Session) :
    (o.passes run dryRun s).1.scene.launches = s.scene.launches ++
      (o.passVisits run dryRun s).filterMap (·.launch? c host run.stage) := by
  have hfirst := o.launches_sweep run dryRun c host
    (fun slot hslot => EngineConfig.app_of_has hbuilt (.inl (Registry.hasDefault_of_mem hslot))) s
  rcases o.passes_cases run dryRun s with ⟨t, halt, hsweep, hpasses, hvisits⟩ |
    ⟨t, hsweep, hpasses, hvisits⟩
  · rw [hpasses, hvisits]
    rwa [hsweep] at hfirst
  · rw [hsweep] at hfirst
    have hsecond := o.launches_sweep run dryRun c host
      (fun slot hslot => EngineConfig.app_of_has hbuilt
        (.inr ⟨t.scene.experiment, Registry.hasDeclared_of_mem hslot⟩)) t
    rw [hpasses, hvisits, hsecond, hfirst, List.filterMap_append, List.append_assoc]

/-- A call starts the commands of its hooks, in their order, and no others. -/
theorem launches_apply (hbuilt : Registry.ofSteps (c.steps host) = .ok o.registry) (id : RunId)
    {options : List InvocationOption} {stage : Stage}
    (hstage : (Invocation.ofOptions options).stage = some stage) (s : Session) :
    (o.apply id options s).1.scene.launches = s.scene.launches ++
      (o.callVisits id options s).filterMap (·.launch? c host stage) := by
  generalize hdryRun : (Invocation.ofOptions options).dryRun = dryRun
  have hpasses := o.launches_passes ⟨id, stage⟩ dryRun hbuilt (opened stage dryRun s)
  have hvisits : o.callVisits id options s =
      o.passVisits ⟨id, stage⟩ dryRun (opened stage dryRun s) := by
    simp only [callVisits, hstage, hdryRun]
  rw [hvisits]
  refine Eq.trans ?_ hpasses
  obtain ⟨u, ⟨hcall, happly⟩ | ⟨halt, hcall, happly⟩⟩ := o.apply_cases hstage hdryRun s
  · rw [happly, hcall, scene_finish]
    split <;> rfl
  · rw [happly, hcall]

end Orchestrator

/-! ### The file that is run -/

/-- What a started command is told: its path, and its arguments. -/
def Launch.words (l : Launch) : List Raw := Raw.ofString l.path.text :: l.arguments.map Raw.ofString

/-- A name can be that of an entry of a directory. -/
theorem isPlainFileName_eq_true_iff {name : String} : isPlainFileName name = true ↔
    name ≠ "" ∧ name ≠ "." ∧ name ≠ ".." ∧ '/' ∉ name.toList := by
  simp [isPlainFileName, and_assoc]

namespace Workplace
variable (w : Workplace) (m : Machine) {l : Launch}

/-- A command in a directory is run from the file that its path leads to. -/
theorem commandTask_of_directory (h : l.path.directory ≠ "") :
    w.commandTask m l = w.fileTask m l.path.text l.words := by
  have hslash : '/' ∈ l.path.text.toList := by
    obtain ⟨path, htext, -⟩ := CommandPath.textBytes_text h
    rw [← Bytes.asciiByte_mem_textBytes_iff (by decide), htext]
    exact List.mem_append_right path (List.mem_cons_self ..)
  rw [commandTask, if_pos (List.contains_iff_mem.mpr hslash)]
  rfl

/-- A bare name is looked for in the directories of the variable for the search path. -/
theorem commandTask_of_bare (hplain : isPlainFileName l.path.file = true)
    (h : l.path.directory = "") :
    w.commandTask m l =
      w.searchedTask m l.path.file l.words (searchPathOf w.searchPath) .notFound := by
  have htext : l.path.text = l.path.file := by
    rw [CommandPath.text, h]
    exact String.empty_append
  have hslash : l.path.text.toList.contains '/' = false := by
    rw [htext]
    simpa using (isPlainFileName_eq_true_iff.mp hplain).2.2.2
  simp only [commandTask, Launch.words, htext] at hslash ⊢
  rw [if_neg (by rw [hslash]; exact Bool.false_ne_true)]

end Workplace

namespace Visit.OfCommand
variable {c : EngineConfig} {host : CommandHost} {limit : Option Duration} {stage : Stage}
  {v : Visit}

/-- A hook that does not find its command starts none, and changes nothing. -/
theorem of_locate_eq_none (h : v.OfCommand c host limit stage)
    (hlocate : (host.finder v.before.scene.machine).locate (c.commandStart ++ v.slot.name) = none) :
    v.launch? c host stage = none ∧ v.ended = .finished (.error (.unresolved v.slot.name)) ∧
      v.after.scene = v.before.scene := by
  have hrun := h.genuine.run_eq
  rw [h.app_eq] at hrun
  have hhook : (v.before, HookEnd.finished (.error (.unresolved v.slot.name))) =
      (v.after, v.ended) :=
    ((c.external host v.slot.name).run_hook_of_locate_eq_none hlocate).symm.trans hrun
  obtain ⟨hafter, hended⟩ := Prod.mk.inj hhook
  refine ⟨?_, hended.symm, congrArg Session.scene hafter.symm⟩
  exact congrArg (Option.map _) hlocate

end Visit.OfCommand

namespace Workplace

/-- The commands that a call runs are those of its hooks. The path of each is a plain file name,
the start of the settings and the name of the app, in the first directory of the search path where
it is an executable, and the file at this path is run if the directory is not the empty one. A
hook whose command has no plain file name, or is an executable in none of the directories, leaves
its name unresolved and starts nothing. -/
theorem runs_from_search_path (w : Workplace) (directories : List String) (c : EngineConfig)
    (o : Orchestrator) (hbuilt : Registry.ofSteps (c.steps (w.host directories)) = .ok o.registry)
    (id : RunId) {options : List InvocationOption} {stage : Stage}
    (hstage : (Invocation.ofOptions options).stage = some stage) (s : Session) :
    let launch? : Visit → Option Launch := (·.launch? c (w.host directories) stage)
    (o.apply id options s).1.scene.launches =
      s.scene.launches ++ (o.callVisits id options s).filterMap launch? ∧
    ∀ v ∈ o.callVisits id options s,
      let command := c.commandStart ++ v.slot.name
      let isExecutable (directory : String) : Bool :=
        (w.search directories v.before.scene.machine).isExecutable ⟨directory, command⟩
      let isPlain : Prop := command ≠ "" ∧ command ≠ "." ∧ command ≠ ".." ∧ '/' ∉ command.toList
      (∀ l, launch? v = some l →
        l.path.file = command ∧ isPlain ∧ isExecutable l.path.directory = true ∧
        (∃ before after, directories = before ++ l.path.directory :: after ∧
          ∀ directory ∈ before, isExecutable directory = false) ∧
        (l.path.directory ≠ "" →
          ∀ m, w.commandTask m l = w.fileTask m l.path.text l.words)) ∧
      (¬ isPlain ∨ (∀ directory ∈ directories, isExecutable directory = false) →
        launch? v = none ∧ v.ended = .finished (.error (.unresolved v.slot.name)) ∧
          v.after.scene = v.before.scene) := by
  intro launch?
  refine ⟨o.launches_apply hbuilt id hstage s, ?_⟩
  intro v hv command isExecutable isPlain
  have hcommand := (o.callVisits_ofCommand hbuilt id hstage s).1 v hv
  refine ⟨fun l hl => ?_, fun hnone => hcommand.of_locate_eq_none ?_⟩
  · obtain ⟨path, hpath, rfl⟩ := Option.map_eq_some_iff.mp hl
    obtain ⟨hplain, hfile, hexecutable, hfirst⟩ := CommandSearch.locate_eq_some_iff.mp hpath
    obtain ⟨directory, file⟩ := path
    cases hfile
    exact ⟨rfl, isPlainFileName_eq_true_iff.mp hplain, hexecutable, hfirst,
      fun hdirectory m => w.commandTask_of_directory m hdirectory⟩
  · rw [← Option.not_isSome_iff_eq_none]
    intro hsome
    obtain ⟨hplain, directory, hmem, hexecutable⟩ := CommandSearch.isSome_locate_iff.mp hsome
    rcases hnone with hnone | hnone
    · exact hnone (isPlainFileName_eq_true_iff.mp hplain)
    · exact Bool.false_ne_true ((hnone directory hmem).symm.trans hexecutable)

end Workplace

/-! ### A command that is run, and one that another one is run for -/

namespace Sample

/-- A place with the shelf. -/
def joinery : Workplace where
  tree := shelf

/-- A place with a command that fails, and with another one of its name that succeeds and stands
in the directory of the variable for the search path. -/
def crossroads : Workplace where
  tree := ⟨[
    ([textBytes "stagehand-app-tap"], .tool "false"),
    ([textBytes "usr"], .directory),
    ([textBytes "usr", textBytes "stagehand-app-tap"], .tool "true")]⟩
  searchPath := some "/usr"

end Sample

namespace Workplace

/-- Of the entries that name something at the shelf one has a command that is run. -/
theorem sample_joinery :
    let host := Sample.joinery.host ["bin"]
    let s := Sample.errand Sample.shelf ["notes", "../bin/stagehand-app-tap", "tap"]
    let launches := ((Sample.desk host).apply default [.stage .configure] s).1.scene.launches
    launches.map (·.path) = [⟨"bin", "stagehand-app-tap"⟩] ∧
    (∀ l ∈ launches, ∀ m,
      Sample.joinery.commandTask m l = Sample.joinery.fileTask m l.path.text l.words) ∧
    ∀ v ∈ (Sample.desk host).callVisits default [.stage .configure] s, v.slot.name ≠ "tap" →
      v.ended = .finished (.error (.unresolved v.slot.name)) := by
  intro host s launches
  have hstage : (Invocation.ofOptions [.stage .configure]).stage = some Stage.configure := rfl
  obtain ⟨hlaunches, hvisits⟩ := runs_from_search_path Sample.joinery ["bin"] {}
    (Sample.desk host) rfl default hstage s
  have hmissing : ∀ v ∈ (Sample.desk host).callVisits default [.stage .configure] s,
      v.slot.name ≠ "tap" → ∀ directory ∈ ["bin"],
        (Sample.joinery.search ["bin"] v.before.scene.machine).isExecutable
          ⟨directory, defaultCommandStart ++ v.slot.name⟩ = false := by
    decide +kernel
  have hpaths : launches.map (·.path) = [⟨"bin", "stagehand-app-tap"⟩] := by decide +kernel
  refine ⟨hpaths, fun l hl m => ?_, fun v hv hname => ?_⟩
  · have hpath : l.path = ⟨"bin", "stagehand-app-tap"⟩ := by
      rw [← List.mem_singleton, ← hpaths]
      exact List.mem_map_of_mem hl
    simp only [launches, hlaunches] at hl
    obtain ⟨v, hv, hlaunch⟩ := List.mem_filterMap.mp ((List.mem_append.mp hl).resolve_left nofun)
    refine ((hvisits v hv).1 l hlaunch).2.2.2.2 ?_ m
    rw [hpath]
    decide
  · exact ((hvisits v hv).2 (.inr (hmissing v hv hname))).2.1

/-- An empty directory on the search path leads out of it: a command that is found there is
started by its bare name, and another file is run. -/
theorem bare_name_runs_elsewhere :
    ∃ c, EngineConfig.parse "search_path = [\"\"]\n" = .ok c ∧
      let w := Sample.crossroads
      let host := w.host (c.directories w.searchPath)
      let launches := ((Sample.desk host).apply default [.stage .configure]
        (Sample.errand w.tree ["tap"])).1.scene.launches
      c.directories w.searchPath = [""] ∧
      Registry.ofSteps (c.steps host) = .ok (Sample.desk host).registry ∧
      launches.map (·.path) = [⟨"", "stagehand-app-tap"⟩] ∧
      ∀ l ∈ launches,
        w.commandTask w.machine l = w.fileTask w.machine "/usr/stagehand-app-tap" l.words ∧
        w.commandTask w.machine l = .ok (.exit (.code 0)) ∧
        w.fileTask w.machine l.path.text l.words = .ok (.exit (.code 1)) := by
  have hsettings : (EngineConfig.parse "search_path = [\"\"]\n").toOption =
      some { searchPath := some [""] } := by
    decide +kernel
  obtain ⟨c, hparse⟩ : ∃ c, EngineConfig.parse "search_path = [\"\"]\n" = .ok c := by
    cases hparse : EngineConfig.parse "search_path = [\"\"]\n" with
    | ok c => exact ⟨c, rfl⟩
    | error e =>
      rw [hparse] at hsettings
      cases hsettings
  rw [hparse] at hsettings
  cases hsettings
  refine ⟨_, hparse, ?_⟩
  intro w host launches
  have hpaths : launches.map (·.path) = [⟨"", "stagehand-app-tap"⟩] := by decide +kernel
  refine ⟨rfl, rfl, hpaths, fun l hl => ?_⟩
  have hpath : l.path = ⟨"", "stagehand-app-tap"⟩ := by
    rw [← List.mem_singleton, ← hpaths]
    exact List.mem_map_of_mem hl
  have hvariable : searchPathOf w.searchPath = ["/usr"] := by decide +kernel
  have htext : (CommandPath.mk "/usr" "stagehand-app-tap").text = "/usr/stagehand-app-tap" := by
    decide +kernel
  have hthere : w.fileTask w.machine "/usr/stagehand-app-tap" l.words = .ok (.exit (.code 0)) :=
    rfl
  have hrun : w.commandTask w.machine l = .ok (.exit (.code 0)) := by
    rw [w.commandTask_of_bare w.machine (by rw [hpath]; decide +kernel) (by rw [hpath]), hpath,
      hvariable, searchedTask, htext, hthere]
  refine ⟨hrun.trans hthere.symm, hrun, ?_⟩
  rw [hpath]
  rfl

end Workplace
end LabLifecycle

import LabLifecycle.Proofs.Cli.DryRuns
import LabLifecycle.Proofs.Host.FileWriting

/-!
# A run publishes all or nothing

`apply` writes at one point only, behind everything that can fail: where its settings are loaded,
its experiment is read and its call is through. So a run whose commands leave the files alone
either succeeds, and has put the experiment where it was asked for and nowhere else, or fails, and
then standard output is empty and every file is as it was.
-/
namespace LabLifecycle

/-- Commands that act through what they return and write leave the files of their machine alone,
whatever else becomes of it. -/
def CommandHost.LeavesFiles (h : CommandHost) (m : Machine) : Prop :=
  ∃ P, h.Keeps P ∧ P m ∧ ∀ later, P later → later.files = m.files

namespace Cli
variable (w : Workplace)

/-! ### What a run leaves -/

/-- What is asked for can be written: nothing stands in the way of standard output, and a path
has to lead to something that can be written to. -/
def CanWrite (output : Option String) (content : String) : Prop :=
  ∀ path, output = some path →
    ∃ tree, w.tree.write w.place (textBytes path) (textBytes content) = .ok tree

/-- A document has gone where it was asked for, and nowhere else: to standard output, or into the
file that a path leads to, or to the stream or the device that it stands for. -/
def Published (content told : String) (out : Outcome) : Option String → Prop
  | none => out.stdout = content ∧ out.tree = w.tree
  | some path =>
    match w.tree.target w.place (textBytes path) with
    | .ok (place, none) | .ok (place, some (.file ..)) =>
      out.stdout = "" ∧ out.tree.read w.place (textBytes path) = .ok (textBytes content) ∧
        ∀ other, other ≠ place → FileTree.entry? out.tree other = FileTree.entry? w.tree other
    | .ok (_, some (.descriptor 1)) => out.stdout = content ∧ out.tree = w.tree
    | .ok (_, some (.descriptor 2)) =>
      out.stdout = "" ∧ out.stderr = told ++ content ∧ out.tree = w.tree
    | .ok _ => out.stdout = "" ∧ out.tree = w.tree
    | .error _ => False

/-- A run has failed, and nothing has come of it. -/
structure Fruitless (out : Outcome) : Prop where
  code : out.code = 1
  stdout : out.stdout = ""
  tree : out.tree = w.tree

/-- What fails while the files are as they were has come to nothing. -/
theorem fruitless_failed (told : String) (failure : Failure) :
    Fruitless w (.failed w.tree told failure) := ⟨rfl, rfl, rfl⟩

/-- Where a file is put, the path leads to it, and nothing else has changed. -/
theorem read_put_target {path : String} {place : Place} {x : Option FileEntry} (mode : Nat)
    (content : String) (htarget : w.tree.target w.place (textBytes path) = .ok (place, x))
    (hlink : ∀ target, x ≠ some (.link target)) :
    let tree := w.tree.put place (.file mode (textBytes content))
    tree.read w.place (textBytes path) = .ok (textBytes content) ∧
      ∀ other, other ≠ place → FileTree.entry? tree other = FileTree.entry? w.tree other := by
  refine ⟨FileTree.read_put htarget hlink, fun other hother => ?_⟩
  obtain ⟨-, hdirectory, hentry⟩ := FileTree.target_eq_ok htarget
  have hplace : place ≠ [] := by
    rintro rfl
    exact hdirectory hentry.symm
  rw [FileTree.entry?_put hplace, if_neg hother]

/-- Either an experiment can be written to a path and is published there, or nothing comes of
it. The cases are what the path leads to. -/
theorem deliver_path_cases (told : String) (e : Experiment) (path : String) :
    let out := deliver w w.tree told e (some path)
    (∃ tree, w.tree.write w.place (textBytes path) (textBytes (document e)) = .ok tree) ∧
        out.code = 0 ∧ Published w (document e) told out (some path) ∨
      (∃ failure, w.tree.write w.place (textBytes path) (textBytes (document e)) =
        .error failure) ∧ Fruitless w out := by
  simp only [deliver, streamOf?, FileTree.write, Published]
  cases htarget : w.tree.target w.place (textBytes path) with
  | error failure => exact .inr ⟨⟨failure, rfl⟩, fruitless_failed w told _⟩
  | ok found =>
    obtain ⟨place, x⟩ := found
    cases x with
    | none => exact .inl ⟨⟨_, rfl⟩, rfl, rfl, read_put_target w 0o644 _ htarget (by simp)⟩
    | some x =>
      cases x with
      | file mode content =>
        exact .inl ⟨⟨_, rfl⟩, rfl, rfl, read_put_target w mode _ htarget (by simp)⟩
      | tool name => exact .inr ⟨⟨_, rfl⟩, fruitless_failed w told _⟩
      | descriptor number =>
        refine .inl ⟨⟨_, rfl⟩, ?_⟩
        rcases number with _ | _ | _ | number
        · exact ⟨rfl, rfl, rfl⟩
        · exact ⟨rfl, rfl, rfl⟩
        · exact ⟨rfl, rfl, rfl, rfl⟩
        · exact ⟨rfl, rfl, rfl⟩
      | sink => exact .inl ⟨⟨_, rfl⟩, rfl, rfl, rfl⟩
      | directory => exact .inl ⟨⟨_, rfl⟩, rfl, rfl, rfl⟩
      | link target => exact .inl ⟨⟨_, rfl⟩, rfl, rfl, rfl⟩

/-- Either an experiment can be written and is published, or nothing comes of it. -/
theorem deliver_cases (told : String) (e : Experiment) (output : Option String) :
    let out := deliver w w.tree told e output
    CanWrite w output (document e) ∧ out.code = 0 ∧ Published w (document e) told out output ∨
      ¬ CanWrite w output (document e) ∧ Fruitless w out := by
  cases output with
  | none => exact .inl ⟨nofun, rfl, rfl, rfl⟩
  | some path =>
    rcases deliver_path_cases w told e path with ⟨hwrite, hpublished⟩ | ⟨⟨failure, hwrite⟩, hnothing⟩
    · refine .inl ⟨fun other hother => ?_, hpublished⟩
      cases hother
      exact hwrite
    · refine .inr ⟨fun hcan => ?_, hnothing⟩
      obtain ⟨tree, htree⟩ := hcan path rfl
      rw [hwrite] at htree
      cases htree

/-! ### Runs -/

/-- A run of `apply` in which the commands are run by some host, and which may be cancelled from
outside. -/
def runOn (host : EngineConfig → CommandHost) (channel : Channel)
    (upcoming : Option (Nat × HandleEvent)) (config : Option String) (r : ApplyRequest) :
    Outcome :=
  match settings w config with
  | .error failure => .failed w.tree "" failure
  | .ok c => outcomeOf w r.output (do
      let e ← experiment w r.experiment
      call (forRun c r) (host c) r.stage w.machine e channel upcoming)

/-- A run of the command line is one on the host that the settings describe. -/
theorem run_eq_runOn {environment : Option String} {arguments : List String}
    {config : Option String} {r : ApplyRequest}
    (h : Request.ofArguments environment arguments = some (.run config (.apply r))) :
    run w environment arguments = runOn w (hostOf w) {} none config r := by
  simp only [run, h, carryOut, runOn]
  cases settings w config with
  | error failure => rfl
  | ok c => exact apply_eq_call w c r

/-- A call leaves the files alone if its commands do. -/
theorem files_call (c : EngineConfig) {host : CommandHost} (stage : Stage) {m : Machine}
    (e : Experiment) (channel : Channel) (upcoming : Option (Nat × HandleEvent))
    (hhost : host.LeavesFiles m) : ∃ s completion,
      call c host stage m e channel upcoming = .ok (s, completion) ∧
        s.scene.machine.files = m.files := by
  obtain ⟨P, hkeeps, hm, hfiles⟩ := hhost
  have hslots : ∀ x : Slot, x.app = (c.external host x.name).app →
      x.Keeps (fun scene => P scene.machine) stage c.dryRun := by
    intro x happ
    have harrive : ∀ scene, (x.arrive c.dryRun scene).machine = scene.machine := by
      intro scene
      rw [Slot.arrive, happ]
      cases x.pass <;> rfl
    refine ⟨fun scene hscene => by rwa [harrive], fun deadline scene s hscene hs => ?_⟩
    rw [happ]
    refine (c.external host x.name).hook_keeps_machine hkeeps stage deadline s ?_
    rwa [hs, harrive]
  have hstart : P (c.tell c.defaultApps { machine := m }).machine := by
    obtain ⟨-, -, hmachine⟩ := c.tell_leaves c.defaultApps { machine := m }
    rwa [hmachine]
  obtain ⟨s, completion, hcall, hs⟩ := call_keeps (P := fun scene => P scene.machine) c host stage
    m e channel upcoming (fun x happ _ => hslots x happ) (fun _ h => h) hstart
  exact ⟨s, completion, hcall, hfiles _ hs⟩

/-- The call of a run has succeeded, and what it has made of the experiment can be written. -/
structure Succeeds (host : EngineConfig → CommandHost) (channel : Channel)
    (upcoming : Option (Nat × HandleEvent)) (config : Option String) (r : ApplyRequest)
    (s : Session) : Prop where
  call : ∃ c e, settings w config = .ok c ∧ experiment w r.experiment = .ok e ∧
    Cli.call (forRun c r) (host c) r.stage w.machine e channel upcoming = .ok (s, .ok ())
  canWrite : CanWrite w r.output (document s.scene.experiment)

/-- Either a run succeeds, and what its call has made of the experiment is published, or nothing
comes of it. -/
theorem runOn_cases (host : EngineConfig → CommandHost) (channel : Channel)
    (upcoming : Option (Nat × HandleEvent)) (config : Option String) (r : ApplyRequest)
    (hhost : ∀ c, settings w config = .ok c → (host c).LeavesFiles w.machine) :
    let out := runOn w host channel upcoming config r
    (∃ s, Succeeds w host channel upcoming config r s ∧ out.code = 0 ∧
        Published w (document s.scene.experiment) (consoleText s.trace.reports) out r.output) ∨
      (∀ s, ¬ Succeeds w host channel upcoming config r s) ∧ Fruitless w out := by
  rw [runOn]
  cases hsettings : settings w config with
  | error failure =>
    refine .inr ⟨fun s hs => ?_, fruitless_failed w "" failure⟩
    obtain ⟨c, e, hc, -⟩ := hs.call
    rw [hsettings] at hc
    cases hc
  | ok c =>
    cases hexperiment : experiment w r.experiment with
    | error failure =>
      refine .inr ⟨fun s hs => ?_, fruitless_failed w "" failure⟩
      obtain ⟨c, e, -, he, -⟩ := hs.call
      rw [hexperiment] at he
      cases he
    | ok e =>
      obtain ⟨s, completion, hcall, hfiles⟩ := files_call (forRun c r) r.stage e channel upcoming
        (hhost c hsettings)
      have honly : ∀ t, Succeeds w host channel upcoming config r t → t = s ∧ completion = .ok () := by
        intro t ht
        obtain ⟨c', e', hc, he, ht⟩ := ht.call
        cases hsettings.symm.trans hc
        cases hexperiment.symm.trans he
        cases hcall.symm.trans ht
        exact ⟨rfl, rfl⟩
      have hrun : outcomeOf w r.output (do
          let e ← Except.ok e
          call (forRun c r) (host c) r.stage w.machine e channel upcoming) =
            conclude w r.output s completion := by
        simp only [bind, Except.bind, hcall]
        rfl
      have hfiles : s.scene.machine.files = w.tree := hfiles
      simp only [hrun]
      cases completion with
      | error halt =>
        refine .inr ⟨fun t ht => (nomatch (honly t ht).2), ?_⟩
        cases halt with
        | failed error =>
          rw [conclude, hfiles]
          exact fruitless_failed w _ _
        | pending =>
          rw [conclude, hfiles]
          exact fruitless_failed w _ _
      | ok _ =>
        rw [conclude, hfiles]
        rcases deliver_cases w (consoleText s.trace.reports) s.scene.experiment r.output with
          ⟨hcan, hpublished⟩ | ⟨hcannot, hnothing⟩
        · exact .inl ⟨s, ⟨⟨c, e, hsettings, hexperiment, hcall⟩, hcan⟩, hpublished⟩
        · refine .inr ⟨fun t ht => hcannot ?_, hnothing⟩
          rw [← (honly t ht).1]
          exact ht.canWrite

/-- A run comes to one end. -/
theorem Succeeds.unique {host : EngineConfig → CommandHost} {channel : Channel}
    {upcoming : Option (Nat × HandleEvent)} {config : Option String} {r : ApplyRequest}
    {s t : Session} (hs : Succeeds w host channel upcoming config r s)
    (ht : Succeeds w host channel upcoming config r t) : s = t := by
  obtain ⟨c, e, hc, he, hs⟩ := hs.call
  obtain ⟨c', e', hc', he', ht⟩ := ht.call
  cases hc.symm.trans hc'
  cases he.symm.trans he'
  cases hs.symm.trans ht
  rfl

/-- A run of `apply` whose commands leave the files alone succeeds exactly if the settings load,
the experiment is read, the call succeeds and its outcome can be written. Then the experiment that
the call has left is published, as indented JSON and a line end. In every other run nothing is
written to standard output, and no file has changed. -/
theorem publishes_all_or_nothing {environment : Option String} {arguments : List String}
    {config : Option String} {r : ApplyRequest}
    (hrequest : Request.ofArguments environment arguments = some (.run config (.apply r))) :
    run w environment arguments = runOn w (hostOf w) {} none config r ∧
    ∀ host channel upcoming,
      (∀ c, settings w config = .ok c → (host c).LeavesFiles w.machine) →
      let out := runOn w host channel upcoming config r
      (out.code = 0 ↔ ∃ s, Succeeds w host channel upcoming config r s) ∧
      (∀ s, Succeeds w host channel upcoming config r s →
        Published w (s.scene.experiment.text .indented ++ "\n") (consoleText s.trace.reports) out
          r.output) ∧
      (out.code ≠ 0 → out.code = 1 ∧ out.stdout = "" ∧ out.tree = w.tree) := by
  refine ⟨run_eq_runOn w hrequest, fun host channel upcoming hhost => ?_⟩
  rcases runOn_cases w host channel upcoming config r hhost with
    ⟨s, hs, hcode, hpublished⟩ | ⟨hnone, hcode, hstdout, htree⟩
  · refine ⟨⟨fun _ => ⟨s, hs⟩, fun _ => hcode⟩, fun t ht => ?_, fun hfailed => absurd hcode hfailed⟩
    rw [ht.unique w hs]
    exact hpublished
  · refine ⟨⟨fun hzero => ?_, fun ⟨s, hs⟩ => absurd hs (hnone s)⟩,
      fun s hs => absurd hs (hnone s), fun _ => ⟨hcode, hstdout, htree⟩⟩
    rw [hcode] at hzero
    cases hzero

end Cli

/-! ### An experiment that is written over -/

namespace Sample

/-- A place with an experiment that declares an app. -/
def archive : Workplace where
  tree := ⟨[([textBytes "lab.json"], .file 0o644
    (((Experiment.new "lab").withScenario (some (.ofNames ["tap"]))).print .compact))]⟩

/-- What is asked for is to write the experiment over. -/
def revisionRequest : Cli.ApplyRequest where
  stage := .configure
  experiment := "lab.json"
  output := some "lab.json"

/-- A command that writes another experiment and ends with a code. -/
def scribe (code : Nat) : CommandHost :=
  workshop { code := some code, stdout := (Experiment.new "other").print .compact }

end Sample

namespace Cli

/-- The experiment is written over if the command succeeds, and stays as it was if not. -/
theorem sample_archive :
    let out code := runOn Sample.archive (fun _ => Sample.scribe code) {} none none
      Sample.revisionRequest
    (∃ s : Session, (out 0).stdout = "" ∧ (out 0).tree.read [] (textBytes "lab.json") =
      .ok (textBytes (s.scene.experiment.text .indented ++ "\n"))) ∧
    (out 3).stdout = "" ∧ (out 3).tree = Sample.archive.tree := by
  have hrequest : Request.ofArguments none ["apply", "--stage", "configure", "--experiment",
      "lab.json", "--output", "lab.json"] = some (.run none (.apply Sample.revisionRequest)) := by
    decide +kernel
  obtain ⟨-, hruns⟩ := publishes_all_or_nothing Sample.archive hrequest
  have hleaves : ∀ code, (Sample.scribe code).LeavesFiles Sample.archive.machine := by
    refine fun code => ⟨fun m => m.files = Sample.archive.tree, ⟨?_, fun r _ h => h⟩, rfl,
      fun later h => h⟩
    intro m l m' r h _ hstart
    cases hstart
    exact h
  have htarget : ∃ entry, Sample.archive.tree.target Sample.archive.place (textBytes "lab.json") =
      .ok ([textBytes "lab.json"], some (.file 0o644 entry)) := ⟨_, rfl⟩
  constructor
  · obtain ⟨hsucceeds, hpublished, -⟩ := hruns (fun _ => Sample.scribe 0) {} none
      fun c _ => hleaves 0
    obtain ⟨s, hs⟩ := hsucceeds.mp (by decide +kernel)
    have h := hpublished s hs
    obtain ⟨entry, htarget⟩ := htarget
    simp only [Sample.revisionRequest, Published, htarget] at h
    exact ⟨s, h.1, h.2.1⟩
  · obtain ⟨-, -, hfailed⟩ := hruns (fun _ => Sample.scribe 3) {} none fun c _ => hleaves 3
    exact (hfailed (by decide +kernel)).2

end Cli
end LabLifecycle

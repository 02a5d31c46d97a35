import LabLifecycle.Proofs.Hook.ExternalCommand

/-!
# Which commands are started

Whatever no step of a hook can spoil holds wherever a run of the hook stops. From this follows
what an external command leaves besides the experiment and its machine: it is started once if
it is found, and not at all otherwise, with what the scene says at the start of the hook; the
journal and the dry-run switches stay as they are.
-/
namespace LabLifecycle

namespace Hook
variable {P : Scene → Prop}

/-- No step of the hook spoils what holds of the scene. -/
def Keeps (P : Scene → Prop) : Hook → Prop
  | finish _ => True
  | act change next => ∀ scene, P scene → P (change scene) ∧ (next (change scene)).Keeps P
  | signal _ next => next.Keeps P
  | wait _ next => next.Keeps P
  | hang => True

theorem keeps_look {next : Scene → Hook} (h : ∀ scene, P scene → (next scene).Keeps P) :
    (look next).Keeps P :=
  fun scene hscene => ⟨hscene, h scene hscene⟩

theorem keeps_change {f : Scene → Scene} {next : Hook} (hf : ∀ scene, P scene → P (f scene))
    (hnext : next.Keeps P) : (change f next).Keeps P :=
  fun scene hscene => ⟨hf scene hscene, hnext⟩

/-- What no step spoils holds wherever a run of the hook stops. -/
theorem Keeps.run {h : Hook} (hkeeps : h.Keeps P) (deadline : Option Deadline) {s : Session}
    (hs : P s.scene) : P (h.run deadline s).1.scene := by
  induction h generalizing s with
  | finish result => exact hs
  | act change next ih =>
    obtain ⟨hchange, hnext⟩ := hkeeps s.scene hs
    exact ih _ hnext (s := s.act change) hchange
  | signal event next ih => exact ih hkeeps (s := s.signal event) hs
  | wait time next ih =>
    obtain ⟨t, hscene, h | h | ⟨d, -, h⟩⟩ := run_wait_cases deadline time next s
    all_goals rw [h]
    · exact ih hkeeps (hscene ▸ hs)
    · exact hscene ▸ hs
    · exact hscene ▸ hs
  | hang =>
    obtain ⟨t, hscene, h | ⟨d, -, h⟩ | ⟨-, h⟩⟩ := run_hang_cases deadline s
    all_goals
      rw [h]
      exact hscene ▸ hs

end Hook

namespace ExternalApp
variable (a : ExternalApp) {P : Scene → Prop}

/-- What a command has written can change the experiment only. -/
theorem adopt_keeps (hexperiment : ∀ scene e, P scene → P (scene.withExperiment e))
    (command : String) (r : Completed) : (adopt command r).Keeps P := by
  refine Hook.keeps_look fun scene _ => ?_
  split
  · exact Hook.keeps_change (fun scene hscene => hexperiment scene _ hscene) trivial
  · trivial

/-- Each while the machine goes on, and the hook with what that has come to. -/
theorem await_succ (r : Running) (whiles : Nat) :
    a.await r (whiles + 1) = .look fun scene =>
      .change (·.withMachine (a.host.proceed r scene.machine).1)
        (.wait (a.host.proceed r scene.machine).2.1
          (a.next r whiles (a.host.proceed r scene.machine).2.2)) := rfl

/-- While a command is waited for, its machine goes on, and at the end the experiment may
change. -/
theorem await_keeps (hexperiment : ∀ scene e, P scene → P (scene.withExperiment e))
    (hmachine : ∀ scene m, P scene → P (scene.withMachine m)) (r : Running) (whiles : Nat) :
    (a.await r whiles).Keeps P := by
  induction whiles with
  | zero => trivial
  | succ whiles ih =>
    rw [await_succ]
    refine Hook.keeps_look fun scene _ => ?_
    refine Hook.keeps_change (fun scene hscene => hmachine scene _ hscene) ?_
    change (a.next r whiles _).Keeps P
    cases (a.host.proceed r scene.machine).2.2 with
    | ended result => exact adopt_keeps hexperiment a.command result
    | lost message => trivial
    | goesOn => exact ih
    | stuck => trivial

/-- The command that is started for a stage, if there is one to start. -/
def launch? (a : ExternalApp) (stage : Stage) (scene : Scene) : Option Launch :=
  ((a.host.finder scene.machine).locate a.command).map (a.launchFor stage scene)

/-- The hook of an external command starts the command that it finds, once, and leaves the
journal and the switches alone. -/
theorem hook_leaves (stage : Stage) (deadline : Option Deadline) (s : Session) :
    ((a.hook stage).run deadline s).1.scene.launches =
        s.scene.launches ++ (a.launch? stage s.scene).toList ∧
      ((a.hook stage).run deadline s).1.scene.journal = s.scene.journal ∧
      ((a.hook stage).run deadline s).1.scene.dryRuns = s.scene.dryRuns := by
  rw [hook, Hook.run_look, launch?]
  cases (a.host.finder s.scene.machine).locate a.command with
  | none => exact ⟨(List.append_nil _).symm, rfl, rfl⟩
  | some path =>
    simp only [launch, Hook.run_look]
    cases a.host.start s.scene.machine _ with
    | error message => exact ⟨rfl, rfl, rfl⟩
    | ok started =>
      obtain ⟨m, r⟩ := started
      -- The command is launched before its machine goes on; from there on no step launches any.
      let started := fun scene : Scene =>
        (scene.launch (a.launchFor stage s.scene path)).withMachine m
      have hkeeps : (a.await r patience).Keeps fun scene =>
          scene.launches = (started s.scene).launches ∧ scene.journal = s.scene.journal ∧
            scene.dryRuns = s.scene.dryRuns :=
        a.await_keeps (fun _ _ h => h) (fun _ _ h => h) r patience
      exact hkeeps.run deadline (s := s.act started) ⟨rfl, rfl, rfl⟩

end ExternalApp

/-! ### What commands keep -/

/-- What no command spoils on its machine, neither when it is started where it was found nor
while it runs. -/
structure CommandHost.Keeps (h : CommandHost) (P : Machine → Prop) : Prop where
  start : ∀ {m l m' r}, P m → (∃ command, (h.finder m).locate command = some l.path) →
    h.start m l = .ok (m', r) → P m'
  proceed : ∀ r {m}, P m → P (h.proceed r m).1

namespace ExternalApp
variable (a : ExternalApp) {P : Machine → Prop}

theorem await_keeps_machine (h : a.host.Keeps P) (r : Running) (whiles : Nat) :
    (a.await r whiles).Keeps fun scene => P scene.machine := by
  induction whiles with
  | zero => trivial
  | succ whiles ih =>
    rw [await_succ]
    refine Hook.keeps_look fun scene hscene => ?_
    refine Hook.keeps_change (fun _ _ => h.proceed r hscene) ?_
    change (a.next r whiles _).Keeps _
    cases (a.host.proceed r scene.machine).2.2 with
    | ended result => exact adopt_keeps (fun _ _ h => h) a.command result
    | lost message => trivial
    | goesOn => exact ih
    | stuck => trivial

/-- The hook of an external command keeps what the command does. -/
theorem hook_keeps_machine (h : a.host.Keeps P) (stage : Stage) (deadline : Option Deadline)
    (s : Session) (hs : P s.scene.machine) :
    P ((a.hook stage).run deadline s).1.scene.machine := by
  rw [hook, Hook.run_look]
  cases hlocate : (a.host.finder s.scene.machine).locate a.command with
  | none => exact hs
  | some path =>
    simp only [launch, Hook.run_look]
    cases hstart : a.host.start s.scene.machine _ with
    | error message => exact hs
    | ok started =>
      obtain ⟨m, r⟩ := started
      exact (a.await_keeps_machine h r patience).run deadline (s := s.act _)
        (h.start hs ⟨_, hlocate⟩ hstart)

end ExternalApp
end LabLifecycle

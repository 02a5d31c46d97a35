import LabLifecycle.Engine.Registry
import LabLifecycle.Proofs.Hook.Course

/-!
# All or nothing

The hook of an external command takes over the experiment that the command writes, or leaves
the experiment as it was. What the hook returns is decided by how the attempt to run the
command comes out: whether it is found, can be started and waited for, how it ends, whether it
could be fed, and what it writes, in this order. `ExternalApp.attempt` follows an attempt to
its end without a clock, and `ExternalApp.Settles` lists what every end of it comes to.
-/
namespace LabLifecycle

namespace Hook
variable {deadline : Option Deadline}

theorem run_look (next : Scene → Hook) (s : Session) :
    (look next).run deadline s = (next s.scene).run deadline s := rfl

theorem run_change (f : Scene → Scene) (next : Hook) (s : Session) :
    (change f next).run deadline s = next.run deadline (s.act f) := rfl

/-- After a wait a hook goes on in the same scene, unless its run stops there. -/
theorem run_wait_cases (deadline : Option Deadline) (time : Duration) (next : Hook)
    (s : Session) : ∃ t, t.scene = s.scene ∧
      ((wait time next).run deadline s = next.run deadline t ∨
        (wait time next).run deadline s = (t, .interrupted) ∨
        ∃ d, deadline = some d ∧
          (wait time next).run deadline s = (t, .finished (.error (.timedOut d.limit)))) := by
  have hwaited := s.suspend_waited deadline (some (s.now + time.nanos))
  have hscene := s.scene_suspend deadline (some (s.now + time.nanos))
  cases hsuspend : s.suspend deadline (some (s.now + time.nanos)) with
  | mk t k =>
    rw [hsuspend] at hwaited hscene
    refine ⟨t, hscene, ?_⟩
    simp only [run, hsuspend]
    cases hwaited with
    | woken _ _ _ => exact Or.inl rfl
    | timedOut hdeadline _ => exact Or.inr (Or.inr ⟨_, hdeadline, rfl⟩)
    | interrupted _ => exact Or.inr (Or.inl rfl)
    | never hwake _ => cases hwake

/-- A hook that never returns stops for lack of time or is interrupted, if at all. -/
theorem run_hang_cases (deadline : Option Deadline) (s : Session) : ∃ t, t.scene = s.scene ∧
    (hang.run deadline s = (t, .interrupted) ∨
      (∃ d, deadline = some d ∧
        hang.run deadline s = (t, .finished (.error (.timedOut d.limit)))) ∨
      deadline = none ∧ hang.run deadline s = (t, .pending)) := by
  have hwaited := s.suspend_waited deadline none
  have hscene := s.scene_suspend deadline none
  cases hsuspend : s.suspend deadline none with
  | mk t k =>
    rw [hsuspend] at hwaited hscene
    refine ⟨t, hscene, ?_⟩
    simp only [run, hsuspend]
    cases hwaited with
    | woken hwake _ _ => cases hwake
    | timedOut hdeadline _ => exact Or.inr (Or.inl ⟨_, hdeadline, rfl⟩)
    | interrupted _ => exact Or.inl rfl
    | never _ hdeadline => exact Or.inr (Or.inr ⟨hdeadline, rfl⟩)

end Hook

/-- How an attempt to run a command comes out. -/
inductive Attempt where
  | notFound
  | notStarted (message : String)
  | lost (message : String)
  | ended (result : Completed)

/-- How a command that was started comes out, if that shows within a number of whiles. -/
def CommandHost.watch (h : CommandHost) (r : Running) : Nat → Machine → Option Attempt
  | 0, _ => none
  | whiles + 1, m =>
    match h.proceed r m with
    | (_, _, .ended result) => some (.ended result)
    | (_, _, .lost message) => some (.lost message)
    | (later, _, .goesOn) => h.watch r whiles later
    | (_, _, .stuck) => none

namespace ExternalApp
variable (a : ExternalApp)

/-- What is started for a stage. -/
def launchFor (a : ExternalApp) (stage : Stage) (scene : Scene) (path : CommandPath) : Launch where
  path := path
  arguments := arguments stage (scene.isDryRun a.name)
  input := scene.experiment.print .compact

/-- How the attempt to run the command in a scene comes out, if it comes to an end. -/
def attempt (a : ExternalApp) (stage : Stage) (scene : Scene) : Option Attempt :=
  match (a.host.finder scene.machine).locate a.command with
  | none => some .notFound
  | some path =>
    match a.host.start scene.machine (a.launchFor stage scene path) with
    | .error message => some (.notStarted message)
    | .ok (m, r) => a.host.watch r patience m

/-- The exit of a command in messages. -/
def exitText : Option Nat → String
  | none => "signal"
  | some code => toString code

/-- What the end of an attempt comes to: the result of the hook, and what becomes of the
experiment `e`. -/
inductive Settles (a : ExternalApp) (e : Experiment) :
    Attempt → HookResult → Experiment → Prop
  | notFound : Settles a e .notFound (.error (.unresolved a.name)) e
  | notStarted (message : String) : Settles a e (.notStarted message) (.error (.io message)) e
  | lost (message : String) : Settles a e (.lost message) (.error (.io message)) e
  | unsuccessful {r : Completed} (hcode : r.code ≠ some 0) :
      Settles a e (.ended r) (.error (.commandFailed a.command (exitText r.code)
        (trimSpace (Bytes.lossyText r.stderr)))) e
  | unfed {r : Completed} {message : String} (hcode : r.code = some 0)
      (hfeed : r.feed = .failed message) : Settles a e (.ended r) (.error (.io message)) e
  | silent {r : Completed} (hcode : r.code = some 0) (hfeed : ∀ message, r.feed ≠ .failed message)
      (hblank : Bytes.isBlank r.stdout = true) : Settles a e (.ended r) (.ok ()) e
  | unreadable {r : Completed} {fault : Json.Fault} (hcode : r.code = some 0)
      (hfeed : ∀ message, r.feed ≠ .failed message) (hblank : Bytes.isBlank r.stdout = false)
      (hdecode : Experiment.decode r.stdout = .error fault) :
      Settles a e (.ended r) (.error (.json fault)) e
  | adopted {r : Completed} {e' : Experiment} (hcode : r.code = some 0)
      (hfeed : ∀ message, r.feed ≠ .failed message) (hblank : Bytes.isBlank r.stdout = false)
      (hdecode : Experiment.decode r.stdout = .ok e') : Settles a e (.ended r) (.ok ()) e'

/-- How a run of the hook ends: as the attempt settles it, or because the engine stops it while
it waits for the command. -/
inductive Concludes (a : ExternalApp) (deadline : Option Deadline) (e : Experiment)
    (x : Option Attempt) : HookEnd → Experiment → Prop
  | settled {y : Attempt} {result : HookResult} {e' : Experiment} (hattempt : x = some y)
      (hsettles : a.Settles e y result e') : Concludes a deadline e x (.finished result) e'
  | timedOut {d : Deadline} (hdeadline : deadline = some d) :
      Concludes a deadline e x (.finished (.error (.timedOut d.limit))) e
  | interrupted : Concludes a deadline e x .interrupted e
  | pending (hattempt : x = none) (hdeadline : deadline = none) :
      Concludes a deadline e x .pending e

/-- A command that has ended is judged by its exit, then by its input, then by its output. -/
theorem conclude_settles (r : Completed) (e : Experiment) :
    match conclude a.command r e with
    | .ok e' => a.Settles e (.ended r) (.ok ()) e'
    | .error failure => a.Settles e (.ended r) (.error failure) e := by
  obtain ⟨code, stdout, stderr, feed⟩ := r
  cases code with
  | none => exact .unsuccessful (by simp)
  | some code =>
    cases code with
    | succ n => exact .unsuccessful (by simp)
    | zero =>
      cases feed with
      | failed message => exact .unfed rfl rfl
      | _ =>
        simp only [conclude]
        cases hblank : Bytes.isBlank stdout with
        | true => exact .silent rfl (by simp) hblank
        | false =>
          simp only [Bool.false_eq_true, if_false]
          cases hdecode : Experiment.decode stdout with
          | error fault => exact .unreadable rfl (by simp) hblank hdecode
          | ok e' => exact .adopted rfl (by simp) hblank hdecode

variable {deadline : Option Deadline}

theorem adopt_concludes (r : Completed) (s : Session) :
    a.Concludes deadline s.scene.experiment (some (.ended r))
      ((adopt a.command r).run deadline s).2
      ((adopt a.command r).run deadline s).1.scene.experiment := by
  have hsettles := a.conclude_settles r s.scene.experiment
  rw [adopt, Hook.run_look]
  cases hconclude : conclude a.command r s.scene.experiment with
  | ok e' =>
    rw [hconclude] at hsettles
    exact .settled rfl hsettles
  | error failure =>
    rw [hconclude] at hsettles
    exact .settled rfl hsettles

theorem hang_concludes (s : Session) :
    a.Concludes deadline s.scene.experiment none (Hook.hang.run deadline s).2
      (Hook.hang.run deadline s).1.scene.experiment := by
  obtain ⟨t, hscene, h | ⟨d, hdeadline, h⟩ | ⟨hdeadline, h⟩⟩ := Hook.run_hang_cases deadline s
  all_goals rw [h, ← hscene]
  · exact .interrupted
  · exact .timedOut hdeadline
  · exact .pending rfl hdeadline

theorem fail_concludes {y : Attempt} {failure : AppError} {s : Session}
    (hsettles : a.Settles s.scene.experiment y (.error failure) s.scene.experiment) :
    a.Concludes deadline s.scene.experiment (some y) ((Hook.fail failure).run deadline s).2
      ((Hook.fail failure).run deadline s).1.scene.experiment :=
  .settled rfl hsettles

/-- What the hook does when a while is over. -/
def next (a : ExternalApp) (r : Running) (whiles : Nat) : Progress → Hook
  | .ended result => adopt a.command result
  | .lost message => .fail (.io message)
  | .goesOn => a.await r whiles
  | .stuck => .hang

theorem run_await_succ {r : Running} {whiles : Nat} {s : Session} {m : Machine}
    {time : Duration} {progress : Progress}
    (h : a.host.proceed r s.scene.machine = (m, time, progress)) :
    (a.await r (whiles + 1)).run deadline s =
      (Hook.wait time (a.next r whiles progress)).run deadline (s.act (·.withMachine m)) := by
  simp only [await, Hook.run_look, Hook.run_change, h]
  cases progress <;> rfl

/-- The induction is on the whiles that are left. What a while changes is the machine only, so
the experiment is the same when the next one begins. -/
theorem await_concludes (r : Running) (whiles : Nat) (s : Session) :
    a.Concludes deadline s.scene.experiment (a.host.watch r whiles s.scene.machine)
      ((a.await r whiles).run deadline s).2
      ((a.await r whiles).run deadline s).1.scene.experiment := by
  induction whiles generalizing s with
  | zero => exact a.hang_concludes s
  | succ whiles ih =>
    obtain ⟨⟨m, time, progress⟩, hproceed⟩ :
        ∃ p, a.host.proceed r s.scene.machine = p := ⟨_, rfl⟩
    rw [a.run_await_succ hproceed]
    simp only [CommandHost.watch, hproceed]
    obtain ⟨t, hscene, h⟩ := Hook.run_wait_cases deadline time (a.next r whiles progress)
      (s.act (·.withMachine m))
    have hexperiment : t.scene.experiment = s.scene.experiment := by
      rw [hscene]
      rfl
    have hmachine : t.scene.machine = m := by
      rw [hscene]
      rfl
    rw [← hexperiment]
    rcases h with h | h | ⟨d, hdeadline, h⟩
    · rw [h]
      cases progress with
      | ended result => exact a.adopt_concludes result t
      | lost message => exact a.fail_concludes (.lost message)
      | goesOn =>
        rw [← hmachine]
        exact ih t
      | stuck => exact a.hang_concludes t
    · rw [h]
      exact .interrupted
    · rw [h]
      exact .timedOut hdeadline

/-- Every run of the hook of an external command ends as its attempt settles it, or is stopped
while it waits. -/
theorem hook_concludes (stage : Stage) (s : Session) :
    a.Concludes deadline s.scene.experiment (a.attempt stage s.scene)
      ((a.hook stage).run deadline s).2 ((a.hook stage).run deadline s).1.scene.experiment := by
  rw [hook, Hook.run_look, attempt]
  cases (a.host.finder s.scene.machine).locate a.command with
  | none => exact a.fail_concludes .notFound
  | some path =>
    simp only [launch, Hook.run_look, launchFor]
    cases a.host.start s.scene.machine _ with
    | error message => exact .settled rfl (.notStarted message)
    | ok started =>
      obtain ⟨m, r⟩ := started
      exact a.await_concludes r patience (s.act fun scene =>
        (scene.launch (a.launchFor stage s.scene path)).withMachine m)

variable {a}

/-- Only a success can change the experiment. -/
theorem Settles.unchanged {e e' : Experiment} {x : Attempt} {result : HookResult}
    (h : a.Settles e x result e') (hresult : result ≠ .ok ()) : e' = e := by
  cases h with
  | adopted _ _ _ _ => exact absurd rfl hresult
  | _ => rfl

/-- A success is a successful command, judged by what it wrote. -/
theorem Settles.of_ok {e e' : Experiment} {x : Attempt} (h : a.Settles e x (.ok ()) e') :
    ∃ r : Completed, x = .ended r ∧ r.code = some 0 ∧ (∀ message, r.feed ≠ .failed message) ∧
      ((∀ b ∈ r.stdout, Bytes.isAsciiSpace b = true) ∧ e' = e ∨
        (∃ b ∈ r.stdout, Bytes.isAsciiSpace b = false) ∧
          Experiment.decode r.stdout = .ok e') := by
  cases h with
  | silent hcode hfeed hblank =>
    exact ⟨_, rfl, hcode, hfeed, .inl ⟨List.all_eq_true.mp hblank, rfl⟩⟩
  | adopted hcode hfeed hblank hdecode =>
    obtain ⟨b, hb, hvisible⟩ := List.all_eq_false.mp hblank
    exact ⟨_, rfl, hcode, hfeed, .inr ⟨⟨b, hb, by simpa using hvisible⟩, hdecode⟩⟩

/-- How much of the input a command took makes no difference. -/
theorem settles_cutShort_iff (r : Completed) (e e' : Experiment) (result : HookResult) :
    a.Settles e (.ended { r with feed := .cutShort }) result e' ↔
      a.Settles e (.ended { r with feed := .complete }) result e' := by
  constructor
  all_goals
    intro h
    cases h with
    | unsuccessful hcode => exact .unsuccessful (r := { r with feed := _ }) hcode
    | unfed _ hfeed => cases hfeed
    | silent hcode _ hblank => exact .silent hcode (by simp) hblank
    | unreadable hcode _ hblank hdecode => exact .unreadable hcode (by simp) hblank hdecode
    | adopted hcode _ hblank hdecode => exact .adopted hcode (by simp) hblank hdecode

/-- A name stays unresolved only if no command was found. -/
theorem Settles.of_unresolved {e e' : Experiment} {x : Attempt} {name : String}
    (h : a.Settles e x (.error (.unresolved name)) e') : x = .notFound ∧ name = a.name := by
  cases h
  exact ⟨rfl, rfl⟩

theorem watch_ne_notFound {r : Running} {whiles : Nat} {m : Machine} :
    a.host.watch r whiles m ≠ some .notFound := by
  induction whiles generalizing m with
  | zero => simp [CommandHost.watch]
  | succ whiles ih =>
    rw [CommandHost.watch]
    split
    · simp
    · simp
    · exact ih
    · simp

theorem attempt_eq_notFound_iff {stage : Stage} {scene : Scene} :
    a.attempt stage scene = some .notFound ↔
      (a.host.finder scene.machine).locate a.command = none := by
  rw [attempt]
  split
  · rename_i hlocate
    exact ⟨fun _ => hlocate, fun _ => rfl⟩
  · rename_i path hlocate
    rw [hlocate]
    refine ⟨fun h => ?_, fun h => by cases h⟩
    split at h
    · cases h
    · exact absurd h watch_ne_notFound

/-- The hook of a command that is not found does nothing but say so. -/
theorem run_hook_of_locate_eq_none (a : ExternalApp) {stage : Stage} {s : Session}
    (h : (a.host.finder s.scene.machine).locate a.command = none) :
    (a.hook stage).run deadline s = (s, .finished (.error (.unresolved a.name))) := by
  rw [hook, Hook.run_look, h]
  rfl

section Concludes
variable {e e' : Experiment} {x : Option Attempt} {ending : HookEnd}

theorem Concludes.unchanged (h : a.Concludes deadline e x ending e')
    (hending : ending ≠ .finished (.ok ())) : e' = e := by
  cases h with
  | settled _ hsettles => exact hsettles.unchanged fun hok => hending (by rw [hok])
  | _ => rfl

theorem Concludes.settles_or_timedOut {result : HookResult}
    (h : a.Concludes deadline e x (.finished result) e') :
    (∃ d, deadline = some d ∧ result = .error (.timedOut d.limit)) ∨
      ∃ y, x = some y ∧ a.Settles e y result e' := by
  cases h with
  | settled hattempt hsettles => exact .inr ⟨_, hattempt, hsettles⟩
  | timedOut hdeadline => exact .inl ⟨_, hdeadline, rfl⟩

theorem Concludes.settles {y : Attempt} (h : a.Concludes none e (some y) ending e')
    (hending : ending ≠ .interrupted) :
    ∃ result, ending = .finished result ∧ a.Settles e y result e' := by
  cases h with
  | settled hattempt hsettles =>
    cases hattempt
    exact ⟨_, rfl, hsettles⟩
  | timedOut hdeadline => cases hdeadline
  | interrupted => exact absurd rfl hending
  | pending hattempt _ => cases hattempt

end Concludes

/-- The hook leaves a name unresolved, its own, exactly if no command is found. -/
theorem hook_unresolved_iff (a : ExternalApp) (stage : Stage) (deadline : Option Deadline)
    (s : Session) (name : String) :
    ((a.hook stage).run deadline s).2 = .finished (.error (.unresolved name)) ↔
      (a.host.finder s.scene.machine).locate a.command = none ∧ name = a.name := by
  have hconcludes : a.Concludes deadline s.scene.experiment _ _ _ := a.hook_concludes stage s
  constructor
  · intro hunresolved
    rw [hunresolved] at hconcludes
    rcases hconcludes.settles_or_timedOut with ⟨_, _, htimedOut⟩ | ⟨x, hattempt, hsettles⟩
    · cases htimedOut
    · obtain ⟨rfl, hname⟩ := hsettles.of_unresolved
      exact ⟨attempt_eq_notFound_iff.mp hattempt, hname⟩
  · rintro ⟨hlocate, rfl⟩
    rw [a.run_hook_of_locate_eq_none hlocate]

/-- The hook of an external command is all or nothing on the experiment: it leaves it as it
was unless the command succeeds and writes something, and then takes over all that was written.
Its errors are decided in the order of `Settles`. -/
theorem hook_all_or_nothing (a : ExternalApp) (stage : Stage) (deadline : Option Deadline)
    (s : Session) :
    let before := s.scene.experiment
    let attempt := a.attempt stage s.scene
    let ending := ((a.hook stage).run deadline s).2
    let after := ((a.hook stage).run deadline s).1.scene.experiment
    (ending ≠ .finished (.ok ()) → after = before) ∧
    (ending = .finished (.ok ()) → ∃ r : Completed, attempt = some (.ended r) ∧
      r.code = some 0 ∧ (∀ message, r.feed ≠ .failed message) ∧
      ((∀ b ∈ r.stdout, Bytes.isAsciiSpace b = true) ∧ after = before ∨
        (∃ b ∈ r.stdout, Bytes.isAsciiSpace b = false) ∧
          Experiment.decode r.stdout = .ok after)) ∧
    (∀ result, ending = .finished result →
      (∃ d, deadline = some d ∧ result = .error (.timedOut d.limit)) ∨
        ∃ x, attempt = some x ∧ a.Settles before x result after) ∧
    (∀ x, attempt = some x → deadline = none → ending ≠ .interrupted →
      ∃ result, ending = .finished result ∧ a.Settles before x result after) ∧
    (∀ name, ending = .finished (.error (.unresolved name)) ↔
      (a.host.finder s.scene.machine).locate a.command = none ∧ name = a.name) ∧
    (∀ (r : Completed) result e, a.Settles before (.ended { r with feed := .cutShort }) result e ↔
      a.Settles before (.ended { r with feed := .complete }) result e) := by
  have hconcludes : a.Concludes deadline s.scene.experiment _ _ _ := a.hook_concludes stage s
  refine ⟨hconcludes.unchanged, fun hok => ?_, fun result hfinished => ?_, ?_,
    a.hook_unresolved_iff stage deadline s, ?_⟩
  · rw [hok] at hconcludes
    rcases hconcludes.settles_or_timedOut with ⟨_, _, htimedOut⟩ | ⟨x, hattempt, hsettles⟩
    · cases htimedOut
    · obtain ⟨r, rfl, hsuccess⟩ := hsettles.of_ok
      exact ⟨r, hattempt, hsuccess⟩
  · rw [hfinished] at hconcludes
    exact hconcludes.settles_or_timedOut
  · rintro x hattempt rfl hending
    rw [hattempt] at hconcludes
    exact hconcludes.settles hending
  · exact fun r result e => settles_cutShort_iff r s.scene.experiment e result

end ExternalApp

/-! ### A command that fails after it has written an experiment -/

namespace Sample

/-- A place where every command is found at once and ends in the same way after a while. -/
def workshop (r : Completed) : CommandHost where
  finder _ := ⟨fun _ => [], fun command => some ⟨"/apps", command⟩⟩
  start m _ := .ok (m, ⟨1, 2, 3, 4⟩)
  proceed _ m := (m, ⟨5⟩, .ended r)

/-- A command that takes none of its input and writes another experiment, but then fails. -/
def writer : ExternalApp where
  name := "tap"
  start := defaultCommandStart
  host := workshop {
    code := some 3
    stdout := (Experiment.new "other").print .compact
    stderr := textBytes "out of paper\n"
    feed := .cutShort }

/-- A call that nobody can cancel, before its first hook. -/
def opening : Session where
  scene := { experiment := Experiment.new "lab" }

end Sample

namespace ExternalApp

/-- The exit of the writer counts, and the experiment that it has written is not taken over. -/
theorem sample_all_or_nothing :
    ((Sample.writer.hook .configure).run none Sample.opening).2 =
      .finished (.error (.commandFailed (defaultCommandStart ++ "tap") "3" "out of paper")) ∧
    ((Sample.writer.hook .configure).run none Sample.opening).1.scene.experiment =
      Experiment.new "lab" := by
  have hending : ((Sample.writer.hook .configure).run none Sample.opening).2 =
      .finished (.error (.commandFailed (defaultCommandStart ++ "tap") "3" "out of paper")) := rfl
  obtain ⟨hunchanged, -⟩ := hook_all_or_nothing Sample.writer .configure none Sample.opening
  refine ⟨hending, hunchanged ?_⟩
  rw [hending]
  exact fun h => by cases h

end ExternalApp
end LabLifecycle

import LabLifecycle.Proofs.Call.Cancellation
import LabLifecycle.Proofs.Call.Repetition

/-!
# Calls that are cancelled before they start

A request to cancel is looked at where a hook is due, and nowhere else. A call that is cancelled
before it starts therefore runs no hook and makes no report, but only a default app stops it
before it has done anything. Without one, the first app that the scenario declares is told the
options of the call before its hook is due; and where no hook is due at all the call succeeds,
and fills in defaults as any other.
-/
namespace LabLifecycle

namespace Session

/-- Something was noticed at most. -/
structure Idle (s t : Session) : Prop where
  scene : t.scene = s.scene
  channel : t.channel = s.channel
  calls : t.trace.calls = s.trace.calls
  reports : t.trace.reports = s.trace.reports

theorem Idle.refl (s : Session) : s.Idle s := ⟨rfl, rfl, rfl, rfl⟩

theorem Idle.trans {s t u : Session} (h : s.Idle t) (h' : t.Idle u) : s.Idle u where
  scene := h'.scene.trans h.scene
  channel := h'.channel.trans h.channel
  calls := h'.calls.trans h.calls
  reports := h'.reports.trans h.reports

theorem idle_notice (s : Session) (n : Notice) : s.Idle (s.notice n) where
  scene := rfl
  channel := rfl
  calls := (Trace.calls_append ..).trans (List.append_nil _)
  reports := (Trace.reports_append ..).trans (List.append_nil _)

/-- An `init` takes no request back. -/
theorem fired_foldl_signal (events : List HandleEvent) {s : Session}
    (h : s.channel.fired = true) : (events.foldl signal s).channel.fired = true := by
  induction events generalizing s with
  | nil => exact h
  | cons e rest ih => exact ih (s := s.signal e) (Channel.fired_react h e)

end Session

theorem Slot.fired_ready (x : Slot) (dryRun : Bool) {s : Session}
    (h : s.channel.fired = true) : (x.ready dryRun s).channel.fired = true := by
  unfold ready
  split
  · exact h
  · unfold Session.prepare
    dsimp only
    split
    all_goals exact Session.fired_foldl_signal _ h

namespace Orchestrator
variable (o : Orchestrator) (run : Run) (dryRun : Bool)

/-- A sweep that starts with a request to cancel gets as far as the door of the first hook. -/
theorem sweep_of_fired (turns : List Turn) {s : Session} (hfired : s.channel.fired = true) :
    ∃ t, s.Idle t ∧ o.sweep run dryRun turns s =
      match turns.filterMap Turn.slot? with
      | [] => (t, .ok ())
      | x :: _ => (x.ready dryRun t, .error (.failed (.cancelled run.stage))) := by
  induction turns generalizing s with
  | nil => exact ⟨s, .refl s, rfl⟩
  | cons turn rest ih =>
    cases turn with
    | skip name =>
      obtain ⟨t, hidle, hsweep⟩ := ih (s := s.notice (.alreadyApplied name)) hfired
      exact ⟨t, (s.idle_notice _).trans hidle, hsweep⟩
    | serve x =>
      refine ⟨s, .refl s, ?_⟩
      rw [sweep, turn, if_pos (x.fired_ready dryRun hfired)]
      rfl

/-- Two passes that start with a request to cancel get as far as the door of the first hook. -/
theorem passes_of_fired {s : Session} (hfired : s.channel.fired = true) :
    ∃ t, s.Idle t ∧ o.passes run dryRun s =
      match o.registry.defaultSlots ++
        o.registry.declaredSlots s.scene.experiment.declaredApps with
      | [] => (t, .ok ())
      | x :: _ => (x.ready dryRun t, .error (.failed (.cancelled run.stage))) := by
  obtain ⟨t, hidle, hsweep⟩ := o.sweep_of_fired run dryRun o.registry.defaultTurns hfired
  rw [Registry.slots_defaultTurns] at hsweep
  cases hslots : o.registry.defaultSlots with
  | cons x rest =>
    rw [hslots] at hsweep
    refine ⟨t, hidle, ?_⟩
    rw [passes, hsweep]
    rfl
  | nil =>
    rw [hslots] at hsweep
    have hfired' : t.channel.fired = true := by rw [hidle.channel, hfired]
    obtain ⟨u, hidle', hsweep'⟩ := o.sweep_of_fired run dryRun
      (o.registry.declaredTurns t.scene.experiment.declaredApps) hfired'
    rw [Registry.slots_declaredTurns, hidle.scene] at hsweep'
    refine ⟨u, hidle.trans hidle', ?_⟩
    rw [passes, hsweep]
    dsimp only
    rw [hidle.scene, hsweep', List.nil_append]

/-- A call for a stage is cancelled and has done nothing. -/
structure ComesToNothing (stage : Stage) (s : Session) (t : Session × Except Halt Unit) :
    Prop where
  result : t.2 = .error (.failed (.cancelled stage))
  calls : t.1.trace.calls = s.trace.calls
  reports : t.1.trace.reports = s.trace.reports
  scene : t.1.scene = s.scene

/-- A call that starts with a request to cancel ends at the door of the first hook, and succeeds
if there is none. -/
theorem apply_of_fired (id : RunId) {options : List InvocationOption} {stage : Stage}
    {dryRun : Bool} (hstage : (Invocation.ofOptions options).stage = some stage)
    (hdryRun : (Invocation.ofOptions options).dryRun = dryRun) {s : Session}
    (hfired : s.channel.fired = true) :
    ∃ t, s.Idle t ∧ o.apply id options s =
      match o.registry.defaultSlots ++
        o.registry.declaredSlots s.scene.experiment.declaredApps with
      | [] => (finish stage t, .ok ())
      | x :: _ => (x.ready dryRun t, .error (.failed (.cancelled stage))) := by
  have hopened : s.Idle (opened stage dryRun s) := s.idle_notice _
  obtain ⟨t, hidle, hpasses⟩ := o.passes_of_fired ⟨id, stage⟩ dryRun
    (s := opened stage dryRun s) (by rw [hopened.channel, hfired])
  refine ⟨t, hopened.trans hidle, ?_⟩
  rw [hopened.scene] at hpasses
  obtain ⟨u, ⟨hcall, happly⟩ | ⟨halt, hcall, happly⟩⟩ := o.apply_cases hstage hdryRun s
  all_goals
    rw [hpasses] at hcall
    rw [happly]
    cases hslots : o.registry.defaultSlots ++
        o.registry.declaredSlots s.scene.experiment.declaredApps with
    | nil =>
      rw [hslots] at hcall
      cases hcall <;> rfl
    | cons x rest =>
      rw [hslots] at hcall
      cases hcall <;> rfl

section
variable {o} (id : RunId) {options : List InvocationOption} {stage : Stage} {s : Session}

/-- A default app is due first, and nothing has happened before its hook. -/
theorem comesToNothing_of_default
    (hstage : (Invocation.ofOptions options).stage = some stage)
    (hfired : s.channel.fired = true) (hdefaults : o.registry.defaults ≠ []) :
    ComesToNothing stage s (o.apply id options s) := by
  obtain ⟨t, hidle, happly⟩ := o.apply_of_fired id hstage rfl hfired
  obtain ⟨app, rest, happs⟩ := List.exists_cons_of_ne_nil hdefaults
  rw [Registry.defaultSlots, happs] at happly
  rw [happly]
  exact ⟨rfl, hidle.calls, hidle.reports, hidle.scene⟩

/-- Without a default app, a call goes by the names of the other apps from the start. -/
theorem slots_of_defaults_eq_nil {r : Registry} (h : r.defaults = []) (names : List String) :
    r.defaultSlots ++ r.declaredSlots names =
      (r.others names).map fun name => ⟨.scenario, name, r.resolve name⟩ := by
  rw [Registry.defaultSlots, h]
  rfl

/-- Without a default app, the app that is due first has been told the options. -/
theorem apply_of_declared (hstage : (Invocation.ofOptions options).stage = some stage)
    (hfired : s.channel.fired = true) (hdefaults : o.registry.defaults = []) {name : String}
    {rest : List String}
    (hnames : o.registry.others s.scene.experiment.declaredApps = name :: rest) :
    (o.apply id options s).2 = .error (.failed (.cancelled stage)) ∧
      (o.apply id options s).1.trace.calls = s.trace.calls ++
        [.init name (Invocation.forApp name (Invocation.ofOptions options).dryRun)] ∧
      (o.apply id options s).1.trace.reports = s.trace.reports ∧
      (o.apply id options s).1.scene.experiment = s.scene.experiment := by
  obtain ⟨t, hidle, happly⟩ := o.apply_of_fired id hstage rfl hfired
  rw [slots_of_defaults_eq_nil hdefaults, hnames] at happly
  generalize (Invocation.ofOptions options).dryRun = dryRun at *
  let x : Slot := ⟨.scenario, name, o.registry.resolve name⟩
  have happly : o.apply id options s =
      (x.ready dryRun t, .error (.failed (.cancelled stage))) := happly
  have hready : Chronicle o.limit ⟨id, stage⟩ t [] (x.ready dryRun t) := .ready x dryRun t
  rw [happly]
  refine ⟨rfl, ?_, ?_, ?_⟩
  · rw [x.calls_ready, hidle.calls]
    rfl
  · rw [hready.reports, hidle.reports]
    exact List.append_nil _
  · rw [x.scene_ready, hidle.scene]
    rfl

/-- Where no app is due at all, nobody looks at the request. -/
theorem apply_of_no_app (hstage : (Invocation.ofOptions options).stage = some stage)
    (hfired : s.channel.fired = true) (hdefaults : o.registry.defaults = [])
    (hnames : o.registry.others s.scene.experiment.declaredApps = []) :
    (o.apply id options s).2 = .ok () ∧
      (o.apply id options s).1.trace.calls = s.trace.calls ∧
      (o.apply id options s).1.trace.reports = s.trace.reports ∧
      (o.apply id options s).1.scene =
        if stage.normalizes then s.scene.update Experiment.setDefaults else s.scene := by
  obtain ⟨t, hidle, happly⟩ := o.apply_of_fired id hstage rfl hfired
  rw [slots_of_defaults_eq_nil hdefaults, hnames] at happly
  have happly : o.apply id options s = (finish stage t, .ok ()) := happly
  obtain ⟨hcalls, -, hreports⟩ := trace_finish stage t
  rw [happly]
  refine ⟨rfl, hcalls.trans hidle.calls, hreports.trans hidle.reports, ?_⟩
  rw [scene_finish, hidle.scene]

end

/-- A call that is cancelled before it starts runs no hook and makes no report, and it comes to
nothing exactly if there is a default app. Without one, the first app that the scenario declares
is told the options, and then the call is cancelled; and if no app is declared either, the call
succeeds like any other. -/
theorem comesToNothing_iff (id : RunId) (options : List InvocationOption) {stage : Stage}
    (hstage : (Invocation.ofOptions options).stage = some stage) {s : Session}
    (hfired : s.channel.fired = true) :
    ((o.apply id options s).1.trace.hooks = s.trace.hooks ∧
      (o.apply id options s).1.trace.reports = s.trace.reports) ∧
    (ComesToNothing stage s (o.apply id options s) ↔ o.registry.defaults ≠ []) ∧
    (o.registry.defaults = [] → ∀ name rest,
      o.registry.others s.scene.experiment.declaredApps = name :: rest →
        (o.apply id options s).2 = .error (.failed (.cancelled stage)) ∧
        (o.apply id options s).1.trace.calls = s.trace.calls ++
          [.init name (Invocation.forApp name (Invocation.ofOptions options).dryRun)] ∧
        (o.apply id options s).1.scene.experiment = s.scene.experiment) ∧
    (o.registry.defaults = [] → o.registry.others s.scene.experiment.declaredApps = [] →
      (o.apply id options s).2 = .ok () ∧
      (o.apply id options s).1.trace.calls = s.trace.calls ∧
      (o.apply id options s).1.scene =
        if stage.normalizes then s.scene.update Experiment.setDefaults else s.scene) := by
  by_cases hdefaults : o.registry.defaults = []
  · cases hnames : o.registry.others s.scene.experiment.declaredApps with
    | cons first others =>
      obtain ⟨hresult, hcalls, hreports, hexperiment⟩ :=
        apply_of_declared id hstage hfired hdefaults hnames
      refine ⟨⟨?_, hreports⟩, ⟨fun hnothing => ?_, fun h => absurd hdefaults h⟩, ?_, ?_⟩
      · rw [Trace.hooks, hcalls, List.filter_append]
        exact List.append_nil _
      · -- The `init` is one call too many.
        have hlength := congrArg List.length (hnothing.calls.symm.trans hcalls)
        simp at hlength
      · rintro - name rest heq
        cases heq
        exact ⟨hresult, hcalls, hexperiment⟩
      · exact fun _ h => by cases h
    | nil =>
      obtain ⟨hresult, hcalls, hreports, hscene⟩ :=
        apply_of_no_app id hstage hfired hdefaults hnames
      refine ⟨⟨?_, hreports⟩, ⟨fun hnothing => ?_, fun h => absurd hdefaults h⟩, ?_, ?_⟩
      · rw [Trace.hooks, hcalls]
        rfl
      · exact absurd (hnothing.result.symm.trans hresult) (by simp)
      · exact fun _ _ _ h => by cases h
      · exact fun _ _ => ⟨hresult, hcalls, hscene⟩
  · have hnothing : ComesToNothing stage s (o.apply id options s) :=
      comesToNothing_of_default id hstage hfired hdefaults
    refine ⟨⟨?_, hnothing.reports⟩, ⟨fun _ => hdefaults, fun _ => hnothing⟩, ?_, ?_⟩
    · rw [Trace.hooks, hnothing.calls]
      rfl
    · exact fun h => absurd h hdefaults
    · exact fun h => absurd h hdefaults

end Orchestrator

/-! ### A request before the start -/

namespace Sample

/-- A call that is cancelled before it starts. -/
def withdrawn (e : Experiment) : Session where
  scene := { experiment := e }
  channel := Channel.react {} .cancel

/-- A registry without apps. -/
def bare : Orchestrator where
  registry := ⟨SortedMap.empty, [], none, defaultCommandStart⟩

/-- An experiment of a single node of no type. -/
def gate : Experiment := (Experiment.new "lab").withNode { hostname := "gate" }

end Sample

namespace Orchestrator

/-- The default app of the small laboratory is not run if the call is cancelled before. -/
theorem sample_comes_to_nothing :
    (Invocation.ofOptions [.stage .configure]).stage = some .configure ∧
    (Sample.withdrawn Sample.gate).channel.fired = true ∧
    ComesToNothing .configure (Sample.withdrawn Sample.gate)
      (Sample.lab.apply default [.stage .configure] (Sample.withdrawn Sample.gate)) := by
  refine ⟨rfl, rfl, ?_⟩
  obtain ⟨-, hiff, -, -⟩ := comesToNothing_iff Sample.lab default [.stage .configure] rfl
    (s := Sample.withdrawn Sample.gate) rfl
  refine hiff.mpr fun hnone => ?_
  have hlength := congrArg List.length hnone
  exact absurd hlength (by decide)

/-- Without apps a call that is cancelled before it starts succeeds and fills in the type of the
node. With an app that is not a default one, it tells this app the options. -/
theorem cancelled_start_goes_on :
    (Registry.ofSteps [] = .ok Sample.bare.registry ∧
      (Sample.withdrawn Sample.gate).channel.fired = true ∧
      (Sample.bare.apply default [.stage .configure] (Sample.withdrawn Sample.gate)).2 = .ok () ∧
      Sample.gate.nodes.map (·.vmType) = [none] ∧
      (Sample.bare.apply default [.stage .configure]
        (Sample.withdrawn Sample.gate)).1.scene.experiment.nodes.map (·.vmType) =
          [some "kvm"]) ∧
    Registry.ofSteps [.register (App.plain "tap")] = .ok Sample.bench.registry ∧
      (Sample.bench.apply default [.stage .configure]
        (Sample.withdrawn (Sample.declaring ["tap"]).scene.experiment)).1.trace.calls =
          [.init "tap" (Invocation.forApp "tap" false)] :=
  ⟨⟨rfl, rfl, rfl, rfl, rfl⟩, rfl, rfl⟩

end Orchestrator
end LabLifecycle

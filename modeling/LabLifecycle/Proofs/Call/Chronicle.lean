import LabLifecycle.Proofs.Call.Visits

/-!
# The chronicle of a call

What happens between two moments of a call is told by the hooks that were started there: the
reports are about them, one for each that has ended. A turn has such a chronicle, and
chronicles of successive turns join, so the passes of a call have one.
-/
namespace LabLifecycle

/-- What the hooks that were started between two sessions tell about them. -/
structure Chronicle (limit : Option Duration) (run : Run) (s : Session)
    (visits : List Visit) (t : Session) : Prop extends Started limit run.stage s visits t where
  reports : t.trace.reports = s.trace.reports ++ visits.filterMap (·.report? run)

namespace Chronicle
variable {limit : Option Duration} {run : Run} {s t u : Session} {visits more : List Visit}

theorem trans (h : Chronicle limit run s visits t) (h' : Chronicle limit run t more u) :
    Chronicle limit run s (visits ++ more) u where
  toStarted := h.toStarted.trans h'.toStarted
  reports := by rw [h'.reports, h.reports, List.filterMap_append, List.append_assoc]

theorem refl (s : Session) : Chronicle limit run s [] s where
  toStarted := .of_quiet .refl
  reports := (List.append_nil _).symm

/-- Something is noticed, but not that defaults were filled in. -/
theorem notice (s : Session) {n : Notice} (hn : n ≠ .defaultsApplied) :
    Chronicle limit run s [] (s.notice n) where
  toStarted := .of_quiet (.single (.event rfl (by simpa using hn)))
  reports := Trace.reports_append ..

/-- Up to the start of its hook an app is told the options at most. -/
theorem ready (x : Slot) (dryRun : Bool) (s : Session) :
    Chronicle limit run s [] (x.ready dryRun s) := by
  unfold Slot.ready
  split
  · exact refl s
  · refine ⟨.of_quiet (.single (.init ..)), ?_⟩
    obtain ⟨complaint, htrace, -, hreports, -⟩ :=
      s.trace_prepare x.name x.app (Invocation.forApp x.name dryRun)
    rw [htrace, Trace.reports_append, Trace.reports_append, hreports]
    rfl

/-- A hook that is started in a call that is not cancelled. -/
theorem visit (x : Slot) (hfired : s.channel.fired = false) :
    Chronicle limit run s [x.visit limit run.stage s]
      ((x.visit limit run.stage s).close run).1 := by
  constructor
  case toStarted =>
    constructor
    case genuine =>
      intro v hv
      rw [List.mem_singleton.mp hv]
      rfl
    case uncancelled =>
      intro v hv
      rw [List.mem_singleton.mp hv]
      exact hfired
    case chained => exact ⟨⟨s, .refl, rfl⟩, Visit.quiet_close run _⟩
  case reports =>
    have hafter : (x.visit limit run.stage s).after.trace =
        s.trace ++ [.called (x.call run.stage)] := by simp [Slot.visit]
    rw [Visit.reports_close, hafter, Trace.reports_append, List.append_assoc]
    cases hreport : (x.visit limit run.stage s).report? run <;> simp [hreport]

end Chronicle

namespace Orchestrator
variable (o : Orchestrator) (run : Run) (dryRun : Bool)

/-- The hook of a turn decides what the turn comes to. -/
theorem turn_of_mem_visit? {x : Turn} {s : Session} {v : Visit}
    (hv : v ∈ (o.visit? run dryRun x s).toList) :
    x = .serve v.slot ∧ o.turn run dryRun x s = v.close run := by
  cases x with
  | skip name => cases hv
  | serve x =>
    by_cases hfired : (x.ready dryRun s).channel.fired = true
    · simp only [visit?, hfired, if_true, Option.toList_none] at hv
      cases hv
    · simp only [visit?, if_neg hfired, Option.toList_some, List.mem_singleton] at hv
      subst hv
      exact ⟨rfl, by simp only [turn, if_neg hfired]⟩

/-- Hooks are started for the turns that there are. -/
theorem serve_mem_of_mem_visits {turns : List Turn} {s : Session} {v : Visit}
    (hv : v ∈ o.visits run dryRun turns s) : .serve v.slot ∈ turns := by
  revert hv
  refine o.sweep_induction run dryRun
    (motive := fun turns _ visits _ _ => v ∈ visits → .serve v.slot ∈ turns) ?_ ?_ ?_ turns s
  · intro s hv
    cases hv
  · intro x rest s t halt _ hv
    rw [(o.turn_of_mem_visit? run dryRun hv).1]
    exact List.mem_cons_self ..
  · intro x rest s t visits u result _ ih hv
    rcases List.mem_append.mp hv with hv | hv
    · rw [(o.turn_of_mem_visit? run dryRun hv).1]
      exact List.mem_cons_self ..
    · exact List.mem_cons_of_mem _ (ih hv)

/-- A hook after which the call does not go on ends the sweep. -/
theorem result_of_mem_visits {turns : List Turn} {s : Session} {v : Visit}
    (hv : v ∈ o.visits run dryRun turns s) {halt : Halt} (hclose : (v.close run).2 = .error halt) :
    (o.sweep run dryRun turns s).2 = .error halt := by
  revert hv
  refine o.sweep_induction run dryRun
    (motive := fun _ _ visits _ result => v ∈ visits → result = .error halt) ?_ ?_ ?_ turns s
  · intro s hv
    cases hv
  · intro x rest s t other hturn hv
    rw [← hclose, ← (o.turn_of_mem_visit? run dryRun hv).2, hturn]
  · intro x rest s t visits u result hturn ih hv
    rcases List.mem_append.mp hv with hv | hv
    · rw [← (o.turn_of_mem_visit? run dryRun hv).2, hturn] at hclose
      cases hclose
    · exact ih hv

theorem chronicle_turn (x : Turn) (s : Session) :
    Chronicle o.limit run s (o.visit? run dryRun x s).toList (o.turn run dryRun x s).1 := by
  cases x with
  | skip name => exact .notice s (by simp)
  | serve x =>
    have hready : Chronicle o.limit run s [] (x.ready dryRun s) := .ready x dryRun s
    by_cases hfired : (x.ready dryRun s).channel.fired = true
    · simp only [visit?, turn, hfired, if_true]
      exact hready
    · simp only [visit?, turn, if_neg hfired]
      exact hready.trans (.visit x (by simpa using hfired))

theorem chronicle_sweep (turns : List Turn) (s : Session) :
    Chronicle o.limit run s (o.visits run dryRun turns s) (o.sweep run dryRun turns s).1 := by
  refine o.sweep_induction run dryRun
    (motive := fun _ s visits t _ => Chronicle o.limit run s visits t) ?_ ?_ ?_ turns s
  · intro s
    exact .refl s
  · intro x rest s t halt hturn
    have h := o.chronicle_turn run dryRun x s
    rwa [hturn] at h
  · intro x rest s t visits u result hturn hrest
    have h := o.chronicle_turn run dryRun x s
    rw [hturn] at h
    exact h.trans hrest

end Orchestrator

namespace Registry

/-- The slot is one of a default app. -/
def HasDefault (r : Registry) (x : Slot) : Prop :=
  x.pass = .default ∧ x.app ∈ r.defaults ∧ x.name = x.app.name

/-- The slot is one of an app that an experiment declares besides the default ones. -/
def HasDeclared (r : Registry) (e : Experiment) (x : Slot) : Prop :=
  x.pass = .scenario ∧ x.name ∈ e.declaredApps ∧ r.isDefault x.name = false ∧
    x.app = r.resolve x.name

theorem hasDefault_of_mem {r : Registry} {x : Slot} (h : .serve x ∈ r.defaultTurns) :
    r.HasDefault x := by
  obtain ⟨app, happ, hserve⟩ := List.mem_map.mp h
  cases hserve
  exact ⟨rfl, happ, rfl⟩

theorem hasDeclared_of_mem {r : Registry} {e : Experiment} {x : Slot}
    (h : .serve x ∈ r.declaredTurns e.declaredApps) : r.HasDeclared e x := by
  obtain ⟨name, hname, hserve⟩ := List.mem_map.mp h
  split at hserve
  · cases hserve
  · rename_i hdefault
    cases hserve
    exact ⟨rfl, hname, by simpa using hdefault, rfl⟩

end Registry

/-- The hooks of a call: those of default apps between two sessions, then those of apps that
the experiment declares in between. -/
structure Told (o : Orchestrator) (run : Run) (s : Session) (first : List Visit) (t : Session)
    (second : List Visit) (u : Session) : Prop where
  first_pass : Chronicle o.limit run s first t
  second_pass : Chronicle o.limit run t second u
  first_slots : ∀ v ∈ first, o.registry.HasDefault v.slot
  second_slots : ∀ v ∈ second, o.registry.HasDeclared t.scene.experiment v.slot

theorem Told.chronicle {o : Orchestrator} {run : Run} {s t u : Session}
    {first second : List Visit} (h : Told o run s first t second u) :
    Chronicle o.limit run s (first ++ second) u := h.first_pass.trans h.second_pass

/-- A hook after which the call does not go on ends the call. -/
def Decides (run : Run) (visits : List Visit) (result : Except Halt Unit) : Prop :=
  ∀ v ∈ visits, ∀ halt, (v.close run).2 = .error halt → result = .error halt

namespace Orchestrator
variable (o : Orchestrator) (run : Run) (dryRun : Bool)

/-- Either the first pass ends the call, or the second one follows it. -/
theorem passes_cases (s : Session) :
    (∃ t halt, o.sweep run dryRun o.registry.defaultTurns s = (t, .error halt) ∧
      o.passes run dryRun s = (t, .error halt) ∧
      o.passVisits run dryRun s = o.visits run dryRun o.registry.defaultTurns s) ∨
    ∃ t, o.sweep run dryRun o.registry.defaultTurns s = (t, .ok ()) ∧
      o.passes run dryRun s =
        o.sweep run dryRun (o.registry.declaredTurns t.scene.experiment.declaredApps) t ∧
      o.passVisits run dryRun s = o.visits run dryRun o.registry.defaultTurns s ++
        o.visits run dryRun (o.registry.declaredTurns t.scene.experiment.declaredApps) t := by
  unfold passes passVisits
  cases o.sweep run dryRun o.registry.defaultTurns s with
  | mk t result =>
    cases result with
    | error halt => exact Or.inl ⟨t, halt, rfl, rfl, List.append_nil _⟩
    | ok _ => exact Or.inr ⟨t, rfl, rfl, rfl⟩

/-- The hooks of both passes tell what happened in them. -/
theorem passes_told (s : Session) :
    ∃ first t second, o.passVisits run dryRun s = first ++ second ∧
      Told o run s first t second (o.passes run dryRun s).1 ∧
      Decides run (first ++ second) (o.passes run dryRun s).2 := by
  have hfirst := o.chronicle_sweep run dryRun o.registry.defaultTurns s
  have hslots : ∀ v ∈ o.visits run dryRun o.registry.defaultTurns s,
      o.registry.HasDefault v.slot := fun v hv =>
    Registry.hasDefault_of_mem (o.serve_mem_of_mem_visits run dryRun hv)
  have hends : Decides run (o.visits run dryRun o.registry.defaultTurns s)
      (o.sweep run dryRun o.registry.defaultTurns s).2 :=
    fun v hv halt hclose => o.result_of_mem_visits run dryRun hv hclose
  rcases o.passes_cases run dryRun s with ⟨t, halt, hsweep, hpasses, hvisits⟩ |
    ⟨t, hsweep, hpasses, hvisits⟩
  · rw [hsweep] at hfirst hends
    refine ⟨_, t, [], by rw [hvisits, List.append_nil], ?_, ?_⟩
    · rw [hpasses]
      exact ⟨hfirst, .refl t, hslots, fun v hv => (List.not_mem_nil hv).elim⟩
    · rw [hpasses, List.append_nil]
      exact hends
  · rw [hsweep] at hfirst hends
    refine ⟨_, t, _, hvisits, ?_, ?_⟩
    · rw [hpasses]
      exact ⟨hfirst, o.chronicle_sweep run dryRun _ t, hslots, fun v hv =>
        Registry.hasDeclared_of_mem (o.serve_mem_of_mem_visits run dryRun hv)⟩
    · rw [hpasses]
      intro v hv halt hclose
      rcases List.mem_append.mp hv with hv | hv
      · cases hends v hv halt hclose
      · exact o.result_of_mem_visits run dryRun hv hclose

/-- The end of a call calls no app and makes no report. -/
theorem trace_finish (stage : Stage) (s : Session) :
    (finish stage s).trace.calls = s.trace.calls ∧
      (finish stage s).trace.hooks = s.trace.hooks ∧
      (finish stage s).trace.reports = s.trace.reports := by
  have hclosing : ∃ closing : Trace, (finish stage s).trace = s.trace ++ closing ∧
      closing.calls = [] ∧ closing.reports = [] := by
    unfold finish
    split
    · exact ⟨[.noticed .defaultsApplied, .noticed .applied], List.append_assoc .., rfl, rfl⟩
    · exact ⟨[.noticed .applied], rfl, rfl, rfl⟩
  obtain ⟨closing, htrace, hcalls, hreports⟩ := hclosing
  have hhooks : closing.hooks = [] := by rw [Trace.hooks, hcalls, List.filter_nil]
  rw [htrace, Trace.calls_append, Trace.hooks_append, Trace.reports_append, hcalls, hhooks,
    hreports]
  exact ⟨List.append_nil _, List.append_nil _, List.append_nil _⟩

/-- A call ends where its passes end, or with the usual ending if nothing failed. -/
def EndsAt (stage : Stage) (u : Session) (t : Session × Except Halt Unit) : Prop :=
  t = (finish stage u, .ok ()) ∨ ∃ halt, t = (u, .error halt)

namespace EndsAt
variable {stage : Stage} {u : Session} {t : Session × Except Halt Unit}

theorem fst (h : EndsAt stage u t) : t.1 = u ∨ t.1 = finish stage u := by
  rcases h with rfl | ⟨halt, rfl⟩
  · exact Or.inr rfl
  · exact Or.inl rfl

theorem trace (h : EndsAt stage u t) :
    t.1.trace.calls = u.trace.calls ∧ t.1.trace.hooks = u.trace.hooks ∧
      t.1.trace.reports = u.trace.reports := by
  rcases h with rfl | ⟨halt, rfl⟩
  · exact trace_finish stage u
  · exact ⟨rfl, rfl, rfl⟩

end EndsAt

theorem chronicle_opened (stage : Stage) (s : Session) :
    Chronicle o.limit run s [] (opened stage dryRun s) := .notice s (by simp)

/-- The hooks of a call for a stage tell what happened up to the end of its passes. -/
theorem callVisits_told (id : RunId) {options : List InvocationOption} {stage : Stage}
    (hstage : (Invocation.ofOptions options).stage = some stage) (s : Session) :
    ∃ first t second u, o.callVisits id options s = first ++ second ∧
      Told o ⟨id, stage⟩ s first t second u ∧
      Decides ⟨id, stage⟩ (first ++ second) (o.apply id options s).2 ∧
      EndsAt stage u (o.apply id options s) := by
  generalize hdryRun : (Invocation.ofOptions options).dryRun = dryRun
  obtain ⟨first, t, second, hvisits, htold, hdecides⟩ :=
    o.passes_told ⟨id, stage⟩ dryRun (opened stage dryRun s)
  have hcall : o.callVisits id options s = first ++ second := by
    simp only [callVisits, hstage, hdryRun, hvisits]
  have hopening := o.chronicle_opened ⟨id, stage⟩ dryRun stage s
  obtain ⟨u, ⟨hpasses, happly⟩ | ⟨halt, hpasses, happly⟩⟩ := o.apply_cases hstage hdryRun s
  all_goals
    rw [hpasses] at htold hdecides
    rw [happly]
    refine ⟨first, t, second, u, hcall, ⟨hopening.trans htold.first_pass, htold.second_pass,
      htold.first_slots, htold.second_slots⟩, hdecides, ?_⟩
  · exact Or.inl rfl
  · exact Or.inr ⟨halt, rfl⟩

/-- A hook after which the call does not go on ends the call. -/
theorem callVisits_decides (id : RunId) {options : List InvocationOption} {stage : Stage}
    (hstage : (Invocation.ofOptions options).stage = some stage) (s : Session) :
    Decides ⟨id, stage⟩ (o.callVisits id options s) (o.apply id options s).2 := by
  obtain ⟨first, t, second, u, hvisits, -, hdecides, -⟩ := o.callVisits_told id hstage s
  rwa [hvisits]

/-- A call for a stage is told by its hooks up to the end of its passes. -/
theorem apply_told (id : RunId) {options : List InvocationOption} {stage : Stage}
    (hstage : (Invocation.ofOptions options).stage = some stage) (s : Session) :
    ∃ first t second u, Told o ⟨id, stage⟩ s first t second u ∧
      Decides ⟨id, stage⟩ (first ++ second) (o.apply id options s).2 ∧
      EndsAt stage u (o.apply id options s) := by
  obtain ⟨first, t, second, u, -, htold⟩ := o.callVisits_told id hstage s
  exact ⟨first, t, second, u, htold⟩

end Orchestrator

/-! ### A small laboratory -/

namespace Sample

/-- A default app that sets up a gate and takes its time. -/
def audit : App :=
  { App.plain "audit" with
    hook := fun _ => .change (·.update (·.withNode { hostname := "gate" })) (.wait ⟨5⟩ .done) }

/-- The default app, and nothing in place of others. -/
def steps : List BuildStep := [.registerDefault audit, .fallback App.missing]

/-- The registry of these steps, without a time limit. -/
def lab : Orchestrator where
  registry := ⟨SortedMap.empty.insert "audit" audit, ["audit"], some App.missing,
    defaultCommandStart⟩

/-- A scenario that declares an app that is missing and the default app. A request to cancel
may come up. -/
def session (upcoming : Option (Nat × HandleEvent)) : Session where
  scene := {
    experiment := (Experiment.new "lab").withScenario (some (.ofNames ["probe", "audit"])) }
  channel := {}
  upcoming := upcoming

end Sample
end LabLifecycle

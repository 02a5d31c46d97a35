import LabLifecycle.Proofs.Call.Chronicle
import LabLifecycle.Proofs.Registry.Consistency

/-!
# Reports about hooks

A call reports on every hook that it has started, once, in the order of the hooks. Reports
are made in three places: in either pass when a hook has ended, and where a hook is found
interrupted. The last one goes by the name that the app itself has and not by the name that
it runs for; in a registry that is built from scratch the two are the same.
-/
namespace LabLifecycle

namespace Visit

/-- How a hook did, once it is over. Only a declared app may be unavailable. -/
def status? (v : Visit) : Option AppStatus :=
  match v.ended, v.slot.pass with
  | .finished (.ok _), _ => some .ok
  | .finished (.error (.unresolved _)), .scenario => some .unresolved
  | .finished (.error _), _ => some .failed
  | .interrupted, _ => some .failed
  | .pending, _ => none

/-- The report that is due for a hook, once it is over: it goes by the name that the hook
was run for. -/
def record? (run : Run) (v : Visit) : Option Report :=
  v.status?.map fun status => ⟨run.id, v.slot.name, run.stage, v.slot.pass, status⟩

variable (run : Run) {v : Visit}

theorem status?_of_finished {result : HookResult} (h : v.ended = .finished result) :
    v.status? = some (v.slot.pass.status result) := by
  unfold status? Pass.status
  rw [h]
  cases result with
  | ok _ => cases v.slot.pass <;> rfl
  | error e =>
    cases v.slot.pass with
    | default => cases e <;> rfl
    | scenario => cases e <;> rfl

/-- The report that is made is the one that is due, if the app bears the name that it runs
for. -/
theorem report?_eq_record? (hname : v.slot.app.name = v.slot.name) :
    v.report? run = v.record? run := by
  unfold report? record?
  cases hended : v.ended with
  | finished result => rw [status?_of_finished hended, Option.map_some]
  | interrupted =>
    simp only [status?, hended, hname]
    rfl
  | pending =>
    simp only [status?, hended]
    rfl

/-- Only for a hook that never ends no report is due. -/
theorem isSome_record? (hended : v.ended ≠ .pending) : (v.record? run).isSome := by
  rw [record?, Option.isSome_map]
  cases hend : v.ended with
  | finished result => rw [status?_of_finished hend, Option.isSome_some]
  | interrupted =>
    simp only [status?, hend]
    rfl
  | pending => exact absurd hend hended

end Visit

namespace Registry
variable {r : Registry} {x : Slot}

/-- The default apps are what the default names resolve to. -/
theorem HasDefault.resolves (hr : Consistent r.apps r.defaultNames) (h : r.HasDefault x) :
    x.app = r.resolve x.name ∧ x.name ∈ r.defaultNames := by
  obtain ⟨-, happ, hname⟩ := h
  obtain ⟨name, hmem, hget⟩ := List.mem_filterMap.mp happ
  have hbears : x.app.name = name := hr.name_eq hget
  rw [hname, hbears]
  exact ⟨(resolve_of_get? hget).symm, hmem⟩

theorem HasDeclared.resolves {e : Experiment} (h : r.HasDeclared e x) :
    x.app = r.resolve x.name ∧ x.name ∉ r.defaultNames := by
  obtain ⟨-, -, hdefault, happ⟩ := h
  exact ⟨happ, by simpa [isDefault] using hdefault⟩

end Registry

namespace Orchestrator

variable (o : Orchestrator) {steps : List BuildStep}

/-- A call makes one report for every hook that it has started, in their order: with its run,
its stage, and the pass, the name and the status of the hook. Only a hook that never ends has
none, and then the call does not return. Without a stage nothing happens. -/
theorem one_report_per_hook (hbuilt : Registry.ofSteps steps = .ok o.registry)
    (hnames : ∀ make, .fallback make ∈ steps → ∀ name, (make name).name = name)
    (id : RunId) (options : List InvocationOption) (s : Session) :
    ((Invocation.ofOptions options).stage = none → (o.apply id options s).1.trace = s.trace) ∧
    ∀ stage, (Invocation.ofOptions options).stage = some stage →
      ∃ first t second u,
        Started o.limit stage s first t ∧ Started o.limit stage t second u ∧
        ((o.apply id options s).1 = u ∨ (o.apply id options s).1 = finish stage u) ∧
        (o.apply id options s).1.trace.hooks =
          s.trace.hooks ++ (first ++ second).map (·.slot.call stage) ∧
        (o.apply id options s).1.trace.reports =
          s.trace.reports ++ (first ++ second).filterMap (·.record? ⟨id, stage⟩) ∧
        (∀ v ∈ first, v.slot.pass = .default ∧ v.slot.name ∈ o.registry.defaultNames) ∧
        (∀ v ∈ second, v.slot.pass = .scenario ∧ v.slot.name ∉ o.registry.defaultNames ∧
          v.slot.name ∈ t.scene.experiment.declaredApps) ∧
        (∀ v ∈ first ++ second, v.slot.app = o.registry.resolve v.slot.name) ∧
        ((o.apply id options s).2 ≠ .error .pending →
          ∀ v ∈ first ++ second, (v.record? ⟨id, stage⟩).isSome) := by
  have hconsistent := Registry.consistent_ofSteps hbuilt
  refine ⟨fun hstage => by simp only [apply, hstage], fun stage hstage => ?_⟩
  obtain ⟨first, t, second, u, htold, hdecides, hend⟩ := o.apply_told id hstage s
  have hfirst : ∀ v ∈ first, v.slot.app = o.registry.resolve v.slot.name ∧
      v.slot.name ∈ o.registry.defaultNames :=
    fun v hv => (htold.first_slots v hv).resolves hconsistent
  have hsecond : ∀ v ∈ second, v.slot.app = o.registry.resolve v.slot.name ∧
      v.slot.name ∉ o.registry.defaultNames :=
    fun v hv => (htold.second_slots v hv).resolves
  have hresolve : ∀ v ∈ first ++ second, v.slot.app = o.registry.resolve v.slot.name :=
    fun v hv => (List.mem_append.mp hv).elim (fun hv => (hfirst v hv).1)
      fun hv => (hsecond v hv).1
  have hrecords : (first ++ second).filterMap (·.report? ⟨id, stage⟩) =
      (first ++ second).filterMap (·.record? ⟨id, stage⟩) := by
    -- An interrupted hook is reported under the name of its app, which is the same name.
    refine List.filterMap_congr fun v hv => Visit.report?_eq_record? _ ?_
    rw [hresolve v hv]
    exact Registry.name_resolve hbuilt hnames v.slot.name
  have hhooks := htold.chronicle.hooks
  have hreports := htold.chronicle.reports
  rw [hrecords] at hreports
  rw [hend.trace.2.1, hend.trace.2.2]
  refine ⟨first, t, second, u, htold.first_pass.toStarted, htold.second_pass.toStarted, hend.fst,
    hhooks, hreports, fun v hv => ⟨(htold.first_slots v hv).1, (hfirst v hv).2⟩, fun v hv =>
    ⟨(htold.second_slots v hv).1, (hsecond v hv).2, (htold.second_slots v hv).2.1⟩, hresolve,
    fun hreturns v hv => Visit.isSome_record? _ fun hpending => ?_⟩
  exact hreturns (hdecides v hv .pending (by rw [Visit.close, hpending]))

/-- In the small laboratory the default app has a report, and the app that is missing. -/
theorem sample_reports :
    Registry.ofSteps Sample.steps = .ok Sample.lab.registry ∧
    (∀ make, .fallback make ∈ Sample.steps → ∀ name, (make name).name = name) ∧
    ∃ visits : List Visit,
      (∀ v ∈ visits, (v.record? ⟨default, .configure⟩).isSome) ∧
      visits.filterMap (·.record? ⟨default, .configure⟩) =
        [⟨default, "audit", .configure, .default, .ok⟩,
          ⟨default, "probe", .configure, .scenario, .unresolved⟩] := by
  have hbuilt : Registry.ofSteps Sample.steps = .ok Sample.lab.registry := rfl
  have hnames : ∀ make, .fallback make ∈ Sample.steps → ∀ name, (make name).name = name := by
    intro make hmake
    have hmake : make = App.missing := by simpa [Sample.steps] using hmake
    rw [hmake]
    exact fun name => rfl
  obtain ⟨first, t, second, u, -, -, -, -, hreports, -, -, -, hsome⟩ :=
    (one_report_per_hook Sample.lab hbuilt hnames default [.stage .configure]
      (Sample.session none)).2 .configure rfl
  exact ⟨hbuilt, hnames, first ++ second, hsome (by decide), hreports.symm⟩

end Orchestrator
end LabLifecycle

import LabLifecycle.Proofs.Call.Dispatch
import Mathlib.Data.List.Nodup

/-!
# How often a hook runs

A call runs the hook of a default app once, however often its name was registered and
whatever the scenario says. For other apps it goes by the scenario: an entry that names the
same app again runs its hook again. So no hook runs twice exactly if the entries that a call
gets to have distinct names.
-/
namespace LabLifecycle

/-- The app that is called, by the name that it is called for. -/
def AppCall.app : AppCall → String
  | init name _ => name
  | hook name _ _ => name

/-- A beginning of a list in two parts has a beginning of each, and none of the second part
before the first one is over. -/
theorem parts_of_prefix_append {α : Type} {l first second : List α} (h : l <+: first ++ second) :
    ∃ early late, l = early ++ late ∧ early <+: first ∧ late <+: second ∧
      (late ≠ [] → early = first) := by
  rcases List.prefix_or_prefix_of_prefix h (List.prefix_append first second) with
    hshort | ⟨late, rfl⟩
  · exact ⟨l, [], (List.append_nil l).symm, hshort, List.nil_prefix, fun hne => absurd rfl hne⟩
  · exact ⟨first, late, rfl, List.prefix_rfl, (List.prefix_append_right_inj first).mp h,
      fun _ => rfl⟩

namespace Registry
variable {r : Registry}

/-- The declared names that a call has to see to: default apps have had their turn. -/
def others (r : Registry) (names : List String) : List String :=
  names.filter fun name => !r.isDefault name

theorem not_mem_defaultNames_of_mem_others {names : List String} {name : String}
    (h : name ∈ r.others names) : name ∉ r.defaultNames := by
  have hother := (List.mem_filter.mp h).2
  simpa [isDefault] using hother

theorem names_defaultSlots (h : Consistent r.apps r.defaultNames) :
    r.defaultSlots.map (·.name) = r.defaultNames := by
  rw [defaultSlots_eq_map h, List.map_map]
  exact List.map_id _

theorem names_declaredSlots (r : Registry) (names : List String) :
    (r.declaredSlots names).map (·.name) = r.others names := by
  rw [declaredSlots, List.map_map]
  exact List.map_id _

/-- Default names are distinct and no other name is among them, so a repetition can only be one
among the others. -/
theorem nodup_append_iff {early late names : List String} (hr : Consistent r.apps r.defaultNames)
    (hearly : early <+: r.defaultNames) (hlate : late <+: r.others names) :
    (early ++ late).Nodup ↔ late.Nodup := by
  refine ⟨fun h => (List.nodup_append.mp h).2.1, fun h => List.nodup_append.mpr ⟨?_, h, ?_⟩⟩
  · exact hr.distinct.sublist hearly.sublist
  · rintro name hname _ hname' rfl
    exact not_mem_defaultNames_of_mem_others (hlate.subset hname') (hearly.subset hname)

end Registry

namespace Orchestrator
variable (o : Orchestrator) {steps : List BuildStep}

/-- The hooks of a call go by the default names and then by those of the other entries that the
default apps leave declared, in order, and to the last of them if the call succeeds. -/
theorem callVisits_follow_names (hr : Consistent o.registry.apps o.registry.defaultNames)
    (id : RunId) {options : List InvocationOption} {stage : Stage} {dryRun : Bool}
    (hstage : (Invocation.ofOptions options).stage = some stage)
    (hdryRun : (Invocation.ofOptions options).dryRun = dryRun) (s : Session) :
    (o.callVisits id options s).map (·.slot.name) <+: o.registry.defaultNames ++
        o.registry.others (o.between stage dryRun s.scene).declaredApps ∧
      ((o.apply id options s).2 = .ok () → (o.callVisits id options s).map (·.slot.name) =
        o.registry.defaultNames ++
          o.registry.others (o.between stage dryRun s.scene).declaredApps) := by
  obtain ⟨hbegin, hall, -⟩ := o.callVisits_slots id hstage hdryRun s
  have hnames : (o.callVisits id options s).map (·.slot.name) =
      ((o.callVisits id options s).map (·.slot)).map (·.name) := by
    rw [List.map_map]
    rfl
  have hagenda : (o.registry.defaultSlots ++ o.registry.declaredSlots
      (o.between stage dryRun s.scene).declaredApps).map (·.name) = o.registry.defaultNames ++
        o.registry.others (o.between stage dryRun s.scene).declaredApps := by
    rw [List.map_append, Registry.names_defaultSlots hr, Registry.names_declaredSlots]
  rw [hnames, ← hagenda]
  exact ⟨hbegin.map _, fun hok => by rw [hall hok]⟩

/-- What a trace tells of the hooks of a call are the names in their order. -/
theorem hooks_follow_names (hr : Consistent o.registry.apps o.registry.defaultNames)
    (id : RunId) {options : List InvocationOption} {stage : Stage} {dryRun : Bool}
    (hstage : (Invocation.ofOptions options).stage = some stage)
    (hdryRun : (Invocation.ofOptions options).dryRun = dryRun) (s : Session) :
    ∃ calls, (o.apply id options s).1.trace.hooks = s.trace.hooks ++ calls ∧
      calls.map AppCall.app <+: o.registry.defaultNames ++
        o.registry.others (o.between stage dryRun s.scene).declaredApps ∧
      ((o.apply id options s).2 = .ok () → calls.map AppCall.app = o.registry.defaultNames ++
        o.registry.others (o.between stage dryRun s.scene).declaredApps) := by
  obtain ⟨u, hchronicle, -, hend⟩ := o.callVisits_swept id hstage hdryRun s
  refine ⟨_, hend.trace.2.1.trans hchronicle.hooks, ?_⟩
  rw [List.map_map]
  exact o.callVisits_follow_names hr id hstage hdryRun s

/-- A call runs the hook of every default app once at most. No hook at all runs twice exactly if
the names of the other entries that the call gets to are distinct, which they are if the
scenario that the default apps leave names no such app twice. -/
theorem runs_once_iff (hbuilt : Registry.ofSteps steps = .ok o.registry) (id : RunId)
    (options : List InvocationOption) (s : Session) :
    ((Invocation.ofOptions options).stage = none →
      (o.apply id options s).1.trace.hooks = s.trace.hooks) ∧
    ∀ stage dryRun, (Invocation.ofOptions options).stage = some stage →
      (Invocation.ofOptions options).dryRun = dryRun →
      ∃ calls early late, (o.apply id options s).1.trace.hooks = s.trace.hooks ++ calls ∧
        calls.map AppCall.app = early ++ late ∧ early <+: o.registry.defaultNames ∧
        late <+: o.registry.others (o.between stage dryRun s.scene).declaredApps ∧
        (late ≠ [] → early = o.registry.defaultNames) ∧
        ((o.apply id options s).2 = .ok () → early = o.registry.defaultNames ∧
          late = o.registry.others (o.between stage dryRun s.scene).declaredApps) ∧
        (∀ name ∈ o.registry.defaultNames, (calls.map AppCall.app).count name ≤ 1) ∧
        ((∀ name, (calls.map AppCall.app).count name ≤ 1) ↔ late.Nodup) ∧
        ((o.registry.others (o.between stage dryRun s.scene).declaredApps).Nodup →
          ∀ name, (calls.map AppCall.app).count name ≤ 1) := by
  have hr := Registry.consistent_ofSteps hbuilt
  refine ⟨fun hstage => by simp only [apply, hstage], fun stage dryRun hstage hdryRun => ?_⟩
  obtain ⟨calls, hhooks, hnames, hok⟩ := o.hooks_follow_names hr id hstage hdryRun s
  obtain ⟨early, late, hsplit, hearly, hlate, hfull⟩ := parts_of_prefix_append hnames
  have honce : (∀ name, (calls.map AppCall.app).count name ≤ 1) ↔ late.Nodup := by
    rw [← List.nodup_iff_count_le_one, hsplit]
    exact Registry.nodup_append_iff hr hearly hlate
  refine ⟨calls, early, late, hhooks, hsplit, hearly, hlate, hfull, fun hresult => ?_, ?_, honce,
    fun hdistinct => honce.mpr (hdistinct.sublist hlate.sublist)⟩
  · have hwhole : early ++ late = _ := hsplit.symm.trans (hok hresult)
    have hlengths := congrArg List.length hwhole
    rw [List.length_append, List.length_append] at hlengths
    have := hearly.length_le
    have := hlate.length_le
    exact List.append_inj hwhole (by omega)
  · intro name hname
    have hnot : name ∉ late := fun hmem =>
      Registry.not_mem_defaultNames_of_mem_others (hlate.subset hmem) hname
    rw [hsplit, List.count_append, List.count_eq_zero_of_not_mem hnot, Nat.add_zero]
    exact List.nodup_iff_count_le_one.mp (hr.distinct.sublist hearly.sublist) name

end Orchestrator

/-! ### Entries of one name -/

namespace Sample

/-- A registry with a single app, which does not run by default. -/
def bench : Orchestrator where
  registry := ⟨SortedMap.empty.insert "tap" (App.plain "tap"), [], none, defaultCommandStart⟩

/-- A call that nobody can cancel, for a scenario that declares some apps by name. -/
def declaring (names : List String) : Session where
  scene := { experiment := (Experiment.new "lab").withScenario (some (.ofNames names)) }

end Sample

namespace Orchestrator

/-- In the small laboratory the scenario names the default app once more, and yet no hook runs
twice. -/
theorem sample_once :
    Registry.ofSteps Sample.steps = .ok Sample.lab.registry ∧
    (Invocation.ofOptions [.stage .cleanup]).stage = some .cleanup ∧
    (Invocation.ofOptions [.stage .cleanup]).dryRun = false ∧
    ∃ calls, (Sample.lab.apply default [.stage .cleanup] (Sample.session none)).1.trace.hooks =
        calls ∧
      calls.map AppCall.app = ["audit", "probe"] ∧
      ∀ name, (calls.map AppCall.app).count name ≤ 1 := by
  have hbuilt : Registry.ofSteps Sample.steps = .ok Sample.lab.registry := rfl
  obtain ⟨calls, early, late, hhooks, -, -, -, -, -, -, -, honce⟩ :=
    (runs_once_iff Sample.lab hbuilt default [.stage .cleanup] (Sample.session none)).2
      .cleanup false rfl rfl
  have hhooks : (Sample.lab.apply default [.stage .cleanup]
      (Sample.session none)).1.trace.hooks = calls := hhooks
  refine ⟨hbuilt, rfl, rfl, calls, hhooks, ?_, honce (by decide)⟩
  rw [← hhooks]
  rfl

/-- An app that a scenario declares twice has its hook run twice in a call. -/
theorem declared_twice_runs_twice :
    Registry.ofSteps [.register (App.plain "tap")] = .ok Sample.bench.registry ∧
    (Sample.bench.apply default [.stage .configure] (Sample.declaring ["tap", "tap"])).2 = .ok () ∧
    ((Sample.bench.apply default [.stage .configure]
      (Sample.declaring ["tap", "tap"])).1.trace.hooks.map AppCall.app).count "tap" = 2 :=
  ⟨rfl, rfl, by decide⟩

end Orchestrator
end LabLifecycle

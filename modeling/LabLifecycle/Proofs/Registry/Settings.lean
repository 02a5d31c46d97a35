import LabLifecycle.Config
import LabLifecycle.Proofs.Registry.Expectations

/-!
# Registries that settings describe

Settings always describe a registry: its default apps are the commands that they list, and every
name stands for the external command of that name. The default apps have been told by then
whether they do dry runs, and nothing else has happened.
-/
namespace LabLifecycle

theorem RegistryBuilder.run_append (b : RegistryBuilder) (steps more : List BuildStep) :
    b.run (steps ++ more) = (b.run steps).run more := List.foldl_append

namespace EngineConfig
variable (c : EngineConfig) (host : CommandHost)

/-- The building steps of the registry that the settings describe. -/
def steps : List BuildStep :=
  (c.defaultApps.map fun name => .registerDefault (c.external host name).app) ++
    [.externalCommands host c.commandStart, .expectDefaults c.defaultApps]

/-- The surroundings after some apps were told whether they do dry runs. -/
def tell (names : List String) (s : Surroundings) : Surroundings :=
  names.foldl (fun s name => s.switchDryRun name c.dryRun) s

/-- Being told changes nothing but the switches. -/
theorem tell_leaves (names : List String) (s : Surroundings) :
    (c.tell names s).journal = s.journal ∧ (c.tell names s).launches = s.launches ∧
      (c.tell names s).machine = s.machine := by
  induction names generalizing s with
  | nil => exact ⟨rfl, rfl, rfl⟩
  | cons name rest ih => exact ih (s.switchDryRun name c.dryRun)

/-- An app that was told has its switch set as the settings say. -/
theorem dryRuns_tell (names : List String) (s : Surroundings) (name : String) :
    (c.tell names s).dryRuns.get? name =
      if name ∈ names then some c.dryRun else s.dryRuns.get? name := by
  induction names generalizing s with
  | nil => rfl
  | cons first rest ih =>
    rw [tell, List.foldl_cons]
    refine (ih (s.switchDryRun first c.dryRun)).trans ?_
    rw [Surroundings.switchDryRun, SortedMap.get?_insert]
    by_cases hrest : name ∈ rest
    · simp [hrest]
    · simp [hrest]

/-- Commands never refuse to be told, so all of them are registered. -/
theorem registerDefaults_eq (names : List String) (b : RegistryBuilder) (s : Surroundings) :
    c.registerDefaults host names b s =
      .ok (b.run (names.map fun name => .registerDefault (c.external host name).app),
        c.tell names s) := by
  induction names generalizing b s with
  | nil => rfl
  | cons name rest ih =>
    exact ih (b.registerDefault (c.external host name).app) (s.switchDryRun name c.dryRun)

theorem registryBuilder_eq (s : Surroundings) :
    c.registryBuilder host s =
      .ok (RegistryBuilder.run {} (c.steps host), c.tell c.defaultApps s) := by
  rw [registryBuilder, registerDefaults_eq, steps, RegistryBuilder.run_append]
  rfl

/-! ### What the steps give -/

theorem registered_steps : (c.steps host).filterMap BuildStep.registered? =
    c.defaultApps.map fun name => (c.external host name).app := by
  simp [steps, List.filterMap_append, List.filterMap_map, Function.comp_def,
    BuildStep.registered?]

theorem defaultName_steps : (c.steps host).filterMap BuildStep.defaultName? = c.defaultApps := by
  have hname : ∀ name, (c.external host name).app.name = name := fun _ => rfl
  simp [steps, List.filterMap_append, List.filterMap_map, Function.comp_def,
    BuildStep.defaultName?, hname]

theorem fallback_steps : BuildStep.lastFallback? (c.steps host) =
    some fun name => (c.external host name).app := by
  simp [BuildStep.lastFallback?, steps, List.filterMap_append, List.filterMap_map,
    List.filterMap_cons, Function.comp_def, BuildStep.fallback?, external]

/-- The settings expect those defaults only that they register, so nothing is missing. -/
theorem unmet_steps : BuildStep.unmet (c.steps host) = [] := by
  have hexpected : (c.steps host).filterMap BuildStep.expected? = [c.defaultApps] := by
    simp [steps, List.filterMap_append, List.filterMap_map, List.filterMap_cons,
      Function.comp_def, BuildStep.expected?]
  rw [BuildStep.unmet, hexpected, defaultName_steps]
  simp

/-- Whatever is registered with a name is its external command. -/
theorem lastApp?_steps {name : String} {app : App}
    (h : BuildStep.lastApp? (c.steps host) name = some app) :
    app = (c.external host name).app := by
  rw [BuildStep.lastApp?, registered_steps] at h
  obtain ⟨hregistered, hname⟩ := List.mem_filter.mp (List.mem_of_getLast? h)
  obtain ⟨other, -, rfl⟩ := List.mem_map.mp hregistered
  obtain rfl : other = name := of_decide_eq_true hname
  rfl

/-- Settings always describe a registry. Its default names are those that they list, each at its
first place, and every name stands for the external command of that name. -/
theorem ofSteps_steps : ∃ r, Registry.ofSteps (c.steps host) = .ok r ∧
    r.defaultNames = c.defaultApps.eraseDups ∧
    (∀ name, r.resolve name = (c.external host name).app) ∧ r.commandStart = c.commandStart := by
  cases hbuilt : Registry.ofSteps (c.steps host) with
  | error e => exact absurd (c.unmet_steps host) (Registry.ofSteps_eq_error_iff.mp hbuilt).1
  | ok r =>
    obtain ⟨hget, hnames, hfallback⟩ := Registry.ofSteps_reflects hbuilt
    refine ⟨r, rfl, ?_, fun name => ?_, ?_⟩
    · rw [hnames, BuildStep.defaultNames, defaultName_steps]
    · rw [Registry.resolve, hget, hfallback, fallback_steps]
      cases happ : BuildStep.lastApp? (c.steps host) name with
      | some app => exact c.lastApp?_steps host happ
      | none => rfl
    · have hstart : (RegistryBuilder.run {} (c.steps host)).commandStart = c.commandStart := by
        rw [steps, RegistryBuilder.run_append]
        rfl
      exact (Registry.ofSteps_eq_ok hbuilt).2.2.2.trans hstart

/-- Settings never fail to lead to a registry, whatever they list. Its default names are those
listed, without repetitions, and each of them has its app among the default apps. Every name
stands for the external command that has the start told and then the name. The switches for dry
runs are set as told for the default apps, and as they were for all others. -/
theorem registryBuilder_complete (s : Surroundings) : ∃ b told r,
    c.registryBuilder host s = .ok (b, told) ∧ b.build = .ok r ∧
    r.defaultNames = c.defaultApps.eraseDups ∧
    r.defaults = c.defaultApps.eraseDups.map r.resolve ∧
    (∀ name, ∃ a : ExternalApp, r.resolve name = a.app ∧ a.name = name ∧ a.host = host ∧
      a.command = c.commandStart ++ name) ∧
    (∀ name, told.dryRuns.get? name =
      if name ∈ c.defaultApps then some c.dryRun else s.dryRuns.get? name) ∧
    r.commandStart = c.commandStart := by
  obtain ⟨r, hbuilt, hnames, hresolve, hstart⟩ := c.ofSteps_steps host
  refine ⟨_, _, r, c.registryBuilder_eq host s, hbuilt, hnames, ?_, fun name => ?_,
    c.dryRuns_tell c.defaultApps s, hstart⟩
  · rw [Registry.defaults_eq_map (Registry.consistent_ofSteps hbuilt), hnames]
  · exact ⟨c.external host name, hresolve name, rfl, rfl, rfl⟩

end EngineConfig
end LabLifecycle

import LabLifecycle.Engine.Session
import LabLifecycle.Proofs.Registry.Consistency

/-!
# What a registry has from its building steps

Every part of a registry under construction can be read off the steps so far: under a name
stands the app that was registered last with it, the default names are in the order in which they
first became such, and the fallback is the latest one. No step looks at what other steps have
left, so this is kept step by step, in whatever order the steps come.
-/
namespace LabLifecycle

namespace BuildStep

/-- The app that a step registers, to run by default or not. -/
def registered? : BuildStep → Option App
  | register app | registerDefault app => some app
  | _ => none

/-- The name that a step makes a default one. -/
def defaultName? : BuildStep → Option String
  | registerDefault app => some app.name
  | _ => none

/-- What a step leaves names to that are not registered. -/
def fallback? : BuildStep → Option (String → App)
  | fallback make => some make
  | externalCommands host start => some fun name => (ExternalApp.mk name start host).app
  | _ => none

/-- The app that steps have registered last with a name. -/
def lastApp? (steps : List BuildStep) (name : String) : Option App :=
  ((steps.filterMap registered?).filter (·.name = name)).getLast?

/-- The names that steps make default ones, in the order of the first such step for each. -/
def defaultNames (steps : List BuildStep) : List String :=
  (steps.filterMap defaultName?).eraseDups

/-- The fallback that steps have given last. -/
def lastFallback? (steps : List BuildStep) : Option (String → App) :=
  (steps.filterMap fallback?).getLast?

/-! ### One more step -/

/-- An app takes the place of an earlier one of its name. -/
theorem lastApp?_concat (steps : List BuildStep) (x : BuildStep) (name : String) :
    lastApp? (steps ++ [x]) name =
      (x.registered?.filter (·.name = name)).or (lastApp? steps name) := by
  have hlast : lastApp? [x] name = x.registered?.filter (·.name = name) := by
    cases hx : x.registered? with
    | none => simp [lastApp?, hx]
    | some app =>
      by_cases hname : app.name = name
      · simp [lastApp?, hx, hname, Option.filter]
      · simp [lastApp?, hx, hname, Option.filter]
  rw [← hlast, lastApp?, lastApp?, lastApp?, List.filterMap_append, List.filter_append,
    List.getLast?_append]

/-- A name that is a default one already keeps its place, and any other comes last. -/
theorem defaultNames_concat (steps : List BuildStep) (x : BuildStep) :
    defaultNames (steps ++ [x]) =
      match x.defaultName? with
      | none => defaultNames steps
      | some name =>
        if (defaultNames steps).contains name then defaultNames steps
        else defaultNames steps ++ [name] := by
  cases hx : x.defaultName? with
  | none => simp [defaultNames, List.filterMap_append, hx]
  | some name =>
    have hmap : (steps ++ [x]).filterMap defaultName? = steps.filterMap defaultName? ++ [name] := by
      simp [List.filterMap_append, hx]
    have hcontains : (defaultNames steps).contains name =
        (steps.filterMap defaultName?).contains name := by
      rw [Bool.eq_iff_iff, List.contains_iff_mem, List.contains_iff_mem, defaultNames,
        List.mem_eraseDups]
    dsimp only
    rw [hcontains, defaultNames, hmap, List.eraseDups_append, List.removeAll]
    cases hseen : (steps.filterMap defaultName?).contains name with
    | true =>
      rw [if_pos rfl, List.filter_cons_of_neg (by simpa using hseen), List.filter_nil,
        List.eraseDups_nil, List.append_nil, defaultNames]
    | false =>
      rw [if_neg Bool.false_ne_true, List.filter_cons_of_pos (by simpa using hseen),
        List.filter_nil, List.eraseDups_cons, List.filter_nil, List.eraseDups_nil, defaultNames]

theorem lastFallback?_concat (steps : List BuildStep) (x : BuildStep) :
    lastFallback? (steps ++ [x]) = x.fallback?.or (lastFallback? steps) := by
  have hlast : lastFallback? [x] = x.fallback? := by
    cases hx : x.fallback? with
    | none => simp [lastFallback?, hx]
    | some make => simp [lastFallback?, hx]
  rw [← hlast, lastFallback?, lastFallback?, lastFallback?, List.filterMap_append,
    List.getLast?_append]

end BuildStep

/-! ### What a step leaves -/

namespace RegistryBuilder
variable (b : RegistryBuilder) (x : BuildStep)

theorem get?_register (app : App) (name : String) :
    (b.register app).apps.get? name =
      ((some app).filter (·.name = name)).or (b.apps.get? name) := by
  rw [register, SortedMap.get?_insert]
  by_cases hname : app.name = name
  · simp [hname, Option.filter]
  · simp [hname, Option.filter, Ne.symm hname]

theorem get?_step (name : String) :
    (b.step x).apps.get? name = (x.registered?.filter (·.name = name)).or (b.apps.get? name) := by
  cases x with
  | register app => exact b.get?_register app name
  | registerDefault app => exact get?_register _ app name
  | _ => rfl

theorem defaultNames_step :
    (b.step x).defaultNames =
      match x.defaultName? with
      | none => b.defaultNames
      | some name =>
        if b.defaultNames.contains name then b.defaultNames else b.defaultNames ++ [name] := by
  cases x <;> rfl

theorem fallback_step : (b.step x).fallback = x.fallback?.or b.fallback := by
  cases x <;> rfl

end RegistryBuilder

/-- The parts of a registry under construction are those that its steps give. -/
structure RegistryBuilder.Reflects (b : RegistryBuilder) (steps : List BuildStep) : Prop where
  apps : ∀ name, b.apps.get? name = BuildStep.lastApp? steps name
  defaultNames : b.defaultNames = BuildStep.defaultNames steps
  fallback : b.fallback = BuildStep.lastFallback? steps

namespace RegistryBuilder.Reflects
variable {b : RegistryBuilder} {steps : List BuildStep}

theorem nil : ({} : RegistryBuilder).Reflects [] where
  apps _ := rfl
  defaultNames := rfl
  fallback := rfl

theorem step (h : b.Reflects steps) (x : BuildStep) : (b.step x).Reflects (steps ++ [x]) where
  apps name := by rw [b.get?_step, BuildStep.lastApp?_concat, h.apps]
  defaultNames := by rw [b.defaultNames_step, BuildStep.defaultNames_concat, h.defaultNames]
  fallback := by rw [b.fallback_step, BuildStep.lastFallback?_concat, h.fallback]

/-- The induction is on the steps to come. -/
theorem run (more : List BuildStep) (h : b.Reflects steps) :
    (b.run more).Reflects (steps ++ more) := by
  induction more generalizing b steps with
  | nil =>
    rw [List.append_nil]
    exact h
  | cons x rest ih =>
    have hrest := ih (h.step x)
    rwa [List.append_assoc, List.singleton_append] at hrest

end RegistryBuilder.Reflects

namespace App

/-- The hook of an app that is missing fails at once, and nothing has changed by then. -/
theorem run_hook_missing (name : String) (stage : Stage) (deadline : Option Deadline)
    (s : Session) :
    ((missing name).hook stage).run deadline s = (s, .finished (.error (.unresolved name))) := rfl

end App

namespace Registry
variable {r : Registry} {steps : List BuildStep}

/-- The registry that is built from steps has the parts that they give. -/
theorem ofSteps_reflects (h : ofSteps steps = .ok r) :
    (∀ name, r.get? name = BuildStep.lastApp? steps name) ∧
      r.defaultNames = BuildStep.defaultNames steps ∧
      r.fallback = BuildStep.lastFallback? steps := by
  obtain ⟨happs, hnames, hfallback, -⟩ := ofSteps_eq_ok h
  have hreflects := RegistryBuilder.Reflects.nil.run steps
  rw [List.nil_append] at hreflects
  refine ⟨fun name => ?_, hnames.trans hreflects.defaultNames,
    hfallback.trans hreflects.fallback⟩
  rw [get?, happs]
  exact hreflects.apps name

/-- Every default name has its app among the default apps, in order. -/
theorem map_defaults (h : ofSteps steps = .ok r) :
    r.defaults.map some = r.defaultNames.map r.get? := by
  have hr := consistent_ofSteps h
  rw [defaults_eq_map hr, List.map_map]
  refine List.map_congr_left fun name hname => ?_
  obtain ⟨app, happ⟩ := hr.registered name hname
  have happ : r.get? name = some app := happ
  rw [Function.comp_apply, resolve_of_get? happ, happ]

/-- A registry that is built holds under each name the app that was registered last with it.
Its default names are distinct and in the order in which each first became one, and each of them
has its one app among the default apps. Every name resolves to an app that bears it: the one that
is registered, or else that of the latest fallback, or else one that is missing at every stage. -/
theorem contents_of_steps (h : ofSteps steps = .ok r)
    (hnames : ∀ make, .fallback make ∈ steps → ∀ name, (make name).name = name) :
    (∀ name, r.get? name =
      ((steps.filterMap BuildStep.registered?).filter (·.name = name)).getLast?) ∧
    r.defaultNames = (steps.filterMap BuildStep.defaultName?).eraseDups ∧
    r.defaultNames.Nodup ∧
    r.defaults.map some = r.defaultNames.map r.get? ∧
    ∀ name, (r.resolve name).name = name ∧
      (∀ app, r.get? name = some app → r.resolve name = app) ∧
      (r.get? name = none →
        (∀ make, (steps.filterMap BuildStep.fallback?).getLast? = some make →
          r.resolve name = make name) ∧
        ((steps.filterMap BuildStep.fallback?).getLast? = none →
          ∀ stage deadline s, ((r.resolve name).hook stage).run deadline s =
            (s, .finished (.error (.unresolved name))))) := by
  obtain ⟨hget, hdefaults, hfallback⟩ := ofSteps_reflects h
  refine ⟨hget, hdefaults, (consistent_ofSteps h).distinct, map_defaults h, fun name => ?_⟩
  refine ⟨name_resolve h hnames name, fun app => resolve_of_get?, fun hnone => ⟨?_, ?_⟩⟩
  · intro make hmake
    have hmake : r.fallback = some make := hfallback.trans hmake
    simp only [resolve, hnone, hmake]
  · intro hmake stage deadline s
    have hmake : r.fallback = none := hfallback.trans hmake
    simp only [resolve, hnone, hmake]
    exact App.run_hook_missing name stage deadline s

end Registry

/-! ### A default app that is registered anew -/

namespace Sample

/-- Two default apps. The first is replaced later on by a registration that is no default one, and
two fallbacks come in between. -/
def revision : List BuildStep := [
  .registerDefault (.missing "audit"), .fallback App.plain, .registerDefault (.plain "probe"),
  .fallback App.missing, .register (.plain "audit"), .expectDefaults ["audit"]]

end Sample

namespace Registry

/-- The replaced app is the one that runs, at its old place, and the later fallback counts. -/
theorem sample_revision : ∃ r, ofSteps Sample.revision = .ok r ∧
    r.get? "audit" = some (.plain "audit") ∧ r.defaultNames = ["audit", "probe"] ∧
    r.defaults.map some = [some (.plain "audit"), some (.plain "probe")] ∧
    r.resolve "tap" = .missing "tap" := by
  obtain ⟨r, hr⟩ : ∃ r, ofSteps Sample.revision = .ok r := ⟨_, rfl⟩
  obtain ⟨hget, hnames, -, hdefaults, hresolve⟩ := contents_of_steps hr (by
    intro make hmake name
    simp only [Sample.revision, List.mem_cons, List.not_mem_nil, or_false, reduceCtorEq,
      BuildStep.fallback.injEq, false_or] at hmake
    rcases hmake with rfl | rfl <;> rfl)
  have hnames : r.defaultNames = ["audit", "probe"] := hnames
  have haudit : r.get? "audit" = some (.plain "audit") := hget "audit"
  have hprobe : r.get? "probe" = some (.plain "probe") := hget "probe"
  refine ⟨r, hr, haudit, hnames, ?_, ((hresolve "tap").2.2 (hget "tap")).1 App.missing rfl⟩
  rw [hdefaults, hnames]
  simp only [List.map_cons, List.map_nil, haudit, hprobe]

end Registry
end LabLifecycle

import LabLifecycle.Engine.Registry
import Mathlib.Data.List.Basic

/-!
# Registries that are built from scratch

Apps stand in a registry under their own names, and the default names are distinct and
registered. This holds before the first building step, every step keeps it, and so every
registry that a run of steps builds has it. As a consequence no default app is ever lost,
and a name resolves to an app that bears it.
-/
namespace LabLifecycle

/-- Apps stand under their own names, and the default names are distinct and registered. -/
structure Consistent (apps : SortedMap App) (defaultNames : List String) : Prop where
  name_eq : ∀ {name app}, apps.get? name = some app → app.name = name
  registered : ∀ name ∈ defaultNames, ∃ app, apps.get? name = some app
  distinct : defaultNames.Nodup

namespace Consistent
variable {apps : SortedMap App} {names : List String}

theorem empty : Consistent SortedMap.empty [] where
  name_eq h := by simp at h
  registered name h := by simp at h
  distinct := List.nodup_nil

/-- Registering an app, in place of an earlier one or not, loses no default app. -/
theorem insert (h : Consistent apps names) (app : App) :
    Consistent (apps.insert app.name app) names where
  name_eq {name found} hfound := by
    rw [SortedMap.get?_insert] at hfound
    split at hfound
    · rename_i hname
      cases hfound
      exact hname.symm
    · exact h.name_eq hfound
  registered name hname := by
    rw [SortedMap.get?_insert]
    split
    · exact ⟨app, rfl⟩
    · exact h.registered name hname
  distinct := h.distinct

/-- A registered app can become a default one. -/
theorem append (h : Consistent apps names) {name : String} (hnew : name ∉ names)
    (hname : ∃ app, apps.get? name = some app) : Consistent apps (names ++ [name]) where
  name_eq := h.name_eq
  registered other hother := by
    rcases List.mem_append.mp hother with hother | hother
    · exact h.registered other hother
    · rw [List.mem_singleton.mp hother]
      exact hname
  distinct := by
    refine List.nodup_append.mpr ⟨h.distinct, by simp, ?_⟩
    intro a ha b hb hab
    rw [List.mem_singleton.mp hb] at hab
    exact hnew (hab ▸ ha)

theorem step {b : RegistryBuilder} (h : Consistent b.apps b.defaultNames) (x : BuildStep) :
    Consistent (b.step x).apps (b.step x).defaultNames := by
  cases x with
  | register app => exact h.insert app
  | registerDefault app =>
    simp only [RegistryBuilder.step, RegistryBuilder.registerDefault, RegistryBuilder.register]
    split
    · exact h.insert app
    · rename_i hnew
      refine (h.insert app).append (by simpa using hnew) ⟨app, ?_⟩
      rw [SortedMap.get?_insert, if_pos rfl]
  | fallback make => exact h
  | externalCommands host start => exact h
  | expectDefaults names => exact h

theorem run (steps : List BuildStep) {b : RegistryBuilder}
    (h : Consistent b.apps b.defaultNames) :
    Consistent (b.run steps).apps (b.run steps).defaultNames := by
  induction steps generalizing b with
  | nil => exact h
  | cons x rest ih => exact ih (h.step x)

end Consistent

/-- A fallback makes apps that bear the names asked for. -/
def NamesApps (fallback : Option (String → App)) : Prop :=
  ∀ make, fallback = some make → ∀ name, (make name).name = name

/-- External commands bear the names asked for, so only a fallback that is given matters. -/
theorem namesApps_run (steps : List BuildStep) {b : RegistryBuilder}
    (hsteps : ∀ make, .fallback make ∈ steps → ∀ name, (make name).name = name)
    (h : NamesApps b.fallback) : NamesApps (b.run steps).fallback := by
  induction steps generalizing b with
  | nil => exact h
  | cons x rest ih =>
    refine ih (fun make hmake => hsteps make (List.mem_cons_of_mem x hmake)) ?_
    cases x with
    | register app => exact h
    | registerDefault app => exact h
    | fallback make =>
      intro found hfound
      cases hfound
      exact hsteps make (List.mem_cons_self ..)
    | externalCommands host start =>
      intro found hfound
      cases hfound
      exact fun name => rfl
    | expectDefaults names => exact h

namespace Registry
variable {r : Registry} {steps : List BuildStep}

/-- A registry that is built has all the parts of its builder. -/
theorem ofSteps_eq_ok (h : ofSteps steps = .ok r) :
    r.apps = (RegistryBuilder.run {} steps).apps ∧
      r.defaultNames = (RegistryBuilder.run {} steps).defaultNames ∧
      r.fallback = (RegistryBuilder.run {} steps).fallback ∧
      r.commandStart = (RegistryBuilder.run {} steps).commandStart := by
  simp only [ofSteps, RegistryBuilder.build] at h
  split at h
  · cases h
    exact ⟨rfl, rfl, rfl, rfl⟩
  · cases h

/-- Every registry that is built from scratch is consistent. -/
theorem consistent_ofSteps (h : ofSteps steps = .ok r) : Consistent r.apps r.defaultNames := by
  obtain ⟨happs, hnames, -⟩ := ofSteps_eq_ok h
  rw [happs, hnames]
  exact Consistent.run steps Consistent.empty

/-- A registered name resolves to its app. -/
theorem resolve_of_get? {name : String} {app : App} (h : r.get? name = some app) :
    r.resolve name = app := by
  simp only [resolve, h]

/-- The default apps are those of the default names, in order and with none dropped. -/
theorem defaults_eq_map (h : Consistent r.apps r.defaultNames) :
    r.defaults = r.defaultNames.map r.resolve := by
  rw [defaults, ← List.filterMap_eq_map]
  refine List.filterMap_congr fun name hname => ?_
  obtain ⟨app, happ⟩ := h.registered name hname
  have happ : r.get? name = some app := happ
  rw [Function.comp_apply, resolve_of_get? happ, happ]

/-- A name resolves to an app that bears it. -/
theorem name_resolve (h : ofSteps steps = .ok r)
    (hsteps : ∀ make, .fallback make ∈ steps → ∀ name, (make name).name = name)
    (name : String) : (r.resolve name).name = name := by
  have hfallback : NamesApps r.fallback := by
    rw [(ofSteps_eq_ok h).2.2.1]
    exact namesApps_run steps hsteps (fun make hmake => by cases hmake)
  unfold resolve
  cases happ : r.get? name with
  | some app => exact (consistent_ofSteps h).name_eq happ
  | none =>
    cases hmake : r.fallback with
    | some make => exact hfallback make hmake name
    | none => rfl

end Registry
end LabLifecycle

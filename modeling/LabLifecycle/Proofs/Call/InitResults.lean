import LabLifecycle.Proofs.Call.Repetition
import LabLifecycle.Proofs.Call.SideBySide

/-!
# What becomes of the results of inits

An init that fails is noticed, and that is all. Two calls of apps that differ in what their inits
return, and in nothing else, are in step: they call the same apps, make the same reports, come to
the same end and leave the same experiment, whatever the errors are and whenever the calls are
cancelled.
-/
namespace LabLifecycle

/-! ### Apps that differ in the results of their inits -/

/-- The apps have the same hooks, and their inits do the same, whatever these return. -/
structure App.ActsLike (a a' : App) : Prop where
  name : a'.name = a.name
  hook : a'.hook = a.hook
  surroundings : ∀ options s, (a'.init options s).surroundings = (a.init options s).surroundings
  signals : ∀ options s, (a'.init options s).signals = (a.init options s).signals

theorem App.ActsLike.refl (a : App) : a.ActsLike a := ⟨rfl, rfl, fun _ _ => rfl, fun _ _ => rfl⟩

/-- The registries have the same names, for apps that differ in the results of their inits. -/
structure Registry.ActsLike (r r' : Registry) : Prop where
  defaultNames : r'.defaultNames = r.defaultNames
  apps : ∀ name, Option.Rel App.ActsLike (r.get? name) (r'.get? name)
  fallback : Option.Rel (fun make make' => ∀ name, (make name).ActsLike (make' name))
    r.fallback r'.fallback

/-- An event, unless it is the notice that an init has failed. -/
def Event.unlessInitFailed? : Event → Option Event
  | .noticed (.initFailed ..) => none
  | e => some e

namespace Registry.ActsLike
variable {r r' : Registry} {stage : Stage} {dryRun : Bool}

theorem resolve (h : r.ActsLike r') (name : String) :
    (r.resolve name).ActsLike (r'.resolve name) := by
  have happs := h.apps name
  have hfallback := h.fallback
  unfold Registry.resolve
  generalize r.get? name = app, r'.get? name = app' at happs
  generalize r.fallback = make, r'.fallback = make' at hfallback
  cases happs with
  | some happ => exact happ
  | none =>
    cases hfallback with
    | some hmake => exact hmake name
    | none => exact .refl _

theorem twin_defaults (h : r.ActsLike r') :
    List.Forall₂ (Turn.Twin Eq Event.unlessInitFailed? stage dryRun) r.defaultTurns
      r'.defaultTurns := by
  refine twin_defaultTurns h.defaultNames fun name _ => ?_
  have happs := h.apps name
  generalize r.get? name = app, r'.get? name = app' at happs
  cases happs with
  | none => exact .none
  | some happ =>
    have hhook := congrFun happ.hook stage
    exact .some ⟨happ.name, hhook ▸ .refl _⟩

theorem twin_declared (h : r.ActsLike r') (names : List String) :
    List.Forall₂ (Turn.Twin Eq Event.unlessInitFailed? stage dryRun) (r.declaredTurns names)
      (r'.declaredTurns names) := by
  refine twin_declaredTurns h.defaultNames (fun name _ => ⟨Eq, ?_⟩) names
  have happ := h.resolve name
  have hhook := congrFun happ.hook stage
  refine .of_scenario happ.name ?_ (hhook ▸ .refl _) fun s s' hs => hs
  rintro s _ rfl
  refine ⟨by rw [happ.surroundings], happ.signals _ _, ?_⟩
  -- Complaints are not looked at.
  have hcomplaint : ∀ result, (App.complaint name result).filterMap
      Event.unlessInitFailed? = [] := by
    intro result
    cases result <;> rfl
  rw [hcomplaint, hcomplaint]

end Registry.ActsLike

/-! ### Traces without those notices -/

namespace Trace

/-- The notices that inits have failed are no calls. -/
theorem calls_unlessInitFailed (t : Trace) :
    calls (t.filterMap Event.unlessInitFailed?) = t.calls := by
  rw [calls, calls, List.filterMap_filterMap]
  refine List.filterMap_congr fun e _ => ?_
  cases e with
  | called c => rfl
  | reported r => rfl
  | noticed n => cases n <;> rfl

/-- The notices that inits have failed are no reports. -/
theorem reports_unlessInitFailed (t : Trace) :
    reports (t.filterMap Event.unlessInitFailed?) = t.reports := by
  rw [reports, reports, List.filterMap_filterMap]
  refine List.filterMap_congr fun e _ => ?_
  cases e with
  | called c => rfl
  | reported r => rfl
  | noticed n => cases n <;> rfl

end Trace

namespace Orchestrator
variable {o o' : Orchestrator}

/-- What the inits of apps return has no effect on a call but on its log. If the inits of two
registries do the same and their hooks are the same, calls come to the same end at the same
moment, with the same calls and reports, and leave the same scene. The traces are the same as
well, besides the notices that inits have failed. -/
theorem init_results_only_noticed (hlimit : o'.limit = o.limit)
    (hregistry : o.registry.ActsLike o'.registry) (id : RunId) (options : List InvocationOption)
    (s : Session) :
    (o'.apply id options s).2 = (o.apply id options s).2 ∧
    (o'.apply id options s).1.trace.calls = (o.apply id options s).1.trace.calls ∧
    (o'.apply id options s).1.trace.reports = (o.apply id options s).1.trace.reports ∧
    (o'.apply id options s).1.scene = (o.apply id options s).1.scene ∧
    (o'.apply id options s).1.now = (o.apply id options s).1.now ∧
    (o'.apply id options s).1.trace.filterMap Event.unlessInitFailed? =
      (o.apply id options s).1.trace.filterMap Event.unlessInitFailed? := by
  have hstep : InStep Eq Event.unlessInitFailed? s s (o.apply id options s)
      (o'.apply id options s) := by
    refine apply_inStep hlimit (fun _ _ _ _ => rfl) rfl rfl (fun stage _ => ?_)
      (fun s s' hs => ?_) (fun s s' hs => ?_) ⟨rfl, rfl, rfl, rfl⟩
    · exact ⟨hregistry.twin_defaults, hregistry.twin_declared⟩
    · rw [hs]
    · rw [hs]
  have htrace : (o'.apply id options s).1.trace.filterMap Event.unlessInitFailed? =
      (o.apply id options s).1.trace.filterMap Event.unlessInitFailed? := by
    obtain ⟨during, during', hduring, hduring', hview⟩ := hstep.echoes
    rw [hduring, hduring', List.filterMap_append, List.filterMap_append, hview]
  refine ⟨hstep.result, ?_, ?_, hstep.abreast.scene.symm, hstep.abreast.now, htrace⟩
  · rw [← Trace.calls_unlessInitFailed, htrace, Trace.calls_unlessInitFailed]
  · rw [← Trace.reports_unlessInitFailed, htrace, Trace.reports_unlessInitFailed]

end Orchestrator

/-! ### An init that cannot resolve something -/

namespace Sample

/-- An app that writes a note, with some result, and makes a node before its hook fails. -/
def probe (result : HookResult) : App where
  name := "probe"
  init _ surroundings := { surroundings := surroundings.note "probing", result := result }
  hook _ := .change (·.update (·.withNode { hostname := "gate" })) (.fail (.hook "out of order"))

/-- A registry with this app. -/
def site (result : HookResult) : Orchestrator where
  registry := {
    apps := SortedMap.empty.insert "probe" (probe result)
    defaultNames := []
    fallback := none
    commandStart := defaultCommandStart }

end Sample

namespace Orchestrator

/-- Whether its init succeeds or cannot resolve something, the app fails in its hook, with the
error of the hook and with the node that it has made. -/
theorem sample_init_results :
    (Sample.site (.ok ())).registry.ActsLike
        (Sample.site (.error (.unresolved "probe"))).registry ∧
      ((Sample.site (.error (.unresolved "probe"))).apply default [.stage .configure]
          (Sample.declaring ["probe"])).2 =
        .error (.failed (.scenarioApp "probe" .configure (.hook "out of order"))) ∧
      ((Sample.site (.error (.unresolved "probe"))).apply default [.stage .configure]
          (Sample.declaring ["probe"])).1.scene.experiment.spec.topology.nodes.map (·.hostname) =
        ["gate"] ∧
      ((Sample.site (.error (.unresolved "probe"))).apply default [.stage .configure]
          (Sample.declaring ["probe"])).1.trace ≠
        ((Sample.site (.ok ())).apply default [.stage .configure]
          (Sample.declaring ["probe"])).1.trace := by
  have hregistry : (Sample.site (.ok ())).registry.ActsLike
      (Sample.site (.error (.unresolved "probe"))).registry := by
    refine ⟨rfl, fun name => ?_, .none⟩
    simp only [Registry.get?, Sample.site, SortedMap.get?_insert]
    split
    · exact .some ⟨rfl, rfl, fun _ _ => rfl, fun _ _ => rfl⟩
    · exact .none
  have hlimit : (Sample.site (.error (.unresolved "probe"))).limit = (Sample.site (.ok ())).limit :=
    rfl
  obtain ⟨hresult, -, -, hscene, -⟩ := init_results_only_noticed hlimit hregistry default
    [.stage .configure] (Sample.declaring ["probe"])
  refine ⟨hregistry, hresult, ?_, ?_⟩
  · rw [hscene]
    rfl
  · intro htrace
    exact absurd (congrArg List.length htrace) (by decide)

end Orchestrator
end LabLifecycle

import LabLifecycle.Proofs.Call.Independence

/-!
# What apps are told of the options of a call

Of the options of a call only the stage and the dry-run switch count, each as it was given last.
Declared apps are told this switch and their own names, and default apps are told nothing. So two
calls do the same if their options end in the same stage and the same switch, and even if their
apps would not do the same when told anything else.
-/
namespace LabLifecycle

/-! ### Apps that are told the same -/

/-- The registries have the same default names. Their default apps have the same hooks, and for
every other name the apps have the same hooks, and inits that do the same when they are told this
name, the switch and no stage. -/
structure Registry.ToldAlike (dryRun : Bool) (r r' : Registry) : Prop where
  defaultNames : r'.defaultNames = r.defaultNames
  defaults : ∀ name ∈ r.defaultNames,
    Option.Rel (fun app app' => app'.name = app.name ∧ app'.hook = app.hook) (r.get? name)
      (r'.get? name)
  declared : ∀ name, r.isDefault name = false →
    (r'.resolve name).name = (r.resolve name).name ∧
      (r'.resolve name).hook = (r.resolve name).hook ∧
      ∀ s, (r'.resolve name).init { stage := none, dryRun := dryRun, name := some name } s =
        (r.resolve name).init { stage := none, dryRun := dryRun, name := some name } s

namespace Registry.ToldAlike
variable {dryRun : Bool} {r r' : Registry}

theorem twin (h : r.ToldAlike dryRun r') (view : Event → Option Event) (stage : Stage) :
    r.Twin Eq view stage dryRun r' where
  defaults := by
    refine twin_defaultTurns h.defaultNames fun name hname => ?_
    have happs := h.defaults name hname
    generalize r.get? name = app, r'.get? name = app' at happs
    cases happs with
    | none => exact .none
    | some happ => exact .some ⟨happ.1, congrFun happ.2 stage ▸ .refl _⟩
  declared := by
    refine twin_declaredTurns h.defaultNames fun name hname => ⟨Eq, ?_⟩
    obtain ⟨hbears, hhook, hinit⟩ := h.declared name hname
    refine .of_scenario hbears ?_ (congrFun hhook stage ▸ .refl _) fun s s' hs => hs
    rintro s _ rfl
    have htold : (r'.resolve name).init (Invocation.forApp name dryRun) s.toSurroundings =
        (r.resolve name).init (Invocation.forApp name dryRun) s.toSurroundings := hinit _
    dsimp only
    rw [htold]
    exact ⟨rfl, rfl, rfl⟩

end Registry.ToldAlike

/-! ### The inits of a call -/

namespace Orchestrator
variable (o : Orchestrator) {run : Run} {dryRun : Bool} {s t : Session} {visits : List Visit}
  {plan : List Serving} {result : Except Halt Unit}

/-- Cut off or not, a call makes no calls but those of its schedule. -/
theorem Swept.calls (h : o.Swept run dryRun plan s visits t result) :
    t.trace.calls <+: s.trace.calls ++ plan.flatMap (·.slot.calls run.stage dryRun) := by
  cases h with
  | through hfollowed _ => exact hfollowed.calls ▸ List.prefix_rfl
  | cut hplan _ hfollowed hcut _ => exact CutOff.calls_of_followed o hplan hfollowed hcut

/-- The calls of a call for a stage are those of its schedule, as far as it gets. -/
theorem calls_follow_schedule (id : RunId) {options : List InvocationOption} {stage : Stage}
    (hstage : (Invocation.ofOptions options).stage = some stage)
    (hdryRun : (Invocation.ofOptions options).dryRun = dryRun) (s : Session) :
    ∃ calls, (o.apply id options s).1.trace.calls = s.trace.calls ++ calls ∧
      calls <+: (o.schedule stage dryRun s.scene).flatMap (·.slot.calls stage dryRun) := by
  obtain ⟨u, hchronicle, hswept, hend⟩ := o.callVisits_swept id hstage hdryRun s
  obtain ⟨during, htrace, -⟩ := hchronicle.toStarted.early.2
  have hcalls : u.trace.calls = s.trace.calls ++ during.calls := by
    rw [htrace, Trace.calls_append]
  have hprefix := hswept.calls
  rw [hcalls, List.prefix_append_right_inj] at hprefix
  exact ⟨during.calls, hend.trace.1.trans hcalls, hprefix⟩

/-- The inits in a schedule are for names that the default apps leave declared, and not for
their own. -/
theorem init_mem_schedule {stage : Stage} {scene : Scene} {name : String} {told : Invocation}
    (h : .init name told ∈
      (o.schedule stage dryRun scene).flatMap (·.slot.calls stage dryRun)) :
    name ∈ (o.between stage dryRun scene).declaredApps ∧ o.registry.isDefault name = false ∧
      told = Invocation.forApp name dryRun := by
  obtain ⟨v, hv, hcall⟩ := List.mem_flatMap.mp h
  have hslot := (o.schedule_slots stage dryRun scene).1.subset (List.mem_map_of_mem hv)
  rcases List.mem_append.mp hslot with hdefault | hdeclared
  · obtain ⟨app, -, hx⟩ := List.mem_map.mp hdefault
    rw [← hx] at hcall
    -- The hook is the only call that is made of a default app.
    simp [Slot.calls, Slot.initCalls, Slot.call] at hcall
  · obtain ⟨other, hother, hx⟩ := List.mem_map.mp hdeclared
    obtain ⟨hmem, hother⟩ := List.mem_filter.mp hother
    rw [← hx] at hcall
    have hinit : name = other ∧ told = Invocation.forApp other dryRun := by
      simpa [Slot.calls, Slot.initCalls, Slot.call] using hcall
    obtain ⟨rfl, rfl⟩ := hinit
    exact ⟨hmem, by simpa using hother, rfl⟩

/-! ### Options that end alike -/

/-- Only the last stage and the last dry-run switch among the options of a call have an effect.
With other options that end in the same ones, a call does entirely the same. Every init is told
the name under which its app is declared, this switch, and no stage, and no default app is told
anything; and so a call also does the same, whatever the number of its run, if its apps would do
anything else when told anything else. -/
theorem apply_eq_of_last_options {options options' : List InvocationOption} {dryRun : Bool}
    (hstage : (options'.filterMap InvocationOption.stage?).getLast? =
      (options.filterMap InvocationOption.stage?).getLast?)
    (hdryRun : (options.filterMap InvocationOption.dryRun?).getLast?.getD false = dryRun)
    (hdryRun' : (options'.filterMap InvocationOption.dryRun?).getLast?.getD false = dryRun)
    (id : RunId) (s : Session) :
    o.apply id options' s = o.apply id options s ∧
    (∃ calls, (o.apply id options s).1.trace.calls = s.trace.calls ++ calls ∧
      ∀ name told, .init name told ∈ calls →
        (∃ stage, (options.filterMap InvocationOption.stage?).getLast? = some stage ∧
          name ∈ (o.between stage dryRun s.scene).declaredApps) ∧
        o.registry.isDefault name = false ∧
        told = { stage := none, dryRun := dryRun, name := some name }) ∧
    ∀ (o' : Orchestrator) (id' : RunId), o'.limit = o.limit →
      o.registry.ToldAlike dryRun o'.registry →
      (o'.apply id' options' s).2 = (o.apply id options s).2 ∧
      (o'.apply id' options' s).1.trace.calls = (o.apply id options s).1.trace.calls ∧
      (o'.apply id' options' s).1.trace.reports.map Report.unnumbered =
        (o.apply id options s).1.trace.reports.map Report.unnumbered ∧
      (o'.apply id' options' s).1.scene = (o.apply id options s).1.scene := by
  rw [← Invocation.stage_ofOptions, ← Invocation.stage_ofOptions] at hstage
  rw [← Invocation.dryRun_ofOptions] at hdryRun hdryRun'
  rw [← Invocation.stage_ofOptions]
  refine ⟨?_, ?_, fun o' id' hlimit hregistry => ?_⟩
  · simp only [apply, hstage, hdryRun, hdryRun']
  · cases hnone : (Invocation.ofOptions options).stage with
    | none =>
      refine ⟨[], ?_, fun _ _ hinit => (List.not_mem_nil hinit).elim⟩
      simp only [apply, hnone, List.append_nil]
    | some stage =>
      obtain ⟨calls, hcalls, hschedule⟩ := o.calls_follow_schedule id hnone hdryRun s
      refine ⟨calls, hcalls, fun name told hinit => ?_⟩
      obtain ⟨hdeclared, hdefault, htold⟩ := o.init_mem_schedule (hschedule.subset hinit)
      exact ⟨⟨stage, rfl, hdeclared⟩, hdefault, htold⟩
  · have hstep : InStep Eq (fun e => some e.unnumbered) s s (o.apply id options s)
        (o'.apply id' options' s) := by
      refine apply_inStep hlimit (fun _ _ _ _ => rfl) hstage (hdryRun'.trans hdryRun.symm)
        (fun stage _ => ?_) ?_ ?_ ⟨rfl, rfl, rfl, rfl⟩
      · rw [hdryRun]
        exact hregistry.twin _ stage
      · rintro s _ rfl
        rfl
      · rintro s _ rfl
        rfl
    obtain ⟨during, during', htrace, htrace', hview⟩ := hstep.echoes
    have hsame : (o'.apply id' options' s).1.trace.map Event.unnumbered =
        (o.apply id options s).1.trace.map Event.unnumbered := by
      rw [List.filterMap_eq_map'] at hview
      rw [htrace, htrace', List.map_append, List.map_append, hview]
    refine ⟨hstep.result, ?_, ?_, hstep.abreast.scene.symm⟩
    · rw [← Trace.calls_unnumbered, hsame, Trace.calls_unnumbered]
    · rw [← Trace.reports_unnumbered, hsame, Trace.reports_unnumbered]

end Orchestrator

/-! ### Options that are overheard -/

namespace Sample

/-- An app that notes whether it is told of a dry run under its own name, or else something that
it has overheard. -/
def listener (overheard name : String) : App :=
  { App.plain name with
    init := fun told s =>
      let rehearsed := decide (told = { stage := none, dryRun := true, name := some name })
      { surroundings := s.note (if rehearsed then "rehearsing" else overheard) } }

/-- A default app and another app that listen. -/
def parlour (overheard : String) : Orchestrator where
  registry := {
    apps := (SortedMap.empty.insert "audit" (listener overheard "audit")).insert "tap"
      (listener overheard "tap")
    defaultNames := ["audit"]
    fallback := none
    commandStart := defaultCommandStart }

/-- The options of a rehearsal. -/
def brief : List InvocationOption := [.dryRun true, .stage .configure]

/-- Options that come to the same in the end. -/
def rambling : List InvocationOption :=
  [.name "audit", .dryRun false, .stage .cleanup, .dryRun true, .stage .configure, .name "probe"]

end Sample

namespace Orchestrator

/-- Nothing is overheard of the options that come before the last ones, and the default app is
told nothing at all. -/
theorem sample_parlour :
    (Sample.rambling.filterMap InvocationOption.stage?).getLast? =
      (Sample.brief.filterMap InvocationOption.stage?).getLast? ∧
    (Sample.brief.filterMap InvocationOption.dryRun?).getLast?.getD false = true ∧
    (Sample.rambling.filterMap InvocationOption.dryRun?).getLast?.getD false = true ∧
    (Sample.parlour "a whisper").registry.ToldAlike true (Sample.parlour "a shout").registry ∧
    ((Sample.parlour "a whisper").apply default Sample.rambling
        (Sample.declaring ["tap"])).1.trace.calls =
      [.hook "audit" .configure .default,
        .init "tap" { stage := none, dryRun := true, name := some "tap" },
        .hook "tap" .configure .scenario] ∧
    ((Sample.parlour "a shout").apply default Sample.rambling
      (Sample.declaring ["tap"])).1.scene.journal = ["rehearsing"] := by
  have hstage : (Sample.rambling.filterMap InvocationOption.stage?).getLast? =
      (Sample.brief.filterMap InvocationOption.stage?).getLast? := rfl
  have hdryRun :
      (Sample.brief.filterMap InvocationOption.dryRun?).getLast?.getD false = true := rfl
  have hdryRun' :
      (Sample.rambling.filterMap InvocationOption.dryRun?).getLast?.getD false = true := rfl
  have hregistry : (Sample.parlour "a whisper").registry.ToldAlike true
      (Sample.parlour "a shout").registry := by
    refine ⟨rfl, fun name hname => ?_, fun name hname => ?_⟩
    · rw [List.mem_singleton.mp hname]
      exact .some ⟨rfl, rfl⟩
    · have hname : name ≠ "audit" := by
        rintro rfl
        cases hname
      have hresolve : ∀ overheard, (Sample.parlour overheard).registry.resolve name =
          if name = "tap" then Sample.listener overheard "tap" else .missing name := by
        intro overheard
        simp only [Registry.resolve, Registry.get?, Sample.parlour, SortedMap.get?_insert,
          if_neg hname]
        by_cases htap : name = "tap"
        · rw [if_pos htap, if_pos htap]
        · rw [if_neg htap, if_neg htap]
          rfl
      rw [hresolve, hresolve]
      split
      · rename_i htap
        exact ⟨rfl, rfl, fun s => by simp [Sample.listener, htap]⟩
      · exact ⟨rfl, rfl, fun _ => rfl⟩
  obtain ⟨hsame, -, hother⟩ := apply_eq_of_last_options (Sample.parlour "a whisper") hstage
    hdryRun hdryRun' default (Sample.declaring ["tap"])
  obtain ⟨-, -, -, hscene⟩ := hother (Sample.parlour "a shout") default rfl hregistry
  refine ⟨hstage, hdryRun, hdryRun', hregistry, ?_, ?_⟩
  · rw [hsame]
    rfl
  · rw [hscene]
    rfl

end Orchestrator
end LabLifecycle

import LabLifecycle.Proofs.Call.InertTurns

/-!
# Entries of a scenario that come to nothing

Entries that name default apps or apps that are not available can be inserted into a scenario
without any effect on the other apps, if these overlook the scenario. The call is compared with
the one without the inserted entries, entry by entry: both pass the same entries up to the same
point, and only the inserted ones are not in the first call.
-/
namespace LabLifecycle

/-! ### Inserted entries -/

/-- An entry of a scenario, which may have been inserted between others. -/
structure Entry where
  app : ScenarioApp
  inserted : Bool

namespace Scenario

/-- The scenario of some entries. -/
def ofEntries (entries : List Entry) : Scenario := ⟨entries.map (·.app)⟩

/-- The scenario of some entries before any were inserted. -/
def ofKept (entries : List Entry) : Scenario := ofEntries (entries.filter fun e => !e.inserted)

end Scenario

/-! ### Entry by entry -/

/-- What a call reports at an entry of its scenario. -/
structure Passage where
  entry : Entry
  reports : List Report

namespace Orchestrator

/-- How a call comes through the entries of its scenario: past one after the other, and to the
last of them if nothing ends the call before. It never ends at an inserted entry. -/
inductive ComesThrough (o : Orchestrator) (run : Run) (dryRun : Bool) :
    List Entry → List Passage → Except Halt Unit → Prop
  | all : ComesThrough o run dryRun [] [] (.ok ())
  | past {e : Entry} {rest : List Entry} {reports : List Report} {passages : List Passage}
      {result : Except Halt Unit} (hyields : o.Yields run dryRun e.app.name reports (.ok ()))
      (hrest : ComesThrough o run dryRun rest passages result) :
      ComesThrough o run dryRun (e :: rest) (⟨e, reports⟩ :: passages) result
  | ends {e : Entry} {rest : List Entry} {reports : List Report} {halt : Halt}
      (hkept : e.inserted = false)
      (hyields : o.Yields run dryRun e.app.name reports (.error halt)) :
      ComesThrough o run dryRun (e :: rest) [⟨e, reports⟩] (.error halt)

/-- What decides about a call: the default apps, or if none of them ends the call, the entries of
its scenario. -/
inductive DecidedBy (o : Orchestrator) (run : Run) (dryRun : Bool) (defaults : List Serving)
    (entries : List Entry) : List Passage → Except Halt Unit → Prop
  | default {halt : Halt} (hdefaults : Serving.verdicts run defaults = .error halt) :
      DecidedBy o run dryRun defaults entries [] (.error halt)
  | scenario {passages : List Passage} {result : Except Halt Unit}
      (hdefaults : Serving.verdicts run defaults = .ok ())
      (hentries : o.ComesThrough run dryRun entries passages result) :
      DecidedBy o run dryRun defaults entries passages result

/-- Two calls, from `s` to `t` and from `s'` to `t'`, have done the same before their scenarios
come up, and then they have passed the same entries, but for the inserted ones, which are not in
the first scenario and come to nothing in the second one. -/
structure Passed (o : Orchestrator) (run : Run) (dryRun : Bool) (calls : List AppCall)
    (reports : List Report) (passages : List Passage) (s t s' t' : Session) : Prop where
  inert : ∀ p ∈ passages, p.entry.inserted = true →
    p.reports = o.registry.inertReports run p.entry.app.name
  calls_eq : t.trace.calls = s.trace.calls ++ calls ++
    (passages.filter fun p => !p.entry.inserted).flatMap fun p =>
      o.registry.entryCalls run.stage dryRun p.entry.app.name
  calls_eq' : t'.trace.calls = s'.trace.calls ++ calls ++
    passages.flatMap fun p => o.registry.entryCalls run.stage dryRun p.entry.app.name
  reports_eq : t.trace.reports = s.trace.reports ++ reports ++
    (passages.filter fun p => !p.entry.inserted).flatMap (·.reports)
  reports_eq' : t'.trace.reports = s'.trace.reports ++ reports ++
    passages.flatMap (·.reports)

namespace Passed
variable {o : Orchestrator} {run : Run} {dryRun : Bool} {passages : List Passage}
  {s t u s' t' u' : Session} {e : Entry} {reports : List Report}

/-- Neither call comes past an entry. -/
theorem stay (s s' : Session) : Passed o run dryRun [] [] [] s s s' s' where
  inert _ hp := (List.not_mem_nil hp).elim
  calls_eq := by simp
  calls_eq' := by simp
  reports_eq := by simp
  reports_eq' := by simp

/-- Both calls come to the entries after they have done the same. -/
theorem after {during : Trace} (htrace : u.trace = s.trace ++ during)
    (htrace' : u'.trace = s'.trace ++ during)
    (h : Passed o run dryRun [] [] passages u t u' t') :
    Passed o run dryRun during.calls during.reports passages s t s' t' where
  inert := h.inert
  calls_eq := by
    rw [h.calls_eq, htrace]
    simp
  calls_eq' := by
    rw [h.calls_eq', htrace']
    simp
  reports_eq := by
    rw [h.reports_eq, htrace]
    simp
  reports_eq' := by
    rw [h.reports_eq', htrace']
    simp

/-- Both calls come past an entry, unless it has been inserted: then the first one stays where it
is. -/
theorem cons (hinert : e.inserted = true → reports = o.registry.inertReports run e.app.name)
    (hcalls : u.trace.calls = s.trace.calls ++
      if e.inserted then [] else o.registry.entryCalls run.stage dryRun e.app.name)
    (hcalls' : u'.trace.calls =
      s'.trace.calls ++ o.registry.entryCalls run.stage dryRun e.app.name)
    (hreports : u.trace.reports = s.trace.reports ++ if e.inserted then [] else reports)
    (hreports' : u'.trace.reports = s'.trace.reports ++ reports)
    (h : Passed o run dryRun [] [] passages u t u' t') :
    Passed o run dryRun [] [] (⟨e, reports⟩ :: passages) s t s' t' where
  inert p hp hinserted := by
    rcases List.mem_cons.mp hp with rfl | hp
    · exact hinert hinserted
    · exact h.inert p hp hinserted
  calls_eq := by
    rw [h.calls_eq, hcalls]
    cases hinserted : e.inserted <;> simp [hinserted]
  calls_eq' := by
    rw [h.calls_eq', hcalls']
    simp
  reports_eq := by
    rw [h.reports_eq, hreports]
    cases hinserted : e.inserted <;> simp [hinserted]
  reports_eq' := by
    rw [h.reports_eq', hreports']
    simp

/-- Both calls come past an entry that was there before. -/
theorem cons_kept (he : e.inserted = false)
    (hcalls : u.trace.calls =
      s.trace.calls ++ o.registry.entryCalls run.stage dryRun e.app.name)
    (hcalls' : u'.trace.calls =
      s'.trace.calls ++ o.registry.entryCalls run.stage dryRun e.app.name)
    (hreports : u.trace.reports = s.trace.reports ++ reports)
    (hreports' : u'.trace.reports = s'.trace.reports ++ reports)
    (h : Passed o run dryRun [] [] passages u t u' t') :
    Passed o run dryRun [] [] (⟨e, reports⟩ :: passages) s t s' t' := by
  refine h.cons (fun hinserted => ?_) ?_ hcalls' ?_ hreports'
  · rw [he] at hinserted
    cases hinserted
  · rw [he]
    exact hcalls
  · rw [he]
    exact hreports

/-- The second call comes past an inserted entry, of which the first one knows nothing. -/
theorem cons_inserted (he : e.inserted = true)
    (hcalls' : u'.trace.calls =
      s'.trace.calls ++ o.registry.entryCalls run.stage dryRun e.app.name)
    (hreports' : u'.trace.reports =
      s'.trace.reports ++ o.registry.inertReports run e.app.name)
    (h : Passed o run dryRun [] [] passages s t u' t') :
    Passed o run dryRun [] []
      (⟨e, o.registry.inertReports run e.app.name⟩ :: passages) s t s' t' := by
  refine h.cons (fun _ => rfl) ?_ hcalls' ?_ hreports'
  all_goals
    rw [he]
    exact (List.append_nil _).symm

/-- The beginning and the end of a call make neither calls nor reports. -/
theorem framed {calls : List AppCall} {r r' v v' : Session}
    (h : Passed o run dryRun calls reports passages s t s' t')
    (hstart : s.trace.calls = r.trace.calls ∧ s.trace.reports = r.trace.reports)
    (hstart' : s'.trace.calls = r'.trace.calls ∧ s'.trace.reports = r'.trace.reports)
    (hend : v.trace.calls = t.trace.calls ∧ v.trace.reports = t.trace.reports)
    (hend' : v'.trace.calls = t'.trace.calls ∧ v'.trace.reports = t'.trace.reports) :
    Passed o run dryRun calls reports passages r v r' v' where
  inert := h.inert
  calls_eq := by rw [hend.1, h.calls_eq, hstart.1]
  calls_eq' := by rw [hend'.1, h.calls_eq', hstart'.1]
  reports_eq := by rw [hend.2, h.reports_eq, hstart.2]
  reports_eq' := by rw [hend'.2, h.reports_eq', hstart'.2]

end Passed

variable (o : Orchestrator) (run : Run) (dryRun : Bool)
  {alike : Surroundings → Surroundings → Prop} {scenario scenario' : Option Scenario}

/-- What is needed of an entry: it comes to nothing, or else it was there before and its app
overlooks the scenario. -/
def Harmless (o : Orchestrator) (alike : Surroundings → Surroundings → Prop) (e : Entry) : Prop :=
  o.registry.Inert alike e.app.name ∨
    e.inserted = false ∧ (o.registry.resolve e.app.name).Overlooks alike

theorem declaredTurns_cons (name : String) (names : List String) :
    o.registry.declaredTurns (name :: names) =
      o.registry.entryTurn name :: o.registry.declaredTurns names := rfl

/-- The sweeps over the scenarios with and without the inserted entries. The induction is on the
entries. -/
theorem sweep_passed {entries : List Entry} (hentries : ∀ e ∈ entries, o.Harmless alike e)
    {s s' : Session} (hs : s.Abreast (Scene.Reframed alike scenario scenario') s')
    {t t' : Session × Except Halt Unit}
    (ht : o.sweep run dryRun (o.registry.declaredTurns (Scenario.ofKept entries).names) s = t)
    (ht' : o.sweep run dryRun (o.registry.declaredTurns (Scenario.ofEntries entries).names) s' = t')
    (huncancelled : t'.2 ≠ .error (.failed (.cancelled run.stage))) :
    t.1.Abreast (Scene.Reframed alike scenario scenario') t'.1 ∧ t'.2 = t.2 ∧
      ∃ passages, o.ComesThrough run dryRun entries passages t.2 ∧
        Passed o run dryRun [] [] passages s t.1 s' t'.1 := by
  induction entries generalizing s s' with
  | nil =>
    subst ht ht'
    exact ⟨hs, rfl, [], .all, .stay s s'⟩
  | cons e rest ih =>
    have hrest : ∀ e ∈ rest, o.Harmless alike e :=
      fun e he => hentries e (List.mem_cons_of_mem _ he)
    have hall : (Scenario.ofEntries (e :: rest)).names =
        e.app.name :: (Scenario.ofEntries rest).names := rfl
    rw [hall, declaredTurns_cons, sweep] at ht'
    have hyields := o.yields_entryTurn run dryRun e.app.name s'
    cases hinserted : e.inserted with
    | false =>
      -- Both sweeps have this turn, and do the same in it.
      have hkept : (Scenario.ofKept (e :: rest)).names =
          e.app.name :: (Scenario.ofKept rest).names := by
        simp [Scenario.ofKept, Scenario.ofEntries, Scenario.names, hinserted]
      rw [hkept, declaredTurns_cons, sweep] at ht
      obtain ⟨hstep, reports, hreports, hreports'⟩ := o.turn_kept run dryRun
        ((hentries e (List.mem_cons_self ..)).imp_right And.right) hs
      have hcalls := o.calls_entryTurn run dryRun e.app.name s
      have hcalls' := o.calls_entryTurn run dryRun e.app.name s'
      have hyields := hyields reports hreports'
      generalize o.turn run dryRun (o.registry.entryTurn e.app.name) s = v at *
      generalize o.turn run dryRun (o.registry.entryTurn e.app.name) s' = v' at *
      obtain ⟨u, result⟩ := v
      obtain ⟨u', result'⟩ := v'
      have hresult : result' = result := hstep.result
      subst hresult
      cases result' with
      | error halt =>
        subst ht ht'
        exact ⟨hstep.abreast, rfl, _, .ends hinserted (hyields huncancelled),
          .cons_kept hinserted (hcalls huncancelled) (hcalls' huncancelled) hreports hreports'
            (.stay u u')⟩
      | ok _ =>
        obtain ⟨habreast, hresult, passages, hthrough, hpassed⟩ := ih hrest hstep.abreast ht ht'
        exact ⟨habreast, hresult, _, .past (hyields (by simp)) hthrough,
          .cons_kept hinserted (hcalls (by simp)) (hcalls' (by simp)) hreports hreports' hpassed⟩
    | true =>
      -- Only the second sweep has this turn, and the first one waits for it where it is.
      have hkept : Scenario.ofKept (e :: rest) = Scenario.ofKept rest := by
        simp [Scenario.ofKept, hinserted]
      rw [hkept] at ht
      have hinert : o.registry.Inert alike e.app.name := by
        rcases hentries e (List.mem_cons_self ..) with hinert | ⟨hkept, -⟩
        · exact hinert
        · rw [hinserted] at hkept
          cases hkept
      rcases o.turn_inserted run dryRun hinert hs with
        hcancelled | ⟨u', hturn, hu', hcalls', hreports'⟩
      · generalize o.turn run dryRun _ s' = v at *
        obtain ⟨u', result⟩ := v
        cases hcancelled
        exact absurd (congrArg Prod.snd ht').symm huncancelled
      · rw [hturn] at ht' hyields
        obtain ⟨habreast, hresult, passages, hthrough, hpassed⟩ := ih hrest hu' ht ht'
        exact ⟨habreast, hresult, _, .past (hyields _ hreports' (by simp)) hthrough,
          .cons_inserted hinserted hcalls' hreports' hpassed⟩

/-- Both passes of a call, with and without the inserted entries. -/
theorem passes_passed {entries : List Entry}
    (hdefaults : ∀ app ∈ o.registry.defaults, app.Overlooks alike)
    (hentries : ∀ e ∈ entries, o.Harmless alike e) {s s' : Session}
    (hs : s.Abreast (Scene.Reframed alike (some (.ofKept entries)) (some (.ofEntries entries))) s')
    (huncancelled : (o.passes run dryRun s').2 ≠ .error (.failed (.cancelled run.stage))) :
    (o.passes run dryRun s).1.Abreast
        (Scene.Reframed alike (some (.ofKept entries)) (some (.ofEntries entries)))
        (o.passes run dryRun s').1 ∧
      (o.passes run dryRun s').2 = (o.passes run dryRun s).2 ∧
      let defaults := o.serveAll run.stage dryRun o.registry.defaultSlots s.scene
      ∃ passages, o.DecidedBy run dryRun defaults entries passages (o.passes run dryRun s).2 ∧
        Passed o run dryRun (defaults.flatMap (·.slot.calls run.stage dryRun))
          (defaults.filterMap (·.report? run)) passages s (o.passes run dryRun s).1 s'
          (o.passes run dryRun s').1 := by
  have hturns : List.Forall₂ (Turn.Twin
      (Scene.Reframed alike (some (.ofKept entries)) (some (.ofEntries entries))) some run.stage
      dryRun) o.registry.defaultTurns o.registry.defaultTurns := by
    refine List.forall₂_same.mpr fun turn hturn => ?_
    obtain ⟨app, happ, rfl⟩ := List.mem_map.mp hturn
    exact .serve (.of_default rfl ((hdefaults app happ).hook run.stage _ _))
  have hfirst : InStep _ some s s' (o.sweep run dryRun o.registry.defaultTurns s)
      (o.sweep run dryRun o.registry.defaultTurns s') :=
    sweep_inStep rfl (fun _ _ _ _ => rfl) hturns hs
  have hswept := o.sweep_swept run dryRun o.registry.defaultTurns s
  rw [Registry.slots_defaultTurns] at hswept
  rw [passes] at huncancelled ⊢
  rw [passes]
  generalize o.sweep run dryRun o.registry.defaultTurns s = v at *
  generalize o.sweep run dryRun o.registry.defaultTurns s' = v' at *
  generalize o.serveAll run.stage dryRun o.registry.defaultSlots s.scene = defaults at *
  obtain ⟨u, result⟩ := v
  obtain ⟨u', result'⟩ := v'
  obtain ⟨during, htrace, htrace'⟩ := hfirst.echoes.during
  have hresult : result' = result := hfirst.result
  subst hresult
  -- The default apps are not cancelled either, so they do what their slots come to.
  have hne : result' ≠ .error (.failed (.cancelled run.stage)) := by
    rintro rfl
    exact huncancelled rfl
  obtain ⟨hfollowed, hverdicts⟩ := hswept.followed o hne
  have hcalls : during.calls = defaults.flatMap (·.slot.calls run.stage dryRun) := by
    have hcalls := hfollowed.calls
    rwa [htrace, Trace.calls_append, List.append_cancel_left_eq] at hcalls
  have hreports : during.reports = defaults.filterMap (·.report? run) := by
    have hreports := hfollowed.reports
    rwa [htrace, Trace.reports_append, List.append_cancel_left_eq] at hreports
  dsimp only
  rw [← hcalls, ← hreports]
  cases result' with
  | error halt =>
    exact ⟨hfirst.abreast, rfl, [], .default hverdicts.symm, .after htrace htrace' (.stay u u')⟩
  | ok _ =>
    have hscene : u.scene.Reframed alike (some (.ofKept entries)) (some (.ofEntries entries))
        u'.scene := hfirst.abreast.scene
    -- No default app has touched the scenario, so the entries are still those of the start.
    have hnames : u.scene.experiment.declaredApps = (Scenario.ofKept entries).names := by
      rw [Experiment.declaredApps, hscene.scenario]
    have hnames' : u'.scene.experiment.declaredApps = (Scenario.ofEntries entries).names := by
      rw [hscene.experiment]
      rfl
    dsimp only at huncancelled ⊢
    rw [hnames'] at huncancelled ⊢
    rw [hnames]
    obtain ⟨habreast, hresult, passages, hthrough, hpassed⟩ :=
      o.sweep_passed run dryRun hentries hfirst.abreast rfl rfl huncancelled
    exact ⟨habreast, hresult, passages, .scenario hverdicts.symm hthrough,
      .after htrace htrace' hpassed⟩

theorem trace_opened (stage : Stage) (s : Session) :
    (opened stage dryRun s).trace.calls = s.trace.calls ∧
      (opened stage dryRun s).trace.reports = s.trace.reports :=
  ⟨(Trace.calls_append ..).trans (List.append_nil _),
    (Trace.reports_append ..).trans (List.append_nil _)⟩

/-- The wrapping up does not tell scenarios apart either. -/
theorem scene_wrapUp (stage : Stage) {t t' : Session × Except Halt Unit}
    (hscene : t.1.scene.Reframed alike scenario scenario' t'.1.scene) (hresult : t'.2 = t.2) :
    (wrapUp stage t).1.scene.Reframed alike scenario scenario' (wrapUp stage t').1.scene := by
  obtain ⟨t, result⟩ := t
  obtain ⟨t', result'⟩ := t'
  subst hresult
  cases result' with
  | error halt => exact hscene
  | ok _ =>
    simp only [wrapUp, scene_finish]
    split
    · exact hscene.setDefaults
    · exact hscene

/-- Entries of a scenario that name default apps or apps that are not available come to nothing,
if the other apps overlook the scenario and the call is not cancelled. However many of them are
inserted and wherever, the result stays the same, and so does the experiment but for the scenario.
Up to where the call ends the calls of all other apps are the same, and there is one more report
for each inserted entry whose app is not available, and none for a default app. It is a default
app or an entry that was there before at which a call ends. -/
theorem inert_entries {entries : List Entry}
    (hdefaults : ∀ app ∈ o.registry.defaults, app.Overlooks alike)
    (hentries : ∀ e ∈ entries, o.Harmless alike e) (id : RunId) {options : List InvocationOption}
    {stage : Stage} (hstage : (Invocation.ofOptions options).stage = some stage) {s : Session}
    (hself : alike s.scene.toSurroundings s.scene.toSurroundings)
    (hscenario : s.scene.experiment.spec.scenario = some (.ofKept entries))
    {s' : Session} (hs' : s' = s.act (·.update (·.withScenario (some (.ofEntries entries)))))
    (huncancelled : (o.apply id options s').2 ≠ .error (.failed (.cancelled stage))) :
    (o.apply id options s').2 = (o.apply id options s).2 ∧
    (o.apply id options s).1.scene.Reframed alike (some (.ofKept entries))
      (some (.ofEntries entries)) (o.apply id options s').1.scene ∧
    let dryRun := (Invocation.ofOptions options).dryRun
    let defaults := o.serveAll stage dryRun o.registry.defaultSlots s.scene
    ∃ passages,
      o.DecidedBy ⟨id, stage⟩ dryRun defaults entries passages (o.apply id options s).2 ∧
      Passed o ⟨id, stage⟩ dryRun (defaults.flatMap (·.slot.calls stage dryRun))
        (defaults.filterMap (·.report? ⟨id, stage⟩)) passages s (o.apply id options s).1 s'
        (o.apply id options s').1 := by
  generalize hdryRun : (Invocation.ofOptions options).dryRun = dryRun
  have hopened : (opened stage dryRun s).Abreast
      (Scene.Reframed alike (some (.ofKept entries)) (some (.ofEntries entries)))
      (opened stage dryRun s') := by
    subst hs'
    exact ⟨⟨hself, hscenario, rfl⟩, rfl, rfl, rfl⟩
  have happly : o.apply id options s = _ := o.apply_eq_wrapUp hstage hdryRun s
  have happly' : o.apply id options s' = _ := o.apply_eq_wrapUp hstage hdryRun s'
  rw [happly', result_wrapUp] at huncancelled
  obtain ⟨habreast, hresult, passages, hdecided, hpassed⟩ :=
    o.passes_passed ⟨id, stage⟩ dryRun hdefaults hentries hopened huncancelled
  have hpassed := hpassed.framed (trace_opened dryRun stage s) (trace_opened dryRun stage s')
    (trace_wrapUp stage _) (trace_wrapUp stage _)
  rw [happly, happly', result_wrapUp, result_wrapUp]
  exact ⟨hresult, scene_wrapUp stage habreast.scene hresult, passages, hdecided, hpassed⟩

end Orchestrator

/-! ### Names that belong to no app -/

namespace Sample

/-- A place without commands. -/
def wasteland : CommandHost :=
  { workshop { code := some 0 } with finder := fun _ => ⟨fun _ => [], fun _ => none⟩ }

/-- A default app that sets up a gate. -/
def builder : Script where
  name := "audit"
  otherwise := [.addNode "gate"]

/-- An app that marks the gate. -/
def painter : Script where
  name := "probe"
  otherwise := [.label "gate" "colour" "green"]

/-- A registry of these apps, where other names are left to commands that do not exist. -/
def outpost : Orchestrator where
  registry := {
    apps := (SortedMap.empty.insert "audit" builder.app).insert "probe" painter.app
    defaultNames := ["audit"]
    fallback := some fun name => (ExternalApp.mk name defaultCommandStart wasteland).app
    commandStart := defaultCommandStart }

/-- An entry for the painter, and around it one for the default app and two for no app at all. -/
def crowd : List Entry :=
  [⟨{ name := "ghost" }, true⟩, ⟨{ name := "probe" }, false⟩, ⟨{ name := "audit" }, true⟩,
    ⟨{ name := "ghost" }, true⟩]

/-- A call for a scenario. -/
def posted (scenario : Scenario) : Session where
  scene := { experiment := (Experiment.new "lab").withScenario (some scenario) }

end Sample

namespace Orchestrator

/-- The painter does its work among the inserted entries, and two of these are reported. -/
theorem sample_crowd :
    (∀ app ∈ Sample.outpost.registry.defaults, app.Overlooks Surroundings.SameButSwitches) ∧
    (∀ e ∈ Sample.crowd, Sample.outpost.Harmless Surroundings.SameButSwitches e) ∧
    (Sample.outpost.apply default [.stage .configure]
        (Sample.posted (.ofEntries Sample.crowd))).1.scene.experiment =
      (Sample.outpost.apply default [.stage .configure]
        (Sample.posted (.ofKept Sample.crowd))).1.scene.experiment.withScenario
          (some (.ofEntries Sample.crowd)) ∧
    (Sample.outpost.apply default [.stage .configure]
        (Sample.posted (.ofEntries Sample.crowd))).1.trace.reports.map
          (fun r => (r.app, r.status)) =
      [("audit", .ok), ("ghost", .unresolved), ("probe", .ok), ("ghost", .unresolved)] := by
  have hnote : ∀ s s' entry, Surroundings.SameButSwitches s s' →
      Surroundings.SameButSwitches (s.note entry) (s'.note entry) := fun _ _ entry h => h.note entry
  have hdefaults : ∀ app ∈ Sample.outpost.registry.defaults,
      app.Overlooks Surroundings.SameButSwitches := by
    intro app happ
    rw [List.mem_singleton.mp happ]
    exact Script.overlooks hnote fun stage apps => by simp [Sample.builder, Script.actions]
  have hghost : Sample.outpost.Harmless Surroundings.SameButSwitches ⟨{ name := "ghost" }, true⟩ :=
    .inl (.inr (.nowhere rfl rfl rfl rfl (fun _ _ _ => ⟨rfl, rfl⟩)
      (Surroundings.SameButSwitches.indifferent "ghost")))
  have hentries : ∀ e ∈ Sample.crowd, Sample.outpost.Harmless Surroundings.SameButSwitches e := by
    simp only [Sample.crowd, List.forall_mem_cons]
    refine ⟨hghost, .inr ⟨rfl, ?_⟩, .inl (.inl rfl), hghost, fun _ h => nomatch h⟩
    exact Script.overlooks hnote fun stage apps => by simp [Sample.painter, Script.actions]
  have hstage : (Invocation.ofOptions [.stage .configure]).stage = some .configure := rfl
  obtain ⟨-, hscene, -⟩ := inert_entries Sample.outpost hdefaults hentries default hstage
    (s := Sample.posted (.ofKept Sample.crowd)) ⟨rfl, rfl, rfl⟩ rfl rfl (by decide)
  exact ⟨hdefaults, hentries, hscene.experiment, rfl⟩

end Orchestrator
end LabLifecycle

import LabLifecycle.Proofs.Call.SideBySide
import LabLifecycle.Proofs.Hook.ExternalCommand
import LabLifecycle.Proofs.Hook.Overlooking

/-!
# Turns that come to nothing

A scenario can name default apps once more, and it can name apps that are not available. The turn
of a default app is skipped. An app that is not available is told the options and called, and its
report says that it is unresolved. Neither has an effect on apps that overlook the scenario.
-/
namespace LabLifecycle

namespace Registry

/-- The name is not registered, and there is no fallback, or the name is left to an external
command that is nowhere to be found. -/
inductive Unavailable (alike : Surroundings → Surroundings → Prop) (r : Registry)
    (name : String) : Prop
  | missing (hname : r.get? name = none) (hfallback : r.fallback = none)
  | nowhere {make : String → App} {a : ExternalApp} (hname : r.get? name = none)
      (hfallback : r.fallback = some make) (hmake : make name = a.app) (hbears : a.name = name)
      (hnowhere : a.Nowhere alike) (hswitch : Indifferent alike name)

/-- The name is one of a default app or of none that is available. -/
def Inert (alike : Surroundings → Surroundings → Prop) (r : Registry) (name : String) : Prop :=
  r.isDefault name = true ∨ r.Unavailable alike name

variable {alike : Surroundings → Surroundings → Prop} {r : Registry} {name : String}

/-- An unavailable name stands for an app that is missing, or for a command that is nowhere. -/
theorem Unavailable.cases_resolve (h : r.Unavailable alike name) :
    r.resolve name = App.missing name ∨ ∃ a : ExternalApp, r.resolve name = a.app ∧
      a.name = name ∧ a.Nowhere alike ∧ Indifferent alike name := by
  cases h with
  | missing hname hfallback =>
    left
    simp only [resolve, hname, hfallback]
  | @nowhere make a hname hfallback hmake hbears hnowhere hswitch =>
    right
    refine ⟨a, ?_, hbears, hnowhere, hswitch⟩
    simp only [resolve, hname, hfallback]
    exact hmake

theorem Unavailable.overlooks (h : r.Unavailable alike name) :
    (r.resolve name).Overlooks alike := by
  rcases h.cases_resolve with happ | ⟨a, happ, hbears, hnowhere, hswitch⟩
  · rw [happ]
    exact App.overlooks_missing name
  · rw [happ]
    exact hnowhere.overlooks (hbears ▸ hswitch)

/-- The calls for an entry of the scenario: none if its app is a default one. -/
def entryCalls (r : Registry) (stage : Stage) (dryRun : Bool) (name : String) : List AppCall :=
  if r.isDefault name then []
  else [.init name (Invocation.forApp name dryRun), .hook name stage .scenario]

/-- The reports about an entry that comes to nothing: none if its app is a default one. -/
def inertReports (r : Registry) (run : Run) (name : String) : List Report :=
  if r.isDefault name then [] else [⟨run.id, name, run.stage, .scenario, .unresolved⟩]

/-- The turn of an entry of the scenario. -/
def entryTurn (r : Registry) (name : String) : Turn :=
  if r.isDefault name then .skip name else .serve ⟨.scenario, name, r.resolve name⟩

/-- The turn of an entry does the same in both calls if its app overlooks the scenario. -/
theorem twin_entryTurn {scenario scenario' : Option Scenario} {view : Event → Option Event}
    {stage : Stage} {dryRun : Bool}
    (happ : r.Inert alike name ∨ (r.resolve name).Overlooks alike) :
    Turn.Twin (Scene.Reframed alike scenario scenario') view stage dryRun (r.entryTurn name)
      (r.entryTurn name) := by
  have hoverlooks : r.isDefault name = false → (r.resolve name).Overlooks alike := by
    intro hdefault
    rcases happ with (hinert | hinert) | happ
    · rw [hdefault] at hinert
      cases hinert
    · exact hinert.overlooks
    · exact happ
  rw [entryTurn]
  split
  · exact .skip name
  · rename_i hdefault
    have happ := hoverlooks (by simpa using hdefault)
    refine .serve (.of_scenario rfl (fun s s' h => ?_) (happ.hook stage scenario scenario')
      fun _ _ h => h)
    obtain ⟨hsurroundings, hsignals, hresult⟩ := happ.init _ _ _ h.surroundings
    exact ⟨⟨hsurroundings, h.scenario, h.experiment⟩, hsignals, by rw [hresult]⟩

end Registry

/-! ### Turns that come to nothing -/

namespace Orchestrator

/-- What the turn of an entry yields: the reports, and whether the call goes on. A default app has
had its turn, and any other app comes to what its slot comes to in the scene that is there. -/
inductive Yields (o : Orchestrator) (run : Run) (dryRun : Bool) (name : String) :
    List Report → Except Halt Unit → Prop
  | skipped (hdefault : o.registry.isDefault name = true) : Yields o run dryRun name [] (.ok ())
  | served {x : Serving} (scene : Scene) (hdefault : o.registry.isDefault name = false)
      (hx : x = Slot.serve ⟨.scenario, name, o.registry.resolve name⟩ o.limit run.stage dryRun
        scene) :
      Yields o run dryRun name (x.report? run).toList (x.verdict run)

variable (o : Orchestrator) (run : Run) (dryRun : Bool)
  {alike : Surroundings → Surroundings → Prop} {scenario scenario' : Option Scenario}

/-- The turn of an app that is only noted to be unresolved. -/
theorem turn_of_unresolved {name : String} {app : App} {s : Session} {surroundings : Surroundings}
    (hinit : app.init (Invocation.forApp name dryRun) s.scene.toSurroundings = { surroundings })
    (hhook : ∀ deadline (u : Session), u.scene = s.scene.within surroundings →
      (app.hook run.stage).run deadline u = (u, .finished (.error (.unresolved name)))) :
    let ready := s.elsewhere (s.scene.within surroundings)
      (s.trace ++ [.called (.init name (Invocation.forApp name dryRun))])
    o.turn run dryRun (.serve ⟨.scenario, name, app⟩) s =
      if s.channel.fired then (ready, .error (.failed (.cancelled run.stage)))
      else ((ready.emit (.called (.hook name run.stage .scenario))).report run name .scenario
        .unresolved, .ok ()) := by
  intro ready
  have hready : Slot.ready ⟨.scenario, name, app⟩ dryRun s = ready := by
    have hprepare := s.prepare_eq name app (Invocation.forApp name dryRun)
    rw [hinit] at hprepare
    refine hprepare.trans ?_
    simp only [App.complaint, List.append_nil]
    rfl
  have hchannel : ready.channel = s.channel := rfl
  rw [turn, hready, hchannel]
  by_cases hfired : s.channel.fired = true
  · rw [if_pos hfired, if_pos hfired]
  · rw [if_neg hfired, if_neg hfired, Slot.visit, Session.runHook, hhook _ _ rfl]
    rfl

/-- The turn of an unavailable name has no effect on a call that is compared, and is reported, if
it is not cancelled. -/
theorem turn_unavailable {name : String} (hname : o.registry.Unavailable alike name)
    {r s : Session} (hs : r.Abreast (Scene.Reframed alike scenario scenario') s) :
    (o.turn run dryRun (.serve ⟨.scenario, name, o.registry.resolve name⟩) s).2 =
        .error (.failed (.cancelled run.stage)) ∨
      ∃ t, o.turn run dryRun (.serve ⟨.scenario, name, o.registry.resolve name⟩) s =
          (t, .ok ()) ∧
        r.Abreast (Scene.Reframed alike scenario scenario') t ∧
        t.trace.calls = s.trace.calls ++
          [.init name (Invocation.forApp name dryRun), .hook name run.stage .scenario] ∧
        t.trace.reports = s.trace.reports ++
          [⟨run.id, name, run.stage, .scenario, .unresolved⟩] := by
  -- A missing app is told nothing; a command that is nowhere at least has its switch set.
  obtain ⟨surroundings, hinit, hsurroundings, hhook⟩ : ∃ surroundings,
      (o.registry.resolve name).init (Invocation.forApp name dryRun) s.scene.toSurroundings =
        { surroundings } ∧
      alike r.scene.toSurroundings surroundings ∧
      ∀ deadline (u : Session), u.scene = s.scene.within surroundings →
        ((o.registry.resolve name).hook run.stage).run deadline u =
          (u, .finished (.error (.unresolved name))) := by
    rcases hname.cases_resolve with happ | ⟨a, happ, hbears, hnowhere, hswitch⟩
    · rw [happ]
      exact ⟨_, rfl, hs.scene.surroundings, fun _ _ _ => rfl⟩
    · subst hbears
      rw [happ]
      have hswitched := (hswitch _ _ dryRun hs.scene.surroundings).2
      refine ⟨_, rfl, hswitched, fun deadline u hu => ?_⟩
      have hlocate : (a.host.finder u.scene.machine).locate a.command = none := by
        rw [hu]
        exact (hnowhere _ _ hswitched).2
      exact a.run_hook_of_locate_eq_none hlocate
  rw [o.turn_of_unresolved run dryRun hinit hhook]
  split
  · exact .inl rfl
  · refine .inr ⟨_, rfl, ⟨⟨hsurroundings, hs.scene.scenario, hs.scene.experiment⟩, hs.now,
      hs.channel, hs.upcoming⟩, ?_, ?_⟩
    · simp only [Session.report, Session.elsewhere, Session.trace_emit, List.append_assoc,
        Trace.calls_append]
      rfl
    · simp only [Session.report, Session.elsewhere, Session.trace_emit, List.append_assoc,
        Trace.reports_append]
      rfl

/-- The turn of an entry makes its calls, unless the call is cancelled there. -/
theorem calls_entryTurn (name : String) (s : Session)
    (hresult : (o.turn run dryRun (o.registry.entryTurn name) s).2 ≠
      .error (.failed (.cancelled run.stage))) :
    (o.turn run dryRun (o.registry.entryTurn name) s).1.trace.calls =
      s.trace.calls ++ o.registry.entryCalls run.stage dryRun name := by
  rw [Registry.entryTurn] at hresult ⊢
  rw [Registry.entryCalls]
  split
  · exact Trace.calls_append ..
  · rename_i hdefault
    rw [if_neg hdefault] at hresult
    rcases o.turn_cases run dryRun ⟨.scenario, name, o.registry.resolve name⟩ s with
      ⟨hfollowed, -⟩ | ⟨-, hcancelled⟩
    · exact hfollowed.calls.trans (congrArg (s.trace.calls ++ ·) (List.append_nil _))
    · exact absurd hcancelled hresult

/-- The turn of an entry yields its report, unless the call is cancelled there. -/
theorem yields_entryTurn (name : String) (s : Session) (reports : List Report)
    (hreports : (o.turn run dryRun (o.registry.entryTurn name) s).1.trace.reports =
      s.trace.reports ++ reports)
    (hresult : (o.turn run dryRun (o.registry.entryTurn name) s).2 ≠
      .error (.failed (.cancelled run.stage))) :
    o.Yields run dryRun name reports (o.turn run dryRun (o.registry.entryTurn name) s).2 := by
  rw [Registry.entryTurn] at hreports hresult ⊢
  by_cases hdefault : o.registry.isDefault name = true
  · rw [if_pos hdefault] at hreports ⊢
    have hnone : s.trace.reports ++ [] = s.trace.reports ++ reports :=
      (Trace.reports_append ..).symm.trans hreports
    rw [← List.append_cancel_left hnone]
    exact .skipped hdefault
  · rw [if_neg hdefault] at hreports hresult ⊢
    rcases o.turn_cases run dryRun ⟨.scenario, name, o.registry.resolve name⟩ s with
      ⟨hfollowed, hverdict⟩ | ⟨-, hcancelled⟩
    · have hone := hfollowed.reports.symm.trans hreports
      rw [hverdict, ← List.append_cancel_left hone, List.filterMap_eq_flatMap_toList,
        List.flatMap_singleton]
      exact .served s.scene (by simpa using hdefault) rfl
    · exact absurd hcancelled hresult

/-- The turn of an entry that is in both scenarios, and whose app overlooks them, does the same in
both calls. -/
theorem turn_kept {name : String}
    (happ : o.registry.Inert alike name ∨ (o.registry.resolve name).Overlooks alike)
    {s s' : Session} (hs : s.Abreast (Scene.Reframed alike scenario scenario') s') :
    InStep (Scene.Reframed alike scenario scenario') some s s'
        (o.turn run dryRun (o.registry.entryTurn name) s)
        (o.turn run dryRun (o.registry.entryTurn name) s') ∧
      ∃ reports,
        (o.turn run dryRun (o.registry.entryTurn name) s).1.trace.reports =
          s.trace.reports ++ reports ∧
        (o.turn run dryRun (o.registry.entryTurn name) s').1.trace.reports =
          s'.trace.reports ++ reports := by
  have hstep : InStep (Scene.Reframed alike scenario scenario') some s s'
      (o.turn run dryRun (o.registry.entryTurn name) s)
      (o.turn run dryRun (o.registry.entryTurn name) s') :=
    turn_inStep rfl (fun _ _ _ _ => rfl) (Registry.twin_entryTurn happ) hs
  obtain ⟨during, htrace, htrace'⟩ := hstep.echoes.during
  refine ⟨hstep, during.reports, ?_, ?_⟩
  · rw [htrace, Trace.reports_append]
  · rw [htrace', Trace.reports_append]

/-- The turn of an inserted entry has no effect on the comparison with a call that has not got
this turn. -/
theorem turn_inserted {name : String} (hinert : o.registry.Inert alike name) {s s' : Session}
    (hs : s.Abreast (Scene.Reframed alike scenario scenario') s') :
    (o.turn run dryRun (o.registry.entryTurn name) s').2 =
        .error (.failed (.cancelled run.stage)) ∨
      ∃ u', o.turn run dryRun (o.registry.entryTurn name) s' = (u', .ok ()) ∧
        s.Abreast (Scene.Reframed alike scenario scenario') u' ∧
        u'.trace.calls = s'.trace.calls ++ o.registry.entryCalls run.stage dryRun name ∧
        u'.trace.reports = s'.trace.reports ++ o.registry.inertReports run name := by
  rw [Registry.entryTurn, Registry.entryCalls, Registry.inertReports]
  split
  · exact .inr ⟨s'.notice (.alreadyApplied name), rfl, ⟨hs.scene, hs.now, hs.channel, hs.upcoming⟩,
      Trace.calls_append .., Trace.reports_append ..⟩
  · rename_i hdefault
    exact o.turn_unavailable run dryRun (hinert.resolve_left hdefault) hs

end Orchestrator
end LabLifecycle

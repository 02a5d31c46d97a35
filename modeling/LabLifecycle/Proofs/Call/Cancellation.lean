import LabLifecycle.Proofs.Call.Dispatch

/-!
# Calls that can be cancelled

A call that can be cancelled is compared with the plain call, in which nobody can ask for it.
Both follow the same schedule, and the plain call follows it to the end. So without a request
the two agree, and with one they agree as well or the call is cut off: then what it has done
is a prefix of what the plain call does. Up to there every hook came to what it comes to in
the plain call, and a hook that does not wait any more is not disturbed at all.
-/
namespace LabLifecycle

/-! ### Without a handle -/

namespace Session

/-- The session of a plain call: there is no handle, and none will come up. -/
def plain (s : Session) : Session := { s with channel := .never, upcoming := none }

variable {s t : Session}

theorem silent_plain (s : Session) : s.plain.channel.Silent := ⟨rfl, rfl⟩

theorem silent_foldl_signal (events : List HandleEvent) (hs : s.channel.Silent) :
    (events.foldl signal s).channel.Silent := by
  induction events generalizing s with
  | nil => exact hs
  | cons e rest ih => exact ih (s := s.signal e) (hs.react e)

theorem Aside.silent (h : s.Aside t) (hs : s.channel.Silent) : t.channel.Silent := by
  cases h with
  | event _ _ => exact hs
  | init name app options =>
    have hsignals := silent_foldl_signal (app.init options s.scene.toSurroundings).signals
      (s := (s.emit (.called (.init name options))).act
        (·.within (app.init options s.scene.toSurroundings).surroundings)) hs
    unfold prepare
    dsimp only
    split
    all_goals exact hsignals

theorem Quiet.silent (h : s.Quiet t) (hs : s.channel.Silent) : t.channel.Silent := by
  induction h with
  | refl => exact hs
  | tail _ haside ih => exact haside.silent ih

end Session

/-- Without a handle there is no request at the end of any number of hooks. -/
theorem Started.silent {limit : Option Duration} {stage : Stage} {s t : Session}
    {visits : List Visit} (h : Started limit stage s visits t) (hs : s.channel.Silent) :
    t.channel.Silent := by
  induction visits generalizing s with
  | nil => exact h.chained.silent hs
  | cons v rest ih =>
    obtain ⟨-, -, -, hgenuine, hrest⟩ := h.of_cons
    obtain ⟨⟨due, hdue, hbefore⟩, -⟩ := h.chained
    have hstart : v.before.channel.Silent := by
      rw [hbefore, Session.channel_emit]
      exact hdue.silent hs
    have hafter := Hook.silent_run (v.deadline limit) (v.slot.app.hook stage) hstart
    rw [hgenuine.run_eq] at hafter
    exact ih hrest hafter

/-! ### Hooks under cancellation -/

namespace Visit
variable {limit : Option Duration} {stage : Stage} {v : Visit}

/-- A hook that is interrupted was waiting when there was a request, and what it has changed
before stays. -/
theorem Genuine.of_interrupted (h : v.Genuine limit stage) (hended : v.ended = .interrupted) :
    ∃ rest w, Hook.Steps (v.deadline limit) (v.slot.app.hook stage, v.before) (rest, w) ∧
      rest.Waits ∧ v.after.scene = w.scene ∧ v.after.channel.fired = true := by
  obtain ⟨rest, w, hsteps, hscene, hstop⟩ := h.stopsAt
  rw [hended] at hstop
  cases hstop with
  | interrupted hwaits hfired => exact ⟨rest, w, hsteps, hwaits, hscene, hfired⟩

/-- A hook that comes to a point from where on it does not wait returns its own result. -/
theorem Genuine.of_straight (h : v.Genuine limit stage) {rest : Hook} {w : Session}
    (hsteps : Hook.Steps (v.deadline limit) (v.slot.app.hook stage, v.before) (rest, w))
    {scene : Scene} {result : HookResult}
    (hstraight : rest.straight? w.scene = some (scene, result)) :
    v.ended = .finished result ∧ v.after.scene = scene := by
  have hsame : (v.slot.app.hook stage).run (v.deadline limit) v.before =
      rest.run (v.deadline limit) w := Hook.run_eq_of_steps hsteps
  have hrest : (rest.run (v.deadline limit) w).2 = .finished result ∧
      (rest.run (v.deadline limit) w).1.scene = scene := rest.run_of_straight? hstraight
  rwa [← hsame, h.run_eq] at hrest

end Visit

/-! ### The end of a call -/

namespace Orchestrator

/-- The usual ending depends on nothing but the scene. -/
theorem scene_finish (stage : Stage) (s : Session) :
    (finish stage s).scene =
      if stage.normalizes then s.scene.update Experiment.setDefaults else s.scene := by
  unfold finish
  split
  all_goals rfl

theorem channel_finish (stage : Stage) (s : Session) :
    (finish stage s).channel = s.channel := by
  unfold finish
  split
  all_goals rfl

end Orchestrator

/-! ### Comparing two calls -/

/-- Two calls have done and returned the same. -/
structure Agree (t p : Session × Except Halt Unit) : Prop where
  result : t.2 = p.2
  calls : t.1.trace.calls = p.1.trace.calls
  reports : t.1.trace.reports = p.1.trace.reports
  scene : t.1.scene = p.1.scene

/-- A call from `s` on, with the hooks that it started, is a cancelled beginning of another one. It
was cut off at the door of a hook that the other call starts next, or its last hook was
interrupted, and then there is one more report, about that hook. No defaults have been filled
in. -/
structure CutShort (run : Run) (s : Session) (visits : List Visit)
    (t p : Session × Except Halt Unit) : Prop where
  result : t.2 = .error (.failed (.cancelled run.stage))
  calls : t.1.trace.calls <+: p.1.trace.calls
  cut :
    ((∃ next, t.1.trace.hooks ++ [next] <+: p.1.trace.hooks) ∧
      (∀ v ∈ visits, v.ended ≠ .interrupted) ∧ t.1.trace.reports <+: p.1.trace.reports) ∨
    ∃ first v, visits = first ++ [v] ∧ v.ended = .interrupted ∧
      s.trace.reports ++ first.filterMap (·.report? run) <+: p.1.trace.reports ∧
      t.1.trace.reports = s.trace.reports ++ first.filterMap (·.report? run) ++
        [⟨run.id, v.slot.app.name, run.stage, v.slot.pass, .failed⟩]
  unfinished : s.Extends t.1

/-- The reports about hooks that come to what their slots come to. -/
theorem filterMap_report?_of_serves (run : Run) {visits : List Visit} {served : List Serving}
    (h : List.Forall₂ Visit.Serves visits served) :
    visits.filterMap (·.report? run) = served.filterMap (·.report? run) := by
  induction h with
  | nil => rfl
  | cons hserves _ ih => rw [List.filterMap_cons, List.filterMap_cons, hserves.report?_eq, ih]

/-- A hook that comes to what its slot comes to is not interrupted. -/
theorem Visit.Serves.ne_interrupted {v : Visit} {x : Serving} (h : v.Serves x) :
    v.ended ≠ .interrupted := by
  rw [h.ended]
  cases x.result <;> simp [HookEnd.ofResult]

theorem ne_interrupted_of_serves {visits : List Visit} {served : List Serving}
    (h : List.Forall₂ Visit.Serves visits served) : ∀ v ∈ visits, v.ended ≠ .interrupted := by
  induction h with
  | nil => exact fun v hv => (List.not_mem_nil hv).elim
  | cons hserves _ ih => exact List.forall_mem_cons.mpr ⟨hserves.ne_interrupted, ih⟩

/-- Hooks that come to what some slots come to have made the calls of these slots. -/
theorem Started.hooks_of_serves {limit : Option Duration} {stage : Stage} {s t : Session}
    {visits : List Visit} {served : List Serving} (h : Started limit stage s visits t)
    (hserves : List.Forall₂ Visit.Serves visits served) :
    t.trace.hooks = s.trace.hooks ++ served.map (·.slot.call stage) := by
  have hslots := congrArg (List.map (·.call stage)) (Orchestrator.slots_of_serves hserves)
  rw [List.map_map, List.map_map] at hslots
  rw [h.hooks]
  exact congrArg (s.trace.hooks ++ ·) hslots

namespace Orchestrator
variable (o : Orchestrator) {run : Run} {dryRun : Bool} {s t u : Session}
  {visits : List Visit} {served plan : List Serving}

/-- Where a call is cut off it has not got beyond the calls of the slot. -/
theorem CutOff.calls {x : Slot} (h : o.CutOff run dryRun x s visits t) :
    t.trace.calls <+: s.trace.calls ++ x.calls run.stage dryRun := by
  cases h with
  | barred _ =>
    rw [x.calls_ready, Slot.calls, ← List.append_assoc]
    exact List.prefix_append ..
  | interrupted _ =>
    have htrace : (x.visit o.limit run.stage (x.ready dryRun s)).after.trace =
        (x.ready dryRun s).trace ++ [.called (x.call run.stage)] := by simp [Slot.visit]
    rw [Visit.calls_close, htrace, Trace.calls_append, x.calls_ready, Slot.calls,
      List.append_assoc]
    exact List.prefix_rfl

/-- A call that is cut off has got through a part of its schedule, and at most to the calls of the
slot that comes next. -/
theorem CutOff.calls_of_followed {before after : List Serving} {x : Serving}
    {first last : List Visit} {m : Session} (hplan : plan = before ++ x :: after)
    (hfollowed : Followed run dryRun s first before m)
    (hcut : o.CutOff run dryRun x.slot m last u) :
    u.trace.calls <+: s.trace.calls ++ plan.flatMap (·.slot.calls run.stage dryRun) := by
  rw [hplan, List.flatMap_append, List.flatMap_cons, ← List.append_assoc, ← List.append_assoc,
    ← hfollowed.calls]
  exact hcut.calls.trans (List.prefix_append ..)

/-- At the door of a hook there is nothing to report on, and otherwise the hook has been
interrupted. -/
theorem CutOff.reports {x : Slot} (h : o.CutOff run dryRun x s visits t) :
    (visits = [] ∧ t.trace.reports = s.trace.reports) ∨
      ∃ v, visits = [v] ∧ v.ended = .interrupted := by
  cases h with
  | barred _ =>
    have hready : Chronicle o.limit run s [] (x.ready dryRun s) := .ready x dryRun s
    exact Or.inl ⟨rfl, hready.reports.trans (List.append_nil _)⟩
  | interrupted hended => exact Or.inr ⟨_, rfl, hended⟩

theorem EndsAt.channel {stage : Stage} {t : Session × Except Halt Unit}
    (h : EndsAt stage u t) : t.1.channel = u.channel := by
  rcases h with rfl | ⟨halt, rfl⟩
  · exact channel_finish stage u
  · rfl

/-- Where two calls with the same result end, they end in the same way. -/
theorem EndsAt.scene_eq {stage : Stage} {u' : Session} {t p : Session × Except Halt Unit}
    (h : EndsAt stage u t) (h' : EndsAt stage u' p) (hresult : t.2 = p.2)
    (hscene : u.scene = u'.scene) : t.1.scene = p.1.scene := by
  rcases h with rfl | ⟨halt, rfl⟩
  · rcases h' with rfl | ⟨halt, rfl⟩
    · rw [scene_finish, scene_finish, hscene]
    · cases hresult
  · rcases h' with rfl | ⟨halt', rfl⟩
    · cases hresult
    · exact hscene

/-- A plain call follows its schedule to the end. -/
theorem apply_plain (id : RunId) {options : List InvocationOption} {stage : Stage}
    {dryRun : Bool} (hstage : (Invocation.ofOptions options).stage = some stage)
    (hdryRun : (Invocation.ofOptions options).dryRun = dryRun) (s : Session) :
    ∃ visits u, Started o.limit stage s.plain visits u ∧
      Followed ⟨id, stage⟩ dryRun s.plain visits (o.schedule stage dryRun s.scene) u ∧
      (o.apply id options s.plain).2 =
        Serving.verdicts ⟨id, stage⟩ (o.schedule stage dryRun s.scene) ∧
      EndsAt stage u (o.apply id options s.plain) := by
  obtain ⟨u, hchronicle, hswept, hend⟩ := o.callVisits_swept id hstage hdryRun s.plain
  have hsilent := hchronicle.toStarted.silent s.silent_plain
  cases hswept with
  | through hfollowed hresult => exact ⟨_, u, hchronicle.toStarted, hfollowed, hresult, hend⟩
  | cut _ _ _ hcut _ =>
    -- A cut takes a request, and there is nobody to make one.
    have hfired := hcut.fired
    rw [hsilent.1] at hfired
    cases hfired

/-- Calls that follow the same schedule to the end agree. -/
theorem agree_of_followed {s' u' : Session} {visits' : List Visit}
    {t p : Session × Except Halt Unit} (hfollowed : Followed run dryRun s visits plan u)
    (hresult : t.2 = Serving.verdicts run plan) (hend : EndsAt run.stage u t)
    (hplain : Followed run dryRun s' visits' plan u')
    (hresult' : p.2 = Serving.verdicts run plan) (hend' : EndsAt run.stage u' p)
    (htrace : s'.trace = s.trace) (hscene : s'.scene = s.scene) : Agree t p := by
  have hleft : u.scene = u'.scene := by rw [hfollowed.scene, hplain.scene, hscene]
  constructor
  case result => rw [hresult, hresult']
  case calls => rw [hend.trace.1, hend'.trace.1, hfollowed.calls, hplain.calls, htrace]
  case reports => rw [hend.trace.2.2, hend'.trace.2.2, hfollowed.reports, hplain.reports, htrace]
  case scene => exact hend.scene_eq hend' (hresult.trans hresult'.symm) hleft

/-- A call that is cut off is a cancelled beginning of one that follows the same schedule to
the end. -/
theorem cutShort_of_cut {s' u' m : Session} {visits' first last : List Visit}
    {before after : List Serving} {x : Serving} {t p : Session × Except Halt Unit}
    (hchronicle : Chronicle o.limit run s visits u)
    (hplan : plan = before ++ x :: after) (hvisits : visits = first ++ last)
    (hfollowed : Followed run dryRun s first before m)
    (hcut : o.CutOff run dryRun x.slot m last u)
    (hresult : t.2 = .error (.failed (.cancelled run.stage))) (hend : EndsAt run.stage u t)
    (hstarted : Started o.limit run.stage s' visits' u')
    (hplain : Followed run dryRun s' visits' plan u') (hend' : EndsAt run.stage u' p)
    (htrace : s'.trace = s.trace) : CutShort run s visits t p := by
  have hreports : s.trace.reports ++ before.filterMap (·.report? run) <+:
      p.1.trace.reports := by
    rw [hend'.trace.2.2, hplain.reports, htrace, hplan, List.filterMap_append, ← List.append_assoc]
    exact List.prefix_append ..
  have hhooks : s.trace.hooks ++ before.map (·.slot.call run.stage) ++
      [x.slot.call run.stage] <+: p.1.trace.hooks := by
    rw [hend'.trace.2.1, hstarted.hooks_of_serves hplain.serves, htrace, hplan, List.map_append,
      List.append_assoc, List.prefix_append_right_inj, List.prefix_append_right_inj]
    exact List.prefix_append [_] _
  constructor
  case result => exact hresult
  case calls =>
    rw [hend.trace.1, hend'.trace.1, hplain.calls, htrace]
    exact CutOff.calls_of_followed o hplan hfollowed hcut
  case cut =>
    rcases hcut.reports with ⟨rfl, hbarred⟩ | ⟨v, rfl, hended⟩
    · left
      rw [List.append_nil] at hvisits
      subst hvisits
      refine ⟨⟨x.slot.call run.stage, ?_⟩, ne_interrupted_of_serves hfollowed.serves, ?_⟩
      · rwa [hend.trace.2.1, hchronicle.toStarted.hooks_of_serves hfollowed.serves]
      · rwa [hend.trace.2.2, hbarred, hfollowed.reports]
    · right
      have hfirst := filterMap_report?_of_serves run hfollowed.serves
      refine ⟨first, v, hvisits, hended, by rwa [hfirst], ?_⟩
      have hlast : v.report? run =
          some ⟨run.id, v.slot.app.name, run.stage, v.slot.pass, .failed⟩ := by
        rw [Visit.report?, hended]
      rw [hend.trace.2.2, hchronicle.reports, hvisits, List.filterMap_append, ← List.append_assoc,
        List.filterMap_cons_some hlast, List.filterMap_nil]
  case unfinished =>
    rcases hend with rfl | ⟨halt, rfl⟩
    · cases hresult
    · exact hchronicle.toStarted.early.2

/-- A call that can be cancelled agrees with the plain call as long as there is no request. If
there is one, it may still agree. Otherwise it is cut short: it is cancelled, it has made the
first calls and reports of the plain call and none but a report about an interrupted hook
besides, and no defaults are filled in. The hooks that it starts are those of apps of the
registry, in the order of the passes. None is started once there is a request, a hook is
interrupted only while it waits, and one that does not wait any more keeps its own result, and the
call ends with it if its pass takes it for fatal. -/
theorem apply_cancellable (id : RunId) (options : List InvocationOption) {stage : Stage}
    (hstage : (Invocation.ofOptions options).stage = some stage) (s : Session) :
    ∃ u, Started o.limit stage s (o.callVisits id options s) u ∧
      ((o.apply id options s).1 = u ∨ (o.apply id options s).1 = finish stage u) ∧
      (o.apply id options s).1.trace.hooks =
        s.trace.hooks ++ (o.callVisits id options s).map (·.slot.call stage) ∧
      ((o.callVisits id options s).map (·.slot) <+: o.registry.defaultSlots ++
          o.registry.declaredSlots
            (o.between stage (Invocation.ofOptions options).dryRun s.scene).declaredApps ∧
        ((o.apply id options s).2 = .ok () → (o.callVisits id options s).map (·.slot) =
          o.registry.defaultSlots ++ o.registry.declaredSlots
            (o.between stage (Invocation.ofOptions options).dryRun s.scene).declaredApps) ∧
        ∀ steps, Registry.ofSteps steps = .ok o.registry → ∀ v ∈ o.callVisits id options s,
          v.slot.app = o.registry.resolve v.slot.name) ∧
      ((o.apply id options s).1.channel.fired = false →
        Agree (o.apply id options s) (o.apply id options s.plain)) ∧
      ((o.apply id options s).1.channel.fired = true →
        Agree (o.apply id options s) (o.apply id options s.plain) ∨
        CutShort ⟨id, stage⟩ s (o.callVisits id options s) (o.apply id options s)
          (o.apply id options s.plain)) ∧
      (∀ v ∈ o.callVisits id options s, v.before.channel.fired = false) ∧
      (∀ v ∈ o.callVisits id options s, v.ended = .interrupted →
        ∃ rest w,
          Hook.Steps (v.deadline o.limit) (v.slot.app.hook stage, v.before) (rest, w) ∧
          rest.Waits ∧ v.after.scene = w.scene ∧ v.after.channel.fired = true) ∧
      ∀ v ∈ o.callVisits id options s, ∀ rest w scene result,
        Hook.Steps (v.deadline o.limit) (v.slot.app.hook stage, v.before) (rest, w) →
        rest.straight? w.scene = some (scene, result) →
        v.ended = .finished result ∧ v.after.scene = scene ∧
          ⟨id, v.slot.name, stage, v.slot.pass, v.slot.pass.status result⟩ ∈
            (o.apply id options s).1.trace.reports ∧
          ∀ source, v.slot.pass.fatal? result = some source →
            (o.apply id options s).2 =
              .error (.failed (v.slot.pass.blame v.slot.name stage source)) := by
  generalize hdryRun : (Invocation.ofOptions options).dryRun = dryRun
  have hslots := o.callVisits_slots id hstage hdryRun s
  have hdecides := o.callVisits_decides id hstage s
  obtain ⟨u, hchronicle, hswept, hend⟩ := o.callVisits_swept id hstage hdryRun s
  obtain ⟨visits', u', hstarted', hplain, hresult', hend'⟩ := o.apply_plain id hstage hdryRun s
  generalize o.apply id options s = t at *
  generalize o.apply id options s.plain = p at *
  generalize o.callVisits id options s = visits at *
  have hstarted := hchronicle.toStarted
  refine ⟨u, hstarted, hend.fst, hend.trace.2.1.trans hstarted.hooks, hslots, ?_, ?_,
    hchronicle.uncancelled, fun v hv => (hchronicle.genuine v hv).of_interrupted, ?_⟩
  · intro hfired
    cases hswept with
    | through hfollowed hresult =>
      exact agree_of_followed hfollowed hresult hend hplain hresult' hend' rfl rfl
    | cut _ _ _ hcut _ =>
      rw [hend.channel, hcut.fired] at hfired
      cases hfired
  · intro _
    cases hswept with
    | through hfollowed hresult =>
      exact Or.inl (agree_of_followed hfollowed hresult hend hplain hresult' hend' rfl rfl)
    | cut hplan hvisits hfollowed hcut hresult =>
      exact Or.inr (o.cutShort_of_cut hchronicle hplan hvisits hfollowed hcut hresult hend
        hstarted' hplain hend' rfl)
  · intro v hv rest w scene result hsteps hstraight
    obtain ⟨hended, hscene⟩ := (hchronicle.genuine v hv).of_straight hsteps hstraight
    refine ⟨hended, hscene, ?_, fun source hfatal => ?_⟩
    · rw [hend.trace.2.2, hchronicle.reports]
      refine List.mem_append_right _ (List.mem_filterMap.mpr ⟨v, hv, ?_⟩)
      rw [Visit.report?, hended]
    · refine hdecides v hv _ ?_
      rw [Visit.close, hended]
      simp only [Slot.verdict, hfatal]

/-- A request that comes while the default app of the small laboratory takes its time cuts the
call short, with a report that it failed. -/
theorem sample_cut_short :
    (Invocation.ofOptions [.stage .configure]).stage = some .configure ∧
    CutShort ⟨default, .configure⟩ (Sample.session (some (3, .cancel)))
      (Sample.lab.callVisits default [.stage .configure] (Sample.session (some (3, .cancel))))
      (Sample.lab.apply default [.stage .configure] (Sample.session (some (3, .cancel))))
      (Sample.lab.apply default [.stage .configure]
        (Sample.session (some (3, .cancel))).plain) ∧
    (Sample.lab.apply default [.stage .configure]
        (Sample.session (some (3, .cancel)))).1.trace.reports =
      [⟨default, "audit", .configure, .default, .failed⟩] := by
  refine ⟨rfl, ?_, rfl⟩
  obtain ⟨u, -, -, -, -, -, hcompare, -⟩ := apply_cancellable Sample.lab default
    [.stage .configure] rfl (Sample.session (some (3, .cancel)))
  rcases hcompare rfl with hagree | hshort
  · have hreports := congrArg List.length hagree.reports
    exact absurd hreports (by decide)
  · exact hshort

end Orchestrator
end LabLifecycle

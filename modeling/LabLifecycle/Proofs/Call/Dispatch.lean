import LabLifecycle.Proofs.Call.Chronicle
import LabLifecycle.Proofs.Call.Schedule
import LabLifecycle.Proofs.Registry.Consistency
import Mathlib.Data.List.Forall2

/-!
# Calls follow their schedule

A call does what its schedule lays down, slot by slot, to the end, unless cancellation cuts it
off at one of the slots: at the door of the hook, or while the hook waits. A turn does so, a
sweep does so by induction on its turns, and both passes follow the schedule one after the
other.
-/
namespace LabLifecycle

/-- In a consistent registry the slots of the default apps are those of the default names. -/
theorem Registry.defaultSlots_eq_map {r : Registry} (h : Consistent r.apps r.defaultNames) :
    r.defaultSlots = r.defaultNames.map fun name => ⟨.default, name, r.resolve name⟩ := by
  rw [defaultSlots, defaults_eq_map h, List.map_map]
  refine List.map_congr_left fun name hname => ?_
  obtain ⟨app, happ⟩ := h.registered name hname
  have hbears : app.name = name := h.name_eq happ
  have hresolve : r.resolve name = app := resolve_of_get? happ
  rw [Function.comp_apply, hresolve, hbears]

/-- A slot of a call is for what its name resolves to. -/
theorem Registry.app_eq_resolve {r : Registry} (h : Consistent r.apps r.defaultNames)
    {names : List String} {x : Slot} (hx : x ∈ r.defaultSlots ++ r.declaredSlots names) :
    x.app = r.resolve x.name := by
  rw [defaultSlots_eq_map h, declaredSlots] at hx
  rcases List.mem_append.mp hx with hx | hx
  all_goals
    obtain ⟨name, -, rfl⟩ := List.mem_map.mp hx
    rfl

/-! ### Following a schedule -/

/-- A hook has come to what its slot comes to when nothing is cancelled. -/
structure Visit.Serves (v : Visit) (x : Serving) : Prop where
  slot : v.slot = x.slot
  scene : v.after.scene = x.scene
  ended : v.ended = .ofResult x.result

/-- Between two sessions a call has done just what some slots come to. -/
structure Followed (run : Run) (dryRun : Bool) (s : Session) (visits : List Visit)
    (served : List Serving) (t : Session) : Prop where
  serves : List.Forall₂ Visit.Serves visits served
  calls : t.trace.calls = s.trace.calls ++ served.flatMap (·.slot.calls run.stage dryRun)
  reports : t.trace.reports = s.trace.reports ++ served.filterMap (·.report? run)
  scene : t.scene = Serving.left s.scene served

namespace Followed
variable {run : Run} {dryRun : Bool} {s t u : Session} {visits moreVisits : List Visit}
  {served more : List Serving}

theorem refl (s : Session) : Followed run dryRun s [] [] s where
  serves := .nil
  calls := (List.append_nil _).symm
  reports := (List.append_nil _).symm
  scene := rfl

theorem trans (h : Followed run dryRun s visits served t)
    (h' : Followed run dryRun t moreVisits more u) :
    Followed run dryRun s (visits ++ moreVisits) (served ++ more) u where
  serves := List.rel_append h.serves h'.serves
  calls := by rw [h'.calls, h.calls, List.flatMap_append, List.append_assoc]
  reports := by rw [h'.reports, h.reports, List.filterMap_append, List.append_assoc]
  scene := by rw [h'.scene, h.scene, Serving.left_append]

theorem notice (s : Session) (n : Notice) : Followed run dryRun s [] [] (s.notice n) where
  serves := .nil
  calls := Trace.calls_append ..
  reports := Trace.reports_append ..
  scene := rfl

end Followed

namespace Slot
variable (x : Slot) (dryRun : Bool) (s : Session)

theorem scene_ready : (x.ready dryRun s).scene = x.arrive dryRun s.scene := by
  cases hpass : x.pass with
  | default => simp only [ready, arrive, hpass]
  | scenario =>
    simp only [ready, arrive, hpass]
    exact s.scene_prepare ..

theorem calls_ready : (x.ready dryRun s).trace.calls = s.trace.calls ++ x.initCalls dryRun := by
  unfold ready initCalls
  split
  · exact (List.append_nil _).symm
  · obtain ⟨complaint, htrace, hcalls, -, -⟩ :=
      s.trace_prepare x.name x.app (Invocation.forApp x.name dryRun)
    rw [htrace, Trace.calls_append, Trace.calls_append, hcalls]
    rfl

end Slot

namespace Visit

@[simp] theorem scene_close (run : Run) (v : Visit) :
    (v.close run).1.scene = v.after.scene := by
  unfold close
  split
  all_goals rfl

@[simp] theorem channel_close (run : Run) (v : Visit) :
    (v.close run).1.channel = v.after.channel := by
  unfold close
  split
  all_goals rfl

@[simp] theorem calls_close (run : Run) (v : Visit) :
    (v.close run).1.trace.calls = v.after.trace.calls := by
  unfold close
  split
  · exact (Trace.calls_append ..).trans (List.append_nil _)
  · simp only [Session.report, Session.notice, Session.trace_emit, List.append_assoc]
    exact (Trace.calls_append ..).trans (List.append_nil _)
  · rfl

end Visit

theorem Visit.Serves.report?_eq {v : Visit} {x : Serving} (h : v.Serves x) (run : Run) :
    v.report? run = x.report? run := by
  unfold report? Serving.report?
  rw [h.ended, h.slot]
  cases x.result <;> rfl

theorem Visit.Serves.verdict_eq {v : Visit} {x : Serving} (h : v.Serves x) (run : Run) :
    (v.close run).2 = x.verdict run := by
  unfold close Serving.verdict
  rw [h.ended, h.slot]
  cases x.result <;> rfl

namespace Slot

/-- A hook that is not interrupted comes to what its slot comes to. -/
theorem visit_serves (x : Slot) (limit : Option Duration) (stage : Stage) (dryRun : Bool)
    (s : Session) (hended : (x.visit limit stage (x.ready dryRun s)).ended ≠ .interrupted) :
    (x.visit limit stage (x.ready dryRun s)).Serves (x.serve limit stage dryRun s.scene) := by
  have houtcome := Session.runHook_outcome
    ((x.ready dryRun s).emit (.called (x.call stage))) limit (x.app.hook stage) hended
  rw [Session.scene_emit, x.scene_ready] at houtcome
  exact ⟨rfl, houtcome.1, houtcome.2⟩

theorem followed_visit (x : Slot) (limit : Option Duration) (run : Run) (dryRun : Bool)
    (s : Session)
    (hended : (x.visit limit run.stage (x.ready dryRun s)).ended ≠ .interrupted) :
    Followed run dryRun s [x.visit limit run.stage (x.ready dryRun s)]
      [x.serve limit run.stage dryRun s.scene]
      ((x.visit limit run.stage (x.ready dryRun s)).close run).1 := by
  have hserves := x.visit_serves limit run.stage dryRun s hended
  have htrace : (x.visit limit run.stage (x.ready dryRun s)).after.trace =
      (x.ready dryRun s).trace ++ [.called (x.call run.stage)] := by simp [Slot.visit]
  have hready : Chronicle limit run s [] (x.ready dryRun s) := .ready x dryRun s
  have hslot : (x.serve limit run.stage dryRun s.scene).slot = x := rfl
  generalize x.visit limit run.stage (x.ready dryRun s) = v at *
  generalize x.serve limit run.stage dryRun s.scene = served at *
  constructor
  case serves => exact .cons hserves .nil
  case calls =>
    rw [Visit.calls_close, htrace, Trace.calls_append, x.calls_ready, List.append_assoc]
    simp [calls, hslot]
  case reports =>
    rw [Visit.reports_close, htrace, Trace.reports_append, hready.reports,
      hserves.report?_eq run]
    cases hreport : served.report? run <;> simp [hreport]
  case scene =>
    rw [Visit.scene_close]
    exact hserves.scene

end Slot

/-! ### Being cut off -/

namespace Orchestrator

/-- Cancellation cuts a call off at a slot: at the door of the hook, or while it waits. -/
inductive CutOff (o : Orchestrator) (run : Run) (dryRun : Bool) (x : Slot) (s : Session) :
    List Visit → Session → Prop
  | barred (hfired : (x.ready dryRun s).channel.fired = true) :
      CutOff o run dryRun x s [] (x.ready dryRun s)
  | interrupted (hended : (x.visit o.limit run.stage (x.ready dryRun s)).ended = .interrupted) :
      CutOff o run dryRun x s [x.visit o.limit run.stage (x.ready dryRun s)]
        ((x.visit o.limit run.stage (x.ready dryRun s)).close run).1

/-- What becomes of a schedule: it is followed to the end, or the call is cut off at one of its
slots. -/
inductive Swept (o : Orchestrator) (run : Run) (dryRun : Bool) (plan : List Serving)
    (s : Session) (visits : List Visit) (t : Session) (result : Except Halt Unit) : Prop
  | through (hfollowed : Followed run dryRun s visits plan t)
      (hresult : result = Serving.verdicts run plan) : Swept o run dryRun plan s visits t result
  | cut {before after : List Serving} {x : Serving} {first last : List Visit} {m : Session}
      (hplan : plan = before ++ x :: after) (hvisits : visits = first ++ last)
      (hfollowed : Followed run dryRun s first before m)
      (hcut : o.CutOff run dryRun x.slot m last t)
      (hresult : result = .error (.failed (.cancelled run.stage))) :
      Swept o run dryRun plan s visits t result

variable (o : Orchestrator) {run : Run} {dryRun : Bool} {s t u : Session}
  {visits moreVisits : List Visit} {served plan : List Serving} {result : Except Halt Unit}

/-- Only a request to cancel cuts a call off. -/
theorem CutOff.fired {x : Slot} (h : o.CutOff run dryRun x s visits t) :
    t.channel.fired = true := by
  cases h with
  | barred hfired => exact hfired
  | interrupted hended =>
    have hgenuine : (x.visit o.limit run.stage (x.ready dryRun s)).Genuine o.limit run.stage := rfl
    obtain ⟨rest, u, -, -, hstop⟩ := hgenuine.stopsAt
    rw [hended] at hstop
    rw [Visit.channel_close]
    cases hstop with
    | interrupted _ hfired => exact hfired

/-- Hooks that come to what some slots come to are those of these slots. -/
theorem slots_of_serves (h : List.Forall₂ Visit.Serves visits served) :
    visits.map (·.slot) = served.map (·.slot) := by
  induction h with
  | nil => rfl
  | cons hserves _ ih => rw [List.map_cons, List.map_cons, hserves.slot, ih]

/-- Hooks are started for the slots of a schedule, in their order, and for all of them if the
call is not cut off. -/
theorem Swept.slots (h : o.Swept run dryRun plan s visits t result) :
    visits.map (·.slot) <+: plan.map (·.slot) ∧
      (result ≠ .error (.failed (.cancelled run.stage)) →
        visits.map (·.slot) = plan.map (·.slot)) := by
  cases h with
  | through hfollowed _ =>
    have hslots := slots_of_serves hfollowed.serves
    exact ⟨hslots ▸ List.prefix_rfl, fun _ => hslots⟩
  | @cut before after x first last m hplan hvisits hfollowed hcut hresult =>
    refine ⟨?_, fun hne => absurd hresult hne⟩
    have hlast : last.map (·.slot) <+: [x.slot] := by
      cases hcut with
      | barred _ => exact List.nil_prefix
      | interrupted _ => exact List.prefix_rfl
    rw [hvisits, hplan, List.map_append, slots_of_serves hfollowed.serves, List.map_append,
      List.prefix_append_right_inj]
    exact hlast.trans (List.prefix_append ..)

/-- A call that is not cancelled follows its schedule to the end. -/
theorem Swept.followed (h : o.Swept run dryRun plan s visits t result)
    (hne : result ≠ .error (.failed (.cancelled run.stage))) :
    Followed run dryRun s visits plan t ∧ result = Serving.verdicts run plan := by
  cases h with
  | through hfollowed hresult => exact ⟨hfollowed, hresult⟩
  | cut _ _ _ _ hresult => exact absurd hresult hne

/-- A call that has got through some slots goes on with the rest. -/
theorem Swept.of_followed (hfollowed : Followed run dryRun s visits served t)
    (hok : Serving.verdicts run served = .ok ())
    (h : o.Swept run dryRun plan t moreVisits u result) :
    o.Swept run dryRun (served ++ plan) s (visits ++ moreVisits) u result := by
  cases h with
  | through hrest hresult =>
    refine .through (hfollowed.trans hrest) ?_
    rw [Serving.verdicts_append_of_ok plan hok]
    exact hresult
  | @cut before after x first last m hplan hvisits hbefore hcut hresult =>
    have hplan : served ++ plan = (served ++ before) ++ x :: after := by
      rw [hplan, List.append_assoc]
    have hvisits : visits ++ moreVisits = (visits ++ first) ++ last := by
      rw [hvisits, List.append_assoc]
    exact .cut hplan hvisits (hfollowed.trans hbefore) hcut hresult

/-- A call that does not come to the end of some slots does not get to what would follow. -/
theorem Swept.append (more : List Serving) (h : o.Swept run dryRun plan s visits t result)
    (hresult : result ≠ Serving.verdicts run plan) :
    o.Swept run dryRun (plan ++ more) s visits t result := by
  cases h with
  | through _ hthrough => exact absurd hthrough hresult
  | @cut before after x first last m hplan hvisits hfollowed hcut hresult =>
    have hplan : plan ++ more = before ++ x :: (after ++ more) := by
      rw [hplan, List.append_assoc, List.cons_append]
    exact .cut hplan hvisits hfollowed hcut hresult

/-- The hook of a turn does what its slot comes to, or the call is cut off there. -/
theorem turn_cases (run : Run) (dryRun : Bool) (x : Slot) (s : Session) :
    (Followed run dryRun s (o.visit? run dryRun (.serve x) s).toList
        [x.serve o.limit run.stage dryRun s.scene] (o.turn run dryRun (.serve x) s).1 ∧
      (o.turn run dryRun (.serve x) s).2 =
        (x.serve o.limit run.stage dryRun s.scene).verdict run) ∨
    (o.CutOff run dryRun x s (o.visit? run dryRun (.serve x) s).toList
        (o.turn run dryRun (.serve x) s).1 ∧
      (o.turn run dryRun (.serve x) s).2 = .error (.failed (.cancelled run.stage))) := by
  by_cases hfired : (x.ready dryRun s).channel.fired = true
  · rw [turn, visit?, if_pos hfired, if_pos hfired]
    exact Or.inr ⟨.barred hfired, rfl⟩
  · rw [turn, visit?, if_neg hfired, if_neg hfired]
    by_cases hended : (x.visit o.limit run.stage (x.ready dryRun s)).ended = .interrupted
    · refine Or.inr ⟨.interrupted hended, ?_⟩
      rw [Visit.close, hended]
    · exact Or.inl ⟨x.followed_visit o.limit run dryRun s hended,
        (x.visit_serves o.limit run.stage dryRun s hended).verdict_eq run⟩

/-- A sweep follows the slots of its turns. -/
theorem sweep_swept (run : Run) (dryRun : Bool) (turns : List Turn) (s : Session) :
    o.Swept run dryRun (o.serveAll run.stage dryRun (turns.filterMap Turn.slot?) s.scene) s
      (o.visits run dryRun turns s) (o.sweep run dryRun turns s).1
      (o.sweep run dryRun turns s).2 := by
  induction turns generalizing s with
  | nil => exact .through (.refl s) rfl
  | cons turn rest ih =>
    cases turn with
    | skip name =>
      have hskip : o.Swept run dryRun _ s _ _ _ :=
        Swept.of_followed o (.notice s (.alreadyApplied name)) rfl (ih _)
      exact hskip
    | serve x =>
      have hslots : (Turn.serve x :: rest).filterMap Turn.slot? =
          x :: rest.filterMap Turn.slot? := rfl
      have hcases := o.turn_cases run dryRun x s
      have hslot : (x.serve o.limit run.stage dryRun s.scene).slot = x := rfl
      rw [hslots, serveAll, sweep, visits]
      generalize x.serve o.limit run.stage dryRun s.scene = v at *
      generalize (o.visit? run dryRun (.serve x) s).toList = first at *
      cases hturn : o.turn run dryRun (.serve x) s with
      | mk t result =>
        rw [hturn] at hcases
        rcases hcases with ⟨hfollowed, hresult⟩ | ⟨hcut, hresult⟩
        · have hresult : result = v.verdict run := hresult
          -- The slot itself decides whether the turns after it come up at all.
          rcases v.verdict_cases run with ⟨hstops, hverdict⟩ | ⟨hstops, halt, hverdict, -⟩
          · rw [hresult, hverdict, hstops]
            have hrest := ih t
            rw [hfollowed.scene] at hrest
            have hok : Serving.verdicts run [v] = .ok () :=
              Serving.verdicts_cons_of_ok [] hverdict
            exact Swept.of_followed o hfollowed hok hrest
          · rw [hresult, hverdict, hstops]
            dsimp only
            rw [List.append_nil]
            exact .through hfollowed (Serving.verdicts_cons_of_error [] hverdict).symm
        · have hresult : result = .error (.failed (.cancelled run.stage)) := hresult
          have hplan : ∃ after, (if v.stops = true then [v] else
              v :: o.serveAll run.stage dryRun (rest.filterMap Turn.slot?) v.scene) =
              [] ++ v :: after := by
            split
            · exact ⟨[], rfl⟩
            · exact ⟨_, rfl⟩
          obtain ⟨after, hplan⟩ := hplan
          rw [← hslot] at hcut
          rw [hresult]
          exact .cut hplan (List.append_nil _) (.refl s) hcut rfl

/-- Both passes follow the schedule. -/
theorem passes_swept (run : Run) (dryRun : Bool) (s : Session) :
    o.Swept run dryRun (o.schedule run.stage dryRun s.scene) s (o.passVisits run dryRun s)
      (o.passes run dryRun s).1 (o.passes run dryRun s).2 := by
  have hfirst := o.sweep_swept run dryRun o.registry.defaultTurns s
  rw [Registry.slots_defaultTurns] at hfirst
  unfold schedule
  generalize o.serveAll run.stage dryRun o.registry.defaultSlots s.scene = first at *
  dsimp only
  have hok := Serving.verdicts_eq_ok_iff run first
  rcases o.passes_cases run dryRun s with ⟨t, halt, hsweep, hpasses, hvisits⟩ |
    ⟨t, hsweep, hpasses, hvisits⟩
  · rw [hsweep] at hfirst
    rw [hpasses, hvisits]
    split
    · exact hfirst
    · -- No slot of the first pass ends the call, but the pass did: it was cut off.
      rename_i hstops
      have hthrough : Serving.verdicts run first = .ok () := hok.mpr (by simpa using hstops)
      exact Swept.append o _ hfirst (by rw [hthrough]; simp)
  · rw [hsweep] at hfirst
    rw [hpasses, hvisits]
    cases hfirst with
    | cut _ _ _ _ hresult => cases hresult
    | through hfollowed hresult =>
      have hscene : t.scene = Serving.left s.scene first := hfollowed.scene
      rw [← hscene, hok.mp hresult.symm]
      have hrest := o.sweep_swept run dryRun
        (o.registry.declaredTurns t.scene.experiment.declaredApps) t
      rw [Registry.slots_declaredTurns] at hrest
      exact Swept.of_followed o hfollowed hresult.symm hrest

/-- A call for a stage follows its schedule up to the end of its passes, and is told by its
hooks. -/
theorem callVisits_swept (id : RunId) {options : List InvocationOption} {stage : Stage}
    {dryRun : Bool} (hstage : (Invocation.ofOptions options).stage = some stage)
    (hdryRun : (Invocation.ofOptions options).dryRun = dryRun) (s : Session) :
    ∃ u, Chronicle o.limit ⟨id, stage⟩ s (o.callVisits id options s) u ∧
      o.Swept ⟨id, stage⟩ dryRun (o.schedule stage dryRun s.scene) s (o.callVisits id options s) u
        (o.apply id options s).2 ∧
      EndsAt stage u (o.apply id options s) := by
  have hcallVisits : o.callVisits id options s =
      o.passVisits ⟨id, stage⟩ dryRun (opened stage dryRun s) := by
    simp only [callVisits, hstage, hdryRun]
  have hopened : Followed ⟨id, stage⟩ dryRun s [] [] (opened stage dryRun s) := .notice s _
  have hpasses := Swept.of_followed o hopened rfl
    (o.passes_swept ⟨id, stage⟩ dryRun (opened stage dryRun s))
  obtain ⟨first, t, second, hvisits, htold, -⟩ :=
    o.passes_told ⟨id, stage⟩ dryRun (opened stage dryRun s)
  have hchronicle := (o.chronicle_opened ⟨id, stage⟩ dryRun stage s).trans htold.chronicle
  rw [← hvisits] at hchronicle
  rw [hcallVisits]
  obtain ⟨u, ⟨hcall, happly⟩ | ⟨halt, hcall, happly⟩⟩ := o.apply_cases hstage hdryRun s
  all_goals
    rw [hcall] at hpasses hchronicle
    rw [happly]
    refine ⟨u, hchronicle, hpasses, ?_⟩
  · exact Or.inl rfl
  · exact Or.inr ⟨halt, rfl⟩

/-- The hooks that a call starts are those of apps of its registry: of the default apps, in order,
and then of the other ones that are declared when the default apps are through. A call that
succeeds starts all of them. -/
theorem callVisits_slots (id : RunId) {options : List InvocationOption} {stage : Stage}
    {dryRun : Bool} (hstage : (Invocation.ofOptions options).stage = some stage)
    (hdryRun : (Invocation.ofOptions options).dryRun = dryRun) (s : Session) :
    (o.callVisits id options s).map (·.slot) <+: o.registry.defaultSlots ++
        o.registry.declaredSlots (o.between stage dryRun s.scene).declaredApps ∧
      ((o.apply id options s).2 = .ok () → (o.callVisits id options s).map (·.slot) =
        o.registry.defaultSlots ++
          o.registry.declaredSlots (o.between stage dryRun s.scene).declaredApps) ∧
      ∀ steps, Registry.ofSteps steps = .ok o.registry → ∀ v ∈ o.callVisits id options s,
        v.slot.app = o.registry.resolve v.slot.name := by
  obtain ⟨u, -, hswept, -⟩ := o.callVisits_swept id hstage hdryRun s
  obtain ⟨hbegin, hall, -⟩ := o.schedule_slots stage dryRun s.scene
  have hslots := hswept.slots.1.trans hbegin
  refine ⟨hslots, fun hok => ?_, fun steps hbuilt v hv => ?_⟩
  · have hne : (o.apply id options s).2 ≠ .error (.failed (.cancelled stage)) := by simp [hok]
    obtain ⟨-, hverdicts⟩ := hswept.followed o hne
    rw [hswept.slots.2 hne]
    exact hall ((Serving.verdicts_eq_ok_iff _ _).mp (hverdicts.symm.trans hok))
  · exact Registry.app_eq_resolve (Registry.consistent_ofSteps hbuilt)
      (hslots.subset (List.mem_map_of_mem hv))

/-- The apps that a call calls are those of its schedule, unless the call is cancelled: the
hooks of the default apps, by name and once each, and then the `init` and the hook of each
other app that the experiment declares when the default apps are through. Whatever these apps
make of the scenario, the list that they are in stays. It breaks off right behind the first
fatal hook, and every hook comes to what the schedule says. Without a stage among the options
a call does nothing. -/
theorem calls_eq_schedule {steps : List BuildStep}
    (hbuilt : Registry.ofSteps steps = .ok o.registry) (id : RunId)
    (options : List InvocationOption) (s : Session) :
    ((∀ stage, .stage stage ∉ options) →
      o.apply id options s = (s, .error (.failed .missingStage))) ∧
    (o.registry.defaultNames.Nodup ∧ o.registry.defaultSlots =
      o.registry.defaultNames.map fun name => ⟨.default, name, o.registry.resolve name⟩) ∧
    ∀ stage dryRun, (options.filterMap InvocationOption.stage?).getLast? = some stage →
      (Invocation.ofOptions options).dryRun = dryRun →
      ((o.schedule stage dryRun s.scene).map (·.slot) <+:
          o.registry.defaultSlots ++
            o.registry.declaredSlots (o.between stage dryRun s.scene).declaredApps ∧
        ((o.schedule stage dryRun s.scene).any (·.stops) = false →
          (o.schedule stage dryRun s.scene).map (·.slot) =
            o.registry.defaultSlots ++
              o.registry.declaredSlots (o.between stage dryRun s.scene).declaredApps) ∧
        ∀ v ∈ (o.schedule stage dryRun s.scene).dropLast, v.stops = false) ∧
      ((o.apply id options s).2 ≠ .error (.failed (.cancelled stage)) →
        (o.apply id options s).1.trace.calls = s.trace.calls ++
            (o.schedule stage dryRun s.scene).flatMap (·.slot.calls stage dryRun) ∧
          ∃ visits u, Started o.limit stage s visits u ∧
            List.Forall₂ Visit.Serves visits (o.schedule stage dryRun s.scene)) ∧
      ((o.apply id options s).2 = .error (.failed (.cancelled stage)) →
        (o.apply id options s).1.channel.fired = true) := by
  have hconsistent := Registry.consistent_ofSteps hbuilt
  refine ⟨fun hnone => ?_, ⟨hconsistent.distinct, ?_⟩, fun stage dryRun hstage hdryRun => ?_⟩
  · simp only [apply, Invocation.stage_ofOptions_eq_none hnone]
  · exact Registry.defaultSlots_eq_map hconsistent
  · rw [← Invocation.stage_ofOptions] at hstage
    obtain ⟨u, hchronicle, hswept, hend⟩ := o.callVisits_swept id hstage hdryRun s
    refine ⟨o.schedule_slots stage _ s.scene, ?_⟩
    cases hswept with
    | through hfollowed hresult =>
      refine ⟨fun _ => ⟨hend.trace.1.trans hfollowed.calls, _, u, hchronicle.toStarted,
        hfollowed.serves⟩, fun hcancelled => ?_⟩
      exact absurd (hresult.symm.trans hcancelled) (Serving.verdicts_ne_cancelled ⟨id, stage⟩ _)
    | cut _ _ _ hcut hresult =>
      refine ⟨fun hne => absurd hresult hne, fun _ => ?_⟩
      rcases hend with hend | ⟨halt, hend⟩
      · rw [hend] at hresult
        cases hresult
      · rw [hend]
        exact hcut.fired

/-- The schedule of the small laboratory has the default app once, and without an `init`. -/
theorem sample_schedule :
    Registry.ofSteps Sample.steps = .ok Sample.lab.registry ∧
    (Sample.lab.schedule .cleanup false (Sample.session none).scene).flatMap
        (·.slot.calls .cleanup false) =
      [.hook "audit" .cleanup .default, .init "probe" (Invocation.forApp "probe" false),
        .hook "probe" .cleanup .scenario] := by
  have hbuilt : Registry.ofSteps Sample.steps = .ok Sample.lab.registry := rfl
  obtain ⟨-, -, hcall⟩ :=
    calls_eq_schedule Sample.lab hbuilt default [.stage .cleanup] (Sample.session none)
  obtain ⟨hcalls, -⟩ := (hcall .cleanup false rfl rfl).2.1 (by decide)
  exact ⟨hbuilt, hcalls.symm⟩

end Orchestrator
end LabLifecycle

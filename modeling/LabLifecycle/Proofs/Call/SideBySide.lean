import LabLifecycle.Proofs.Call.Cancellation
import LabLifecycle.Proofs.Hook.Twins

/-!
# Calls side by side

Two calls for one stage are compared, of registries whose apps correspond. If corresponding apps
do not tell apart scenes that are alike, the calls do the same all the way: a turn does, therefore
a sweep, and therefore a call. What they leave in their traces is the same as far as it is looked
at, for which a view of events says what of them counts.
-/
namespace LabLifecycle

/-! ### Traces that show the same -/

/-- Of two stretches of sessions the traces show the same in a view of events. -/
def Session.Echoes (view : Event → Option Event) (s t s' t' : Session) : Prop :=
  ∃ during during' : Trace, t.trace = s.trace ++ during ∧ t'.trace = s'.trace ++ during' ∧
    during'.filterMap view = during.filterMap view

namespace Session.Echoes
variable {view : Event → Option Event} {s t u s' t' u' : Session}

theorem refl (s s' : Session) : Echoes view s s s' s' :=
  ⟨[], [], (List.append_nil _).symm, (List.append_nil _).symm, rfl⟩

theorem trans (h : Echoes view s t s' t') (h' : Echoes view t u t' u') :
    Echoes view s u s' u' := by
  obtain ⟨first, first', htrace, htrace', hview⟩ := h
  obtain ⟨second, second', hmore, hmore', hviewMore⟩ := h'
  refine ⟨first ++ second, first' ++ second', ?_, ?_, ?_⟩
  · rw [hmore, htrace, List.append_assoc]
  · rw [hmore', htrace', List.append_assoc]
  · rw [List.filterMap_append, List.filterMap_append, hview, hviewMore]

/-- Events that show the same are added. -/
theorem emit (s s' : Session) {e e' : Event} (h : view e' = view e) :
    Echoes view s (s.emit e) s' (s'.emit e') :=
  ⟨[e], [e'], rfl, rfl, by rw [List.filterMap_cons, List.filterMap_cons, h]⟩

/-- Something happens that leaves no trace. -/
theorem of_trace_eq (h : t.trace = s.trace) (h' : t'.trace = s'.trace) :
    Echoes view s t s' t' :=
  ⟨[], [], by rw [h, List.append_nil], by rw [h', List.append_nil], rfl⟩

/-- If everything counts, both traces are extended by the same. -/
theorem during (h : Echoes some s t s' t') :
    ∃ during : Trace, t.trace = s.trace ++ during ∧ t'.trace = s'.trace ++ during := by
  obtain ⟨during, during', htrace, htrace', hview⟩ := h
  rw [List.filterMap_some, List.filterMap_some] at hview
  exact ⟨during, htrace, hview ▸ htrace'⟩

end Session.Echoes

/-- The view does not show by which of two runs a report was made. -/
def BlindTo (view : Event → Option Event) (id id' : RunId) : Prop :=
  ∀ app stage pass status, view (.reported ⟨id', app, stage, pass, status⟩) =
    view (.reported ⟨id, app, stage, pass, status⟩)

/-! ### Inits -/

namespace App

/-- What is noticed about the result of an `init`. -/
def complaint (name : String) : HookResult → Trace
  | .ok _ => []
  | .error e => [.noticed (.initFailed name e)]

end App

namespace Session

/-- An `init` changes the surroundings and signals, and then it may complain. -/
theorem prepare_eq (s : Session) (name : String) (app : App) (options : Invocation) :
    let outcome := app.init options s.scene.toSurroundings
    let told := outcome.signals.foldl signal
      ((s.emit (.called (.init name options))).act (·.within outcome.surroundings))
    s.prepare name app options =
      told.elsewhere told.scene (told.trace ++ App.complaint name outcome.result) := by
  rw [prepare]
  dsimp only [scene_emit]
  generalize app.init options s.scene.toSurroundings = outcome
  cases outcome.result with
  | ok _ =>
    rw [App.complaint, List.append_nil]
    rfl
  | error e => rfl

/-- Signals that come in two sessions abreast leave them abreast. -/
theorem Abreast.foldl_signal {alike : Scene → Scene → Prop} (events : List HandleEvent)
    {s s' : Session} (h : s.Abreast alike s') :
    (events.foldl signal s).Abreast alike (events.foldl signal s') := by
  induction events generalizing s s' with
  | nil => exact h
  | cons e rest ih =>
    have hsignal : (s.signal e).Abreast alike (s'.signal e) :=
      ⟨h.scene, h.now, congrArg (·.react e) h.channel, h.upcoming⟩
    exact ih hsignal

end Session

/-! ### Slots that correspond -/

/-- Two slots are for the same name in the same pass. When their hooks are due, scenes that were
alike have `met`, and the hooks do not tell these apart. -/
structure Slot.Twin (alike met : Scene → Scene → Prop) (view : Event → Option Event)
    (stage : Stage) (dryRun : Bool) (x x' : Slot) : Prop where
  pass : x'.pass = x.pass
  name : x'.name = x.name
  bears : x'.app.name = x.app.name
  ready : ∀ s s' : Session, s.Abreast alike s' →
    (x.ready dryRun s).Abreast met (x'.ready dryRun s') ∧
      Session.Echoes view s (x.ready dryRun s) s' (x'.ready dryRun s')
  hook : Hook.Twin met (x.app.hook stage) (x'.app.hook stage)
  leave : ∀ s s', met s s' → alike s s'

namespace Slot.Twin
variable {alike met : Scene → Scene → Prop} {view : Event → Option Event} {stage : Stage}
  {dryRun : Bool}

/-- Default apps correspond if their hooks do. -/
theorem of_default {app app' : App} (hbears : app'.name = app.name)
    (hhook : Hook.Twin alike (app.hook stage) (app'.hook stage)) :
    Slot.Twin alike alike view stage dryRun ⟨.default, app.name, app⟩
      ⟨.default, app'.name, app'⟩ where
  pass := rfl
  name := hbears
  bears := hbears
  ready s s' h := ⟨h, .refl s s'⟩
  hook := hhook
  leave _ _ h := h

/-- Declared apps correspond if their inits do, besides their complaints as far as these are
looked at, and then their hooks. -/
theorem of_scenario {name : String} {app app' : App} (hbears : app'.name = app.name)
    (hinit : ∀ s s', alike s s' →
      let outcome := app.init (Invocation.forApp name dryRun) s.toSurroundings
      let outcome' := app'.init (Invocation.forApp name dryRun) s'.toSurroundings
      met (s.within outcome.surroundings) (s'.within outcome'.surroundings) ∧
        outcome'.signals = outcome.signals ∧
        (App.complaint name outcome'.result).filterMap view =
          (App.complaint name outcome.result).filterMap view)
    (hhook : Hook.Twin met (app.hook stage) (app'.hook stage))
    (hleave : ∀ s s', met s s' → alike s s') :
    Slot.Twin alike met view stage dryRun ⟨.scenario, name, app⟩ ⟨.scenario, name, app'⟩ where
  pass := rfl
  name := rfl
  bears := hbears
  ready s s' h := by
    obtain ⟨hmet, hsignals, hcomplaint⟩ := hinit s.scene s'.scene h.scene
    have hready := s.prepare_eq name app (Invocation.forApp name dryRun)
    have hready' := s'.prepare_eq name app' (Invocation.forApp name dryRun)
    dsimp only at hready hready'
    change (s.prepare name app _).Abreast met (s'.prepare name app' _) ∧
      Session.Echoes view s (s.prepare name app _) s' (s'.prepare name app' _)
    rw [hready, hready', hsignals]
    generalize app.init (Invocation.forApp name dryRun) s.scene.toSurroundings = outcome at *
    generalize app'.init (Invocation.forApp name dryRun) s'.scene.toSurroundings = outcome' at *
    let c : Event := .called (.init name (Invocation.forApp name dryRun))
    have hacted : ((s.emit c).act (·.within outcome.surroundings)).Abreast met
        ((s'.emit c).act (·.within outcome'.surroundings)) :=
      ⟨hmet, h.now, h.channel, h.upcoming⟩
    have htold := hacted.foldl_signal outcome.signals
    refine ⟨⟨htold.scene, htold.now, htold.channel, htold.upcoming⟩,
      [c] ++ App.complaint name outcome.result, [c] ++ App.complaint name outcome'.result,
      ?_, ?_, ?_⟩
    · rw [← List.append_assoc]
      exact congrArg (· ++ _) (Session.foldl_signal ..).2
    · rw [← List.append_assoc]
      exact congrArg (· ++ _) (Session.foldl_signal ..).2
    · rw [List.filterMap_append, List.filterMap_append, hcomplaint]
  hook := hhook
  leave := hleave

/-- Hooks that are due at the same moment are called alike and come to the same. -/
theorem visit {x x' : Slot} (h : x.Twin alike met view stage dryRun x') (limit : Option Duration)
    {t t' : Session} (ht : t.Abreast met t') :
    (x.visit limit stage t).after.Abreast met (x'.visit limit stage t').after ∧
      Session.Echoes view t (x.visit limit stage t).after t' (x'.visit limit stage t').after ∧
      (x'.visit limit stage t').ended = (x.visit limit stage t).ended := by
  have hcall : x'.call stage = x.call stage := by rw [Slot.call, Slot.call, h.name, h.pass]
  have hstart : (t.emit (.called (x.call stage))).Abreast met
      (t'.emit (.called (x'.call stage))) := ⟨ht.scene, ht.now, ht.channel, ht.upcoming⟩
  have hrun := h.hook.run (Hook.deadlineFrom limit t.now) hstart
  have hvisit : x'.visit limit stage t' =
      let run := (x'.app.hook stage).run (Hook.deadlineFrom limit t.now)
        (t'.emit (.called (x'.call stage)))
      ⟨x', t'.emit (.called (x'.call stage)), run.1, run.2⟩ := by
    rw [← ht.now]
    rfl
  rw [hvisit]
  refine ⟨hrun.1, ⟨[.called (x.call stage)], [.called (x'.call stage)], ?_, ?_, ?_⟩, hrun.2⟩
  · simp [Slot.visit]
  · simp
  · rw [hcall]

end Slot.Twin

/-- Two turns skip the same name, or they are for slots that correspond. -/
inductive Turn.Twin (alike : Scene → Scene → Prop) (view : Event → Option Event)
    (stage : Stage) (dryRun : Bool) : Turn → Turn → Prop
  | skip (name : String) : Twin alike view stage dryRun (.skip name) (.skip name)
  | serve {met : Scene → Scene → Prop} {x x' : Slot}
      (h : x.Twin alike met view stage dryRun x') :
      Twin alike view stage dryRun (.serve x) (.serve x')

/-- Two registries have slots that correspond, for the default apps and for whatever names are
declared. -/
structure Registry.Twin (alike : Scene → Scene → Prop) (view : Event → Option Event)
    (stage : Stage) (dryRun : Bool) (r r' : Registry) : Prop where
  defaults : List.Forall₂ (Turn.Twin alike view stage dryRun) r.defaultTurns r'.defaultTurns
  declared : ∀ names, List.Forall₂ (Turn.Twin alike view stage dryRun)
    (r.declaredTurns names) (r'.declaredTurns names)

namespace Registry
variable {alike : Scene → Scene → Prop} {view : Event → Option Event} {stage : Stage}
  {dryRun : Bool} {r r' : Registry}

/-- The turns of the default pass correspond if the default names are the same and under each of
them are apps whose hooks correspond. -/
theorem twin_defaultTurns (hnames : r'.defaultNames = r.defaultNames)
    (hdefault : ∀ name ∈ r.defaultNames, Option.Rel (fun app app' => app'.name = app.name ∧
      Hook.Twin alike (app.hook stage) (app'.hook stage)) (r.get? name) (r'.get? name)) :
    List.Forall₂ (Turn.Twin alike view stage dryRun) r.defaultTurns r'.defaultTurns := by
  rw [defaultTurns, defaultTurns, defaults, defaults, hnames]
  generalize r.defaultNames = names at hdefault
  induction names with
  | nil => exact .nil
  | cons name rest ih =>
    obtain ⟨hname, hrest⟩ := List.forall_mem_cons.mp hdefault
    rw [List.filterMap_cons, List.filterMap_cons]
    generalize r.get? name = app, r'.get? name = app' at hname
    cases hname with
    | none => exact ih hrest
    | some happ => exact .cons (.serve (.of_default happ.1 happ.2)) (ih hrest)

/-- The turns of a pass for declared names correspond if the default names are the same and the
slots correspond for all other names. -/
theorem twin_declaredTurns (hnames : r'.defaultNames = r.defaultNames)
    (hdeclared : ∀ name, r.isDefault name = false → ∃ met, Slot.Twin alike met view stage dryRun
      ⟨.scenario, name, r.resolve name⟩ ⟨.scenario, name, r'.resolve name⟩) (names : List String) :
    List.Forall₂ (Turn.Twin alike view stage dryRun) (r.declaredTurns names)
      (r'.declaredTurns names) := by
  have hdefault : ∀ name, r'.isDefault name = r.isDefault name := by
    intro name
    rw [isDefault, isDefault, hnames]
  induction names with
  | nil => exact .nil
  | cons name rest ih =>
    rw [declaredTurns, declaredTurns, List.map_cons, List.map_cons, hdefault]
    refine .cons ?_ ih
    split
    · exact .skip name
    · rename_i hname
      obtain ⟨met, hslot⟩ := hdeclared name (by simpa using hname)
      exact .serve hslot

/-- A registry corresponds to itself if the slots do that a call can come to. -/
theorem twin_self
    (hdefault : ∀ x, r.HasDefault x → ∃ met, x.Twin alike met view stage dryRun x)
    (hdeclared : ∀ name, r.isDefault name = false → ∃ met, Slot.Twin alike met view stage dryRun
      ⟨.scenario, name, r.resolve name⟩ ⟨.scenario, name, r.resolve name⟩) :
    r.Twin alike view stage dryRun r := by
  refine ⟨List.forall₂_same.mpr fun turn hturn => ?_, twin_declaredTurns rfl hdeclared⟩
  obtain ⟨app, -, rfl⟩ := List.mem_map.mp hturn
  obtain ⟨met, hx⟩ := hdefault _ (hasDefault_of_mem hturn)
  exact .serve hx

end Registry

/-! ### Turns, sweeps and calls -/

namespace Orchestrator
variable {o o' : Orchestrator} {id id' : RunId} {stage : Stage} {dryRun : Bool}
  {alike : Scene → Scene → Prop} {view : Event → Option Event} {s s' : Session}

/-- Two sessions have gone on from sessions abreast, they are abreast again, and in between they
have shown the same and come to the same. -/
structure InStep (alike : Scene → Scene → Prop) (view : Event → Option Event) (s s' : Session)
    (t t' : Session × Except Halt Unit) : Prop where
  abreast : t.1.Abreast alike t'.1
  echoes : Session.Echoes view s t.1 s' t'.1
  result : t'.2 = t.2

theorem InStep.trans {t t' u u' : Session × Except Halt Unit}
    (h : InStep alike view s s' t t') (h' : InStep alike view t.1 t'.1 u u') :
    InStep alike view s s' u u' :=
  ⟨h'.abreast, h.echoes.trans h'.echoes, h'.result⟩

theorem InStep.refl (hs : s.Abreast alike s') : InStep alike view s s' (s, .ok ()) (s', .ok ()) :=
  ⟨hs, .refl s s', rfl⟩

/-- Calls that have ended in step stay so, and the others go on from sessions abreast. -/
theorem InStep.andThen {t t' : Session × Except Halt Unit}
    {next next' : Session → Session × Except Halt Unit} (h : InStep alike view s s' t t')
    (hnext : ∀ u u', u.Abreast alike u' → InStep alike view u u' (next u) (next' u')) :
    InStep alike view s s' (goOn t next) (goOn t' next') := by
  obtain ⟨t, result⟩ := t
  obtain ⟨t', result'⟩ := t'
  have hresult : result' = result := h.result
  subst hresult
  cases result' with
  | error halt => exact h
  | ok _ => exact h.trans (hnext t t' h.abreast)

/-- The same is noticed in both sessions. -/
theorem InStep.notice {t t' : Session} (h : InStep alike view s s' (t, .ok ()) (t', .ok ()))
    (n : Notice) : InStep alike view s s' (t.notice n, .ok ()) (t'.notice n, .ok ()) where
  abreast := ⟨h.abreast.scene, h.abreast.now, h.abreast.channel, h.abreast.upcoming⟩
  echoes := h.echoes.trans (.emit t t' rfl)
  result := rfl

/-- What follows two hooks that have ended in the same way. -/
theorem close_inStep (hblind : BlindTo view id id') {v v' : Visit}
    (hpass : v'.slot.pass = v.slot.pass) (hname : v'.slot.name = v.slot.name)
    (hbears : v'.slot.app.name = v.slot.app.name) (hended : v'.ended = v.ended)
    (hafter : v.after.Abreast alike v'.after)
    (hechoes : Session.Echoes view s v.after s' v'.after) :
    InStep alike view s s' (v.close ⟨id, stage⟩) (v'.close ⟨id', stage⟩) := by
  obtain ⟨hscene, hnow, hchannel, hupcoming⟩ := hafter
  unfold Visit.close
  rw [hended]
  cases v.ended with
  | finished result =>
    simp only [hname, hpass]
    refine ⟨⟨hscene, hnow, hchannel, hupcoming⟩, hechoes.trans (.emit _ _ (hblind ..)), ?_⟩
    simp only [Slot.verdict, hname, hpass]
  | interrupted =>
    simp only [hbears, hpass]
    exact ⟨⟨hscene, hnow, hchannel, hupcoming⟩,
      (hechoes.trans (.emit _ _ rfl)).trans (.emit _ _ (hblind ..)), rfl⟩
  | pending => exact ⟨⟨hscene, hnow, hchannel, hupcoming⟩, hechoes, rfl⟩

/-- Turns for slots that correspond do the same. -/
theorem turn_inStep (hlimit : o'.limit = o.limit) (hblind : BlindTo view id id')
    {turn turn' : Turn} (hturn : turn.Twin alike view stage dryRun turn')
    (hs : s.Abreast alike s') :
    InStep alike view s s' (o.turn ⟨id, stage⟩ dryRun turn s)
      (o'.turn ⟨id', stage⟩ dryRun turn' s') := by
  cases hturn with
  | skip name =>
    exact (InStep.refl hs).notice (.alreadyApplied name)
  | @serve met x x' hx =>
    obtain ⟨hmet, hready⟩ := hx.ready s s' hs
    have hleave : ∀ {t t' : Session}, t.Abreast met t' → t.Abreast alike t' :=
      fun h => ⟨hx.leave _ _ h.scene, h.now, h.channel, h.upcoming⟩
    simp only [Orchestrator.turn]
    generalize x.ready dryRun s = t at *
    generalize x'.ready dryRun s' = t' at *
    rw [hmet.channel]
    split
    · exact ⟨hleave hmet, hready, rfl⟩
    · obtain ⟨hafter, hechoes, hended⟩ := hx.visit o.limit hmet
      rw [hlimit]
      exact close_inStep hblind hx.pass hx.name hx.bears hended (hleave hafter)
        (hready.trans hechoes)

/-- Sweeps over turns that correspond do the same. -/
theorem sweep_inStep (hlimit : o'.limit = o.limit) (hblind : BlindTo view id id')
    {turns turns' : List Turn}
    (hturns : List.Forall₂ (Turn.Twin alike view stage dryRun) turns turns')
    (hs : s.Abreast alike s') :
    InStep alike view s s' (o.sweep ⟨id, stage⟩ dryRun turns s)
      (o'.sweep ⟨id', stage⟩ dryRun turns' s') := by
  induction hturns generalizing s s' with
  | nil => exact .refl hs
  | cons hturn _ ih =>
    rw [sweep_cons, sweep_cons]
    exact (turn_inStep hlimit hblind hturn hs).andThen fun u u' hu => ih hu

/-- The passes of two calls do the same if the scenario is the same to both. -/
theorem passes_inStep (hlimit : o'.limit = o.limit) (hblind : BlindTo view id id')
    (hregistry : o.registry.Twin alike view stage dryRun o'.registry)
    (hsame : ∀ s s', alike s s' → s'.experiment = s.experiment) (hs : s.Abreast alike s') :
    InStep alike view s s' (o.passes ⟨id, stage⟩ dryRun s) (o'.passes ⟨id', stage⟩ dryRun s') := by
  rw [passes_eq_goOn, passes_eq_goOn]
  refine (sweep_inStep hlimit hblind hregistry.defaults hs).andThen fun u u' hu => ?_
  -- The second pass goes by the scenario that the first one has left, the same in both calls.
  rw [hsame _ _ hu.scene]
  exact sweep_inStep hlimit hblind (hregistry.declared _) hu

/-- Calls end in step if their passes do. -/
theorem finish_inStep {t t' : Session}
    (hdefaults : ∀ s s', alike s s' →
      alike (s.update Experiment.setDefaults) (s'.update Experiment.setDefaults))
    (ht : t.Abreast alike t') :
    InStep alike view t t' (finish stage t, .ok ()) (finish stage t', .ok ()) := by
  cases hnormalizes : stage.normalizes with
  | true =>
    have hfinish : ∀ t, finish stage t =
        ((t.act (·.update Experiment.setDefaults)).notice .defaultsApplied).notice .applied :=
      fun t => by simp only [finish, hnormalizes, if_true]
    rw [hfinish, hfinish]
    have hfilled : InStep alike view t t' (t.act (·.update Experiment.setDefaults), .ok ())
        (t'.act (·.update Experiment.setDefaults), .ok ()) :=
      ⟨⟨hdefaults _ _ ht.scene, ht.now, ht.channel, ht.upcoming⟩, .of_trace_eq rfl rfl, rfl⟩
    exact (hfilled.notice .defaultsApplied).notice .applied
  | false =>
    have hfinish : ∀ t, finish stage t = t.notice .applied :=
      fun t => by simp only [finish, hnormalizes, Bool.false_eq_true, if_false]
    rw [hfinish, hfinish]
    exact (InStep.refl ht).notice .applied

/-- What a call for a stage makes of its two passes. -/
def wrapUp (stage : Stage) : Session × Except Halt Unit → Session × Except Halt Unit
  | (t, .ok _) => (finish stage t, .ok ())
  | (t, .error halt) => (t, .error halt)

theorem wrapUp_eq_goOn (stage : Stage) (t : Session × Except Halt Unit) :
    wrapUp stage t = goOn t fun u => (finish stage u, .ok ()) := by
  obtain ⟨t, _ | _⟩ := t <;> rfl

theorem apply_eq_wrapUp (o : Orchestrator) {id : RunId} {options : List InvocationOption}
    (hstage : (Invocation.ofOptions options).stage = some stage)
    (hdryRun : (Invocation.ofOptions options).dryRun = dryRun) (s : Session) :
    o.apply id options s =
      wrapUp stage (o.passes ⟨id, stage⟩ dryRun (opened stage dryRun s)) := by
  obtain ⟨u, ⟨hpasses, happly⟩ | ⟨halt, hpasses, happly⟩⟩ := o.apply_cases hstage hdryRun s
  all_goals
    rw [hpasses, happly]
    rfl

theorem result_wrapUp (stage : Stage) (t : Session × Except Halt Unit) :
    (wrapUp stage t).2 = t.2 := by
  obtain ⟨t, _ | _⟩ := t <;> rfl

theorem trace_wrapUp (stage : Stage) (t : Session × Except Halt Unit) :
    (wrapUp stage t).1.trace.calls = t.1.trace.calls ∧
      (wrapUp stage t).1.trace.reports = t.1.trace.reports := by
  obtain ⟨t, _ | _⟩ := t
  · exact ⟨rfl, rfl⟩
  · obtain ⟨hcalls, -, hreports⟩ := trace_finish stage t
    exact ⟨hcalls, hreports⟩

/-- Sessions in step are in step when their calls have been wrapped up. -/
theorem InStep.wrapUp {t t' : Session × Except Halt Unit}
    (hdefaults : ∀ s s', alike s s' →
      alike (s.update Experiment.setDefaults) (s'.update Experiment.setDefaults))
    (h : InStep alike view s s' t t') :
    InStep alike view s s' (wrapUp stage t) (wrapUp stage t') := by
  rw [wrapUp_eq_goOn, wrapUp_eq_goOn]
  exact h.andThen fun u u' hu => finish_inStep hdefaults hu

/-- Two calls for the same stage and with the same switch do the same if the slots of their
registries correspond, to scenes that have the same experiment. -/
theorem apply_inStep {options options' : List InvocationOption} (hlimit : o'.limit = o.limit)
    (hblind : BlindTo view id id')
    (hstage : (Invocation.ofOptions options').stage = (Invocation.ofOptions options).stage)
    (hdryRun : (Invocation.ofOptions options').dryRun = (Invocation.ofOptions options).dryRun)
    (hregistry : ∀ stage, (Invocation.ofOptions options).stage = some stage →
      o.registry.Twin alike view stage (Invocation.ofOptions options).dryRun o'.registry)
    (hsame : ∀ s s', alike s s' → s'.experiment = s.experiment)
    (hdefaults : ∀ s s', alike s s' →
      alike (s.update Experiment.setDefaults) (s'.update Experiment.setDefaults))
    (hs : s.Abreast alike s') :
    InStep alike view s s' (o.apply id options s) (o'.apply id' options' s') := by
  cases hnone : (Invocation.ofOptions options).stage with
  | none =>
    simp only [apply, hstage, hnone]
    exact ⟨hs, .refl s s', rfl⟩
  | some stage =>
    generalize hswitch : (Invocation.ofOptions options).dryRun = dryRun at *
    have hopened : InStep alike view s s' (opened stage dryRun s, .ok ())
        (opened stage dryRun s', .ok ()) := by
      rw [opened, opened, hsame _ _ hs.scene]
      exact (InStep.refl hs).notice _
    have hpasses := hopened.trans
      (passes_inStep hlimit hblind (hregistry stage hnone) hsame hopened.abreast)
    rw [o.apply_eq_wrapUp hnone hswitch, o'.apply_eq_wrapUp (hstage.trans hnone) hdryRun]
    exact hpasses.wrapUp hdefaults

end Orchestrator
end LabLifecycle

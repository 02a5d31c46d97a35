import LabLifecycle.Proofs.Call.Repetition
import LabLifecycle.Proofs.Call.Reports
import LabLifecycle.Proofs.Call.SideBySide
import LabLifecycle.Proofs.Hook.Stateless

/-!
# Calls that follow each other

What calls on one registry share is the surroundings of their experiments, and in these the
dry-run switches of external commands. The switch of a default command is told when the registry
is set up, and no call touches it; that of any other command is told in every call, before it is
looked at. So if its apps have no memory of their own, a call behaves as if it were the first.
-/
namespace LabLifecycle

/-! ### Registries without a memory -/

/-- The app has no memory besides, if it is an external command, the switch of its name. -/
inductive App.Independent (name : String) : App → Prop
  | stateless {app : App} (h : app.Stateless) : Independent name app
  | external (a : ExternalApp) (hname : a.name = name) : Independent name a.app

/-- The apps that a building step brings in have no memory. -/
def BuildStep.Independent : BuildStep → Prop
  | .register app | .registerDefault app => app.Independent app.name
  | .fallback make => ∀ name, (make name).Independent name
  | .externalCommands _ _ | .expectDefaults _ => True

/-- Whatever a registry under construction has for a name has no memory. -/
structure RegistryBuilder.Independent (b : RegistryBuilder) : Prop where
  apps : ∀ name app, b.apps.get? name = some app → app.Independent name
  fallback : ∀ make, b.fallback = some make → ∀ name, (make name).Independent name

namespace RegistryBuilder.Independent
variable {b : RegistryBuilder}

theorem empty : Independent {} where
  apps name app h := by cases h
  fallback make h := by cases h

theorem register (h : b.Independent) {app : App} (happ : app.Independent app.name) :
    (b.register app).Independent where
  apps name found hfound := by
    rw [RegistryBuilder.register, SortedMap.get?_insert] at hfound
    split at hfound
    · rename_i hname
      cases hfound
      exact hname ▸ happ
    · exact h.apps name found hfound
  fallback := h.fallback

theorem step (h : b.Independent) {x : BuildStep} (hx : x.Independent) :
    (b.step x).Independent := by
  cases x with
  | register app => exact h.register hx
  | registerDefault app =>
    have hmore : RegistryBuilder.Independent { b with
        defaultNames :=
          if b.defaultNames.contains app.name then b.defaultNames
          else b.defaultNames ++ [app.name] } := ⟨h.apps, h.fallback⟩
    exact hmore.register hx
  | fallback make =>
    refine ⟨h.apps, fun found hfound => ?_⟩
    cases hfound
    exact hx
  | externalCommands host start =>
    refine ⟨h.apps, fun found hfound name => ?_⟩
    cases hfound
    exact .external ⟨name, start, host⟩ rfl
  | expectDefaults names => exact ⟨h.apps, h.fallback⟩

theorem run {steps : List BuildStep} (hsteps : ∀ x ∈ steps, x.Independent)
    (h : b.Independent) : (b.run steps).Independent := by
  induction steps generalizing b with
  | nil => exact h
  | cons x rest ih =>
    exact ih (fun y hy => hsteps y (List.mem_cons_of_mem x hy))
      (h.step (hsteps x (List.mem_cons_self ..)))

end RegistryBuilder.Independent

/-- Every name stands for an app without a memory if the building steps bring in no others. -/
theorem Registry.independent_resolve {r : Registry} {steps : List BuildStep}
    (hbuilt : Registry.ofSteps steps = .ok r) (hsteps : ∀ x ∈ steps, x.Independent)
    (name : String) : (r.resolve name).Independent name := by
  obtain ⟨happs, -, hfallback, -⟩ := ofSteps_eq_ok hbuilt
  have hbuilder := RegistryBuilder.Independent.run hsteps .empty
  unfold resolve
  cases happ : r.get? name with
  | some app =>
    have happ : r.apps.get? name = some app := happ
    exact hbuilder.apps name app (happs ▸ happ)
  | none =>
    cases hmake : r.fallback with
    | some make => exact hbuilder.fallback make (hfallback ▸ hmake) name
    | none => exact .stateless (App.stateless_missing name)

/-! ### Slots of apps without a memory -/

/-- What is known about switches when one more has been told. -/
def knownAfter (known : String → Option Bool) (name : String) (dryRun : Bool) :
    String → Option Bool :=
  fun other => if other = name then some dryRun else known other

/-- Level scenes are level again after a command was told in both whether it does dry runs, and
then this is known. -/
theorem Scene.Level.switchDryRun {known : String → Option Bool} {old old' : Surroundings}
    {s s' : Scene} (h : Level known old old' s s') (name : String) (dryRun : Bool) :
    Level (knownAfter known name dryRun) old old'
      (s.within (s.toSurroundings.switchDryRun name dryRun))
      (s'.within (s'.toSurroundings.switchDryRun name dryRun)) := by
  have htold : ∀ t : Surroundings, t.Told known →
      (t.switchDryRun name dryRun).Told (knownAfter known name dryRun) := by
    intro t ht other d hother
    rw [Surroundings.switchDryRun, SortedMap.get?_insert]
    rw [knownAfter] at hother
    split at hother
    · rename_i heq
      rw [if_pos heq]
      exact Option.some.inj hother
    · rename_i hne
      rw [if_neg hne]
      exact ht other d hother
  exact ⟨h.experiment, h.machine, h.journal, h.launches, htold _ h.told, htold _ h.told'⟩

/-- What was known about other switches is still known. -/
theorem Scene.Level.forget {known : String → Option Bool} {old old' : Surroundings}
    {s s' : Scene} {name : String} {dryRun : Bool}
    (h : Level (knownAfter known name dryRun) old old' s s') (hname : known name = none) :
    Level known old old' s s' := by
  have hless : ∀ t : Surroundings, t.Told (knownAfter known name dryRun) → t.Told known := by
    intro t ht other d hother
    refine ht other d ?_
    rw [knownAfter, if_neg ?_]
    · exact hother
    · rintro rfl
      rw [hname] at hother
      cases hother
  exact ⟨h.experiment, h.machine, h.journal, h.launches, hless _ h.told, hless _ h.told'⟩

namespace App.Independent
variable {known : String → Option Bool} {old old' : Surroundings} {view : Event → Option Event}
  {stage : Stage} {dryRun : Bool} {app : App}

/-- A default app does the same in level scenes if its switch is known. -/
theorem twin_default (h : app.Independent app.name) (hknown : (known app.name).isSome) :
    Slot.Twin (Scene.Level known old old') (Scene.Level known old old') view stage dryRun
      ⟨.default, app.name, app⟩ ⟨.default, app.name, app⟩ := by
  refine .of_default rfl ?_
  cases h with
  | stateless h => exact h.hook known old old' stage
  | external a hname =>
    obtain ⟨d, hd⟩ := Option.isSome_iff_exists.mp hknown
    exact a.twin_hook hd stage

/-- A declared app does the same in level scenes, even if its switch is not known before. -/
theorem twin_scenario {name : String} (h : app.Independent name) (hknown : known name = none) :
    ∃ met, Slot.Twin (Scene.Level known old old') met view stage dryRun
      ⟨.scenario, name, app⟩ ⟨.scenario, name, app⟩ := by
  cases h with
  | stateless h =>
    refine ⟨Scene.Level known old old', .of_scenario rfl (fun s s' hs => ?_)
      (h.hook known old old' stage) fun _ _ hs => hs⟩
    obtain ⟨hlevel, hsignals, hresult⟩ := h.init known old old' _ s s' hs
    exact ⟨hlevel, hsignals, by rw [hresult]⟩
  | external a hname =>
    subst hname
    exact ⟨Scene.Level (knownAfter known a.name dryRun) old old', .of_scenario rfl
      (fun s s' hs => ⟨hs.switchDryRun a.name dryRun, rfl, rfl⟩)
      (a.twin_hook (if_pos rfl) stage) fun _ _ hs => hs.forget hknown⟩

end App.Independent

/-! ### Calls one after another -/

/-- A call as it is asked for: of an experiment, with options, and with what may happen to its
cancel handle. Before it starts, something may have changed on the machine. -/
structure Call where
  id : RunId
  options : List InvocationOption
  experiment : Experiment
  channel : Channel := {}
  upcoming : Option (Nat × HandleEvent) := none
  meanwhile : Machine → Machine := fun m => m

/-- The session in which a call starts. -/
def Call.start (c : Call) (s : Surroundings) : Session where
  scene := { s with machine := c.meanwhile s.machine, experiment := c.experiment }
  channel := c.channel
  upcoming := c.upcoming

namespace Orchestrator

/-- Carry out a call. -/
def carryOut (o : Orchestrator) (c : Call) (s : Surroundings) : Session × Except Halt Unit :=
  o.apply c.id c.options (c.start s)

/-- The surroundings after some calls in a row. -/
def after (o : Orchestrator) (calls : List Call) (s : Surroundings) : Surroundings :=
  calls.foldl (fun s c => (o.carryOut c s).1.scene.toSurroundings) s

end Orchestrator

/-- The report without the number of its run. -/
def Report.unnumbered (r : Report) : Report := { r with run := default }

/-- The event without the number of a run. -/
def Event.unnumbered : Event → Event
  | .reported r => .reported r.unnumbered
  | e => e

/-- Numbers of runs are not in calls. -/
theorem Trace.calls_unnumbered (t : Trace) : calls (t.map Event.unnumbered) = t.calls := by
  rw [calls, List.filterMap_map]
  refine List.filterMap_congr fun e _ => ?_
  cases e <;> rfl

theorem Trace.reports_unnumbered (t : Trace) :
    reports (t.map Event.unnumbered) = t.reports.map Report.unnumbered := by
  rw [reports, reports, List.filterMap_map, List.map_filterMap]
  refine List.filterMap_congr fun e _ => ?_
  cases e <;> rfl

/-- Two calls, from surroundings on that may differ, have behaved in the same way: they have
called the same apps and told the same about them, have started the same commands, and have made
the same of the experiment and of the machine. -/
structure BehaveAlike (s : Surroundings) (t : Session × Except Halt Unit) (s' : Surroundings)
    (t' : Session × Except Halt Unit) : Prop where
  result : t'.2 = t.2
  calls : t'.1.trace.calls = t.1.trace.calls
  reports : t'.1.trace.reports.map Report.unnumbered = t.1.trace.reports.map Report.unnumbered
  experiment : t'.1.scene.experiment = t.1.scene.experiment
  machine : t'.1.scene.machine = t.1.scene.machine
  launches : ∃ launched, t.1.scene.launches = s.launches ++ launched ∧
    t'.1.scene.launches = s'.launches ++ launched
  journal : ∃ entries, t.1.scene.journal = s.journal ++ entries ∧
    t'.1.scene.journal = s'.journal ++ entries

namespace Orchestrator
variable (o : Orchestrator)

/-- What is known of switches throughout all calls: those of the default apps. -/
def settled (o : Orchestrator) (s : Surroundings) : String → Option Bool :=
  fun name =>
    if name ∈ o.registry.defaultNames then some ((s.dryRuns.get? name).getD false) else none

theorem told_settled (s : Surroundings) : s.Told (o.settled s) := by
  intro name dryRun h
  rw [settled] at h
  split at h
  · exact Option.some.inj h
  · cases h

variable {o} {steps : List BuildStep}

/-- Two calls on one registry of apps without a memory go on in step from level scenes. -/
theorem carryOut_inStep (hbuilt : Registry.ofSteps steps = .ok o.registry)
    (hsteps : ∀ x ∈ steps, x.Independent) {first s s' : Surroundings}
    (hs : s.Told (o.settled first)) (hs' : s'.Told (o.settled first))
    (hmachine : s'.machine = s.machine) (c : Call) (id' : RunId) :
    InStep (Scene.Level (o.settled first) s s') (fun e => some e.unnumbered) (c.start s)
      (c.start s') (o.carryOut c s) (o.carryOut { c with id := id' } s') := by
  have hconsistent := Registry.consistent_ofSteps hbuilt
  have happs := Registry.independent_resolve hbuilt hsteps
  -- What is known of switches is just enough: a default app is not told again before its hook,
  -- and any other app is.
  refine apply_inStep rfl (fun _ _ _ _ => rfl) rfl rfl (fun stage _ => ?_)
    (fun _ _ h => h.experiment) (fun _ _ h => h.update _) ?_
  · refine Registry.twin_self (fun x hx => ?_) fun name hname => ?_
    · obtain ⟨happ, hname⟩ := hx.resolves hconsistent
      obtain ⟨pass, name, app⟩ := x
      obtain ⟨hpass, -, hbears⟩ := hx
      change pass = .default at hpass
      change name = app.name at hbears
      subst hpass hbears
      refine ⟨_, App.Independent.twin_default ?_ ?_⟩
      · have hindependent := happs app.name
        rwa [← happ] at hindependent
      · rw [settled, if_pos hname]
        rfl
    · refine (happs name).twin_scenario ?_
      rw [settled, if_neg (by simpa [Registry.isDefault] using hname)]
  · have hmachine : c.meanwhile s'.machine = c.meanwhile s.machine := by rw [hmachine]
    refine ⟨⟨rfl, hmachine, ⟨[], ?_, ?_⟩, ⟨[], ?_, ?_⟩, hs, hs'⟩, rfl, rfl, rfl⟩
    all_goals exact (List.append_nil _).symm

/-- No call touches the switch of a default command. -/
theorem told_after (hbuilt : Registry.ofSteps steps = .ok o.registry)
    (hsteps : ∀ x ∈ steps, x.Independent) {first s : Surroundings}
    (hs : s.Told (o.settled first)) (calls : List Call) :
    (o.after calls s).Told (o.settled first) := by
  induction calls generalizing s with
  | nil => exact hs
  | cons c rest ih =>
    exact ih (carryOut_inStep hbuilt hsteps hs hs rfl c c.id).abreast.scene.told

/-- Calls in step from level scenes have behaved in the same way. -/
theorem InStep.behaveAlike {known : String → Option Bool} {s s' : Surroundings} {c c' : Call}
    {t t' : Session × Except Halt Unit}
    (h : InStep (Scene.Level known s s') (fun e => some e.unnumbered) (c.start s) (c'.start s')
      t t') : BehaveAlike s t s' t' := by
  obtain ⟨during, during', htrace, htrace', hview⟩ := h.echoes
  have htrace : t.1.trace = during := htrace
  have htrace' : t'.1.trace = during' := htrace'
  rw [List.filterMap_eq_map', ← htrace, ← htrace'] at hview
  refine ⟨h.result, ?_, ?_, h.abreast.scene.experiment, h.abreast.scene.machine,
    h.abreast.scene.launches, h.abreast.scene.journal⟩
  · rw [← Trace.calls_unnumbered, hview, Trace.calls_unnumbered]
  · rw [← Trace.reports_unnumbered, hview, Trace.reports_unnumbered]

/-- Calls on one registry do not influence each other if its apps have no memory. Whatever calls
came before, a call behaves as the same call would on the registry as it was set up, of the same
experiment and on the same machine; and no number of calls changes the switch that the command
of a default app had then. -/
theorem calls_independent (hbuilt : Registry.ofSteps steps = .ok o.registry)
    (hsteps : ∀ x ∈ steps, x.Independent) (s : Surroundings) (earlier : List Call) :
    (∀ c id', BehaveAlike (o.after earlier s) (o.carryOut c (o.after earlier s))
      { s with machine := (o.after earlier s).machine }
      (o.carryOut { c with id := id' } { s with machine := (o.after earlier s).machine })) ∧
    ∀ name ∈ o.registry.defaultNames,
      ((o.after earlier s).dryRuns.get? name).getD false = (s.dryRuns.get? name).getD false := by
  have htold := told_after hbuilt hsteps (o.told_settled s) earlier
  refine ⟨fun c id' => ?_, fun name hname => htold name _ ?_⟩
  · have hfresh : Surroundings.Told (o.settled s)
        { s with machine := (o.after earlier s).machine } := o.told_settled s
    exact (carryOut_inStep hbuilt hsteps htold hfresh rfl c id').behaveAlike
  · rw [settled, if_pos hname]

end Orchestrator

/-! ### A dry run before a run in earnest -/

namespace Sample

/-- A command that has nothing to say. -/
def silent (name : String) : ExternalApp where
  name := name
  start := defaultCommandStart
  host := workshop { code := some 0 }

/-- A default app that is a command, a scripted app, and commands for all other names. -/
def mixed : List BuildStep :=
  [.registerDefault (silent "audit").app, .register (Script.app { name := "probe" }),
    .externalCommands (workshop { code := some 0 }) defaultCommandStart]

/-- The registry of these steps. -/
def workbench : Orchestrator where
  registry := {
    apps := (SortedMap.empty.insert "audit" (silent "audit").app).insert "probe"
      (Script.app { name := "probe" })
    defaultNames := ["audit"]
    fallback := some fun name =>
      (ExternalApp.mk name defaultCommandStart (workshop { code := some 0 })).app
    commandStart := defaultCommandStart }

/-- A call for a scenario with a scripted app and a command. -/
def trial (dryRun : Bool) : Call where
  id := default
  options := [.stage .configure, .dryRun dryRun]
  experiment := (declaring ["probe", "tap"]).scene.experiment

end Sample

namespace Orchestrator

/-- A call in earnest starts the commands in earnest, although there was a dry run before. -/
theorem sample_trials :
    Registry.ofSteps Sample.mixed = .ok Sample.workbench.registry ∧
    (∀ x ∈ Sample.mixed, x.Independent) ∧
    (Sample.workbench.after [Sample.trial true] {}).launches.map (·.arguments) =
      [["configure"], ["configure", "--dry-run"]] ∧
    ∃ launched, (Sample.workbench.carryOut (Sample.trial false)
        (Sample.workbench.after [Sample.trial true] {})).1.scene.launches =
          (Sample.workbench.after [Sample.trial true] {}).launches ++ launched ∧
      launched.map (·.arguments) = [["configure"], ["configure"]] := by
  have hbuilt : Registry.ofSteps Sample.mixed = .ok Sample.workbench.registry := rfl
  have hsteps : ∀ x ∈ Sample.mixed, x.Independent := by
    simp only [Sample.mixed, List.forall_mem_cons]
    exact ⟨.external (Sample.silent "audit") rfl, .stateless (Script.stateless _), trivial,
      fun _ h => nomatch h⟩
  refine ⟨hbuilt, hsteps, rfl, ?_⟩
  obtain ⟨hlike, -⟩ := calls_independent hbuilt hsteps {} [Sample.trial true]
  obtain ⟨launched, hlaunches, hfresh⟩ := (hlike (Sample.trial false) default).launches
  refine ⟨launched, hlaunches, ?_⟩
  have harguments := congrArg (List.map (·.arguments)) hfresh
  exact harguments.symm

end Orchestrator
end LabLifecycle

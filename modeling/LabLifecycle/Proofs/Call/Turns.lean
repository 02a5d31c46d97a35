import LabLifecycle.Engine.Orchestrator
import LabLifecycle.Proofs.Hook.Course

/-!
# The turns of a call

Both passes of a call do the same with different apps: they let one app after another take
its turn until one of them ends the call. `Orchestrator.turn` is what a single turn does and
`Orchestrator.sweep` lets turns follow each other. The passes of a call are sweeps, over the
default apps and over what the scenario declares, so what a turn cannot do no call can do.
-/
namespace LabLifecycle

namespace Pass

/-- How a pass counts the result of a hook: only a declared app may be unavailable. -/
def status : Pass → HookResult → AppStatus
  | _, .ok _ => .ok
  | .default, .error _ => .failed
  | .scenario, .error (.unresolved _) => .unresolved
  | .scenario, .error _ => .failed

/-- The failure in the result of a hook that ends the call. -/
def fatal? : Pass → HookResult → Option AppError
  | _, .ok _ => none
  | .default, .error e => some e
  | .scenario, .error (.unresolved _) => none
  | .scenario, .error e => some e

/-- The error of a call that a failure of an app ends. -/
def blame : Pass → String → Stage → AppError → ApplyError
  | .default => .defaultApp
  | .scenario => .scenarioApp

end Pass

/-- An app that is to run in a pass, and the name that it runs for. -/
structure Slot where
  pass : Pass
  name : String
  app : App

/-- What comes up in a pass: the name of an app that has run already, or an app to run. -/
inductive Turn where
  | skip (name : String)
  | serve (slot : Slot)

/-- A hook that was started: the session in which it started, and the session and the end
that its run came to. -/
structure Visit where
  slot : Slot
  before : Session
  after : Session
  ended : HookEnd

namespace Slot

/-- The call of the hook. -/
def call (x : Slot) (stage : Stage) : AppCall := .hook x.name stage x.pass

/-- The calls before the hook: only a declared app is told the options. -/
def initCalls (x : Slot) (dryRun : Bool) : List AppCall :=
  match x.pass with
  | .default => []
  | .scenario => [.init x.name (Invocation.forApp x.name dryRun)]

/-- The session in which the hook is due. -/
def ready (x : Slot) (dryRun : Bool) (s : Session) : Session :=
  match x.pass with
  | .default => s
  | .scenario => s.prepare x.name x.app (Invocation.forApp x.name dryRun)

/-- Run the hook. -/
def visit (x : Slot) (limit : Option Duration) (stage : Stage) (s : Session) : Visit :=
  let before := s.emit (.called (x.call stage))
  let run := before.runHook limit (x.app.hook stage)
  ⟨x, before, run.1, run.2⟩

/-- What the result of the hook means for the call. -/
def verdict (x : Slot) (stage : Stage) (result : HookResult) : Except Halt Unit :=
  match x.pass.fatal? result with
  | none => .ok ()
  | some e => .error (.failed (x.pass.blame x.name stage e))

end Slot

namespace Visit

/-- What follows a hook: the report about it, and whether the call goes on. -/
def close (run : Run) (v : Visit) : Session × Except Halt Unit :=
  match v.ended with
  | .finished result =>
    (v.after.report run v.slot.name v.slot.pass (v.slot.pass.status result),
      v.slot.verdict run.stage result)
  | .interrupted =>
    ((v.after.notice (.interrupted v.slot.app.name)).report run v.slot.app.name v.slot.pass
      .failed, .error (.failed (.cancelled run.stage)))
  | .pending => (v.after, .error .pending)

end Visit

namespace Turn

/-- The app to run. -/
def slot? : Turn → Option Slot
  | skip _ => none
  | serve x => some x

end Turn

namespace Registry

/-- The turns of the default pass. -/
def defaultTurns (r : Registry) : List Turn :=
  r.defaults.map fun app => .serve ⟨.default, app.name, app⟩

/-- The turns of a pass for declared names. -/
def declaredTurns (r : Registry) (names : List String) : List Turn :=
  names.map fun name =>
    if r.isDefault name then .skip name else .serve ⟨.scenario, name, r.resolve name⟩

end Registry

namespace Orchestrator

/-- The hook that a turn starts. None is started in a call that is cancelled already. -/
def visit? (o : Orchestrator) (run : Run) (dryRun : Bool) : Turn → Session → Option Visit
  | .skip _, _ => none
  | .serve x, s =>
    if (x.ready dryRun s).channel.fired then none
    else some (x.visit o.limit run.stage (x.ready dryRun s))

/-- What a turn does, and whether the call goes on. -/
def turn (o : Orchestrator) (run : Run) (dryRun : Bool) :
    Turn → Session → Session × Except Halt Unit
  | .skip name, s => (s.notice (.alreadyApplied name), .ok ())
  | .serve x, s =>
    if (x.ready dryRun s).channel.fired then
      (x.ready dryRun s, .error (.failed (.cancelled run.stage)))
    else (x.visit o.limit run.stage (x.ready dryRun s)).close run

/-- Turns one after another, until one ends the call. -/
def sweep (o : Orchestrator) (run : Run) (dryRun : Bool) :
    List Turn → Session → Session × Except Halt Unit
  | [], s => (s, .ok ())
  | x :: rest, s =>
    match o.turn run dryRun x s with
    | (t, .error halt) => (t, .error halt)
    | (t, .ok _) => o.sweep run dryRun rest t

/-- The hooks that turns start one after another. -/
def visits (o : Orchestrator) (run : Run) (dryRun : Bool) : List Turn → Session → List Visit
  | [], _ => []
  | x :: rest, s =>
    (o.visit? run dryRun x s).toList ++
      match o.turn run dryRun x s with
      | (_, .error _) => []
      | (t, .ok _) => o.visits run dryRun rest t

/-- Both passes. What is declared is looked up when the first one is over. -/
def passes (o : Orchestrator) (run : Run) (dryRun : Bool) (s : Session) :
    Session × Except Halt Unit :=
  match o.sweep run dryRun o.registry.defaultTurns s with
  | (t, .error halt) => (t, .error halt)
  | (t, .ok _) =>
    o.sweep run dryRun (o.registry.declaredTurns t.scene.experiment.declaredApps) t

/-- The hooks that both passes start. -/
def passVisits (o : Orchestrator) (run : Run) (dryRun : Bool) (s : Session) : List Visit :=
  o.visits run dryRun o.registry.defaultTurns s ++
    match o.sweep run dryRun o.registry.defaultTurns s with
    | (_, .error _) => []
    | (t, .ok _) =>
      o.visits run dryRun (o.registry.declaredTurns t.scene.experiment.declaredApps) t

/-- Go on from where a call has come to, unless it has ended there. -/
def goOn (t : Session × Except Halt Unit) (next : Session → Session × Except Halt Unit) :
    Session × Except Halt Unit :=
  match t with
  | (s, .error halt) => (s, .error halt)
  | (s, .ok _) => next s

/-- A call does not come to what it comes to nowhere on its way. -/
theorem goOn_ne {t : Session × Except Halt Unit} {next : Session → Session × Except Halt Unit}
    {halt : Halt} (ht : t.2 ≠ .error halt) (hnext : ∀ u, (next u).2 ≠ .error halt) :
    (goOn t next).2 ≠ .error halt := by
  obtain ⟨t, result⟩ := t
  cases result with
  | error other => exact ht
  | ok _ => exact hnext t

variable (o : Orchestrator) (run : Run) (dryRun : Bool)

theorem sweep_cons (x : Turn) (rest : List Turn) (s : Session) :
    o.sweep run dryRun (x :: rest) s =
      goOn (o.turn run dryRun x s) (o.sweep run dryRun rest) := rfl

theorem passes_eq_goOn (s : Session) :
    o.passes run dryRun s = goOn (o.sweep run dryRun o.registry.defaultTurns s) fun t =>
      o.sweep run dryRun (o.registry.declaredTurns t.scene.experiment.declaredApps) t := rfl

/-- Every sweep ends in one of three ways: it is over, or its first turn ends the call, or
it goes on after its first turn. -/
theorem sweep_induction {motive : List Turn → Session → List Visit → Session →
      Except Halt Unit → Prop}
    (nothing : ∀ s, motive [] s [] s (.ok ()))
    (stop : ∀ x rest s t halt, o.turn run dryRun x s = (t, .error halt) →
      motive (x :: rest) s (o.visit? run dryRun x s).toList t (.error halt))
    (next : ∀ x rest s t visits u result, o.turn run dryRun x s = (t, .ok ()) →
      motive rest t visits u result →
      motive (x :: rest) s ((o.visit? run dryRun x s).toList ++ visits) u result)
    (turns : List Turn) (s : Session) :
    motive turns s (o.visits run dryRun turns s) (o.sweep run dryRun turns s).1
      (o.sweep run dryRun turns s).2 := by
  induction turns generalizing s with
  | nil => exact nothing s
  | cons x rest ih =>
    cases hturn : o.turn run dryRun x s with
    | mk t result =>
      simp only [sweep, visits, hturn]
      cases result with
      | error halt =>
        rw [List.append_nil]
        exact stop x rest s t halt hturn
      | ok _ => exact next x rest s t _ _ _ hturn (ih t)

/-! ### The passes of a call -/

/-- A turn is a run of the app and what its result means in the pass. -/
theorem turn_serve (x : Slot) (s : Session) :
    o.turn run dryRun (.serve x) s =
      match o.runApp run x.pass x.name x.app (x.ready dryRun s) with
      | (t, .error halt) => (t, .error halt)
      | (t, .ok result) =>
        (t.report run x.name x.pass (x.pass.status result), x.verdict run.stage result) := by
  rw [turn, runApp]
  by_cases hfired : (x.ready dryRun s).channel.fired = true
  · simp only [hfired, if_true]
  · simp only [if_neg hfired, Slot.visit, Slot.call, Visit.close]
    cases ((x.ready dryRun s).emit (.called (.hook x.name run.stage x.pass))).runHook o.limit
      (x.app.hook run.stage) with
    | mk t ended => cases ended <;> rfl

/-- The pass of the default apps is a sweep over them. -/
theorem applyDefaults_eq_sweep (apps : List App) (s : Session) :
    o.applyDefaults run apps s =
      o.sweep run dryRun (apps.map fun app => .serve ⟨.default, app.name, app⟩) s := by
  induction apps generalizing s with
  | nil => rfl
  | cons app rest ih =>
    rw [applyDefaults, List.map_cons, sweep, turn_serve]
    simp only [Slot.ready]
    cases o.runApp run .default app.name app s with
    | mk t ended =>
      cases ended with
      | error halt => rfl
      | ok result =>
        cases result with
        | ok _ => exact ih _
        | error e => rfl

/-- The pass of the declared apps is a sweep over the declared names. -/
theorem applyDeclared_eq_sweep (names : List String) (s : Session) :
    o.applyDeclared run dryRun names s =
      o.sweep run dryRun (o.registry.declaredTurns names) s := by
  induction names generalizing s with
  | nil => rfl
  | cons name rest ih =>
    rw [applyDeclared, Registry.declaredTurns, List.map_cons, sweep]
    by_cases hdefault : o.registry.isDefault name = true
    · rw [if_pos hdefault, if_pos hdefault]
      exact ih _
    · rw [if_neg hdefault, if_neg hdefault, turn_serve]
      simp only [Slot.ready]
      cases o.runApp run .scenario name (o.registry.resolve name)
        (s.prepare name (o.registry.resolve name) (Invocation.forApp name dryRun)) with
      | mk t ended =>
        cases ended with
        | error halt => rfl
        | ok result =>
          cases result with
          | ok _ => exact ih _
          | error e =>
            cases e with
            | unresolved _ => exact ih _
            | _ => rfl

/-- The session after the opening of a call. -/
def opened (stage : Stage) (dryRun : Bool) (s : Session) : Session :=
  s.notice (.opened stage s.scene.experiment.name dryRun)

/-- A call for a stage is its two passes between an opening and, if nothing failed, the end
of the call. -/
theorem applyStage_eq_passes (s : Session) :
    o.applyStage run dryRun s =
      match o.passes run dryRun (opened run.stage dryRun s) with
      | (t, .error halt) => (t, .error halt)
      | (t, .ok _) => (finish run.stage t, .ok ()) := by
  simp only [applyStage, passes, opened, o.applyDefaults_eq_sweep run dryRun,
    applyDeclared_eq_sweep, Registry.defaultTurns]
  cases o.sweep run dryRun (o.registry.defaults.map fun app => .serve ⟨.default, app.name, app⟩)
    (s.notice (.opened run.stage s.scene.experiment.name dryRun)) with
  | mk t result => cases result <;> rfl

/-- The hooks that a call starts. Without a stage there are none. -/
def callVisits (o : Orchestrator) (id : RunId) (options : List InvocationOption) (s : Session) :
    List Visit :=
  let invocation := Invocation.ofOptions options
  match invocation.stage with
  | none => []
  | some stage => o.passVisits ⟨id, stage⟩ invocation.dryRun (opened stage invocation.dryRun s)

/-- A call with a stage among its options ends where its passes end, or with the usual ending
if nothing failed. -/
theorem apply_cases {id : RunId} {options : List InvocationOption} {stage : Stage}
    {dryRun : Bool} (hstage : (Invocation.ofOptions options).stage = some stage)
    (hdryRun : (Invocation.ofOptions options).dryRun = dryRun) (s : Session) :
    ∃ u, (o.passes ⟨id, stage⟩ dryRun (opened stage dryRun s) = (u, .ok ()) ∧
        o.apply id options s = (finish stage u, .ok ())) ∨
      ∃ halt, o.passes ⟨id, stage⟩ dryRun (opened stage dryRun s) = (u, .error halt) ∧
        o.apply id options s = (u, .error halt) := by
  have happly : o.apply id options s = o.applyStage ⟨id, stage⟩ dryRun s := by
    simp only [apply, hstage, hdryRun]
  rw [happly, applyStage_eq_passes]
  cases o.passes ⟨id, stage⟩ dryRun (opened stage dryRun s) with
  | mk u result =>
    cases result with
    | ok _ => exact ⟨u, Or.inl ⟨rfl, rfl⟩⟩
    | error halt => exact ⟨u, Or.inr ⟨halt, rfl, rfl⟩⟩

end Orchestrator
end LabLifecycle

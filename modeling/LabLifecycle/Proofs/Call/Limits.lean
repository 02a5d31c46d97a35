import LabLifecycle.Proofs.Call.Repetition
import LabLifecycle.Proofs.Call.SideBySide
import LabLifecycle.Proofs.Hook.Limits

/-!
# The time limit of a call

A time limit is given to every hook of a call, and each hook has all of it for itself. So the
call comes to the same as one without a limit, of apps whose hooks fail by themselves instead of
exceeding it. The two calls are compared turn by turn: they are in the same session after each
turn, up to the one that ends both of them.
-/
namespace LabLifecycle

/-! ### Capped apps -/

/-- The app whose hooks fail instead of waiting longer than a limit. -/
def App.capped (limit : Duration) (app : App) : App :=
  { app with hook := fun stage => (app.hook stage).capped limit 0 }

/-- A slot with its app capped. -/
def Slot.capped (limit : Duration) (x : Slot) : Slot := { x with app := x.app.capped limit }

/-- A turn with its app capped. -/
def Turn.capped (limit : Duration) : Turn → Turn
  | skip name => skip name
  | serve x => serve (x.capped limit)

namespace Registry

/-- The registry with each of its apps changed. -/
def mapApps (f : App → App) (r : Registry) : Registry :=
  { r with apps := r.apps.map f, fallback := r.fallback.map (f ∘ ·) }

/-- The registry with all its apps capped. -/
def capped (limit : Duration) (r : Registry) : Registry := r.mapApps (App.capped limit)

variable (limit : Duration) (r : Registry)

theorem get?_capped (name : String) :
    (r.capped limit).get? name = (r.get? name).map (App.capped limit) := r.apps.get?_map _ name

/-- A name stands for the capped app. That of no app stands for one that does not wait. -/
theorem resolve_capped (name : String) :
    (r.capped limit).resolve name = (r.resolve name).capped limit := by
  have hfallback : (r.capped limit).fallback = r.fallback.map (App.capped limit ∘ ·) := rfl
  unfold resolve
  rw [get?_capped, hfallback]
  cases r.get? name with
  | some app => rfl
  | none => cases r.fallback <;> rfl

theorem defaultTurns_capped :
    (r.capped limit).defaultTurns = r.defaultTurns.map (Turn.capped limit) := by
  have hdefaults : (r.capped limit).defaults = r.defaults.map (App.capped limit) := by
    rw [defaults, defaults, List.map_filterMap]
    exact List.filterMap_congr fun name _ => r.get?_capped limit name
  rw [defaultTurns, defaultTurns, hdefaults, List.map_map, List.map_map]
  rfl

theorem declaredTurns_capped (names : List String) :
    (r.capped limit).declaredTurns names = (r.declaredTurns names).map (Turn.capped limit) := by
  rw [declaredTurns, declaredTurns, List.map_map]
  refine List.map_congr_left fun name _ => ?_
  have hdefault : (r.capped limit).isDefault name = r.isDefault name := rfl
  rw [Function.comp_apply, hdefault, resolve_capped]
  split <;> rfl

end Registry

/-! ### Turn by turn -/

/-- How a call under a limit compares with one of capped apps. They are the same, or both have
been ended by the same error, with the same trace and scene; or the first one was cancelled. -/
inductive LimitedLike (stage : Stage) (t t' : Session × Except Halt Unit) : Prop
  | same (h : t' = t)
  | halted {halt : Halt} (hresult : t.2 = .error halt) (hresult' : t'.2 = .error halt)
      (hscene : t'.1.scene = t.1.scene) (htrace : t'.1.trace = t.1.trace)
  | cancelled (h : t.2 = .error (.failed (.cancelled stage)))

/-- Calls that were halted stay so, and the others go on from the same session. -/
theorem LimitedLike.andThen {stage : Stage} {t t' : Session × Except Halt Unit}
    {next next' : Session → Session × Except Halt Unit} (h : LimitedLike stage t t')
    (hnext : ∀ u, LimitedLike stage (next u) (next' u)) :
    LimitedLike stage (Orchestrator.goOn t next) (Orchestrator.goOn t' next') := by
  obtain ⟨t, result⟩ := t
  obtain ⟨t', result'⟩ := t'
  cases h with
  | same h =>
    cases h
    cases result with
    | error halt => exact .same rfl
    | ok _ => exact hnext t
  | halted hresult hresult' hscene htrace =>
    cases hresult
    cases hresult'
    exact .halted rfl rfl hscene htrace
  | cancelled h =>
    cases h
    exact .cancelled rfl

/-- In both passes it is fatal that the time is up. -/
theorem Pass.fatal?_timedOut (p : Pass) (limit : Duration) :
    p.fatal? (.error (.timedOut limit)) = some (.timedOut limit) := by
  cases p <;> rfl

namespace Orchestrator

/-- The orchestrator without a limit, of the capped apps. -/
def capped (limit : Duration) (o : Orchestrator) : Orchestrator where
  registry := o.registry.capped limit

variable {o : Orchestrator} {limit : Duration} (run : Run) (dryRun : Bool)

/-- The hooks of a turn start in the same session and end alike. -/
theorem turn_capped (hlimit : o.limit = some limit) (x : Turn) (s : Session) :
    LimitedLike run.stage (o.turn run dryRun x s)
      ((o.capped limit).turn run dryRun (x.capped limit) s) := by
  cases x with
  | skip name => exact .same rfl
  | serve x =>
    have hready : (x.capped limit).ready dryRun s = x.ready dryRun s := by
      obtain ⟨_ | _, name, app⟩ := x
      all_goals rfl
    simp only [Turn.capped, turn, hready]
    by_cases hfired : (x.ready dryRun s).channel.fired = true
    · rw [if_pos hfired, if_pos hfired]
      exact .same rfl
    · rw [if_neg hfired, if_neg hfired, hlimit]
      have hlimited := Session.runHook_capped
        ((x.ready dryRun s).emit (.called (x.call run.stage))) limit (x.app.hook run.stage)
      have hvisit' : (x.capped limit).visit (o.capped limit).limit run.stage (x.ready dryRun s) =
          let before := (x.ready dryRun s).emit (.called (x.call run.stage))
          let run := before.runHook none ((x.app.hook run.stage).capped limit 0)
          ⟨x.capped limit, before, run.1, run.2⟩ := rfl
      rw [hvisit', Slot.visit]
      dsimp only
      generalize ((x.ready dryRun s).emit (.called (x.call run.stage))).runHook (some limit)
        (x.app.hook run.stage) = t at *
      generalize ((x.ready dryRun s).emit (.called (x.call run.stage))).runHook none
        ((x.app.hook run.stage).capped limit 0) = t' at *
      cases hlimited with
      | same =>
        refine .same ?_
        obtain ⟨t, ended⟩ := t
        cases ended <;> rfl
      | exceeded hscene htrace hended =>
        have hverdict : x.verdict run.stage (.error (.timedOut limit)) =
            .error (.failed (x.pass.blame x.name run.stage (.timedOut limit))) := by
          rw [Slot.verdict, Pass.fatal?_timedOut]
        obtain ⟨t, ended⟩ := t
        rcases hended with rfl | rfl
        · exact .halted hverdict hverdict hscene (congrArg (· ++ _) htrace)
        · exact .cancelled rfl

theorem sweep_capped (hlimit : o.limit = some limit) (turns : List Turn) (s : Session) :
    LimitedLike run.stage (o.sweep run dryRun turns s)
      ((o.capped limit).sweep run dryRun (turns.map (Turn.capped limit)) s) := by
  induction turns generalizing s with
  | nil => exact .same rfl
  | cons x rest ih =>
    rw [List.map_cons, sweep_cons, sweep_cons]
    exact (turn_capped run dryRun hlimit x s).andThen ih

theorem passes_capped (hlimit : o.limit = some limit) (s : Session) :
    LimitedLike run.stage (o.passes run dryRun s) ((o.capped limit).passes run dryRun s) := by
  have hdefault : (o.capped limit).registry.defaultTurns = _ :=
    o.registry.defaultTurns_capped limit
  rw [passes_eq_goOn, passes_eq_goOn, hdefault]
  refine (sweep_capped run dryRun hlimit o.registry.defaultTurns s).andThen fun u => ?_
  have hdeclared : (o.capped limit).registry.declaredTurns u.scene.experiment.declaredApps = _ :=
    o.registry.declaredTurns_capped limit _
  rw [hdeclared]
  exact sweep_capped run dryRun hlimit _ u

/-- Calls come to the same if the one under a limit is not cancelled. -/
theorem apply_capped (hlimit : o.limit = some limit) (id : RunId)
    (options : List InvocationOption) (s : Session)
    (huncancelled : ∀ stage, (o.apply id options s).2 ≠ .error (.failed (.cancelled stage))) :
    ((o.capped limit).apply id options s).2 = (o.apply id options s).2 ∧
      ((o.capped limit).apply id options s).1.trace = (o.apply id options s).1.trace ∧
      ((o.capped limit).apply id options s).1.scene = (o.apply id options s).1.scene := by
  cases hstage : (Invocation.ofOptions options).stage with
  | none =>
    simp only [apply, hstage]
    exact ⟨trivial, trivial, trivial⟩
  | some stage =>
    generalize hdryRun : (Invocation.ofOptions options).dryRun = dryRun
    have hlike : LimitedLike stage (o.apply id options s) ((o.capped limit).apply id options s) := by
      rw [o.apply_eq_wrapUp hstage hdryRun, (o.capped limit).apply_eq_wrapUp hstage hdryRun,
        wrapUp_eq_goOn, wrapUp_eq_goOn]
      exact (passes_capped ⟨id, stage⟩ dryRun hlimit _).andThen fun u => .same rfl
    cases hlike with
    | same h =>
      rw [h]
      exact ⟨rfl, rfl, rfl⟩
    | halted hresult hresult' hscene htrace => exact ⟨hresult'.trans hresult.symm, htrace, hscene⟩
    | cancelled h => exact absurd h (huncancelled stage)

end Orchestrator

/-! ### Hooks under a limit -/

/-- The hook has left a scene and a result, or it never returns. -/
def Visit.ComesTo (v : Visit) (outcome : Scene × Option HookResult) : Prop :=
  v.after.scene = outcome.1 ∧ v.ended = .ofResult outcome.2

/-- A hook that is not interrupted comes to its outcome under the limit. -/
theorem Visit.Genuine.comesTo {limit : Option Duration} {stage : Stage} {v : Visit}
    (h : v.Genuine limit stage) (hended : v.ended ≠ .interrupted) :
    v.ComesTo ((v.slot.app.hook stage).outcome limit 0 v.before.scene) := by
  have hrun : v.before.runHook limit (v.slot.app.hook stage) = (v.after, v.ended) := h
  have houtcome := v.before.runHook_outcome limit (v.slot.app.hook stage) (by rwa [hrun])
  rwa [hrun] at houtcome

namespace Orchestrator
variable {o : Orchestrator} {limit : Duration} (run : Run) (dryRun : Bool)

/-- Under a limit every hook ends. -/
theorem turn_ne_pending (hlimit : o.limit = some limit) (x : Turn) (s : Session) :
    (o.turn run dryRun x s).2 ≠ .error .pending := by
  cases x with
  | skip name => simp [turn]
  | serve x =>
    rw [turn]
    split
    · simp
    · have hgenuine : (x.visit o.limit run.stage (x.ready dryRun s)).Genuine o.limit run.stage :=
        rfl
      obtain ⟨rest, u, -, -, hstop⟩ := hgenuine.stopsAt
      rw [Visit.close]
      generalize x.visit o.limit run.stage (x.ready dryRun s) = v at *
      cases hended : v.ended with
      | finished result =>
        simp only [Slot.verdict]
        split <;> simp
      | interrupted => simp
      | pending =>
        rw [hended] at hstop
        cases hstop with
        | pending _ hdeadline =>
          rw [Visit.deadline, hlimit] at hdeadline
          cases hdeadline

theorem sweep_ne_pending (hlimit : o.limit = some limit) (turns : List Turn) (s : Session) :
    (o.sweep run dryRun turns s).2 ≠ .error .pending := by
  induction turns generalizing s with
  | nil => simp [sweep]
  | cons x rest ih =>
    rw [sweep_cons]
    exact goOn_ne (turn_ne_pending run dryRun hlimit x s) ih

/-- Under a limit every call ends. -/
theorem apply_ne_pending (hlimit : o.limit = some limit) (id : RunId)
    (options : List InvocationOption) (s : Session) :
    (o.apply id options s).2 ≠ .error .pending := by
  cases hstage : (Invocation.ofOptions options).stage with
  | none => simp [apply, hstage]
  | some stage =>
    rw [o.apply_eq_wrapUp hstage rfl, result_wrapUp, passes_eq_goOn]
    exact goOn_ne (sweep_ne_pending ⟨id, stage⟩ _ hlimit _ _)
      fun u => sweep_ne_pending ⟨id, stage⟩ _ hlimit _ u

/-- A time limit is a failure of the single hook. A call that is given one, and that is not
cancelled, comes to the same as the call without any of the apps whose hooks make the same
changes up to the wait that exceeds the limit and then fail. A hook that keeps the limit in total
is not touched by it, whatever the hooks before it have taken. One that does not is the last one
of the call, which fails in either pass. -/
theorem apply_with_limit (hlimit : o.limit = some limit) (id : RunId)
    (options : List InvocationOption) (s : Session)
    (huncancelled : ∀ stage, (o.apply id options s).2 ≠ .error (.failed (.cancelled stage))) :
    (((o.capped limit).apply id options s).2 = (o.apply id options s).2 ∧
      ((o.capped limit).apply id options s).1.trace = (o.apply id options s).1.trace ∧
      ((o.capped limit).apply id options s).1.scene = (o.apply id options s).1.scene) ∧
    (o.apply id options s).2 ≠ .error .pending ∧
    ∀ stage, (Invocation.ofOptions options).stage = some stage →
      ∀ v ∈ o.callVisits id options s,
        v.ComesTo (((v.slot.app.hook stage).capped limit 0).outcome none 0 v.before.scene) ∧
        (¬ (v.slot.app.hook stage).Overruns limit v.before.scene →
          v.ComesTo ((v.slot.app.hook stage).outcome none 0 v.before.scene)) ∧
        ((v.slot.app.hook stage).Overruns limit v.before.scene →
          v.ended = .finished (.error (.timedOut limit)) ∧
            (o.apply id options s).2 =
              .error (.failed (v.slot.pass.blame v.slot.name stage (.timedOut limit)))) := by
  refine ⟨apply_capped hlimit id options s huncancelled, apply_ne_pending hlimit id options s, ?_⟩
  intro stage hstage v hv
  obtain ⟨first, t, second, u, hvisits, htold, -⟩ := o.callVisits_told id hstage s
  have hgenuine : v.Genuine (some limit) stage := by
    rw [← hlimit]
    exact htold.chronicle.genuine v (hvisits ▸ hv)
  have hended : v.ended ≠ .interrupted := by
    intro hended
    exact huncancelled stage (o.callVisits_decides id hstage s v hv _ (by rw [Visit.close, hended]))
  have hcomes := hgenuine.comesTo hended
  refine ⟨?_, fun hkeeps => ?_, fun hover => ?_⟩
  · rw [Hook.outcome_capped]
    exact hcomes
  · obtain ⟨total, htotal⟩ := not_forall.mp hkeeps
    obtain ⟨htotal, hle⟩ := Classical.not_imp.mp htotal
    rwa [Hook.outcome_of_totalWait_le htotal (by omega)] at hcomes
  · have hresult := Hook.outcome_of_overruns (Nat.zero_le _)
      fun total htotal => (Nat.zero_add total).symm ▸ hover total htotal
    have hfinished : v.ended = .finished (.error (.timedOut limit)) := by
      rw [hcomes.2, hresult]
      rfl
    refine ⟨hfinished, o.callVisits_decides id hstage s v hv _ ?_⟩
    rw [Visit.close, hfinished]
    dsimp only [Slot.verdict]
    rw [Pass.fatal?_timedOut]

end Orchestrator

/-! ### A hook that takes too long -/

namespace Sample

/-- An app that makes a node before and after each of two waits. -/
def craftsman (name : String) (first second : Nat) : App :=
  { App.plain name with
    hook := fun _ =>
      .change (·.update (·.withNode { hostname := name })) <| .wait ⟨first⟩ <|
      .change (·.update (·.withNode { hostname := name ++ "-halfway" })) <| .wait ⟨second⟩ <|
      .change (·.update (·.withNode { hostname := name ++ "-done" })) .done }

/-- A default app that keeps the time limit, just so, and an app that does not. -/
def rushed : Orchestrator where
  registry := {
    apps := (SortedMap.empty.insert "swift" (craftsman "swift" 2 3)).insert "tardy"
      (craftsman "tardy" 4 4)
    defaultNames := ["swift"]
    fallback := none
    commandStart := defaultCommandStart }
  limit := some ⟨6⟩

end Sample

namespace Orchestrator

/-- The app that takes too long makes the call fail, and what it has made halfway stays, as if it
had failed by itself there. The time that the default app has taken is not counted. -/
theorem sample_time_limit :
    Sample.rushed.limit = some ⟨6⟩ ∧
    (∀ stage, (Sample.rushed.apply default [.stage .configure] (Sample.declaring ["tardy"])).2 ≠
      .error (.failed (.cancelled stage))) ∧
    (Sample.rushed.apply default [.stage .configure] (Sample.declaring ["tardy"])).2 =
      .error (.failed (.scenarioApp "tardy" .configure (.timedOut ⟨6⟩))) ∧
    ((Sample.rushed.capped ⟨6⟩).apply default [.stage .configure]
        (Sample.declaring ["tardy"])).2 =
      .error (.failed (.scenarioApp "tardy" .configure (.timedOut ⟨6⟩))) ∧
    ((Sample.rushed.capped ⟨6⟩).apply default [.stage .configure]
        (Sample.declaring ["tardy"])).1.scene.experiment.spec.topology.nodes.map (·.hostname) =
      ["swift", "swift-halfway", "swift-done", "tardy", "tardy-halfway"] := by
  have hresult : (Sample.rushed.apply default [.stage .configure] (Sample.declaring ["tardy"])).2 =
      .error (.failed (.scenarioApp "tardy" .configure (.timedOut ⟨6⟩))) := rfl
  have huncancelled : ∀ stage, (Sample.rushed.apply default [.stage .configure]
      (Sample.declaring ["tardy"])).2 ≠ .error (.failed (.cancelled stage)) := by
    intro stage h
    rw [hresult] at h
    cases h
  obtain ⟨⟨hsame, -, hscene⟩, -⟩ := apply_with_limit (o := Sample.rushed) rfl default
    [.stage .configure] (Sample.declaring ["tardy"]) huncancelled
  refine ⟨rfl, huncancelled, hresult, hsame.trans hresult, ?_⟩
  rw [hscene]
  rfl

end Orchestrator
end LabLifecycle

import LabLifecycle.Proofs.Call.Turns
import LabLifecycle.Proofs.Hook.Outcome

/-!
# The schedule of a call

Which apps a call runs, and what they make of the scene, is laid down by a schedule that
knows neither clock nor trace nor cancel handle: one app after another gets its slot, until
one of them ends the call. The declared apps are looked up once, when the default apps are
through.
-/
namespace LabLifecycle

/-- What a slot comes to when nothing is cancelled: the scene that is left, and the result of
the hook, none if it never returns. -/
structure Serving where
  slot : Slot
  scene : Scene
  result : Option HookResult

namespace Slot

/-- The scene in which the hook starts: only a declared app is told the options. -/
def arrive (x : Slot) (dryRun : Bool) (scene : Scene) : Scene :=
  match x.pass with
  | .default => scene
  | .scenario =>
    scene.within
      (x.app.init (Invocation.forApp x.name dryRun) scene.toSurroundings).surroundings

/-- Let the app have its slot. -/
def serve (x : Slot) (limit : Option Duration) (stage : Stage) (dryRun : Bool)
    (scene : Scene) : Serving :=
  let outcome := (x.app.hook stage).outcome limit 0 (x.arrive dryRun scene)
  ⟨x, outcome.1, outcome.2⟩

/-- The calls of the app: the hook, and the `init` before it if there is one. -/
def calls (x : Slot) (stage : Stage) (dryRun : Bool) : List AppCall :=
  x.initCalls dryRun ++ [x.call stage]

end Slot

namespace Serving

/-- Whether the call comes to its end here: the hook never returns, or it fails and its pass
takes that for fatal. -/
def stops (v : Serving) : Bool :=
  match v.result with
  | none => true
  | some result => (v.slot.pass.fatal? result).isSome

/-- What the slot means for the call. -/
def verdict (run : Run) (v : Serving) : Except Halt Unit :=
  match v.result with
  | none => .error .pending
  | some result => v.slot.verdict run.stage result

/-- The report about the hook. -/
def report? (run : Run) (v : Serving) : Option Report :=
  v.result.map fun result =>
    ⟨run.id, v.slot.name, run.stage, v.slot.pass, v.slot.pass.status result⟩

/-- The scene after some slots. -/
def left (scene : Scene) (served : List Serving) : Scene :=
  served.foldl (fun _ v => v.scene) scene

/-- What some slots mean for the call: the first of them that ends it decides. -/
def verdicts (run : Run) : List Serving → Except Halt Unit
  | [] => .ok ()
  | v :: rest =>
    match v.verdict run with
    | .error halt => .error halt
    | .ok _ => verdicts run rest

end Serving

namespace Registry

/-- The slots of the default apps. -/
def defaultSlots (r : Registry) : List Slot :=
  r.defaults.map fun app => ⟨.default, app.name, app⟩

/-- The slots for declared names: the default apps have had theirs. -/
def declaredSlots (r : Registry) (names : List String) : List Slot :=
  (names.filter fun name => !r.isDefault name).map fun name => ⟨.scenario, name, r.resolve name⟩

/-- The turns of the default pass are for the slots of the default apps. -/
theorem slots_defaultTurns (r : Registry) :
    r.defaultTurns.filterMap Turn.slot? = r.defaultSlots := by
  rw [defaultTurns, List.filterMap_map, defaultSlots, ← List.filterMap_eq_map]
  rfl

/-- The turns of a pass for declared names are for their slots, besides those of default apps. -/
theorem slots_declaredTurns (r : Registry) (names : List String) :
    (r.declaredTurns names).filterMap Turn.slot? = r.declaredSlots names := by
  induction names with
  | nil => rfl
  | cons name rest ih =>
    rw [declaredTurns, List.map_cons, declaredSlots]
    cases hdefault : r.isDefault name with
    | true =>
      rw [List.filter_cons_of_neg (by simp [hdefault])]
      exact ih
    | false =>
      rw [List.filter_cons_of_pos (by simp [hdefault])]
      exact congrArg (_ :: ·) ih

end Registry

namespace Orchestrator

/-- One slot after another, up to and including the first that ends the call. -/
def serveAll (o : Orchestrator) (stage : Stage) (dryRun : Bool) :
    List Slot → Scene → List Serving
  | [], _ => []
  | x :: rest, scene =>
    let v := x.serve o.limit stage dryRun scene
    if v.stops then [v] else v :: o.serveAll stage dryRun rest v.scene

/-- The schedule of a call: the default apps, and if none of them ends the call, the apps that
are declared by then. -/
def schedule (o : Orchestrator) (stage : Stage) (dryRun : Bool) (scene : Scene) :
    List Serving :=
  let first := o.serveAll stage dryRun o.registry.defaultSlots scene
  if first.any (·.stops) then first
  else
    let between := Serving.left scene first
    first ++ o.serveAll stage dryRun
      (o.registry.declaredSlots between.experiment.declaredApps) between

end Orchestrator

/-! ### Verdicts -/

namespace Serving
variable {run : Run}

/-- A slot lets the call go on, or it ends the call, but not by cancelling it. -/
theorem verdict_cases (run : Run) (v : Serving) :
    (v.stops = false ∧ v.verdict run = .ok ()) ∨
      (v.stops = true ∧ ∃ halt, v.verdict run = .error halt ∧
        halt ≠ .failed (.cancelled run.stage)) := by
  obtain ⟨x, scene, result⟩ := v
  cases result with
  | none => exact Or.inr ⟨rfl, .pending, rfl, by simp⟩
  | some result =>
    simp only [stops, verdict, Slot.verdict]
    cases x.pass.fatal? result with
    | none => exact Or.inl ⟨rfl, rfl⟩
    | some e =>
      refine Or.inr ⟨rfl, _, rfl, ?_⟩
      cases x.pass <;> simp [Pass.blame]

theorem verdicts_cons_of_ok {v : Serving} (rest : List Serving) (h : v.verdict run = .ok ()) :
    verdicts run (v :: rest) = verdicts run rest := by
  simp only [verdicts, h]

theorem verdicts_cons_of_error {v : Serving} (rest : List Serving) {halt : Halt}
    (h : v.verdict run = .error halt) : verdicts run (v :: rest) = .error halt := by
  simp only [verdicts, h]

/-- A schedule is through if none of its slots ends the call. -/
theorem verdicts_eq_ok_iff (run : Run) (served : List Serving) :
    verdicts run served = .ok () ↔ served.any (·.stops) = false := by
  induction served with
  | nil => simp [verdicts]
  | cons v rest ih =>
    rw [List.any_cons]
    rcases v.verdict_cases run with ⟨hstops, hverdict⟩ | ⟨hstops, halt, hverdict, -⟩
    · rw [verdicts_cons_of_ok rest hverdict, hstops, Bool.false_or]
      exact ih
    · rw [verdicts_cons_of_error rest hverdict, hstops]
      simp

theorem verdicts_append_of_ok {served : List Serving} (more : List Serving)
    (h : verdicts run served = .ok ()) :
    verdicts run (served ++ more) = verdicts run more := by
  induction served with
  | nil => rfl
  | cons v rest ih =>
    rcases v.verdict_cases run with ⟨-, hverdict⟩ | ⟨-, halt, hverdict, -⟩
    · rw [verdicts_cons_of_ok rest hverdict] at h
      rw [List.cons_append, verdicts_cons_of_ok _ hverdict]
      exact ih h
    · rw [verdicts_cons_of_error rest hverdict] at h
      cases h

/-- It is not the schedule that cancels a call. -/
theorem verdicts_ne_cancelled (run : Run) (served : List Serving) :
    verdicts run served ≠ .error (.failed (.cancelled run.stage)) := by
  induction served with
  | nil => simp [verdicts]
  | cons v rest ih =>
    rcases v.verdict_cases run with ⟨-, hverdict⟩ | ⟨-, halt, hverdict, hne⟩
    · rw [verdicts_cons_of_ok rest hverdict]
      exact ih
    · rw [verdicts_cons_of_error rest hverdict]
      simpa using hne

@[simp] theorem left_append (scene : Scene) (served more : List Serving) :
    left scene (served ++ more) = left (left scene served) more := List.foldl_append

end Serving

/-! ### What a schedule looks like -/

namespace Orchestrator
variable (o : Orchestrator)

/-- What the default apps leave of the experiment. -/
def between (o : Orchestrator) (stage : Stage) (dryRun : Bool) (scene : Scene) : Experiment :=
  (Serving.left scene (o.serveAll stage dryRun o.registry.defaultSlots scene)).experiment

variable (stage : Stage) (dryRun : Bool) (scene : Scene)

/-- Slots are served in their order, and all of them if none ends the call. -/
theorem serveAll_slots (slots : List Slot) :
    (o.serveAll stage dryRun slots scene).map (·.slot) <+: slots ∧
      ((o.serveAll stage dryRun slots scene).any (·.stops) = false →
        (o.serveAll stage dryRun slots scene).map (·.slot) = slots) := by
  induction slots generalizing scene with
  | nil => exact ⟨List.prefix_rfl, fun _ => rfl⟩
  | cons x rest ih =>
    have hslot : (x.serve o.limit stage dryRun scene).slot = x := rfl
    rw [serveAll]
    generalize x.serve o.limit stage dryRun scene = v at *
    cases hstops : v.stops with
    | true =>
      refine ⟨⟨rest, ?_⟩, fun hnone => ?_⟩
      · rw [← hslot]
        rfl
      · simp [hstops] at hnone
    | false =>
      obtain ⟨hbegin, hall⟩ := ih v.scene
      refine ⟨?_, fun hnone => ?_⟩
      · rw [← hslot]
        exact (List.prefix_cons_inj _).mpr hbegin
      · simp only [Bool.false_eq_true, if_false, List.any_cons, hstops, Bool.false_or] at hnone
        rw [← hslot]
        exact congrArg (v.slot :: ·) (hall hnone)

/-- Only the last slot that is served can end the call. -/
theorem serveAll_dropLast (slots : List Slot) :
    ∀ v ∈ (o.serveAll stage dryRun slots scene).dropLast, v.stops = false := by
  induction slots generalizing scene with
  | nil => exact fun v hv => (List.not_mem_nil hv).elim
  | cons x rest ih =>
    rw [serveAll]
    generalize x.serve o.limit stage dryRun scene = w
    split
    · exact fun v hv => (List.not_mem_nil hv).elim
    · rename_i hstops
      intro v hv
      cases hrest : o.serveAll stage dryRun rest w.scene with
      | nil =>
        rw [hrest] at hv
        cases hv
      | cons w' more =>
        rw [hrest, List.dropLast_cons_cons] at hv
        rcases List.mem_cons.mp hv with rfl | hv
        · simpa using hstops
        · exact ih w.scene v (by rwa [hrest])

/-- A schedule has the default apps first and then those that are declared by then, and it
breaks off right behind the first slot that ends the call, if there is one. -/
theorem schedule_slots :
    (o.schedule stage dryRun scene).map (·.slot) <+:
        o.registry.defaultSlots ++
          o.registry.declaredSlots (o.between stage dryRun scene).declaredApps ∧
      ((o.schedule stage dryRun scene).any (·.stops) = false →
        (o.schedule stage dryRun scene).map (·.slot) =
          o.registry.defaultSlots ++
            o.registry.declaredSlots (o.between stage dryRun scene).declaredApps) ∧
      ∀ v ∈ (o.schedule stage dryRun scene).dropLast, v.stops = false := by
  obtain ⟨hbegin, hall⟩ := o.serveAll_slots stage dryRun scene o.registry.defaultSlots
  have hlast := o.serveAll_dropLast stage dryRun scene o.registry.defaultSlots
  unfold schedule between
  generalize o.serveAll stage dryRun o.registry.defaultSlots scene = first at *
  dsimp only
  cases hstops : first.any (·.stops) with
  | true =>
    rw [if_pos rfl]
    refine ⟨hbegin.trans (List.prefix_append ..), fun hnone => ?_, hlast⟩
    rw [hstops] at hnone
    cases hnone
  | false =>
    rw [if_neg (by simp), List.map_append, hall hstops, List.any_append, hstops, Bool.false_or]
    obtain ⟨hmore, hrest⟩ := o.serveAll_slots stage dryRun (Serving.left scene first)
      (o.registry.declaredSlots (Serving.left scene first).experiment.declaredApps)
    have hlastMore := o.serveAll_dropLast stage dryRun (Serving.left scene first)
      (o.registry.declaredSlots (Serving.left scene first).experiment.declaredApps)
    generalize o.serveAll stage dryRun (o.registry.declaredSlots
      (Serving.left scene first).experiment.declaredApps) (Serving.left scene first) = second at *
    refine ⟨(List.prefix_append_right_inj _).mpr hmore,
      fun hnone => congrArg (o.registry.defaultSlots ++ ·) (hrest hnone), fun v hv => ?_⟩
    cases second with
    | nil =>
      rw [List.append_nil] at hv
      exact hlast v hv
    | cons w more =>
      rw [List.dropLast_append_of_ne_nil (by simp)] at hv
      rcases List.mem_append.mp hv with hv | hv
      · simpa using List.any_eq_false.mp hstops v hv
      · exact hlastMore v hv

end Orchestrator
end LabLifecycle

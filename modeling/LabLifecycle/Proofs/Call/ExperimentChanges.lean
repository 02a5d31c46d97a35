import LabLifecycle.Proofs.Call.Dispatch
import LabLifecycle.Proofs.Experiment.Defaults

/-!
# What a call does to the experiment

Nothing but the hooks of a call and its usual ending can change the experiment. Every hook
gets what the hooks before it have made of it, whatever they came to, and what it has changed
when it ends stays. Defaults are filled in behind the last hook of a call that succeeds for a
stage that sets up an experiment, and in no other call.
-/
namespace LabLifecycle

namespace Visit

/-- The changes that the hook made to the scene before it ended. -/
def changes (limit : Option Duration) (stage : Stage) (v : Visit) : List (Scene → Scene) :=
  (v.slot.app.hook stage).changes (v.deadline limit) v.before

/-- What the changes of the hook make of an experiment. -/
def changed (limit : Option Duration) (stage : Stage) (v : Visit) (e : Experiment) :
    Experiment :=
  ((v.changes limit stage).foldl (fun scene change => change scene)
    (v.before.scene.withExperiment e)).experiment

variable {limit : Option Duration} {stage : Stage} {v : Visit}

/-- A hook leaves what its changes make of the experiment with which it started. -/
theorem Genuine.experiment (h : v.Genuine limit stage) :
    v.after.scene.experiment = v.changed limit stage v.before.scene.experiment := by
  have hscene := Hook.scene_run (v.deadline limit) (v.slot.app.hook stage) v.before
  rw [h.run_eq] at hscene
  exact congrArg Scene.experiment hscene

end Visit

namespace Started
variable {limit : Option Duration} {stage : Stage} {s t : Session} {visits : List Visit}

/-- Hooks leave what their changes make of the experiment, one after another. -/
theorem experiment (h : Started limit stage s visits t) :
    t.scene.experiment =
      visits.foldl (fun e v => v.changed limit stage e) s.scene.experiment := by
  induction visits generalizing s with
  | nil => exact h.chained.experiment
  | cons v rest ih =>
    obtain ⟨-, hbefore, -, hgenuine, hrest⟩ := h.of_cons
    rw [ih hrest, List.foldl_cons, hgenuine.experiment, hbefore]

/-- A hook starts with what the hooks before it have made of the experiment. -/
theorem experiment_before {first rest : List Visit} {v : Visit}
    (h : Started limit stage s (first ++ v :: rest) t) :
    v.before.scene.experiment =
      first.foldl (fun e w => w.changed limit stage e) s.scene.experiment := by
  obtain ⟨m, hfirst, hrest⟩ := h.of_append
  rw [hrest.of_cons.2.1, hfirst.experiment]

end Started

/-- The stages for which a call fills in defaults. -/
theorem Stage.normalizes_iff (stage : Stage) :
    stage.normalizes = true ↔ stage = .configure ∨ stage = .preStart := by
  cases stage <;> decide

namespace Orchestrator

/-- The usual ending changes the experiment for some stages only, and once. -/
theorem finish_cases (stage : Stage) (s : Session) :
    ((stage = .configure ∨ stage = .preStart) ∧
      (finish stage s).scene.experiment = s.scene.experiment.setDefaults ∧
      (finish stage s).trace = s.trace ++ [.noticed .defaultsApplied, .noticed .applied]) ∨
    (¬ (stage = .configure ∨ stage = .preStart) ∧
      (finish stage s).scene.experiment = s.scene.experiment ∧ s.Extends (finish stage s)) := by
  rw [← Stage.normalizes_iff]
  by_cases hstage : stage.normalizes = true
  · refine Or.inl ⟨hstage, ?_⟩
    simp only [finish, if_pos hstage]
    exact ⟨rfl, List.append_assoc ..⟩
  · refine Or.inr ⟨hstage, ?_⟩
    simp only [finish, if_neg hstage]
    exact ⟨rfl, [.noticed .applied], rfl, by simp⟩

/-- The experiment after a call is what the hooks that were started have made of it, and has
its defaults filled in exactly if the call succeeded for a stage that sets up an experiment.
These hooks are those of apps of the registry: of the default apps and then of the other ones that
are declared by then, as far as the call gets. None of them starts with anything else than what
the hooks before it have made, and none after defaults were filled in. -/
theorem experiment_apply (o : Orchestrator) (id : RunId) (options : List InvocationOption)
    {stage : Stage} (hstage : (Invocation.ofOptions options).stage = some stage)
    (s : Session) :
    ∃ u, Started o.limit stage s (o.callVisits id options s) u ∧
      (o.apply id options s).1.trace.hooks =
        s.trace.hooks ++ (o.callVisits id options s).map (·.slot.call stage) ∧
      ((o.callVisits id options s).map (·.slot) <+: o.registry.defaultSlots ++
          o.registry.declaredSlots
            (o.between stage (Invocation.ofOptions options).dryRun s.scene).declaredApps ∧
        ((o.apply id options s).2 = .ok () → (o.callVisits id options s).map (·.slot) =
          o.registry.defaultSlots ++ o.registry.declaredSlots
            (o.between stage (Invocation.ofOptions options).dryRun s.scene).declaredApps) ∧
        ∀ steps, Registry.ofSteps steps = .ok o.registry → ∀ v ∈ o.callVisits id options s,
          v.slot.app = o.registry.resolve v.slot.name) ∧
      u.scene.experiment = (o.callVisits id options s).foldl
        (fun e v => v.changed o.limit stage e) s.scene.experiment ∧
      (∀ first v rest, o.callVisits id options s = first ++ v :: rest → s.Extends v.before ∧
        v.before.scene.experiment =
          first.foldl (fun e w => w.changed o.limit stage e) s.scene.experiment) ∧
      s.Extends u ∧
      ((o.apply id options s).2 = .ok () ∧ (stage = .configure ∨ stage = .preStart) →
        (o.apply id options s).1.scene.experiment = u.scene.experiment.setDefaults ∧
        (o.apply id options s).1.trace =
          u.trace ++ [.noticed .defaultsApplied, .noticed .applied] ∧
        (o.apply id options s).1.scene.experiment.Complete) ∧
      (¬ ((o.apply id options s).2 = .ok () ∧ (stage = .configure ∨ stage = .preStart)) →
        (o.apply id options s).1.scene.experiment = u.scene.experiment ∧
        s.Extends (o.apply id options s).1) := by
  obtain ⟨u, hchronicle, -, hend⟩ := o.callVisits_swept id hstage rfl s
  have hslots := o.callVisits_slots id hstage rfl s
  have hstarted := hchronicle.toStarted
  refine ⟨u, hstarted, hend.trace.2.1.trans hstarted.hooks, hslots, hstarted.experiment, ?_,
    hstarted.early.2, ?_⟩
  · intro first v rest hvisits
    have hv : v ∈ o.callVisits id options s := by rw [hvisits]; simp
    have hbefore := hstarted.early.1 v hv
    rw [hvisits] at hstarted
    exact ⟨hbefore, hstarted.experiment_before⟩
  · rcases hend with hend | ⟨halt, hend⟩
    · rw [hend]
      rcases finish_cases stage u with ⟨hset, hexperiment, htrace⟩ | ⟨hset, hexperiment, htrace⟩
      · refine ⟨fun _ => ⟨hexperiment, htrace, ?_⟩, fun h => absurd ⟨rfl, hset⟩ h⟩
        rw [hexperiment]
        exact u.scene.experiment.complete_setDefaults
      · exact ⟨fun h => absurd h.2 hset, fun _ => ⟨hexperiment, hstarted.early.2.trans htrace⟩⟩
    · rw [hend]
      exact ⟨fun h => (nomatch h.1), fun _ => ⟨rfl, hstarted.early.2⟩⟩

/-- In the small laboratory two hooks start, the default app's and the one of the app that is
missing. The gate is the only node that they make, and its type is filled in at the end. -/
theorem sample_experiment :
    (Invocation.ofOptions [.stage .configure]).stage = some .configure ∧
    let visits := Sample.lab.callVisits default [.stage .configure] (Sample.session none)
    visits.map (·.slot.call .configure) =
      [.hook "audit" .configure .default, .hook "probe" .configure .scenario] ∧
    (visits.foldl (fun e v => v.changed none .configure e)
      (Sample.session none).scene.experiment).setDefaults.nodes.map
        (fun n => (n.hostname, n.vmType)) = [("gate", some "kvm")] := by
  obtain ⟨u, -, hhooks, -, hexperiment, -, -, hset, -⟩ :=
    experiment_apply Sample.lab default [.stage .configure] rfl (Sample.session none)
  have hexperiment : u.scene.experiment = List.foldl
      (fun e v => Visit.changed none .configure v e) (Sample.session none).scene.experiment
      (Sample.lab.callVisits default [.stage .configure] (Sample.session none)) := hexperiment
  refine ⟨rfl, hhooks.symm, ?_⟩
  rw [← hexperiment, ← (hset ⟨rfl, Or.inl rfl⟩).1]
  rfl

end Orchestrator
end LabLifecycle

import LabLifecycle.Proofs.Call.Cancellation

/-!
# What a call keeps

What holds of the scene before a call holds behind it if no app that the call can come to spoils
it, neither when it is told the options nor by its hook, and if filling in defaults does not
either. A turn keeps it, therefore a sweep, and therefore a call, wherever it ends.
-/
namespace LabLifecycle

namespace Slot

/-- The app spoils nothing in its slot. Its hook starts where the `init` has left the scene. -/
structure Keeps (P : Scene → Prop) (stage : Stage) (dryRun : Bool) (x : Slot) : Prop where
  arrive : ∀ scene, P scene → P (x.arrive dryRun scene)
  hook : ∀ deadline scene (s : Session), P scene → s.scene = x.arrive dryRun scene →
    P ((x.app.hook stage).run deadline s).1.scene

end Slot

namespace Registry

/-- The slots that a call can come to. -/
def Has (r : Registry) (x : Slot) : Prop := r.HasDefault x ∨ ∃ e, r.HasDeclared e x

end Registry

namespace Orchestrator
variable (o : Orchestrator) (run : Run) (dryRun : Bool) {P : Scene → Prop}

theorem turn_keeps {x : Slot} (hx : x.Keeps P run.stage dryRun) {s : Session}
    (hs : P s.scene) : P (o.turn run dryRun (.serve x) s).1.scene := by
  rw [turn]
  split
  · rw [x.scene_ready]
    exact hx.arrive _ hs
  · rw [Visit.scene_close]
    refine hx.hook _ s.scene ((x.ready dryRun s).emit (.called (x.call run.stage))) hs ?_
    rw [Session.scene_emit, x.scene_ready]

theorem sweep_keeps {turns : List Turn}
    (hturns : ∀ x, .serve x ∈ turns → x.Keeps P run.stage dryRun) {s : Session}
    (hs : P s.scene) : P (o.sweep run dryRun turns s).1.scene := by
  induction turns generalizing s with
  | nil => exact hs
  | cons turn rest ih =>
    have hturn : P (o.turn run dryRun turn s).1.scene := by
      cases turn with
      | skip name => exact hs
      | serve x => exact o.turn_keeps run dryRun (hturns x (List.mem_cons_self ..)) hs
    rw [sweep]
    split
    · rename_i hresult
      rwa [hresult] at hturn
    · rename_i hresult
      rw [hresult] at hturn
      exact ih (fun x hx => hturns x (List.mem_cons_of_mem _ hx)) hturn

theorem passes_keeps (hslots : ∀ x, o.registry.Has x → x.Keeps P run.stage dryRun)
    {s : Session} (hs : P s.scene) : P (o.passes run dryRun s).1.scene := by
  have hfirst : P (o.sweep run dryRun o.registry.defaultTurns s).1.scene :=
    o.sweep_keeps run dryRun (fun x hx => hslots x (.inl (Registry.hasDefault_of_mem hx))) hs
  rcases o.passes_cases run dryRun s with ⟨t, halt, hsweep, hpasses, -⟩ | ⟨t, hsweep, hpasses, -⟩
  · rw [hpasses]
    rwa [hsweep] at hfirst
  · rw [hpasses]
    rw [hsweep] at hfirst
    exact o.sweep_keeps run dryRun
      (fun x hx => hslots x (.inr ⟨_, Registry.hasDeclared_of_mem hx⟩)) hfirst

/-- What no app spoils that a call can come to holds behind the call, wherever it ends. -/
theorem apply_keeps (id : RunId) (options : List InvocationOption)
    (hslots : ∀ stage, (Invocation.ofOptions options).stage = some stage →
      ∀ x, o.registry.Has x → x.Keeps P stage (Invocation.ofOptions options).dryRun)
    (hdefaults : ∀ scene, P scene → P (scene.update Experiment.setDefaults)) {s : Session}
    (hs : P s.scene) : P (o.apply id options s).1.scene := by
  cases hstage : (Invocation.ofOptions options).stage with
  | none =>
    simp only [apply, hstage]
    exact hs
  | some stage =>
    have hpasses := o.passes_keeps ⟨id, stage⟩ _ (hslots stage hstage)
      (s := opened stage (Invocation.ofOptions options).dryRun s) hs
    obtain ⟨u, ⟨hcall, happly⟩ | ⟨halt, hcall, happly⟩⟩ := o.apply_cases hstage rfl s
    all_goals
      rw [hcall] at hpasses
      rw [happly]
    · rw [scene_finish]
      split
      · exact hdefaults _ hpasses
      · exact hpasses
    · exact hpasses

end Orchestrator
end LabLifecycle

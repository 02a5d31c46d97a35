import LabLifecycle.Proofs.Hook.Course

/-!
# Hooks side by side

Two hooks are twins if their steps are of the same kinds all the way and none of these steps
tells apart two scenes that are alike. Twins that run at the same moment, with the same to come
for the cancel handle, end alike: at the same moment again, in the same way, and in scenes that
are alike.
-/
namespace LabLifecycle

namespace Session

/-- The session in another scene and with another trace. -/
def elsewhere (s : Session) (scene : Scene) (trace : Trace) : Session :=
  { s with scene := scene, trace := trace }

/-- Two sessions at the same moment, with the same to come, and in scenes that are alike. -/
structure Abreast (alike : Scene → Scene → Prop) (s s' : Session) : Prop where
  scene : alike s.scene s'.scene
  now : s'.now = s.now
  channel : s'.channel = s.channel
  upcoming : s'.upcoming = s.upcoming

theorem settle_elsewhere (s : Session) (scene : Scene) (trace : Trace)
    (deadline : Option Deadline) (wake : Option Nat) :
    (s.elsewhere scene trace).settle deadline wake =
      ((s.settle deadline wake).1.elsewhere scene trace, (s.settle deadline wake).2) := by
  unfold settle
  split
  · split <;> rfl
  all_goals rfl

/-- How a wait ends depends neither on the scene nor on the trace. -/
theorem suspend_elsewhere (s : Session) (scene : Scene) (trace : Trace)
    (deadline : Option Deadline) (wake : Option Nat) :
    (s.elsewhere scene trace).suspend deadline wake =
      ((s.suspend deadline wake).1.elsewhere scene trace, (s.suspend deadline wake).2) := by
  have hnow : (s.elsewhere scene trace).now = s.now := rfl
  have hchannel : (s.elsewhere scene trace).channel = s.channel := rfl
  have hupcoming : (s.elsewhere scene trace).upcoming = s.upcoming := rfl
  unfold suspend
  rw [hnow, hchannel, hupcoming]
  split
  · rfl
  · split
    · rfl
    · split
      · rfl
      · split
        · rename_i time event _
          have hfired : (((s.elsewhere scene trace).advance time).signal event).channel.fired =
              ((s.advance time).signal event).channel.fired := rfl
          have hsettle := settle_elsewhere
            { (s.advance time).signal event with upcoming := none } scene trace deadline wake
          split
          · dsimp only
            rw [hfired]
            split
            · rfl
            · exact hsettle
          · exact s.settle_elsewhere scene trace deadline wake
        · exact s.settle_elsewhere scene trace deadline wake

namespace Abreast
variable {alike : Scene → Scene → Prop} {s s' : Session}

theorem eq_elsewhere (h : s.Abreast alike s') : s' = s.elsewhere s'.scene s'.trace := by
  obtain ⟨scene, now, channel, upcoming, trace⟩ := s'
  obtain ⟨-, rfl, rfl, rfl⟩ := h
  rfl

/-- A wait leaves two sessions abreast, and ends in both in the same way. -/
theorem suspend (h : s.Abreast alike s') (deadline : Option Deadline) (wake : Option Nat) :
    (s.suspend deadline wake).1.Abreast alike (s'.suspend deadline wake).1 ∧
      (s'.suspend deadline wake).2 = (s.suspend deadline wake).2 := by
  have hscene := s.scene_suspend deadline wake
  rw [h.eq_elsewhere, suspend_elsewhere]
  refine ⟨⟨?_, rfl, rfl, rfl⟩, rfl⟩
  rw [hscene]
  exact h.scene

end Abreast
end Session

namespace Hook
variable {alike : Scene → Scene → Prop}

/-- The hooks take the same steps, and these do not tell apart what is alike. -/
inductive Twin (alike : Scene → Scene → Prop) : Hook → Hook → Prop
  | finish (result : HookResult) : Twin alike (.finish result) (.finish result)
  | act {change change' : Scene → Scene} {next next' : Scene → Hook}
      (hchange : ∀ s s', alike s s' → alike (change s) (change' s'))
      (hnext : ∀ s s', alike s s' → Twin alike (next (change s)) (next' (change' s'))) :
      Twin alike (.act change next) (.act change' next')
  | signal (event : HandleEvent) {next next' : Hook} (hnext : Twin alike next next') :
      Twin alike (.signal event next) (.signal event next')
  | wait (time : Duration) {next next' : Hook} (hnext : Twin alike next next') :
      Twin alike (.wait time next) (.wait time next')
  | hang : Twin alike .hang .hang

theorem Twin.look {next next' : Scene → Hook}
    (h : ∀ s s', alike s s' → Twin alike (next s) (next' s')) :
    Twin alike (.look next) (.look next') := .act (fun _ _ hs => hs) h

theorem Twin.change {f f' : Scene → Scene} {next next' : Hook}
    (hf : ∀ s s', alike s s' → alike (f s) (f' s')) (hnext : Twin alike next next') :
    Twin alike (.change f next) (.change f' next') := .act hf fun _ _ _ => hnext

/-- A hook takes the same steps as itself in the same scene. -/
theorem Twin.refl (h : Hook) : Twin Eq h h := by
  induction h with
  | finish result => exact .finish result
  | act change next ih =>
    refine .act (fun s s' hs => congrArg change hs) fun s s' hs => ?_
    subst hs
    exact ih (change s)
  | signal event next ih => exact .signal event ih
  | wait time next ih => exact .wait time ih
  | hang => exact .hang

/-- Twins that start abreast end abreast, and in the same way. -/
theorem Twin.run {h h' : Hook} (htwin : Twin alike h h') (deadline : Option Deadline)
    {s s' : Session} (hs : s.Abreast alike s') :
    (h.run deadline s).1.Abreast alike (h'.run deadline s').1 ∧
      (h'.run deadline s').2 = (h.run deadline s).2 := by
  induction htwin generalizing s s' with
  | finish result => exact ⟨hs, rfl⟩
  | act hchange _ ih =>
    exact ih _ _ hs.scene ⟨hchange _ _ hs.scene, hs.now, hs.channel, hs.upcoming⟩
  | signal event _ ih =>
    have hsignal : (s.signal event).Abreast alike (s'.signal event) :=
      ⟨hs.scene, hs.now, congrArg (·.react event) hs.channel, hs.upcoming⟩
    exact ih hsignal
  | wait time _ ih =>
    -- The clocks agree, so both wait for the same moment, and nothing else decides what comes.
    simp only [Hook.run, hs.now]
    obtain ⟨hmet, hwakeup⟩ := hs.suspend deadline (some (s.now + time.nanos))
    cases hsuspend : s.suspend deadline (some (s.now + time.nanos)) with
    | mk t wakeup =>
      cases hsuspend' : s'.suspend deadline (some (s.now + time.nanos)) with
      | mk t' wakeup' =>
        rw [hsuspend, hsuspend'] at hmet hwakeup
        cases hwakeup
        cases wakeup with
        | woken => exact ih hmet
        | timedOut limit => exact ⟨hmet, rfl⟩
        | interrupted => exact ⟨hmet, rfl⟩
        | never => exact ⟨hmet, rfl⟩
  | hang =>
    simp only [Hook.run]
    obtain ⟨hmet, hwakeup⟩ := hs.suspend deadline none
    cases hsuspend : s.suspend deadline none with
    | mk t wakeup =>
      cases hsuspend' : s'.suspend deadline none with
      | mk t' wakeup' =>
        rw [hsuspend, hsuspend'] at hmet hwakeup
        cases hwakeup
        cases wakeup with
        | woken => exact ⟨hmet, rfl⟩
        | timedOut limit => exact ⟨hmet, rfl⟩
        | interrupted => exact ⟨hmet, rfl⟩
        | never => exact ⟨hmet, rfl⟩

end Hook
end LabLifecycle

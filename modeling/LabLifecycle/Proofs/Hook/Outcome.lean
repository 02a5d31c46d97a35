import LabLifecycle.Proofs.Hook.Course

/-!
# What a hook comes to

`Hook.outcome` says what a hook makes of a scene when nothing but its time limit can stop it.
It knows neither a clock nor a cancel handle: of time it only counts how long the hook has
waited so far. A run that is not interrupted has exactly this outcome, whenever it starts
and whatever happens to the cancel handle meanwhile.
-/
namespace LabLifecycle

namespace Hook

/-- The scene that a hook leaves and its result, none if it never returns. A hook fails at
the wait with which it exceeds its limit in total. -/
def outcome (limit : Option Duration) : Hook → Nat → Scene → Scene × Option HookResult
  | finish result, _, scene => (scene, some result)
  | act change next, waited, scene => (next (change scene)).outcome limit waited (change scene)
  | signal _ next, waited, scene => next.outcome limit waited scene
  | wait time next, waited, scene =>
    match limit.filter (·.nanos < waited + time.nanos) with
    | some l => (scene, some (.error (.timedOut l)))
    | none => next.outcome limit (waited + time.nanos) scene
  | hang, _, scene => (scene, limit.map fun l => .error (.timedOut l))

end Hook

/-- The end of a hook that was not interrupted: a result, or none if it never returns. -/
def HookEnd.ofResult : Option HookResult → HookEnd
  | some result => .finished result
  | none => .pending

namespace Hook

/-- The invariant is that the clock shows how long the hook has waited, which is within the
limit at every point of the hook but the last. -/
theorem run_outcome (limit : Option Duration) (start : Nat) (h : Hook) {waited : Nat}
    {s : Session} (hnow : s.now = start + waited)
    (hwithin : ∀ l, limit = some l → waited ≤ l.nanos)
    (hend : (h.run (deadlineFrom limit start) s).2 ≠ .interrupted) :
    (h.run (deadlineFrom limit start) s).1.scene = (h.outcome limit waited s.scene).1 ∧
      (h.run (deadlineFrom limit start) s).2 =
        .ofResult (h.outcome limit waited s.scene).2 := by
  induction h generalizing waited s with
  | finish result => exact ⟨rfl, rfl⟩
  | act change next ih => exact ih (change s.scene) (s := s.act change) hnow hwithin hend
  | signal event next ih => exact ih (s := s.signal event) hnow hwithin hend
  | wait time next ih =>
    have hwaited := s.suspend_waited (deadlineFrom limit start) (some (s.now + time.nanos))
    have hscene := s.scene_suspend (deadlineFrom limit start) (some (s.now + time.nanos))
    cases hsuspend : s.suspend (deadlineFrom limit start) (some (s.now + time.nanos)) with
    | mk t k =>
      rw [hsuspend] at hwaited hscene
      dsimp only at hwaited hscene
      simp only [run, hsuspend] at hend ⊢
      cases hwaited with
      | woken hwake hclock hle =>
        cases hwake
        -- The wait is over before the deadline, so the count is still within the limit.
        have hmore : ∀ l, limit = some l → waited + time.nanos ≤ l.nanos := by
          intro l hl
          have hle := hle ⟨l, start + l.nanos⟩ (by simp [deadlineFrom, hl])
          have hl := hwithin l hl
          simp only [hnow] at hle
          omega
        have hin : limit.filter (·.nanos < waited + time.nanos) = none := by
          refine Option.filter_eq_none_iff.mpr fun l hl => ?_
          simpa using hmore l hl
        have hlater : t.now = start + (waited + time.nanos) := by
          rw [hclock, Nat.max_eq_right (Nat.le_add_right ..), hnow, Nat.add_assoc]
        simp only [outcome, hin]
        rw [← hscene]
        exact ih hlater hmore hend
      | timedOut hdeadline hlt =>
        obtain ⟨l, hl, rfl⟩ := Option.map_eq_some_iff.mp hdeadline
        have hover : limit.filter (·.nanos < waited + time.nanos) = some l := by
          refine Option.filter_eq_some_iff.mpr ⟨hl, ?_⟩
          have hlt := hlt _ rfl
          simp only [hnow] at hlt
          exact decide_eq_true (by omega)
        simp only [outcome, hover]
        exact ⟨hscene, rfl⟩
      | interrupted hfired => exact absurd rfl hend
      | never hwake _ => cases hwake
  | hang =>
    have hwaited := s.suspend_waited (deadlineFrom limit start) none
    have hscene := s.scene_suspend (deadlineFrom limit start) none
    cases hsuspend : s.suspend (deadlineFrom limit start) none with
    | mk t k =>
      rw [hsuspend] at hwaited hscene
      dsimp only at hwaited hscene
      simp only [run, hsuspend] at hend ⊢
      cases hwaited with
      | woken hwake _ _ => cases hwake
      | timedOut hdeadline hlt =>
        obtain ⟨l, hl, rfl⟩ := Option.map_eq_some_iff.mp hdeadline
        subst hl
        exact ⟨hscene, rfl⟩
      | interrupted hfired => exact absurd rfl hend
      | never _ hdeadline =>
        have hl : limit = none := Option.map_eq_none_iff.mp hdeadline
        subst hl
        exact ⟨hscene, rfl⟩

end Hook

/-- A hook that is not interrupted leaves its outcome. -/
theorem Session.runHook_outcome (s : Session) (limit : Option Duration) (h : Hook)
    (hend : (s.runHook limit h).2 ≠ .interrupted) :
    (s.runHook limit h).1.scene = (h.outcome limit 0 s.scene).1 ∧
      (s.runHook limit h).2 = .ofResult (h.outcome limit 0 s.scene).2 :=
  Hook.run_outcome limit s.now h rfl (fun _ _ => Nat.zero_le _) hend

end LabLifecycle

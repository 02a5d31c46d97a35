import LabLifecycle.Proofs.Hook.Outcome

/-!
# Time limits as failures

A time limit is a failure of the hook. `Hook.capped` is the hook that does the same up to the
wait with which it would exceed a limit, and fails there at once. To run a hook under the limit
is to run this one without any, but for what can happen while the last wait uses the time up.
-/
namespace LabLifecycle

namespace Hook

/-- The hook that fails instead of waiting, when it has waited before, longer than a limit in
total. -/
def capped (limit : Duration) : Hook → Nat → Hook
  | finish result, _ => finish result
  | act change next, waited => act change fun scene => (next scene).capped limit waited
  | signal event next, waited => signal event (next.capped limit waited)
  | wait time next, waited =>
    if waited + time.nanos ≤ limit.nanos then wait time (next.capped limit (waited + time.nanos))
    else fail (.timedOut limit)
  | hang, _ => fail (.timedOut limit)

/-- How long a hook waits in total if nothing stops it, none if it never returns. -/
def totalWait : Hook → Scene → Option Nat
  | finish _, _ => some 0
  | act change next, scene => (next (change scene)).totalWait (change scene)
  | signal _ next, scene => next.totalWait scene
  | wait time next, scene => (next.totalWait scene).map (time.nanos + ·)
  | hang, _ => none

/-- A hook waits longer than a limit in total, or never returns. -/
def Overruns (limit : Duration) (h : Hook) (scene : Scene) : Prop :=
  ∀ total, h.totalWait scene = some total → limit.nanos < total

/-! ### Outcomes -/

/-- The hook that fails comes to what the limit makes of the hook. -/
theorem outcome_capped (limit : Duration) (h : Hook) (waited waited' : Nat) (scene : Scene) :
    (h.capped limit waited).outcome none waited' scene =
      h.outcome (some limit) waited scene := by
  induction h generalizing waited waited' scene with
  | finish result => rfl
  | act change next ih => exact ih (change scene) waited waited' (change scene)
  | signal event next ih => exact ih waited waited' scene
  | wait time next ih =>
    by_cases hle : waited + time.nanos ≤ limit.nanos
    · have hin : (some limit).filter (·.nanos < waited + time.nanos) = none := by
        simpa using hle
      simp only [capped, if_pos hle, outcome, hin]
      exact ih (waited + time.nanos) (waited' + time.nanos) scene
    · have hover : (some limit).filter (·.nanos < waited + time.nanos) = some limit := by
        simpa using Nat.lt_of_not_le hle
      simp only [capped, if_neg hle, outcome, hover]
      rfl
  | hang => rfl

/-- A limit that a hook keeps is nothing to it. -/
theorem outcome_of_totalWait_le {limit : Duration} {h : Hook} {waited total : Nat} {scene : Scene}
    (htotal : h.totalWait scene = some total) (hle : waited + total ≤ limit.nanos) :
    h.outcome (some limit) waited scene = h.outcome none waited scene := by
  induction h generalizing waited total scene with
  | finish result => rfl
  | act change next ih => exact ih (change scene) htotal hle
  | signal event next ih => exact ih htotal hle
  | wait time next ih =>
    obtain ⟨rest, hrest, rfl⟩ := Option.map_eq_some_iff.mp htotal
    have hin : (some limit).filter (·.nanos < waited + time.nanos) = none := by
      have hle : waited + time.nanos ≤ limit.nanos := by omega
      simpa using hle
    simp only [outcome, hin]
    exact ih hrest (by omega)
  | hang => cases htotal

/-- A limit that a hook does not keep makes it fail. -/
theorem outcome_of_overruns {limit : Duration} {h : Hook} {waited : Nat} {scene : Scene}
    (hwaited : waited ≤ limit.nanos)
    (hover : ∀ total, h.totalWait scene = some total → limit.nanos < waited + total) :
    (h.outcome (some limit) waited scene).2 = some (.error (.timedOut limit)) := by
  induction h generalizing waited scene with
  | finish result =>
    have hlt := hover 0 rfl
    omega
  | act change next ih => exact ih (change scene) hwaited hover
  | signal event next ih => exact ih hwaited hover
  | wait time next ih =>
    by_cases hle : waited + time.nanos ≤ limit.nanos
    · have hin : (some limit).filter (·.nanos < waited + time.nanos) = none := by
        simpa using hle
      simp only [outcome, hin]
      refine ih hle fun rest hrest => ?_
      have hlt := hover (time.nanos + rest) (by rw [totalWait, hrest]; rfl)
      omega
    · have hout : (some limit).filter (·.nanos < waited + time.nanos) = some limit := by
        simpa using Nat.lt_of_not_le hle
      simp only [outcome, hout]
  | hang => rfl

end Hook

/-! ### Runs -/

namespace Session

/-- A deadline is nothing to a wait that is over by then. -/
theorem suspend_of_le (s : Session) {d : Deadline} {w : Nat} (hle : w ≤ d.time) :
    s.suspend (some d) (some w) = s.suspend none (some w) := by
  have hsettle : ∀ t : Session, t.settle (some d) (some w) = t.settle none (some w) :=
    fun t => if_pos hle
  unfold suspend
  by_cases hover : w ≤ s.now
  · simp [hover]
  · have hahead : (some d).filter (·.time ≤ s.now) = none := by
      have hlt : s.now < d.time := by omega
      simpa using hlt
    have hfirst : ∀ time, (precedes time (some w) && precedes time ((some d).map (·.time))) =
        (precedes time (some w) && precedes time ((none : Option Deadline).map (·.time))) := by
      intro time
      simp only [precedes, Option.map_some, Option.map_none, Bool.and_true]
      by_cases htime : time < w
      · have hlt : time < d.time := by omega
        simp [htime, hlt]
      · simp [htime]
    rw [hahead]
    simp only [hfirst, hsettle, Option.filter_none]

/-- A wait that is not over when the hook's time is up ends then, unless it is interrupted. -/
theorem suspend_over (s : Session) {limit : Duration} {start : Nat} {wake : Option Nat}
    (hover : ∀ w, wake = some w → max s.now (start + limit.nanos) < w) :
    ∃ t : Session, t.scene = s.scene ∧ t.trace = s.trace ∧
      (s.suspend (Hook.deadlineFrom (some limit) start) wake = (t, .timedOut limit) ∨
        s.suspend (Hook.deadlineFrom (some limit) start) wake = (t, .interrupted)) := by
  have hwaited := s.suspend_waited (Hook.deadlineFrom (some limit) start) wake
  refine ⟨_, s.scene_suspend (Hook.deadlineFrom (some limit) start) wake,
    s.trace_suspend (Hook.deadlineFrom (some limit) start) wake, ?_⟩
  cases hsuspend : s.suspend (Hook.deadlineFrom (some limit) start) wake with
  | mk t wakeup =>
    rw [hsuspend] at hwaited
    cases hwaited with
    | woken hwake _ hle =>
      have hlt := hover _ hwake
      have hle := hle _ rfl
      dsimp only at hle
      omega
    | timedOut hdeadline _ =>
      cases hdeadline
      exact .inl rfl
    | interrupted _ => exact .inr rfl
    | never _ hdeadline => cases hdeadline

end Session

namespace Hook

/-- How a run under a limit compares with a run of the hook that fails instead. It is the same,
or both end at the wait that uses the time up. Only the run under the limit really waits there,
so it can be interrupted. -/
inductive Limited (limit : Duration) (t : Session × HookEnd) : Session × HookEnd → Prop
  | same : Limited limit t t
  | exceeded {t' : Session} (hscene : t'.scene = t.1.scene) (htrace : t'.trace = t.1.trace)
      (hended : t.2 = .finished (.error (.timedOut limit)) ∨ t.2 = .interrupted) :
      Limited limit t (t', .finished (.error (.timedOut limit)))

/-- The invariant is that the clock shows how long the hook has waited, which is within the
limit. -/
theorem run_capped (limit : Duration) (start : Nat) (h : Hook) {waited : Nat} {s : Session}
    (hnow : s.now = start + waited) (hwithin : waited ≤ limit.nanos) :
    Limited limit (h.run (deadlineFrom (some limit) start) s)
      ((h.capped limit waited).run none s) := by
  induction h generalizing waited s with
  | finish result => exact .same
  | act change next ih => exact ih (change s.scene) (s := s.act change) hnow hwithin
  | signal event next ih => exact ih (s := s.signal event) hnow hwithin
  | wait time next ih =>
    by_cases hle : waited + time.nanos ≤ limit.nanos
    · have hsuspend : s.suspend (deadlineFrom (some limit) start) (some (s.now + time.nanos)) =
          s.suspend none (some (s.now + time.nanos)) := by
        refine s.suspend_of_le ?_
        dsimp only
        omega
      have hwaited := s.suspend_waited none (some (s.now + time.nanos))
      rw [capped, if_pos hle, run, run, hsuspend]
      cases hresult : s.suspend none (some (s.now + time.nanos)) with
      | mk t wakeup =>
        rw [hresult] at hwaited
        cases hwaited with
        | woken hwake hclock _ =>
          cases hwake
          have hlater : t.now = start + (waited + time.nanos) := by
            rw [hclock, Nat.max_eq_right (Nat.le_add_right ..), hnow, Nat.add_assoc]
          exact ih hlater hle
        | timedOut hdeadline _ => cases hdeadline
        | interrupted _ => exact .same
        | never hwake _ => cases hwake
    · have hover : ∀ w, some (s.now + time.nanos) = some w →
          max s.now (start + limit.nanos) < w := by
        rintro w ⟨⟩
        omega
      obtain ⟨t, hscene, htrace, hsuspend | hsuspend⟩ := s.suspend_over hover
      · rw [capped, if_neg hle, run, hsuspend]
        exact .exceeded hscene.symm htrace.symm (.inl rfl)
      · rw [capped, if_neg hle, run, hsuspend]
        exact .exceeded hscene.symm htrace.symm (.inr rfl)
  | hang =>
    have hover : ∀ w, (none : Option Nat) = some w → max s.now (start + limit.nanos) < w := by
      intro w hw
      cases hw
    obtain ⟨t, hscene, htrace, hsuspend | hsuspend⟩ := s.suspend_over hover
    · rw [capped, run, hsuspend]
      exact .exceeded hscene.symm htrace.symm (.inl rfl)
    · rw [capped, run, hsuspend]
      exact .exceeded hscene.symm htrace.symm (.inr rfl)

end Hook

/-- A hook with a time limit runs like the one that fails instead. -/
theorem Session.runHook_capped (s : Session) (limit : Duration) (h : Hook) :
    Hook.Limited limit (s.runHook (some limit) h) (s.runHook none (h.capped limit 0)) :=
  Hook.run_capped limit s.now h rfl (Nat.zero_le _)

end LabLifecycle

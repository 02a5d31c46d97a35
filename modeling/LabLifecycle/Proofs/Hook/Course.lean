import LabLifecycle.Engine.Session
import Mathlib.Logic.Relation

/-!
# The course of a hook

A run of a hook goes from point to point of the hook until it stops at one. It stops where
the hook returns, or at a wait in which the hook runs out of time, is interrupted or is
stuck. Whatever the hook has changed up to that point stays: the scene at the end of a run
is the scene at the point where it stopped. A hook that does not come to a wait any more
cannot be stopped by anything else than its own result.
-/
namespace LabLifecycle

/-- The handle is gone and has left no request, so none will ever come. -/
def Channel.Silent (c : Channel) : Prop := c.fired = false ∧ c.closed = true

theorem Channel.Silent.react {c : Channel} (h : c.Silent) (e : HandleEvent) :
    (c.react e).Silent := by
  cases e with
  | cancel =>
    simp only [Channel.react, h.2, if_true]
    exact h
  | drop => exact ⟨h.1, rfl⟩

namespace Session

/-! ### Waiting -/

/-- How a wait ends, and what is known then. -/
inductive Waited (s : Session) (deadline : Option Deadline) (wake : Option Nat)
    (t : Session) : Wakeup → Prop
  | woken {w : Nat} (hwake : wake = some w) (hnow : t.now = max s.now w)
      (hle : ∀ d, deadline = some d → w ≤ max s.now d.time) :
      Waited s deadline wake t .woken
  | timedOut {d : Deadline} (hdeadline : deadline = some d)
      (hlt : ∀ w, wake = some w → d.time < w) :
      Waited s deadline wake t (.timedOut d.limit)
  | interrupted (hfired : t.channel.fired = true) : Waited s deadline wake t .interrupted
  | never (hwake : wake = none) (hdeadline : deadline = none) :
      Waited s deadline wake t .never

/-- A wait that is left to the clock. The clock may have moved already, but not beyond the
end of the wait. -/
theorem settle_waited {s s' : Session} (deadline : Option Deadline) {wake : Option Nat}
    (hnow : ∀ w, wake = some w → max s'.now w = max s.now w) :
    s.Waited deadline wake (s'.settle deadline wake).1 (s'.settle deadline wake).2 := by
  cases wake with
  | none =>
    cases deadline with
    | none => exact .never rfl rfl
    | some d => exact .timedOut rfl (fun w hw => by cases hw)
  | some w =>
    cases deadline with
    | none => exact .woken rfl (hnow w rfl) (fun d hd => by cases hd)
    | some d =>
      simp only [settle]
      split
      · rename_i hle
        refine .woken rfl (hnow w rfl) fun d' hd' => ?_
        cases hd'
        exact Nat.le_trans hle (Nat.le_max_right ..)
      · rename_i hlt
        refine .timedOut rfl fun w' hw' => ?_
        cases hw'
        exact Nat.lt_of_not_le hlt

theorem suspend_waited (s : Session) (deadline : Option Deadline) (wake : Option Nat) :
    s.Waited deadline wake (s.suspend deadline wake).1 (s.suspend deadline wake).2 := by
  unfold suspend
  split
  · rename_i hover
    obtain ⟨w, rfl, hw⟩ := (Option.any_eq_true ..).mp hover
    have hw : w ≤ s.now := by simpa using hw
    exact .woken rfl (Nat.max_eq_left hw).symm
      (fun d _ => Nat.le_trans hw (Nat.le_max_left ..))
  · rename_i hover
    split
    · rename_i d hdeadline
      obtain ⟨rfl, hd⟩ := Option.filter_eq_some_iff.mp hdeadline
      refine .timedOut rfl fun w hw => ?_
      subst hw
      have hd : d.time ≤ s.now := by simpa using hd
      have hw : s.now < w := by simpa using hover
      omega
    · split
      · rename_i hfired
        exact .interrupted hfired
      · split
        · rename_i time event _
          split
          · rename_i hfirst
            dsimp only
            split
            · rename_i hfired
              exact .interrupted hfired
            · refine settle_waited deadline fun w hw => ?_
              subst hw
              have hw : time < w := by
                simpa [precedes] using (Bool.and_eq_true ..).mp hfirst |>.1
              simp only [advance, signal]
              omega
          · exact settle_waited deadline fun _ _ => rfl
        · exact settle_waited deadline fun _ _ => rfl

@[simp] theorem scene_settle (s : Session) (deadline : Option Deadline) (wake : Option Nat) :
    (s.settle deadline wake).1.scene = s.scene := by
  unfold settle
  split
  · split <;> rfl
  all_goals rfl

@[simp] theorem trace_settle (s : Session) (deadline : Option Deadline) (wake : Option Nat) :
    (s.settle deadline wake).1.trace = s.trace := by
  unfold settle
  split
  · split <;> rfl
  all_goals rfl

@[simp] theorem channel_settle (s : Session) (deadline : Option Deadline)
    (wake : Option Nat) : (s.settle deadline wake).1.channel = s.channel := by
  unfold settle
  split
  · split <;> rfl
  all_goals rfl

/-- What holds of a session keeps holding while it waits if neither the clock nor an event of
the cancel handle can spoil it. -/
theorem suspend_keeps {P : Session → Prop} {s : Session} (hs : P s)
    (deadline : Option Deadline) (wake : Option Nat)
    (hsettle : ∀ s' : Session, P s' → P (s'.settle deadline wake).1)
    (hevent : ∀ time event, P { (s.advance time).signal event with upcoming := none }) :
    P (s.suspend deadline wake).1 := by
  unfold suspend
  split
  · exact hs
  · split
    · exact hs
    · split
      · exact hs
      · split
        · rename_i time event _
          split
          · dsimp only
            split
            · exact hevent time event
            · exact hsettle _ (hevent time event)
          · exact hsettle s hs
        · exact hsettle s hs

@[simp] theorem scene_suspend (s : Session) (deadline : Option Deadline) (wake : Option Nat) :
    (s.suspend deadline wake).1.scene = s.scene :=
  suspend_keeps (P := fun t => t.scene = s.scene) rfl deadline wake
    (fun s' hs' => (scene_settle s' deadline wake).trans hs') fun _ _ => rfl

@[simp] theorem trace_suspend (s : Session) (deadline : Option Deadline) (wake : Option Nat) :
    (s.suspend deadline wake).1.trace = s.trace :=
  suspend_keeps (P := fun t => t.trace = s.trace) rfl deadline wake
    (fun s' hs' => (trace_settle s' deadline wake).trans hs') fun _ _ => rfl

/-- A handle that is dropped without a request stays so while time passes. -/
theorem silent_suspend {s : Session} (hs : s.channel.Silent) (deadline : Option Deadline)
    (wake : Option Nat) : (s.suspend deadline wake).1.channel.Silent :=
  suspend_keeps (P := fun t => t.channel.Silent) hs deadline wake
    (fun s' hs' => (channel_settle s' deadline wake).symm ▸ hs') fun _ e => hs.react e

end Session

namespace Hook

/-! ### From point to point -/

/-- The deadline of a hook that was started at a time. -/
def deadlineFrom (limit : Option Duration) (start : Nat) : Option Deadline :=
  limit.map fun l => ⟨l, start + l.nanos⟩

/-- A hook can be stopped here before it returns. -/
def Waits : Hook → Prop
  | wait .. | hang => True
  | finish _ | act .. | signal .. => False

/-- The next point of a hook under a deadline. -/
inductive Step (deadline : Option Deadline) : Hook × Session → Hook × Session → Prop
  | act (change : Scene → Scene) (next : Scene → Hook) (s : Session) :
      Step deadline (act change next, s) (next (change s.scene), s.act change)
  | signal (event : HandleEvent) (next : Hook) (s : Session) :
      Step deadline (signal event next, s) (next, s.signal event)
  | wait {time : Duration} (next : Hook) {s t : Session}
      (h : s.suspend deadline (some (s.now + time.nanos)) = (t, .woken)) :
      Step deadline (wait time next, s) (next, t)

/-- A point that a hook comes to. -/
abbrev Steps (deadline : Option Deadline) : Hook × Session → Hook × Session → Prop :=
  Relation.ReflTransGen (Step deadline)

/-- What a hook has come to when its run stops at `rest`. -/
inductive StopsAt (deadline : Option Deadline) (rest : Hook) (t : Session) : HookEnd → Prop
  | returned {result : HookResult} (h : rest = finish result) :
      StopsAt deadline rest t (.finished result)
  | timedOut {d : Deadline} (hwaits : rest.Waits) (hdeadline : deadline = some d) :
      StopsAt deadline rest t (.finished (.error (.timedOut d.limit)))
  | interrupted (hwaits : rest.Waits) (hfired : t.channel.fired = true) :
      StopsAt deadline rest t .interrupted
  | pending (h : rest = hang) (hdeadline : deadline = none) : StopsAt deadline rest t .pending

variable {deadline : Option Deadline}

theorem run_eq_of_step {p q : Hook × Session} (h : Step deadline p q) :
    p.1.run deadline p.2 = q.1.run deadline q.2 := by
  cases h with
  | act change next s => rfl
  | signal event next s => rfl
  | wait next h => simp only [run, h]

/-- A run goes on from every point that it comes to. -/
theorem run_eq_of_steps {p q : Hook × Session} (h : Steps deadline p q) :
    p.1.run deadline p.2 = q.1.run deadline q.2 := by
  induction h with
  | refl => rfl
  | tail _ hstep ih => exact ih.trans (run_eq_of_step hstep)

/-- A run comes to a point where it stops, and leaves the scene as it is there. -/
theorem run_stopsAt (deadline : Option Deadline) (h : Hook) (s : Session) :
    ∃ rest u, Steps deadline (h, s) (rest, u) ∧ (h.run deadline s).1.scene = u.scene ∧
      StopsAt deadline rest (h.run deadline s).1 (h.run deadline s).2 := by
  induction h generalizing s with
  | finish result => exact ⟨_, s, .refl, rfl, .returned rfl⟩
  | act change next ih =>
    obtain ⟨rest, u, hsteps, hstop⟩ := ih (change s.scene) (s.act change)
    exact ⟨rest, u, .head (.act change next s) hsteps, hstop⟩
  | signal event next ih =>
    obtain ⟨rest, u, hsteps, hstop⟩ := ih (s.signal event)
    exact ⟨rest, u, .head (.signal event next s) hsteps, hstop⟩
  | wait time next ih =>
    have hwaited := s.suspend_waited deadline (some (s.now + time.nanos))
    have hscene := s.scene_suspend deadline (some (s.now + time.nanos))
    cases hsuspend : s.suspend deadline (some (s.now + time.nanos)) with
    | mk t k =>
      rw [hsuspend] at hwaited hscene
      cases hwaited with
      | woken _ _ _ =>
        obtain ⟨rest, u, hsteps, hstop⟩ := ih t
        rw [run_eq_of_step (.wait next hsuspend)]
        exact ⟨rest, u, .head (.wait next hsuspend) hsteps, hstop⟩
      | timedOut hdeadline _ =>
        simp only [run, hsuspend]
        exact ⟨_, s, .refl, hscene, .timedOut trivial hdeadline⟩
      | interrupted hfired =>
        simp only [run, hsuspend]
        exact ⟨_, s, .refl, hscene, .interrupted trivial hfired⟩
      | never hwake _ => cases hwake
  | hang =>
    have hwaited := s.suspend_waited deadline none
    have hscene := s.scene_suspend deadline none
    cases hsuspend : s.suspend deadline none with
    | mk t k =>
      rw [hsuspend] at hwaited hscene
      simp only [run, hsuspend]
      cases hwaited with
      | woken hwake _ _ => cases hwake
      | timedOut hdeadline _ => exact ⟨_, s, .refl, hscene, .timedOut trivial hdeadline⟩
      | interrupted hfired => exact ⟨_, s, .refl, hscene, .interrupted trivial hfired⟩
      | never _ hdeadline => exact ⟨_, s, .refl, hscene, .pending rfl hdeadline⟩

/-- What holds of a session holds at the end of a run if no single step can spoil it. -/
theorem run_keeps {P : Session → Prop} (deadline : Option Deadline)
    (hact : ∀ s change, P s → P (s.act change)) (hsignal : ∀ s event, P s → P (s.signal event))
    (hsuspend : ∀ s wake, P s → P (s.suspend deadline wake).1) (h : Hook) {s : Session}
    (hs : P s) : P (h.run deadline s).1 := by
  induction h generalizing s with
  | finish result => exact hs
  | act change next ih => exact ih _ (hact s change hs)
  | signal event next ih => exact ih (hsignal s event hs)
  | wait time next ih =>
    have ht := hsuspend s (some (s.now + time.nanos)) hs
    simp only [run]
    split
    · rename_i hsuspend
      rw [hsuspend] at ht
      exact ih ht
    all_goals
      rename_i hsuspend
      rw [hsuspend] at ht
      exact ht
  | hang =>
    have ht := hsuspend s none hs
    simp only [run]
    split
    all_goals
      rename_i hsuspend
      rw [hsuspend] at ht
      exact ht

/-- A run leaves no trace of its own. -/
@[simp] theorem trace_run (deadline : Option Deadline) (h : Hook) (s : Session) :
    (h.run deadline s).1.trace = s.trace :=
  run_keeps (P := fun t => t.trace = s.trace) deadline (fun _ _ ht => ht) (fun _ _ ht => ht)
    (fun t wake ht => (t.trace_suspend deadline wake).trans ht) h rfl

theorem silent_run (deadline : Option Deadline) (h : Hook) {s : Session}
    (hs : s.channel.Silent) : (h.run deadline s).1.channel.Silent :=
  run_keeps (P := fun t => t.channel.Silent) deadline (fun _ _ ht => ht)
    (fun _ e ht => ht.react e) (fun _ wake ht => Session.silent_suspend ht deadline wake) h hs

/-! ### What a run has changed -/

/-- The changes that a hook makes before its run stops. -/
def changes (deadline : Option Deadline) : Hook → Session → List (Scene → Scene)
  | finish _, _ => []
  | act change next, s =>
    change :: (next (change s.scene)).changes deadline (s.act change)
  | signal event next, s => next.changes deadline (s.signal event)
  | wait time next, s =>
    match s.suspend deadline (some (s.now + time.nanos)) with
    | (s, .woken) => next.changes deadline s
    | _ => []
  | hang, _ => []

/-- However a run ends, all the changes before its end are there, and no others. -/
theorem scene_run (deadline : Option Deadline) (h : Hook) (s : Session) :
    (h.run deadline s).1.scene =
      (h.changes deadline s).foldl (fun scene change => change scene) s.scene := by
  induction h generalizing s with
  | finish result => rfl
  | act change next ih => exact ih (change s.scene) (s.act change)
  | signal event next ih => exact ih (s.signal event)
  | wait time next ih =>
    have hscene := s.scene_suspend deadline (some (s.now + time.nanos))
    simp only [run, changes]
    cases hsuspend : s.suspend deadline (some (s.now + time.nanos)) with
    | mk t k =>
      rw [hsuspend] at hscene
      cases k with
      | woken =>
        rw [← hscene]
        exact ih t
      | timedOut limit => exact hscene
      | interrupted => exact hscene
      | never => exact hscene
  | hang =>
    have hscene := s.scene_suspend deadline none
    simp only [run, changes]
    split
    all_goals
      rename_i hsuspend
      rw [hsuspend] at hscene
      exact hscene

/-! ### Without another wait -/

/-- What a hook leaves and returns if it comes to its end without another wait. -/
def straight? : Hook → Scene → Option (Scene × HookResult)
  | finish result, scene => some (scene, result)
  | act change next, scene => (next (change scene)).straight? (change scene)
  | signal _ next, scene => next.straight? scene
  | wait .., _ | hang, _ => none

/-- A hook that does not wait any more returns its own result, whatever has happened to the
cancel handle. -/
theorem run_of_straight? (h : Hook) {s : Session} {scene : Scene} {result : HookResult}
    (hstraight : h.straight? s.scene = some (scene, result)) :
    (h.run deadline s).2 = .finished result ∧ (h.run deadline s).1.scene = scene := by
  induction h generalizing s with
  | finish r =>
    cases hstraight
    exact ⟨rfl, rfl⟩
  | act change next ih => exact ih (change s.scene) (s := s.act change) hstraight
  | signal event next ih => exact ih (s := s.signal event) hstraight
  | wait time next ih => cases hstraight
  | hang => cases hstraight

end Hook
end LabLifecycle

import LabLifecycle.Proofs.Call.Turns

/-!
# The hooks that a call starts

Between two moments of a call some hooks were started: each of them really ran, none was
started in a call that was cancelled already, and each took the session over from the one
before it. In between there are only inits, reports and notices, and none of them starts a
hook or touches the experiment.
-/
namespace LabLifecycle

/-! ### Traces -/

/-- The call is one of a hook. -/
def AppCall.isHook : AppCall → Bool
  | hook .. => true
  | init .. => false

namespace Trace

/-- The calls of hooks. -/
def hooks (t : Trace) : List AppCall := t.calls.filter AppCall.isHook

@[simp] theorem calls_append (t u : Trace) : calls (t ++ u) = t.calls ++ u.calls :=
  List.filterMap_append

@[simp] theorem reports_append (t u : Trace) : reports (t ++ u) = t.reports ++ u.reports :=
  List.filterMap_append

@[simp] theorem hooks_append (t u : Trace) : hooks (t ++ u) = t.hooks ++ u.hooks := by
  simp [hooks]

@[simp] theorem calls_called (c : AppCall) : calls [.called c] = [c] := rfl
@[simp] theorem calls_reported (r : Report) : calls [.reported r] = [] := rfl
@[simp] theorem calls_noticed (n : Notice) : calls [.noticed n] = [] := rfl
@[simp] theorem reports_called (c : AppCall) : reports [.called c] = [] := rfl
@[simp] theorem reports_reported (r : Report) : reports [.reported r] = [r] := rfl
@[simp] theorem reports_noticed (n : Notice) : reports [.noticed n] = [] := rfl

end Trace

namespace Session

@[simp] theorem trace_emit (s : Session) (e : Event) : (s.emit e).trace = s.trace ++ [e] := rfl
@[simp] theorem scene_emit (s : Session) (e : Event) : (s.emit e).scene = s.scene := rfl
@[simp] theorem channel_emit (s : Session) (e : Event) : (s.emit e).channel = s.channel := rfl

/-- What happens to the cancel handle leaves the rest alone. -/
theorem foldl_signal (events : List HandleEvent) (s : Session) :
    (events.foldl signal s).scene = s.scene ∧ (events.foldl signal s).trace = s.trace := by
  induction events generalizing s with
  | nil => exact ⟨rfl, rfl⟩
  | cons e rest ih => exact ih (s.signal e)

/-- An `init` can change the surroundings of the experiment only. -/
@[simp] theorem scene_prepare (s : Session) (name : String) (app : App)
    (options : Invocation) :
    (s.prepare name app options).scene =
      s.scene.within (app.init options s.scene.toSurroundings).surroundings := by
  have hscene := (foldl_signal (app.init options s.scene.toSurroundings).signals
    ((s.emit (.called (.init name options))).act
      (·.within (app.init options s.scene.toSurroundings).surroundings))).1
  unfold prepare
  dsimp only
  split
  all_goals exact hscene

/-- An `init` is a call, and its complaint is noticed. -/
theorem trace_prepare (s : Session) (name : String) (app : App) (options : Invocation) :
    ∃ complaint : Trace, (s.prepare name app options).trace =
        s.trace ++ ([.called (.init name options)] ++ complaint) ∧
      complaint.calls = [] ∧ complaint.reports = [] ∧
      .noticed .defaultsApplied ∉ complaint := by
  have htrace := (foldl_signal (app.init options s.scene.toSurroundings).signals
    ((s.emit (.called (.init name options))).act
      (·.within (app.init options s.scene.toSurroundings).surroundings))).2
  unfold prepare
  dsimp only
  split
  · exact ⟨[], htrace, rfl, rfl, by simp⟩
  · rename_i e _
    refine ⟨[.noticed (.initFailed name e)], ?_, rfl, rfl, by simp⟩
    rw [← List.append_assoc]
    exact congrArg (· ++ [Event.noticed (.initFailed name e)]) htrace

/-- A hook leaves no trace of its own. -/
@[simp] theorem trace_runHook (s : Session) (limit : Option Duration) (h : Hook) :
    (s.runHook limit h).1.trace = s.trace := Hook.trace_run _ h s

/-! ### Between hooks -/

/-- The trace has grown, and the growth does not tell of defaults that were filled in. -/
def Extends (s t : Session) : Prop :=
  ∃ during, t.trace = s.trace ++ during ∧ .noticed .defaultsApplied ∉ during

theorem Extends.refl (s : Session) : s.Extends s := ⟨[], (List.append_nil _).symm, by simp⟩

theorem Extends.trans {s t u : Session} (h : Extends s t) (h' : Extends t u) :
    Extends s u := by
  obtain ⟨before, hbefore, hb⟩ := h
  obtain ⟨after, hafter, ha⟩ := h'
  refine ⟨before ++ after, by rw [hafter, hbefore, List.append_assoc], ?_⟩
  simp only [List.mem_append, not_or]
  exact ⟨hb, ha⟩

/-- What can happen in the passes of a call outside of hooks: something that neither starts a
hook nor fills in defaults, and an `init`. -/
inductive Aside (s : Session) : Session → Prop
  | event {e : Event} (hhook : Trace.hooks [e] = []) (hdefaults : e ≠ .noticed .defaultsApplied) :
      Aside s (s.emit e)
  | init (name : String) (app : App) (options : Invocation) :
      Aside s (s.prepare name app options)

/-- Nothing else happens. -/
abbrev Quiet : Session → Session → Prop := Relation.ReflTransGen Aside

variable {s t : Session}

theorem Aside.extends (h : s.Aside t) : s.Extends t := by
  cases h with
  | event _ hdefaults => exact ⟨[_], rfl, by simpa using Ne.symm hdefaults⟩
  | init name app options =>
    obtain ⟨complaint, htrace, -, -, hdefaults⟩ := s.trace_prepare name app options
    exact ⟨_, htrace, by simpa using hdefaults⟩

theorem Aside.hooks (h : s.Aside t) : t.trace.hooks = s.trace.hooks := by
  cases h with
  | event hhook _ => rw [trace_emit, Trace.hooks_append, hhook, List.append_nil]
  | init name app options =>
    obtain ⟨complaint, htrace, hcalls, -, -⟩ := s.trace_prepare name app options
    have hcomplaint : complaint.hooks = [] := by rw [Trace.hooks, hcalls, List.filter_nil]
    rw [htrace, Trace.hooks_append, Trace.hooks_append, hcomplaint]
    exact List.append_nil _

theorem Aside.experiment (h : s.Aside t) : t.scene.experiment = s.scene.experiment := by
  cases h with
  | event _ _ => rfl
  | init name app options =>
    rw [scene_prepare]
    rfl

theorem Quiet.extends (h : s.Quiet t) : s.Extends t := by
  induction h with
  | refl => exact .refl s
  | tail _ haside ih => exact ih.trans haside.extends

theorem Quiet.hooks (h : s.Quiet t) : t.trace.hooks = s.trace.hooks := by
  induction h with
  | refl => rfl
  | tail _ haside ih => exact haside.hooks.trans ih

theorem Quiet.experiment (h : s.Quiet t) : t.scene.experiment = s.scene.experiment := by
  induction h with
  | refl => rfl
  | tail _ haside ih => exact haside.experiment.trans ih

end Session

/-! ### Visits -/

namespace Visit

/-- The hook really ran as it is told. -/
def Genuine (limit : Option Duration) (stage : Stage) (v : Visit) : Prop :=
  v.before.runHook limit (v.slot.app.hook stage) = (v.after, v.ended)

/-- The deadline of the hook. -/
def deadline (limit : Option Duration) (v : Visit) : Option Deadline :=
  Hook.deadlineFrom limit v.before.now

section
variable {limit : Option Duration} {stage : Stage} {v : Visit}

theorem Genuine.run_eq (h : v.Genuine limit stage) :
    (v.slot.app.hook stage).run (v.deadline limit) v.before = (v.after, v.ended) := h

theorem Genuine.trace (h : v.Genuine limit stage) : v.after.trace = v.before.trace := by
  have htrace := Hook.trace_run (v.deadline limit) (v.slot.app.hook stage) v.before
  rwa [h.run_eq] at htrace

/-- A hook comes to a point where it stops, and what it has changed up to there stays. -/
theorem Genuine.stopsAt (h : v.Genuine limit stage) :
    ∃ rest u, Hook.Steps (v.deadline limit) (v.slot.app.hook stage, v.before) (rest, u) ∧
      v.after.scene = u.scene ∧ Hook.StopsAt (v.deadline limit) rest v.after v.ended := by
  have hstops := Hook.run_stopsAt (v.deadline limit) (v.slot.app.hook stage) v.before
  rwa [h.run_eq] at hstops

end

/-- The report about a hook that has ended. One that was interrupted is reported under the
name that its app has. -/
def report? (run : Run) (v : Visit) : Option Report :=
  match v.ended with
  | .finished result =>
    some ⟨run.id, v.slot.name, run.stage, v.slot.pass, v.slot.pass.status result⟩
  | .interrupted => some ⟨run.id, v.slot.app.name, run.stage, v.slot.pass, .failed⟩
  | .pending => none

/-- What follows a hook is its report and a notice at most. -/
theorem quiet_close (run : Run) (v : Visit) : v.after.Quiet (v.close run).1 := by
  unfold close
  split
  · exact .single (.event rfl (by simp))
  · exact .tail (.single (.event rfl (by simp))) (.event rfl (by simp))
  · exact .refl

theorem reports_close (run : Run) (v : Visit) :
    (v.close run).1.trace.reports = v.after.trace.reports ++ (v.report? run).toList := by
  cases hended : v.ended with
  | finished result =>
    simp only [close, report?, hended]
    exact Trace.reports_append ..
  | interrupted =>
    simp only [close, report?, hended, Session.report, Session.notice, Session.trace_emit,
      List.append_assoc]
    exact Trace.reports_append ..
  | pending =>
    simp only [close, report?, hended]
    exact (List.append_nil _).symm

end Visit

/-- Hooks that are started one after another: each of them takes the session over from the
one before it, and nothing else happens in between. -/
def Chained (stage : Stage) : Session → List Visit → Session → Prop
  | s, [], t => s.Quiet t
  | s, v :: rest, t =>
    (∃ u, s.Quiet u ∧ v.before = u.emit (.called (v.slot.call stage))) ∧
      Chained stage v.after rest t

namespace Chained
variable {stage : Stage} {s t u : Session} {visits more : List Visit}

theorem of_quiet (h : s.Quiet t) (h' : Chained stage t visits u) :
    Chained stage s visits u := by
  cases visits with
  | nil => exact h.trans h'
  | cons v rest =>
    obtain ⟨⟨due, hdue, hbefore⟩, hrest⟩ := h'
    exact ⟨⟨due, h.trans hdue, hbefore⟩, hrest⟩

theorem trans (h : Chained stage s visits t) (h' : Chained stage t more u) :
    Chained stage s (visits ++ more) u := by
  induction visits generalizing s with
  | nil => exact of_quiet h h'
  | cons v rest ih => exact ⟨h.1, ih h.2⟩

end Chained

/-- The hooks that were started between two sessions, none of them in a call that was
cancelled. -/
structure Started (limit : Option Duration) (stage : Stage) (s : Session)
    (visits : List Visit) (t : Session) : Prop where
  genuine : ∀ v ∈ visits, v.Genuine limit stage
  uncancelled : ∀ v ∈ visits, v.before.channel.fired = false
  chained : Chained stage s visits t

namespace Started
variable {limit : Option Duration} {stage : Stage} {s t u : Session} {visits more : List Visit}

theorem trans (h : Started limit stage s visits t) (h' : Started limit stage t more u) :
    Started limit stage s (visits ++ more) u where
  genuine v hv := (List.mem_append.mp hv).elim (h.genuine v) (h'.genuine v)
  uncancelled v hv := (List.mem_append.mp hv).elim (h.uncancelled v) (h'.uncancelled v)
  chained := h.chained.trans h'.chained

theorem of_quiet (h : s.Quiet t) : Started limit stage s [] t where
  genuine _ hv := by cases hv
  uncancelled _ hv := by cases hv
  chained := h

/-- The first of the hooks ran before the others were started. -/
theorem of_cons {v : Visit} (h : Started limit stage s (v :: visits) t) :
    s.Extends v.before ∧ v.before.scene.experiment = s.scene.experiment ∧
      v.before.trace.hooks = s.trace.hooks ++ [v.slot.call stage] ∧
      v.Genuine limit stage ∧ Started limit stage v.after visits t := by
  obtain ⟨⟨due, hdue, hbefore⟩, hrest⟩ := h.chained
  have hstart : due.Extends v.before := by
    rw [hbefore]
    exact ⟨[.called (v.slot.call stage)], rfl, by simp⟩
  refine ⟨hdue.extends.trans hstart, ?_, ?_, h.genuine v (List.mem_cons_self ..), ?_⟩
  · rw [hbefore, Session.scene_emit]
    exact hdue.experiment
  · rw [hbefore, Session.trace_emit, Trace.hooks_append, hdue.hooks]
    rfl
  · exact ⟨fun w hw => h.genuine w (List.mem_cons_of_mem v hw),
      fun w hw => h.uncancelled w (List.mem_cons_of_mem v hw), hrest⟩

/-- The first hooks ran before there were others. -/
theorem of_append {first : List Visit} (h : Started limit stage s (first ++ more) u) :
    ∃ t, Started limit stage s first t ∧ Started limit stage t more u := by
  induction first generalizing s with
  | nil => exact ⟨s, of_quiet .refl, h⟩
  | cons v rest ih =>
    obtain ⟨-, -, -, hgenuine, hrest⟩ := h.of_cons
    obtain ⟨t, hfirst, hmore⟩ := ih hrest
    refine ⟨t, ⟨fun w hw => ?_, fun w hw => ?_, h.chained.1, hfirst.chained⟩, hmore⟩
    · rcases List.mem_cons.mp hw with rfl | hw
      · exact hgenuine
      · exact hfirst.genuine w hw
    · exact h.uncancelled w (List.mem_append_left more hw)

/-- The calls of hooks that a trace tells of are those of the hooks that were started. -/
theorem hooks (h : Started limit stage s visits t) :
    t.trace.hooks = s.trace.hooks ++ visits.map (·.slot.call stage) := by
  induction visits generalizing s with
  | nil => rw [h.chained.hooks, List.map_nil, List.append_nil]
  | cons v rest ih =>
    obtain ⟨-, -, hhooks, hgenuine, hrest⟩ := h.of_cons
    rw [ih hrest, hgenuine.trace, hhooks, List.append_assoc]
    rfl

/-- Defaults are not filled in before the last of the hooks is over. -/
theorem early (h : Started limit stage s visits t) :
    (∀ v ∈ visits, s.Extends v.before) ∧ s.Extends t := by
  induction visits generalizing s with
  | nil => exact ⟨fun v hv => (List.not_mem_nil hv).elim, h.chained.extends⟩
  | cons v rest ih =>
    obtain ⟨hbefore, -, -, hgenuine, hrest⟩ := h.of_cons
    have hafter : s.Extends v.after := by
      obtain ⟨during, htrace, hduring⟩ := hbefore
      exact ⟨during, by rw [hgenuine.trace, htrace], hduring⟩
    obtain ⟨hmore, ht⟩ := ih hrest
    refine ⟨fun w hw => ?_, hafter.trans ht⟩
    rcases List.mem_cons.mp hw with rfl | hw
    · exact hbefore
    · exact hafter.trans (hmore w hw)

end Started

end LabLifecycle

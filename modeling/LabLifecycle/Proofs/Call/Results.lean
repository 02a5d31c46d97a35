import LabLifecycle.Proofs.Call.Cancellation
import LabLifecycle.Proofs.Call.Repetition

/-!
# Results and reports

What a call returns and what it reports come from different places, and they agree. A call
that is cut off or fails has at most one report of a failure, behind all others, and the error
names the app that this report is about. A call that succeeds has none, and one report of
success for every default app.

`Account` lists the ways in which a call can end together with its reports; every call has
one, and what a caller wants to know can be read off it.
-/
namespace LabLifecycle

namespace Pass

/-- A failure is reported exactly where it ends the call. -/
theorem status_eq_failed_iff (p : Pass) (result : HookResult) :
    p.status result = .failed ↔ (p.fatal? result).isSome := by
  cases result with
  | ok _ => cases p <;> simp [status, fatal?]
  | error e => cases p <;> cases e <;> simp [status, fatal?]

/-- What ends a call is what the hook returned, and more than a declared app's absence. -/
theorem fatal?_eq_some {p : Pass} {result : HookResult} {e : AppError}
    (h : p.fatal? result = some e) :
    result = .error e ∧ (p = .scenario → e.isUnresolved = false) := by
  cases result with
  | ok _ => cases p <;> cases h
  | error e' =>
    cases p with
    | default =>
      cases h
      exact ⟨rfl, fun hpass => nomatch hpass⟩
    | scenario =>
      cases e' with
      | unresolved _ => cases h
      | _ =>
        cases h
        exact ⟨rfl, fun _ => rfl⟩

/-- Only a declared app counts as unavailable. -/
theorem eq_scenario_of_status {p : Pass} {result : HookResult}
    (h : p.status result = .unresolved) : p = .scenario := by
  cases p with
  | default => cases result <;> cases h
  | scenario => rfl

end Pass

/-- Only a declared app is reported as unavailable. -/
theorem Visit.pass_of_unresolved {run : Run} {v : Visit} {r : Report}
    (hr : v.report? run = some r) (h : r.status = .unresolved) : r.pass = .scenario := by
  unfold Visit.report? at hr
  split at hr
  · cases hr
    exact Pass.eq_scenario_of_status h
  · cases hr
    cases h
  · cases hr

namespace Serving
variable {run : Run} {x : Serving} {served : List Serving}

/-- A report is about the slot, and it tells of no failure if the call goes on. -/
theorem report?_eq_some {r : Report} (h : x.report? run = some r) :
    r.pass = x.slot.pass ∧ r.app = x.slot.name ∧ (x.stops = false → r.status ≠ .failed) := by
  obtain ⟨result, hresult, rfl⟩ := Option.map_eq_some_iff.mp h
  refine ⟨rfl, rfl, fun hgoes hfailed => ?_⟩
  rw [Pass.status_eq_failed_iff] at hfailed
  simp only [stops, hresult, hfailed] at hgoes
  cases hgoes

/-- A default app after which the call goes on has succeeded. -/
theorem report?_of_default (hpass : x.slot.pass = .default) (hgoes : x.stops = false) :
    x.report? run = some ⟨run.id, x.slot.name, run.stage, .default, .ok⟩ := by
  unfold stops at hgoes
  unfold report?
  cases hresult : x.result with
  | none => simp [hresult] at hgoes
  | some result =>
    cases result with
    | ok _ => simp [hpass, Pass.status]
    | error e => simp [hresult, hpass, Pass.fatal?] at hgoes

theorem ne_failed_of_mem (hgoes : ∀ x ∈ served, x.stops = false) :
    ∀ r ∈ served.filterMap (·.report? run), r.status ≠ .failed := by
  intro r hr
  obtain ⟨x, hx, hreport⟩ := List.mem_filterMap.mp hr
  exact (report?_eq_some hreport).2.2 (hgoes x hx)

/-- A hook ends a call by a failure that its pass takes for fatal. -/
theorem verdict_eq_failed {e : ApplyError} (h : x.verdict run = .error (.failed e)) :
    ∃ source, x.result = some (.error source) ∧
      e = x.slot.pass.blame x.slot.name run.stage source ∧
      (x.slot.pass = .scenario → source.isUnresolved = false) ∧
      x.report? run = some ⟨run.id, x.slot.name, run.stage, x.slot.pass, .failed⟩ := by
  unfold verdict at h
  split at h
  · cases h
  · rename_i result hresult
    unfold Slot.verdict at h
    split at h
    · cases h
    · rename_i source hfatal
      obtain ⟨rfl, hsource⟩ := Pass.fatal?_eq_some hfatal
      have hstatus : x.slot.pass.status (.error source) = .failed :=
        (Pass.status_eq_failed_iff ..).mpr (by rw [hfatal]; rfl)
      refine ⟨source, hresult, by cases h; rfl, hsource, ?_⟩
      rw [report?, hresult, Option.map_some, hstatus]

/-- A hook that never returns has no report. -/
theorem report?_of_pending (h : x.verdict run = .error .pending) : x.report? run = none := by
  unfold verdict at h
  split at h
  · rename_i hresult
    rw [report?, hresult, Option.map_none]
  · unfold Slot.verdict at h
    split at h
    all_goals cases h

/-- Slots of which only the last one can end the call are through, or the last one ends it. -/
theorem verdicts_cases (run : Run) (hlast : ∀ x ∈ served.dropLast, x.stops = false) :
    (verdicts run served = .ok () ∧ ∀ x ∈ served, x.stops = false) ∨
      ∃ before x halt, served = before ++ [x] ∧ (∀ w ∈ before, w.stops = false) ∧
        x.verdict run = .error halt ∧ verdicts run served = .error halt := by
  rcases List.eq_nil_or_concat' served with rfl | ⟨before, x, rfl⟩
  · exact Or.inl ⟨rfl, fun x hx => (List.not_mem_nil hx).elim⟩
  · rw [List.dropLast_concat] at hlast
    have hbefore : verdicts run before = .ok () :=
      (verdicts_eq_ok_iff run before).mpr (List.any_eq_false.mpr fun w hw => by simp [hlast w hw])
    rw [verdicts_append_of_ok [x] hbefore]
    rcases x.verdict_cases run with ⟨hgoes, hverdict⟩ | ⟨-, halt, hverdict, -⟩
    · refine Or.inl ⟨verdicts_cons_of_ok [] hverdict, fun w hw => ?_⟩
      rcases List.mem_append.mp hw with hw | hw
      · exact hlast w hw
      · rwa [List.mem_singleton.mp hw]
    · exact Or.inr ⟨before, x, halt, rfl, hlast, hverdict, verdicts_cons_of_error [] hverdict⟩

end Serving

/-- The last of the hooks comes to what the last of the slots comes to. -/
theorem serves_concat {visits : List Visit} {before : List Serving} {x : Serving}
    (h : List.Forall₂ Visit.Serves visits (before ++ [x])) :
    ∃ first v, visits = first ++ [v] ∧ v.Serves x := by
  induction before generalizing visits with
  | nil =>
    cases h with
    | cons hserves hrest =>
      cases hrest
      exact ⟨[], _, rfl, hserves⟩
  | cons w rest ih =>
    cases h with
    | @cons v _ _ _ _ hrest =>
      obtain ⟨first, last, rfl, hserves⟩ := ih hrest
      exact ⟨v :: first, last, rfl, hserves⟩

/-- The hook of a visit has failed by itself, with an error that it came to, or because its time
was up. -/
def Visit.Fails (limit : Option Duration) (stage : Stage) (v : Visit) (source : AppError) :
    Prop :=
  v.ended = .finished (.error source) ∧
    ((∃ w, Hook.Steps (v.deadline limit) (v.slot.app.hook stage, v.before)
        (.finish (.error source), w)) ∨
      ∃ l, limit = some l ∧ source = .timedOut l)

theorem Visit.Genuine.fails {limit : Option Duration} {stage : Stage} {v : Visit}
    {source : AppError} (h : v.Genuine limit stage)
    (hended : v.ended = .finished (.error source)) : v.Fails limit stage source := by
  obtain ⟨rest, u, hsteps, -, hstop⟩ := h.stopsAt
  refine ⟨hended, ?_⟩
  rw [hended] at hstop
  cases hstop with
  | returned hrest => exact Or.inl ⟨u, hrest ▸ hsteps⟩
  | timedOut _ hdeadline =>
    obtain ⟨l, hl, rfl⟩ := Option.map_eq_some_iff.mp hdeadline
    exact Or.inr ⟨l, hl, rfl⟩

namespace Registry
variable {r : Registry} {names : List String} {x : Slot}

theorem pass_of_mem_defaultSlots (h : x ∈ r.defaultSlots) : x.pass = .default := by
  obtain ⟨app, -, rfl⟩ := List.mem_map.mp h
  rfl

theorem pass_of_mem_declaredSlots (h : x ∈ r.declaredSlots names) :
    x.pass = .scenario ∧ x.name ∉ r.defaultNames := by
  have hother : x.name ∈ r.others names := by
    rw [← names_declaredSlots]
    exact List.mem_map_of_mem h
  refine ⟨?_, not_mem_defaultNames_of_mem_others hother⟩
  obtain ⟨name, -, rfl⟩ := List.mem_map.mp h
  rfl

/-- Up to a default app there are only default apps. -/
theorem pass_eq_default {before : List Slot}
    (h : before ++ [x] <+: r.defaultSlots ++ r.declaredSlots names)
    (hx : x.pass = .default) : ∀ w ∈ before, w.pass = .default := by
  obtain ⟨early, late, hsplit, hearly, hlate, -⟩ := parts_of_prefix_append h
  rcases List.eq_nil_or_concat' late with rfl | ⟨more, y, rfl⟩
  · rw [List.append_nil] at hsplit
    exact fun w hw => pass_of_mem_defaultSlots
      (hearly.subset (hsplit ▸ List.mem_append_left [x] hw))
  · -- The last slot would be one of a declared app.
    rw [← List.append_assoc] at hsplit
    have hlast : [x] = [y] := (List.append_inj' hsplit rfl).2
    have hmem : x ∈ r.declaredSlots names :=
      hlate.subset (List.mem_append_right more (hlast ▸ List.mem_singleton_self x))
    rw [(pass_of_mem_declaredSlots hmem).1] at hx
    cases hx

end Registry

namespace Orchestrator

/-- The last hook of a call that leaves the session `u` is the one of a slot, and it fails. -/
def FailsLast (o : Orchestrator) (stage : Stage) (s u : Session) (x : Slot)
    (source : AppError) : Prop :=
  ∃ visits v, Started o.limit stage s (visits ++ [v]) u ∧ v.slot = x ∧
    v.Fails o.limit stage source

/-- How a call that leaves the session `u` comes to its end, and what it has reported by then. -/
inductive Account (o : Orchestrator) (run : Run) (s u : Session) :
    List Report → Except Halt Unit → Prop
  | through {declared : List Report}
      (hdeclared : ∀ r ∈ declared,
        r.pass = .scenario ∧ r.app ∉ o.registry.defaultNames ∧ r.status ≠ .failed) :
      Account o run s u (o.registry.defaultNames.map
        (fun name => ⟨run.id, name, run.stage, .default, .ok⟩) ++ declared) (.ok ())
  | blamed {before : List Report} {pass : Pass} {name : String} {source : AppError}
      (hbefore : ∀ r ∈ before, r.status ≠ .failed)
      (hpass : pass = .default → ∀ r ∈ before, r.pass = .default)
      (hsource : pass = .scenario → source.isUnresolved = false)
      (hfails : o.FailsLast run.stage s u ⟨pass, name, o.registry.resolve name⟩ source) :
      Account o run s u (before ++ [⟨run.id, name, run.stage, pass, .failed⟩])
        (.error (.failed (pass.blame name run.stage source)))
  | cancelled {before last : List Report} (hbefore : ∀ r ∈ before, r.status ≠ .failed)
      (hlast : last = [] ∨ ∃ r, last = [r] ∧ r.status = .failed) :
      Account o run s u (before ++ last) (.error (.failed (.cancelled run.stage)))
  | pending {before : List Report} (hbefore : ∀ r ∈ before, r.status ≠ .failed) :
      Account o run s u before (.error .pending)

variable (o : Orchestrator) {run : Run} {s u : Session} {names : List String}
  {plan : List Serving} {visits : List Visit}

/-- Slots that are all through have the reports of a call that succeeds. -/
theorem account_through (hr : Consistent o.registry.apps o.registry.defaultNames)
    (hslots : plan.map (·.slot) = o.registry.defaultSlots ++ o.registry.declaredSlots names)
    (hgoes : ∀ x ∈ plan, x.stops = false) :
    o.Account run s u (plan.filterMap (·.report? run)) (.ok ()) := by
  obtain ⟨first, second, rfl, hfirst, hsecond⟩ := List.map_eq_append_iff.mp hslots
  have hdefaults : first.filterMap (·.report? run) = o.registry.defaultNames.map
      (fun name => ⟨run.id, name, run.stage, .default, .ok⟩) := by
    rw [← Registry.names_defaultSlots hr, ← hfirst, List.map_map, List.map_map,
      ← List.filterMap_eq_map]
    refine List.filterMap_congr fun x hx => ?_
    have hslot : x.slot ∈ o.registry.defaultSlots := hfirst ▸ List.mem_map_of_mem hx
    exact Serving.report?_of_default (Registry.pass_of_mem_defaultSlots hslot)
      (hgoes x (List.mem_append_left _ hx))
  rw [List.filterMap_append, hdefaults]
  refine .through fun r hr => ?_
  obtain ⟨x, hx, hreport⟩ := List.mem_filterMap.mp hr
  have hslot : x.slot ∈ o.registry.declaredSlots names := hsecond ▸ List.mem_map_of_mem hx
  obtain ⟨hpass, hname, hstatus⟩ := Serving.report?_eq_some hreport
  obtain ⟨hscenario, hother⟩ := Registry.pass_of_mem_declaredSlots hslot
  exact ⟨hpass.trans hscenario, hname ▸ hother, hstatus (hgoes x (List.mem_append_right _ hx))⟩

/-- A slot that ends a call by a failure gets the blame. -/
theorem account_blamed (hr : Consistent o.registry.apps o.registry.defaultNames)
    {before : List Serving} {x : Serving} {e : ApplyError}
    (hslots : (before ++ [x]).map (·.slot) <+:
      o.registry.defaultSlots ++ o.registry.declaredSlots names)
    (hgoes : ∀ w ∈ before, w.stops = false) (hverdict : x.verdict run = .error (.failed e))
    (hserves : List.Forall₂ Visit.Serves visits (before ++ [x]))
    (hstarted : Started o.limit run.stage s visits u) :
    o.Account run s u ((before ++ [x]).filterMap (·.report? run)) (.error (.failed e)) := by
  obtain ⟨source, hresult, rfl, hsource, hreport⟩ := Serving.verdict_eq_failed hverdict
  obtain ⟨first, v, rfl, hlast⟩ := serves_concat hserves
  have hended : v.ended = .finished (.error source) := by
    rw [hlast.ended, hresult]
    rfl
  have happ : x.slot.app = o.registry.resolve x.slot.name :=
    Registry.app_eq_resolve hr (hslots.subset (by simp))
  have hslot : v.slot = ⟨x.slot.pass, x.slot.name, o.registry.resolve x.slot.name⟩ := by
    rw [hlast.slot, ← happ]
  have hfails := (hstarted.genuine v (by simp)).fails hended
  rw [List.filterMap_append, List.filterMap_cons_some hreport, List.filterMap_nil]
  refine .blamed (Serving.ne_failed_of_mem hgoes) (fun hdefault r hr => ?_) hsource
    ⟨first, v, hstarted, hslot, hfails⟩
  obtain ⟨w, hw, hreport⟩ := List.mem_filterMap.mp hr
  rw [List.map_append] at hslots
  rw [(Serving.report?_eq_some hreport).1]
  exact Registry.pass_eq_default hslots hdefault w.slot (List.mem_map_of_mem hw)

/-- A slot that ends a call fails, or its hook never returns. -/
theorem account_stopped (hr : Consistent o.registry.apps o.registry.defaultNames)
    {before : List Serving} {x : Serving} {halt : Halt}
    (hslots : (before ++ [x]).map (·.slot) <+:
      o.registry.defaultSlots ++ o.registry.declaredSlots names)
    (hgoes : ∀ w ∈ before, w.stops = false) (hverdict : x.verdict run = .error halt)
    (hserves : List.Forall₂ Visit.Serves visits (before ++ [x]))
    (hstarted : Started o.limit run.stage s visits u) :
    o.Account run s u ((before ++ [x]).filterMap (·.report? run)) (.error halt) := by
  cases halt with
  | failed e => exact o.account_blamed hr hslots hgoes hverdict hserves hstarted
  | pending =>
    have hnone : x.report? run = none := Serving.report?_of_pending hverdict
    rw [List.filterMap_append, List.filterMap_cons_none hnone, List.filterMap_nil,
      List.append_nil]
    exact .pending (Serving.ne_failed_of_mem hgoes)

/-- A call that is cut off has reported on the slots before, and on the hook that was
interrupted if there was one. -/
theorem account_cut {dryRun : Bool} {x : Slot} {before : List Serving} {first last : List Visit}
    {m t : Session} (hgoes : ∀ w ∈ before, w.stops = false)
    (hserves : List.Forall₂ Visit.Serves first before)
    (hcut : o.CutOff run dryRun x m last t) :
    o.Account run s u ((first ++ last).filterMap (·.report? run))
      (.error (.failed (.cancelled run.stage))) := by
  rw [List.filterMap_append, filterMap_report?_of_serves _ hserves]
  refine .cancelled (Serving.ne_failed_of_mem hgoes) ?_
  rcases hcut.reports with ⟨rfl, -⟩ | ⟨v, rfl, hended⟩
  · exact Or.inl rfl
  · have hreport : v.report? run =
        some ⟨run.id, v.slot.app.name, run.stage, v.slot.pass, .failed⟩ := by
      rw [Visit.report?, hended]
    rw [List.filterMap_cons_some hreport]
    exact Or.inr ⟨_, rfl, rfl⟩

/-- A call that does not succeed ends where its passes end. -/
theorem EndsAt.eq_of_error {stage : Stage} {t : Session × Except Halt Unit} {halt : Halt}
    (h : EndsAt stage u t) (hresult : t.2 = .error halt) : t.1 = u := by
  rcases h with rfl | ⟨_, rfl⟩
  · cases hresult
  · rfl

/-- Every call for a stage has an account. -/
theorem apply_account (hr : Consistent o.registry.apps o.registry.defaultNames) (id : RunId)
    {options : List InvocationOption} {stage : Stage}
    (hstage : (Invocation.ofOptions options).stage = some stage) (s : Session) :
    ∃ records, (o.apply id options s).1.trace.reports = s.trace.reports ++ records ∧
      (∀ r ∈ records, r.status = .unresolved → r.pass = .scenario) ∧
      o.Account ⟨id, stage⟩ s (o.apply id options s).1 records (o.apply id options s).2 := by
  obtain ⟨u, hchronicle, hswept, hend⟩ := o.callVisits_swept id hstage rfl s
  obtain ⟨hbegin, hall, hlast⟩ :=
    o.schedule_slots stage (Invocation.ofOptions options).dryRun s.scene
  generalize o.schedule stage (Invocation.ofOptions options).dryRun s.scene = plan at *
  generalize o.callVisits id options s = visits at *
  refine ⟨visits.filterMap (·.report? ⟨id, stage⟩), ?_, fun r hr hunresolved => ?_, ?_⟩
  · rw [hend.trace.2.2, hchronicle.reports]
  · obtain ⟨v, -, hreport⟩ := List.mem_filterMap.mp hr
    exact Visit.pass_of_unresolved hreport hunresolved
  · cases hswept with
    | through hfollowed hresult =>
      rw [filterMap_report?_of_serves _ hfollowed.serves, hresult]
      rcases Serving.verdicts_cases ⟨id, stage⟩ hlast with
        ⟨hok, hgoes⟩ | ⟨before, x, halt, rfl, hgoes, hverdict, hhalt⟩
      · rw [hok]
        exact o.account_through hr (hall ((Serving.verdicts_eq_ok_iff _ _).mp hok)) hgoes
      · rw [hend.eq_of_error (hresult.trans hhalt), hhalt]
        exact o.account_stopped hr hbegin hgoes hverdict hfollowed.serves hchronicle.toStarted
    | @cut before after x first last m hplan hvisits hfollowed hcut hresult =>
      rw [hresult, hvisits]
      refine o.account_cut (fun w hw => hlast w ?_) hfollowed.serves hcut
      rw [hplan, List.dropLast_append_of_ne_nil (List.cons_ne_nil x after)]
      exact List.mem_append_left _ hw

/-! ### What an account says -/

/-- The last report is the given one, and it is the only one about a failure. -/
def EndsInFailure (records : List Report) (r : Report) : Prop :=
  ∃ before, records = before ++ [r] ∧ r.status = .failed ∧ ∀ w ∈ before, w.status ≠ .failed

namespace Account
variable {o} {records : List Report}

/-- A call that succeeds reports no failure, and one success for each default app. -/
theorem of_ok (hr : Consistent o.registry.apps o.registry.defaultNames)
    (h : o.Account run s u records (.ok ())) :
    (∀ r ∈ records, r.status ≠ .failed) ∧ ∀ name ∈ o.registry.defaultNames,
      records.filter (·.app = name) = [⟨run.id, name, run.stage, .default, .ok⟩] := by
  cases h with
  | through hdeclared =>
    refine ⟨fun r hmem => ?_, fun name hname => ?_⟩
    · rcases List.mem_append.mp hmem with hmem | hmem
      · obtain ⟨name, -, rfl⟩ := List.mem_map.mp hmem
        simp
      · exact (hdeclared r hmem).2.2
    · have hnone : ∀ r : Report, r ∈ _ → ¬ decide (r.app = name) = true := fun r hmem happ =>
        (hdeclared r hmem).2.1 (of_decide_eq_true happ ▸ hname)
      rw [List.filter_append, List.filter_eq_nil_iff.mpr hnone, List.append_nil,
        List.filter_map]
      have hone : o.registry.defaultNames.filter (· = name) = [name] := by
        rw [List.filter_eq, List.count_eq_one_of_mem hr.distinct hname, List.replicate_one]
      exact congrArg (List.map _) hone

/-- A call that fails is cancelled, or it puts the blame on the app whose hook was the last. -/
theorem of_failed {e : ApplyError} (h : o.Account run s u records (.error (.failed e))) :
    (e = .cancelled run.stage ∧
      ((∀ r ∈ records, r.status ≠ .failed) ∨ ∃ r, EndsInFailure records r)) ∨
    ∃ pass name source, e = pass.blame name run.stage source ∧
      EndsInFailure records ⟨run.id, name, run.stage, pass, .failed⟩ ∧
      (pass = .default → ∀ r ∈ records, r.pass = .default) ∧
      (pass = .scenario → source.isUnresolved = false) ∧
      o.FailsLast run.stage s u ⟨pass, name, o.registry.resolve name⟩ source := by
  generalize hresult : (Except.error (.failed e) : Except Halt Unit) = result at h
  cases h with
  | through _ => cases hresult
  | pending _ => cases hresult
  | cancelled hbefore hlast =>
    cases hresult
    refine Or.inl ⟨rfl, ?_⟩
    rcases hlast with rfl | ⟨r, rfl, hstatus⟩
    · rw [List.append_nil]
      exact Or.inl hbefore
    · exact Or.inr ⟨r, _, rfl, hstatus, hbefore⟩
  | @blamed before pass name source hbefore hpass hsource hfails =>
    cases hresult
    refine Or.inr ⟨pass, name, source, rfl, ⟨before, rfl, rfl, hbefore⟩, ?_, hsource, hfails⟩
    intro hdefault r hmem
    rcases List.mem_append.mp hmem with hmem | hmem
    · exact hpass hdefault r hmem
    · rw [List.mem_singleton.mp hmem]
      exact hdefault

end Account

/-- What a call returns agrees with what it reports. If it succeeds, no report is about a
failure, and every default app has one about its success. If it fails at an app, the last
report, and no other, is about the failure of that app in the pass that the error tells, and
the source of the error is what the last hook has come to by itself, or that its time was up.
A default app fails before any other app is reported on, and a declared app never fails by
being unavailable. If the call is cancelled, no report but the last can be about a failure.
Without a stage there is none. -/
theorem result_agrees_with_reports {steps : List BuildStep}
    (hbuilt : Registry.ofSteps steps = .ok o.registry) (id : RunId)
    (options : List InvocationOption) (s : Session) :
    ∃ records, (o.apply id options s).1.trace.reports = s.trace.reports ++ records ∧
      (∀ r ∈ records, r.status = .unresolved → r.pass = .scenario) ∧
      ((o.apply id options s).2 = .ok () → (∀ r ∈ records, r.status ≠ .failed) ∧
        ∃ stage, (Invocation.ofOptions options).stage = some stage ∧
          ∀ name ∈ o.registry.defaultNames,
            records.filter (·.app = name) = [⟨id, name, stage, .default, .ok⟩]) ∧
      (∀ name stage source,
        (o.apply id options s).2 = .error (.failed (.defaultApp name stage source)) →
        (Invocation.ofOptions options).stage = some stage ∧
          EndsInFailure records ⟨id, name, stage, .default, .failed⟩ ∧
          (∀ r ∈ records, r.pass = .default) ∧
          o.FailsLast stage s (o.apply id options s).1
            ⟨.default, name, o.registry.resolve name⟩ source) ∧
      (∀ name stage source,
        (o.apply id options s).2 = .error (.failed (.scenarioApp name stage source)) →
        (Invocation.ofOptions options).stage = some stage ∧
          EndsInFailure records ⟨id, name, stage, .scenario, .failed⟩ ∧
          source.isUnresolved = false ∧
          o.FailsLast stage s (o.apply id options s).1
            ⟨.scenario, name, o.registry.resolve name⟩ source) ∧
      (∀ stage, (o.apply id options s).2 = .error (.failed (.cancelled stage)) →
        (Invocation.ofOptions options).stage = some stage ∧
          ((∀ r ∈ records, r.status ≠ .failed) ∨ ∃ r, EndsInFailure records r)) ∧
      ((o.apply id options s).2 = .error (.failed .missingStage) →
        (Invocation.ofOptions options).stage = none ∧ records = []) := by
  have hr := Registry.consistent_ofSteps hbuilt
  cases hstage : (Invocation.ofOptions options).stage with
  | none =>
    have happly : o.apply id options s = (s, .error (.failed .missingStage)) := by
      simp only [apply, hstage]
    rw [happly]
    exact ⟨[], (List.append_nil _).symm, by simp, by simp, by simp, by simp, by simp,
      fun _ => ⟨rfl, rfl⟩⟩
  | some stage =>
    obtain ⟨records, hreports, hunresolved, haccount⟩ := o.apply_account hr id hstage s
    generalize (o.apply id options s).2 = result at haccount ⊢
    refine ⟨records, hreports, hunresolved, ?_, ?_, ?_, ?_, ?_⟩
    · rintro rfl
      exact ⟨(haccount.of_ok hr).1, stage, rfl, (haccount.of_ok hr).2⟩
    · rintro name _ source rfl
      rcases haccount.of_failed with ⟨hcancelled, -⟩ |
        ⟨pass, _, _, hblame, hlast, hpass, -, hfails⟩
      · cases hcancelled
      · cases pass <;> cases hblame
        exact ⟨rfl, hlast, hpass rfl, hfails⟩
    · rintro name _ source rfl
      rcases haccount.of_failed with ⟨hcancelled, -⟩ |
        ⟨pass, _, _, hblame, hlast, -, hsource, hfails⟩
      · cases hcancelled
      · cases pass <;> cases hblame
        exact ⟨rfl, hlast, hsource rfl, hfails⟩
    · rintro _ rfl
      rcases haccount.of_failed with ⟨hcancelled, hrecords⟩ | ⟨pass, _, _, hblame, -⟩
      · cases hcancelled
        exact ⟨rfl, hrecords⟩
      · cases pass <;> cases hblame
    · rintro rfl
      rcases haccount.of_failed with ⟨hcancelled, -⟩ | ⟨pass, _, _, hblame, -⟩
      · cases hcancelled
      · cases pass <;> cases hblame

end Orchestrator

/-! ### A default app that fails -/

namespace Sample

/-- A default app that fails after a while. -/
def brittle : App :=
  { App.plain "brittle" with hook := fun _ => .wait ⟨2⟩ (.fail (.hook "out of order")) }

/-- A registry with this app only, and a time limit that it keeps. -/
def frail : Orchestrator where
  registry := ⟨SortedMap.empty.insert "brittle" brittle, ["brittle"], none, defaultCommandStart⟩
  limit := some ⟨3⟩

end Sample

namespace Orchestrator

/-- The error of the brittle app comes out as it is, and its report is the last one. -/
theorem sample_agreement :
    Registry.ofSteps [.registerDefault Sample.brittle] = .ok Sample.frail.registry ∧
    (Sample.frail.apply default [.stage .cleanup] (Sample.declaring ["tap"])).2 =
      .error (.failed (.defaultApp "brittle" .cleanup (.hook "out of order"))) ∧
    EndsInFailure
      (Sample.frail.apply default [.stage .cleanup] (Sample.declaring ["tap"])).1.trace.reports
      ⟨default, "brittle", .cleanup, .default, .failed⟩ ∧
    Sample.frail.FailsLast .cleanup (Sample.declaring ["tap"])
      (Sample.frail.apply default [.stage .cleanup] (Sample.declaring ["tap"])).1
      ⟨.default, "brittle", Sample.frail.registry.resolve "brittle"⟩ (.hook "out of order") := by
  have hbuilt : Registry.ofSteps [.registerDefault Sample.brittle] = .ok Sample.frail.registry :=
    rfl
  obtain ⟨records, hreports, -, -, hdefault, -⟩ := result_agrees_with_reports Sample.frail hbuilt
    default [.stage .cleanup] (Sample.declaring ["tap"])
  have hresult : (Sample.frail.apply default [.stage .cleanup] (Sample.declaring ["tap"])).2 =
      .error (.failed (.defaultApp "brittle" .cleanup (.hook "out of order"))) := rfl
  obtain ⟨-, hlast, -, hfails⟩ := hdefault _ _ _ hresult
  have hreports : (Sample.frail.apply default [.stage .cleanup]
      (Sample.declaring ["tap"])).1.trace.reports = records := hreports
  rw [hreports]
  exact ⟨hbuilt, hresult, hlast, hfails⟩

end Orchestrator
end LabLifecycle

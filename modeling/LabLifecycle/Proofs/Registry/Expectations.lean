import LabLifecycle.Proofs.Registry.Building

/-!
# Expectations that building steps state

Steps can expect names to be default ones, and the last of them counts. No other step looks at
what is expected, so where an expectation stands among them makes no difference: all of them can be
taken out, and the last one be stated at the end. The build fails exactly if it has a name that no
step makes a default one.
-/
namespace LabLifecycle

namespace BuildStep

/-- The names that a step expects to be default ones. -/
def expected? : BuildStep → Option (List String)
  | expectDefaults names => some names
  | _ => none

/-- The step states an expectation. -/
def isExpectation (x : BuildStep) : Bool := x.expected?.isSome

/-- The names that steps expect last and that none of them makes default ones. -/
def unmet (steps : List BuildStep) : List String :=
  ((steps.filterMap expected?).getLast?.getD []).filter fun name =>
    !(steps.filterMap defaultName?).contains name

/-- A default name is the one of an app that is registered to run by default. -/
theorem mem_filterMap_defaultName? {steps : List BuildStep} {name : String} :
    name ∈ steps.filterMap defaultName? ↔ ∃ app, .registerDefault app ∈ steps ∧ app.name = name := by
  rw [List.mem_filterMap]
  constructor
  · rintro ⟨x, hx, hname⟩
    cases x with
    | registerDefault app => exact ⟨app, hx, Option.some.inj hname⟩
    | _ => cases hname
  · rintro ⟨app, happ, rfl⟩
    exact ⟨_, happ, rfl⟩

/-- Something is unmet if the last expectation has a name that no app is registered by default
with. -/
theorem unmet_ne_nil_iff {steps : List BuildStep} :
    unmet steps ≠ [] ↔ ∃ names, (steps.filterMap expected?).getLast? = some names ∧
      ∃ name ∈ names, ∀ app, .registerDefault app ∈ steps → app.name ≠ name := by
  have hnever : ∀ name, (steps.filterMap defaultName?).contains name = false ↔
      ∀ app, .registerDefault app ∈ steps → app.name ≠ name := by
    intro name
    rw [← Bool.not_eq_true, List.contains_iff_mem, mem_filterMap_defaultName?]
    exact ⟨fun h app happ hname => h ⟨app, happ, hname⟩,
      fun h ⟨app, happ, hname⟩ => h app happ hname⟩
  rw [unmet]
  cases (steps.filterMap expected?).getLast? with
  | none => simp
  | some names =>
    rw [Option.getD_some]
    constructor
    · intro hunmet
      obtain ⟨name, hmem⟩ := List.exists_mem_of_ne_nil _ hunmet
      obtain ⟨hname, hmissing⟩ := List.mem_filter.mp hmem
      exact ⟨names, rfl, name, hname, (hnever name).mp ((Bool.not_eq_true' _).mp hmissing)⟩
    · rintro ⟨_, hlast, name, hname, happs⟩
      cases hlast
      refine List.ne_nil_of_mem (List.mem_filter.mpr ⟨hname, ?_⟩)
      exact (Bool.not_eq_true' _).mpr ((hnever name).mpr happs)

end BuildStep

/-! ### Steps beside an expectation -/

namespace RegistryBuilder
variable (b : RegistryBuilder)

/-- The registry under construction with something else expected. -/
def expecting (expected : Option (List String)) : RegistryBuilder := { b with expected := expected }

/-- A step does the same whatever is expected, and leaves that be unless it states an expectation
itself. -/
theorem step_expecting (expected : Option (List String)) (x : BuildStep) :
    (b.expecting expected).step x = (b.step x).expecting (x.expected?.or expected) := by
  cases x <;> rfl

/-- Steps do the same whatever is expected before, and the last expectation that they state
counts. -/
theorem run_expecting (expected : Option (List String)) (steps : List BuildStep) :
    (b.expecting expected).run steps =
      (b.run steps).expecting ((steps.filterMap BuildStep.expected?).getLast?.or expected) := by
  induction steps generalizing b expected with
  | nil => rfl
  | cons x rest ih =>
    have hstep : (b.expecting expected).run (x :: rest) =
        ((b.step x).expecting (x.expected?.or expected)).run rest :=
      congrArg (·.run rest) (b.step_expecting expected x)
    rw [hstep, ih]
    cases hx : x.expected? with
    | none =>
      rw [List.filterMap_cons_none hx]
      rfl
    | some names =>
      rw [List.filterMap_cons_some hx, List.getLast?_cons]
      cases (rest.filterMap BuildStep.expected?).getLast? <;> rfl

/-- Besides what is expected in the end, expectations have no effect. -/
theorem run_filter_expecting (expected : Option (List String)) (steps : List BuildStep) :
    (b.run (steps.filter (!·.isExpectation))).expecting expected =
      (b.run steps).expecting expected := by
  induction steps generalizing b with
  | nil => rfl
  | cons x rest ih =>
    cases hx : x.expected? with
    | none =>
      rw [List.filter_cons_of_pos (by simp [BuildStep.isExpectation, hx])]
      exact ih (b.step x)
    | some names =>
      have hstep : b.step x = b.expecting (some names) := by
        cases x <;> cases hx
        rfl
      have hrun : b.run (x :: rest) = (b.expecting (some names)).run rest :=
        congrArg (·.run rest) hstep
      rw [List.filter_cons_of_neg (by simp [BuildStep.isExpectation, hx]), hrun, run_expecting]
      exact ih b

end RegistryBuilder

namespace Registry
variable {steps steps' : List BuildStep}

/-- A registry is built as if its last expectation were stated at the end, and no other. -/
theorem ofSteps_eq_build (steps : List BuildStep) :
    ofSteps steps = ((RegistryBuilder.run {} (steps.filter (!·.isExpectation))).expecting
      (steps.filterMap BuildStep.expected?).getLast?).build := by
  have hrun : RegistryBuilder.run {} steps =
      (RegistryBuilder.run {} steps).expecting (steps.filterMap BuildStep.expected?).getLast? := by
    have hnone := RegistryBuilder.run_expecting {} none steps
    rw [Option.or_none] at hnone
    exact hnone
  rw [ofSteps, RegistryBuilder.run_filter_expecting, ← hrun]

/-- What a registry under construction misses are the expectations that its steps do not meet. -/
theorem missing_run (steps : List BuildStep) :
    (RegistryBuilder.run {} steps).missing = BuildStep.unmet steps := by
  have hexpected : (RegistryBuilder.run {} steps).expected =
      (steps.filterMap BuildStep.expected?).getLast? := by
    have hnone := RegistryBuilder.run_expecting {} none steps
    rw [Option.or_none] at hnone
    exact congrArg RegistryBuilder.expected hnone
  have hnames := (RegistryBuilder.Reflects.nil.run steps).defaultNames
  rw [RegistryBuilder.missing, hexpected, hnames, List.nil_append, BuildStep.unmet]
  refine List.filter_congr fun name _ => ?_
  rw [BuildStep.defaultNames, Bool.eq_iff_iff]
  simp

/-- A build fails exactly if an expectation is not met, and tells which names are missing. -/
theorem ofSteps_eq_error_iff {e : BuildError} :
    ofSteps steps = .error e ↔
      BuildStep.unmet steps ≠ [] ∧ e = .missingDefaults (BuildStep.unmet steps) := by
  rw [ofSteps, RegistryBuilder.build, missing_run]
  cases BuildStep.unmet steps with
  | nil => simp
  | cons name rest => simp [eq_comm]

/-- A build fails exactly if the last expectation that its steps state has a name under which none
of them registers an app to run by default. It then tells just these names, as they come in the
expectation. Where the expectations stand among the other steps makes no difference to the build. -/
theorem build_fails_iff (steps : List BuildStep) :
    ((∃ e, ofSteps steps = .error e) ↔
      ∃ names, (steps.filterMap BuildStep.expected?).getLast? = some names ∧
        ∃ name ∈ names, ∀ app, .registerDefault app ∈ steps → app.name ≠ name) ∧
    (∀ e, ofSteps steps = .error e →
      ∃ names, (steps.filterMap BuildStep.expected?).getLast? = some names ∧
        e = .missingDefaults (names.filter fun name =>
          !(steps.filterMap BuildStep.defaultName?).contains name)) ∧
    ∀ steps', steps'.filter (!·.isExpectation) = steps.filter (!·.isExpectation) →
      steps'.filterMap BuildStep.expected? = steps.filterMap BuildStep.expected? →
      ofSteps steps' = ofSteps steps := by
  refine ⟨?_, fun e he => ?_, fun steps' hothers hexpected => ?_⟩
  · have hfails : (∃ e, ofSteps steps = .error e) ↔ BuildStep.unmet steps ≠ [] := by
      simp [ofSteps_eq_error_iff]
    exact hfails.trans BuildStep.unmet_ne_nil_iff
  · obtain ⟨hunmet, rfl⟩ := ofSteps_eq_error_iff.mp he
    rw [BuildStep.unmet] at hunmet ⊢
    cases hlast : (steps.filterMap BuildStep.expected?).getLast? with
    | none =>
      rw [hlast] at hunmet
      exact absurd rfl hunmet
    | some names => exact ⟨names, rfl, rfl⟩
  · rw [ofSteps_eq_build, hothers, hexpected, ← ofSteps_eq_build]

end Registry

/-! ### An expectation that is stated too early -/

namespace Sample

/-- Two names are expected that no app is registered by default with, one of them twice. The other
two become default names only later, and one of these apps is replaced. -/
def hasty : List BuildStep := [
  .expectDefaults ["ghost"], .expectDefaults ["probe", "tap", "audit", "ghost", "tap"],
  .registerDefault (.plain "probe"), .register (.plain "tap"),
  .registerDefault (.plain "audit"), .register (.plain "probe")]

/-- The same with the expectations later on. -/
def patient : List BuildStep := [
  .registerDefault (.plain "probe"), .expectDefaults ["ghost"], .register (.plain "tap"),
  .registerDefault (.plain "audit"), .register (.plain "probe"),
  .expectDefaults ["probe", "tap", "audit", "ghost", "tap"]]

end Sample

namespace Registry

/-- Early or late, the names that are missing are told as the last expectation has them. -/
theorem sample_hasty :
    Sample.patient.filter (!·.isExpectation) = Sample.hasty.filter (!·.isExpectation) ∧
    Sample.patient.filterMap BuildStep.expected? = Sample.hasty.filterMap BuildStep.expected? ∧
    ofSteps Sample.hasty = .error (.missingDefaults ["tap", "ghost", "tap"]) ∧
    ofSteps Sample.patient = .error (.missingDefaults ["tap", "ghost", "tap"]) := by
  obtain ⟨hfails, hmissing, hmoved⟩ := build_fails_iff Sample.hasty
  obtain ⟨e, he⟩ := hfails.mpr ⟨_, rfl, "ghost", by decide, fun app happ => by
    simp only [Sample.hasty, List.mem_cons, List.not_mem_nil, reduceCtorEq, or_false, false_or,
      BuildStep.registerDefault.injEq] at happ
    rcases happ with rfl | rfl
    all_goals decide⟩
  obtain ⟨names, hnames, rfl⟩ := hmissing e he
  cases hnames
  exact ⟨rfl, rfl, he, (hmoved Sample.patient rfl rfl).trans he⟩

end Registry
end LabLifecycle

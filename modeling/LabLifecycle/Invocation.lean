import LabLifecycle.Stage

/-!
# Invocation options

A caller passes a list of single options; they are folded in order, so the last one of a
kind counts. The same record tells a scenario app its name and whether this is a dry run.
-/
namespace LabLifecycle

/-- A single option of a call. -/
inductive InvocationOption where
  | stage (s : Stage)
  | dryRun (enabled : Bool)
  | name (n : String)
  deriving DecidableEq, Repr

/-- The stage that an option gives. -/
def InvocationOption.stage? : InvocationOption → Option Stage
  | .stage s => some s
  | .dryRun _ | .name _ => none

/-- The dry-run switch that an option gives. -/
def InvocationOption.dryRun? : InvocationOption → Option Bool
  | .dryRun enabled => some enabled
  | .stage _ | .name _ => none

/-- The options of a call taken together. -/
structure Invocation where
  stage : Option Stage := none
  dryRun : Bool := false
  name : Option String := none
  deriving DecidableEq, Repr, Inhabited

namespace Invocation

/-- One more option. -/
def apply (i : Invocation) : InvocationOption → Invocation
  | .stage s => { i with stage := some s }
  | .dryRun enabled => { i with dryRun := enabled }
  | .name n => { i with name := some n }

/-- The options of a list; the last one of a kind counts. -/
def ofOptions (options : List InvocationOption) : Invocation := options.foldl apply {}

/-- Folding in more options: of those that give a field a value, the last one counts, and if there
is none the field stays as it was. -/
theorem field_foldl_apply {α β : Type} (field : Invocation → β) (given : InvocationOption → Option α)
    (put : α → β) (h : ∀ i option, field (i.apply option) = ((given option).map put).getD (field i))
    (options : List InvocationOption) (i : Invocation) :
    field (options.foldl apply i) = ((options.filterMap given).getLast?.map put).getD (field i) := by
  induction options generalizing i with
  | nil => rfl
  | cons option rest ih =>
    rw [List.foldl_cons, ih, h]
    cases hgiven : given option with
    | none => rw [List.filterMap_cons_none hgiven, Option.map_none, Option.getD_none]
    | some value =>
      rw [List.filterMap_cons_some hgiven, List.getLast?_cons]
      cases (rest.filterMap given).getLast? <;> rfl

/-- The stage of a call is the last one given. -/
theorem stage_ofOptions (options : List InvocationOption) :
    (ofOptions options).stage = (options.filterMap InvocationOption.stage?).getLast? := by
  have hstage := field_foldl_apply stage InvocationOption.stage? some
    (fun i option => by cases option <;> rfl) options {}
  rw [ofOptions, hstage]
  cases (options.filterMap InvocationOption.stage?).getLast? <;> rfl

/-- The dry-run switch of a call is the last one given, or else it is off. -/
theorem dryRun_ofOptions (options : List InvocationOption) :
    (ofOptions options).dryRun =
      (options.filterMap InvocationOption.dryRun?).getLast?.getD false := by
  have hdryRun := field_foldl_apply dryRun InvocationOption.dryRun? id
    (fun i option => by cases option <;> rfl) options {}
  rw [ofOptions, hdryRun, Option.map_id_fun, id]

/-- Without a stage option a call has no stage. -/
theorem stage_ofOptions_eq_none {options : List InvocationOption}
    (h : ∀ stage, .stage stage ∉ options) : (ofOptions options).stage = none := by
  rw [stage_ofOptions, List.getLast?_eq_none_iff, List.filterMap_eq_nil_iff]
  intro option hoption
  cases option with
  | stage s => exact absurd hoption (h s)
  | dryRun enabled => rfl
  | name n => rfl

/-- What a scenario app is told before its hook: its name and whether this is a dry run. -/
def forApp (name : String) (dryRun : Bool) : Invocation :=
  ofOptions [.name name, .dryRun dryRun]

end Invocation
end LabLifecycle

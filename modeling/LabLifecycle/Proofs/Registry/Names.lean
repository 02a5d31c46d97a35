import LabLifecycle.Proofs.Hook.ExternalCommand
import LabLifecycle.Proofs.Registry.Settings
import LabLifecycle.Proofs.Text.ByteOrder

/-!
# The names that are offered

A registry offers the names that it has registered, besides the default ones, and the names of
the external commands that can be found. Default names are left out of the first only. So one of
them is offered after all if there is a command of its name, and the default apps that settings list
are such commands. What is offered comes in the order of its bytes, whatever the order was in which
it was registered or found.
-/
namespace LabLifecycle

/-- The names under which steps register apps. -/
def BuildStep.registeredNames (steps : List BuildStep) : List String :=
  (steps.filterMap registered?).map App.name

namespace Registry
variable (r : Registry) (finder : CommandFinder)

/-- Offered are the registered names that are not default ones, and those of commands. -/
theorem mem_names_iff (name : String) :
    name ∈ r.names finder ↔ ((r.get? name).isSome ∧ r.isDefault name = false) ∨
      name ∈ finder.find r.commandStart := by
  rw [names, SortedMap.mem_keys_ofList, List.map_map]
  simp [SortedMap.mem_keys_iff, get?]

/-- The names that are offered come in order, each of them once: the registered ones besides
the default ones, and those of commands. No default name is among them exactly if there is no
command of one. -/
theorem names_offer :
    (r.names finder).Pairwise (· < ·) ∧
    (∀ name, name ∈ r.names finder ↔ ((r.get? name).isSome ∧ r.isDefault name = false) ∨
      name ∈ finder.find r.commandStart) ∧
    ((∀ name ∈ r.names finder, r.isDefault name = false) ↔
      ∀ name ∈ finder.find r.commandStart, r.isDefault name = false) := by
  refine ⟨SortedMap.pairwise_keys _, r.mem_names_iff finder, ?_⟩
  constructor
  · intro hnone name hname
    exact hnone name ((r.mem_names_iff finder name).mpr (.inr hname))
  · intro hnone name hname
    rcases (r.mem_names_iff finder name).mp hname with ⟨-, hdefault⟩ | hfound
    · exact hdefault
    · exact hnone name hfound

/-! ### Whatever the order -/

section Order
variable {r r' : Registry} {finder finder' : CommandFinder} {steps steps' : List BuildStep}

/-- The names that are offered come byte by byte in ascending order. -/
theorem pairwise_names :
    (r.names finder).Pairwise fun name other => textBytes name < textBytes other :=
  (SortedMap.pairwise_keys _).imp textBytes_lt_iff.mpr

/-- What is offered is determined by which names are registered, default ones, and found. -/
theorem names_congr (hget : ∀ name, (r'.get? name).isSome = (r.get? name).isSome)
    (hdefault : ∀ name, r'.isDefault name = r.isDefault name)
    (hfound : ∀ name, name ∈ finder'.find r'.commandStart ↔ name ∈ finder.find r.commandStart) :
    r'.names finder' = r.names finder := by
  refine SortedMap.keys_eq_of_mem_iff fun name => ?_
  refine (r'.mem_names_iff finder' name).trans (Iff.trans ?_ (r.mem_names_iff finder name).symm)
  rw [hget, hdefault, hfound]

/-- A name is registered if some step registers an app with it. -/
theorem isSome_get?_iff (h : ofSteps steps = .ok r) {name : String} :
    (r.get? name).isSome ↔ name ∈ BuildStep.registeredNames steps := by
  rw [(ofSteps_reflects h).1, BuildStep.lastApp?, List.getLast?_isSome, Ne,
    List.filter_eq_nil_iff, BuildStep.registeredNames, List.mem_map]
  simp only [decide_eq_true_eq, Classical.not_forall, Classical.not_not, exists_prop]

/-- A name is a default one if some step makes it one. -/
theorem isDefault_iff (h : ofSteps steps = .ok r) {name : String} :
    r.isDefault name ↔ name ∈ steps.filterMap BuildStep.defaultName? := by
  rw [isDefault, (ofSteps_reflects h).2.1, BuildStep.defaultNames, List.contains_iff_mem,
    List.mem_eraseDups]

/-- In whatever order and however often the same names are registered, made default ones and found,
the same ones are offered. -/
theorem names_eq_of_steps (h : ofSteps steps = .ok r) (h' : ofSteps steps' = .ok r')
    (hregistered : ∀ name, name ∈ BuildStep.registeredNames steps' ↔
      name ∈ BuildStep.registeredNames steps)
    (hdefault : ∀ name, name ∈ steps'.filterMap BuildStep.defaultName? ↔
      name ∈ steps.filterMap BuildStep.defaultName?)
    (hfound : ∀ name, name ∈ finder'.find r'.commandStart ↔ name ∈ finder.find r.commandStart) :
    r'.names finder' = r.names finder := by
  refine names_congr (fun name => ?_) (fun name => ?_) hfound
  · rw [Bool.eq_iff_iff, isSome_get?_iff h, isSome_get?_iff h', hregistered]
  · rw [Bool.eq_iff_iff, isDefault_iff h, isDefault_iff h', hdefault]

/-- The names that are offered come in the order of their bytes, each of them once. All that are
registered or found and are no default ones are among them, and all of them are registered or found.
Nothing else matters: registries with the same registered names and the same default ones offer
the same if the same is found, in whatever order and however often all of it was registered and is
found. -/
theorem names_complete (r : Registry) (finder : CommandFinder) :
    ((r.names finder).Pairwise fun name other => textBytes name < textBytes other) ∧
    (r.names finder).Nodup ∧
    (∀ name, r.isDefault name = false →
      (r.get? name).isSome ∨ name ∈ finder.find r.commandStart → name ∈ r.names finder) ∧
    (∀ name ∈ r.names finder, (r.get? name).isSome ∨ name ∈ finder.find r.commandStart) ∧
    ∀ (r' : Registry) (finder' : CommandFinder),
      (∀ name, name ∈ finder'.find r'.commandStart ↔ name ∈ finder.find r.commandStart) →
      ((∀ name, (r'.get? name).isSome = (r.get? name).isSome) →
        (∀ name, r'.isDefault name = r.isDefault name) → r'.names finder' = r.names finder) ∧
      ∀ steps steps', ofSteps steps = .ok r → ofSteps steps' = .ok r' →
        (∀ name, name ∈ BuildStep.registeredNames steps' ↔
          name ∈ BuildStep.registeredNames steps) →
        (∀ name, name ∈ steps'.filterMap BuildStep.defaultName? ↔
          name ∈ steps.filterMap BuildStep.defaultName?) →
        r'.names finder' = r.names finder := by
  refine ⟨pairwise_names, SortedMap.nodup_keys _, fun name hdefault hoffered => ?_,
    fun name hname => ?_, fun r' finder' hfound => ⟨?_, ?_⟩⟩
  · exact (r.mem_names_iff finder name).mpr (hoffered.imp_left fun hget => ⟨hget, hdefault⟩)
  · exact ((r.mem_names_iff finder name).mp hname).imp_left And.left
  · intro hget hdefault
    exact names_congr hget hdefault hfound
  · intro steps steps' h h' hregistered hdefault
    exact names_eq_of_steps h h' hregistered hdefault hfound

end Order

end Registry

namespace Sample

/-- A default app and two others. -/
def stock : List BuildStep := [
  .registerDefault (.plain "ntp"), .register (.plain "tap"), .register (.plain "étape")]

/-- The same names in another order, and one of them twice. -/
def restock : List BuildStep := [
  .register (.plain "étape"), .register (.missing "tap"), .registerDefault (.plain "ntp"),
  .register (.plain "tap")]

/-- A finder that reports the same names whatever they start with. -/
def reporting (names : List String) : CommandFinder := ⟨fun _ => names, fun _ => none⟩

end Sample

namespace Registry

/-- Both orders lead to the same offer. The letter beyond ASCII comes last, and the default app is
offered for its command. -/
theorem sample_stock : ∃ r r', ofSteps Sample.stock = .ok r ∧ ofSteps Sample.restock = .ok r' ∧
    r.names (Sample.reporting ["wall", "tap", "ntp"]) = ["ntp", "tap", "wall", "étape"] ∧
    r'.names (Sample.reporting ["ntp", "wall", "wall", "tap"]) =
      r.names (Sample.reporting ["wall", "tap", "ntp"]) := by
  obtain ⟨r, hr⟩ : ∃ r, ofSteps Sample.stock = .ok r := ⟨_, rfl⟩
  obtain ⟨r', hr'⟩ : ∃ r', ofSteps Sample.restock = .ok r' := ⟨_, rfl⟩
  have hfound : ∀ name, name ∈ ["ntp", "wall", "wall", "tap"] ↔ name ∈ ["wall", "tap", "ntp"] := by
    grind
  have hregistered : ∀ name, name ∈ ["étape", "tap", "ntp", "tap"] ↔
      name ∈ ["ntp", "tap", "étape"] := by grind
  obtain ⟨-, -, -, -, hsame⟩ := names_complete r (Sample.reporting ["wall", "tap", "ntp"])
  refine ⟨r, r', hr, hr', ?_, ?_⟩
  · cases hr
    decide
  · exact (hsame r' (Sample.reporting ["ntp", "wall", "wall", "tap"]) hfound).2 Sample.stock
      Sample.restock hr hr' hregistered fun _ => Iff.rfl

end Registry

/-! ### Default apps that settings list -/

namespace EngineConfig
/-- A default app that the settings list is offered if its command is found. -/
theorem command_of_default_offered :
    ∃ r, Registry.ofSteps (steps { defaultApps := ["ntp"] } (Sample.workshop { code := some 0 })) =
        .ok r ∧
      r.isDefault "ntp" = true ∧
      r.names ⟨fun start => ["stagehand-app-ntp", "stagehand-app-tap"].filterMap
        (CommandSearch.remainder? start), fun _ => none⟩ = ["ntp", "tap"] :=
  ⟨_, rfl, rfl, by decide⟩

end EngineConfig
end LabLifecycle

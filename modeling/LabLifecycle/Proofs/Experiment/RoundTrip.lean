import LabLifecycle.Proofs.Experiment.Codecs
import LabLifecycle.Proofs.Json.Documents

/-!
# Experiments written and read again

An experiment comes back unchanged from both documents that are written of it: the compact one
that a command is given, and the indented one that is put out at the end. It may hold anything,
as long as the numbers in its free-form data are integers of 64 bits and it is not nested too
deep to be read. What is read keeps to the depth by itself, and its integers to 64 bits, so an
experiment that was read without a floating-point number is stable.
-/
namespace LabLifecycle

open Json

/-! ### Numbers in what is written -/

namespace Json
variable {α : Type} (name : String) (encode : α → Value)

theorem numbers_optional (a : Option α) : (optional name encode a).flatMap (·.2.numbers) =
    a.toList.flatMap fun x => (encode x).numbers := by
  cases a <;> rfl

theorem numbers_nonempty (l : List α) : (nonempty name encode l).flatMap (·.2.numbers) =
    l.flatMap fun x => (encode x).numbers := by
  cases l with
  | nil => rfl
  | cons a l => simp [nonempty, Value.numbers_array_eq, List.flatMap_map]

theorem numbers_nonemptyMap (m : TextMap) :
    (nonemptyMap name m).flatMap (·.2.numbers) = [] := by
  unfold nonemptyMap
  split
  · rfl
  · simp [ofTextMap, Value.numbers_object_eq, List.flatMap_map]

theorem numbers_nonnull (m : Metadata) :
    (nonnull name m).flatMap (·.2.numbers) = m.value.numbers := by
  unfold nonnull
  split
  · rename_i h
    unfold Metadata.isNull at h
    split at h
    · rename_i hnull
      simp [hnull, Value.numbers]
    · cases h
  · simp

/-- A word that a field of the topology can hold. -/
def Number.IsSmall (n : Number) : Prop := ∃ k : Nat, k < UInt32.size ∧ n = .int k

theorem fits_ofNat {k depth : Nat} (hk : k < UInt32.size) :
    (Value.ofNat k).Fits Number.IsSmall depth :=
  Value.fits_number.mpr ⟨k, hk, rfl⟩

theorem fits_nonemptyMap {p : Number → Prop} {depth : Nat} (m : TextMap) :
    ∀ e ∈ nonemptyMap name m, e.2.Fits p (depth + 1) := by
  unfold nonemptyMap
  split
  · exact nofun
  · simp only [List.mem_singleton, forall_eq, ofTextMap, Value.fits_object_succ,
      List.forall_mem_map]
    exact fun e _ => Value.fits_text e.2

end Json

/-! ### The extent of what is written -/

section Extent
variable {depth : Nat}

theorem Hardware.fits_toJson (h : Hardware) : h.toJson.Fits Number.IsSmall (depth + 1) := by
  rw [toJson, Value.fits_object_succ, List.forall_mem_append, List.forall_mem_append]
  exact ⟨⟨forall_mem_optional.mpr fun k _ => fits_ofNat k.toNat_lt_size,
    forall_mem_optional.mpr fun k _ => fits_ofNat k.toNat_lt_size⟩,
    forall_mem_optional.mpr fun s _ => Value.fits_text s⟩

theorem Interface.fits_toJson (i : Interface) : i.toJson.Fits Number.IsSmall (depth + 1) := by
  have htext : ∀ (name : String) (s : Option String),
      ∀ m ∈ optional name Value.text s, m.2.Fits Number.IsSmall depth := fun _ _ =>
    forall_mem_optional.mpr fun s _ => Value.fits_text s
  have hmask : ∀ m ∈ optional "mask" (fun k => Value.ofNat k.toNat) i.mask,
      m.2.Fits Number.IsSmall depth := forall_mem_optional.mpr fun k _ =>
    fits_ofNat (Nat.lt_trans k.toNat_lt_size (by decide))
  rw [toJson, Value.fits_object_succ]
  simp only [List.forall_mem_append]
  exact ⟨⟨⟨⟨by simp, htext _ _⟩, htext _ _⟩, hmask⟩, htext _ _⟩

theorem Node.fits_toJson (n : Node) : n.toJson.Fits Number.IsSmall (depth + 3) := by
  rw [toJson, Value.fits_object_succ]
  simp only [List.forall_mem_append]
  refine ⟨⟨⟨⟨by simp, forall_mem_optional.mpr fun s _ => Value.fits_text s⟩, ?_⟩, ?_⟩,
    fits_nonemptyMap _ _⟩
  · simpa using n.hardware.fits_toJson
  · rw [nonempty_eq_ite]
    split
    · exact nofun
    · simpa using fun i _ => Interface.fits_toJson i

theorem Topology.fits_toJson (t : Topology) : t.toJson.Fits Number.IsSmall (depth + 5) := by
  simpa [toJson] using fun n _ => Node.fits_toJson n

theorem ExperimentMetadata.fits_toJson {p : Number → Prop} (m : ExperimentMetadata) :
    m.toJson.Fits p (depth + 2) := by
  rw [toJson, Value.fits_object_succ, List.forall_mem_append]
  exact ⟨by simp, fits_nonemptyMap _ _⟩

end Extent

/-! ### Numbers in free-form data -/

/-- The free-form data of an app and of its hosts. -/
def ScenarioApp.freeform (a : ScenarioApp) : List Metadata :=
  a.metadata :: a.hosts.map (·.metadata)

namespace Experiment

/-- All free-form data of an experiment: that of the apps which its scenario declares. -/
def freeform (e : Experiment) : List Metadata :=
  e.spec.scenario.toList.flatMap fun s => s.apps.flatMap ScenarioApp.freeform

/-- The numbers in the free-form data. -/
def numbers (e : Experiment) : List Number := e.freeform.flatMap (·.value.numbers)

end Experiment

theorem ScenarioApp.numbers_toJson (a : ScenarioApp) :
    a.toJson.numbers = a.freeform.flatMap (·.value.numbers) := by
  have hhost : ∀ h : HostMetadata, h.toJson.numbers = h.metadata.value.numbers := by
    intro h
    simp [HostMetadata.toJson, Value.numbers_object_eq]
  simp [toJson, freeform, Value.numbers_object_eq, numbers_nonnull, numbers_nonempty, hhost,
    List.flatMap_map]

/-- The numbers that are written of an experiment are small ones, or in its free-form data. -/
theorem Experiment.mem_numbers_toJson {e : Experiment} {x : Number} :
    x ∈ e.toJson.numbers ↔ x ∈ e.spec.topology.toJson.numbers ∨ x ∈ e.numbers := by
  have hscenario : ∀ s : Scenario, s.toJson.numbers =
      (s.apps.flatMap ScenarioApp.freeform).flatMap (·.value.numbers) := by
    intro s
    simp [Scenario.toJson, Value.numbers_object_eq, Value.numbers_array_eq, List.flatMap_map,
      ScenarioApp.numbers_toJson, List.flatMap_assoc]
  have hname : e.metadata.toJson.numbers = [] := by
    simp [ExperimentMetadata.toJson, Value.numbers_object_eq, numbers_nonemptyMap]
  have hspec : e.spec.toJson.numbers = e.spec.topology.toJson.numbers ++ e.numbers := by
    simp [ExperimentSpec.toJson, Value.numbers_object_eq, numbers_optional, hscenario, numbers,
      freeform, List.flatMap_assoc]
  simp [toJson, Value.numbers_object_eq, hname, hspec]

theorem Json.Number.IsSmall.isInt {n : Number} (h : n.IsSmall) : n.IsInt := by
  obtain ⟨k, -, rfl⟩ := h
  trivial

theorem Json.Number.IsSmall.inRange {n : Number} (h : n.IsSmall) : n.InRange := by
  obtain ⟨k, hk, rfl⟩ := h
  have hk : k < 0x100000000 := hk
  simp only [InRange]
  omega

/-! ### The round trip -/

namespace Experiment

/-- An experiment with integers of 64 bits comes back from what is written of it. -/
theorem decode_documents {e : Experiment} (hnumbers : ∀ n ∈ e.numbers, n.IsInt ∧ n.InRange)
    (hnesting : e.toJson.nesting ≤ depthLimit) (l : Layout) {space : Bytes}
    (hspace : ∀ b ∈ space, isSpace b = true) :
    decode (e.print l ++ space) = .ok e := by
  refine decode_print ⟨hnesting, fun n hn => ?_⟩ (inverts.reads depthLimit e hnesting) hspace
  rcases mem_numbers_toJson.mp hn with hn | hn
  · have htopology : e.spec.topology.toJson.Fits Number.IsSmall 5 := Topology.fits_toJson _
    have hsmall := htopology.numbers n hn
    exact ⟨hsmall.isInt, hsmall.inRange⟩
  · exact hnumbers n hn

theorem textBytes_text (e : Experiment) (l : Layout) : textBytes (e.text l) = e.print l :=
  textBytes_printString l e.toJson

/-- What is decoded fits what is decoded, and its integers have 64 bits. -/
theorem fits_of_decode {document : Bytes} {e : Experiment} (h : decode document = .ok e) :
    e.toJson.Fits Number.InRange depthLimit :=
  inverts.fits _ depthLimit _ e (by decide) (inRange_read document) (of_decode h)

/-- Both documents that are written of an experiment are read as the same experiment: the one
on one line, which commands are given, and the indented one, which is put out with a line end
after it. -/
theorem documents_read_back :
    (∀ e : Experiment, (∀ n ∈ e.numbers, n.IsInt ∧ n.InRange) → e.toJson.nesting ≤ depthLimit →
      (∀ l, decode (e.print l) = .ok e) ∧
      decode (textBytes (e.text .indented ++ "\n")) = .ok e) ∧
    (∀ document e, decode document = .ok e → e.toJson.nesting ≤ depthLimit ∧
      ((∀ n ∈ e.numbers, n.IsInt) →
        (∀ l, decode (e.print l) = .ok e) ∧
        decode (textBytes (e.text .indented ++ "\n")) = .ok e)) := by
  have htrip : ∀ e : Experiment, (∀ n ∈ e.numbers, n.IsInt ∧ n.InRange) →
      e.toJson.nesting ≤ depthLimit → (∀ l, decode (e.print l) = .ok e) ∧
        decode (textBytes (e.text .indented ++ "\n")) = .ok e := by
    intro e hnumbers hnesting
    constructor
    · intro l
      have h : decode (e.print l ++ []) = .ok e := decode_documents hnumbers hnesting l nofun
      rwa [List.append_nil] at h
    · rw [textBytes_append, textBytes_text]
      exact decode_documents hnumbers hnesting .indented (List.all_eq_true.mp (by decide))
  refine ⟨htrip, fun document e h => ?_⟩
  have hfits := fits_of_decode h
  refine ⟨hfits.nesting, fun hint => htrip e (fun n hn => ⟨hint n hn, ?_⟩) hfits.nesting⟩
  exact hfits.numbers n (mem_numbers_toJson.mpr (Or.inr hn))

end Experiment

/-! ### An experiment with numbers at both ends of the range -/

namespace Sample

/-- Two nodes of one name, an annotation without text, and an app with limits. -/
def survey : Experiment where
  metadata := { name := "lab \"7\"\n", annotations := SortedMap.empty.insert "owner" "" }
  spec := {
    topology := ⟨[
      { hostname := "gate", hardware := { vcpus := some 0 }, interfaces := [{ name := "eth0" }] },
      { hostname := "gate" }]⟩
    scenario := some ⟨[{
      name := "tap"
      metadata := .ofValue <| .object [("limits",
        .array [.ofInt (-0x8000000000000000), .ofInt 0xFFFFFFFFFFFFFFFF, .object []])]
      hosts := [{ hostname := "gate" }] }]⟩ }

end Sample

namespace Experiment

/-- The survey satisfies what the round trip asks for, and comes back. -/
theorem sample_round_trip :
    (∀ n ∈ Sample.survey.numbers, n.IsInt ∧ n.InRange) ∧
    Sample.survey.toJson.nesting ≤ depthLimit ∧
    (∀ l, decode (Sample.survey.print l) = .ok Sample.survey) ∧
    decode (textBytes (Sample.survey.text .indented ++ "\n")) = .ok Sample.survey := by
  have hnumbers : Sample.survey.numbers =
      [.int (-0x8000000000000000), .int 0xFFFFFFFFFFFFFFFF] := rfl
  have hrange : ∀ n ∈ Sample.survey.numbers, n.IsInt ∧ n.InRange := by
    rw [hnumbers]
    simp [Number.IsInt, Number.InRange]
  have hnesting : Sample.survey.toJson.nesting ≤ depthLimit := by decide
  exact ⟨hrange, hnesting, documents_read_back.1 Sample.survey hrange hnesting⟩

end Experiment
end LabLifecycle

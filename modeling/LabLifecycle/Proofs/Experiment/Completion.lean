import LabLifecycle.Proofs.Experiment.Defaults
import LabLifecycle.Proofs.Experiment.RoundTrip
import LabLifecycle.Proofs.Json.FloatText

/-!
# Filling in the defaults

Filling in the defaults completes the topology of an experiment and changes nothing else. What was
given stays, so doing it again does nothing, and it makes no difference whether it is done before
an experiment is written or after it has been read again.
-/
namespace LabLifecycle

open Json

/-! ### What filling in is -/

/-- A field keeps what was given, and has the default if nothing was. -/
structure FilledWith {α : Type} (default : α) (given filled : Option α) : Prop where
  kept : ∀ a, given = some a → filled = some a
  defaulted : given = none → filled = some default

theorem filledWith_iff {α : Type} {default : α} {given filled : Option α} :
    FilledWith default given filled ↔ filled = orDefault given default := by
  constructor
  · intro h
    cases given with
    | none => exact h.defaulted rfl
    | some a => exact h.kept a rfl
  · rintro rfl
    exact ⟨by rintro a rfl; rfl, by rintro rfl; rfl⟩

/-- The fields of the hardware with their defaults. -/
structure Hardware.Filled (given filled : Hardware) : Prop where
  vcpus : FilledWith 1 given.vcpus filled.vcpus
  memoryMb : FilledWith 1024 given.memoryMb filled.memoryMb
  osType : FilledWith "linux" given.osType filled.osType

/-- The protocol is the only field of an interface with a default. -/
structure Interface.Filled (given filled : Interface) : Prop where
  name : filled.name = given.name
  vlan : filled.vlan = given.vlan
  address : filled.address = given.address
  mask : filled.mask = given.mask
  proto : FilledWith "static" given.proto filled.proto

/-- The type, the hardware and the interfaces of a node, one by one. -/
structure Node.Filled (given filled : Node) : Prop where
  hostname : filled.hostname = given.hostname
  vmType : FilledWith "kvm" given.vmType filled.vmType
  hardware : given.hardware.Filled filled.hardware
  interfaces : List.Forall₂ Interface.Filled given.interfaces filled.interfaces
  labels : filled.labels = given.labels

/-- The nodes are filled one by one, and everything else is the same. -/
structure Experiment.Filled (given filled : Experiment) : Prop where
  metadata : filled.metadata = given.metadata
  nodes : List.Forall₂ Node.Filled given.nodes filled.nodes
  scenario : filled.spec.scenario = given.spec.scenario

theorem forall₂_iff_eq_map {α β : Type} {p : α → β → Prop} {f : α → β}
    (h : ∀ a b, p a b ↔ b = f a) {as : List α} {bs : List β} :
    List.Forall₂ p as bs ↔ bs = as.map f := by
  induction as generalizing bs with
  | nil => exact List.forall₂_nil_left_iff
  | cons a as ih => cases bs <;> simp [h, ih]

/-! ### Filling in does just that -/

theorem Hardware.filled_iff {given filled : Hardware} :
    given.Filled filled ↔ filled = given.setDefaults := by
  constructor
  · intro h
    cases filled
    simp only [setDefaults, mk.injEq]
    exact ⟨filledWith_iff.mp h.vcpus, filledWith_iff.mp h.memoryMb, filledWith_iff.mp h.osType⟩
  · rintro rfl
    exact ⟨filledWith_iff.mpr rfl, filledWith_iff.mpr rfl, filledWith_iff.mpr rfl⟩

theorem Interface.filled_iff {given filled : Interface} :
    given.Filled filled ↔ filled = given.setDefaults := by
  constructor
  · intro h
    cases filled
    simp only [setDefaults, mk.injEq]
    exact ⟨h.name, h.vlan, h.address, h.mask, filledWith_iff.mp h.proto⟩
  · rintro rfl
    exact ⟨rfl, rfl, rfl, rfl, filledWith_iff.mpr rfl⟩

theorem Node.filled_iff {given filled : Node} :
    given.Filled filled ↔ filled = given.setDefaults := by
  have hinterfaces : ∀ {is js : List Interface},
      List.Forall₂ Interface.Filled is js ↔ js = is.map Interface.setDefaults :=
    forall₂_iff_eq_map (f := Interface.setDefaults) fun _ _ => Interface.filled_iff
  constructor
  · intro h
    cases filled
    simp only [setDefaults, mk.injEq]
    exact ⟨h.hostname, filledWith_iff.mp h.vmType, Hardware.filled_iff.mp h.hardware,
      hinterfaces.mp h.interfaces, h.labels⟩
  · rintro rfl
    exact ⟨rfl, filledWith_iff.mpr rfl, Hardware.filled_iff.mpr rfl, hinterfaces.mpr rfl, rfl⟩

theorem Experiment.filled_iff {given filled : Experiment} :
    given.Filled filled ↔ filled = given.setDefaults := by
  have hnodes : ∀ {ns ms : List Node},
      List.Forall₂ Node.Filled ns ms ↔ ms = ns.map Node.setDefaults :=
    forall₂_iff_eq_map (f := Node.setDefaults) fun _ _ => Node.filled_iff
  constructor
  · rintro ⟨hmetadata, hfilled, hscenario⟩
    obtain ⟨metadata, ⟨⟨nodes⟩, scenario⟩⟩ := filled
    have hmap : nodes = given.nodes.map Node.setDefaults := hnodes.mp hfilled
    have hmetadata : metadata = given.metadata := hmetadata
    have hscenario : scenario = given.spec.scenario := hscenario
    rw [hmap, hmetadata, hscenario]
    rfl
  · rintro rfl
    exact ⟨rfl, hnodes.mpr rfl, rfl⟩

/-! ### Complete experiments -/

theorem orDefault_of_isSome {α : Type} {field : Option α} (h : field.isSome) (default : α) :
    orDefault field default = field := by
  cases field with
  | none => cases h
  | some a => rfl

theorem Hardware.setDefaults_of_complete {h : Hardware} (hc : h.Complete) : h.setDefaults = h := by
  rw [setDefaults, orDefault_of_isSome hc.vcpus, orDefault_of_isSome hc.memoryMb,
    orDefault_of_isSome hc.osType]

theorem Node.setDefaults_of_complete {n : Node} (h : n.Complete) : n.setDefaults = n := by
  have hinterfaces : n.interfaces.map Interface.setDefaults = n.interfaces := by
    refine (List.map_congr_left fun i hi => ?_).trans (List.map_id _)
    rw [Interface.setDefaults, orDefault_of_isSome (h.proto i hi), id]
  rw [setDefaults, orDefault_of_isSome h.vmType, Hardware.setDefaults_of_complete h.hardware,
    hinterfaces]

theorem Experiment.setDefaults_eq_self_iff {e : Experiment} : e.setDefaults = e ↔ e.Complete := by
  constructor
  · intro h
    rw [← h]
    exact e.complete_setDefaults
  · intro h
    have hnodes : e.spec.topology.nodes.map Node.setDefaults = e.spec.topology.nodes := by
      refine (List.map_congr_left fun n hn => ?_).trans (List.map_id _)
      exact Node.setDefaults_of_complete (h n hn)
    rw [setDefaults, ExperimentSpec.setDefaults, Topology.setDefaults, hnodes]

/-! ### Documents -/

section Reading
variable {depth : Nat} {r r' : Reading}

/-- The fields of an experiment are decoded one after the other. -/
theorem Experiment.ofJson_object {m : ExperimentMetadata}
    (hm : ExperimentMetadata.ofJson depth r = .ok m) :
    ofJson (depth + 1) (.object [(.ok "metadata", r), (.ok "spec", r')] .closed) =
      (ExperimentSpec.ofJson depth r').map fun s => ⟨m, s⟩ := by
  rw [ofJson, Record.decode, descend, Record.readMembers_slot rfl rfl, hm, ok_bind,
    Record.readMembers_slot rfl rfl]
  cases ExperimentSpec.ofJson depth r' <;> rfl

theorem ExperimentSpec.ofJson_topology {t : Topology} (ht : Topology.ofJson depth r = .ok t) :
    ofJson (depth + 1) (.object [(.ok "topology", r)] .closed) = .ok ⟨t, none⟩ := by
  rw [ofJson, Record.decode, descend, Record.readMembers_slot rfl rfl, ht, ok_bind]
  rfl

theorem ExperimentSpec.ofJson_scenario {t : Topology} (ht : Topology.ofJson depth r = .ok t) :
    ofJson (depth + 1) (.object [(.ok "topology", r), (.ok "scenario", r')] .closed) =
      (Decoder.option Scenario.ofJson depth r').map fun s => ⟨t, s⟩ := by
  rw [ofJson, Record.decode, descend, Record.readMembers_slot rfl rfl, ht, ok_bind,
    Record.readMembers_slot rfl rfl]
  cases Decoder.option Scenario.ofJson depth r' <;> rfl

end Reading

theorem Topology.reads (t : Topology) (l : Layout) :
    ReadsAs l t.toJson t.toJson.reading ∧ ofJson 125 t.toJson.reading = .ok t := by
  have hfits : t.toJson.Fits Number.IsSmall 5 := t.fits_toJson
  refine ⟨readsBack_of_fits (hfits.mono fun n hn => ⟨hn.isInt, hn.inRange⟩), ?_⟩
  exact inverts.reads 125 t (Nat.le_trans hfits.nesting (by decide))

theorem ExperimentMetadata.reads (m : ExperimentMetadata) (l : Layout) :
    ReadsAs l m.toJson m.toJson.reading ∧ ofJson 126 m.toJson.reading = .ok m := by
  have hfits : m.toJson.Fits (fun n => n.IsInt ∧ n.InRange) 2 := m.fits_toJson
  exact ⟨readsBack_of_fits hfits, inverts.reads 126 m (Nat.le_trans hfits.nesting (by decide))⟩

namespace Experiment

/-- What is written of a spec is decoded beside the metadata, which come back. -/
theorem decode_print_of_readsAs {m : ExperimentMetadata} {spec : ExperimentSpec} {l : Layout}
    {r : Reading} (h : ReadsAs l spec.toJson r) :
    decode (print ⟨m, spec⟩ l) = (ExperimentSpec.ofJson 126 r).map fun s => ⟨m, s⟩ := by
  obtain ⟨hreads, hm⟩ := m.reads l
  have hwhole : ReadsAs l (toJson ⟨m, spec⟩)
      (.object [(.ok "metadata", m.toJson.reading), (.ok "spec", r)] .closed) :=
    readsAs_object (.cons ⟨rfl, hreads⟩ (.cons ⟨rfl, h⟩ .nil))
  have hdecode : decode (print ⟨m, spec⟩ l ++ []) = _ := decode_of_readsAs hwhole nofun
  rw [List.append_nil] at hdecode
  rw [hdecode]
  exact ofJson_object hm

/-- The topology comes back whatever it is, beside whatever the scenario is read as. The numbers in
the scenario may be read as others, or not at all. -/
theorem decode_print_topology (m : ExperimentMetadata) (scenario : Option Scenario) (l : Layout) :
    ∃ result : Except Fault (Option Scenario), ∀ t : Topology,
      decode (print ⟨m, ⟨t, scenario⟩⟩ l) = result.map fun s => ⟨m, ⟨t, s⟩⟩ := by
  cases scenario with
  | none =>
    refine ⟨.ok none, fun t => ?_⟩
    obtain ⟨hreads, ht⟩ := t.reads l
    have hspec : ReadsAs l (ExperimentSpec.toJson ⟨t, none⟩)
        (.object [(.ok "topology", t.toJson.reading)] .closed) :=
      readsAs_object (.cons ⟨rfl, hreads⟩ .nil)
    rw [decode_print_of_readsAs hspec, ExperimentSpec.ofJson_topology ht]
    rfl
  | some s =>
    obtain ⟨r, hr⟩ := exists_readsAs (l := l) s.toJson
    refine ⟨Decoder.option Scenario.ofJson 125 r, fun t => ?_⟩
    obtain ⟨hreads, ht⟩ := t.reads l
    have hspec : ReadsAs l (ExperimentSpec.toJson ⟨t, some s⟩)
        (.object [(.ok "topology", t.toJson.reading), (.ok "scenario", r)] .closed) :=
      readsAs_object (.cons ⟨rfl, hreads⟩ (.cons ⟨rfl, hr⟩ .nil))
    rw [decode_print_of_readsAs hspec, ExperimentSpec.ofJson_scenario ht]
    cases Decoder.option Scenario.ofJson 125 r <;> rfl

theorem decode_print_setDefaults (e : Experiment) (l : Layout) :
    decode (e.setDefaults.print l) = (decode (e.print l)).map setDefaults := by
  obtain ⟨result, hresult⟩ := decode_print_topology e.metadata e.spec.scenario l
  have hgiven : decode (e.print l) = _ := hresult e.spec.topology
  have hfilled : decode (e.setDefaults.print l) = _ := hresult e.spec.topology.setDefaults
  rw [hgiven, hfilled]
  cases result <;> rfl

/-- Filling in the defaults completes every node and every interface, keeps each field that was
given, gives each open field its one default, and leaves everything else as it is. So it changes
nothing exactly if nothing is open, it is done once and for all, and it may be done before an
experiment is written or after it was read again, whatever comes back then. -/
theorem setDefaults_completes (e : Experiment) :
    e.setDefaults.Complete ∧
    (∀ e', e.Filled e' ↔ e' = e.setDefaults) ∧
    (e.setDefaults = e ↔ e.Complete) ∧
    e.setDefaults.setDefaults = e.setDefaults ∧
    ∀ l, decode (e.setDefaults.print l) = (decode (e.print l)).map setDefaults := by
  refine ⟨e.complete_setDefaults, fun e' => filled_iff, setDefaults_eq_self_iff, ?_,
    e.decode_print_setDefaults⟩
  exact setDefaults_eq_self_iff.mpr e.complete_setDefaults

/-- A number of processors that is given stays, even if it is zero. -/
example : Sample.survey.setDefaults.nodes.map (fun n => (n.vmType, n.hardware)) =
    [(some "kvm", ⟨some 0, some 1024, some "linux"⟩),
      (some "kvm", ⟨some 1, some 1024, some "linux"⟩)] := rfl

end Experiment
end LabLifecycle

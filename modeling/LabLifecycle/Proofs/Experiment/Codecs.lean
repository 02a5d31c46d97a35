import LabLifecycle.Proofs.Json.Records

/-!
# The encoders of an experiment and its parts

Every part of an experiment is inverted by its decoder. For each record this takes three
steps: its members fill a draft from which the value is built again; the blank draft fits; and
each slot, once filled, changes nothing but its own member.
-/
namespace LabLifecycle

open Json Json.Record

/-! ### Slots that are left out -/

theorem join_map_some {α : Type} (a : Option α) : (a.map some).join = a := by
  cases a <;> rfl

theorem getD_unless {α : Type} {c : Bool} {a default : α} (h : c = true → a = default) :
    (if c then none else some a).getD default = a := by
  cases c with
  | true => exact (h rfl).symm
  | false => rfl

theorem getD_list {α : Type} (l : List α) : (if l.isEmpty then none else some l).getD [] = l :=
  getD_unless List.isEmpty_iff.mp

theorem getD_map (m : TextMap) :
    (if m.isEmpty then none else some m).getD SortedMap.empty = m :=
  getD_unless fun h => SortedMap.ext (List.isEmpty_iff.mp h)

theorem getD_metadata (m : Metadata) :
    (if m.isNull then none else some m).getD Metadata.null = m := by
  refine getD_unless fun h => Metadata.ext ?_
  unfold Metadata.isNull at h
  split at h
  · assumption
  · cases h

/-! ### The topology -/

theorem Hardware.inverts : ofJson.Inverts toJson 1 := by
  refine Record.inverts ?_ ?_ ?_
  · intro depth h hnesting
    obtain ⟨hmost, hos⟩ := List.forall_mem_append.mp hnesting
    obtain ⟨hcpus, hmemory⟩ := List.forall_mem_append.mp hmost
    refine ⟨_, ((Takes.optional rfl Decoder.word32_inverts hcpus rfl rfl nofun).append
      (.optional rfl Decoder.word32_inverts hmemory rfl rfl nofun)).append
      (.optional rfl Decoder.text_inverts hos rfl rfl nofun), rfl, ?_⟩
    simp only [record, join_map_some]
  · intro p depth _
    simp [Written, record, Json.optional]
  · intro p depth hfloor
    refine ⟨keeps_slot (fits_optional Decoder.word32_inverts "vcpus" hfloor) ?_,
      keeps_slot (fits_optional Decoder.word32_inverts "memory_mb" hfloor) ?_,
      keeps_slot (fits_optional Decoder.text_inverts "os_type" hfloor) ?_⟩
    all_goals
      intro d b m hm
      simp only [record, Option.join_some, List.mem_append] at hm ⊢
      tauto

theorem Interface.inverts : ofJson.Inverts toJson 1 := by
  refine Record.inverts ?_ ?_ ?_
  · intro depth i hnesting
    obtain ⟨hmost, hproto⟩ := List.forall_mem_append.mp hnesting
    obtain ⟨hmost, hmask⟩ := List.forall_mem_append.mp hmost
    obtain ⟨hmost, haddress⟩ := List.forall_mem_append.mp hmost
    obtain ⟨hname, hvlan⟩ := List.forall_mem_append.mp hmost
    refine ⟨_, ((((Takes.slot rfl Decoder.text_inverts hname rfl).append
      (.optional rfl Decoder.text_inverts hvlan rfl rfl nofun)).append
      (.optional rfl Decoder.text_inverts haddress rfl rfl nofun)).append
      (.optional rfl Decoder.word8_inverts hmask rfl rfl nofun)).append
      (.optional rfl Decoder.text_inverts hproto rfl rfl nofun), rfl, ?_⟩
    simp only [record, join_map_some, Option.getD_some]
  · intro p depth _
    simp [Written, record, Json.optional]
  · intro p depth hfloor
    refine ⟨keeps_slot (fits_member Decoder.text_inverts "name" hfloor) ?_,
      keeps_slot (fits_optional Decoder.text_inverts "vlan" hfloor) ?_,
      keeps_slot (fits_optional Decoder.text_inverts "address" hfloor) ?_,
      keeps_slot (fits_optional Decoder.word8_inverts "mask" hfloor) ?_,
      keeps_slot (fits_optional Decoder.text_inverts "proto" hfloor) ?_⟩
    all_goals
      intro d b m hm
      simp only [record, Option.join_some, Option.getD_some, List.mem_append] at hm ⊢
      tauto

theorem Node.inverts : ofJson.Inverts toJson 3 := by
  refine Record.inverts ?_ ?_ ?_
  · intro depth n hnesting
    obtain ⟨hmost, hlabels⟩ := List.forall_mem_append.mp hnesting
    obtain ⟨hmost, hinterfaces⟩ := List.forall_mem_append.mp hmost
    obtain ⟨hmost, hhardware⟩ := List.forall_mem_append.mp hmost
    obtain ⟨hhostname, htype⟩ := List.forall_mem_append.mp hmost
    refine ⟨_, ((((Takes.slot rfl Decoder.text_inverts hhostname rfl).append
      (.optional rfl Decoder.text_inverts htype rfl rfl nofun)).append
      (.slot rfl Hardware.inverts hhardware rfl)).append
      (.nonempty rfl Interface.inverts hinterfaces rfl rfl)).append
      (.unless rfl Decoder.textMap_inverts hlabels rfl rfl), rfl, ?_⟩
    simp only [record, join_map_some, getD_list, getD_map, Option.getD_some]
  · intro p depth hfloor
    obtain ⟨depth, rfl⟩ := Nat.exists_eq_add_of_le' hfloor
    simp [Written, record, Json.optional, nonempty, nonemptyMap, SortedMap.isEmpty, SortedMap.empty,
      Hardware.toJson]
  · intro p depth hfloor
    refine ⟨keeps_slot (fits_member Decoder.text_inverts "hostname" (Nat.zero_le _)) ?_,
      keeps_slot (fits_optional Decoder.text_inverts "vm_type" (Nat.zero_le _)) ?_,
      keeps_slot (fits_member Hardware.inverts "hardware" (Nat.le_of_succ_le hfloor)) ?_,
      keeps_slot (fits_nonempty Interface.inverts "interfaces" hfloor) ?_,
      keeps_slot (fits_unless Decoder.textMap_inverts "labels" SortedMap.isEmpty (Nat.zero_le _))
        ?_⟩
    all_goals
      intro d b m hm
      simp only [record, nonemptyMap, Option.join_some, Option.getD_some, List.mem_append] at hm ⊢
      tauto

theorem Topology.inverts : ofJson.Inverts toJson 5 := by
  refine Record.inverts ?_ ?_ ?_
  · intro depth t hnesting
    exact ⟨_, Takes.slot rfl Node.inverts.list hnesting rfl, rfl, rfl⟩
  · intro p depth hfloor
    obtain ⟨depth, rfl⟩ := Nat.exists_eq_add_of_le' hfloor
    simp [Written, record]
  · intro p depth hfloor
    refine keeps_slot (fits_member Node.inverts.list "nodes" hfloor) ?_
    exact fun d b m hm => Or.inr hm

/-! ### The scenario -/

theorem HostMetadata.inverts : ofJson.Inverts toJson 1 := by
  refine Record.inverts ?_ ?_ ?_
  · intro depth h hnesting
    obtain ⟨hhostname, hmetadata⟩ := List.forall_mem_cons.mp hnesting
    exact ⟨_, (Takes.slot rfl Decoder.text_inverts (by simpa using hhostname) rfl).append
      (.slot rfl Decoder.metadata_inverts hmetadata rfl), rfl, rfl⟩
  · intro p depth _
    simp [Written, record, Metadata.null]
  · intro p depth hfloor
    refine ⟨keeps_slot (fits_member Decoder.text_inverts "hostname" hfloor) ?_,
      keeps_slot (fits_member Decoder.metadata_inverts "metadata" hfloor) ?_⟩
    all_goals
      intro d b m hm
      simp only [record, Option.getD_some, List.mem_cons] at hm ⊢
      tauto

theorem ScenarioApp.inverts : ofJson.Inverts toJson 3 := by
  refine Record.inverts ?_ ?_ ?_
  · intro depth a hnesting
    obtain ⟨hmost, hhosts⟩ := List.forall_mem_append.mp hnesting
    obtain ⟨hname, hmetadata⟩ := List.forall_mem_append.mp hmost
    refine ⟨_, ((Takes.slot rfl Decoder.text_inverts hname rfl).append
      (.unless rfl Decoder.metadata_inverts hmetadata rfl rfl)).append
      (.nonempty rfl HostMetadata.inverts hhosts rfl rfl), rfl, ?_⟩
    simp only [record, getD_list, getD_metadata, Option.getD_some]
  · intro p depth _
    simp [Written, record, nonnull, nonempty, Metadata.null, Metadata.isNull]
  · intro p depth hfloor
    refine ⟨keeps_slot (fits_member Decoder.text_inverts "name" (Nat.zero_le _)) ?_,
      keeps_slot (fits_unless Decoder.metadata_inverts "metadata" Metadata.isNull (Nat.zero_le _))
        ?_,
      keeps_slot (fits_nonempty HostMetadata.inverts "hosts" hfloor) ?_⟩
    all_goals
      intro d b m hm
      simp only [record, nonnull, Option.getD_some, List.mem_append] at hm ⊢
      tauto

theorem Scenario.inverts : ofJson.Inverts toJson 5 := by
  refine Record.inverts ?_ ?_ ?_
  · intro depth s hnesting
    exact ⟨_, Takes.slot rfl ScenarioApp.inverts.list hnesting rfl, rfl, rfl⟩
  · intro p depth hfloor
    obtain ⟨depth, rfl⟩ := Nat.exists_eq_add_of_le' hfloor
    simp [Written, record]
  · intro p depth hfloor
    refine keeps_slot (fits_member ScenarioApp.inverts.list "apps" hfloor) ?_
    exact fun d b m hm => Or.inr hm

/-! ### The experiment -/

theorem ExperimentSpec.inverts : ofJson.Inverts toJson 6 := by
  refine Record.inverts ?_ ?_ ?_
  · intro depth s hnesting
    obtain ⟨htopology, hscenario⟩ := List.forall_mem_append.mp hnesting
    refine ⟨_, (Takes.slot rfl Topology.inverts htopology rfl).append
      (.optional rfl Scenario.inverts hscenario rfl rfl nofun), rfl, ?_⟩
    simp only [record, join_map_some, Option.getD_some]
  · intro p depth hfloor
    obtain ⟨depth, rfl⟩ := Nat.exists_eq_add_of_le' hfloor
    simp [Written, record, Json.optional, Topology.toJson]
  · intro p depth hfloor
    refine ⟨keeps_slot (fits_member Topology.inverts "topology" hfloor) ?_,
      keeps_slot (fits_optional Scenario.inverts "scenario" hfloor) ?_⟩
    all_goals
      intro d b m hm
      simp only [record, Option.join_some, Option.getD_some, List.mem_append] at hm ⊢
      tauto

theorem ExperimentMetadata.inverts : ofJson.Inverts toJson 1 := by
  refine Record.inverts ?_ ?_ ?_
  · intro depth m hnesting
    obtain ⟨hname, hannotations⟩ := List.forall_mem_append.mp hnesting
    refine ⟨_, (Takes.slot rfl Decoder.text_inverts hname rfl).append
      (.unless rfl Decoder.textMap_inverts hannotations rfl rfl), rfl, ?_⟩
    simp only [record, getD_map, Option.getD_some]
  · intro p depth _
    simp [Written, record, nonemptyMap, SortedMap.isEmpty, SortedMap.empty]
  · intro p depth hfloor
    refine ⟨keeps_slot (fits_member Decoder.text_inverts "name" hfloor) ?_,
      keeps_slot (fits_unless Decoder.textMap_inverts "annotations" SortedMap.isEmpty hfloor) ?_⟩
    all_goals
      intro d b m hm
      simp only [record, nonemptyMap, Option.getD_some, List.mem_append] at hm ⊢
      tauto

theorem Experiment.inverts : ofJson.Inverts toJson 7 := by
  refine Record.inverts ?_ ?_ ?_
  · intro depth e hnesting
    obtain ⟨hmetadata, hspec⟩ := List.forall_mem_cons.mp hnesting
    exact ⟨_, (Takes.slot rfl ExperimentMetadata.inverts (by simpa using hmetadata) rfl).append
      (.slot rfl ExperimentSpec.inverts hspec rfl), rfl, rfl⟩
  · intro p depth hfloor
    obtain ⟨depth, rfl⟩ := Nat.exists_eq_add_of_le' hfloor
    simp [Written, record, Json.optional, nonemptyMap, SortedMap.isEmpty, SortedMap.empty,
      ExperimentMetadata.toJson, ExperimentSpec.toJson, Topology.toJson]
  · intro p depth hfloor
    refine ⟨keeps_slot (fits_member ExperimentMetadata.inverts "metadata" (by omega)) ?_,
      keeps_slot (fits_member ExperimentSpec.inverts "spec" hfloor) ?_⟩
    all_goals
      intro d b m hm
      simp only [record, Option.getD_some, List.mem_cons] at hm ⊢
      tauto

end LabLifecycle

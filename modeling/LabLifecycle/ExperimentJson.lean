import LabLifecycle.Experiment
import LabLifecycle.Json.Decode
import LabLifecycle.Json.Print

/-!
# Experiments as JSON

Every part of an experiment has an encoder to a JSON value and a decoder. Encoders write
the fields in their declared order and leave out optional parts that are empty; decoders
accept an object with the fields in any order, or an array of them in declared order.
-/
namespace LabLifecycle

open Json (Value Decoder Field Record Fault Metadata)

/-! ### Encoding -/

namespace Json

/-- A member for a field that is left out when it is empty. -/
def optional {α : Type} (name : String) (encode : α → Value) :
    Option α → List (String × Value)
  | some a => [(name, encode a)]
  | none => []

/-- A member for a list that is left out when it is empty. -/
def nonempty {α : Type} (name : String) (encode : α → Value) :
    List α → List (String × Value)
  | [] => []
  | a :: rest => [(name, .array ((a :: rest).map encode))]

/-- Texts by name as an object. -/
def ofTextMap (m : SortedMap String) : Value :=
  .object (m.entries.map fun e => (e.1, .text e.2))

/-- A member for texts by name that is left out when there are none. -/
def nonemptyMap (name : String) (m : SortedMap String) : List (String × Value) :=
  if m.isEmpty then [] else [(name, ofTextMap m)]

/-- Free-form data that is left out when it is null. -/
def nonnull (name : String) (m : Metadata) : List (String × Value) :=
  if m.isNull then [] else [(name, m.value)]

end Json

open Json (optional nonempty nonemptyMap nonnull)

/-- The hardware as JSON. -/
def Hardware.toJson (h : Hardware) : Value := .object <|
  optional "vcpus" (fun n => Value.ofNat n.toNat) h.vcpus ++
  optional "memory_mb" (fun n => Value.ofNat n.toNat) h.memoryMb ++
  optional "os_type" .text h.osType

/-- The interface as JSON. -/
def Interface.toJson (i : Interface) : Value := .object <|
  [("name", .text i.name)] ++
  optional "vlan" .text i.vlan ++
  optional "address" .text i.address ++
  optional "mask" (fun n => Value.ofNat n.toNat) i.mask ++
  optional "proto" .text i.proto

/-- The node as JSON. -/
def Node.toJson (n : Node) : Value := .object <|
  [("hostname", .text n.hostname)] ++
  optional "vm_type" .text n.vmType ++
  [("hardware", n.hardware.toJson)] ++
  nonempty "interfaces" Interface.toJson n.interfaces ++
  nonemptyMap "labels" n.labels

/-- The topology as JSON. -/
def Topology.toJson (t : Topology) : Value :=
  .object [("nodes", .array (t.nodes.map Node.toJson))]

/-- The host's data as JSON. -/
def HostMetadata.toJson (h : HostMetadata) : Value :=
  .object [("hostname", .text h.hostname), ("metadata", h.metadata.value)]

/-- The app's declaration as JSON. -/
def ScenarioApp.toJson (a : ScenarioApp) : Value := .object <|
  [("name", .text a.name)] ++
  nonnull "metadata" a.metadata ++
  nonempty "hosts" HostMetadata.toJson a.hosts

/-- The scenario as JSON. -/
def Scenario.toJson (s : Scenario) : Value :=
  .object [("apps", .array (s.apps.map ScenarioApp.toJson))]

/-- The spec as JSON. -/
def ExperimentSpec.toJson (s : ExperimentSpec) : Value := .object <|
  [("topology", s.topology.toJson)] ++ optional "scenario" Scenario.toJson s.scenario

/-- The experiment's name and annotations as JSON. -/
def ExperimentMetadata.toJson (m : ExperimentMetadata) : Value := .object <|
  [("name", .text m.name)] ++ nonemptyMap "annotations" m.annotations

/-- The experiment as JSON. -/
def Experiment.toJson (e : Experiment) : Value :=
  .object [("metadata", e.metadata.toJson), ("spec", e.spec.toJson)]

/-- The experiment as a JSON document. -/
def Experiment.print (e : Experiment) (l : Json.Layout) : Bytes := Json.print l e.toJson

/-- The experiment as a JSON text. -/
def Experiment.text (e : Experiment) (l : Json.Layout) : String := Json.printString l e.toJson

/-! ### Decoding -/

namespace Hardware

/-- Hardware under way. -/
structure Draft where
  vcpus : Option (Option UInt32) := none
  memoryMb : Option (Option UInt32) := none
  osType : Option (Option String) := none

/-- The fields of hardware. -/
def record : Record Draft Hardware where
  title := "Hardware"
  fields := [
    .slot "vcpus" false (·.vcpus) (fun d v => { d with vcpus := v }) (.option .word32),
    .slot "memory_mb" false (·.memoryMb) (fun d v => { d with memoryMb := v }) (.option .word32),
    .slot "os_type" false (·.osType) (fun d v => { d with osType := v }) (.option .text)]
  blank := {}
  build d := { vcpus := d.vcpus.join, memoryMb := d.memoryMb.join, osType := d.osType.join }

/-- Decode hardware. -/
def ofJson : Decoder Hardware := record.decode

end Hardware

namespace Interface

/-- An interface under way. -/
structure Draft where
  name : Option String := none
  vlan : Option (Option String) := none
  address : Option (Option String) := none
  mask : Option (Option UInt8) := none
  proto : Option (Option String) := none

/-- The fields of an interface. -/
def record : Record Draft Interface where
  title := "Interface"
  fields := [
    .slot "name" true (·.name) (fun d v => { d with name := v }) .text,
    .slot "vlan" false (·.vlan) (fun d v => { d with vlan := v }) (.option .text),
    .slot "address" false (·.address) (fun d v => { d with address := v }) (.option .text),
    .slot "mask" false (·.mask) (fun d v => { d with mask := v }) (.option .word8),
    .slot "proto" false (·.proto) (fun d v => { d with proto := v }) (.option .text)]
  blank := {}
  build d := {
    name := d.name.getD "", vlan := d.vlan.join, address := d.address.join,
    mask := d.mask.join, proto := d.proto.join }

/-- Decode an interface. -/
def ofJson : Decoder Interface := record.decode

end Interface

namespace Node

/-- A node under way. -/
structure Draft where
  hostname : Option String := none
  vmType : Option (Option String) := none
  hardware : Option Hardware := none
  interfaces : Option (List Interface) := none
  labels : Option TextMap := none

/-- The fields of a node. -/
def record : Record Draft Node where
  title := "Node"
  fields := [
    .slot "hostname" true (·.hostname) (fun d v => { d with hostname := v }) .text,
    .slot "vm_type" false (·.vmType) (fun d v => { d with vmType := v }) (.option .text),
    .slot "hardware" false (·.hardware) (fun d v => { d with hardware := v }) Hardware.ofJson,
    .slot "interfaces" false (·.interfaces) (fun d v => { d with interfaces := v })
      (.list Interface.ofJson),
    .slot "labels" false (·.labels) (fun d v => { d with labels := v }) (.map .text)]
  blank := {}
  build d := {
    hostname := d.hostname.getD "", vmType := d.vmType.join, hardware := d.hardware.getD {},
    interfaces := d.interfaces.getD [], labels := d.labels.getD SortedMap.empty }

/-- Decode a node. -/
def ofJson : Decoder Node := record.decode

end Node

namespace Topology

/-- A topology under way. -/
structure Draft where
  nodes : Option (List Node) := none

/-- The fields of a topology. -/
def record : Record Draft Topology where
  title := "Topology"
  fields := [.slot "nodes" false (·.nodes) (fun d v => { d with nodes := v }) (.list Node.ofJson)]
  blank := {}
  build d := { nodes := d.nodes.getD [] }

/-- Decode a topology. -/
def ofJson : Decoder Topology := record.decode

end Topology

namespace HostMetadata

/-- A host's data under way. -/
structure Draft where
  hostname : Option String := none
  metadata : Option Metadata := none

/-- The fields of a host's data. -/
def record : Record Draft HostMetadata where
  title := "HostMetadata"
  fields := [
    .slot "hostname" true (·.hostname) (fun d v => { d with hostname := v }) .text,
    .slot "metadata" false (·.metadata) (fun d v => { d with metadata := v }) .metadata]
  blank := {}
  build d := { hostname := d.hostname.getD "", metadata := d.metadata.getD Metadata.null }

/-- Decode a host's data. -/
def ofJson : Decoder HostMetadata := record.decode

end HostMetadata

namespace ScenarioApp

/-- An app's declaration under way. -/
structure Draft where
  name : Option String := none
  metadata : Option Metadata := none
  hosts : Option (List HostMetadata) := none

/-- The fields of an app's declaration. -/
def record : Record Draft ScenarioApp where
  title := "ScenarioApp"
  fields := [
    .slot "name" true (·.name) (fun d v => { d with name := v }) .text,
    .slot "metadata" false (·.metadata) (fun d v => { d with metadata := v }) .metadata,
    .slot "hosts" false (·.hosts) (fun d v => { d with hosts := v }) (.list HostMetadata.ofJson)]
  blank := {}
  build d := {
    name := d.name.getD "", metadata := d.metadata.getD Metadata.null,
    hosts := d.hosts.getD [] }

/-- Decode an app's declaration. -/
def ofJson : Decoder ScenarioApp := record.decode

end ScenarioApp

namespace Scenario

/-- A scenario under way. -/
structure Draft where
  apps : Option (List ScenarioApp) := none

/-- The fields of a scenario. -/
def record : Record Draft Scenario where
  title := "Scenario"
  fields := [
    .slot "apps" false (·.apps) (fun d v => { d with apps := v }) (.list ScenarioApp.ofJson)]
  blank := {}
  build d := { apps := d.apps.getD [] }

/-- Decode a scenario. -/
def ofJson : Decoder Scenario := record.decode

end Scenario

namespace ExperimentSpec

/-- A spec under way. -/
structure Draft where
  topology : Option Topology := none
  scenario : Option (Option Scenario) := none

/-- The fields of a spec. -/
def record : Record Draft ExperimentSpec where
  title := "ExperimentSpec"
  fields := [
    .slot "topology" false (·.topology) (fun d v => { d with topology := v }) Topology.ofJson,
    .slot "scenario" false (·.scenario) (fun d v => { d with scenario := v })
      (.option Scenario.ofJson)]
  blank := {}
  build d := { topology := d.topology.getD {}, scenario := d.scenario.join }

/-- Decode a spec. -/
def ofJson : Decoder ExperimentSpec := record.decode

end ExperimentSpec

namespace ExperimentMetadata

/-- A name and annotations under way. -/
structure Draft where
  name : Option String := none
  annotations : Option TextMap := none

/-- The fields that name an experiment. -/
def record : Record Draft ExperimentMetadata where
  title := "ExperimentMetadata"
  fields := [
    .slot "name" true (·.name) (fun d v => { d with name := v }) .text,
    .slot "annotations" false (·.annotations) (fun d v => { d with annotations := v })
      (.map .text)]
  blank := {}
  build d := { name := d.name.getD "", annotations := d.annotations.getD SortedMap.empty }

/-- Decode a name and annotations. -/
def ofJson : Decoder ExperimentMetadata := record.decode

end ExperimentMetadata

namespace Experiment

/-- An experiment under way. -/
structure Draft where
  metadata : Option ExperimentMetadata := none
  spec : Option ExperimentSpec := none

/-- The fields of an experiment. -/
def record : Record Draft Experiment where
  title := "Experiment"
  fields := [
    .slot "metadata" true (·.metadata) (fun d v => { d with metadata := v })
      ExperimentMetadata.ofJson,
    .slot "spec" false (·.spec) (fun d v => { d with spec := v }) ExperimentSpec.ofJson]
  blank := {}
  build d := { metadata := d.metadata.getD { name := "" }, spec := d.spec.getD {} }

/-- Decode an experiment. -/
def ofJson : Decoder Experiment := record.decode

/-- Read an experiment from a JSON document. -/
def decode (document : Bytes) : Except Fault Experiment := Json.decode ofJson document

end Experiment
end LabLifecycle

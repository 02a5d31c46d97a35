import LabLifecycle.Json.Value

/-!
# Experiments

An experiment is a name, a topology of nodes with their hardware and interfaces, and the
apps its scenario asks for. Fields that the author of an experiment may leave open are
optional, so that `setDefaults` can tell what was left open from what was given.
-/
namespace LabLifecycle

open Json (Metadata)

/-- Texts by name: annotations and labels. -/
abbrev TextMap := SortedMap String

/-- The virtual hardware of a node. -/
structure Hardware where
  vcpus : Option UInt32 := none
  memoryMb : Option UInt32 := none
  osType : Option String := none
  deriving DecidableEq, Inhabited

/-- A network interface of a node. -/
structure Interface where
  name : String
  vlan : Option String := none
  address : Option String := none
  mask : Option UInt8 := none
  proto : Option String := none
  deriving DecidableEq, Inhabited

/-- A node of the topology. -/
structure Node where
  hostname : String
  vmType : Option String := none
  hardware : Hardware := {}
  interfaces : List Interface := []
  labels : TextMap := SortedMap.empty
  deriving DecidableEq, Inhabited

/-- The nodes of an experiment. -/
structure Topology where
  nodes : List Node := []
  deriving DecidableEq, Inhabited

/-- What an app should know about one host. -/
structure HostMetadata where
  hostname : String
  metadata : Metadata := Metadata.null
  deriving BEq, Inhabited

/-- An app as a scenario declares it. -/
structure ScenarioApp where
  name : String
  metadata : Metadata := Metadata.null
  hosts : List HostMetadata := []
  deriving BEq, Inhabited

/-- The apps an experiment asks for, in the order in which they run. -/
structure Scenario where
  apps : List ScenarioApp := []
  deriving BEq, Inhabited

/-- What an experiment consists of. -/
structure ExperimentSpec where
  topology : Topology := {}
  scenario : Option Scenario := none
  deriving BEq, Inhabited

/-- How an experiment is called. -/
structure ExperimentMetadata where
  name : String
  annotations : TextMap := SortedMap.empty
  deriving DecidableEq, Inhabited

/-- An experiment. -/
structure Experiment where
  metadata : ExperimentMetadata
  spec : ExperimentSpec := {}
  deriving BEq, Inhabited

/-- The value of a field that is left open. -/
def orDefault {α : Type} (field : Option α) (default : α) : Option α :=
  some (field.getD default)

/-- The hardware with every open field filled. -/
def Hardware.setDefaults (h : Hardware) : Hardware where
  vcpus := orDefault h.vcpus 1
  memoryMb := orDefault h.memoryMb 1024
  osType := orDefault h.osType "linux"

/-- The interface with its protocol filled in if it is open. -/
def Interface.setDefaults (i : Interface) : Interface :=
  { i with proto := orDefault i.proto "static" }

namespace Node

/-- The node with every open field that has a default filled. -/
def setDefaults (n : Node) : Node :=
  { n with
    vmType := orDefault n.vmType "kvm"
    hardware := n.hardware.setDefaults
    interfaces := n.interfaces.map Interface.setDefaults }

/-- The node with an interface appended. -/
def withInterface (n : Node) (i : Interface) : Node :=
  { n with interfaces := n.interfaces ++ [i] }

/-- The node with a label set. -/
def withLabel (n : Node) (key value : String) : Node :=
  { n with labels := n.labels.insert key value }

end Node

namespace Topology

/-- The first node of a host name. -/
def node? (t : Topology) (hostname : String) : Option Node :=
  t.nodes.find? (·.hostname == hostname)

/-- Change the first node of a host name in a list. -/
def updateFirst (hostname : String) (change : Node → Node) : List Node → List Node
  | [] => []
  | n :: rest =>
    if n.hostname == hostname then change n :: rest
    else n :: updateFirst hostname change rest

/-- Every node with its open fields filled. -/
def setDefaults (t : Topology) : Topology := ⟨t.nodes.map Node.setDefaults⟩

end Topology

namespace Scenario

/-- The first declaration of an app. -/
def app? (s : Scenario) (name : String) : Option ScenarioApp := s.apps.find? (·.name == name)

/-- The names of the declared apps, in order. -/
def names (s : Scenario) : List String := s.apps.map (·.name)

/-- A scenario that declares apps by name only. -/
def ofNames (names : List String) : Scenario := ⟨names.map fun n => { name := n }⟩

end Scenario

/-- Every open field of the topology filled. -/
def ExperimentSpec.setDefaults (s : ExperimentSpec) : ExperimentSpec :=
  { s with topology := s.topology.setDefaults }

namespace Experiment

/-- An empty experiment. -/
def new (name : String) : Experiment := { metadata := { name := name } }

/-- The name of the experiment. -/
def name (e : Experiment) : String := e.metadata.name

/-- The experiment under another name. -/
def rename (e : Experiment) (name : String) : Experiment :=
  { e with metadata := { e.metadata with name := name } }

/-- The experiment with other nodes. -/
def withNodes (e : Experiment) (nodes : List Node) : Experiment :=
  { e with spec := { e.spec with topology := ⟨nodes⟩ } }

/-- The nodes of the experiment. -/
def nodes (e : Experiment) : List Node := e.spec.topology.nodes

/-- The experiment with a node appended. -/
def withNode (e : Experiment) (n : Node) : Experiment := e.withNodes (e.nodes ++ [n])

/-- The experiment with the first node of a host name changed. -/
def updateNode (e : Experiment) (hostname : String) (change : Node → Node) : Experiment :=
  e.withNodes (Topology.updateFirst hostname change e.nodes)

/-- The experiment with another scenario, or with none. -/
def withScenario (e : Experiment) (s : Option Scenario) : Experiment :=
  { e with spec := { e.spec with scenario := s } }

/-- The apps the scenario declares; none without a scenario. -/
def declaredApps (e : Experiment) : List String :=
  match e.spec.scenario with
  | some s => s.names
  | none => []

/-- The experiment with every open field of its topology filled. -/
def setDefaults (e : Experiment) : Experiment := { e with spec := e.spec.setDefaults }

end Experiment
end LabLifecycle

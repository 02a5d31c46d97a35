import LabLifecycle.Experiment

/-!
# Completed topologies

A node is complete if every field that has a default is set, on its interfaces too. Filling
in the defaults completes every node there is.
-/
namespace LabLifecycle

/-- Every field of the hardware is set. -/
structure Hardware.Complete (h : Hardware) : Prop where
  vcpus : h.vcpus.isSome
  memoryMb : h.memoryMb.isSome
  osType : h.osType.isSome

/-- Every field that has a default is set. -/
structure Node.Complete (n : Node) : Prop where
  vmType : n.vmType.isSome
  hardware : n.hardware.Complete
  proto : ∀ i ∈ n.interfaces, i.proto.isSome

/-- Every node is complete. -/
def Experiment.Complete (e : Experiment) : Prop := ∀ n ∈ e.nodes, n.Complete

@[simp] theorem isSome_orDefault {α : Type} (field : Option α) (default : α) :
    (orDefault field default).isSome := rfl

theorem Hardware.complete_setDefaults (h : Hardware) : h.setDefaults.Complete where
  vcpus := isSome_orDefault ..
  memoryMb := isSome_orDefault ..
  osType := isSome_orDefault ..

theorem Node.complete_setDefaults (n : Node) : n.setDefaults.Complete where
  vmType := isSome_orDefault ..
  hardware := n.hardware.complete_setDefaults
  proto i hi := by
    obtain ⟨given, -, rfl⟩ := List.mem_map.mp hi
    exact isSome_orDefault ..

/-- Filling in defaults leaves no node and no interface out. -/
theorem Experiment.complete_setDefaults (e : Experiment) : e.setDefaults.Complete := by
  intro n hn
  obtain ⟨given, -, rfl⟩ := List.mem_map.mp hn
  exact given.complete_setDefaults

end LabLifecycle

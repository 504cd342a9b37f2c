import Mathlib.Data.List.AList
import VGpuManager.Foundation.Programs

/-!
# Devices, claims and the checkpoint (`allocatable.go`, `prepared.go`, `checkpointv.go`)

What the DRA plugin knows: the devices it can hand out at the moment, and the checkpoint file with
the claims it has begun (`PrepareStarted`) or finished (`PrepareCompleted`) preparing.

A canonical device name is modelled by what it is made of. The numbers in it (GPU minor, PCI
index) stand for the physical GPU, and the type of a device can be read off its name, except that
static and dynamic MIG devices are named alike.
-/

namespace VGpuManager.KubeletPlugin

open Foundation

/-! ## Names and devices -/

/-- A physical GPU, under its minor, its UUID or its PCI bus id alike. -/
abbrev Gpu := Nat

/-- Canonical device names: `vgpu-N`, `gpu-N`, `gpu-N-mig-PROFILE-ID-START`, `gpu-vfio-N`. The
profile's name is implied by its id. -/
inductive DeviceName where
  | vgpu (gpu : Gpu)
  | gpu (gpu : Gpu)
  | mig (gpu : Gpu) (profileId placementStart : Nat)
  | vfio (gpu : Gpu)
  deriving Repr, DecidableEq

def DeviceName.parent : DeviceName → Gpu
  | .vgpu g | .gpu g | .mig g _ _ | .vfio g => g

inductive DeviceType where
  | vgpu
  | gpu
  | migDynamic
  | migStatic
  | vfio
  deriving Repr, DecidableEq

/-- The node: the NVLink module of each GPU (0 if it has none), and the partitions the Fabric
Manager supports, by id, with their modules. -/
structure Machine where
  moduleId : Gpu → Nat
  partitions : List (Nat × List Nat)

/-- `AllocatableDevice`, without what its name says: whether a MIG device is dynamic; the module
id of a full GPU, or of the parent of a VFIO device, as far as it is resolved (0 if not);
`vfioEnabled` of a full GPU. -/
structure Allocatable where
  dynamic : Bool
  moduleId : Nat
  vfioEnabled : Bool
  deriving Repr, DecidableEq

/-- `AllocatableDevice.Type`. -/
def Allocatable.type (a : Allocatable) : DeviceName → DeviceType
  | .vgpu _ => .vgpu
  | .gpu _ => .gpu
  | .mig _ _ _ => if a.dynamic then .migDynamic else .migStatic
  | .vfio _ => .vfio

theorem Allocatable.type_eq_vgpu {a : Allocatable} {n : DeviceName} (h : a.type n = .vgpu) : ∃ g, n = .vgpu g := by
  cases n with
  | vgpu g => exact ⟨g, rfl⟩
  | gpu g => exact nomatch h
  | mig g p s => cases hdyn : a.dynamic <;> simp [Allocatable.type, hdyn] at h
  | vfio g => exact nomatch h

variable {hw : Machine}

/-- `PerGPUAllocatableDevices`: the devices that can be handed out now. A module id that is
resolved is the GPU's. -/
structure Allocatables (hw : Machine) where
  get : DeviceName → Option Allocatable
  resolved : ∀ n a, get n = some a → a.moduleId = 0 ∨ a.moduleId = hw.moduleId n.parent

/-- `AddAllocatableDevice`. -/
def Allocatables.add (all : Allocatables hw) (n : DeviceName) (a : Allocatable)
    (ha : a.moduleId = 0 ∨ a.moduleId = hw.moduleId n.parent) : Allocatables hw where
  get := fun m => if m = n then some a else all.get m
  resolved := by
    intro m b hm
    split at hm
    · rename_i hmn
      obtain rfl : a = b := by simpa using hm
      rwa [hmn]
    · exact all.resolved m b hm

/-- The VFIO device of a full GPU is added, with the full GPU as its parent. -/
def Allocatables.addVfio (all : Allocatables hw) (g : Gpu) : Allocatables hw :=
  match h : all.get (.gpu g) with
  | some a => all.add (.vfio g) ⟨false, a.moduleId, false⟩ (all.resolved (.gpu g) a h)
  | none => all

/-- The devices of another type than `n` on its GPU; MIG devices have no siblings yet. -/
def isSibling (n m : DeviceName) : Bool :=
  match n, m with
  | .vgpu g, .gpu h | .vgpu g, .vfio h | .gpu g, .vgpu h | .gpu g, .vfio h | .vfio g, .vgpu h
  | .vfio g, .gpu h => g == h
  | _, _ => false

/-- `RemoveSiblingDevices`. -/
def Allocatables.removeSiblingDevices (all : Allocatables hw) (n : DeviceName) : Allocatables hw where
  get := fun m => if isSibling n m then none else all.get m
  resolved := by
    intro m b hm
    split at hm
    · exact nomatch hm
    · exact all.resolved m b hm

/-! ## MIG devices -/

/-- `MigLiveTuple`: where a MIG device was created, and the UUID it got. -/
structure MigLiveTuple where
  parent : Gpu
  giId : Nat
  ciId : Nat
  migUUID : Nat
  deriving Repr, DecidableEq

/-- A MIG device that exists on the node. -/
structure MigInstance extends MigLiveTuple where
  profileId : Nat
  placementStart : Nat
  deriving Repr, DecidableEq

/-- The name under which the driver knows the MIG device. -/
def MigInstance.name (i : MigInstance) : DeviceName := .mig i.parent i.profileId i.placementStart

/-! ## Claims -/

/-- `DeviceRequestAllocationResult`: `ours` if the driver is this one, and the normalised
configuration that applies to the device (`none` if it cannot be resolved). -/
structure AllocationResult where
  request : String
  ours : Bool
  device : DeviceName
  adminAccess : Bool
  config : Option Nat
  deriving Repr, DecidableEq

/-- A `ResourceClaim` with its allocation: the results, and the requests of each opaque
configuration for this driver. -/
structure Claim where
  uid : String
  results : List AllocationResult
  configRequests : List (List String)
  reservedPods : Nat
  deriving Repr, DecidableEq

/-- `PreparedDevice`. -/
inductive PreparedDevice where
  | vgpu (gpu : Gpu)
  | gpu (gpu : Gpu)
  | mig (profileId placementStart : Nat) (concrete : MigLiveTuple)
  | vfio (gpu : Gpu)
  deriving Repr, DecidableEq

/-- `PreparedDevice.CanonicalName`. -/
def PreparedDevice.name : PreparedDevice → DeviceName
  | .vgpu g => .vgpu g
  | .gpu g => .gpu g
  | .mig p s c => .mig c.parent p s
  | .vfio g => .vfio g

/-- `ClaimCheckpointState`. -/
inductive ClaimState where
  | unset
  | prepareStarted
  | prepareCompleted
  deriving Repr, DecidableEq

/-- `PreparedClaim`: an entry of the checkpoint. -/
structure PreparedClaim where
  state : ClaimState
  results : List AllocationResult
  prepared : List PreparedDevice
  deriving Repr, DecidableEq

/-- The checkpoint file. -/
abbrev Checkpoint := AList fun _ : String => PreparedClaim

/-- `requestedNonAdminDevices` and `GetNonAdminDevices`: this driver's devices, admin access
apart. -/
def nonAdminDevices (results : List AllocationResult) : List DeviceName :=
  (results.filter fun r => r.ours && !r.adminAccess).map AllocationResult.device

/-- `isAdminAccess`. -/
def isAdminAccess (results : List AllocationResult) : Bool :=
  results.any fun r => r.ours && r.adminAccess

/-- The entry is in state `PrepareCompleted`. -/
def PreparedClaim.completed (pc : PreparedClaim) : Prop := pc.state = .prepareCompleted
  deriving Decidable

/-- The entries of the other claims that are completed. -/
def otherCompleted (cp : Checkpoint) (uid : String) : List PreparedClaim :=
  (cp.entries.filter fun e => e.1 ≠ uid ∧ e.2.completed).map Sigma.snd

theorem mem_otherCompleted {cp : Checkpoint} {uid : String} {pc : PreparedClaim} :
    pc ∈ otherCompleted cp uid ↔ ∃ uid', uid' ≠ uid ∧ cp.lookup uid' = some pc ∧ pc.completed := by
  unfold otherCompleted
  simp only [List.mem_map, List.mem_filter, decide_eq_true_eq]
  constructor
  · rintro ⟨⟨uid', pc'⟩, ⟨hmem, hne, hdone⟩, rfl⟩
    exact ⟨uid', hne, AList.mem_lookup_iff.mpr hmem, hdone⟩
  · intro ⟨uid', hne, hlookup, hdone⟩
    exact ⟨⟨uid', pc⟩, ⟨AList.mem_lookup_iff.mp hlookup, hne, hdone⟩, rfl⟩

end VGpuManager.KubeletPlugin

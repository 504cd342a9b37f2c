import VGpuManager.KubeletPlugin.Checkpoint

/-!
# Preparing claims (`device_state.go`: `Prepare`, `Unprepare`)

`Prepare` and `Unprepare` as programs over the node: the checkpoint file, the devices that can be
handed out, and the MIG devices that exist. They run one at a time, under a lock. Every call to
the outside (the checkpoint file, NVML, the VFIO driver, the Fabric Manager, CDI files) takes its
answer from a list that is given with the call, so that anything may fail at any step; a crash is
a failure followed by a restart. What is torn down is recorded.
-/

namespace VGpuManager.KubeletPlugin

open Foundation

/-! ## The node -/

/-- The feature gates and node capabilities that are read. `passthrough` is `PassthroughSupport`
on a node with an IOMMU, `fabricManager` the gate with a Fabric Manager present, `nvidiaEnabled`
whether unconfigured VFIO devices go back to the `nvidia` driver, `consumableShares` whether
devices are shared. -/
structure Gates where
  vgpuSupport : Bool
  nriSupport : Bool
  dynamicMIG : Bool
  passthrough : Bool
  nvidiaEnabled : Bool
  fabricManager : Bool
  consumableShares : Bool
  deriving Repr, DecidableEq

/-- `perClaimFabricPartitioning`. -/
def Gates.perClaimFabricPartitioning (g : Gates) : Bool := g.fabricManager && !g.vgpuSupport

/-- What a call to the outside answers. `late`: it did its work and still reports an error.
`unsupported`: the GPU is not in MIG mode, or has no module id. `created`: the ids of a new MIG
device; `orphaned`: of one that was created by a call that reports an error. -/
inductive Reply where
  | done
  | failed
  | late
  | unsupported
  | created (giId ciId migUUID : Nat)
  | orphaned (giId ciId migUUID : Nat)
  deriving Repr, DecidableEq

/-- What is torn down: a MIG device, MIG mode with the MIG devices on that GPU, a VFIO device's
binding, a fabric partition. -/
inductive Effect where
  | deleteMig (migUUID : Nat)
  | disableMigMode (victims : List Nat)
  | unconfigure (gpu : Gpu)
  | deactivate (partitionId : Nat)
  deriving Repr, DecidableEq

/-- The node as `Prepare` and `Unprepare` see it. `minted` are the UUIDs that MIG devices ever had;
`replies` the answers still to come, `effects` what the call has torn down. -/
structure Node (hw : Machine) where
  checkpoint : Checkpoint
  allocatable : Allocatables hw
  migs : List MigInstance
  minted : List Nat
  replies : List Reply
  effects : List Effect

/-- Where a call failed. -/
inductive PluginError where
  | adminAccess
  | multiplePods
  | alreadyAllocated
  | modeConflict
  | allocatableNotFound (device : DeviceName)
  | fabricPartition
  | unsupportedState
  | callFailed
  deriving Repr, DecidableEq

abbrev Plugin (hw : Machine) (α : Type) := Prog PluginError (Node hw) α

variable {hw : Machine}

/-- The answer to the next call; once the list is used up, calls succeed. -/
def reply : Plugin hw Reply := do
  let s ← get
  modify fun s => { s with replies := s.replies.tail }
  return s.replies.headD .done

/-- A call of which only success matters. -/
def call : Plugin hw Unit := do
  match ← reply with
  | .done => return
  | _ => throw .callFailed

def record (e : Effect) : Plugin hw Unit := modify fun s => { s with effects := s.effects ++ [e] }

/-! ## The checkpoint file -/

def getCheckpoint : Plugin hw Checkpoint := do
  call
  return (← get).checkpoint

/-- `updateCheckpoint`: read, change, write. A failed write may have replaced the file. -/
def updateCheckpoint (mutate : Checkpoint → Checkpoint) : Plugin hw Unit := do
  call
  match ← reply with
  | .done => modify fun s => { s with checkpoint := mutate s.checkpoint }
  | .late =>
    modify fun s => { s with checkpoint := mutate s.checkpoint }
    throw .callFailed
  | _ => throw .callFailed

/-! ## What is checked before a claim is prepared -/

section

variable (all : Allocatables hw)

/-- `validateAdminAccessRequest`. -/
def validateAdminAccessRequest (claim : Claim) : Bool :=
  let admin := claim.results.filter fun r => r.ours && r.adminAccess
  (admin.all fun r =>
    match all.get r.device with
    | some a => a.type r.device == .gpu
    | none => true) &&
  (admin.isEmpty || claim.configRequests.all fun requests =>
    !requests.isEmpty && requests.all fun q => admin.all fun r => r.request != q)

/-- A vGPU claim is for one pod, unless NRI tells the containers apart. -/
def claimForOnePod (g : Gates) (all : Allocatables hw) (claim : Claim) : Bool :=
  !(g.vgpuSupport && !g.nriSupport && decide (1 < claim.reservedPods)) || claim.results.all fun r => !r.ours ||
      match all.get r.device with
      | some a => a.type r.device != .vgpu
      | none => true

variable (results : List AllocationResult) (n : DeviceName)

/-- The configurations that results of the claim put the device under. `getNormalizedDeviceConfig` takes the first one
that the walk over a Go map meets. -/
def deviceConfigs : List Nat :=
  results.filterMap fun r => if r.ours && r.device == n then r.config else none

/-- A device that another claim holds may be handed out again: a vGPU, or, with consumable shares,
any but a VFIO device under the same configuration. Where a claim has the device under several, the walks decide:
it passes if some do. -/
def mayShare (g : Gates) (all : Allocatables hw) (held wanted : List AllocationResult) (n : DeviceName) : Bool :=
  match all.get n with
  | some a =>
    a.type n == .vgpu || (g.consumableShares && a.type n != .vfio &&
      (deviceConfigs held n).any fun c => (deviceConfigs wanted n).contains c)
  | none => false

/-- `validateNoOverlappingPreparedDevices`. -/
def validateNoOverlappingPreparedDevices (g : Gates) (all : Allocatables hw) (cp : Checkpoint)
    (claim : Claim) : Bool :=
  (otherCompleted cp claim.uid).all fun pc =>
    (nonAdminDevices claim.results).all fun n =>
      !(nonAdminDevices pc.results).contains n || mayShare g all pc.results claim.results n

/-- `hasGPUModeConflict`. -/
def hasGPUModeConflict (m : DeviceName) (a b : Allocatable) : Bool :=
  n.parent == m.parent &&
    ((a.type n == .vgpu && b.type m == .migDynamic) || (a.type n == .migDynamic && b.type m == .vgpu))

variable (cp : Checkpoint)

/-- `validateNoGPUModeConflict`. -/
def validateNoGPUModeConflict (claim : Claim) : Bool :=
  (nonAdminDevices claim.results).all fun n =>
    match all.get n with
    | none => true
    | some a =>
      (otherCompleted cp claim.uid).all fun pc => (nonAdminDevices pc.results).all fun m =>
        match all.get m with
        | none => true
        | some b => !hasGPUModeConflict n m a b

/-! ## MIG devices (`nvlib.go`) -/

/-- The instance id is free on the GPU and the UUID is new. -/
def Fresh (s : Node hw) (i : MigInstance) : Prop :=
  (∀ j ∈ s.migs, j.parent = i.parent → j.giId ≠ i.giId) ∧ i.migUUID ∉ s.minted
  deriving Decidable

/-- The node with the MIG device. -/
def Node.withMig (s : Node hw) (i : MigInstance) : Node hw :=
  { s with migs := i :: s.migs, minted := i.migUUID :: s.minted }

/-- NVML creates the device. It hands out free instance ids and new UUIDs only. -/
def mint (i : MigInstance) : Plugin hw Unit := do
  let s ← get
  if Fresh s i then modify fun s => s.withMig i else throw .callFailed

/-- `createMigDevice`. -/
def createMigDevice (gpu : Gpu) (profileId placementStart : Nat) : Plugin hw MigLiveTuple := do
  match ← reply with
  | .created gi ci uuid =>
    mint ⟨⟨gpu, gi, ci, uuid⟩, profileId, placementStart⟩
    return ⟨gpu, gi, ci, uuid⟩
  | .orphaned gi ci uuid =>
    mint ⟨⟨gpu, gi, ci, uuid⟩, profileId, placementStart⟩
    throw .callFailed
  | _ => throw .callFailed

/-- `maybeDisableMigMode`: MIG mode is left alone as long as there are MIG devices on the GPU. -/
def maybeDisableMigMode (gpu : Gpu) : Plugin hw Unit := do
  match ← reply with
  | .unsupported => return
  | .done =>
    let s ← get
    let victims := (s.migs.filter fun i => i.parent == gpu).map fun i => i.migUUID
    if victims.isEmpty then
      record (.disableMigMode victims)
      call
    else return
  | _ => throw .callFailed

/-- `deleteMigDevice`: the device with that instance id on the GPU, whatever its UUID. -/
def deleteMigDevice (t : MigLiveTuple) : Plugin hw Unit := do
  match ← reply with
  | .unsupported => return
  | .done =>
    let s ← get
    match s.migs.find? fun i => i.parent == t.parent && i.giId == t.giId with
    | none => maybeDisableMigMode t.parent
    | some i =>
      record (.deleteMig i.migUUID)
      match ← reply with
      | .done =>
        modify fun s => { s with migs := s.migs.filter fun j => j.migUUID != i.migUUID }
        maybeDisableMigMode t.parent
      | .late =>
        modify fun s => { s with migs := s.migs.filter fun j => j.migUUID != i.migUUID }
        throw .callFailed
      | _ => throw .callFailed
  | _ => throw .callFailed

/-- `FindMigDevBySpec`. -/
def findMigDevBySpec (migs : List MigInstance) (n : DeviceName) : Option MigLiveTuple :=
  (migs.find? fun i => i.name == n).map MigInstance.toMigLiveTuple

/-- `deleteMigDevIfExistsAndNotUsedByCompletedClaim`. -/
def deleteMigDevIfExistsAndNotUsedByCompletedClaim (completed : List PreparedClaim) :
    Plugin hw Unit := do
  if completed.any fun pc => pc.results.any fun r => r.device == n then return
  call
  match findMigDevBySpec (← get).migs n with
  | none => return
  | some t => deleteMigDevice t

/-! ## Fabric partitions -/

/-- `FindPartitionByModuleIDs`: the partition of exactly these modules. -/
def findPartitionByModuleIDs (hw : Machine) (ids : List Nat) : Option Nat :=
  if ids.isEmpty then none
  else
    (hw.partitions.find? fun p =>
      p.2.length == ids.dedup.length && p.2.all fun m => ids.dedup.contains m).map Prod.fst

/-- `gpuInfosFromPreparedClaim`: the GPUs behind the claim's full-GPU and VFIO devices, with the
module ids as far as they are resolved. -/
def gpuInfosFromPreparedClaim (results : List AllocationResult) : List (Gpu × Nat) :=
  results.filterMap fun r =>
    if r.ours then
      match all.get r.device, r.device with
      | some a, .gpu g | some a, .vfio g => some (g, a.moduleId)
      | _, _ => none
    else none

/-- `resolveFabricPartition`. -/
def resolveFabricPartition (hw : Machine) (gpus : List (Gpu × Nat)) : Option Nat :=
  if gpus.any fun g => g.2 == 0 then none else findPartitionByModuleIDs hw (gpus.map Prod.snd)

/-- `activateFabricPartition`. -/
def activateFabricPartition : Plugin hw Unit := do
  if isAdminAccess results then return
  let gpus := gpuInfosFromPreparedClaim (← get).allocatable results
  if gpus.isEmpty then return
  match resolveFabricPartition hw gpus with
  | none => throw .fabricPartition
  | some _ => call

/-- `preparedClaimDeviceHasAdminAccess`. -/
def hasAdminAccess : Bool :=
  results.any fun r => r.ours && r.device == n && r.adminAccess

/-- `isGpuUUIDInUseByOtherClaims`: as a full GPU or through a vGPU. -/
def isGpuInUseByOtherClaims (uid : String) (gpu : Gpu) : Bool :=
  (otherCompleted cp uid).any fun pc => pc.prepared.any fun d =>
    (d == .gpu gpu || d == .vgpu gpu) && !hasAdminAccess pc.results d.name

/-- `isMigDeviceInUseByOtherClaims`. -/
def isMigDeviceInUseByOtherClaims (uid : String) (migUUID : Nat) (n : DeviceName) : Bool :=
  (otherCompleted cp uid).any fun pc => pc.prepared.any fun d =>
    d.name == n ||
      match d with
      | .mig _ _ c => c.migUUID == migUUID
      | _ => false

end

variable (g : Gates) (uid : String) (pc : PreparedClaim)

section

variable (claim : Claim) (all : Allocatables hw) (cp : Checkpoint)

/-- `deactivateFabricPartition`. A partition that cannot be resolved is skipped. -/
def deactivateFabricPartition : Plugin hw Unit := do
  if isAdminAccess pc.results then return
  let gpus := gpuInfosFromPreparedClaim (← get).allocatable pc.results
  if gpus.isEmpty then return
  if g.consumableShares && gpus.any fun p => isGpuInUseByOtherClaims cp uid p.1 then return
  match resolveFabricPartition hw gpus with
  | none => return
  | some id =>
    record (.deactivate id)
    call

/-! ## VFIO devices -/

/-- `Unconfigure`: the GPU goes back to the `nvidia` driver. -/
def unconfigure (gpu : Gpu) : Plugin hw Unit := do
  if g.nvidiaEnabled then
    record (.unconfigure gpu)
    call

/-- `discoverSiblingAllocatables`: the VFIO device of a full GPU, or the full GPU of a VFIO device
whose parent it becomes. Its module id may stay unresolved. -/
def discoverSiblingAllocatables (n : DeviceName) (a : Allocatable) : Plugin hw Unit := do
  match n with
  | .gpu g =>
    if a.vfioEnabled then
      call
      modify fun s => { s with allocatable := s.allocatable.addVfio g }
  | .vfio g =>
    match ← reply with
    | .done =>
      modify fun s => { s with
        allocatable := (s.allocatable.add (.gpu g) ⟨false, hw.moduleId g, true⟩ (.inr rfl)).add
          (.vfio g) ⟨false, hw.moduleId g, false⟩ (.inr rfl) }
    | .unsupported =>
      modify fun s => { s with
        allocatable := (s.allocatable.add (.gpu g) ⟨false, 0, true⟩ (.inl rfl)).add
          (.vfio g) ⟨false, 0, false⟩ (.inl rfl) }
    | _ => throw .callFailed
  | _ => return

/-! ## Rolling back -/

/-- `rollbackPartiallyPreparedMIGDevices`, if the claim has a dynamic MIG device. -/
def rollbackPartiallyPreparedMIGDevices : Plugin hw Unit := do
  let all := (← get).allocatable
  let dynamic := pc.results.any fun r => r.ours &&
    match all.get r.device with
    | some a => a.type r.device == .migDynamic
    | none => false
  if g.dynamicMIG && dynamic then
    let completed := (cp.entries.map Sigma.snd).filter fun c => c.completed
    pc.results.forM fun r =>
      match r.ours, r.device with
      | true, .mig _ _ _ => deleteMigDevIfExistsAndNotUsedByCompletedClaim r.device completed
      | _, _ => return

/-- `rollbackPartiallyPreparedVFIODevices`: the VFIO devices of the claim that are there. -/
def rollbackPartiallyPreparedVFIODevices : Plugin hw Unit := do
  let all := (← get).allocatable
  pc.results.forM fun r =>
    match r.ours, all.get r.device, r.device with
    | true, some a, .vfio gpu => do
        unconfigure g gpu
        discoverSiblingAllocatables r.device a
    | _, _, _ => return

/-- `unpreparePartiallyPreparedClaim`. -/
def unpreparePartiallyPreparedClaim : Plugin hw Unit := do
  rollbackPartiallyPreparedMIGDevices g pc cp
  Prog.onlyIf g.passthrough (rollbackPartiallyPreparedVFIODevices g pc)
  Prog.onlyIf g.perClaimFabricPartitioning (deactivateFabricPartition g uid pc cp)

/-! ## Preparing -/

/-- `getPreparedMigDevice`: the device under that name of a completed claim. -/
def getPreparedMigDevice (n : DeviceName) : Option MigLiveTuple :=
  (cp.entries.map Sigma.snd).findSome? fun pc =>
    if pc.completed then
      pc.prepared.findSome? fun d =>
        match d with
        | .mig p s c => if .mig c.parent p s = n then some c else none
        | _ => none
    else none

/-- The device of one result. -/
def prepareDevice (n : DeviceName) : Plugin hw PreparedDevice := do
  match (← get).allocatable.get n with
  | none => throw (.allocatableNotFound n)
  | some a =>
    match n with
    | .vgpu gpu =>
      Prog.onlyIf g.dynamicMIG (do maybeDisableMigMode gpu; call)
      call
      return .vgpu gpu
    | .gpu gpu => return .gpu gpu
    | .vfio gpu => return .vfio gpu
    | .mig gpu p s =>
      if a.dynamic then
        match getPreparedMigDevice cp n with
        | some c => return .mig p s c
        | none => return .mig p s (← createMigDevice gpu p s)
      else
        match findMigDevBySpec (← get).migs n with
        | some c => return .mig p s c
        | none => throw .callFailed

/-- `prepareDevices`. The calls stand for the configurations and for `Configure` of the VFIO
devices. The results stand in the order in which the map of the configurations is walked. -/
def prepareDevices : Plugin hw (List PreparedDevice) := do
  let ours := claim.results.filter AllocationResult.ours
  let all := (← get).allocatable
  ours.forM fun r => Prog.require (all.get r.device).isSome (.allocatableNotFound r.device)
  call
  Prog.onlyIf g.perClaimFabricPartitioning (activateFabricPartition claim.results)
  ours.forM fun _ => call
  ours.mapM fun r => prepareDevice g cp r.device

/-- `rollbackPartiallyPreparedClaim`, for what an earlier attempt at the claim has left. -/
def rollbackPartiallyPreparedClaim (entry : Option PreparedClaim) (cp : Checkpoint) : Plugin hw Unit :=
  match entry with
  | some pc => Prog.onlyIf (pc.state == .prepareStarted) (rollbackPartiallyPreparedMIGDevices g pc cp)
  | none => return

/-- When a GPU is used as one type of device, the other types are no longer advertised. -/
def removeSiblings (prepared : List PreparedDevice) : Plugin hw Unit :=
  modify fun s => { s with
    allocatable := prepared.foldl (fun all d =>
      if (all.get d.name).isSome then all.removeSiblingDevices d.name else all) s.allocatable }

/-- The claim is prepared, from its entry in the checkpoint that was read on. -/
def prepareFrom :
    Plugin hw (List PreparedDevice) := do
  Prog.require (validateNoOverlappingPreparedDevices g all cp claim) .alreadyAllocated
  Prog.require (validateNoGPUModeConflict all cp claim) .modeConflict
  rollbackPartiallyPreparedClaim g (cp.lookup claim.uid) cp
  updateCheckpoint (·.insert claim.uid ⟨.prepareStarted, claim.results, []⟩)
  let prepared ← prepareDevices g claim cp
  Prog.onlyIf g.passthrough (removeSiblings prepared)
  call
  updateCheckpoint (·.insert claim.uid ⟨.prepareCompleted, claim.results, prepared⟩)
  return prepared

/-- `Prepare`. A claim that is prepared already is left alone. -/
def prepare : Plugin hw (List PreparedDevice) := do
  let all := (← get).allocatable
  Prog.require (validateAdminAccessRequest all claim) .adminAccess
  Prog.require (claimForOnePod g all claim) .multiplePods
  let cp ← getCheckpoint
  match cp.lookup claim.uid with
  | some ⟨.prepareCompleted, _, prepared⟩ => return prepared
  | _ => prepareFrom g claim all cp

end

/-! ## Unpreparing -/

/-- `unprepareDevices`. The last call stands for the time slices and the vGPU files. -/
def unprepareDevices (prepared : List PreparedDevice)
    (cp : Checkpoint) : Plugin hw Unit := do
  Prog.onlyIf g.passthrough (prepared.forM fun d =>
    match d with
    | .vfio gpu => do
        Prog.require ((← get).allocatable.get d.name).isSome (.allocatableNotFound d.name)
        unconfigure g gpu
    | _ => return)
  prepared.forM fun d =>
    match d with
    | .mig _ _ c =>
      if g.dynamicMIG && !(g.consumableShares && isMigDeviceInUseByOtherClaims cp uid c.migUUID d.name) then
        deleteMigDevice c
      else return
    | _ => return
  call

/-- What is advertised again once the device is free, unless the device is still shared. -/
def rediscover (cp : Checkpoint) (d : PreparedDevice) : Plugin hw Unit := do
  match (← get).allocatable.get d.name with
  | none => return
  | some a =>
    let inUse :=
      match d.name with
      | .gpu gpu => isGpuInUseByOtherClaims cp uid gpu
      | .mig _ _ _ =>
        isMigDeviceInUseByOtherClaims cp uid ((getPreparedMigDevice cp d.name).elim 0 MigLiveTuple.migUUID) d.name
      | _ => false
    if g.consumableShares && inUse then return else discoverSiblingAllocatables d.name a

/-- What is undone depends on how far the claim was prepared. -/
def unprepareByState (cp : Checkpoint) : Plugin hw Unit :=
  match pc.state with
  | .prepareStarted => unpreparePartiallyPreparedClaim g uid pc cp
  | .prepareCompleted => unprepareDevices g uid pc.prepared cp
  | .unset => throw .unsupportedState

/-- `Unprepare`. -/
def unprepare : Plugin hw Unit := do
  let cp ← getCheckpoint
  match cp.lookup uid with
  | none => return
  | some pc =>
    unprepareByState g uid pc cp
    Prog.onlyIf g.passthrough (pc.prepared.forM (rediscover g uid cp))
    Prog.onlyIf g.perClaimFabricPartitioning (deactivateFabricPartition g uid pc cp)
    updateCheckpoint (·.erase uid)

/-! ## Runs -/

/-- What happens to the node: a call with the answers it gets, or a restart of the plugin, which
looks for the devices anew (some MIG devices may be gone) and, after a reboot, begins with an
empty checkpoint. -/
inductive PluginEvent (hw : Machine) where
  | prepare (claim : Claim) (replies : List Reply)
  | unprepare (uid : String) (replies : List Reply)
  | restart (allocatable : Allocatables hw) (gone : List Nat) (rebooted : Bool)

def Node.step (s : Node hw) : PluginEvent hw → Node hw
  | .prepare claim replies => (prepare g claim).exec { s with replies := replies, effects := [] }
  | .unprepare uid replies => (unprepare g uid).exec { s with replies := replies, effects := [] }
  | .restart allocatable gone rebooted =>
    { s with
      checkpoint := if rebooted then ∅ else s.checkpoint
      allocatable := allocatable
      migs := s.migs.filter fun i => !gone.contains i.migUUID
      replies := []
      effects := [] }

/-- The first start on a node with these devices. -/
def Node.start (allocatable : Allocatables hw) (migs : List MigInstance) : Node hw :=
  ⟨∅, allocatable, migs, migs.map fun i => i.migUUID, [], []⟩

end VGpuManager.KubeletPlugin

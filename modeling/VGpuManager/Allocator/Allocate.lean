import VGpuManager.Allocator.Select

/-!
# The allocator

`Allocate` places the containers of a pod on one node. Every container is placed on devices
that pass the per-device gates; concurrent containers accumulate their usage, sequential init
containers are placed against the usage of the sidecars alone, because they never run together
with the main phase. The file follows `pkg/device/allocator/allocator.go`.
-/

namespace VGpuManager

open Foundation

/-! ## 1. Reasons -/

inductive ReasonCode where
  | nodeNotVGPUEnabled | nodeNoVGPURegister | nodeNoVGPUConfig | nodeBadVGPURegister
  | nodeBadVGPUConfig | nodeBadMemoryFactor | nodeBadRemoteEndpoint | nodeMemoryTypeMismatch
  | nodeInfoBuildFailed | nodeDeleting | nodeIsRemoteServer | nodeRemoteServerUnreachable
  | deviceUnhealthy | deviceMIGEnabled | insufficientVGPUSlot | insufficientVGPUMemory
  | insufficientVGPUCore | deviceTypeMismatch | deviceUUIDMismatch
  | insufficientGPUCards | insufficientGPUResources | linkTopologyUnsatisfied
  | pcieTopologyUnsatisfied | numaTopologyUnsatisfied | alreadyScheduledElsewhere
deriving DecidableEq, Repr

/-- The device-level codes in the order of their names. -/
def deviceCodes : List ReasonCode :=
  [.deviceMIGEnabled, .deviceTypeMismatch, .deviceUUIDMismatch, .deviceUnhealthy,
    .insufficientVGPUCore, .insufficientVGPUMemory, .insufficientVGPUSlot]

/-- The most frequent cause, the first by name among equals; none when nothing was refused. -/
def reasonFromCounts (refused : List ReasonCode) : Option ReasonCode :=
  let most := (deviceCodes.map fun c => refused.count c).foldl max 0
  if refused = [] then none else deviceCodes.find? fun c => refused.count c = most

/-- How an allocation can fail: the node is refused, or the accounting lost a device. -/
inductive AllocError where
  | rejected (code : ReasonCode)
  | internal
deriving DecidableEq, Repr

section Allocate

variable (P : Platform)

/-! ## 2. Per-device gates -/

/-- The memory one vGPU takes of a device: the request, or the whole card. -/
def reqMemory (d : Device) (needMemory : Int) : Int :=
  if needMemory = 0 then d.getTotalMemory else needMemory

/-- The first gate of `filterDevices` that refuses a device. -/
def refusal (req : AllocationRequest P.F) (needCores needMemory : Int) (d : Device) : Option ReasonCode :=
  if !d.healthy then some .deviceUnhealthy
  else if d.mig then some .deviceMIGEnabled
  else if d.allocatableNumber P.int = 0 then some .insufficientVGPUSlot
  else if d.allocatableMemory P.int < reqMemory d needMemory then some .insufficientVGPUMemory
  else if d.allocatableCores P.int < needCores ∨ d.allocatableCores P.int = 0 then
    some .insufficientVGPUCore
  else if req.checkDeviceType && !checkDeviceType P req.pod.annotations d.deviceType then
    some .deviceTypeMismatch
  else if req.checkDeviceUuid && !checkDeviceUuid P req.pod.annotations d.uuid then
    some .deviceUUIDMismatch
  else none

section

variable (n : NodeInfo)

section

variable (req : AllocationRequest P.F) (needCores needMemory : Int) (restrictUUIDs : Option (List Text))

/-- The devices a restriction leaves. -/
def restricted : List Device :=
  match restrictUUIDs with
  | none => n.devices
  | some uuids => n.devices.filter fun d => d.uuid ∈ uuids

/-- The devices that pass every gate. -/
def filterDevices : List Device :=
  (restricted n restrictUUIDs).filter fun d => (refusal P req needCores needMemory d).isNone

/-- The causes of the devices that were refused. -/
def deviceRefusals : List ReasonCode :=
  (restricted n restrictUUIDs).filterMap (refusal P req needCores needMemory)

end

def buildClaims (picked : List Device) (needCores needMemory : Int) : List DeviceClaim :=
  picked.map fun d => ⟨d.id, d.uuid, needCores, reqMemory d needMemory⟩

/-! ## 3. Topology -/

namespace NodeInfo

/-- The rail of a GPU, or its index where the node publishes no rails. -/
def railKeyOf (uuid : Text) : Option Text :=
  match n.gpuRail.lookup uuid with
  | some rail => some ("rail:".toList ++ rail)
  | none => (n.deviceIndexMap.lookup uuid).map fun i => "idx:".toList ++ fmtInt i

def railSignatureOfUUIDs (uuids : List Text) : Option Text :=
  let keys := (uuids.filterMap n.railKeyOf).dedup
  if keys = [] then none else some (join ',' (sortTexts keys))

def uuidsMatchingRailSignature (signature : Text) : List Text :=
  if signature = [] then []
  else
    let want := signature.splitOn ','
    sortTexts ((n.deviceIndexMap.keys).filter fun uuid =>
      (n.railKeyOf uuid).any fun key => decide (key ∈ want))

def componentUUIDs (root : Nat) : List Text :=
  Dict.getD n.nvlinkComponentToUUIDs root []

def componentByDomain (domain : Text) : Option Nat :=
  if domain = [] then none else n.domains.rootByDomain.lookup domain

end NodeInfo

/-- The distinct non-empty UUIDs of a pod's claims. -/
def podPreAllocatedUUIDs (A : IntArith) (pod : Pod) : List Text :=
  (((getPodDeviceClaim A pod).flatMap fun c => c.deviceClaims.map DeviceClaim.uuid).filter (· ≠ [])).dedup

variable (now grace : Int) (gangName : Option Text) (owner : Option OwnerReference)

/-- Is `p` a sibling: the same gang, or the same controller where there is no gang? -/
def isSibling (p : Pod) : Bool :=
  match gangName, owner with
  | some gang, _ => podGangKey p = some gang
  | none, some o => (controllerOf p).any fun r => r.uid = o.uid
  | none, none => false

/-- The component most siblings on this node are placed in; the lower ordinal decides ties. -/
def NodeInfo.gangAnchorComponent (excluded : List Text) : Option Nat :=
  let siblings := n.nodePods.filter fun p =>
    p.uid ∉ excluded && isSibling gangName owner p && shouldCountPodDeviceAllocation P now grace p
  let votes := siblings.flatMap fun p =>
    (podPreAllocatedUUIDs P.int p).filterMap n.nvlinkComponentByUUID.lookup
  let ordinal (root : Nat) : Option Nat := n.domains.ordinal.lookup root
  let better (a b : Nat) : Bool :=
    votes.count b < votes.count a || (votes.count a = votes.count b &&
      match ordinal a, ordinal b with
      | some x, some y => decide (x < y)
      | some _, none => true
      | none, _ => false)
  votes.dedup.foldl (fun best root => match best with
    | none => some root
    | some b => if better root b then some root else some b) none

/-- The loosest tier a link mode accepts. -/
def topologyFloor (mode : TopologyMode) : LinkTier := if mode = .pcie then .switch else .nvlink

variable (req : AllocationRequest P.F) (store : List Device) (anchor : Option Nat) (need : Nat)

/-- The component an already placed sibling asks this pod to stay in. -/
def anchorRoot : Option Nat :=
  if req.topology = .link ∧ req.crossPodTopology = true ∧ (req.gangName ≠ none ∨ req.controllerOwner ≠ none) then
    match n.gangAnchorComponent P now grace req.gangName req.controllerOwner [req.pod.uid] with
    | some root => some root
    | none => n.componentByDomain req.gangDomainKey
  else none

/-- Strict requests take a single group at the floor tier or tighter. -/
def acceptable (strict : Bool) (floor : LinkTier) (plan : LinkPlan) : Bool :=
  !strict || (plan.tier.rank ≤ floor.rank && !plan.spanned)

/-- The windows tried in turn; `none` is the attempt without a window. A strict request whose
anchored component is too small has no attempt at all. -/
def linkAttempts : Option (List (Option (List Text))) :=
  let railWindow :=
    let w := (n.uuidsMatchingRailSignature req.gangRailKey).dedup
    if req.gangRailKey ≠ [] ∧ need ≤ w.length then [some w] else []
  match anchor with
  | none => some (railWindow ++ [none])
  | some root =>
    let w := (n.componentUUIDs root).dedup
    if need ≤ w.length then
      some (railWindow ++ some w :: if req.topologyStrict then [] else [none])
    else if req.topologyStrict then none
    else some (railWindow ++ [none])

/-- Try the windows until a plan is acceptable; a refused plan is remembered. -/
def tryWindows (n : NodeInfo) (req : AllocationRequest P.F) (store : List Device) (need : Nat)
    (floor : LinkTier) : List (Option (List Text)) → Option LinkPlan → Option LinkPlan
  | [], kept => kept
  | w :: ws, kept =>
    match allocateTiered P n req.devicePolicy store need w with
    | some plan =>
      if acceptable req.topologyStrict floor plan then some plan
      else tryWindows n req store need floor ws (kept <|> some plan)
    | none => tryWindows n req store need floor ws kept

def allocateLink (floor : LinkTier) : Option LinkPlan :=
  if !n.gpuTopology then none
  else match linkAttempts P n req anchor need with
  | none => none
  | some ws => (tryWindows P n req store need floor ws none).filter (acceptable req.topologyStrict floor)

/-- The two link modes: a plan at an acceptable tier, else a refusal or the plain order. -/
def allocateByLinkMode : Except ReasonCode (List Device) :=
  match allocateLink P n req store (anchorRoot P n now grace req) need (topologyFloor req.topology) with
  | some plan => .ok plan.devices
  | none =>
    if req.topologyStrict then
      .error (if req.topology = .pcie then .pcieTopologyUnsatisfied
        else .linkTopologyUnsatisfied)
    else .ok (store.take need)

/-- The devices a topology mode chooses from the sorted store, or why the node is refused. -/
def allocateByTopologyMode : Except ReasonCode (List Device) :=
  match req.topology with
  | .link | .pcie => allocateByLinkMode P n now grace req store need
  | .numa =>
    match allocateNUMA P n req.devicePolicy store need with
    | some ds => .ok ds
    | none => if req.topologyStrict then .error .numaTopologyUnsatisfied
        else .ok (store.take need)
  | _ => .ok (store.take need)

/-- Sort the store by device policy and choose; too few candidates choose nothing. -/
def pickDevices : Except ReasonCode (List Device) :=
  if store.length < need then .ok []
  else allocateByTopologyMode P n now grace req (sortDeviceStore P req.devicePolicy store) need

end

/-! ## 4. One container -/

section

variable (now grace : Int) (req : AllocationRequest P.F) (n : NodeInfo) (preferred : List Text) (need : ContainerNeed)

/-- Place one container; the claims come out in the order of the device indices. -/
def allocateOne (req : AllocationRequest P.F)
    (need : ContainerNeed) (restrictUUIDs : Option (List Text)) :
    Except ReasonCode ContainerDeviceClaim :=
  if n.schedulableDevices < need.number then .error .insufficientGPUCards
  else
    let (needCores, needMemory) := n.resolve P.int need
    let store := filterDevices P n req needCores needMemory restrictUUIDs
    match pickDevices P n now grace req store need.number.toNat with
    | .error code => .error code
    | .ok picked =>
      if (picked.length : Int) ≠ need.number then
        .error ((reasonFromCounts (deviceRefusals P n req needCores needMemory restrictUUIDs)).getD
            .insufficientGPUResources)
      else
        .ok ⟨need.name, sortBy (fun a b => decide (a.id < b.id)) (buildClaims picked needCores needMemory)⟩

/-- Record the claims of a placed container. -/
def addContainerAllocate (A : IntArith) (n : NodeInfo) (claims : List DeviceClaim) : Option NodeInfo :=
  claims.foldlM (fun n claim => n.addUsedResources A claim) n

/-- Place one container and record its claims for the next one. -/
def allocateAndAccumulate : Except AllocError (ContainerDeviceClaim × NodeInfo) :=
  match allocateOne P now grace n req need none with
  | .error code => .error (.rejected code)
  | .ok claim =>
    match addContainerAllocate P.int n claim.deviceClaims with
    | none => .error .internal
    | some n' => .ok (claim, n')

/-- Place containers one after the other, each on what the earlier ones left. -/
def allocateConcurrent (now grace : Int) (req : AllocationRequest P.F) : NodeInfo → List ContainerNeed →
      Except AllocError (List (ContainerNeed × ContainerDeviceClaim) × NodeInfo)
  | n, [] => .ok ([], n)
  | n, need :: needs => do
      let (claim, n) ← allocateAndAccumulate P now grace req n need
      let (rest, n) ← allocateConcurrent now grace req n needs
      return ((need, claim) :: rest, n)

/-- Place a sequential init container: on GPUs the pod already uses if that works, else on any. -/
def allocateInit : Except AllocError ContainerDeviceClaim :=
  let reused := if preferred = [] then none
    else (allocateOne P now grace n req need (some preferred)).toOption
  match reused with
  | some claim => .ok claim
  | none =>
    match allocateOne P now grace n req need none with
    | .ok claim => .ok claim
    | .error code => .error (.rejected code)

/-- Place the sequential init containers, all against the same usage. -/
def allocateInits (now grace : Int) (req : AllocationRequest P.F) (n : NodeInfo) (preferred : List Text) :
    List ContainerNeed → Except AllocError (List (ContainerNeed × ContainerDeviceClaim))
  | [] => .ok []
  | need :: needs => do
      let claim ← allocateInit P now grace req n preferred need
      let rest ← allocateInits now grace req n preferred needs
      return (need, claim) :: rest

/-- The UUIDs placed containers use. -/
def usedUUIDs (placed : List (ContainerNeed × ContainerDeviceClaim)) : List Text :=
  placed.flatMap fun e => e.2.deviceClaims.map DeviceClaim.uuid

/-! ## 5. The whole pod -/

/-- The claims of the pod's containers in request order, and the usage that is left behind. -/
def allocateClaims (req : AllocationRequest P.F) : Except AllocError (PodDeviceClaim × NodeInfo) :=
  if !req.hasSequentialInit then do
    let (placed, n) ← allocateConcurrent P now grace req n req.containers
    return (placed.map Prod.snd, n)
  else do
    let (sidecars, n) ← allocateConcurrent P now grace req n (req.containers.filter ContainerNeed.sidecar)
    let viewBaseSidecar := n.snapshotUsage
    let (apps, n) ← allocateConcurrent P now grace req n (req.containers.filter fun need => need.kind = .app)
    -- init containers run before the app phase, so its reservation is released for them
    let n := n.restoreUsage viewBaseSidecar
    let inits ← allocateInits P now grace req n (usedUUIDs (sidecars ++ apps))
      (req.containers.filter ContainerNeed.sequentialInit)
    let placed := sidecars ++ apps ++ inits
    -- the last claim stored under a name is the one the map returns
    let byName (name : Text) : Option ContainerDeviceClaim :=
      (placed.reverse.find? fun e => e.1.name = name).map Prod.snd
    return (req.containers.filterMap fun need => byName need.name, n)

/-- `Allocate`: the pod with its pre-allocation, and the node's usage after the calls. -/
def allocate (req : AllocationRequest P.F) : Except AllocError (Pod × NodeInfo) := do
  let (claims, n) ← allocateClaims P now grace n req
  return ({ req.pod with annotations := { req.pod.annotations with
    preAllocated := some (PodDeviceClaim.marshalText claims)
    predicateNode := some n.name } }, n)

end

end Allocate

end VGpuManager

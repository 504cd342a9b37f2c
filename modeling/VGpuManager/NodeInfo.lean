import VGpuManager.Footprint

/-!
# The node's device state

`NodeInfo` is the snapshot the scheduler works on: the registered devices with their usage, the
aggregates over the schedulable ones and the connectivity view. The file follows
`pkg/device/types.go`: building the snapshot from the node's registry and its pods, adding a
pod's usage, saving and restoring usage, and the aggregates.
-/

namespace VGpuManager

open Foundation

/-! ## 1. Nodes -/

/-- An annotation that holds encoded data: missing, undecodable, or decoded. -/
inductive Published (α : Type) where
  | absent
  | malformed
  | value (a : α)

structure NodeConfigInfo where
  deviceSplit : Int
  memoryFactor : Int
  /-- Whether the published memory scaling is above one. -/
  memoryScaled : Bool := false
deriving DecidableEq, Repr

/-- The links one GPU publishes, by the index of the peer. -/
structure TopologyInfo where
  index : Int
  links : Dict Int (List Nat)

/-- The endpoints annotation of a remote GPU server. -/
inductive RemoteEndpoint where
  | absent | bad | unreachable | reachable
deriving DecidableEq, Repr

structure Node where
  name : Text
  deleting : Bool := false
  /-- Allocatable vGPUs the node advertises. -/
  vgpuAllocatable : Int := 0
  remoteServerLabel : Bool := false
  remoteEndpoint : RemoteEndpoint := .absent
  deviceRegister : Published (List DeviceInfo)
  configInfo : Published NodeConfigInfo
  topology : Published (List TopologyInfo) := .absent
  gpuDomain : Published (Dict Text Text) := .absent

/-- `IsRemoteServerNode`. -/
def Node.isRemoteServer (node : Node) : Bool :=
  node.remoteServerLabel && node.remoteEndpoint ≠ .absent

inductive NodeInfoError where
  | noVGPURegister | badVGPURegister | noVGPUConfig | badVGPUConfig
  /-- A device index outside the list: the program stops there. -/
  | indexOutOfRange
deriving DecidableEq, Repr

/-! ## 2. The snapshot -/

structure NodeInfo where
  name : Text
  deviceMap : DeviceMap
  deviceIndexMap : Dict Text Int
  deviceList : DeviceList
  memoryFactor : Int
  gpuTopology : Bool
  numaTopology : Bool
  tiers : Option TieredComponents := none
  gpuRail : Dict Text Text := ∅
  nvlinkComponentByUUID : Dict Text Nat := ∅
  nvlinkComponentToUUIDs : Dict Nat (List Text) := ∅
  domains : ComponentDomains := {}
  maxNUMAGroupSize : Nat := 0
  nodePods : List Pod := []
  allSameCapacity : Bool := false
  total : Amount := {}
  used : Amount := {}
  schedulableDevices : Int := 0
  maxDeviceCores : Int := 0
  maxDeviceMemory : Int := 0

namespace NodeInfo

/-- The devices of the node. -/
def devices (n : NodeInfo) : List Device := n.deviceMap.devices

variable (A : IntArith) (P : Platform) (now grace : Int) (n : NodeInfo)

/-- What is left of one resource on the whole node. -/
def getAvailable (r : Resource) : Int :=
  A.left (n.total.get r) (n.used.get r)

def getAvailableNumber : Int := n.getAvailable A .number
def getAvailableCores : Int := n.getAvailable A .cores
def getAvailableMemory : Int := n.getAvailable A .memory

/-! ## 3. Usage -/

/-- Record an occupancy on the device with this UUID; `none` when the node does not have it.
The aggregates follow only for schedulable devices. -/
def addAmount (uuid : Text) (a : Amount) : Option NodeInfo :=
  match n.deviceIndexMap.lookup uuid with
  | none => none
  | some id =>
    match n.deviceMap.get? id with
    | none => none
    | some d => some
        { n with
          deviceMap := n.deviceMap.modifyUsed id fun used => used.add A a
          used := if d.schedulable then n.used.add A a else n.used }

/-- `AddUsedResources`: one vGPU claim. -/
def addUsedResources (claim : DeviceClaim) : Option NodeInfo :=
  n.addAmount A claim.uuid claim.amount

/-- Record a list of occupancies; one on an unknown device is skipped. -/
def addAmounts (l : List (Text × Amount)) : NodeInfo :=
  l.foldl (fun n e => (n.addAmount A e.1 e.2).getD n) n

/-- Record a pod's usage, if its allocation still counts. -/
def addPodUsedResources (pod : Pod) : NodeInfo :=
  if shouldCountPodDeviceAllocation P now grace pod then n.addAmounts P.int (podUsage P pod)
  else n

def resetResourceUsage : NodeInfo :=
  { n with used := {}, deviceMap := n.deviceMap.mapUsed fun _ => {} }

/-- The options of building or refilling a snapshot. -/
structure Options where
  excludedUids : List Text := []
  nodePods : List Pod := []
  nodeConfig : Option NodeConfigInfo := none
  nodeDevice : Option (List DeviceInfo) := none
  resetUsed : Bool := false
  resetPods : Bool := false
  gpuTopologyEnabled : Bool := false

/-- Record the pods planned on this node, except the excluded ones. -/
def addPodsUsedResources (pods : List Pod) (opts : Options) : NodeInfo :=
  let n := if opts.resetPods then { n with nodePods := [] } else n
  let n := if opts.resetUsed then n.resetResourceUsage else n
  ((podsOnNode pods n.name).filter fun pod => pod.uid ∉ opts.excludedUids).foldl
    (fun n pod => ({ n with nodePods := n.nodePods ++ [pod] }).addPodUsedResources P now grace pod)
    n

/-- The usage counters of a snapshot in time. -/
structure UsageSnapshot where
  node : Amount
  devices : List (Int × Amount)

def snapshotUsage : UsageSnapshot :=
  ⟨n.used, n.devices.map fun d => (d.id, d.used)⟩

/-- Roll the counters back; a device the snapshot does not have keeps its usage. -/
def restoreUsage (snap : UsageSnapshot) : NodeInfo :=
  { n with
    used := snap.node
    deviceMap := n.deviceMap.mapUsed fun d =>
      ((snap.devices.find? fun e => e.1 = d.id).map Prod.snd).getD d.used }

/-! ## 4. Aggregates -/

/-- Recompute the aggregates over the healthy devices that are not in MIG mode. -/
def refreshResourcesData : NodeInfo :=
  let ds := n.devices.filter Device.schedulable
  { n with
    schedulableDevices := ds.length
    total := Amount.ofFun fun r => A.sum (ds.map fun d => d.getTotal r)
    used := Amount.ofFun fun r => A.sum (ds.map fun d => A.sub (d.getTotal r) (d.allocatable A r))
    maxDeviceCores := (ds.map Device.getTotalCores).foldl max 0
    maxDeviceMemory := (ds.map Device.getTotalMemory).foldl max 0
    allSameCapacity := ds.all fun d => d.getTotalMemory = (ds.head?.map Device.getTotalMemory).getD 0 }

end NodeInfo

/-! ## 5. Building the snapshot -/

/-- The decoded registry, in the order of the device indices. -/
def parseNodeDeviceInfo (ds : List DeviceInfo) : List DeviceInfo :=
  sortBy (fun a b => decide (a.id < b.id)) ds

/-- Devices, UUID index and link list of a registry. -/
structure DeviceGatherInfo where
  deviceMap : DeviceMap := .empty
  deviceIndexMap : Dict Text Int := ∅
  deviceList : DeviceList := []

/-- Enter one registered device; an index outside the list stops the program. -/
def DeviceGatherInfo.add (g : DeviceGatherInfo) (dev : DeviceInfo) : Except NodeInfoError DeviceGatherInfo :=
  if dev.id < 0 ∨ (g.deviceList.length : Int) ≤ dev.id then .error .indexOutOfRange
  else .ok
    { deviceMap := g.deviceMap.insert (newDevice dev)
      deviceIndexMap := g.deviceIndexMap.insert dev.uuid dev.id
      deviceList := g.deviceList.set dev.id.toNat (some ⟨dev.id, dev.uuid, ∅⟩) }

/-- `AddLink`: one more link between two GPUs of the list. -/
def addLink (l : DeviceList) (source target : Int) (type : Nat) : Except NodeInfoError DeviceList :=
  match DeviceList.gpuAt l source, DeviceList.gpuAt l target with
  | some g, some h =>
    let types := g.linksTo h.index ++ [type]
    .ok (l.set source.toNat (some { g with links := g.links.insert h.index types }))
  | _, _ => .error .indexOutOfRange

variable (P : Platform)

/-- All links a node publishes, as `(source, target, type)`. -/
def publishedLinks (ts : List TopologyInfo) : List (Int × Int × Nat) :=
  ts.flatMap fun t => (Dict.walk P t.links).flatMap fun (target, types) =>
    types.map fun type => (t.index, target, type)

/-- The largest number of devices on one NUMA node. -/
def computeMaxNUMAGroupSize (m : DeviceMap) : Nat :=
  let numas := (m.devices.map Device.numa).filter (0 ≤ ·)
  (numas.map fun x => numas.count x).foldl max 0

/-- The decoded value of an annotation, or the error for a missing or malformed one. -/
def Published.read {α : Type} (missing bad : NodeInfoError) : Published α → Except NodeInfoError α
  | .absent => .error missing
  | .malformed => .error bad
  | .value a => .ok a

variable (now grace : Int) (node : Node) (opts : NodeInfo.Options)

/-- The links and rails of a node, if topology is wanted and published. -/
def gatherTopology (enabled : Bool) (l : DeviceList) : Except NodeInfoError (DeviceList × Bool × Dict Text Text) :=
  if !enabled then .ok (l, false, ∅)
  else match node.topology with
  | .absent => .ok (l, false, ∅)
  | topo => do
      let links := match topo with
        | .value ts => publishedLinks P ts
        | _ => []
      let l ← links.foldlM (fun l e => addLink l e.1 e.2.1 e.2.2) l
      let rails := match node.gpuDomain with
        | .value rails => rails
        | _ => ∅
      return (l, !links.isEmpty, rails)

/-- The registry a snapshot is built from. -/
def NodeInfo.Options.registry : Except NodeInfoError (List DeviceInfo) :=
  match opts.nodeDevice with
  | some ds => .ok ds
  | none => (node.deviceRegister.read .noVGPURegister .badVGPURegister).map parseNodeDeviceInfo

def NodeInfo.Options.config : Except NodeInfoError NodeConfigInfo :=
  match opts.nodeConfig with
  | some c => .ok c
  | none => node.configInfo.read .noVGPUConfig .badVGPUConfig

/-- Enter all registered devices. -/
def gatherDevices (registry : List DeviceInfo) : Except NodeInfoError DeviceGatherInfo :=
  registry.foldlM DeviceGatherInfo.add { deviceList := List.replicate registry.length none }

/-- The snapshot before any pod is recorded. -/
def bareNodeInfo : Except NodeInfoError NodeInfo := do
  let registry ← opts.registry node
  let config ← opts.config node
  let gather ← gatherDevices registry
  let (deviceList, gpuTopology, gpuRail) ← gatherTopology P node opts.gpuTopologyEnabled gather.deviceList
  let tiers := computeTieredComponents P deviceList
  let byUUID := if gpuTopology then tiers.byUUID .nvlink deviceList else ∅
  let toUUIDs := buildComponentIndex P byUUID
  let numaTopology := registry.any fun d => 0 ≤ d.numa
  return {
    name := node.name
    deviceMap := gather.deviceMap
    deviceIndexMap := gather.deviceIndexMap
    deviceList := deviceList
    memoryFactor := config.memoryFactor
    gpuTopology := gpuTopology
    numaTopology := numaTopology
    tiers := if gpuTopology then some tiers else none
    gpuRail := if gpuTopology then gpuRail else ∅
    nvlinkComponentByUUID := byUUID
    nvlinkComponentToUUIDs := toUUIDs
    domains := if gpuTopology
      then buildComponentDomains P toUUIDs gather.deviceIndexMap gpuRail else {}
    maxNUMAGroupSize := if numaTopology then computeMaxNUMAGroupSize gather.deviceMap else 0 }

/-- `NewNodeInfo`: the snapshot of a node with its registry, topology and pods. -/
def newNodeInfo : Except NodeInfoError NodeInfo :=
  (bareNodeInfo P node opts).map fun info =>
    (info.addPodsUsedResources P now grace opts.nodePods opts).refreshResourcesData P.int

end VGpuManager

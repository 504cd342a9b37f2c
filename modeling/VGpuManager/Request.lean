import VGpuManager.NodeInfo

/-!
# Allocation requests and scores

`BuildAllocationRequest` parses a pod once into what the filter and the allocator need, and
`ResetStatistics` recomputes its demand for one node. The scoring functions of
`pkg/device/allocator/profile.go` and the comparators of `priority.go` follow.
-/

namespace VGpuManager

open Foundation

/-! ## 1. The request -/

inductive ContainerKind where
  | init | app
deriving DecidableEq, Repr

/-- One container's vGPU request, as the user typed it. -/
structure ContainerNeed where
  name : Text
  kind : ContainerKind
  restartable : Bool
  number : Int
  cores : Int
  memory : Int
deriving DecidableEq, Repr

namespace ContainerNeed

/-- An init container that runs alone before the main phase. -/
def sequentialInit (need : ContainerNeed) : Bool := need.kind = .init && !need.restartable

/-- An init container that keeps running. -/
def sidecar (need : ContainerNeed) : Bool := need.kind = .init && need.restartable

end ContainerNeed

inductive SchedulerPolicy where
  | none | binpack | spread
  | unsupported (value : Text)
deriving DecidableEq, Repr

inductive TopologyMode where
  | none | numa | link | pcie
  | unsupported (value : Text)
deriving DecidableEq, Repr

structure RequestProfile (F : Type) where
  numWeight : F
  memWeight : F
  coreWeight : F

structure AllocationRequest (F : Type) where
  pod : Pod
  accessMode : AccessMode
  controllerOwner : Option OwnerReference
  containers : List ContainerNeed
  total : Amount
  max : Amount
  nodePolicy : SchedulerPolicy
  devicePolicy : SchedulerPolicy
  topology : TopologyMode
  topologyStrict : Bool
  gangName : Option Text
  crossPodTopology : Bool
  gangDomainKey : Text := []
  gangRailKey : Text := []
  profile : RequestProfile F
  checkDeviceUuid : Bool
  checkDeviceType : Bool
  hasSequentialInit : Bool

/-- `HundredCore`: the cores of a whole card. -/
def hundredCore : Int := 100

variable (A : IntArith)

/-- The rules for values the user left out: memory is scaled by the node's factor, nothing at
all means a whole card's cores, and no memory means a whole card where all cards agree. -/
def resolveContainerNeeds (need : ContainerNeed) (memoryFactor : Int)
    (allSameCapacity : Bool) (memoryCapacity : Int) : Int × Int :=
  let memory := if 0 < need.memory ∧ 0 < memoryFactor then A.mul need.memory memoryFactor
    else need.memory
  let cores := if need.cores = 0 ∧ memory = 0 then hundredCore else need.cores
  let memory := if memory = 0 ∧ allSameCapacity then memoryCapacity else memory
  (cores, memory)

/-- The largest single need and the demand of the three lifecycle groups. -/
structure Demand where
  largest : Amount := {}
  sidecar : Amount := {}
  regular : Amount := {}
  initMax : Amount := {}

/-- Take one container into the statistics; `resolve` gives its cores and memory per vGPU. -/
def Demand.add (resolve : ContainerNeed → Int × Int) (s : Demand) (need : ContainerNeed) : Demand :=
  let (cores, memory) := resolve need
  let s := { s with largest := s.largest.sup ⟨need.number, cores, memory⟩ }
  let agg : Amount := ⟨need.number, A.mul cores need.number, A.mul memory need.number⟩
  if need.sequentialInit then { s with initMax := s.initMax.sup agg }
  else if need.restartable then { s with sidecar := s.sidecar.add A agg }
  else { s with regular := s.regular.add A agg }

def demandOf (resolve : ContainerNeed → Int × Int) (needs : List ContainerNeed) : Demand :=
  needs.foldl (Demand.add A resolve) {}

/-- The peak over the pod's life: sidecars plus the larger of the other two groups. -/
def Demand.peak (s : Demand) : Amount := s.sidecar.add A (s.regular.sup s.initMax)

/-- The per-vGPU needs of a container on a node. -/
def NodeInfo.resolve (n : NodeInfo) (need : ContainerNeed) : Int × Int :=
  resolveContainerNeeds A need n.memoryFactor n.allSameCapacity n.maxDeviceMemory

/-- `ResetStatistics`: the demand as this node counts it. -/
def AllocationRequest.resetStatistics {P : Platform} (req : AllocationRequest P.F) (n : NodeInfo) :
    AllocationRequest P.F :=
  let s := demandOf P.int (n.resolve P.int) req.containers
  { req with max := s.largest, total := s.peak P.int }

/-! ## 2. Parsing a pod -/

def parseSchedulerPolicy (raw : Option Text) : SchedulerPolicy :=
  let lower := toLower (raw.getD [])
  if lower = "binpack".toList then .binpack
  else if lower = "spread".toList then .spread
  else if lower = "none".toList ∨ lower = [] then .none
  else .unsupported lower

/-- The base mode and whether the strict variant was asked for. -/
def parsePodTopologyMode (raw : Option Text) : TopologyMode × Bool :=
  let mode := toLower (raw.getD [])
  if mode = "numa".toList then (.numa, false)
  else if mode = "numa-strict".toList then (.numa, true)
  else if mode = "link".toList then (.link, false)
  else if mode = "link-strict".toList then (.link, true)
  else if mode = "pcie".toList then (.pcie, false)
  else if mode = "pcie-strict".toList then (.pcie, true)
  else if mode = "none".toList ∨ mode = [] then (.none, false)
  else (.unsupported mode, false)

/-- The request of one container, if it asks for vGPUs. -/
def Container.need (kind : ContainerKind) (c : Container) : Option ContainerNeed :=
  if c.vgpuNumber ≤ 0 then none
  else some
    { name := c.name
      kind := kind
      restartable := kind = .init && c.restartable
      number := c.vgpuNumber
      cores := c.vgpuCores
      memory := c.vgpuMemory }

/-- The requesting containers: init containers first, then regular ones, in spec order. -/
def containerNeeds (pod : Pod) : List ContainerNeed :=
  pod.initContainers.filterMap (Container.need .init) ++ pod.containers.filterMap (Container.need .app)

section Scores

variable (P : Platform)

def uniformProfile : RequestProfile P.F :=
  let third := P.div (P.ofInt 1) (P.ofInt 3)
  ⟨third, third, third⟩

/-- The weights of a pod's request, on a common scale of whole cards. -/
def newRequestProfile (total : Amount) : RequestProfile P.F :=
  let number := P.ofInt total.number
  if total.number ≤ 0 then uniformProfile P
  else
    let cores := if 0 < total.cores then P.div (P.ofInt total.cores) (P.ofInt hundredCore)
      else P.ofInt 0
    let memory := if total.memory ≤ 0 then number
      else P.fmax (P.ceil (P.div (P.ofInt total.memory) (P.ofInt 1024))) number
    let sum := P.add (P.add number memory) cores
    if P.eq sum (P.ofInt 0) then uniformProfile P
    else ⟨P.div number sum, P.div memory sum, P.div cores sum⟩

end Scores

def buildAllocationRequest (P : Platform) (pod : Pod) : AllocationRequest P.F :=
  let needs := containerNeeds pod
  let s := demandOf P.int (fun need => resolveContainerNeeds P.int need 0 false 0) needs
  let parsed := !needs.isEmpty
  let (topology, strict) := if parsed then parsePodTopologyMode pod.annotations.deviceTopologyMode
    else (.none, false)
  { pod := pod
    accessMode := podVGPUAccessMode pod
    controllerOwner := controllerOf pod
    containers := needs
    total := s.peak P.int
    max := s.largest
    nodePolicy := if parsed then parseSchedulerPolicy pod.annotations.nodeSchedulerPolicy
      else .unsupported []
    devicePolicy := if parsed then parseSchedulerPolicy pod.annotations.deviceSchedulerPolicy
      else .unsupported []
    topology := topology
    topologyStrict := strict
    gangName := if parsed then podGangKey pod else none
    crossPodTopology := parsed && toLower (pod.annotations.crossPodTopology.getD []) = "true".toList
    profile := if parsed then newRequestProfile P (s.peak P.int)
      else ⟨P.ofInt 0, P.ofInt 0, P.ofInt 0⟩
    checkDeviceUuid := parsed && (pod.annotations.includeGpuUuid.isSome || pod.annotations.excludeGpuUuid.isSome)
    checkDeviceType := parsed && (pod.annotations.includeGpuType.isSome || pod.annotations.excludeGpuType.isSome)
    hasSequentialInit := needs.any ContainerNeed.sequentialInit }

/-! ## 3. Scores -/

section Scores

variable (P : Platform)

def safeDiv (a b : P.F) : P.F := if P.eq b (P.ofInt 0) then P.ofInt 0 else P.div a b

/-- The used fraction of each resource. -/
structure ResourceUtilization where
  num : P.F
  mem : P.F
  core : P.F

variable (d e : Device)

/-- The free fraction of one resource of a device. -/
def Device.freeRatio (r : Resource) : P.F :=
  safeDiv P (P.ofInt (d.allocatable P.int r)) (P.ofInt (d.getTotal r))

/-- `Score`: the mean free fraction of a device, in percent. -/
def Device.score : P.F :=
  P.mul (P.div (P.add (P.add (d.freeRatio P .number) (d.freeRatio P .memory))
    (d.freeRatio P .cores)) (P.ofInt 3)) (P.ofInt hundredCore)

def deviceUtilization : ResourceUtilization P :=
  ⟨P.sub (P.ofInt 1) (d.freeRatio P .number), P.sub (P.ofInt 1) (d.freeRatio P .memory),
    P.sub (P.ofInt 1) (d.freeRatio P .cores)⟩

def numaUtilization (ds : List Device) : ResourceUtilization P :=
  if ds = [] then ⟨P.ofInt 0, P.ofInt 0, P.ofInt 0⟩
  else
    let us := ds.map (deviceUtilization P)
    let n := P.ofInt ds.length
    let sum (f : ResourceUtilization P → P.F) := (us.map f).foldl P.add (P.ofInt 0)
    ⟨P.div (sum (·.num)) n, P.div (sum (·.mem)) n, P.div (sum (·.core)) n⟩

/-- `Score`: weighted use for binpack, weighted rest for spread, nothing otherwise. -/
def policyScore (u : ResourceUtilization P) (p : RequestProfile P.F) (policy : SchedulerPolicy) : P.F :=
  let free (x : P.F) := P.sub (P.ofInt 1) x
  match policy with
  | .binpack => P.add (P.add (P.mul p.numWeight u.num) (P.mul p.memWeight u.mem)) (P.mul p.coreWeight u.core)
  | .spread => P.add (P.add (P.mul p.numWeight (free u.num)) (P.mul p.memWeight (free u.mem)))
      (P.mul p.coreWeight (free u.core))
  | _ => P.ofInt 0

/-! ## 4. Device order -/

def byDeviceScoreAsc : Bool := P.lt (d.score P) (e.score P)

def byDeviceScoreDes : Bool := P.lt (e.score P) (d.score P)

def byDeviceIdAsc : Bool := decide (d.id < e.id)

/-- Ascending NUMA node, unknown ones last. -/
def byNuma : Bool :=
  if d.numa < 0 then false
  else if e.numa < 0 then true
  else decide (d.numa < e.numa)

/-- `NewDevicePolicyPriority`: the device order of a policy. -/
def devicePolicyPriority (policy : SchedulerPolicy) : List (Device → Device → Bool) :=
  match policy with
  | .binpack => [byDeviceScoreAsc P, byDeviceIdAsc]
  | .spread => [byDeviceScoreDes P, byDeviceIdAsc]
  | _ => [byNuma, byDeviceIdAsc]

def sortDeviceStore (policy : SchedulerPolicy) (store : List Device) : List Device :=
  sortBy (lessChain (devicePolicyPriority P policy)) store

end Scores

end VGpuManager

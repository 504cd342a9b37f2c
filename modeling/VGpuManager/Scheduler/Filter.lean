import VGpuManager.Scheduler.Gate

/-!
# The filter

`Filter` drops the candidates that are no vGPU nodes for the pod, builds a snapshot of each
remaining one without the pod's own allocation, drops those the capacity gate refuses, orders the
rest and lets the allocator try them one after the other. The first node that fits is written
to the pod. The file follows `pkg/scheduler/filter/filter_predicate.go` and the node order of
`pkg/device/allocator/priority.go`.
-/

namespace VGpuManager

open Foundation

/-! ## 1. Node checks -/

/-- `GetMemoryPolicyFunc`: does the node's memory scaling suit the pod's policy? -/
def memoryPolicyReason (pod : Pod) (config : NodeConfigInfo) : Option ReasonCode :=
  let policy := toLower (trimSpace (pod.annotations.memorySchedulerPolicy.getD []))
  if policy = "virtual".toList ∨ "virt".toList.isPrefixOf policy then
    if config.memoryScaled then none else some .nodeMemoryTypeMismatch
  else if policy = "physical".toList ∨ "phy".toList.isPrefixOf policy then
    if config.memoryScaled then some .nodeMemoryTypeMismatch else none
  else none

/-- `CheckNode`: the first prerequisite the node does not meet. -/
def checkNode (node : Node) (check : NodeConfigInfo → Option ReasonCode) : Option ReasonCode :=
  if node.vgpuAllocatable ≤ 0 then some .nodeNotVGPUEnabled
  else match node.deviceRegister with
  | .absent => some .nodeNoVGPURegister
  | .malformed => some .nodeBadVGPURegister
  | .value _ =>
    match node.configInfo with
    | .absent => some .nodeNoVGPUConfig
    | .malformed => some .nodeBadVGPUConfig
    | .value config =>
      if config.deviceSplit ≤ 0 then some .nodeNotVGPUEnabled
      else if config.memoryFactor ≤ 0 then some .nodeBadMemoryFactor
      else if node.isRemoteServer && node.remoteEndpoint = .bad then
        some .nodeBadRemoteEndpoint
      else if node.isRemoteServer && node.remoteEndpoint = .unreachable then
        some .nodeRemoteServerUnreachable
      else check config

/-- `nodeFilter` on one candidate. -/
def nodeFilter {P : Platform} (req : AllocationRequest P.F) (node : Node) : Option ReasonCode :=
  if node.deleting then some .nodeDeleting
  -- a server's usage includes pods of other nodes, which a local snapshot does not count
  else if req.accessMode = .localMode ∧ node.isRemoteServer = true then some .nodeIsRemoteServer
  else checkNode node (memoryPolicyReason req.pod)

/-! ## 2. Snapshots of the candidates -/

/-- `UsesLinkTiers`: the modes that need the connectivity view. -/
def TopologyMode.usesLinkTiers (m : TopologyMode) : Bool := m = .link || m = .pcie

/-- The decoded value of an annotation, if there is one. -/
def Published.value? {α : Type} : Published α → Option α
  | .value a => some a
  | _ => none

section Filter

variable (P : Platform) (now grace : Int) (gpuTopology : Bool)

section

variable (req : AllocationRequest P.F)

/-- How the filter builds a candidate's snapshot: the pods planned there without the pod itself,
and the registry and configuration the node checks have decoded. -/
def filterOptions (node : Node) (nodePods : List Pod) : NodeInfo.Options where
  nodePods := nodePods
  excludedUids := [req.pod.uid]
  gpuTopologyEnabled := gpuTopology && req.topology.usesLinkTiers
  nodeConfig := node.configInfo.value?
  nodeDevice := node.deviceRegister.value?.map parseNodeDeviceInfo

/-- `preFilterNodeInfos` on one candidate: its snapshot, unless the capacity gate refuses it. -/
def preFilterNodeInfo (node : Node) (nodePods : List Pod) : Except ReasonCode NodeInfo :=
  match newNodeInfo P now grace node (filterOptions P gpuTopology req node nodePods) with
  | .error _ => .error .nodeInfoBuildFailed
  | .ok info =>
    match nodeCapacityGate P (req.resetStatistics info) info with
    | some code => .error code
    | none => .ok info

end

/-- `NodeMapByIndexValue`: the vGPU pods planned on a node. -/
def nodePodsOf (pods : List Pod) (node : Text) : List Pod :=
  pods.filter fun pod => isVGPUResourcePod pod && podPlanSchedulingNode pod = node

/-- The most voted key, the lower one among equals; empty without votes. -/
def majorityKey (votes : List Text) : Text :=
  ((sortBy (fun a b => decide (votes.count b < votes.count a) ||
    (votes.count a = votes.count b && decide (a < b))) votes.dedup).head?).getD []

/-- The domain most of the GPUs are in. -/
def NodeInfo.domainOfUUIDs (n : NodeInfo) (uuids : List Text) : Option Text :=
  let votes := uuids.dedup.filterMap fun uuid =>
    (n.nvlinkComponentByUUID.lookup uuid).bind n.domains.domain.lookup
  if votes = [] then none else some (majorityKey votes)

section

variable (pods siblings : List Pod) (infoOf : Text → Option NodeInfo) (nodes : List Node) (req : AllocationRequest P.F)

/-- `FindGangSiblingDomain`: the domain and the rail most placed siblings have, each resolved on
the sibling's own node. -/
def findGangSiblingDomain : Text × Text :=
  let live := siblings.filter fun p => p.uid ≠ req.pod.uid &&
    shouldCountPodDeviceAllocation P now grace p && podPreAllocatedUUIDs P.int p ≠ []
  let resolved := live.filterMap fun p =>
    let name := podPlanSchedulingNode p
    -- a sibling on a node that is no candidate has its snapshot built on demand
    let info := infoOf name <|> (nodes.find? fun node => node.name = name).bind fun node =>
      (newNodeInfo P now grace node { gpuTopologyEnabled := true }).toOption
    info.map fun n => (n, podPreAllocatedUUIDs P.int p)
  (majorityKey (resolved.filterMap fun e => e.1.domainOfUUIDs e.2),
    majorityKey (resolved.filterMap fun e => e.1.railSignatureOfUUIDs e.2))

/-- Are the gang keys looked up for this request? -/
def needGangOrdinal : Bool :=
  req.crossPodTopology && (gpuTopology && req.topology.usesLinkTiers) && req.topology = .link &&
    (req.gangName.isSome || req.controllerOwner.isSome)

/-- The request with the keys of its placed siblings. -/
def withGangKeys : AllocationRequest P.F :=
  if needGangOrdinal P gpuTopology req then
    let keys := findGangSiblingDomain P now grace
      (pods.filter (isSibling req.gangName req.controllerOwner)) infoOf nodes req
    { req with gangDomainKey := keys.1, gangRailKey := keys.2 }
  else req

end

section

variable (cluster : List Node) (pods : List Pod) (req : AllocationRequest P.F) (nodes : List Node)

/-- All gates and the allocation on one candidate; `keyed` is the request with its gang keys. -/
def filterNode (keyed : AllocationRequest P.F) (node : Node) (nodePods : List Pod) : Except AllocError Pod :=
  match nodeFilter req node with
  | some code => .error (.rejected code)
  | none =>
    match preFilterNodeInfo P now grace gpuTopology req node nodePods with
    | .error code => .error (.rejected code)
    | .ok info => (allocate P now grace info keyed).map Prod.fst

/-! ## 3. The order of the candidates -/

/-- `LinkTopologyFitness`: how tightly a group of this size can be placed. -/
def linkTopologyFitness (n : NodeInfo) (need : Int) : Nat :=
  let largest (tier : LinkTier) : Int := ((n.tiers.map fun tc => tc.maxSize tier).getD 0 : Nat)
  if !n.gpuTopology then 0
  else if need ≤ largest .nvlink then 5
  else if need ≤ largest .switch then 4
  else if need ≤ largest .numa then 3
  else if need ≤ largest .any then 2
  else 1

def numaTopologyFitness (n : NodeInfo) (need : Int) : Nat :=
  if !n.numaTopology then 0
  else if need ≤ (n.maxNUMAGroupSize : Int) then 2
  else 1

/-- The used fraction of a node: for binpack after the pod is placed, for spread as it is. -/
def nodeUtilization (n : NodeInfo) (req : AllocationRequest P.F) : ResourceUtilization P :=
  let avail (r : Resource) : P.F := P.ofInt (n.getAvailable P.int r)
  let want (r : Resource) : P.F := P.ofInt (req.total.get r)
  let rest (r : Resource) : P.F :=
    if req.nodePolicy = .binpack then P.sub (avail r) (want r) else avail r
  let used (r : Resource) : P.F :=
    P.sub (P.ofInt 1) (safeDiv P (rest r) (P.ofInt (n.total.get r)))
  if P.lt (avail .number) (want .number) || P.lt (avail .cores) (want .cores) ||
      P.lt (avail .memory) (want .memory) then
    let worst := P.ofInt (if req.nodePolicy = .spread then 1 else 0)
    ⟨worst, worst, worst⟩
  else ⟨used .number, used .memory, used .cores⟩

/-- A candidate with its snapshot, the statistics of the request there and its position. -/
structure Candidate where
  info : NodeInfo
  req : AllocationRequest P.F
  position : Nat

def Candidate.score (c : Candidate P) : P.F :=
  P.mul (policyScore P (nodeUtilization P c.info c.req) c.req.profile c.req.nodePolicy) (P.ofInt hundredCore)

/-- `ApplyTopologyMode`: the fitness for a topology goes before everything else. -/
def applyTopologyMode (less : List (Candidate P → Candidate P → Bool)) : List (Candidate P → Candidate P → Bool) :=
  match req.topology with
  | .link | .pcie => (fun a b => decide (linkTopologyFitness b.info req.max.number <
      linkTopologyFitness a.info req.max.number)) :: less
  | .numa => (fun a b => decide (numaTopologyFitness b.info req.max.number <
      numaTopologyFitness a.info req.max.number)) :: less
  | _ => less

def sortNodeInfos (cs : List (Candidate P)) : List (Candidate P) :=
  let byPolicy : List (Candidate P → Candidate P → Bool) :=
    [fun a b => P.lt (b.score P) (a.score P), fun a b => decide (a.info.name < b.info.name)]
  let byPosition : List (Candidate P → Candidate P → Bool) :=
    [fun a b => decide (a.position < b.position)]
  match req.nodePolicy with
  | .binpack | .spread => sortBy (lessChain (applyTopologyMode P req byPolicy)) cs
  | _ => sortBy (lessChain (applyTopologyMode P req byPosition)) cs

/-! ## 4. The live call -/

/-- `MaxDeviceCount`: the most devices one container can be given. -/
def maxDeviceCount : Int := 16

/-- `CheckDeviceRequest`: no container asks for more than a card's cores or the device limit. -/
def checkDeviceRequest : Bool :=
  req.containers.all fun need => need.cores ≤ hundredCore && need.number ≤ maxDeviceCount

/-- `IsScheduled`: the node the pod was already placed on, if its pre-allocation is readable. -/
def isScheduled (A : IntArith) (pod : Pod) : Option Text :=
  let node := pod.annotations.predicateNode.getD []
  let pre := pod.annotations.preAllocated.getD []
  if node = [] ∨ pre = [] then none
  else match PodDeviceClaim.unmarshalText A pre with
  | .ok _ => some node
  | .error _ => none

/-- How a call can fail as a whole. -/
inductive FilterError where
  | alreadyBound | windowsPod | badRequest | predicatedElsewhere | allocatorError | patchFailed
deriving DecidableEq, Repr

/-- What a call decides: the pod is not its business, every node is refused, the pod stays with
the node it already has, or an allocation is written to the pod. -/
inductive FilterOutcome where
  | skipped
  | refused
  | kept (node : Text)
  | placed (pod : Pod)

/-- `PatchPodPreAllocatedMetadata`: what the patch makes of the allocated pod. -/
def patchPodPreAllocatedMetadata (pod : Pod) : Except FilterError Pod :=
  if podAnnotationMaxLength < (pod.annotations.preAllocated.getD []).length then
    .error .patchFailed
  else .ok { pod with
    labels := { pod.labels with assignedPhase := some .filtering }
    annotations := { pod.annotations with
      realAllocated := some []
      predicateTime := some (fmtInt now) } }

/-- Let the allocator try the candidates in order; an internal error ends the call. -/
def tryCandidates (keyed : AllocationRequest P.F) : List (Candidate P) → Except FilterError FilterOutcome
  | [] => .ok .refused
  | c :: cs =>
    match allocate P now grace c.info keyed with
    | .error (.rejected _) => tryCandidates keyed cs
    | .error .internal => .error .allocatorError
    | .ok (pod, _) => (patchPodPreAllocatedMetadata now pod).map .placed

/-- The candidates the capacity gate leaves, with the statistics of the request on each. -/
def preFilterNodeInfos (pods : List Pod) : List (Candidate P) :=
  nodes.zipIdx.filterMap fun (node, i) =>
    match preFilterNodeInfo P now grace gpuTopology req node (nodePodsOf pods node.name) with
    | .ok info => some ⟨info, req.resetStatistics info, i⟩
    | .error _ => none

/-- `deviceFilter` in live mode. `cluster` is what the node lister knows, `pods` the pod cache. -/
def deviceFilter : Except FilterError FilterOutcome :=
  if !checkDeviceRequest P req then .error .badRequest
  else
    let scheduled := (isScheduled P.int req.pod).filter fun _ =>
      shouldCountPodDeviceAllocation P now grace req.pod
    match scheduled with
    | some name =>
      -- the pre-allocation is current: steer the pod back to its node
      if nodes.any fun node => node.name = name then .ok (.kept name)
      else .error .predicatedElsewhere
    | none =>
      let cs := preFilterNodeInfos P now grace gpuTopology req nodes pods
      let infoOf (name : Text) : Option NodeInfo :=
        (cs.find? fun c => c.info.name = name).map Candidate.info
      let keyed := withGangKeys P now grace gpuTopology pods infoOf cluster req
      tryCandidates P now grace keyed (sortNodeInfos P req cs)

/-- `filter`: both stages of the chain. For a remote pod the chain runs on the GPU servers, and
cross-pod topology is switched off. -/
def filterChain (pod : Pod) (nodes : List Node) : Except FilterError FilterOutcome :=
  let built := buildAllocationRequest P pod
  let req := if built.accessMode = .remoteMode then { built with crossPodTopology := false }
    else built
  let passed := nodes.filter fun node => (nodeFilter req node).isNone
  if pod.nodeName ≠ [] then .error .alreadyBound
  else if built.containers = [] then .ok .skipped
  else if pod.windows then .error .windowsPod
  else if passed = [] then .ok .refused
  else deviceFilter P now grace gpuTopology cluster pods req passed

end

end Filter

/-! ## 5. The snapshots a call builds -/

section Snapshots

variable {P : Platform} {gpuTopology : Bool} {node : Node} {req : AllocationRequest P.F}

variable {check : NodeConfigInfo → Option ReasonCode}

/-- A node that passes the checks has a registry and a configuration. -/
theorem checkNode_none (h : checkNode node check = none) :
    ∃ ds config, node.deviceRegister = .value ds ∧ node.configInfo = .value config := by
  unfold checkNode at h
  split at h
  · simp at h
  split at h
  · simp at h
  · simp at h
  · rename_i ds hds
    split at h
    · simp at h
    · simp at h
    · rename_i config hconfig
      exact ⟨ds, config, hds, hconfig⟩

theorem nodeFilter_none (h : nodeFilter req node = none) : checkNode node (memoryPolicyReason req.pod) = none := by
  unfold nodeFilter at h
  split_ifs at h
  exact h

theorem filterOptions_registry (h : checkNode node check = none) (nodePods : List Pod) :
    (filterOptions P gpuTopology req node nodePods).registry node = NodeInfo.Options.registry node {} := by
  obtain ⟨ds, config, hds, -⟩ := checkNode_none h
  simp [NodeInfo.Options.registry, filterOptions, Published.value?, Published.read, hds, Except.map]

/-- The filter's options read the same registry and configuration as building anew. -/
theorem filterOptions_bare (h : checkNode node check = none) (nodePods : List Pod) :
    bareNodeInfo P node (filterOptions P gpuTopology req node nodePods) = bareNodeInfo P node
        { gpuTopologyEnabled := gpuTopology && req.topology.usesLinkTiers } := by
  obtain ⟨ds, config, -, hconfig⟩ := checkNode_none h
  have hsame : (filterOptions P gpuTopology req node nodePods).config node = NodeInfo.Options.config node {} := by
    simp [NodeInfo.Options.config, filterOptions, Published.value?, Published.read, hconfig]
  unfold bareNodeInfo
  rw [filterOptions_registry h, hsame]
  rfl

end Snapshots

/-! ## 6. What a call that wrote to the pod has found -/

section Placed

variable {P : Platform} {now grace : Int} {gpuTopology : Bool} {cluster nodes : List Node}
  {pods : List Pod} {pod pod' : Pod} {req keyed : AllocationRequest P.F}

theorem patchPodPreAllocatedMetadata_ok (h : patchPodPreAllocatedMetadata now pod = .ok pod') : pod' = { pod with
      labels := { pod.labels with assignedPhase := some .filtering }
      annotations := { pod.annotations with
        realAllocated := some []
        predicateTime := some (fmtInt now) } } := by
  unfold patchPodPreAllocatedMetadata at h
  split_ifs at h
  exact (Except.ok.inj h).symm

theorem tryCandidates_placed : ∀ {cs : List (Candidate P)},
    tryCandidates P now grace keyed cs = .ok (.placed pod') →
    ∃ c ∈ cs, ∃ q m, allocate P now grace c.info keyed = .ok (q, m) ∧ patchPodPreAllocatedMetadata now q = .ok pod'
  | [], h => by simp [tryCandidates] at h
  | c :: cs, h => by
    unfold tryCandidates at h
    split at h
    · obtain ⟨c', hc', hq⟩ := tryCandidates_placed h
      exact ⟨c', List.mem_cons_of_mem c hc', hq⟩
    · simp at h
    · rename_i q m hq
      obtain ⟨p, hp, heq⟩ := map_eq_ok.mp h
      obtain rfl := FilterOutcome.placed.inj heq
      exact ⟨c, by simp, q, m, hq, hp⟩

theorem sortNodeInfos_perm (cs : List (Candidate P)) : (sortNodeInfos P req cs).Perm cs := by
  unfold sortNodeInfos
  split <;> exact sortBy_perm _ _

theorem mem_preFilterNodeInfos {c : Candidate P} (h : c ∈ preFilterNodeInfos P now grace gpuTopology req nodes pods) :
    ∃ node ∈ nodes, newNodeInfo P now grace node
      (filterOptions P gpuTopology req node (nodePodsOf pods node.name)) = .ok c.info := by
  unfold preFilterNodeInfos at h
  obtain ⟨⟨node, i⟩, hmem, hc⟩ := List.mem_filterMap.mp h
  refine ⟨node, List.fst_mem_of_mem_zipIdx hmem, ?_⟩
  dsimp only at hc
  split at hc
  · rename_i info hinfo
    cases hc
    unfold preFilterNodeInfo at hinfo
    split at hinfo
    · simp at hinfo
    · split at hinfo
      · simp at hinfo
      · rwa [← Except.ok.inj hinfo]
  · simp at hc

theorem withGangKeys_builtFrom {infoOf : Text → Option NodeInfo} (h : req.BuiltFrom pod) :
    (withGangKeys P now grace gpuTopology pods infoOf cluster req).BuiltFrom pod := by
  unfold withGangKeys
  split
  · obtain ⟨_, _, _, _, _, rfl⟩ := h
    exact ⟨_, _, _, _, _, rfl⟩
  · exact h

/-- **A call that wrote to the pod** has found a candidate that passes the node checks, on whose
snapshot the allocator placed the pod. -/
theorem filterChain_placed (h : filterChain P now grace gpuTopology cluster pods pod nodes = .ok (.placed pod')) :
    pod.nodeName = [] ∧ containerNeeds pod ≠ [] ∧ ∃ node ∈ nodes, ∃ req keyed : AllocationRequest P.F, ∃ info q m,
      req.pod = pod ∧ keyed.BuiltFrom pod ∧ nodeFilter req node = none ∧
      newNodeInfo P now grace node (filterOptions P gpuTopology req node (nodePodsOf pods node.name)) = .ok info ∧
      allocate P now grace info keyed = .ok (q, m) ∧ patchPodPreAllocatedMetadata now q = .ok pod' := by
  unfold filterChain at h
  dsimp only at h
  generalize hreq : (if (buildAllocationRequest P pod).accessMode = .remoteMode then
    { buildAllocationRequest P pod with crossPodTopology := false }
    else buildAllocationRequest P pod) = req at h
  have hbuilt : req.BuiltFrom pod := by
    rw [← hreq]
    split <;> exact ⟨_, _, _, _, _, rfl⟩
  split_ifs at h with hnode hneeds
  · simp at h
  · simp at h
  unfold deviceFilter at h
  split at h
  · simp at h
  dsimp only at h
  split at h
  · split at h <;> simp at h
  · obtain ⟨c, hc, q, m, hq, hp⟩ := tryCandidates_placed h
    obtain ⟨node, hmem, hinfo⟩ := mem_preFilterNodeInfos ((sortNodeInfos_perm _).mem_iff.mp hc)
    obtain ⟨hmem, hcheck⟩ := List.mem_filter.mp hmem
    exact ⟨by simpa using hnode, hneeds, node, hmem, req, _, c.info, q, m, hbuilt.pod_eq,
      withGangKeys_builtFrom hbuilt, by simpa using hcheck, hinfo, hq, hp⟩

end Placed

end VGpuManager

import VGpuManager.Allocator.Orders
import VGpuManager.Allocator.Topology
import VGpuManager.Scheduler.Preempt

/-!
# Preemption and the filter

`canAllocate` asks on its own path what the filter will ask later: the snapshot is built without
pods and refilled, the request is a copy taken early, and only some gates run. This file compares
the two answers for one node, one pod and one set of victims.
-/

namespace VGpuManager

open Foundation NodeInfo List

variable {P : Platform} {now grace : Int} {gpuTopology : Bool} {node : Node} {pod : Pod}
  {pods : List Pod} {excluded : List Text} {n bare info : NodeInfo}
  {snapshot req : AllocationRequest P.F}

/-! ## 1. Aggregates -/

/-- The aggregates but the usage do not depend on what is recorded. -/
theorem refresh_recorded (A : IntArith) (n : NodeInfo) (f : Device → Amount) (used : Amount) (nodePods : List Pod) :
    let m : NodeInfo :=
      { n with deviceMap := n.deviceMap.mapUsed f, used := used, nodePods := nodePods }
    m.refreshResourcesData A = { n.refreshResourcesData A with
        deviceMap := m.deviceMap, used := (m.refreshResourcesData A).used
        nodePods := nodePods } := by
  intro m
  have hds : m.devices.filter Device.schedulable =
      (n.devices.filter Device.schedulable).map fun d => d.withUsed (f d) := by
    show (n.devices.map fun d => d.withUsed (f d)).filter Device.schedulable = _
    rw [filter_map]
    rfl
  -- capacities and flags are the same with and without usage
  have hmap : ∀ {α : Type} (g : Device → α), (∀ d a, g (d.withUsed a) = g d) →
      ((n.devices.filter Device.schedulable).map fun d => d.withUsed (f d)).map g =
        (n.devices.filter Device.schedulable).map g := by
    intro α g hg
    rw [map_map]
    exact map_congr_left fun d _ => hg d (f d)
  have hhead : (((n.devices.filter Device.schedulable).map fun d =>
      d.withUsed (f d)).head?.map Device.getTotalMemory).getD 0 =
      ((n.devices.filter Device.schedulable).head?.map Device.getTotalMemory).getD 0 := by
    cases n.devices.filter Device.schedulable <;> rfl
  have htotal : ∀ r, ((n.devices.filter Device.schedulable).map fun d =>
      d.withUsed (f d)).map (fun d => d.getTotal r) =
      (n.devices.filter Device.schedulable).map fun d => d.getTotal r := fun r =>
    hmap (fun d => d.getTotal r) fun _ _ => rfl
  have hcores := hmap Device.getTotalCores fun _ _ => rfl
  have hmemory := hmap Device.getTotalMemory fun _ _ => rfl
  simp only [NodeInfo.refreshResourcesData, hds, htotal, hcores, hmemory, length_map, hhead, all_map]
  rfl

/-! ## 2. The refilled snapshot and the filter's -/

/-- The pods both paths count are the same, if the pod itself does not count. -/
theorem counted_eq {p : Pod → Bool} (own : Text) (hown : ∀ q ∈ pods, q.uid = own → q.uid ∉ excluded → p q = false) :
    (pods.filter fun q => q.uid ∉ excluded).filter p =
      ((pods.filter fun q => q.uid ∉ excluded).filter fun q => q.uid ∉ [own]).filter p := by
  have hinner : ∀ q ∈ pods.filter fun q => q.uid ∉ excluded, p q = (p q && decide (q.uid ∉ [own])) := by
    intro q hq
    obtain ⟨hq, hex⟩ := mem_filter.mp hq
    by_cases hself : q.uid = own
    · rw [hown q hq hself (by simpa using hex)]
      rfl
    · simp [hself]
  rw [filter_congr hinner, ← filter_filter]

theorem podsOnNode_filter (name : Text) : podsOnNode (pods.filter fun q => q.uid ∉ excluded) name =
      (podsOnNode pods name).filter fun q => q.uid ∉ excluded := by
  simp only [podsOnNode, filter_filter]
  exact filter_congr fun q _ => Bool.and_comm _ _

/-- A refill starts from the snapshot without pods and without usage. -/
theorem removeVictims_eq {name : Text} (hname : n.name = name) : removeVictims P now grace n pods excluded =
      (({ n with nodePods := [] } : NodeInfo).resetResourceUsage).addPodList P now grace
        ((podsOnNode pods name).filter fun q => q.uid ∉ excluded) := by
  subst hname
  rw [removeVictims, addPodsUsedResources_eq]
  rfl

/-- A snapshot that is refilled and one that is built with the pods: the allocator sees the same
node, if pods of the same usage and the same vote are recorded. -/
theorem recorded_sameView {opts : NodeInfo.Options} {recorded others : List Pod} {req' : AllocationRequest P.F}
    (hrecorded : recorded = (podsOnNode pods node.name).filter fun q => q.uid ∉ excluded)
    (hbare : bareNodeInfo P node opts = .ok bare) (hn : n = bare.refreshResourcesData P.int)
    (husage : podsUsage P now grace others = podsUsage P now grace recorded)
    (hvotes : others.filter (fun q => q.uid ∉ [req.pod.uid] &&
        isSibling req.gangName req.controllerOwner q && shouldCountPodDeviceAllocation P now grace q) =
      recorded.filter fun q => q.uid ∉ [req.pod.uid] &&
        isSibling req.gangName req.controllerOwner q && shouldCountPodDeviceAllocation P now grace q)
    (hreq : req = { req' with total := req.total, max := req.max }) :
    SameView P now grace (removeVictims P now grace n pods excluded) req'
      ((bare.addPodList P now grace others).refreshResourcesData P.int) req := by
  obtain ⟨_, _, _, hfields⟩ := bareNodeInfo_ok hbare
  let base := ({ n with nodePods := [] } : NodeInfo).resetResourceUsage
  have hempty : base.deviceMap = bare.deviceMap := by
    subst hn
    refine (DeviceMap.mapUsed_congr fun d hd => ?_).trans (DeviceMap.mapUsed_used bare.deviceMap)
    exact (bareNodeInfo_unused hbare d hd).symm
  have hrefill : removeVictims P now grace n pods excluded = base.addPodList P now grace recorded := by
    rw [hrecorded]
    exact removeVictims_eq (by rw [hn]; exact hfields.name)
  obtain ⟨hk, -⟩ := @addPodList_same P now grace recorded base
  obtain ⟨hm, f, hf⟩ := @addPodList_same P now grace others bare
  have hdev : (bare.addPodList P now grace others).deviceMap = (base.addPodList P now grace recorded).deviceMap := by
    rw [addPodList_deviceMap, addPodList_deviceMap, husage]
    exact addAmounts_deviceMap_congr P.int _ hempty.symm (by subst hn; rfl)
  have hrefresh : (bare.addPodList P now grace others).refreshResourcesData P.int =
      { bare.refreshResourcesData P.int with
        deviceMap := (bare.addPodList P now grace others).deviceMap
        used := ((bare.addPodList P now grace others).refreshResourcesData P.int).used
        nodePods := others } := by
    rw [hm, hf, hfields.nodePods, nil_append]
    exact refresh_recorded P.int bare f _ others
  have hnode : (bare.addPodList P now grace others).refreshResourcesData P.int =
      { base.addPodList P now grace recorded with
        used := ((bare.addPodList P now grace others).refreshResourcesData P.int).used
        nodePods := others } := by
    rw [hrefresh, hdev, hk]
    subst hn
    rfl
  have hkeys : req'.gangName = req.gangName ∧ req'.controllerOwner = req.controllerOwner ∧ req'.pod = req.pod := by
    rw [hreq]
    exact ⟨rfl, rfl, rfl⟩
  rw [hrefill]
  refine ⟨by rw [hnode], hreq, ?_⟩
  rw [hnode, hk, hkeys.1, hkeys.2.1, hkeys.2.2]
  unfold gangAnchorComponent
  simp only [hvotes]
  rfl

/-- **The allocator sees the same node on both paths**, if the pod's own allocation does not
count there. -/
theorem refilled_sameView {check : NodeConfigInfo → Option ReasonCode} (hcheck : checkNode node check = none)
    (hpre : newNodeInfo P now grace node { gpuTopologyEnabled := gpuTopology && req.topology.usesLinkTiers } = .ok n)
    (hown : ∀ q ∈ podsOnNode pods node.name, q.uid = req.pod.uid → q.uid ∉ excluded →
      shouldCountPodDeviceAllocation P now grace q = false) :
    ∃ info, newNodeInfo P now grace node (filterOptions P gpuTopology req node
        (pods.filter fun q => q.uid ∉ excluded)) = .ok info ∧
      SameView P now grace (removeVictims P now grace n pods excluded) (req.resetStatistics n) info req := by
  obtain ⟨bare, hbare, hn⟩ := newNodeInfo_ok hpre
  obtain ⟨_, _, _, hfields⟩ := bareNodeInfo_ok hbare
  -- the filter records the other pods and computes the aggregates then
  refine ⟨(bare.addPodList P now grace (((podsOnNode pods node.name).filter fun q => q.uid ∉ excluded).filter
    fun q => q.uid ∉ [req.pod.uid])).refreshResourcesData P.int, ?_, ?_⟩
  · rw [newNodeInfo, filterOptions_bare hcheck, hbare, Except.map, addPodsUsedResources_eq]
    show Except.ok ((bare.addPodList P now grace ((podsOnNode (pods.filter _) bare.name).filter
      _)).refreshResourcesData P.int) = _
    rw [hfields.name, podsOnNode_filter]
    rfl
  · refine recorded_sameView rfl hbare hn ?_ ?_ rfl
    · unfold NodeInfo.podsUsage
      rw [← counted_eq req.pod.uid hown]
    · -- the siblings that vote never include the pod itself
      rw [filter_filter]
      refine filter_congr fun q _ => ?_
      cases decide (q.uid ∉ [req.pod.uid]) <;> simp

/-! ## 3. The two answers -/

theorem canAllocate_ok_iff : canAllocate P now grace req n pods excluded = .ok () ↔
    ∃ pod' k, allocate P now grace (removeVictims P now grace n pods excluded) req = .ok (pod', k) := by
  rw [canAllocate, map_eq_ok]
  exact ⟨fun ⟨⟨pod', k⟩, h, _⟩ => ⟨pod', k, h⟩, fun ⟨pod', k, h⟩ => ⟨_, h, rfl⟩⟩

/-- `filterNode` on a node that passes the node checks. -/
theorem filterNode_ok_iff {keyed : AllocationRequest P.F} {nodePods : List Pod} {pod' : Pod}
    (hnode : nodeFilter req node = none)
    (hinfo : newNodeInfo P now grace node (filterOptions P gpuTopology req node nodePods) = .ok info) :
    filterNode P now grace gpuTopology req keyed node nodePods = .ok pod' ↔
      nodeCapacityGate P (req.resetStatistics info) info = none ∧
        ∃ k, allocate P now grace info keyed = .ok (pod', k) := by
  unfold filterNode preFilterNodeInfo
  simp only [hnode, hinfo]
  cases nodeCapacityGate P (req.resetStatistics info) info with
  | some code => simp
  | none =>
    rw [map_eq_ok]
    exact ⟨fun ⟨⟨p, k⟩, h, hp⟩ => ⟨rfl, k, hp ▸ h⟩, fun ⟨_, k, h⟩ => ⟨_, h, rfl⟩⟩

/-- The gates and the allocation on one candidate, in another order of the walks. -/
theorem filterNode_walking (o : Platform.MapOrder) {nodePods : List Pod} (hfree : req.OrderFree)
    (hreg : ∀ ds, (filterOptions P gpuTopology req node nodePods).registry node = .ok ds →
      Registry.WellFormed P.int ds) :
    filterNode (P.walking o) now grace gpuTopology req req node nodePods =
      filterNode P now grace gpuTopology req req node nodePods := by
  have hlinks : (filterOptions P gpuTopology req node nodePods).gpuTopologyEnabled = false := by
    simp [filterOptions, TopologyMode.usesLinkTiers, hfree.1, hfree.2.1]
  have hinfo : newNodeInfo (P.walking o) now grace node (filterOptions (P.walking o) gpuTopology req node nodePods) =
      newNodeInfo P now grace node (filterOptions P gpuTopology req node nodePods) :=
    newNodeInfo_walking o hlinks rfl rfl hreg
  simp only [filterNode, preFilterNodeInfo, hinfo, allocate_walking o hfree]
  rfl

/-- A preemptor that an earlier cycle has placed on the large card. -/
def placedPreemptor : Pod where
  name := "single".toList
  uid := "p".toList
  priority := some 100
  annotations := { predicateNode := some "uneven".toList
                   preAllocated := some "main[0_GPU-a_80_1000]".toList }
  containers := [{ name := "main".toList, vgpuNumber := 1, vgpuCores := 80, vgpuMemory := 1000 }]

/-- Four GPUs in two NVLink pairs. -/
def twoPairs (name : Text) : Node where
  name := name
  vgpuAllocatable := 40
  deviceRegister := .value [ { id := 0, uuid := "GPU-a".toList, core := 100, memory := 10000, number := 10 },
    { id := 1, uuid := "GPU-b".toList, core := 100, memory := 10000, number := 10 },
    { id := 2, uuid := "GPU-c".toList, core := 100, memory := 10000, number := 10 },
    { id := 3, uuid := "GPU-d".toList, core := 100, memory := 10000, number := 10 }]
  configInfo := .value { deviceSplit := 10, memoryFactor := 1 }
  topology := .value [⟨0, nvlinks [1]⟩, ⟨1, nvlinks [0]⟩, ⟨2, nvlinks [3]⟩, ⟨3, nvlinks [2]⟩]

/-- A member of a gang that wants one NVLink pair, the one its siblings have. -/
def gangPreemptor : Pod where
  name := "worker-1".toList
  uid := "p".toList
  priority := some 100
  annotations := { deviceTopologyMode := some "link-strict".toList
                   crossPodTopology := some "true".toList
                   volcanoGroupName := some "train".toList }
  containers := [{ name := "main".toList, vgpuNumber := 2, vgpuCores := 50, vgpuMemory := 1000 }]

/-- Its sibling, which runs on the first pair of another node. -/
def gangSibling : Pod where
  name := "worker-0".toList
  uid := "s".toList
  nodeName := "other".toList
  phase := .running
  annotations := { preAllocated := some "main[0_GPU-a_50_1000,1_GPU-b_50_1000]".toList
                   volcanoGroupName := some "train".toList }
  containers := [{ name := "main".toList, vgpuNumber := 2, vgpuCores := 50, vgpuMemory := 1000 }]

/-- A pod that fills the first GPU of the candidate. -/
def firstGPUUser : Pod where
  name := "filler".toList
  uid := "f".toList
  nodeName := "pairs".toList
  phase := .running
  priority := some 100
  annotations := { preAllocated := some "main[0_GPU-a_100_1000]".toList }
  containers := [{ name := "main".toList, vgpuNumber := 1, vgpuCores := 100, vgpuMemory := 1000 }]

end VGpuManager

import VGpuManager.Foundation.Programs
import VGpuManager.Scheduler.Agreement

/-!
# One victim set after the other

`Preempt` keeps one snapshot and one request for a candidate node and hands both to every call of
`canAllocate`. A call refills the snapshot, and the allocator then changes it further: it adds what
it places, takes the app phase back, and leaves whatever it has done when the node is refused. Every call walks the
maps in an order of its own.
-/

namespace VGpuManager

open Foundation NodeInfo

/-! ## 1. The allocator over the snapshot it changes -/

section Allocator

variable (P : Platform) (now grace : Int) (req : AllocationRequest P.F)

/-- `AddUsedResources` on the snapshot. -/
def addUsedResourcesIn (claim : DeviceClaim) : Prog AllocError NodeInfo PUnit := do
  let n ← get
  match n.addUsedResources P.int claim with
  | none => throw .internal
  | some n' => modify fun _ => n'

/-- `addContainerAllocate`; the claims before a failing one stay recorded. -/
def addContainerAllocateIn (claims : List DeviceClaim) : Prog AllocError NodeInfo PUnit :=
  claims.forM (addUsedResourcesIn P)

def allocateAndAccumulateIn (need : ContainerNeed) : Prog AllocError NodeInfo ContainerDeviceClaim := do
  let n ← get
  match allocateOne P now grace n req need none with
  | .error code => throw (.rejected code)
  | .ok claim =>
    addContainerAllocateIn P claim.deviceClaims
    return claim

def allocateConcurrentIn : List ContainerNeed → Prog AllocError NodeInfo (List (ContainerNeed × ContainerDeviceClaim))
  | [] => return []
  | need :: needs => do
      let claim ← allocateAndAccumulateIn P now grace req need
      let rest ← allocateConcurrentIn needs
      return (need, claim) :: rest

/-- Sequential init containers record nothing. -/
def allocateInitsIn (preferred : List Text) (needs : List ContainerNeed) :
    Prog AllocError NodeInfo (List (ContainerNeed × ContainerDeviceClaim)) := do
  let n ← get
  match allocateInits P now grace req n preferred needs with
  | .error e => throw e
  | .ok inits => return inits

def allocateClaimsIn : Prog AllocError NodeInfo PodDeviceClaim :=
  if !req.hasSequentialInit then do
    let placed ← allocateConcurrentIn P now grace req req.containers
    return placed.map Prod.snd
  else do
    let sidecars ← allocateConcurrentIn P now grace req (req.containers.filter ContainerNeed.sidecar)
    let n ← get
    let viewBaseSidecar := n.snapshotUsage
    let apps ← allocateConcurrentIn P now grace req (req.containers.filter fun need => need.kind = .app)
    modify fun n => n.restoreUsage viewBaseSidecar
    let inits ← allocateInitsIn P now grace req (usedUUIDs (sidecars ++ apps))
      (req.containers.filter ContainerNeed.sequentialInit)
    let placed := sidecars ++ apps ++ inits
    let byName (name : Text) : Option ContainerDeviceClaim :=
      (placed.reverse.find? fun e => e.1.name = name).map Prod.snd
    return req.containers.filterMap fun need => byName need.name

/-- `Allocate` on the snapshot. -/
def allocateIn : Prog AllocError NodeInfo Pod := do
  let claims ← allocateClaimsIn P now grace req
  let n ← get
  return { req.pod with annotations := { req.pod.annotations with
    preAllocated := some (PodDeviceClaim.marshalText claims)
    predicateNode := some n.name } }

end Allocator

variable {P : Platform} {now grace : Int} {req : AllocationRequest P.F}

/-! ### What it computes -/

theorem addUsedResourcesIn_ends (claim : DeviceClaim) (n : NodeInfo) : Ends (addUsedResourcesIn P claim) n
      ((n.addUsedResources P.int claim).elim (.error .internal) fun n' => .ok (⟨⟩, n')) := by
  unfold addUsedResourcesIn
  refine .get_bind ?_
  cases n.addUsedResources P.int claim with
  | none => exact .throw _
  | some n' => exact .ok rfl

theorem addContainerAllocateIn_ends (claims : List DeviceClaim) (n : NodeInfo) :
    Ends (addContainerAllocateIn P claims) n
      ((addContainerAllocate P.int n claims).elim (.error .internal) fun n' => .ok (⟨⟩, n')) := by
  induction claims generalizing n with
  | nil => exact .pure _
  | cons claim claims ih =>
    refine (addUsedResourcesIn_ends claim n).bind_eq (fun _ => ih) ?_
    rw [addContainerAllocate, List.foldlM_cons]
    cases n.addUsedResources P.int claim <;> rfl

theorem allocateAndAccumulateIn_ends (need : ContainerNeed) (n : NodeInfo) :
    Ends (allocateAndAccumulateIn P now grace req need) n (allocateAndAccumulate P now grace req n need) := by
  unfold allocateAndAccumulateIn allocateAndAccumulate
  refine .get_bind ?_
  cases allocateOne P now grace n req need none with
  | error code => exact .throw _
  | ok claim =>
    refine (addContainerAllocateIn_ends claim.deviceClaims n).bind_eq (fun _ _ => .pure _) ?_
    dsimp only
    cases addContainerAllocate P.int n claim.deviceClaims <;> rfl

section

variable (preferred : List Text) (needs : List ContainerNeed) (n : NodeInfo) {n₀ : NodeInfo}

theorem allocateConcurrentIn_ends :
    Ends (allocateConcurrentIn P now grace req needs) n (allocateConcurrent P now grace req n needs) := by
  induction needs generalizing n with
  | nil => exact .pure _
  | cons need needs ih =>
    exact (allocateAndAccumulateIn_ends need n).bind fun _ n₁ => (ih n₁).bind fun _ _ => .pure _

theorem allocateInitsIn_ends : Ends (allocateInitsIn P now grace req preferred needs) n
      ((allocateInits P now grace req n preferred needs).map fun inits => (inits, n)) := by
  unfold allocateInitsIn
  refine .get_bind ?_
  cases allocateInits P now grace req n preferred needs with
  | error e => exact .throw e
  | ok inits => exact .pure inits

theorem allocateClaimsIn_ends : Ends (allocateClaimsIn P now grace req) n (allocateClaims P now grace n req) := by
  unfold allocateClaimsIn allocateClaims
  split
  · exact (allocateConcurrentIn_ends _ n).bind fun _ _ => .pure _
  · refine (allocateConcurrentIn_ends _ n).bind fun sidecars n₁ => .get_bind ?_
    refine (allocateConcurrentIn_ends _ n₁).bind fun apps n₂ => .modify_bind ?_
    refine (allocateInitsIn_ends _ _ _).bind_eq (fun _ _ => .pure _) ?_
    dsimp only
    cases allocateInits P now grace req (n₂.restoreUsage n₁.snapshotUsage)
      (usedUUIDs (sidecars ++ apps)) (req.containers.filter ContainerNeed.sequentialInit) <;> rfl

/-- **The allocator over its snapshot comes to what `allocate` computes.** -/
theorem allocateIn_ends : Ends (allocateIn P now grace req) n (allocate P now grace n req) :=
  (allocateClaimsIn_ends n).bind fun _ _ => .get_bind (.pure _)

/-! ### What it leaves behind -/

theorem addUsedResourcesIn_same (claim : DeviceClaim) : Preserves (SameNode n₀) (addUsedResourcesIn P claim) := by
  refine .get_bind fun n hn => ?_
  cases hadd : n.addUsedResources P.int claim with
  | none => exact .throw _
  | some n' => exact .modify fun _ _ => hn.trans (addAmount_same hadd)

theorem allocateConcurrentIn_same : Preserves (SameNode n₀) (allocateConcurrentIn P now grace req needs) := by
  have hone : ∀ need, Preserves (SameNode n₀) (allocateAndAccumulateIn P now grace req need) := by
    intro need
    refine .get_bind fun n _ => ?_
    cases allocateOne P now grace n req need none with
    | error code => exact .throw _
    | ok claim =>
      exact (Preserves.forM fun c _ => addUsedResourcesIn_same c).bind fun _ => .pure _
  induction needs with
  | nil => exact .pure _
  | cons need needs ih => exact (hone need).bind fun _ => ih.bind fun _ => .pure _

end

/-- **Accepted or refused, the allocator changes the counters only.** -/
theorem allocateIn_same {n₀ : NodeInfo} : Preserves (SameNode n₀) (allocateIn P now grace req) := by
  have hinits : ∀ preferred needs, Preserves (SameNode n₀) (allocateInitsIn P now grace req preferred needs) := by
    intro preferred needs
    refine .get_bind fun n _ => ?_
    cases allocateInits P now grace req n preferred needs with
    | error e => exact .throw _
    | ok inits => exact .pure _
  refine Preserves.bind ?_ fun _ => .get_bind fun _ _ => .pure _
  unfold allocateClaimsIn
  refine .ite (fun _ => (allocateConcurrentIn_same _).bind fun _ => .pure _) fun _ => ?_
  refine (allocateConcurrentIn_same _).bind fun sidecars => .get_bind fun n hn => ?_
  refine (allocateConcurrentIn_same _).bind fun apps => ?_
  refine (Preserves.modify fun m hm => hm.trans ⟨rfl, _, rfl⟩).bind fun _ => ?_
  exact (hinits _ _).bind fun _ => .pure _

/-! ## 2. The calls of one `Preempt` -/

/-- What a placement achieved; `Allocate` clears it, a simulation records nothing. -/
structure TopologyOutcome where
  result : Text := []
  alignment : Text := []

/-- What the calls for one node share and change: the snapshot, and the outcome on the request. -/
structure Shared where
  node : NodeInfo
  topoOutcome : TopologyOutcome := {}

/-- One call: when it is made, in which order it walks maps, and the victims. -/
structure Trial where
  now : Int
  order : Platform.MapOrder
  excluded : List Text

section Calls

variable (P grace req) (pods : List Pod)

/-- `canAllocate` on what is shared. -/
def canAllocateIn (c : Trial) (s : Shared) : Except AllocError Unit × Shared :=
  let run := (allocateIn (P.walking c.order) c.now grace req).run.run
    (removeVictims (P.walking c.order) c.now grace s.node pods c.excluded)
  (run.1.map fun _ => (), ⟨run.2, {}⟩)

/-- The answers to a sequence of calls. -/
def trials : List Trial → Shared → List (Except AllocError Unit)
  | [], _ => []
  | c :: cs, s =>
    (canAllocateIn P grace req pods c s).1 :: trials cs (canAllocateIn P grace req pods c s).2

/-- A snapshot built without the victims, and one run of the allocator on it in the order of the call. -/
def freshTrial (node : Node) (gpuTopology : Bool) (c : Trial) : Except NodeInfoError (Except AllocError Unit) :=
  (newNodeInfo P c.now grace node
    { excludedUids := c.excluded, nodePods := pods, gpuTopologyEnabled := gpuTopology }).map fun info =>
      ((allocateIn (P.walking c.order) c.now grace req).run.run info).1.map fun _ => ()

end Calls

/-- The snapshot that was built, with other pods and other counters. -/
def Refilled (n₀ n : NodeInfo) : Prop := ∃ pods, SameNode { n₀ with nodePods := pods } n

variable {pods : List Pod} {excluded : List Text} {node : Node} {gpuTopology : Bool} {n n₀ : NodeInfo}

/-- A refill forgets what earlier calls have left. -/
theorem removeVictims_refilled (h : Refilled n₀ n) :
    removeVictims P now grace n pods excluded = removeVictims P now grace n₀ pods excluded := by
  obtain ⟨old, hrest, f, hf⟩ := h
  have hreset : ({ n with nodePods := [] } : NodeInfo).resetResourceUsage =
      ({ n₀ with nodePods := [] } : NodeInfo).resetResourceUsage := by
    unfold resetResourceUsage
    rw [hrest, hf]
    rw [DeviceMap.mapUsed_mapUsed]
  have hname : n.name = n₀.name := by rw [hrest]
  rw [removeVictims_eq hname, removeVictims_eq rfl, hreset]

theorem refilled_removeVictims : Refilled n₀ (removeVictims P now grace n₀ pods excluded) := by
  rw [removeVictims_eq rfl]
  refine ⟨(podsOnNode pods n₀.name).filter fun q => q.uid ∉ excluded, ?_⟩
  refine SameNode.trans ?_ (addPodList_same _ _)
  exact ⟨rfl, _, rfl⟩

/-- **A call leaves the snapshot of the same node**, whatever it answers. -/
theorem canAllocateIn_refilled {c : Trial} {s : Shared} (h : Refilled n₀ s.node) :
    Refilled n₀ (canAllocateIn P grace req pods c s).2.node := by
  obtain ⟨listed, hsame⟩ : Refilled n₀ (removeVictims (P.walking c.order) c.now grace s.node pods c.excluded) := by
    rw [removeVictims_refilled h]
    exact refilled_removeVictims
  exact ⟨listed, allocateIn_same.exec hsame⟩

section Fresh

variable (hreg : ∀ ds, NodeInfo.Options.registry node {} = .ok ds → Registry.WellFormed P.int ds)

include hreg

/-- A refill in another order records the same. -/
theorem removeVictims_walking {now₀ : Int} (o : Platform.MapOrder) (hbuild : newNodeInfo P now₀ grace node
      { gpuTopologyEnabled := gpuTopology } = .ok n) :
    removeVictims (P.walking o) now grace n pods excluded = { removeVictims P now grace n pods excluded with
      used := (removeVictims (P.walking o) now grace n pods excluded).used } := by
  have hsound := @newNodeInfo_sound node { gpuTopologyEnabled := gpuTopology } grace P n now₀ hreg hbuild
  have hindexed : ({ n with nodePods := [] } : NodeInfo).Indexed := ⟨hsound.indexed.lookup, hsound.indexed.known⟩
  rw [removeVictims_eq rfl, removeVictims_eq rfl]
  refine addPodList_walking o _ (SameNode.indexed ⟨rfl, _, rfl⟩ hindexed) fun d hd r => ?_
  obtain ⟨e, -, rfl⟩ := List.mem_map.mp hd
  simp

/-- One call on the snapshot as it was built answers like a new snapshot. -/
theorem canAllocate_fresh {now₀ : Int} {c : Trial} (hbuild : newNodeInfo P now₀ grace node
      { gpuTopologyEnabled := gpuTopology } = .ok n) :
    freshTrial P grace req pods node gpuTopology c = .ok (((allocateIn (P.walking c.order) c.now grace req).run.run
        (removeVictims (P.walking c.order) c.now grace n pods c.excluded)).1.map fun _ => ()) := by
  obtain ⟨bare, hbare, hn⟩ := newNodeInfo_ok hbuild
  obtain ⟨_, _, _, hfields⟩ := bareNodeInfo_ok hbare
  have hfresh : newNodeInfo P c.now grace node
      { excludedUids := c.excluded, nodePods := pods, gpuTopologyEnabled := gpuTopology } =
      .ok ((bare.addPodList P c.now grace ((podsOnNode pods node.name).filter fun q =>
        q.uid ∉ c.excluded)).refreshResourcesData P.int) := by
    have hbare' : bareNodeInfo P node
        { excludedUids := c.excluded, nodePods := pods, gpuTopologyEnabled := gpuTopology } =
        .ok bare := hbare
    rw [newNodeInfo, hbare', ← hfields.name]
    show Except.ok ((addPodsUsedResources _ _ _ _ _ _).refreshResourcesData P.int) = _
    rw [addPodsUsedResources_eq]
    rfl
  have hown : SameView P c.now grace (removeVictims P c.now grace n pods c.excluded) req _ req :=
    recorded_sameView rfl hbare hn rfl rfl rfl
  have hview : SameView (P.walking c.order) c.now grace
      (removeVictims (P.walking c.order) c.now grace n pods c.excluded) req ((bare.addPodList P c.now grace
        ((podsOnNode pods node.name).filter fun q => q.uid ∉ c.excluded)).refreshResourcesData P.int) req := by
    rw [removeVictims_walking hreg c.order hbuild]
    refine ⟨hown.node, rfl, ?_⟩
    rw [gangAnchorComponent_walking, gangAnchorComponent_walking]
    exact hown.anchor
  have hanswer := hview.allocate_alike.map_eq fun p q h => h
  rw [freshTrial, hfresh, Except.map, (allocateIn_ends _).result,
    (allocateIn_ends _).result, ← hanswer]

/-- Where no choice hangs on the order, a new snapshot answers alike in all orders. -/
theorem freshTrial_walking (hfree : req.OrderFree) (o o' : Platform.MapOrder) (c : Trial) :
    freshTrial (P.walking o) grace req pods node false { c with order := o' } =
      freshTrial P grace req pods node false c := by
  have hinfo := @newNodeInfo_walking P o c.now grace node
    { excludedUids := c.excluded, nodePods := pods, gpuTopologyEnabled := false } rfl rfl rfl hreg
  have hanswer (info : NodeInfo) : ((allocateIn (P.walking o') c.now grace req).run.run info).1 =
      ((allocateIn (P.walking c.order) c.now grace req).run.run info).1 := by
    rw [(allocateIn_ends _).result, (allocateIn_ends _).result, allocate_walking o' hfree,
      allocate_walking c.order hfree]
  unfold freshTrial
  rw [hinfo]
  simp only [hanswer]

end Fresh

/-- The entries of a map as they are stored, and the other way round. -/
def stored : Platform.MapOrder := ⟨id, .refl⟩

def reversed : Platform.MapOrder := ⟨List.reverse, List.reverse_perm⟩

/-- The large and the small card on two NUMA nodes. -/
def unevenNodes : Node :=
  { unevenCards with deviceRegister := .value [
      { id := 0, uuid := "GPU-a".toList, core := 100, memory := 40000, number := 10, numa := 0 },
      { id := 1, uuid := "GPU-b".toList, core := 100, memory := 20000, number := 10, numa := 1 }] }

/-- The pod of two containers, which asks for cards of one NUMA node and for the least used one. -/
def numaPair : Pod :=
  { pairPreemptor with annotations :=
    { deviceTopologyMode := some "numa".toList, deviceSchedulerPolicy := some "spread".toList } }

/-- **What Preempt answers fits.** Every node it names is there, was a candidate and is not being deleted; its
victims are among the proposed ones and the vGPU pods planned on it; and on a snapshot built without them, whatever
the order of the walks, the allocator accepts the pod, although the call has searched on a snapshot of its own. -/
theorem preempt_nodes_fit {K : PreemptRule} {pdbLister : Option PDBLister} {cluster : List Node} {pod : Pod}
    {nodes : List (Text × List Pod × Int)}
    {victimsMap : List (Text × Victims)} {name : Text} {refined : List Pod} {violations : Int}
    (hreg : ∀ node ∈ cluster, ∀ ds, NodeInfo.Options.registry node {} = .ok ds → Registry.WellFormed P.int ds)
    (hfree : (buildAllocationRequest P pod).OrderFree)
    (h : preempt P now grace K pdbLister gpuTopology cluster pods pod victimsMap = .victims nodes)
    (hin : (name, refined, violations) ∈ nodes) :
    ∃ node ∈ cluster, node.name = name ∧ node.deleting = false ∧ refined ≠ [] ∧
      (∃ victims, (name, victims) ∈ victimsMap ∧ ∀ v ∈ refined, v ∈ victims.pods ∨ v ∈ nodePodsOf pods name) ∧
      ∀ o o', freshTrial (P.walking o) grace (buildAllocationRequest P pod) (nodePodsOf pods name) node
        (gpuTopology && (buildAllocationRequest P pod).topology.usesLinkTiers) ⟨now, o', refined.map Pod.uid⟩ =
          .ok (.ok ()) := by
  unfold preempt at h
  dsimp only at h
  split at h
  · cases h
  cases h
  obtain ⟨⟨name', victims⟩, hcand, hsome⟩ := List.mem_filterMap.mp hin
  simp only [Option.bind_eq_bind, Option.bind_eq_some_iff, Prod.exists, Option.ite_none_left_eq_some,
    Option.some.injEq, Prod.mk.injEq] at hsome
  obtain ⟨node, hfind, n, snapshot, hinfo, kept, pdb, hrefine, hne, rfl, rfl, rfl⟩ := hsome
  have hnode := List.find?_some hfind
  simp only [Bool.and_eq_true, decide_eq_true_eq, Bool.not_eq_true'] at hnode
  obtain ⟨-, hacc, added, hpre, rfl, -⟩ := refineForNode_spec hrefine
  refine ⟨node, List.mem_of_find?_eq_some hfind, hnode.1, hnode.2, hne, ⟨victims, hcand, fun v hv => ?_⟩, ?_⟩
  · rcases List.mem_append.mp hv with hk | ha
    · exact .inl (List.mem_filter.mp hk).1
    · exact .inr (mem_additionalVictims (hpre.subset ha)).1
  · rw [preemptNodeInfo] at hinfo
    cases hbuild : newNodeInfo P now grace node
        { gpuTopologyEnabled := gpuTopology && (buildAllocationRequest P pod).topology.usesLinkTiers } with
    | error e => simp [hbuild, Except.map, Except.toOption] at hinfo
    | ok info =>
      obtain ⟨rfl, rfl⟩ : info = n ∧ (buildAllocationRequest P pod).resetStatistics info = snapshot := by
        simpa [hbuild, Except.map, Except.toOption] using hinfo
      -- the allocator does not read the statistics of the copied request
      have hview : ∀ m, SameView P now grace m ((buildAllocationRequest P pod).resetStatistics info) m
          (buildAllocationRequest P pod) := fun _ => ⟨rfl, rfl, rfl⟩
      have hreg := hreg node (List.mem_of_find?_eq_some hfind)
      have hlinks : (gpuTopology && (buildAllocationRequest P pod).topology.usesLinkTiers) = false := by
        simp [TopologyMode.usesLinkTiers, hfree.1, hfree.2.1]
      intro o o'
      rw [hlinks] at hbuild ⊢
      refine (freshTrial_walking hreg hfree o o' ⟨now, ⟨P.mapOrder, P.mapOrder_perm⟩, _⟩).trans ?_
      rw [canAllocate_fresh hreg hbuild, (allocateIn_ends _).result, ← (hview _).allocate_alike.map_eq fun p q h => h]
      unfold accepts canAllocate at hacc
      cases hal : allocate P now grace (removeVictims P now grace info (nodePodsOf pods name') _)
          ((buildAllocationRequest P pod).resetStatistics info) with
      | ok answer => rfl
      | error e =>
        rw [hal] at hacc
        cases hacc

/-- The in-tree scheduler has proposed a pod without vGPUs; a vGPU pod is added to it. -/
theorem preempt_nodes_fit_uneven : ∃ node ∈ [unevenCards],
    freshTrial (.exact .int64) 0 (buildAllocationRequest _ (singlePreemptor 100 false))
      (nodePodsOf [coresUser, memoryUser] unevenCards.name) node false
      ⟨0, reversed, [plainPod.uid, coresUser.uid]⟩ = .ok (.ok ()) := by
  have h : preempt (.exact .int64) 0 0 kubeletRule none false [unevenCards] [coresUser, memoryUser]
      (singlePreemptor 100 false)
      [(unevenCards.name, ⟨[plainPod], 1⟩)] = .victims [(unevenCards.name, [plainPod, coresUser], 2)] := by
    unfold preempt
    exact (if_neg (by decide +kernel)).trans (congrArg PreemptResult.victims (by decide +kernel))
  have hreg : ∀ node ∈ [unevenCards], ∀ ds, NodeInfo.Options.registry node {} = .ok ds →
      Registry.WellFormed IntArith.int64 ds := by
    intro node hnode ds hds
    cases List.mem_singleton.mp hnode
    cases hds
    decide +kernel
  obtain ⟨node, hnode, -, -, -, -, hfits⟩ := preempt_nodes_fit hreg
    (by unfold AllocationRequest.OrderFree; decide +kernel) h (.head _)
  exact ⟨node, hnode, hfits stored reversed⟩

end VGpuManager

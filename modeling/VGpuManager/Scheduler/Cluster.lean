import VGpuManager.Foundation.Runs
import VGpuManager.Scheduler.Bind
import VGpuManager.Scheduler.Filter

/-!
# The cluster over time

Filter calls, bind calls, the scheduler's condition updates and the clock interleave. Whether an
allocation counts is decided anew in every call, from the clock and the conditions. This file runs
the calls one after the other on one set of pods and asks what the bound pods hold together.
-/

namespace VGpuManager

open Foundation List

/-! ## 1. The system -/

/-- The pods at the API server, which the pod cache follows, and the clock in nanoseconds. -/
structure Cluster where
  pods : List Pod
  now : Int

inductive ClusterEvent where
  /-- A live filter call on the named candidates; for a remote pod, on the GPU servers. -/
  | filter (uid : Text) (nodeNames : List Text)
  | bind (uid node : Text) (writes : BindWrites)
  /-- kube-scheduler writes a `PodScheduled` condition with status false. -/
  | condition (uid reason : Text)
  | advance (duration : Nat)

/-- A `PodScheduled` condition with status false: the transition time moves only with the
status. -/
def setUnscheduled (now : Int) (reason : Text) (pod : Pod) : Pod :=
  let since := match pod.podScheduled with
    | some cond => if cond.status = .false then cond.lastTransitionTime else now / 1000000000
    | none => now / 1000000000
  { pod with podScheduled := some ⟨.false, reason, since⟩ }

def Cluster.update (s : Cluster) (uid : Text) (f : Pod → Pod) : Cluster :=
  { s with pods := s.pods.map fun p => if p.uid = uid then f p else p }

def getNodesOnCache (nodes : List Node) (names : List Text) : List Node :=
  names.filterMap fun name => nodes.find? fun node => node.name = name

section System

variable (P : Platform) (grace : Int) (gpuTopology : Bool) (nodes : List Node)

/-- One event. A call that fails leaves the pods as they are. -/
def Cluster.step (s : Cluster) : ClusterEvent → Cluster
  | .filter uid names =>
    match s.pods.find? fun p => p.uid = uid with
    | none => s
    | some pod =>
      match filterChain P s.now grace gpuTopology nodes s.pods pod (getNodesOnCache nodes names) with
      | .ok (.placed pod') => s.update uid fun _ => pod'
      | _ => s
  | .bind uid node w => s.update uid fun p => (NodeBinding.bind P s.now grace w node p).2
  | .condition uid reason => s.update uid (setUnscheduled s.now reason)
  | .advance d => { s with now := s.now + d }

/-- No condition update makes an allocation count again that does not count. -/
def RevivesNothing (s : Cluster) : ClusterEvent → Prop
  | .condition uid reason => ∀ p ∈ s.pods, p.uid = uid → getPodDeviceClaim P.int p ≠ [] →
      shouldCountPodDeviceAllocation P s.now grace p = false →
      shouldCountPodDeviceAllocation P s.now grace (setUnscheduled s.now reason p) = false
  | _ => True

instance (s : Cluster) : ∀ e, Decidable (RevivesNothing P grace s e)
  | .condition _ _ => inferInstanceAs (Decidable (∀ p ∈ s.pods, _ → _ → _ → _))
  | .filter _ _ | .bind _ _ _ | .advance _ => isTrue trivial

/-! ## 2. What the pods hold -/

/-- What the accounting adds for a pod on one GPU. -/
def footprintOn (u : Text) (r : Resource) (pod : Pod) : Int :=
  (demandsAt u r (podUsage P pod)).sum

/-- The footprint of the pods bound so far that use the node's devices. -/
def boundLoad (pods : List Pod) (node u : Text) (r : Resource) : Int :=
  ((pods.filter fun p => p.nodeName ≠ [] ∧ podPlanSchedulingNode p = node).map (footprintOn P u r)).sum

/-- A pod's part of a device, if its allocation counts there. -/
def share (now : Int) (node u : Text) (r : Resource) (pod : Pod) : Int :=
  if podPlanSchedulingNode pod = node ∧ shouldCountPodDeviceAllocation P now grace pod = true then
    footprintOn P u r pod
  else 0

/-- The scaled memory of no requesting container wraps to a negative number, on whatever node. -/
def ScaledMemoryOk (A : IntArith) (pod : Pod) : Prop :=
  ∀ node ∈ nodes, ∀ c ∈ node.configInfo.value?, ∀ need ∈ containerNeeds pod,
    0 < c.memoryFactor → 0 ≤ A.mul need.memory c.memoryFactor
  deriving Decidable

/-- Node names differ, and the registries are as the device manager publishes them. -/
structure ClusterNodes (nodes : List Node) : Prop where
  names : (nodes.map Node.name).Nodup
  registry : ∀ node ∈ nodes, ∀ ds, NodeInfo.Options.registry node {} = .ok ds → Registry.WellFormed P.int ds

/-- Pods nothing was decided about yet. -/
structure Cluster.Fresh (s : Cluster) : Prop where
  uids : (s.pods.map Pod.uid).Nodup
  wellFormed : ∀ p ∈ s.pods, p.WellFormed P.int
  pending : ∀ p ∈ s.pods, p.phase = .pending ∧ p.nodeName = []
  unclaimed : ∀ p ∈ s.pods, p.annotations.preAllocated = none ∧ p.annotations.realAllocated = none

/-- What every step keeps of a pod: only vGPU pods hold claims, and on the devices of the planned
node the claims are not negative. -/
structure PodInv (p : Pod) : Prop where
  wellFormed : p.WellFormed P.int
  memory : ScaledMemoryOk nodes P.int p
  phase : p.phase = .pending
  vgpu : isVGPUResourcePod p = false → podUsage P p = []
  nonneg : ∀ node ∈ nodes, podPlanSchedulingNode p = node.name →
    ∀ ds, NodeInfo.Options.registry node {} = .ok ds → ∀ dev ∈ ds, ∀ r,
      ∀ v ∈ demandsAt dev.uuid r (podUsage P p), 0 ≤ v

/-- What every step keeps: the allocations that count are within every device's capacity. -/
structure Cluster.Inv (s : Cluster) : Prop where
  uids : (s.pods.map Pod.uid).Nodup
  pods : ∀ p ∈ s.pods, PodInv P nodes p
  load : ∀ node ∈ nodes, ∀ ds, NodeInfo.Options.registry node {} = .ok ds → ∀ dev ∈ ds, ∀ r,
    (s.pods.map (share P grace s.now node.name dev.uuid r)).sum ≤ (newDevice dev).getTotal r

end System

variable {P : Platform} {grace : Int} {gpuTopology : Bool} {nodes : List Node} {s : Cluster}
  {pod pod' p q : Pod} {uid : Text}

/-! ## 3. Footprints that do not change -/

theorem SameSpec.podUsage_eq (h : SameSpec p q) : podUsage P q = podUsage P p := by
  have hclaims : getPodDeviceClaim P.int q = getPodDeviceClaim P.int p := by
    rw [getPodDeviceClaim, h.preAllocated, h.realAllocated, getPodDeviceClaim]
  rw [podUsage, hclaims, reducePodFootprint_congr h.initContainers,
    podHasVGPUInitContainer_congr h.initContainers, podUsage]

theorem podUsage_nil (h : getPodDeviceClaim P.int p = []) : podUsage P p = [] := by
  have hreduce : reducePodFootprint P p [] = ∅ := by
    simp [reducePodFootprint]
  rw [podUsage, h, hreduce]
  split <;> simp

theorem SameSpec.plan_eq (h : SameSpec p q) (hn : q.nodeName = p.nodeName) :
    podPlanSchedulingNode q = podPlanSchedulingNode p := by
  have hmode : podVGPUAccessMode q = podVGPUAccessMode p := by
    rw [podVGPUAccessMode, h.accessMode, podVGPUAccessMode]
  rw [podPlanSchedulingNode, hn, hmode, h.predicateNode, podPlanSchedulingNode]

/-- A pod after a step that neither places nor revives: it holds the same claims, on the same
node, and counts only if it counted. -/
structure Keeps (P : Platform) (now grace : Int) (p q : Pod) : Prop where
  same : SameSpec p q
  plan : podUsage P p ≠ [] → podPlanSchedulingNode q = podPlanSchedulingNode p
  counted : podUsage P p ≠ [] → shouldCountPodDeviceAllocation P now grace q = true →
    shouldCountPodDeviceAllocation P now grace p = true

variable {now : Int} {f : Pod → Pod}

theorem share_le_of {later : Int} {node u : Text} {r : Resource} (hfoot : footprintOn P u r q = footprintOn P u r p)
    (h : podPlanSchedulingNode q = node ∧ shouldCountPodDeviceAllocation P later grace q = true →
      podPlanSchedulingNode p = node ∧ shouldCountPodDeviceAllocation P now grace p = true)
    (h0 : 0 ≤ share P grace now node u r p) : share P grace later node u r q ≤ share P grace now node u r p := by
  by_cases hq : podPlanSchedulingNode q = node ∧ shouldCountPodDeviceAllocation P later grace q = true
  · rw [share, if_pos hq, share, if_pos (h hq), hfoot]
  · rwa [share, if_neg hq]

theorem Keeps.share_le {node u : Text} {r : Resource} (h : Keeps P now grace p q)
    (h0 : 0 ≤ share P grace now node u r p) : share P grace now node u r q ≤ share P grace now node u r p := by
  have hfoot : footprintOn P u r q = footprintOn P u r p := by
    rw [footprintOn, h.same.podUsage_eq, footprintOn]
  by_cases hnil : podUsage P p = []
  · have hzero : footprintOn P u r p = 0 := by simp [footprintOn, hnil, demandsAt]
    simp [share, hfoot, hzero]
  · exact share_le_of hfoot (fun hq => ⟨(h.plan hnil).symm.trans hq.1, h.counted hnil hq.2⟩) h0

/-- A bind call keeps a vGPU pod's allocation where it is. -/
theorem bind_keeps (w : BindWrites) (node : Text) (hvgpu : isVGPUResourcePod p = false → podUsage P p = []) :
    Keeps P now grace p (NodeBinding.bind P now grace w node p).2 := by
  have hv : podUsage P p ≠ [] → isVGPUResourcePod p = true := fun h => by
    by_contra hno
    exact h (hvgpu (by simpa using hno))
  rcases h : NodeBinding.bind P now grace w node p with ⟨_ | _, after⟩
  · obtain ⟨hsame, hnode, hcount⟩ := NodeBinding.bind_error h
    exact ⟨hsame, fun _ => hsame.plan_eq hnode, fun h => hcount (hv h)⟩
  · obtain ⟨hfree, -, hguard, hafter⟩ := NodeBinding.bind_ok h
    have hsame : SameSpec p after := by
      rw [hafter]
      exact (allocating_sameSpec now p).1.trans (bound_sameSpec ..)
    have hbound : after.nodeName = node := by rw [hafter]
    refine ⟨hsame, fun h => ?_, fun h _ => (hguard (hv h)).2⟩
    -- the node bound to is the planned one, unless the devices are remote
    have hmatch := (hguard (hv h)).1
    simp only [nodeMatches, Bool.and_eq_true, Bool.or_eq_true, decide_eq_true_eq] at hmatch
    have hmode : podVGPUAccessMode after = podVGPUAccessMode p := by
      rw [podVGPUAccessMode, hsame.accessMode, podVGPUAccessMode]
    rw [podPlanSchedulingNode, hbound, hmode, hsame.predicateNode, podPlanSchedulingNode, hfree]
    rcases hmatch.2 with hremote | heq
    · simp [hremote]
    · simp [heq]

/-! ## 4. Sums over pods -/

/-- Replacing the one pod of a UID changes the sum by that pod only. -/
theorem sum_replace_le (f : Pod → Int) (q : Pod) (h0 : 0 ≤ f q) : ∀ {pods : List Pod}, (pods.map Pod.uid).Nodup →
    ((pods.map fun p => if p.uid = uid then q else p).map f).sum ≤
      ((pods.filter fun p => p.uid ≠ uid).map f).sum + f q
  | [], _ => by simpa using h0
  | p :: pods, hnd => by
    obtain ⟨hout, hnd⟩ := nodup_cons.mp hnd
    by_cases hp : p.uid = uid
    · have hne : ∀ x ∈ pods, x.uid ≠ uid := fun x hx heq =>
        hout (mem_map.mpr ⟨x, hx, heq.trans hp.symm⟩)
      have hmap : pods.map (fun x => if x.uid = uid then q else x) = pods :=
        (map_congr_left fun x hx => if_neg (hne x hx)).trans (map_id pods)
      have hfilter : pods.filter (fun x => x.uid ≠ uid) = pods :=
        filter_eq_self.mpr fun x hx => by simpa using hne x hx
      simp only [map_cons, hp, if_true, hmap, sum_cons, filter_cons, ne_eq,
        not_true_eq_false, decide_false, Bool.false_eq_true, if_false]
      rw [hfilter]
      omega
    · have ih := sum_replace_le f q h0 hnd
      simp only [map_cons, hp, if_false, sum_cons, filter_cons, ne_eq,
        not_false_eq_true, decide_true, if_true] at ih ⊢
      omega

/-- **What the filter's snapshot records** for a device is what the other pods that count hold of
it. -/
theorem recorded_sum {pods : List Pod} (grace now : Int) (name own u : Text) (r : Resource)
    (hphase : ∀ p ∈ pods, p.phase = .pending) (hvgpu : ∀ p ∈ pods, isVGPUResourcePod p = false → podUsage P p = []) :
    (demandsAt u r (NodeInfo.podsUsage P now grace ((podsOnNode (nodePodsOf pods name) name).filter
        fun p => p.uid ∉ [own]))).sum = ((pods.filter fun p => p.uid ≠ own).map (share P grace now name u r)).sum := by
  rw [NodeInfo.podsUsage, sum_demandsAt_flatMap]
  simp only [← footprintOn.eq_def, podsOnNode, nodePodsOf, filter_filter, sum_map_filter]
  refine congrArg sum (map_congr_left fun p hp => ?_)
  by_cases hv : isVGPUResourcePod p = true
  · simp only [hphase p hp, hv, share]
    by_cases ho : p.uid = own <;>
      by_cases hplan : podPlanSchedulingNode p = name <;>
      cases hc : shouldCountPodDeviceAllocation P now grace p <;> simp [ho, hplan]
  · have hzero : footprintOn P u r p = 0 := by
      simp [footprintOn, hvgpu p hp (by simpa using hv), demandsAt]
    simp [share, hzero]

theorem uids_update (h : ∀ p ∈ s.pods, p.uid = uid → (f p).uid = uid) :
    (s.update uid f).pods.map Pod.uid = s.pods.map Pod.uid :=
  map_key_ite h

/-! ## 5. The steps -/

/-- The part of the invariant that reads the containers only. -/
theorem wellFormed_congr {A : IntArith} (hi : q.initContainers = p.initContainers)
    (hc : q.containers = p.containers) (hw : p.WellFormed A) (hm : ScaledMemoryOk nodes A p) :
    q.WellFormed A ∧ ScaledMemoryOk nodes A q := by
  constructor
  · constructor <;> rw [hi, hc]
    · exact hw.names
    · exact hw.name_free
    · exact hw.cores
    · exact hw.memory
  · unfold ScaledMemoryOk containerNeeds
    rw [hi, hc]
    exact hm

theorem PodInv.keeps (h : PodInv P nodes p) (hk : Keeps P now grace p q) : PodInv P nodes q := by
  have husage : podUsage P q = podUsage P p := hk.same.podUsage_eq
  obtain ⟨hw, hm⟩ := wellFormed_congr hk.same.initContainers hk.same.containers h.wellFormed h.memory
  refine ⟨hw, hm, hk.same.phase.trans h.phase, fun hv => ?_, ?_⟩
  · rw [husage]
    exact h.vgpu (hk.same.isVGPUResourcePod_eq ▸ hv)
  · intro node hnode hplan ds hreg dev hdev r
    rw [husage]
    by_cases hnil : podUsage P p = []
    · simp [hnil, demandsAt]
    · exact h.nonneg node hnode ((hk.plan hnil).symm.trans hplan) ds hreg dev hdev r

section Device

variable {node : Node} {ds : List DeviceInfo} {dev : DeviceInfo} (hnode : node ∈ nodes)
  (hreg : NodeInfo.Options.registry node {} = .ok ds) (hdev : dev ∈ ds)

include hnode hreg hdev

theorem PodInv.share_nonneg (h : PodInv P nodes p) (r : Resource) : 0 ≤ share P grace now node.name dev.uuid r p := by
  unfold share
  split
  · rename_i hc
    exact sum_nonneg (h.nonneg node hnode hc.1 ds hreg dev hdev r)
  · exact le_rfl

variable (h : s.Inv P grace nodes)

include h

/-- What the other pods hold of a device is within its capacity, and none of it is negative. -/
theorem Cluster.Inv.others_le (own : Text) (r : Resource) :
    0 ≤ ((s.pods.filter fun p => p.uid ≠ own).map (share P grace s.now node.name dev.uuid r)).sum ∧
      ((s.pods.filter fun p => p.uid ≠ own).map (share P grace s.now node.name dev.uuid r)).sum ≤
        (newDevice dev).getTotal r := by
  constructor
  · exact sum_nonneg (forall_mem_map.mpr fun p hp =>
      (h.pods p (mem_filter.mp hp).1).share_nonneg hnode hreg hdev r)
  · refine le_trans ?_ (h.load node hnode ds hreg dev hdev r)
    rw [sum_map_filter]
    refine sum_le_sum fun p hp => ?_
    split
    · exact le_rfl
    · exact (h.pods p hp).share_nonneg hnode hreg hdev r

/-- What the bound pods hold is within the capacity: they all count. -/
theorem Cluster.Inv.bound_le (r : Resource) : boundLoad P s.pods node.name dev.uuid r ≤ (newDevice dev).getTotal r := by
  refine le_trans ?_ (h.load node hnode ds hreg dev hdev r)
  rw [boundLoad, sum_map_filter]
  refine sum_le_sum fun p hp => ?_
  split
  · rename_i hc
    simp only [decide_eq_true_eq] at hc
    have hcounted : shouldCountPodDeviceAllocation P s.now grace p = true := by
      simp [shouldCountPodDeviceAllocation, hc.1]
    rw [share, if_pos ⟨hc.2, hcounted⟩]
  · exact (h.pods p hp).share_nonneg hnode hreg hdev r

end Device

/-- As the clock advances an allocation can only stop counting. -/
theorem shouldCount_of_later {later : Int} (hle : now ≤ later)
    (h : shouldCountPodDeviceAllocation P later grace p = true) :
    shouldCountPodDeviceAllocation P now grace p = true := by
  revert h
  unfold shouldCountPodDeviceAllocation
  repeat' split
  all_goals first
    | exact id
    | (simp only [decide_eq_true_eq]; omega)

theorem node_eq_of_name (hnodes : ClusterNodes P nodes) {a b : Node} (ha : a ∈ nodes)
    (hb : b ∈ nodes) (h : a.name = b.name) : a = b :=
  inj_on_of_nodup_map hnodes.names ha hb h

section Steps

variable (h : s.Inv P grace nodes)

include h

theorem Cluster.Inv.pods_update (hf : ∀ p ∈ s.pods, p.uid = uid → PodInv P nodes (f p)) :
    ∀ q ∈ (s.update uid f).pods, PodInv P nodes q := by
  intro q hq
  rcases mem_map_ite hq with ⟨hq, -⟩ | ⟨p, hp, hu, rfl⟩
  · exact h.pods q hq
  · exact hf p hp hu

/-- A step that neither places nor revives keeps the invariant. -/
theorem Cluster.Inv.keeps (hf : ∀ p ∈ s.pods, p.uid = uid → Keeps P s.now grace p (f p)) :
    (s.update uid f).Inv P grace nodes := by
  refine ⟨?_, h.pods_update fun p hp hu => (h.pods p hp).keeps (hf p hp hu), ?_⟩
  · rw [uids_update fun p hp hu => (hf p hp hu).same.uid.trans hu]
    exact h.uids
  · intro node hnode ds hreg dev hdev r
    refine le_trans ?_ (h.load node hnode ds hreg dev hdev r)
    rw [Cluster.update, map_map]
    refine sum_le_sum fun p hp => ?_
    by_cases hu : p.uid = uid
    · simpa [hu] using (hf p hp hu).share_le ((h.pods p hp).share_nonneg hnode hreg hdev r)
    · simp [hu]

theorem Cluster.Inv.advance (d : Nat) : Cluster.Inv P grace nodes { s with now := s.now + d } := by
  refine ⟨h.uids, h.pods, fun node hnode ds hreg dev hdev r => ?_⟩
  refine le_trans (sum_le_sum fun p hp => ?_) (h.load node hnode ds hreg dev hdev r)
  exact share_le_of rfl (fun hc => ⟨hc.1, shouldCount_of_later (show s.now ≤ s.now + d by omega) hc.2⟩)
    ((h.pods p hp).share_nonneg hnode hreg hdev r)

/-! ## 6. Placing a pod -/

variable (hnodes : ClusterNodes P nodes)

include hnodes

/-- **The filter's snapshot of a node**: its counters are the true sums of what the other pods
hold. -/
theorem Cluster.Inv.snapshot {node : Node} {req : AllocationRequest P.F} {info : NodeInfo}
    (hnode : node ∈ nodes) (hcheck : nodeFilter req node = none) (hinfo : newNodeInfo P s.now grace node
      (filterOptions P gpuTopology req node (nodePodsOf s.pods node.name)) = .ok info) :
    info.Sound P.int ∧ info.name = node.name ∧
      (∀ pod, ScaledMemoryOk nodes P.int pod → ScaledNotNegative P.int info pod) ∧
      ∀ ds, NodeInfo.Options.registry node {} = .ok ds → ∀ dev ∈ ds, ∃ d ∈ info.devices,
        d.uuid = dev.uuid ∧ d.total = (newDevice dev).total ∧ ∀ r, d.used.get r =
          ((s.pods.filter fun p => p.uid ≠ req.pod.uid).map (share P grace s.now node.name dev.uuid r)).sum := by
  have hc := nodeFilter_none hcheck
  have hreg : ∀ ds, (filterOptions P gpuTopology req node
      (nodePodsOf s.pods node.name)).registry node = .ok ds → Registry.WellFormed P.int ds := by
    rw [filterOptions_registry hc]
    exact hnodes.registry node hnode
  obtain ⟨hname, ⟨config, hconfig, hfactor⟩, registry, hregistry, hdevices⟩ :=
    newNodeInfo_devices hreg rfl rfl hinfo
  refine ⟨newNodeInfo_sound hreg hinfo, hname, fun pod hm need hneed hpos => ?_, fun ds hds dev hdev => ?_⟩
  · obtain ⟨-, c, -, hvalue⟩ := checkNode_none hc
    obtain rfl : c = config := by
      simpa [NodeInfo.Options.config, filterOptions, Published.value?, hvalue] using hconfig
    rw [hfactor] at hpos ⊢
    exact hm node hnode c (by simp [hvalue, Published.value?]) need hneed hpos
  · obtain rfl : registry = ds := by
      rw [filterOptions_registry hc, hds] at hregistry
      exact (Except.ok.inj hregistry).symm
    rw [hdevices]
    refine ⟨_, mem_map_of_mem hdev, rfl, rfl, fun r => ?_⟩
    rw [Device.withUsed_used, NodeInfo.get_foldl_add, Amount.get_zero]
    have hsum := recorded_sum grace s.now node.name req.pod.uid
      dev.uuid r (fun p hp => (h.pods p hp).phase) fun p hp => (h.pods p hp).vgpu
    obtain ⟨h0, hle⟩ := h.others_le hnode hds hdev req.pod.uid r
    rw [← hsum] at hle ⊢
    -- no addition wraps, since the true sum is within the capacity
    refine IntArith.sum_eq ?_ (fun v hv => ?_) hle
    · exact (newDevice_sound (hnodes.registry node hnode registry hds) hdev).getTotal_fits r
    · obtain ⟨a, ha, rfl⟩ := mem_demandsAt.mp hv
      obtain ⟨p, hp, ha⟩ := mem_flatMap.mp ha
      have hp := (mem_filter.mp (mem_filter.mp hp).1).1
      obtain ⟨hp, hplan⟩ := mem_filter.mp hp
      simp only [decide_eq_true_eq] at hplan
      exact (h.pods p (mem_filter.mp hp).1).nonneg node hnode hplan.1 registry hds dev hdev r _
        (mem_demandsAt.mpr ⟨a, ha, rfl⟩)

section Place

variable {candidates : List Node} (hpod : pod ∈ s.pods) (hsub : ∀ node ∈ candidates, node ∈ nodes)
  (hplaced : filterChain P s.now grace gpuTopology nodes s.pods pod candidates = .ok (.placed pod'))

include hpod hsub hplaced

/-- **A pod the filter has placed** fits on its node beside what the other pods hold there. -/
theorem Cluster.Inv.placed : pod'.uid = pod.uid ∧ pod'.initContainers = pod.initContainers ∧
      pod'.containers = pod.containers ∧ pod'.phase = pod.phase ∧
      isVGPUResourcePod pod' = true ∧ ∃ node ∈ nodes, podPlanSchedulingNode pod' = node.name ∧
        ∀ ds, NodeInfo.Options.registry node {} = .ok ds → ∀ dev ∈ ds, ∀ r,
          (∀ v ∈ demandsAt dev.uuid r (podUsage P pod'), 0 ≤ v) ∧ ((s.pods.filter fun p => p.uid ≠ pod.uid).map
              (share P grace s.now node.name dev.uuid r)).sum + footprintOn P dev.uuid r pod' ≤
            (newDevice dev).getTotal r := by
  obtain ⟨hfree, hneeds, node, hmem, req, keyed, info, q, m, hreq, hbuilt, hcheck, hinfo, hq,
    hpatch⟩ := filterChain_placed hplaced
  have hok := h.pods pod hpod
  have hnode := hsub node hmem
  obtain ⟨hsound, hname, hmemory, hdevices⟩ := h.snapshot hnodes hnode hcheck hinfo
  obtain ⟨g, hplace, rfl⟩ := allocate_placement hbuilt hok.wellFormed.nodup_needs hq
  have hpod' := patchPodPreAllocatedMetadata_ok hpatch
  have hinit : pod'.initContainers = pod.initContainers := by rw [hpod']
  have hclaims : getPodDeviceClaim P.int pod' = (containerNeeds pod).map g :=
    hplace.claims_read hsound hok.wellFormed hbuilt (by rw [hpod']) (by rw [hpod']; rfl)
  refine ⟨by rw [hpod'], hinit, by rw [hpod'], by rw [hpod'], ?_, node, hnode, ?_, fun ds hds dev hdev r => ?_⟩
  · rw [hpod']
    exact isVGPUResourcePod_of_needs hneeds
  · rw [hpod']
    simp [podPlanSchedulingNode, hfree, hname]
  · obtain ⟨d, hd, huuid, htotal, hused⟩ := hdevices ds hds dev hdev
    obtain ⟨h0, hle⟩ := h.others_le hnode hds hdev pod.uid r
    rw [hreq] at hused
    rw [Device.getTotal_eq_max] at hle ⊢
    have hleft : d.allocatable P.int r = max 0 (d.total.get r - d.used.get r) :=
      IntArith.left_of_le ((hsound.devices d hd).total_fits r) (by rw [hused]; exact h0)
        (by rw [hused, htotal]; exact hle)
    have hpeak := hplace.peak_le_allocatable hsound hok.wellFormed (hmemory pod hok.memory) hbuilt hd hleft
    have hpeak0 := hplace.peakOn_nonneg (r := r) (d := d) hsound hok.wellFormed (hmemory pod hok.memory) hbuilt
    have hfits : P.int.Fits (peakOn g pod r d) :=
      P.int.fits_zero.between (P.int.fits_left _ _) hpeak0 hpeak
    obtain ⟨hnn, hsum⟩ := hplace.usage_le_peak hsound hok.wellFormed
      (hmemory pod hok.memory) hbuilt hinit hclaims hfits
    rw [huuid] at hnn hsum
    refine ⟨hnn, ?_⟩
    rw [hleft, hused, htotal] at hpeak
    have hfoot := hsum.trans hpeak
    rw [← footprintOn] at hfoot
    omega

/-- Placing a pod keeps the invariant. -/
theorem Cluster.Inv.place : (s.update pod.uid fun _ => pod').Inv P grace nodes := by
  obtain ⟨huid, hinit, hcont, hphase, hvgpu, home, hhome, hplan, hfits⟩ :=
    h.placed hnodes hpod hsub hplaced
  have hok := h.pods pod hpod
  obtain ⟨hw, hm⟩ := wellFormed_congr hinit hcont hok.wellFormed hok.memory
  have hnew : PodInv P nodes pod' := by
    refine ⟨hw, hm, hphase.trans hok.phase, fun hv => absurd hvgpu (by simp [hv]), ?_⟩
    intro node hnode hp ds hreg dev hdev r
    obtain rfl := node_eq_of_name hnodes hnode hhome (hp.symm.trans hplan)
    exact (hfits ds hreg dev hdev r).1
  refine ⟨?_, h.pods_update fun _ _ _ => hnew, fun node hnode ds hreg dev hdev r => ?_⟩
  · rw [uids_update fun _ _ _ => huid]
    exact h.uids
  · refine (sum_replace_le (share P grace s.now node.name dev.uuid r) pod'
      (hnew.share_nonneg hnode hreg hdev r) h.uids).trans ?_
    -- on its own node the pod was tested, on the others it holds nothing
    by_cases hc : podPlanSchedulingNode pod' = node.name ∧ shouldCountPodDeviceAllocation P s.now grace pod' = true
    · obtain rfl := node_eq_of_name hnodes hnode hhome (hc.1.symm.trans hplan)
      rw [share.eq_def _ _ _ _ _ _ pod', if_pos hc]
      exact (hfits ds hreg dev hdev r).2
    · rw [share.eq_def _ _ _ _ _ _ pod', if_neg hc, Int.add_zero]
      exact (h.others_le hnode hreg hdev pod.uid r).2

end Place

/-! ## 7. Runs -/

/-- **Every step that revives nothing keeps the invariant.** -/
theorem Cluster.Inv.step (e : ClusterEvent) (hsafe : RevivesNothing P grace s e) :
    (s.step P grace gpuTopology nodes e).Inv P grace nodes := by
  cases e with
  | filter uid names =>
    unfold Cluster.step
    dsimp only
    split
    · exact h
    rename_i pod hfind
    have huid : pod.uid = uid := by simpa using find?_some hfind
    split
    · rename_i pod' hplaced
      rw [← huid]
      refine h.place hnodes (mem_of_find?_eq_some hfind) (fun node hnode => ?_) hplaced
      obtain ⟨name, -, hname⟩ := mem_filterMap.mp hnode
      exact mem_of_find?_eq_some hname
    · exact h
  | bind uid node w => exact h.keeps fun p hp _ => bind_keeps w node (h.pods p hp).vgpu
  | condition uid reason =>
    refine h.keeps fun p hp hu => ?_
    refine ⟨⟨rfl, rfl, rfl, rfl, rfl, rfl, rfl, rfl⟩, fun _ => rfl, fun hclaims hq => ?_⟩
    by_contra hno
    have hgone := hsafe p hp hu (fun hnil => hclaims (podUsage_nil hnil)) (by simpa using hno)
    rw [hgone] at hq
    simp at hq
  | advance d => exact h.advance d

end Steps

theorem Cluster.Fresh.inv (h : s.Fresh P) (hmem : ∀ p ∈ s.pods, ScaledMemoryOk nodes P.int p) :
    s.Inv P grace nodes := by
  have hnone : ∀ p ∈ s.pods, podUsage P p = [] := by
    intro p hp
    obtain ⟨hpre, hreal⟩ := h.unclaimed p hp
    exact podUsage_nil (by simp only [getPodDeviceClaim, hpre, hreal]; rfl)
  refine ⟨h.uids, fun p hp => ⟨h.wellFormed p hp, hmem p hp, (h.pending p hp).1, fun _ => hnone p hp, ?_⟩, ?_⟩
  · intro node _ _ ds _ dev _ r
    simp [hnone p hp, demandsAt]
  · intro node _ ds _ dev _ r
    refine le_trans (le_of_eq (sum_eq_zero fun v hv => ?_)) ((newDevice dev).getTotal_nonneg r)
    obtain ⟨p, hp, rfl⟩ := mem_map.mp hv
    simp [share, footprintOn, hnone p hp, demandsAt]

/-- **No device is given away twice.** In every run from fresh pods in which no condition update
revives an allocation and no scaled memory wraps, the bound pods hold of every device at most
its capacity. -/
theorem bound_within_capacity (hnodes : ClusterNodes P nodes) (hfresh : s.Fresh P)
    (hmem : ∀ p ∈ s.pods, ScaledMemoryOk nodes P.int p) {events : List ClusterEvent}
    (hsafe : Along (Cluster.step P grace gpuTopology nodes) (RevivesNothing P grace) s events)
    {node : Node} (hnode : node ∈ nodes) {ds : List DeviceInfo}
    (hreg : NodeInfo.Options.registry node {} = .ok ds) {dev : DeviceInfo} (hdev : dev ∈ ds) (r : Resource) :
    boundLoad P (run (Cluster.step P grace gpuTopology nodes) s events).pods node.name dev.uuid r ≤
      (newDevice dev).getTotal r := by
  have hinv := run_invariant
    (fun s e h hs => h.step hnodes e hs) events (hfresh.inv hmem) hsafe
  exact hinv.bound_le hnode hreg hdev r

/-- A node with one card of 100 cores and 10000 MB. -/
def oneCard : Node where
  name := "gpu-node".toList
  vgpuAllocatable := 10
  deviceRegister := .value [ { id := 0, uuid := "GPU-a".toList, core := 100, memory := 10000, number := 10 }]
  configInfo := .value { deviceSplit := 10, memoryFactor := 1 }

/-- A pod that wants one vGPU with these cores. -/
def cardUser (name : Text) (cores : Int) : Pod where
  name := name
  uid := name
  containers := [ { name := "main".toList, vgpuNumber := 1, vgpuCores := cores, vgpuMemory := 1000 }]

/-- Two unplaced pods, five seconds after the epoch. -/
def twoUsers (coresA coresB : Int) : Cluster :=
  ⟨[cardUser "a".toList coresA, cardUser "b".toList coresB], 5000000000⟩

theorem oneCard_nodes : ClusterNodes (.exact .int64) [oneCard] := by
  refine ⟨by decide, fun node hnode ds hreg => ?_⟩
  obtain rfl := mem_singleton.mp hnode
  cases hreg
  decide +kernel

theorem twoUsers_fresh {coresA coresB : Int} (h : ∀ p ∈ (twoUsers coresA coresB).pods, p.WellFormed .int64) :
    (twoUsers coresA coresB).Fresh (.exact .int64) := by
  have huser : ∀ p ∈ (twoUsers coresA coresB).pods, ∃ name cores, p = cardUser name cores := by
    intro p hp
    rcases mem_cons.mp hp with rfl | hp
    · exact ⟨_, _, rfl⟩
    · exact ⟨_, _, mem_singleton.mp hp⟩
  refine ⟨show ["a".toList, "b".toList].Nodup by decide, h, fun p hp => ?_, fun p hp => ?_⟩ <;>
    obtain ⟨name, cores, rfl⟩ := huser p hp <;> exact ⟨rfl, rfl⟩

/-- The grace period, 30 seconds. -/
def thirtySeconds : Int := 30000000000

/-- Two pods share a card. The first one's allocation lapses and is decided again. -/
def sharingRun : List ClusterEvent := [
  .filter "a".toList ["gpu-node".toList], .condition "a".toList "Unschedulable".toList,
  .filter "b".toList ["gpu-node".toList], .advance 2000000000,
  .filter "a".toList ["gpu-node".toList], .bind "b".toList "gpu-node".toList {},
  .bind "a".toList "gpu-node".toList {}]

theorem bound_within_capacity_sharing :
    boundLoad (.exact .int64) (run (Cluster.step (.exact .int64) thirtySeconds true [oneCard])
      (twoUsers 40 60) sharingRun).pods "gpu-node".toList "GPU-a".toList .cores = 100 ∧
    boundLoad (.exact .int64) (run (Cluster.step (.exact .int64) thirtySeconds true [oneCard])
      (twoUsers 40 60) sharingRun).pods "gpu-node".toList "GPU-a".toList .cores ≤ 100 :=
  ⟨by decide +kernel, bound_within_capacity oneCard_nodes
    (twoUsers_fresh (by decide +kernel)) (by decide +kernel) (by decide +kernel)
    (show oneCard ∈ [oneCard] from mem_singleton.mpr rfl) rfl (mem_singleton.mpr rfl) .cores⟩

/-- The first allocation lapses, its card is given to the second pod, and then the condition's
reason changes: the first allocation counts again, so the filter keeps the pod on its node and
the bind accepts it. -/
def revivedRun : List ClusterEvent := [
  .filter "a".toList ["gpu-node".toList], .condition "a".toList "Unschedulable".toList,
  .filter "b".toList ["gpu-node".toList], .bind "b".toList "gpu-node".toList {},
  .condition "a".toList "SchedulerError".toList, .filter "a".toList ["gpu-node".toList],
  .bind "a".toList "gpu-node".toList {}]

/-- **A revived allocation is bound on top of another.** Both pods hold all cores of the card. -/
theorem bound_over_capacity : ClusterNodes (.exact .int64) [oneCard] ∧ (twoUsers 100 100).Fresh (.exact .int64) ∧
    (∀ p ∈ (twoUsers 100 100).pods, ScaledMemoryOk [oneCard] .int64 p) ∧
    boundLoad (.exact .int64) (run (Cluster.step (.exact .int64) thirtySeconds true [oneCard])
      (twoUsers 100 100) revivedRun).pods "gpu-node".toList "GPU-a".toList .cores = 200 ∧
    ∃ ds, NodeInfo.Options.registry oneCard {} = .ok ds ∧
      ∀ dev ∈ ds, dev.uuid = "GPU-a".toList → (newDevice dev).getTotal .cores = 100 :=
  ⟨oneCard_nodes, twoUsers_fresh (by decide +kernel), by decide +kernel, by decide +kernel, _, rfl, by decide +kernel⟩

end VGpuManager

import VGpuManager.Scheduler.Filter

/-!
# Preemption

For a pod that fits nowhere the in-tree scheduler proposes victims on every node. `refineForNode`
keeps the proposal, without the pods that must not be evicted, and adds further victims of the
node one by one in a fixed order until the allocator accepts the pod. The file follows
`pkg/scheduler/preempt/preempt_predicate.go`.
-/

namespace VGpuManager

open Foundation List

/-! ## 1. Growing a list until a test passes -/

section Grow

variable {α : Type}

/-- Append the candidates one by one and stop as soon as the test passes. -/
def growUntil (ok : List α → Bool) : List α → List α → Option (List α)
  | _, [] => none
  | kept, c :: cs => if ok (kept ++ [c]) then some (kept ++ [c]) else growUntil ok (kept ++ [c]) cs

variable {ok : List α → Bool} {kept r : List α}

/-- What the search returns passes the test and adds a non-empty initial segment. -/
theorem growUntil_some : ∀ {cs kept : List α}, growUntil ok kept cs = some r →
    ok r = true ∧ ∃ added, added ≠ [] ∧ added <+: cs ∧ r = kept ++ added
  | [], _, h => by simp [growUntil] at h
  | c :: cs, kept, h => by
    unfold growUntil at h
    split at h
    · rename_i hok
      cases h
      exact ⟨hok, [c], by simp, ⟨cs, rfl⟩, rfl⟩
    · obtain ⟨hok, added, -, ⟨rest, hrest⟩, rfl⟩ := growUntil_some h
      refine ⟨hok, c :: added, by simp, ⟨rest, by rw [cons_append, hrest]⟩, by simp⟩

/-- The search succeeds exactly when some non-empty initial segment passes the test. -/
theorem growUntil_isSome_iff : ∀ {cs kept : List α}, (growUntil ok kept cs).isSome = true ↔
    ∃ added, added ≠ [] ∧ added <+: cs ∧ ok (kept ++ added) = true
  | [], kept => by
    simp only [growUntil, Option.isSome_none, Bool.false_eq_true, prefix_nil, false_iff]
    rintro ⟨added, hne, rfl, -⟩
    exact hne rfl
  | c :: cs, kept => by
    have ih : (growUntil ok (kept ++ [c]) cs).isSome = true ↔ _ := growUntil_isSome_iff
    by_cases hok : ok (kept ++ [c]) = true
    · rw [growUntil, if_pos hok]
      exact ⟨fun _ => ⟨[c], by simp, ⟨cs, rfl⟩, hok⟩, fun _ => rfl⟩
    · rw [growUntil, if_neg hok, ih]
      constructor
      · intro ⟨added, _, ⟨rest, hrest⟩, hadd⟩
        exact ⟨c :: added, by simp, ⟨rest, by rw [cons_append, hrest]⟩, by simpa using hadd⟩
      · intro ⟨added, hne, hpre, hadd⟩
        cases added with
        | nil => exact absurd rfl hne
        | cons a added =>
          obtain ⟨rfl, htail⟩ := cons_prefix_cons.mp hpre
          cases added with
          | nil => exact absurd hadd hok
          | cons b added => exact ⟨b :: added, by simp, htail, by simpa using hadd⟩

end Grow

/-! ## 2. Who may be evicted -/

/-- The victims the in-tree scheduler proposes for a node. -/
structure Victims where
  pods : List Pod
  numPDBViolations : Int

/-- `kubelettypes.Preemptable` as the comment and the test of its caller describe it: only a critical preemptor evicts
a pod whose priority is not known to be lower, and no critical one then. -/
structure PreemptRule where
  preemptable : Pod → Pod → Bool
  documented : ∀ {preemptor v}, preemptable preemptor v = true → (preemptor.critical = true ∧ v.critical = false) ∨
    ∃ p q, preemptor.priority = some p ∧ v.priority = some q ∧ q < p

/-- `corev1helpers.PodPriority`. -/
def podPriority (pod : Pod) : Int := pod.priority.getD 0

structure PodDisruptionBudget where
  deleting : Bool := false
  /-- The names of the pods already recorded as disrupted. -/
  disruptedPods : List Text := []
  disruptionsAllowed : Int
deriving DecidableEq, Repr

/-- The budgets that select a pod; `none` when listing them failed. -/
abbrev PDBLister := Pod → Option (List PodDisruptionBudget)

def isPodAlreadyDisrupted (pod : Pod) (pdb : PodDisruptionBudget) : Bool :=
  pod.name ∈ pdb.disruptedPods

/-- `violationOfPDBs`: would evicting the pod break a budget? A failed listing counts as no. -/
def violationOfPDBs (pdbLister : Option PDBLister) (pod : Pod) : Bool :=
  match pdbLister.bind fun list => list pod with
  | none => false
  | some budgets => budgets.any fun pdb =>
    !pdb.deleting && !isPodAlreadyDisrupted pod pdb && decide (pdb.disruptionsAllowed ≤ 0)

inductive ProtectedBy where
  | terminating | critical | daemonSet | binding | gangSibling
deriving DecidableEq, Repr

section Preempt

variable (P : Platform) (now grace : Int)

/-- `isProtectedFromPreemption`: why the pod must not be evicted, if so. -/
def isProtectedFromPreemption (pod : Pod) (gangName : Option Text) : Option ProtectedBy :=
  if pod.deleting then some .terminating
  else if pod.phase = .succeeded ∨ pod.phase = .failed then some .terminating
  else if pod.critical then some .critical
  else if (controllerOf pod).any fun owner => owner.kind = "DaemonSet".toList then some .daemonSet
  else if pod.nodeName = [] ∧ shouldCountPodDeviceAllocation P now grace pod = true then
    some .binding
  else if gangName.isSome ∧ podGangKey pod = gangName then some .gangSibling
  else none

/-- What `Preempt` holds for a candidate node: its snapshot without pods, and a copy of the
request with the statistics of that node. The copy is taken before the gang keys are looked
up, so it never has them. -/
def preemptNodeInfo (gpuTopology : Bool) (req : AllocationRequest P.F) (node : Node) :
    Except NodeInfoError (NodeInfo × AllocationRequest P.F) :=
  (newNodeInfo P now grace node { gpuTopologyEnabled := gpuTopology && req.topology.usesLinkTiers }).map fun n =>
      (n, req.resetStatistics n)

/-! ## 3. Trying a victim set -/

variable (K : PreemptRule) (pdbLister : Option PDBLister) (req : AllocationRequest P.F) (n : NodeInfo) (node : Node)
  (victims : Victims) (allVGPUPods : List Pod) (excluded : List Text)

/-- The node's snapshot with the pods refilled except the victims. -/
def removeVictims : NodeInfo :=
  n.addPodsUsedResources P now grace allVGPUPods { excludedUids := excluded, resetPods := true, resetUsed := true }

/-- `canAllocate`: does the pod fit once the victims are gone? -/
def canAllocate : Except AllocError Unit :=
  (allocate P now grace (removeVictims P now grace n allVGPUPods excluded) req).map fun _ => ()

/-- The verdict of `canAllocate` on a list of victims. -/
def accepts (chosen : List Pod) : Bool :=
  (canAllocate P now grace req n allVGPUPods (chosen.map Pod.uid)).isOk

/-- `anchorComponentUUIDs`: the GPUs of the component the pod's siblings pin it to. -/
def anchorComponentUUIDs : List Text :=
  if req.topology ≠ .link ∨ n.gpuTopology = false then []
  else if req.crossPodTopology = false ∨ (req.gangName = none ∧ req.controllerOwner = none) then []
  else match n.gangAnchorComponent P now grace req.gangName req.controllerOwner [req.pod.uid] with
  | some root => n.componentUUIDs root
  | none => ((n.componentByDomain req.gangDomainKey).map n.componentUUIDs).getD []

/-- The order of eviction: pods on the pinned component, pods without a gang, lower priorities,
newer pods. -/
def victimLess (targets : List Text) (a b : Pod) : Bool :=
  let onTarget (p : Pod) : Bool := (podPreAllocatedUUIDs P.int p).any fun u => u ∈ targets
  let inGang (p : Pod) : Bool := (podHasGangName p).isSome
  if onTarget a ≠ onTarget b then onTarget a
  else if inGang a ≠ inGang b then !inGang a
  else if podPriority a ≠ podPriority b then decide (podPriority a < podPriority b)
  else decide (b.creationTime < a.creationTime)

def sortVictimsByPreference (targets : List Text) (pods : List Pod) : List Pod :=
  sortBy (victimLess P targets) pods

/-- The test `findAdditionalVictims` makes on each vGPU pod of the node. -/
def eligibleVictim (c : Pod) : Bool :=
  decide (c.uid ≠ req.pod.uid) && decide (c.uid ∉ excluded) && decide (c.nodeName = n.name) &&
    K.preemptable req.pod c && (isProtectedFromPreemption P now grace c req.gangName).isNone &&
    !violationOfPDBs pdbLister c

/-- `findAdditionalVictims`: the further pods that may be evicted, in the order of eviction. `n`
is the snapshot the first attempt left. -/
def findAdditionalVictims : List Pod :=
  sortVictimsByPreference P (anchorComponentUUIDs P now grace req n)
    (allVGPUPods.filter (eligibleVictim P now grace K pdbLister req n excluded))

/-! ## 4. One node -/

/-- The checks of `refineForNode` before any victim is looked at. -/
def refineGate : Option ReasonCode :=
  if node.isRemoteServer then some .nodeIsRemoteServer
  else match checkNode node (memoryPolicyReason req.pod) with
  | some code => some code
  | none =>
    if n.schedulableDevices < req.max.number then some .insufficientGPUCards
    else if n.maxDeviceCores < req.max.cores then some .insufficientVGPUCore
    else if n.maxDeviceMemory < req.max.memory then some .insufficientVGPUMemory
    else if (req.checkDeviceUuid || req.checkDeviceType) &&
        decide (((n.devices.filter (selectorMatches req)).length : Int) < req.max.number) then
      some (if req.checkDeviceUuid then .deviceUUIDMismatch else .deviceTypeMismatch)
    else none

/-- `pdbViolationsUpperBound`. -/
def pdbViolationsUpperBound (originalCount : Int) (keptLen addedLen : Nat) : Int :=
  min originalCount keptLen + addedLen

/-- The proposal without the pods that must not be evicted. -/
def keptVictims : List Pod :=
  victims.pods.filter fun v => (isProtectedFromPreemption P now grace v req.gangName).isNone

/-- The further victims `refineForNode` would try, in order. -/
def additionalVictims : List Pod :=
  let excluded := (keptVictims P now grace req victims).map Pod.uid
  findAdditionalVictims P now grace K pdbLister req
    (removeVictims P now grace n allVGPUPods excluded) allVGPUPods excluded

/-- `refineForNode`: the victims on this node and a bound on the budgets they break, or `none`
when the node is dropped. -/
def refineForNode : Option (List Pod × Int) :=
  if (refineGate P req n node).isSome then none
  else
    let keep := keptVictims P now grace req victims
    if accepts P now grace req n allVGPUPods keep then
      some (keep, pdbViolationsUpperBound victims.numPDBViolations keep.length 0)
    else
      (growUntil (accepts P now grace req n allVGPUPods) keep
        (additionalVictims P now grace K pdbLister req n victims allVGPUPods)).map fun all =>
          (all, pdbViolationsUpperBound victims.numPDBViolations keep.length (all.length - keep.length))

/-! ## 5. The call -/

/-- The candidate nodes with the victims that make the pod fit. -/
inductive PreemptResult where
  | passthrough
  | victims (nodes : List (Text × List Pod × Int))

def preempt (gpuTopology : Bool) (cluster : List Node) (pods : List Pod) (pod : Pod)
    (victimsMap : List (Text × Victims)) : PreemptResult :=
  let req := buildAllocationRequest P pod
  if req.containers = [] ∨ req.accessMode = .remoteMode then .passthrough
  else .victims (victimsMap.filterMap fun (name, victims) => do
    let node ← cluster.find? fun node => node.name = name && !node.deleting
    let (n, snapshot) ← (preemptNodeInfo P now grace gpuTopology req node).toOption
    let (refined, violations) ← refineForNode P now grace K pdbLister snapshot n node victims (nodePodsOf pods name)
    if refined = [] then none else some (name, refined, violations))

end Preempt

/-! ## 6. A node to evaluate -/

/-- A large and a small card. -/
def unevenCards : Node where
  name := "uneven".toList
  vgpuAllocatable := 20
  deviceRegister := .value [ { id := 0, uuid := "GPU-a".toList, core := 100, memory := 40000, number := 10 },
    { id := 1, uuid := "GPU-b".toList, core := 100, memory := 20000, number := 10 }]
  configInfo := .value { deviceSplit := 10, memoryFactor := 1 }

/-- A pod bound to `unevenCards` that uses 60 cores of the large card. -/
def coresUser : Pod where
  name := "cores-user".toList
  uid := "x".toList
  nodeName := "uneven".toList
  phase := .running
  priority := some 1
  annotations := { preAllocated := some "main[0_GPU-a_60_100]".toList }
  containers := [{ name := "main".toList, vgpuNumber := 1, vgpuCores := 60, vgpuMemory := 100 }]

/-- A pod bound to `unevenCards` that uses all memory of the small card. -/
def memoryUser : Pod where
  name := "memory-user".toList
  uid := "y".toList
  nodeName := "uneven".toList
  phase := .running
  priority := some 2
  annotations := { preAllocated := some "main[1_GPU-b_10_20000]".toList }
  containers := [{ name := "main".toList, vgpuNumber := 1, vgpuCores := 10, vgpuMemory := 20000 }]

/-- A pod without vGPUs, which the in-tree scheduler proposes to evict. -/
def plainPod : Pod where
  name := "plain".toList
  uid := "z".toList
  nodeName := "uneven".toList
  phase := .running
  priority := some 1
  containers := [{ name := "main".toList }]

/-- One container that needs 80 cores of one card. -/
def singlePreemptor (priority : Int) (critical : Bool) : Pod where
  name := "single".toList
  uid := "p".toList
  priority := some priority
  critical := critical
  containers := [{ name := "main".toList, vgpuNumber := 1, vgpuCores := 80, vgpuMemory := 1000 }]

/-- A pod whose two containers fit only if the first one goes to the small card. -/
def pairPreemptor : Pod where
  name := "pair".toList
  uid := "p".toList
  priority := some 100
  containers := [ { name := "first".toList, vgpuNumber := 1, vgpuCores := 50, vgpuMemory := 20000 },
    { name := "second".toList, vgpuNumber := 1, vgpuCores := 30, vgpuMemory := 30000 }]

/-- The rule of `Preemptable`. -/
def kubeletRule : PreemptRule where
  preemptable preemptor v := preemptor.critical && !v.critical ||
    match preemptor.priority, v.priority with
    | some p, some q => decide (q < p)
    | _, _ => false
  documented {preemptor v} h := by
    rcases Bool.or_eq_true_iff.mp h with h | h
    · exact .inl (by simpa using h)
    · cases hp : preemptor.priority <;> cases hv : v.priority <;> simp_all

/-- What `Preempt` holds for `unevenCards`. -/
def unevenInfo (pod : Pod) : Except NodeInfoError (NodeInfo × AllocationRequest (Platform.exact .int64).F) :=
  preemptNodeInfo (.exact .int64) 0 0 false (buildAllocationRequest _ pod) unevenCards

/-! ## 7. What a refined node guarantees -/

/-- Evicting the pod breaks none of the budgets that were listed for it. -/
def BreaksNoListedBudget (pdbLister : Option PDBLister) (v : Pod) : Prop :=
  ∀ list budgets, pdbLister = some list → list v = some budgets → ∀ pdb ∈ budgets,
    pdb.deleting = true ∨ v.name ∈ pdb.disruptedPods ∨ 0 < pdb.disruptionsAllowed

section Results

variable {P : Platform} {now grace : Int} {K : PreemptRule} {pdbLister : Option PDBLister}
  {req : AllocationRequest P.F} {n : NodeInfo} {node : Node} {victims : Victims}
  {allVGPUPods refined : List Pod} {violations : Int}

theorem removeVictims_name (excluded : List Text) :
    (removeVictims P now grace n allVGPUPods excluded).name = n.name := by
  rw [removeVictims, NodeInfo.addPodsUsedResources_eq, NodeInfo.addPodList_name]
  rfl

theorem pdbViolationsUpperBound_le (originalCount : Int) (keptLen addedLen : Nat) :
    pdbViolationsUpperBound originalCount keptLen addedLen ≤ (keptLen + addedLen : Nat) := by
  unfold pdbViolationsUpperBound
  omega

/-- **What refining a node does**: the gates passed, and the victims are the kept ones with some
initial segment of the further ones, which the allocator accepts. -/
theorem refineForNode_spec (h : refineForNode P now grace K pdbLister req n node victims allVGPUPods =
      some (refined, violations)) :
    refineGate P req n node = none ∧ accepts P now grace req n allVGPUPods refined = true ∧
      ∃ added, added <+: additionalVictims P now grace K pdbLister req n victims allVGPUPods ∧
        refined = keptVictims P now grace req victims ++ added ∧
        violations = pdbViolationsUpperBound victims.numPDBViolations
          (keptVictims P now grace req victims).length added.length := by
  unfold refineForNode at h
  split at h
  · simp at h
  · rename_i hgate
    have hgate : refineGate P req n node = none := by simpa using hgate
    dsimp only at h
    split at h
    · rename_i hok
      cases Option.some.inj h
      exact ⟨hgate, hok, [], nil_prefix, by simp, rfl⟩
    · obtain ⟨all, hgrow, heq⟩ := Option.map_eq_some_iff.mp h
      cases heq
      obtain ⟨hok, added, -, hpre, rfl⟩ := growUntil_some hgrow
      exact ⟨hgate, hok, added, hpre, rfl, by simp⟩

/-- A pod the search may add. -/
theorem mem_additionalVictims {v : Pod} (h : v ∈ additionalVictims P now grace K pdbLister req n victims allVGPUPods) :
    v ∈ allVGPUPods ∧ v.uid ≠ req.pod.uid ∧ v.uid ∉ (keptVictims P now grace req victims).map Pod.uid ∧
      v.nodeName = n.name ∧ K.preemptable req.pod v = true ∧
      isProtectedFromPreemption P now grace v req.gangName = none ∧ violationOfPDBs pdbLister v = false := by
  unfold additionalVictims findAdditionalVictims sortVictimsByPreference at h
  simpa [eligibleVictim, and_assoc, removeVictims_name] using h

theorem nodup_additionalVictims (h : (allVGPUPods.map Pod.uid).Nodup) :
    ((additionalVictims P now grace K pdbLister req n victims allVGPUPods).map Pod.uid).Nodup := by
  unfold additionalVictims findAdditionalVictims sortVictimsByPreference
  refine ((sortBy_perm _ _).map Pod.uid).nodup_iff.mpr ?_
  exact (filter_sublist.map Pod.uid).nodup h

theorem breaksNoListedBudget_of_violation {v : Pod} (h : violationOfPDBs pdbLister v = false) :
    BreaksNoListedBudget pdbLister v := by
  rintro list budgets rfl hlist pdb hpdb
  have hall : budgets.any (fun pdb => !pdb.deleting && !isPodAlreadyDisrupted v pdb &&
      decide (pdb.disruptionsAllowed ≤ 0)) = false := by
    simpa [violationOfPDBs, hlist] using h
  have hone := any_eq_false.mp hall pdb hpdb
  by_cases hdel : pdb.deleting = true
  · exact .inl hdel
  · by_cases hdis : v.name ∈ pdb.disruptedPods
    · exact .inr (.inl hdis)
    · refine .inr (.inr ?_)
      simpa [hdel, hdis, isPodAlreadyDisrupted] using hone

/-- **The victims of a refined node.** The allocator accepts the pod with exactly them removed; a
victim that was not proposed is on the node, another pod than the preemptor and preemptable
by it, not protected, and breaks no budget that was listed; the reported number of broken
budgets is at most the number of victims. No pod occurs twice unless the proposal or the pod
cache has one twice. -/
theorem refineForNode_victims (h : refineForNode P now grace K pdbLister req n node victims
      allVGPUPods = some (refined, violations)) :
    canAllocate P now grace req n allVGPUPods (refined.map Pod.uid) = .ok () ∧
      ((victims.pods.map Pod.uid).Nodup → (allVGPUPods.map Pod.uid).Nodup → (refined.map Pod.uid).Nodup) ∧
      (∀ v ∈ refined, v ∉ victims.pods → v ∈ allVGPUPods ∧ v.uid ≠ req.pod.uid ∧ v.nodeName = n.name ∧
        ((req.pod.critical = true ∧ v.critical = false) ∨
          ∃ p q, req.pod.priority = some p ∧ v.priority = some q ∧ q < p) ∧
        isProtectedFromPreemption P now grace v req.gangName = none ∧ BreaksNoListedBudget pdbLister v) ∧
      violations ≤ refined.length := by
  obtain ⟨-, hacc, added, hpre, rfl, rfl⟩ := refineForNode_spec h
  refine ⟨?_, fun hprop hpods => ?_, fun v hv hnot => ?_, ?_⟩
  · unfold accepts at hacc
    cases hc : canAllocate P now grace req n allVGPUPods
        ((keptVictims P now grace req victims ++ added).map Pod.uid) with
    | ok u => rfl
    | error e => rw [hc] at hacc; exact absurd hacc (by simp [Except.isOk, Except.toBool])
  · rw [map_append, nodup_append]
    refine ⟨(filter_sublist.map Pod.uid).nodup hprop,
      (hpre.sublist.map Pod.uid).nodup (nodup_additionalVictims hpods), ?_⟩
    -- an added victim was not excluded yet
    rintro a ha b hb rfl
    obtain ⟨v, hv, rfl⟩ := mem_map.mp hb
    exact (mem_additionalVictims (hpre.subset hv)).2.2.1 ha
  · have hadd : v ∈ added := by
      rcases mem_append.mp hv with hk | ha
      · exact absurd (mem_filter.mp hk).1 hnot
      · exact ha
    obtain ⟨hin, hself, -, hnode, hpree, hprot, hpdb⟩ := mem_additionalVictims (hpre.subset hadd)
    exact ⟨hin, hself, hnode, K.documented hpree, hprot, breaksNoListedBudget_of_violation hpdb⟩
  · rw [length_append]
    exact pdbViolationsUpperBound_le _ _ _

theorem refineForNode_victims_single : ∃ n req refined violations,
    unevenInfo (singlePreemptor 100 false) = .ok (n, req) ∧
    refineForNode (.exact .int64) 0 0 kubeletRule none req n unevenCards ⟨[plainPod], 1⟩
      [coresUser, memoryUser] = some (refined, violations) ∧
    canAllocate (.exact .int64) 0 0 req n [coresUser, memoryUser] (refined.map Pod.uid) = .ok () ∧
    violations ≤ refined.length := by
  have hn := eq_okValue (x := unevenInfo (singlePreemptor 100 false)) (by decide +kernel)
  have hr : refineForNode (.exact .int64) 0 0 kubeletRule none
      (okValue (unevenInfo (singlePreemptor 100 false)) (by decide +kernel)).2
      (okValue (unevenInfo (singlePreemptor 100 false)) (by decide +kernel)).1 unevenCards
      ⟨[plainPod], 1⟩ [coresUser, memoryUser] = some ([plainPod, coresUser], 2) := by
    decide +kernel
  obtain ⟨hcan, -, -, hle⟩ := refineForNode_victims hr
  exact ⟨_, _, _, _, hn, hr, hcan, hle⟩

/-- **Not as one would read it.** A preemptor that counts as critical evicts a pod of a higher priority, which nobody
had proposed: the rule for victims is the kubelet's and not a comparison of priorities. And a pod that was proposed
twice is a victim twice. -/
theorem refineForNode_higher_priority : (∃ n req violations, unevenInfo (singlePreemptor 0 true) = .ok (n, req) ∧
      refineForNode (.exact .int64) 0 0 kubeletRule none req n unevenCards ⟨[plainPod], 1⟩
        [coresUser, memoryUser] = some ([plainPod, coresUser], violations) ∧
      coresUser ∉ [plainPod] ∧ podPriority req.pod < podPriority coresUser) ∧
    ∃ n req violations, unevenInfo (singlePreemptor 100 false) = .ok (n, req) ∧
      refineForNode (.exact .int64) 0 0 kubeletRule none req n unevenCards ⟨[plainPod, plainPod], 1⟩
        [coresUser, memoryUser] = some ([plainPod, plainPod, coresUser], violations) := by
  have hcritical := eq_okValue (x := unevenInfo (singlePreemptor 0 true)) (by decide +kernel)
  have hplain := eq_okValue (x := unevenInfo (singlePreemptor 100 false)) (by decide +kernel)
  exact ⟨⟨_, _, 2, hcritical, by decide +kernel, by decide +kernel, by decide +kernel⟩,
    ⟨_, _, 2, hplain, by decide +kernel⟩⟩

end Results

end VGpuManager

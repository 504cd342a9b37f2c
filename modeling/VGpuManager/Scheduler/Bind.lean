import VGpuManager.PodPatch

/-!
# Binding

`Bind` takes the node kube-scheduler chose, checks it against the filter's decision, marks the pod
as allocating and binds it. A refusal marks the pod as failed. The file follows
`pkg/scheduler/bind/bind_predicate.go`; which of the writes reach the API server is an input.
-/

namespace VGpuManager

open Foundation

/-- Which writes of a call the API server takes. -/
structure BindWrites where
  allocating : Bool := true
  binding : Bool := true
  failed : Bool := true
deriving DecidableEq, Repr

inductive BindError where
  | noNode | nodeMismatch | preAllocExpired | patchFailed | bindFailed
deriving DecidableEq, Repr

variable (w : BindWrites) (pod : Pod)

/-- `PatchPodAllocationFailed` as far as it reaches the API server; its own error is only
logged. -/
def BindWrites.markFailed : Pod :=
  if w.failed then patchPodAllocationFailed pod else pod

variable (P : Platform) (now grace : Int) (node : Text)

/-- The API server's binding: the pod gets its node, unless it has one. -/
def apiBind (pod : Pod) : Option Pod :=
  if w.binding && pod.nodeName = [] then
    some { pod with
      nodeName := node
      podScheduled := some ⟨.true, [], now / 1000000000⟩ }
  else none

/-- Is the node the one the filter decided on? A remote pod is bound to another node than that of
its devices. -/
def nodeMatches : Bool :=
  let predicateNode := pod.annotations.predicateNode.getD []
  predicateNode ≠ [] && (podVGPUAccessMode pod = .remoteMode || predicateNode = node)

/-- The part of `Bind` after the checks. -/
def bindChecked (pod : Pod) : Except BindError Unit × Pod :=
  if !w.allocating then (.error .patchFailed, pod)
  else
    let marked := patchPodAllocationAllocating now pod
    match apiBind w now node marked with
    | none => (.error .bindFailed, w.markFailed marked)
    | some bound => (.ok (), bound)

/-- `Bind`: the answer, and the pod the call leaves at the API server. -/
def NodeBinding.bind (w : BindWrites) (node : Text) (pod : Pod) : Except BindError Unit × Pod :=
  if node = [] then (.error .noNode, pod)
  else if isVGPUResourcePod pod && !nodeMatches pod node then
    (.error .nodeMismatch, w.markFailed pod)
  -- Check to prevent node overallocation
  else if isVGPUResourcePod pod && !shouldCountPodDeviceAllocation P now grace pod then
    (.error .preAllocExpired, w.markFailed pod)
  else bindChecked w now node pod

/-! ## What a call does to the pod -/

/-- The same pod with another label, predicate time, binding and condition: what no bind and no
status update touches is equal. -/
structure SameSpec (p q : Pod) : Prop where
  uid : q.uid = p.uid
  initContainers : q.initContainers = p.initContainers
  containers : q.containers = p.containers
  phase : q.phase = p.phase
  preAllocated : q.annotations.preAllocated = p.annotations.preAllocated
  realAllocated : q.annotations.realAllocated = p.annotations.realAllocated
  predicateNode : q.annotations.predicateNode = p.annotations.predicateNode
  accessMode : q.annotations.vgpuAccessMode = p.annotations.vgpuAccessMode

theorem SameSpec.refl (p : Pod) : SameSpec p p := ⟨rfl, rfl, rfl, rfl, rfl, rfl, rfl, rfl⟩

theorem SameSpec.trans {p q r : Pod} (h : SameSpec p q) (k : SameSpec q r) : SameSpec p r :=
  ⟨k.uid.trans h.uid, k.initContainers.trans h.initContainers, k.containers.trans h.containers,
    k.phase.trans h.phase, k.preAllocated.trans h.preAllocated,
    k.realAllocated.trans h.realAllocated, k.predicateNode.trans h.predicateNode,
    k.accessMode.trans h.accessMode⟩

theorem SameSpec.isVGPUResourcePod_eq {p q : Pod} (h : SameSpec p q) : isVGPUResourcePod q = isVGPUResourcePod p := by
  rw [isVGPUResourcePod, h.containers, h.initContainers, isVGPUResourcePod]

theorem withPhase_sameSpec (phase : Option AssignedPhase) (time : Option Text) :
    SameSpec pod (pod.withPhase phase time) :=
  ⟨rfl, rfl, rfl, rfl, rfl, rfl, rfl, rfl⟩

theorem bound_sameSpec (condition : Option PodCondition) :
    SameSpec pod { pod with nodeName := node, podScheduled := condition } :=
  ⟨rfl, rfl, rfl, rfl, rfl, rfl, rfl, rfl⟩

theorem allocating_sameSpec (pod : Pod) : SameSpec pod (patchPodAllocationAllocating now pod) ∧
      (patchPodAllocationAllocating now pod).nodeName = pod.nodeName := by
  unfold patchPodAllocationAllocating
  split <;> exact ⟨withPhase_sameSpec _ _ _, rfl⟩

theorem markFailed_sameSpec : SameSpec pod (w.markFailed pod) ∧ (w.markFailed pod).nodeName = pod.nodeName := by
  unfold BindWrites.markFailed patchPodAllocationFailed
  split
  · split <;> exact ⟨withPhase_sameSpec _ _ _, rfl⟩
  · exact ⟨.refl pod, rfl⟩

/-- What the checks of a call let through. -/
def BindGuard (pod : Pod) : Prop :=
  isVGPUResourcePod pod = true → nodeMatches pod node = true ∧ shouldCountPodDeviceAllocation P now grace pod = true

theorem bindGuard_of_checks {P : Platform} {now grace : Int} {node : Text} {pod : Pod}
    (hmatch : ¬(isVGPUResourcePod pod && !nodeMatches pod node) = true)
    (hcount : ¬(isVGPUResourcePod pod && !shouldCountPodDeviceAllocation P now grace pod) = true) :
    BindGuard P now grace node pod := by
  intro hv
  simp only [hv, Bool.true_and, Bool.not_eq_true', Bool.not_eq_false] at hmatch hcount
  exact ⟨hmatch, hcount⟩

section Calls

variable {P now grace w node pod} {after : Pod}

/-- **A call that succeeded** has bound an unbound pod, a vGPU pod after its checks. -/
theorem NodeBinding.bind_ok (h : NodeBinding.bind P now grace w node pod = (.ok (), after)) :
    pod.nodeName = [] ∧ node ≠ [] ∧ BindGuard P now grace node pod ∧
    after = { patchPodAllocationAllocating now pod with
      nodeName := node
      podScheduled := some ⟨.true, [], now / 1000000000⟩ } := by
  unfold NodeBinding.bind at h
  split at h
  · simp at h
  rename_i hnode
  split at h
  · simp at h
  rename_i hmatch
  split at h
  · simp at h
  rename_i hcount
  unfold bindChecked at h
  split at h
  · simp at h
  dsimp only at h
  unfold apiBind at h
  split at h
  · simp at h
  · rename_i b hb
    obtain rfl : b = after := by simpa using h
    split at hb
    · rename_i hfree
      simp only [Bool.and_eq_true, decide_eq_true_eq, (allocating_sameSpec now pod).2] at hfree
      exact ⟨hfree.2, hnode, bindGuard_of_checks hmatch hcount, (Option.some.inj hb).symm⟩
    · simp at hb

/-- **A call that failed** leaves the binding as it is, and an allocation that did not count does
not count afterwards. -/
theorem NodeBinding.bind_error {e : BindError} (h : NodeBinding.bind P now grace w node pod = (.error e, after)) :
    SameSpec pod after ∧ after.nodeName = pod.nodeName ∧ (isVGPUResourcePod pod = true →
      shouldCountPodDeviceAllocation P now grace after = true →
        shouldCountPodDeviceAllocation P now grace pod = true) := by
  -- the pod after a failed mark, or the pod of the request
  have hmark : SameSpec pod (w.markFailed pod) ∧ (w.markFailed pod).nodeName = pod.nodeName ∧
      (isVGPUResourcePod pod = true → shouldCountPodDeviceAllocation P now grace (w.markFailed pod) = true →
        shouldCountPodDeviceAllocation P now grace pod = true) := by
    refine ⟨(markFailed_sameSpec w pod).1, (markFailed_sameSpec w pod).2, fun hv h => ?_⟩
    -- on an unbound pod the mark voids the allocation
    by_cases hbound : pod.nodeName = []
    · unfold BindWrites.markFailed at h
      split at h
      · rw [patchPodAllocationFailed, if_pos hv] at h
        simp [shouldCountPodDeviceAllocation, Pod.withPhase, hbound] at h
      · exact h
    · simp [shouldCountPodDeviceAllocation, hbound]
  unfold NodeBinding.bind at h
  split at h
  · obtain rfl := (Prod.mk.inj h).2
    exact ⟨.refl pod, rfl, fun _ h => h⟩
  split at h
  · obtain rfl := (Prod.mk.inj h).2
    exact hmark
  rename_i hmatch
  split at h
  · obtain rfl := (Prod.mk.inj h).2
    exact hmark
  rename_i hcount
  unfold bindChecked at h
  split at h
  · obtain rfl := (Prod.mk.inj h).2
    exact ⟨.refl pod, rfl, fun _ h => h⟩
  dsimp only at h
  split at h
  · -- the pod has a node already, or the binding was lost: the pod is marked twice
    obtain rfl := (Prod.mk.inj h).2
    obtain ⟨hsame, hn⟩ := allocating_sameSpec now pod
    obtain ⟨hsame', hn'⟩ := markFailed_sameSpec w (patchPodAllocationAllocating now pod)
    exact ⟨hsame.trans hsame', hn'.trans hn, fun hv _ => (bindGuard_of_checks hmatch hcount hv).2⟩
  · simp at h

end Calls

end VGpuManager

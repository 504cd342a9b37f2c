import VGpuManager.Claims
import VGpuManager.Foundation.Platform

/-!
# Pods, as far as the scheduler reads and writes them

The pod record keeps what `pkg/util/util.go` and the scheduler look at: the containers with
their vGPU limits, the annotations and labels the components exchange, the binding, the phase
and the `PodScheduled` condition. The functions of this file are the pod predicates of
`pkg/util/util.go`.
-/

namespace VGpuManager

open Foundation

/-! ## 1. The record -/

/-- One container with its vGPU limits; a missing limit reads as zero. -/
structure Container where
  name : Text
  /-- `restartPolicy: Always`, which makes an init container a sidecar. -/
  restartable : Bool := false
  vgpuNumber : Int := 0
  vgpuCores : Int := 0
  vgpuMemory : Int := 0
deriving DecidableEq, Repr

inductive PodPhase where
  | pending | running | succeeded | failed | unknown
deriving DecidableEq, Repr

/-- The value of the `assigned-phase` label. -/
inductive AssignedPhase where
  | filtering | allocating | succeed | failed
  | other (value : Text)
deriving DecidableEq, Repr

inductive ConditionStatus where
  | true | false | unknown
deriving DecidableEq, Repr

/-- The `PodScheduled` condition; the transition time has a resolution of seconds. -/
structure PodCondition where
  status : ConditionStatus
  reason : Text
  lastTransitionTime : Int
deriving DecidableEq, Repr

structure OwnerReference where
  kind : Text
  name : Text
  uid : Text
  controller : Bool
deriving DecidableEq, Repr

/-- The annotations the components read; an absent annotation is `none`. -/
structure PodAnnotations where
  preAllocated : Option Text := none
  realAllocated : Option Text := none
  predicateNode : Option Text := none
  predicateTime : Option Text := none
  stuckGracePeriod : Option Text := none
  vgpuAccessMode : Option Text := none
  includeGpuUuid : Option Text := none
  excludeGpuUuid : Option Text := none
  includeGpuType : Option Text := none
  excludeGpuType : Option Text := none
  nodeSchedulerPolicy : Option Text := none
  deviceSchedulerPolicy : Option Text := none
  memorySchedulerPolicy : Option Text := none
  deviceTopologyMode : Option Text := none
  crossPodTopology : Option Text := none
  kubeGroupName : Option Text := none
  volcanoGroupName : Option Text := none
  koordinatorGangName : Option Text := none
deriving DecidableEq, Repr

structure PodLabels where
  assignedPhase : Option AssignedPhase := none
  coschedulingPodGroup : Option Text := none
  coschedulingPodGroupName : Option Text := none
deriving DecidableEq, Repr

structure Pod where
  namespaceName : Text := "default".toList
  name : Text
  uid : Text
  annotations : PodAnnotations := {}
  labels : PodLabels := {}
  ownerReferences : List OwnerReference := []
  schedulingGroup : Option Text := none
  initContainers : List Container := []
  containers : List Container := []
  nodeName : Text := []
  phase : PodPhase := .pending
  podScheduled : Option PodCondition := none
  priority : Option Int := none
  /-- What `kubelettypes.IsCriticalPod` says about the pod. -/
  critical : Bool := false
  creationTime : Int := 0
  deleting : Bool := false
  /-- The pod asks for a Windows node. -/
  windows : Bool := false
  statusReason : Text := []
  /-- For every container status the message, if the container is waiting. -/
  containerStatuses : List (Option Text) := []
deriving DecidableEq, Repr

/-! ## 2. Resources and access mode -/

/-- `IsVGPURequiredContainer`. -/
def Container.isVGPURequired (c : Container) : Bool := decide (0 < c.vgpuNumber)

section

variable (A : IntArith) (pod : Pod)

def isVGPUResourcePod : Bool :=
  pod.containers.any Container.isVGPURequired || pod.initContainers.any Container.isVGPURequired

inductive AccessMode where
  | localMode | remoteMode
deriving DecidableEq, Repr

/-- The access mode the pod asks for; a value that is neither mode counts as local. -/
def podVGPUAccessMode : AccessMode :=
  if toLower (trimSpace (pod.annotations.vgpuAccessMode.getD [])) = "remote".toList
  then .remoteMode else .localMode

/-- The node whose devices the pod uses. -/
def podPlanSchedulingNode : Text :=
  if pod.nodeName ≠ [] ∧ podVGPUAccessMode pod = .localMode then pod.nodeName
  else pod.annotations.predicateNode.getD []

/-- The pods `PodsOnNodeCallback` visits, in order. -/
def podsOnNode (pods : List Pod) (node : Text) : List Pod :=
  pods.filter fun pod =>
    podPlanSchedulingNode pod = node ∧ pod.phase ≠ .succeeded ∧ pod.phase ≠ .failed

/-! ## 3. Gangs -/

def podHasGangName : Option Text :=
  let named (v : Option Text) : Option Text := v.filter (· ≠ [])
  named pod.schedulingGroup <|> named pod.labels.coschedulingPodGroup
    <|> named pod.labels.coschedulingPodGroupName <|> named pod.annotations.kubeGroupName
    <|> named pod.annotations.volcanoGroupName <|> named pod.annotations.koordinatorGangName
    <|> (pod.ownerReferences.find? fun ref => ref.kind = "PodGroup".toList ∧ ref.name ≠ []).map OwnerReference.name

def normalizeGangKey (podNamespace raw : Text) : Text :=
  let value := trimSpace raw
  match cut '/' value with
  | none => podNamespace ++ '/' :: value
  | some (ns, name) =>
    let ns := trimSpace ns
    let name := trimSpace name
    if ns ≠ [] ∧ name ≠ [] then ns ++ '/' :: name
    else podNamespace ++ '/' :: (if name ≠ [] then name else ns)

def podGangKey : Option Text :=
  match podHasGangName pod with
  | none => none
  | some name =>
    if trimSpace name = [] then none
    else
      let key := normalizeGangKey pod.namespaceName name
      if key.getLast? = some '/' then none else some key

/-- The owner reference of the controlling object. -/
def controllerOf : Option OwnerReference := pod.ownerReferences.find? (·.controller)

/-! ## 4. Device selectors -/

/-- Walk the entries of a selector: whether one matches, and whether there was one at all. -/
def matchEntries (deviceValue : Text) : List Text → Bool → Bool × Bool
  | [], need => (false, need)
  | entry :: rest, need =>
    let entry := trimSpace entry
    if entry = [] then matchEntries deviceValue rest need
    else if contains deviceValue entry then (true, true)
    else matchEntries deviceValue rest true

section

variable (P : Platform)

def matchDeviceSelector (value deviceValue : Text) : Bool × Bool :=
  matchEntries deviceValue ((value.map P.upper).splitOn ',') false

/-- An include list and an exclude list over one device attribute. -/
def checkSelectors (includes excludes : Option Text) (deviceValue : Text) : Bool :=
  let deviceValue := (trimSpace deviceValue).map P.upper
  let included := match includes with
    | none => true
    | some v => let (hit, need) := matchDeviceSelector P v deviceValue; !(need && !hit)
  let excluded := match excludes with
    | none => false
    | some v => let (hit, need) := matchDeviceSelector P v deviceValue; need && hit
  included && !excluded

def checkDeviceType (annotations : PodAnnotations) (deviceType : Text) : Bool :=
  checkSelectors P annotations.includeGpuType annotations.excludeGpuType deviceType

def checkDeviceUuid (annotations : PodAnnotations) (deviceUUID : Text) : Bool :=
  checkSelectors P annotations.includeGpuUuid annotations.excludeGpuUuid deviceUUID

end

/-! ## 5. Claims of a pod -/

/-- `PodAnnotationMaxLength`. -/
def podAnnotationMaxLength : Nat := 1024 * 1024

/-- The claims an annotation holds; an empty or unreadable text holds none. -/
def decodeClaims (text : Option Text) : PodDeviceClaim :=
  match PodDeviceClaim.unmarshalText A (text.getD []) with
  | .ok p => p
  | .error _ => []

theorem decodeClaims_of_carried {A : IntArith} {claims : PodDeviceClaim}
    (h : ∀ c ∈ claims, ContainerDeviceClaim.Carried A c) {text : Option Text}
    (htext : text.getD [] = PodDeviceClaim.marshalText claims) : decodeClaims A text = claims := by
  rw [decodeClaims, htext]
  by_cases hne : claims = []
  · subst hne
    rfl
  · rw [PodDeviceClaim.unmarshalText_of_carried hne h]

/-- What was written is what is read back, also for a pod without claims. -/
theorem decodeClaims_marshalText {A : IntArith} {claims : PodDeviceClaim}
    (h : ∀ c ∈ claims, ContainerDeviceClaim.Encodable A c) :
    decodeClaims A (some (PodDeviceClaim.marshalText claims)) = claims :=
  decodeClaims_of_carried (fun c hc => (h c hc).carried) rfl

/-- The really allocated claims once they cover the pre-allocation, else the pre-allocation. -/
def getPodDeviceClaim : PodDeviceClaim :=
  let realClaims := decodeClaims A pod.annotations.realAllocated
  let preClaims := decodeClaims A pod.annotations.preAllocated
  if preClaims.length ≤ realClaims.length then realClaims else preClaims

end

/-- Does the pod's pre-allocation still count as used? `now` is the clock in nanoseconds,
`grace` the configured grace period. -/
def shouldCountPodDeviceAllocation (P : Platform) (now grace : Int) (pod : Pod) : Bool :=
  if pod.nodeName ≠ [] then true
  -- the previous bind cycle failed: the prior allocation is void
  else if pod.labels.assignedPhase = some .failed then false
  else match pod.podScheduled with
  | none => true
  | some cond =>
    if cond.status ≠ .false ∨ cond.reason ≠ "Unschedulable".toList then true
    else match parseInt P.int (pod.annotations.predicateTime.getD []) with
    | none => false
    | some predicateTime =>
      if predicateTime ≤ 0 then false
      -- the condition is at least as new as the filter's decision
      else if predicateTime / 1000000000 ≤ cond.lastTransitionTime then false
      else
        let period := match (pod.annotations.stuckGracePeriod.filter (· ≠ [])).bind P.parseDuration with
          | none => grace
          | some d => if d < 1000000000 then grace else d
        decide (now - predicateTime ≤ period)

end VGpuManager

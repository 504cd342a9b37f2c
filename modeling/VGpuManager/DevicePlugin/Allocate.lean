import VGpuManager.PodPatch
import VGpuManager.Foundation.Loops
import VGpuManager.Foundation.Sorting

/-!
# The device plugin's Allocate

kubelet asks for devices with no word about the pod or the container. The plugin takes the oldest
pod of the node that is still allocating, and of it the first container without real devices; the
annotation with the real devices is the only memory between calls. The file follows
`pkg/deviceplugin/vgpu/vnum_plugin.go`, `pkg/deviceplugin/remote/consumer.go`, the pod selection of
`pkg/util/util.go` and the cursor of `pkg/device/types.go`.
-/

namespace VGpuManager

open Foundation

/-! ## 1. The current pod -/

/-- `MaxContainerLimit`. -/
def maxContainerLimit : Nat := 300000

def allocateCheckErrMsg : Text := "Allocate check failed".toList
def preStartContainerCheckErrMsg : Text := "PreStartContainer check failed".toList

/-- `IsShouldDeletePod`. -/
def isShouldDeletePod (pod : Pod) : Bool :=
  pod.deleting || decide (maxContainerLimit < pod.containerStatuses.length) ||
    (pod.containerStatuses.any fun status => status.any fun message =>
      contains message preStartContainerCheckErrMsg || contains message allocateCheckErrMsg) ||
    pod.statusReason = "UnexpectedAdmissionError".toList

/-- The selectors of the list call. -/
def isActiveOn (node : Text) (pod : Pod) : Bool :=
  pod.nodeName = node && pod.phase ≠ .succeeded && pod.phase ≠ .failed && pod.labels.assignedPhase = some .allocating

def getActivePodsOnNode (pods : List Pod) (node : Text) : List Pod := pods.filter (isActiveOn node)

/-- What the surroundings do to a call: is the node (or the GPU server's address) known, and which
metadata patches reach the API server. -/
structure PluginWrites where
  nodeKnown : Bool := true
  succeed : Bool := true
  failed : Bool := true
deriving DecidableEq, Repr

section Plugin

variable (A : IntArith)

section

variable (w : PluginWrites) (pods : List Pod) (pod : Pod)

/-- What `FilterAllocatingPods` asks of a pod. -/
def isAllocating : Bool :=
  isVGPUResourcePod pod && !isShouldDeletePod pod &&
    pod.annotations.preAllocated.isSome && pod.annotations.predicateNode.getD [] ≠ [] &&
    !(podVGPUAccessMode pod = .localMode && pod.nodeName ≠ pod.annotations.predicateNode.getD []) &&
    ((pod.annotations.predicateTime.bind (parseInt A)).any fun time => decide (0 < time))

def filterAllocatingPods : List Pod := pods.filter (isAllocating A)

/-- `GetPredicateTimeOfPod`. -/
def getPredicateTimeOfPod : Int :=
  match pod.annotations.predicateTime with
  | none => maxInt64
  | some text =>
    if podAnnotationMaxLength < text.length then maxInt64
    else match parseInt A text with
    | none => maxInt64
    | some time => if time ≤ 0 then maxInt64 else time

/-- `GetCurrentPodByAllocatingPods`: the oldest one. -/
def getCurrentPodByAllocatingPods : Option Pod :=
  (sortBy (fun a b => decide (getPredicateTimeOfPod A a < getPredicateTimeOfPod A b)) pods).head?

/-- `getCurrentPod`. -/
def getCurrentPod (node : Text) (pods : List Pod) : Option Pod :=
  getCurrentPodByAllocatingPods A (filterAllocatingPods A (getActivePodsOnNode pods node))

/-! ## 2. The current container -/

inductive PluginError where
  | noCurrentPod | nodeUnknown | preAllocUnreadable | preAllocEmpty | realAllocUnreadable
  | containerUnknown | nothingAssignable | sizeMismatch | prepareFailed
deriving DecidableEq, Repr

/-- The claim, if the pod has a container of its name. -/
def checkExistCont (claim : ContainerDeviceClaim) : Except PluginError ContainerDeviceClaim :=
  if pod.initContainers.any (fun c => c.name = claim.name) ||
      pod.containers.any (fun c => c.name = claim.name) then .ok claim
  else .error .containerUnknown

/-- `GetCurrentPreAllocateContainerDevice`: the first pre-allocated container that is not recorded
as really allocated. -/
def getCurrentPreAllocateContainerDevice : Except PluginError ContainerDeviceClaim :=
  match PodDeviceClaim.unmarshalText A (pod.annotations.preAllocated.getD []) with
  | .error _ => .error .preAllocUnreadable
  | .ok [] => .error .preAllocEmpty
  | .ok (first :: rest) =>
    let recorded := pod.annotations.realAllocated.getD []
    if recorded = [] then checkExistCont pod first
    else match PodDeviceClaim.unmarshalText A recorded with
    | .error _ => .error .realAllocUnreadable
    | .ok claims =>
      match (first :: rest).find? fun c => !claims.any fun d => d.name = c.name with
      | none => .error .nothingAssignable
      | some claim => checkExistCont pod claim

/-- `UpdatePodRealContainerDeviceClaim`: record one more container; an unreadable record starts
anew. -/
def updatePodRealContainerDeviceClaim (claim : ContainerDeviceClaim) : Pod :=
  { pod with annotations := { pod.annotations with
      realAllocated := some (PodDeviceClaim.marshalText (decodeClaims A pod.annotations.realAllocated ++ [claim])) } }

/-! ## 3. The call -/

/-- The plugin for the node's own GPUs, and the one for GPUs of a remote server. -/
inductive PluginRole where
  | vNumber | consumer
deriving DecidableEq, Repr

/-- The order a claim's devices are handed out in. -/
def PluginRole.arrange : PluginRole → ContainerDeviceClaim → ContainerDeviceClaim
  | .vNumber, c => { c with deviceClaims := sortBy (fun a b => decide (a.id < b.id)) c.deviceClaims }
  | .consumer, c => c

/-- One container of a request, and whether the plugin can prepare it: its GPUs are there, its
directories and files can be written, its remote session starts. -/
structure ContainerRequest where
  devicesIds : List Text
  prepared : Bool := true
deriving DecidableEq, Repr

/-- What a response says about pod, container and devices; the rest of it follows from these and
the node's configuration. -/
structure ContainerResponse where
  podName : Text
  podNamespace : Text
  podUID : Text
  contName : Text
  deviceClaims : List DeviceClaim
deriving DecidableEq, Repr

def containerResponse (claim : ContainerDeviceClaim) : ContainerResponse :=
  ⟨pod.name, pod.namespaceName, pod.uid, claim.name, claim.deviceClaims⟩

/-- One container request after the other, on the plugin's copy of the pod. -/
def allocateContainers (role : PluginRole) (pod : Pod) : List ContainerRequest →
    Except PluginError (List ContainerResponse × Pod)
  | [] => .ok ([], pod)
  | req :: rest =>
    match getCurrentPreAllocateContainerDevice A pod with
    | .error e => .error e
    | .ok found =>
      if req.devicesIds.length ≠ found.deviceClaims.length then .error .sizeMismatch
      else if !req.prepared then .error .prepareFailed
      else
        let claim := role.arrange found
        let response := containerResponse pod claim
        (allocateContainers role (updatePodRealContainerDeviceClaim A pod claim) rest).map
          fun (responses, pod) => (response :: responses, pod)

/-- Another state of one pod at the API server. -/
def replacePod : List Pod :=
  pods.map fun p => if p.uid = pod.uid then pod else p

/-- The end of a call that failed. -/
def PluginWrites.markFailed : List Pod :=
  if w.failed then replacePod pods (patchPodAllocationFailed pod) else pods

/-- The end of a call that succeeded; an error of the patch is only logged. -/
def PluginWrites.markSucceed : List Pod :=
  match patchPodAllocationSucceed A pod with
  | .ok patched => if w.succeed then replacePod pods patched else pods
  | .error _ => pods

end

/-- `Allocate`: the answer, and the pods at the API server afterwards. -/
def pluginAllocate (role : PluginRole) (w : PluginWrites) (node : Text)
    (requests : List ContainerRequest) (pods : List Pod) :
    Except PluginError (List ContainerResponse) × List Pod :=
  match getCurrentPod A node pods with
  | none => (.error .noCurrentPod, pods)
  | some pod =>
    if !w.nodeKnown then (.error .nodeUnknown, w.markFailed pods pod)
    else match allocateContainers A role pod requests with
    | .error e => (.error e, w.markFailed pods pod)
    | .ok (responses, done) => (.ok responses, w.markSucceed A pods done)

end Plugin

/-! ## 4. The cursor -/

variable {A : IntArith} {role : PluginRole} {node : Text} {pod : Pod} {pods : List Pod}
  {c : ContainerDeviceClaim} {given rest : PodDeviceClaim}

@[simp] theorem PluginRole.arrange_name (role : PluginRole) (c : ContainerDeviceClaim) :
    (role.arrange c).name = c.name := by
  cases role <;> rfl

theorem PluginRole.arrange_encodable (role : PluginRole) (h : c.Encodable A) : (role.arrange c).Encodable A := by
  cases role with
  | vNumber => exact ⟨h.name_free, fun d hd => h.claims d (mem_sortBy.mp hd)⟩
  | consumer => exact h

/-- The pre-allocation of a pod, and a record of the containers in `given`. -/
structure Records (A : IntArith) (pod : Pod) (given rest taken : PodDeviceClaim) : Prop where
  pre : PodDeviceClaim.unmarshalText A (pod.annotations.preAllocated.getD []) = .ok (given ++ rest)
  recorded : pod.annotations.realAllocated.getD [] = PodDeviceClaim.marshalText taken
  carried : ∀ c ∈ taken, ContainerDeviceClaim.Carried A c
  names : ((given ++ rest).map ContainerDeviceClaim.name).Nodup
  same : taken.map ContainerDeviceClaim.name = given.map ContainerDeviceClaim.name

namespace Records

variable {taken : PodDeviceClaim}

/-- The search for a container that is not recorded comes to the first one of the rest. -/
theorem find_unrecorded (h : Records A pod given rest taken) :
    ((given ++ rest).find? fun d => !taken.any fun e => e.name = d.name) = rest.head? := by
  have hrecorded : ∀ name, (taken.any fun e => e.name = name) = true ↔
      name ∈ given.map ContainerDeviceClaim.name := by
    intro name
    rw [← h.same, List.any_eq_true]
    simp [List.mem_map]
  have hgiven : given.find? (fun d => !taken.any fun e => e.name = d.name) = none := by
    refine List.find?_eq_none.mpr fun d hd => ?_
    have hd := (hrecorded d.name).mpr (List.mem_map_of_mem hd)
    simp [hd]
  rw [List.find?_append, hgiven, Option.none_or]
  cases rest with
  | nil => rfl
  | cons c rest =>
    have hnames := h.names
    rw [List.map_append, List.nodup_append] at hnames
    have hc : (taken.any fun e => e.name = c.name) = false := by
      refine Bool.eq_false_iff.mpr fun hany => ?_
      exact hnames.2.2 c.name ((hrecorded c.name).mp hany) c.name (by simp) rfl
    rw [List.find?_cons_of_pos (by simp [hc])]
    rfl

theorem taken_nil (h : Records A pod given rest taken) (hempty : pod.annotations.realAllocated.getD [] = []) :
    given = [] := by
  have htaken : taken = [] := by
    by_contra hne
    exact PodDeviceClaim.marshalText_ne_nil hne (h.recorded.symm.trans hempty)
  have hsame := h.same
  rw [htaken] at hsame
  exact List.map_eq_nil_iff.mp hsame.symm

theorem decoded (h : Records A pod given rest taken) (hempty : pod.annotations.realAllocated.getD [] ≠ []) :
    PodDeviceClaim.unmarshalText A (pod.annotations.realAllocated.getD []) = .ok taken := by
  have hne : taken ≠ [] := fun hnil => hempty (by rw [h.recorded, hnil]; rfl)
  rw [h.recorded]
  exact PodDeviceClaim.unmarshalText_of_carried hne h.carried

/-- **The container found is the first one not recorded**, if the pod has it. -/
theorem current (h : Records A pod given (c :: rest) taken) :
    getCurrentPreAllocateContainerDevice A pod = checkExistCont pod c := by
  have hfind := h.find_unrecorded
  have hpre := h.pre
  obtain ⟨first, others, hcons⟩ := List.exists_cons_of_ne_nil
    (List.append_ne_nil_of_right_ne_nil given (List.cons_ne_nil c rest))
  rw [hcons] at hpre hfind
  by_cases hempty : pod.annotations.realAllocated.getD [] = []
  · have hfirst : first = c := by
      rw [h.taken_nil hempty, List.nil_append] at hcons
      exact (List.cons.inj hcons).1.symm
    simp only [getCurrentPreAllocateContainerDevice, hpre, hempty, if_true, hfirst]
  · simp only [getCurrentPreAllocateContainerDevice, hpre, hempty, if_false, h.decoded hempty, hfind, List.head?_cons]

/-- Once all containers are recorded there is none to find. -/
theorem nothing_left (h : Records A pod given [] taken) :
    ∃ e, getCurrentPreAllocateContainerDevice A pod = .error e := by
  have hfind := h.find_unrecorded
  have hpre := h.pre
  rw [List.append_nil] at hpre hfind
  cases hg : given with
  | nil =>
    rw [hg] at hpre
    exact ⟨.preAllocEmpty, by simp only [getCurrentPreAllocateContainerDevice, hpre]⟩
  | cons first others =>
    have hempty : pod.annotations.realAllocated.getD [] ≠ [] := fun hempty => by
      rw [h.taken_nil hempty] at hg
      cases hg
    rw [hg] at hpre hfind
    exact ⟨.nothingAssignable, by
      simp only [getCurrentPreAllocateContainerDevice, hpre, hempty, if_false, h.decoded hempty, hfind,
        List.head?_nil]⟩

end Records

/-- A pod with its pre-allocated containers: those in `given` are recorded as really allocated,
those in `rest` are not. -/
structure Cursor (A : IntArith) (role : PluginRole) (pod : Pod) (given rest : PodDeviceClaim) : Prop where
  pre : pod.annotations.preAllocated = some (PodDeviceClaim.marshalText (given ++ rest))
  recorded : pod.annotations.realAllocated = some (PodDeviceClaim.marshalText (given.map role.arrange))
  names : ((given ++ rest).map ContainerDeviceClaim.name).Nodup
  encodable : ∀ c ∈ given ++ rest, c.Encodable A
  known : ∀ c ∈ given ++ rest, ∃ x ∈ pod.initContainers ++ pod.containers, x.name = c.name

namespace Cursor

theorem arranged_encodable (h : Cursor A role pod given rest) : ∀ c ∈ given.map role.arrange, c.Encodable A := by
  intro c hc
  obtain ⟨d, hd, rfl⟩ := List.mem_map.mp hc
  exact role.arrange_encodable (h.encodable d (List.mem_append_left rest hd))

theorem exists_cont (h : Cursor A role pod given rest) (hc : c ∈ given ++ rest) : checkExistCont pod c = .ok c := by
  obtain ⟨x, hx, hname⟩ := h.known c hc
  refine if_pos ?_
  rw [Bool.or_eq_true, List.any_eq_true, List.any_eq_true]
  rcases List.mem_append.mp hx with hx | hx
  · exact .inl ⟨x, hx, by simpa using hname⟩
  · exact .inr ⟨x, hx, by simpa using hname⟩

theorem records (h : Cursor A role pod given rest) (hne : given ++ rest ≠ []) :
    Records A pod given rest (given.map role.arrange) where
  pre := by
    rw [h.pre]
    exact PodDeviceClaim.unmarshalText_marshalText hne h.encodable
  recorded := by rw [h.recorded]; rfl
  carried := fun c hc => (h.arranged_encodable c hc).carried
  names := h.names
  same := by
    rw [List.map_map]
    exact List.map_congr_left fun c _ => role.arrange_name c

/-- **The container found is the first one not recorded.** -/
theorem current (h : Cursor A role pod given (c :: rest)) : getCurrentPreAllocateContainerDevice A pod = .ok c := by
  rw [(h.records (by simp)).current, h.exists_cont (by simp)]

/-- Recording the container moves the cursor over it. -/
theorem update (h : Cursor A role pod given (c :: rest)) :
    Cursor A role (updatePodRealContainerDeviceClaim A pod (role.arrange c)) (given ++ [c]) rest := by
  refine ⟨?_, ?_, ?_, ?_, ?_⟩
  · rw [List.append_assoc]
    exact h.pre
  · show some _ = some _
    rw [h.recorded, decodeClaims_marshalText h.arranged_encodable, List.map_append]
    rfl
  · rw [List.append_assoc]
    exact h.names
  · rw [List.append_assoc]
    exact h.encodable
  · rw [List.append_assoc]
    exact h.known

end Cursor

/-! ## 5. What a call does -/

/-- The pods a call chooses from. -/
def awaits (A : IntArith) (node : Text) (pod : Pod) : Bool := isAllocating A pod && isActiveOn node pod

theorem getCurrentPod_eq : getCurrentPod A node pods =
    getCurrentPodByAllocatingPods A (pods.filter (awaits A node)) := by
  rw [getCurrentPod, filterAllocatingPods, getActivePodsOnNode, List.filter_filter]
  rfl

/-- **The current pod is the one with the smallest predicate time.** -/
theorem getCurrentPod_oldest (hpod : pod ∈ pods) (hwait : awaits A node pod = true)
    (hold : ∀ q ∈ pods, awaits A node q = true → q ≠ pod → getPredicateTimeOfPod A pod < getPredicateTimeOfPod A q) :
    getCurrentPod A node pods = some pod := by
  rw [getCurrentPod_eq]
  refine head?_sortBy_min (List.mem_filter.mpr ⟨hpod, hwait⟩) fun q hq hne => ?_
  obtain ⟨hq, hqw⟩ := List.mem_filter.mp hq
  exact hold q hq hqw hne

theorem awaits_label (h : awaits A node pod = true) :
    pod.labels.assignedPhase = some .allocating ∧ isVGPUResourcePod pod = true := by
  simp only [awaits, isAllocating, isActiveOn, Bool.and_eq_true, decide_eq_true_eq] at h
  exact ⟨h.2.2, h.1.1.1.1.1.1⟩

theorem uids_replacePod (pods : List Pod) (pod : Pod) : (replacePod pods pod).map Pod.uid = pods.map Pod.uid :=
  map_key_ite fun _ _ _ => rfl

theorem mem_replacePod {p : Pod} (h : p ∈ replacePod pods pod) : p = pod ∨ p ∈ pods ∧ p.uid ≠ pod.uid :=
  (mem_map_ite h).symm.imp_left fun ⟨_, _, _, heq⟩ => heq

theorem mem_replacePod_of_ne {p : Pod} (h : p ∈ pods) (hne : p.uid ≠ pod.uid) : p ∈ replacePod pods pod :=
  List.mem_map.mpr ⟨p, h, if_neg hne⟩

theorem mem_replacePod_self {p : Pod} (h : p ∈ pods) (huid : pod.uid = p.uid) : pod ∈ replacePod pods pod :=
  List.mem_map.mpr ⟨p, h, if_pos huid.symm⟩

/-- The pod after one more container was recorded. -/
def advanced (A : IntArith) (role : PluginRole) (pod : Pod) (c : ContainerDeviceClaim) (rest : PodDeviceClaim) : Pod :=
  let done := updatePodRealContainerDeviceClaim A pod (role.arrange c)
  if rest = [] then done.withPhase (some .succeed) (some (fmtInt maxInt64))
  else done.withPhase (some .allocating) (some (pod.annotations.predicateTime.getD []))

@[simp] theorem advanced_uid (A : IntArith) (role : PluginRole) (pod : Pod)
    (c : ContainerDeviceClaim) (rest : PodDeviceClaim) : (advanced A role pod c rest).uid = pod.uid := by
  unfold advanced
  split <;> rfl

/-- The cursor moves over the container. -/
theorem Cursor.advanced (h : Cursor A role pod given (c :: rest)) :
    Cursor A role (advanced A role pod c rest) (given ++ [c]) rest := by
  have hup := h.update
  rw [VGpuManager.advanced]
  split <;> exact ⟨hup.pre, hup.recorded, hup.names, hup.encodable, hup.known⟩

/-- Between two containers the pod keeps waiting, with its predicate time. -/
theorem awaits_advanced (c : ContainerDeviceClaim) (hrest : rest ≠ [])
    (h : awaits A node pod = true) : awaits A node (advanced A role pod c rest) = true ∧
      getPredicateTimeOfPod A (advanced A role pod c rest) = getPredicateTimeOfPod A pod := by
  cases ht : pod.annotations.predicateTime with
  | none => simp [awaits, isAllocating, ht] at h
  | some t =>
    rw [advanced, if_neg hrest, ht]
    refine ⟨?_, by rw [getPredicateTimeOfPod, getPredicateTimeOfPod, ht]; rfl⟩
    rw [awaits, Bool.and_eq_true] at h ⊢
    constructor
    · rw [← h.1, isAllocating, isAllocating, ht]
      rfl
    · have hactive := h.2
      simp only [isActiveOn, Bool.and_eq_true] at hactive ⊢
      exact ⟨hactive.1, by simp [Pod.withPhase]⟩

theorem Cursor.patchSucceed (h : Cursor A role pod given (c :: rest)) :
    patchPodAllocationSucceed A (updatePodRealContainerDeviceClaim A pod (role.arrange c)) =
      .ok (VGpuManager.advanced A role pod c rest) := by
  have hup := h.update
  have hpre : PodDeviceClaim.unmarshalText A ((updatePodRealContainerDeviceClaim A pod
      (role.arrange c)).annotations.preAllocated.getD []) = .ok ((given ++ [c]) ++ rest) := by
    rw [hup.pre]
    exact PodDeviceClaim.unmarshalText_marshalText (by simp) hup.encodable
  have hreal : PodDeviceClaim.unmarshalText A ((updatePodRealContainerDeviceClaim A pod
      (role.arrange c)).annotations.realAllocated.getD []) =
      .ok ((given ++ [c]).map role.arrange) := by
    rw [hup.recorded]
    exact PodDeviceClaim.unmarshalText_marshalText (by simp) hup.arranged_encodable
  have hlen : ((given ++ [c]) ++ rest).length ≤ ((given ++ [c]).map role.arrange).length ↔ rest = [] := by
    rw [List.length_append, List.length_map]
    exact ⟨fun hle => List.length_eq_zero_iff.mp (by omega), fun hnil => by simp [hnil]⟩
  simp only [patchPodAllocationSucceed, hpre, hreal, hlen, VGpuManager.advanced]
  split <;> rfl

section

variable (w : PluginWrites) (req : ContainerRequest) (hcur : getCurrentPod A node pods = some pod)
  (h : Cursor A role pod given (c :: rest))

include w req hcur h

/-- A call for one container, answered from the current pod's next container. -/
theorem pluginAllocate_ok (hnode : w.nodeKnown = true) (hsize : req.devicesIds.length = c.deviceClaims.length)
    (hprep : req.prepared = true) :
    pluginAllocate A role w node [req] pods = (.ok [containerResponse pod (role.arrange c)],
        if w.succeed then replacePod pods (advanced A role pod c rest) else pods) := by
  have hrun : allocateContainers A role pod [req] = .ok ([containerResponse pod (role.arrange c)],
        updatePodRealContainerDeviceClaim A pod (role.arrange c)) := by
    simp [allocateContainers, h.current, hsize, hprep, Except.map]
  simp only [pluginAllocate, hcur, hnode, Bool.not_true, Bool.false_eq_true, if_false, hrun,
    PluginWrites.markSucceed, h.patchSucceed]

/-- A call for one container that is refused marks the current pod. -/
theorem pluginAllocate_error (hbad : w.nodeKnown = false ∨ req.devicesIds.length ≠ c.deviceClaims.length ∨
      req.prepared = false) : ∃ e, pluginAllocate A role w node [req] pods = (.error e, w.markFailed pods pod) := by
  unfold pluginAllocate
  simp only [hcur]
  cases hnode : w.nodeKnown with
  | false => exact ⟨_, rfl⟩
  | true =>
    have hbad := hbad.resolve_left (by simp [hnode])
    by_cases hsize : req.devicesIds.length = c.deviceClaims.length
    · have hprep := hbad.resolve_left (fun hne => hne hsize)
      exact ⟨.prepareFailed, by simp [allocateContainers, h.current, hsize, hprep]⟩
    · exact ⟨.sizeMismatch, by simp [allocateContainers, h.current, hsize]⟩

end

end VGpuManager

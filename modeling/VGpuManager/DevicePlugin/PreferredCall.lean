import VGpuManager.DevicePlugin.Accounting

/-!
# What GetPreferredAllocation leaves behind

Before kubelet allocates, it asks which of the available devices the plugin would like to give
(`pkg/deviceplugin/vgpu/vnum_plugin.go`). The pod the question is about is read from the API server and
put in the pod cache, which keeps the object itself. The cache is client-go's, over an informer of the pods, and a
parameter here. To find the containers of the later requests, the plugin records every claim it meets as really
allocated, in that object. So, until the informer has caught up, a question can leave a record in the cache that no
allocation has made (`cached_record_kept_iff`).
-/

namespace VGpuManager

open Foundation List

/-! ## 1. Choosing devices -/

/-- `ContainerPreferredAllocationRequest`. -/
structure PreferredRequest where
  availableDeviceIDs : List Text
  mustIncludeDeviceIDs : List Text := []
  allocationSize : Int
deriving DecidableEq, Repr

/-- Why a call does not succeed; a slice of negative capacity is a panic. -/
inductive PreferredError where
  | panicked (index : Nat)
  | defaultFailed (index : Nat) (requested : Int) (allocated : Nat)
deriving DecidableEq, Repr

/-- The set `allocated`, and the devices chosen for one request. -/
structure Picking where
  allocated : List Text
  deviceIDs : List Text
deriving DecidableEq, Repr

def Picking.take (s : Picking) (id : Text) : Picking := ⟨id :: s.allocated, s.deviceIDs ++ [id]⟩

/-- One round of the loops of `defaultAllocateDeviceIDs`. -/
def pickDevice (allocSize : Nat) (s : Picking) (id : Text) : Picking :=
  -- the source leaves the loop here; a round without effect comes to the same
  if s.deviceIDs.length = allocSize then s
  else if id ∈ s.allocated then s
  else s.take id

def defaultAllocateDeviceIDs (request : PreferredRequest) (allocated : List Text) : Picking :=
  let allocSize := request.allocationSize.toNat
  let s := request.mustIncludeDeviceIDs.foldl (pickDevice allocSize) ⟨allocated, []⟩
  request.availableDeviceIDs.foldl (pickDevice allocSize) s

/-- The loop of `buildDefaultAllocationResponses` from request `i` on. -/
def defaultResponses (i : Nat) (allocated : List Text) : List PreferredRequest →
    Except PreferredError (List (List Text))
  | [] => .ok []
  | req :: rest =>
    if req.allocationSize < 0 then .error (.panicked i)
    else
      let picked := defaultAllocateDeviceIDs req allocated
      if (picked.deviceIDs.length : Int) ≠ req.allocationSize then
        .error (.defaultFailed i req.allocationSize picked.deviceIDs.length)
      else (defaultResponses (i + 1) picked.allocated rest).map (picked.deviceIDs :: ·)

variable (A : IntArith) (node : Text) (pods : List Pod) (requests : List PreferredRequest)

def buildDefaultAllocationResponses : Except PreferredError (List (List Text)) :=
  defaultResponses 0 [] requests

/-- The UUID in a device's ID: the text before the first `::`. -/
def deviceUuid : Text → Text
  | ':' :: ':' :: _ => []
  | c :: rest => c :: deviceUuid rest
  | [] => []

def buildAvailableDeviceMap (availableDeviceIDs : List Text) : AList fun _ : Text => List Text :=
  availableDeviceIDs.foldl (fun m id => m.insert (deviceUuid id) (entry [] m (deviceUuid id) ++ [id])) ∅

/-- Why claims are of no use for an answer. -/
inductive FromClaimsError where
  | uuidNotFound (uuid : Text)
  | noneLeft (uuid : Text)
  | sizeMismatch (requested : Int) (allocated : Nat)
deriving DecidableEq, Repr

/-- The device for one claim; the empty text stands for none. -/
def selectDevice (availableMap : AList fun _ : Text => List Text) (s : Picking) (deviceClaim : DeviceClaim) :
    Except FromClaimsError Picking :=
  match availableMap.lookup deviceClaim.uuid with
  | none => .error (.uuidNotFound deviceClaim.uuid)
  | some candidates =>
    let selected := (candidates.find? fun id => id ∉ s.allocated).getD []
    if selected = [] then .error (.noneLeft deviceClaim.uuid) else .ok (s.take selected)

def allocateFromClaim (claim : ContainerDeviceClaim) (availableMap : AList fun _ : Text => List Text)
    (allocated : List Text) : Except FromClaimsError Picking :=
  claim.deviceClaims.foldlM (selectDevice availableMap) ⟨allocated, []⟩

/-- The loop of `buildPreferredAllocationResponsesFromClaims`. -/
def claimResponses (allocated : List Text) : List (PreferredRequest × ContainerDeviceClaim) →
    Except FromClaimsError (List (List Text))
  | [] => .ok []
  | (req, claim) :: rest => do
      let picked ← allocateFromClaim claim (buildAvailableDeviceMap req.availableDeviceIDs) allocated
      if (picked.deviceIDs.length : Int) ≠ req.allocationSize then
        throw (.sizeMismatch req.allocationSize picked.deviceIDs.length)
      let resps ← claimResponses picked.allocated rest
      return picked.deviceIDs :: resps

def buildPreferredAllocationResponsesFromClaims (preCtx : List (PreferredRequest × ContainerDeviceClaim)) :
    Except FromClaimsError (List (List Text)) := claimResponses [] preCtx

/-! ## 2. The call and the pod cache -/

/-- client-go's `MutationCache` over the pod informer: `Mutation` hands it an object by its address, and what it serves
is that object, unless the informer has the pod in a version that is not older. -/
structure MutationCache where
  State : Type
  mutation : State → Pod → Nat → State
  /-- The informer's pod of this name, if it is not older than the given one. -/
  informed : State → Pod → Option Pod
  getByKey : State → List Pod → Text × Text → Option Pod
  getByKey_mutation : ∀ s pod address (objects : List Pod),
    getByKey (mutation s pod address) objects (pod.namespaceName, pod.name) = (informed s pod).or objects[address]?

/-- The pods the plugin has read, each at its address, and the pod cache. -/
structure PluginMemory (M : MutationCache) where
  objects : List Pod := []
  podCache : M.State

variable {M : MutationCache} (m : PluginMemory M) (pod : Pod) (req : PreferredRequest)

/-- A pod that was read is a new object. -/
def PluginMemory.read : PluginMemory M := { m with objects := m.objects ++ [pod] }

def PluginMemory.mutation (address : Nat) : PluginMemory M :=
  { m with podCache := M.mutation m.podCache pod address }

def PluginMemory.write (address : Nat) (pod : Pod) : PluginMemory M :=
  { m with objects := m.objects.set address pod }

/-- The pod that the cache has in the place of this one. -/
def PluginMemory.cached : Option Pod := M.getByKey m.podCache m.objects (pod.namespaceName, pod.name)

/-- The claim of the next container, if it has the size that is asked for. -/
def nextClaim : Except PluginError ContainerDeviceClaim :=
  match getCurrentPreAllocateContainerDevice A pod with
  | .error e => .error e
  | .ok claim => if req.allocationSize ≠ claim.deviceClaims.length then .error .sizeMismatch else .ok claim

/-- The loop of `buildPreAllocContext`, with the pod as it is at the address by now. -/
def preAllocClaims (A : IntArith) (address : Nat) (m : PluginMemory M) (pod : Pod) : List PreferredRequest →
    Except PluginError (List (PreferredRequest × ContainerDeviceClaim)) × PluginMemory M
  | [] => (.ok [], m)
  | req :: rest =>
    match nextClaim A pod req with
    | .error e => (.error e, m)
    | .ok claim =>
      let updated := updatePodRealContainerDeviceClaim A pod claim
      let (others, m') := preAllocClaims A address (m.write address updated) updated rest
      (others.map ((req, claim) :: ·), m')

def buildPreAllocContext : Except PluginError (List (PreferredRequest × ContainerDeviceClaim)) × PluginMemory M :=
  match getCurrentPod A node pods with
  | none => (.error .noCurrentPod, m)
  | some pod =>
    let address := m.objects.length
    preAllocClaims A address ((m.read pod).mutation pod address) pod requests

/-- `GetPreferredAllocation`: the devices for each request, and the memory afterwards. -/
def getPreferredAllocation : Except PreferredError (List (List Text)) × PluginMemory M :=
  match buildDefaultAllocationResponses requests with
  | .error e => (.error e, m)
  | .ok defaultResps =>
    match buildPreAllocContext A node pods requests m with
    | (.error _, m') => (.ok defaultResps, m')
    | (.ok preCtx, m') =>
      match buildPreferredAllocationResponsesFromClaims preCtx with
      | .error _ => (.ok defaultResps, m')
      | .ok claimResps => (.ok claimResps, m')

/-! ## 3. What is recorded -/

section

variable {A m pod req} {claim : ContainerDeviceClaim} {address : Nat}

/-- The claim that is found can be written and read back. -/
theorem nextClaim_carried (h : nextClaim A pod req = .ok claim) : claim.Carried A := by
  have hfound : getCurrentPreAllocateContainerDevice A pod = .ok claim := by
    unfold nextClaim at h
    split at h
    · cases h
    · split_ifs at h
      rwa [← Except.ok.inj h]
  have hcheck {c : ContainerDeviceClaim} (hc : checkExistCont pod c = .ok claim) : c = claim := by
    unfold checkExistCont at hc
    split_ifs at hc
    exact Except.ok.inj hc
  unfold getCurrentPreAllocateContainerDevice at hfound
  split at hfound
  · cases hfound
  · cases hfound
  · next first rest hpre =>
    have hcarried := PodDeviceClaim.carried_of_unmarshalText hpre
    dsimp only at hfound
    split_ifs at hfound
    · exact hcheck hfound ▸ hcarried first (.head _)
    · split at hfound
      · cases hfound
      · split at hfound
        · cases hfound
        · next c hfind => exact hcheck hfound ▸ hcarried c (mem_of_find?_eq_some hfind)

/-- A record gets longer by the claim. -/
theorem decode_update (h : claim.Carried A) :
    decodeClaims A (updatePodRealContainerDeviceClaim A pod claim).annotations.realAllocated =
      decodeClaims A pod.annotations.realAllocated ++ [claim] := by
  refine decodeClaims_of_carried ?_ rfl
  rw [forall_mem_append, forall_mem_singleton]
  exact ⟨KeepsClaims.carried_decodeClaims _, h⟩

/-- The loop writes to the object, and records a claim for every request it comes past. -/
theorem preAllocClaims_object (hpod : m.objects[address]? = some pod) :
    (preAllocClaims A address m pod requests).2.podCache = m.podCache ∧
      ∃ done, (preAllocClaims A address m pod requests).2.objects[address]? = some done ∧
        (decodeClaims A pod.annotations.realAllocated).length ≤
          (decodeClaims A done.annotations.realAllocated).length := by
  induction requests generalizing m pod with
  | nil => exact ⟨rfl, pod, hpod, le_rfl⟩
  | cons req rest ih =>
    unfold preAllocClaims
    split
    · exact ⟨rfl, pod, hpod, le_rfl⟩
    · next claim hclaim =>
      have haddress := (List.getElem?_eq_some_iff.mp hpod).1
      obtain ⟨hcache, done, hdone, hle⟩ := ih (m := m.write address (updatePodRealContainerDeviceClaim A pod claim))
        (List.getElem?_set_self haddress)
      refine ⟨hcache, done, hdone, le_trans ?_ hle⟩
      rw [decode_update (nextClaim_carried hclaim), List.length_append]
      exact Nat.le_add_right _ _

/-- The first request finds its container. -/
def findsFirst (A : IntArith) (pod : Pod) (requests : List PreferredRequest) : Bool :=
  requests.head?.any fun req => (nextClaim A pod req).isOk

/-- The record in the object is as it was, unless the first request found its container. -/
theorem preAllocClaims_record (hpod : m.objects[address]? = some pod) :
    ∃ done, (preAllocClaims A address m pod requests).2.objects[address]? = some done ∧
      (done.annotations.realAllocated = pod.annotations.realAllocated ↔ findsFirst A pod requests = false) := by
  cases requests with
  | nil => exact ⟨pod, hpod, iff_of_true rfl rfl⟩
  | cons req rest =>
    unfold preAllocClaims
    split
    · next e he => exact ⟨pod, hpod, iff_of_true rfl (by rw [findsFirst, List.head?_cons, Option.any_some, he]; rfl)⟩
    · next claim hclaim =>
      have haddress := (List.getElem?_eq_some_iff.mp hpod).1
      obtain ⟨-, done, hdone, hle⟩ := preAllocClaims_object rest
        (m := m.write address (updatePodRealContainerDeviceClaim A pod claim)) (List.getElem?_set_self haddress)
      refine ⟨done, hdone, iff_of_false (fun hsame => ?_) ?_⟩
      · rw [decode_update (nextClaim_carried hclaim), List.length_append, hsame] at hle
        exact Nat.not_succ_le_self _ hle
      · rw [findsFirst, List.head?_cons, Option.any_some, hclaim]
        nofun

end

/-- **The cached pod has the record of the pod that was read** exactly if the informer has a pod that is not older
and has that record, or has none, and the first request finds no container of its size. -/
theorem cached_record_kept_iff {A : IntArith} {node : Text} {pods : List Pod} {pod : Pod}
    {requests : List PreferredRequest} {defaultResps : List (List Text)} (m : PluginMemory M)
    (hread : getCurrentPod A node pods = some pod)
    (hdefault : buildDefaultAllocationResponses requests = .ok defaultResps) :
    ((getPreferredAllocation A node pods requests m).2.cached pod).map (fun p => p.annotations.realAllocated) =
      some pod.annotations.realAllocated ↔
    match M.informed m.podCache pod with
    | some known => known.annotations.realAllocated = pod.annotations.realAllocated
    | none => findsFirst A pod requests = false := by
  have hpod : ((m.read pod).mutation pod m.objects.length).objects[m.objects.length]? = some pod :=
    getElem?_concat_length
  obtain ⟨hcache, -⟩ := preAllocClaims_object requests hpod
  obtain ⟨done, hdone, hiff⟩ := preAllocClaims_record requests hpod
  -- past the default answers, the call leaves what `buildPreAllocContext` leaves
  have hmemory : (getPreferredAllocation A node pods requests m).2 =
      (buildPreAllocContext A node pods requests m).2 := by
    unfold getPreferredAllocation
    rw [hdefault]
    dsimp only
    split
    · next hctx => rw [hctx]
    · next hctx =>
      rw [hctx]
      split <;> rfl
  rw [hmemory, buildPreAllocContext, hread, PluginMemory.cached]
  dsimp only
  rw [hcache, PluginMemory.mutation, M.getByKey_mutation]
  rw [PluginMemory.mutation] at hdone
  rw [hdone]
  change Option.map _ ((M.informed m.podCache pod).or _) = _ ↔ _
  cases M.informed m.podCache pod with
  | some known => exact Option.some_inj
  | none => exact Option.some_inj.trans hiff

/-- Two devices of two GPUs, among them the second of GPU-b. -/
def pairRequest : PreferredRequest where
  availableDeviceIDs := ["GPU-a::0", "GPU-a::1", "GPU-b::0", "GPU-b::1"].map String.toList
  mustIncludeDeviceIDs := ["GPU-b::1".toList]
  allocationSize := 2

/-- The cache of an informer that has not caught up: the objects by their addresses, the last one first. -/
def behindCache : MutationCache where
  State := List ((Text × Text) × Nat)
  mutation s pod address := ((pod.namespaceName, pod.name), address) :: s
  informed _ _ := none
  getByKey s objects key := (s.lookup key).bind fun address => objects[address]?
  getByKey_mutation s pod address objects := by simp

def emptyMemory : PluginMemory behindCache := { podCache := [] }

/-- The record an API server's pod has in the cache after one request about the waiting pod. -/
def recordAfter : Option (Option Text) :=
  ((getPreferredAllocation .int64 "gpu-node".toList [waitingPod] [req] emptyMemory).2.cached waitingPod).map
    fun p => p.annotations.realAllocated

theorem cached_record_kept_single :
    recordAfter { pairRequest with allocationSize := 1 } = some waitingPod.annotations.realAllocated :=
  (cached_record_kept_iff emptyMemory (by decide +kernel) (eq_okValue (by decide +kernel))).mpr <| by
    change findsFirst .int64 waitingPod [{ pairRequest with allocationSize := 1 }] = false
    decide +kernel

/-- Both devices of a container are asked for, and the informer is behind: the container is recorded in the cache,
while the API server's pod has no container recorded. -/
theorem asking_records_container : getCurrentPod .int64 "gpu-node".toList [waitingPod] = some waitingPod ∧
    waitingPod.annotations.realAllocated = some [] ∧
    recordAfter pairRequest = some (some "x[1_GPU-b_10_1000,0_GPU-a_20_2000]".toList) := by
  decide +kernel

end VGpuManager

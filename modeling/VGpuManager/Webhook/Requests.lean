import VGpuManager.ClaimResolve.Partitions

/-!
# Who may share a vGPU request (`webhook/pod/validate`, `webhook/resourceclaim/validate`)

Two webhooks look at the requests that containers share. `checkResourceClaimRequests` does when a pod is
created, for the requests that are known by then to be for vGPUs. `validateAllocatedVGPUSharing` does when the
status of a claim changes, for what was allocated and the pods that hold the claim. Both keep, for each request,
which containers use it (`Usage`), and apply one matrix to it (`Usage.conflict`).
-/

namespace VGpuManager.ClaimResolve.Webhook

open Foundation

/-- What the webhooks are set up with and read. The selectors of a class that cannot be read are none. -/
structure Reader where
  vgpuDeviceClassName : Text
  deviceClass : Text → List Text
  pod : PodReader
  resourceClaim : Text → Text → Lookup ResourceClaim
  resourceClaimTemplate : Text → Text → Lookup (List DeviceRequest)

/-- `ExactLooksLikeVGPU` and `SubRequestLooksLikeVGPU`. -/
def Reader.looksLikeVGPU (r : Reader) (matchedDriver : Bool) (ask : Ask) : Bool :=
  let exprs := r.deviceClass ask.deviceClassName ++ ask.selectors
  ask.deviceClassName == r.vgpuDeviceClassName ||
    ((matchedDriver || exprs.any fun expr => contains expr draDriverName) &&
      exprs.any fun expr => contains expr "vgpu".toList)

/-! ## The conflict matrix -/

/-- `requestUsage`: the containers that use a request. -/
structure Usage (ι : Type) where
  initContainers : List ι
  appContainers : List ι
  sidecars : List ι
  deriving Repr, DecidableEq

/-- Why containers cannot share a request. -/
inductive Conflict (ι : Type) where
  | multipleApps (containers : List ι)
  | multipleSidecars (containers : List ι)
  | sidecarWithOthers (sidecars : List ι)
  deriving Repr, DecidableEq

variable {ι : Type} [DecidableEq ι]

def Usage.empty : Usage ι := ⟨[], [], []⟩

/-- The container is added to those of its class. -/
def Usage.add (c : ContainerRef) (id : ι) (u : Usage ι) : Usage ι :=
  if c.restartable then { u with sidecars := u.sidecars.insert id }
  else
    match c.kind with
    | .init => { u with initContainers := u.initContainers.insert id }
    | .app => { u with appContainers := u.appContainers.insert id }

omit [DecidableEq ι] in
/-- App containers run at the same time, and a sidecar runs beside everything that comes after it. -/
def Usage.conflict (u : Usage ι) : Option (Conflict ι) :=
  if u.appContainers.length > 1 then some (.multipleApps u.appContainers)
  else if u.sidecars.length > 1 then some (.multipleSidecars u.sidecars)
  else if u.sidecars.length = 1 ∧ (u.initContainers.length > 0 ∨ u.appContainers.length > 0) then
    some (.sidecarWithOthers u.sidecars)
  else none

/-! ## Pods -/

/-- `MainRequestClass`. -/
inductive MainRequestClass where
  | nonVGPU
  | defVGPU
  | mixedMaybe
  deriving Repr, DecidableEq

variable (r : Reader)

/-- `buildPodRequestIndex`. -/
def Reader.buildPodRequestIndex (requests : List DeviceRequest) : AList fun _ : Text => MainRequestClass :=
  requests.foldl (fun index req =>
    match req.exactly with
    | some ask => index.insert req.name (if r.looksLikeVGPU false ask then .defVGPU else .nonVGPU)
    | none =>
      if req.firstAvailable.isEmpty then index
      else
        let vgpuCount := req.firstAvailable.countP fun subReq => r.looksLikeVGPU false subReq.2
        index.insert req.name (if vgpuCount = req.firstAvailable.length then .defVGPU
            else if vgpuCount > 0 then .mixedMaybe else .nonVGPU)) ∅

/-- `buildVGPURequestKey`: a request, by the name that the pod gives its claim. -/
structure RequestKey where
  podClaimName : Text
  mainRequest : Text
  deriving Repr, DecidableEq

def RequestKey.text (k : RequestKey) : Text := k.podClaimName ++ '/' :: k.mainRequest

/-- `ResourceInfo`: a container's part of a claim that is to be made of its limits. -/
structure ResourceInfo where
  name : Text
  claimName : Text
  requestName : Text
  deriving Repr, DecidableEq

/-- Why the requests of a reference cannot be told. -/
inductive KeysError where
  | podClaim (reason : ResolveError)
  | noClaimSource (podClaimName : Text)
  | readFailed
  | requestNotFound (request podClaimName : Text)
  deriving Repr, DecidableEq

inductive PodError where
  | claimInvalid (kind : ContainerKind) (container podClaimName : Text) (reason : KeysError)
  | multipleClaims (kind : ContainerKind) (container : Text) (podClaimNames : List Text)
  | conflict (key : RequestKey) (reason : Conflict Text)
  | initOverlap (initName : Text) (apps : List Text)
  deriving Repr, DecidableEq

/-- `getDeviceRequestsForPodClaim`; `none` for a claim or template that is not found. -/
def Reader.getDeviceRequestsForPodClaim (ns : Text) (podClaim : PodResourceClaim) :
    Except KeysError (Option (List DeviceRequest)) :=
  if podClaim.resourceClaimName ≠ [] then
    match r.resourceClaim ns podClaim.resourceClaimName with
    | .found claim => .ok (some claim.requests)
    | .notFound => .ok none
    | .failed => .error .readFailed
  else if podClaim.resourceClaimTemplateName ≠ [] then
    match r.resourceClaimTemplate ns podClaim.resourceClaimTemplateName with
    | .found requests => .ok (some requests)
    | .notFound => .ok none
    | .failed => .error .readFailed
  else .error (.noClaimSource podClaim.name)

section

variable (infos : List ResourceInfo) (pod : Pod)

/-- `resolveDefiniteVGPURequestsFromContainerClaim`. -/
def Reader.resolveDefiniteVGPURequests (claimRef : ClaimRef) :
    Except KeysError (List RequestKey) := do
  let podClaim ← (findPodResourceClaim pod claimRef.name).mapError KeysError.podClaim
  match ← r.getDeviceRequestsForPodClaim pod.ns podClaim with
  | none => return []
  | some requests =>
    let index := r.buildPodRequestIndex requests
    if claimRef.request ≠ [] then
      match index.lookup claimRef.request with
      | some .defVGPU => return [⟨claimRef.name, claimRef.request⟩]
      | some _ => return []
      | none => throw (.requestNotFound claimRef.request claimRef.name)
    else
      let definite := index.entries.filter fun e => e.2 = .defVGPU
      return (definite.map fun e => ⟨claimRef.name, e.1⟩)

/-- The requests of a reference. A claim that is to be made of limits is for vGPUs. -/
def Reader.requestKeys (c : ContainerRef) (claimRef : ClaimRef) : Except PodError (List RequestKey) :=
  match infos.filter fun info => info.name == c.name && info.claimName == claimRef.name with
  | [] => (r.resolveDefiniteVGPURequests pod claimRef).mapError (.claimInvalid c.kind c.name claimRef.name)
  | converted =>
    if claimRef.request ≠ [] then .ok [⟨claimRef.name, claimRef.request⟩]
    else .ok (converted.map fun info => ⟨claimRef.name, info.requestName⟩)

abbrev Usages := AList fun _ : RequestKey => Usage Text

/-- The use of a request by a container of the pod. -/
def useRequest (c : ContainerRef) (usages : Usages) (key : RequestKey) : Except PodError Usages :=
  updateEntry Usage.empty (Usage.add c c.name) (fun u => u.conflict.map (PodError.conflict key)) usages key

/-- The requests of a container, in order. -/
def sortedKeys (keys : List RequestKey) : List RequestKey :=
  sortBy (fun a b => textLess a.text b.text) keys.dedup

/-- What is done for a container. -/
def Reader.checkContainer (usages : Usages) (c : ContainerRef) : Except PodError Usages := do
  let keys ← c.claims.mapM (r.requestKeys infos pod c)
  let containerVGPUClaims := sortedSet (keys.flatten.map RequestKey.podClaimName)
  if containerVGPUClaims.length > 1 then throw (.multipleClaims c.kind c.name containerVGPUClaims)
  (sortedKeys keys.flatten).foldlM (useRequest c) usages

end

/-- The app containers that share a request with the init container. -/
def appsOverlapping (usages : Usages) (initName : Text) : List Text :=
  ((usages.entries.filter fun e => initName ∈ e.2.initContainers).flatMap fun e => e.2.appContainers).dedup

/-- The init containers, in whatever order `initAppOverlap` is walked. -/
def initNames (P : Platform) (usages : Usages) : List Text :=
  P.mapOrder (usages.entries.flatMap fun e => e.2.initContainers).dedup

/-- `checkResourceClaimRequests`, of a pod whose annotation holds `infos`. -/
def Reader.checkResourceClaimRequests (P : Platform) (r : Reader) (infos : List ResourceInfo) (pod : Pod) :
    Except PodError Unit :=
  if pod.resourceClaims.isEmpty then .ok ()
  else do
    let usages ← pod.allContainers.foldlM (r.checkContainer infos pod) ∅
    match (initNames P usages).find? fun initName => (appsOverlapping usages initName).length > 1 with
    | some initName => throw (.initOverlap initName (sortedSet (appsOverlapping usages initName)))
    | none => return ()

/-! ## Claims -/

/-- `containerID`. -/
structure ContainerID where
  ns : Text
  podName : Text
  containerName : Text
  deriving Repr, DecidableEq

/-- `actualRequestUsage`, with the pods as namespace and name. -/
structure ActualRequestUsage where
  pods : List (Text × Text)
  containers : Usage ContainerID
  deriving Repr, DecidableEq

inductive ClaimError where
  | resolveFailed (ns pod podClaimName : Text) (reason : ResolveError)
  | claimReadFailed (ns claim : Text)
  | podsReadFailed (reason : ResolveError)
  | multipleClaims (ns pod : Text) (kind : ContainerKind) (container : Text) (claimUIDs : List Text)
  | conflict (mainRequest ns claim : Text) (reason : Conflict ContainerID)
  | sharedByPods (mainRequest ns claim : Text) (pods : List (Text × Text))
  deriving Repr, DecidableEq

/-- `getAllocatedVGPURequests`. -/
def Reader.allocatedVGPURequests (claim : ResourceClaim) : List Text :=
  getAllocatedVGPURequests (r.looksLikeVGPU true) claim

section

variable (currentClaim : ResourceClaim) (pod : Pod) (c : ContainerRef)

/-- `getClaimCached`: the claim that is validated, or what is read. -/
def Reader.getClaimCached (ns name : Text) : Lookup ResourceClaim :=
  if ns = currentClaim.ns ∧ name = currentClaim.name then .found currentClaim else r.resourceClaim ns name

/-- What a reference hits: the UID of a claim, and its requests. -/
def Reader.claimRefHits (claimRef : ClaimRef) :
    Except ClaimError (List (Text × Text)) := do
  let actualName ← (resolveActualClaimNameForPodClaim pod claimRef.name).mapError
    (ClaimError.resolveFailed pod.ns pod.name claimRef.name)
  match actualName with
  | none => return []
  | some actualClaimName =>
    match r.getClaimCached currentClaim pod.ns actualClaimName with
    | .notFound => return []
    | .failed => throw (.claimReadFailed pod.ns actualClaimName)
    | .found actualClaim =>
      let hits := resolveActualAllocatedRequestsForClaimRef claimRef (r.allocatedVGPURequests actualClaim)
      return hits.map fun mainReq => (actualClaim.uid, mainReq)

abbrev ActualUsages := AList fun _ : Text => ActualRequestUsage

def ActualRequestUsage.empty : ActualRequestUsage := ⟨[], Usage.empty⟩

/-- The container and its pod are added. -/
def ActualRequestUsage.add (u : ActualRequestUsage) : ActualRequestUsage :=
  { pods := u.pods.insert (pod.ns, pod.name)
    containers := u.containers.add c ⟨pod.ns, pod.name, c.name⟩ }

/-- The reason to refuse, if any: the matrix, or a request that pods share. -/
def ActualRequestUsage.refuse (mainReq : Text) (u : ActualRequestUsage) : Option ClaimError :=
  match u.containers.conflict with
  | some reason => some (.conflict mainReq currentClaim.ns currentClaim.name reason)
  | none =>
    if u.pods.length > 1 then some (.sharedByPods mainReq currentClaim.ns currentClaim.name u.pods)
    else none

/-- The use of a request of the claim. -/
def useAllocated (usages : ActualUsages) (mainReq : Text) : Except ClaimError ActualUsages :=
  updateEntry ActualRequestUsage.empty (ActualRequestUsage.add pod c)
    (ActualRequestUsage.refuse currentClaim mainReq) usages mainReq

end

def Reader.validateContainer (currentClaim : ResourceClaim) (pod : Pod) (usages : ActualUsages) (c : ContainerRef) :
    Except ClaimError ActualUsages := do
  let hits ← c.claims.mapM (r.claimRefHits currentClaim pod)
  let containerActualVGPUClaims := sortedSet (hits.flatten.map Prod.fst)
  if containerActualVGPUClaims.length > 1 then
    throw (.multipleClaims pod.ns pod.name c.kind c.name containerActualVGPUClaims)
  let current := hits.flatten.filter fun hit => hit.1 == currentClaim.uid
  (sortedSet (current.map Prod.snd)).foldlM (useAllocated currentClaim pod c) usages

/-- `validateOneReservedPodAgainstAllocatedClaim`. -/
def Reader.validateOneReservedPod (currentClaim : ResourceClaim) (usages : ActualUsages) (pod : Pod) :
    Except ClaimError ActualUsages :=
  pod.allContainers.foldlM (r.validateContainer currentClaim pod) usages

/-- `validateAllocatedVGPUSharing`. -/
def Reader.validateAllocatedVGPUSharing (claim : ResourceClaim) : Except ClaimError Unit :=
  if claim.allocation.isNone ∨ (r.allocatedVGPURequests claim).isEmpty then .ok ()
  else do
    let reservedPods ← (getReservedPods r.pod claim.ns claim.reservedFor).mapError ClaimError.podsReadFailed
    let _ ← reservedPods.foldlM (r.validateOneReservedPod claim) ∅
    return ()

end VGpuManager.ClaimResolve.Webhook

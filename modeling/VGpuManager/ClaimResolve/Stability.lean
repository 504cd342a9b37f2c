import VGpuManager.ClaimResolve.Partitions

/-!
# The key of a partition over time (`kubeletplugin/clientregistry.go`, `kubeletplugin/claim_partitions.go`)

When a claim is prepared, the key of a request's partition is written into an annotation of the claim. A
container that registers later gives the identifier of that annotation, and `targetByUUID` computes the
partitions anew, from the pods that hold the claim by then, and looks the key up among them.

A pod that joined in between can merge partitions, and a merged partition has another key
(`joined_pod_loses_key`).
-/

namespace VGpuManager.ClaimResolve

open Foundation List

/-! ## Recording the key -/

/-- `resolveMainRequestName`; the empty text if there is none. -/
def resolveMainRequestName (claim : ResourceClaim) (requestName : Text) : Text :=
  let names (req : DeviceRequest) : Bool :=
    (req.exactly.isSome && req.name == requestName) ||
      req.firstAvailable.any fun subReq => req.name ++ '/' :: subReq.1 == requestName
  ((claim.requests.find? names).map DeviceRequest.name).getD []

/-- `AllocatedVGPURequestsForClaim`, on a node whose vGPU devices `isVGPU` tells. -/
def allocatedVGPURequestsForClaim (isVGPU : Text → Bool) (claim : ResourceClaim) : List Text :=
  let ours := (claim.allocation.getD []).filter fun result => result.driver == draDriverName && isVGPU result.device
  ((ours.map fun result => resolveMainRequestName claim result.request).filter fun request => request != []).dedup

/-- `sanitizeScopeToken`. -/
def sanitizeScopeToken (value : Text) : Text :=
  if value = [] then "unknown".toList
  else value.map fun r =>
    if r.isLower || r.isUpper || r.isDigit || r == '-' || r == '_' || r == '.' then r else '-'

/-- `resolveVGPUResultPartitionKey`. -/
def resolveVGPUResultPartitionKey (request : Text) (info : PartitionInfo) : Text :=
  match info.requestToPartition.lookup request with
  | some key => if key ≠ [] then key else sanitizeScopeToken request
  | none => sanitizeScopeToken request

/-! ## Looking the key up -/

/-- The reason why no target is found for an identifier. -/
inductive TargetError where
  | claimNotFound (uuid : Text)
  | annotationMissing (ns name annotationKey : Text)
  | noAllocatedRequests (ns name : Text)
  | resolve (ns name : Text) (reason : ResolveError)
  | noCandidates (partitionKey ns name : Text)
  deriving Repr, DecidableEq

/-- `registry.Target`: the candidates, and the pieces of the directory's path. -/
structure Target where
  candidates : List (Pod × Text)
  configDir : List Text
  deriving Repr, DecidableEq

/-- `ClientRegisterResolver`, over what its caches hold. -/
structure ClientRegisterResolver where
  pods : PodReader
  claims : List ResourceClaim
  contPath : Text
  isVGPU : Text → Bool

/-- `annotationKey`. -/
def annotationKey (uuid : Text) : Text := draDriverName ++ '/' :: uuid

/-- `MakeClaimUUIDIndexFunc`: whether the claim is indexed under the identifier. -/
def ResourceClaim.indexedUnder (claim : ResourceClaim) (uuid : Text) : Bool :=
  uuid != [] && claim.annotations.any fun a => a.1 == annotationKey uuid

variable (r : ClientRegisterResolver)

/-- `lookupClaim`. -/
def ClientRegisterResolver.lookupClaim (uuid : Text) : Except TargetError (ResourceClaim × Text) :=
  match r.claims.filter fun claim => claim.indexedUnder uuid with
  | [claim] =>
    match claim.annotations.lookup (annotationKey uuid) with
    | some partitionKey =>
      if partitionKey = [] then .error (.annotationMissing claim.ns claim.name (annotationKey uuid))
      else .ok (claim, partitionKey)
    | none => .error (.annotationMissing claim.ns claim.name (annotationKey uuid))
  | _ => .error (.claimNotFound uuid)

/-- The target for a claim's partition. -/
def ClientRegisterResolver.target (P : Platform) (shortHash : Text → Text)
    (claim : ResourceClaim) (partitionKey : Text) : Except TargetError Target :=
  let allocatedRequests := allocatedVGPURequestsForClaim r.isVGPU claim
  if allocatedRequests.isEmpty then .error (.noAllocatedRequests claim.ns claim.name)
  else
    match resolveClaimVGPUPartitionsFromAllocatedRequests P shortHash r.pods claim allocatedRequests with
    | .error reason => .error (.resolve claim.ns claim.name reason)
    | .ok info =>
      let cands := info.candidates partitionKey
      if cands.isEmpty then .error (.noCandidates partitionKey claim.ns claim.name)
      else .ok
        { candidates := cands.map fun c => (c.pod, c.containerName)
          configDir := [r.contPath, "claims".toList, claim.uid, partitionKey, "config".toList] }

/-- `TargetByUUID`. -/
def ClientRegisterResolver.targetByUUID (P : Platform) (shortHash : Text → Text)
    (uuid : Text) : Except TargetError Target := do
  let (claim, partitionKey) ← r.lookupClaim uuid
  r.target P shortHash claim partitionKey

/-! ## The key is made of the members -/

/-- Sorted by their texts, the texts come in one order. -/
theorem map_sortBy_texts {α : Type} (text : α → Text) {l l' : List α} (h : (l.map text).Perm (l'.map text)) :
    (sortBy (fun a b => textLess (text a) (text b)) l).map text =
      (sortBy (fun a b => textLess (text a) (text b)) l').map text := by
  have hless : (fun a b => textLess (text a) (text b)) =
      fun a b => @decide (text a < text b) (LinearOrder.toDecidableLT _ _) := by
    funext a b
    exact decide_eq_decide.mpr Iff.rfl
  rw [hless]
  exact map_sortBy_eq text h

variable {shortHash : Text → Text} {P : Platform} {d : PartitionDetail} {edges : List (PartitionCandidate × Text)}
  {claim : ResourceClaim}

theorem buildPartitionKey_congr {cs cs' : List ContainerKey} {rs : List Text}
    (hperm : cs.Perm cs') (htexts : cs.map ContainerKey.text = cs'.map ContainerKey.text) :
    buildPartitionKey shortHash cs rs = buildPartitionKey shortHash cs' rs := by
  match cs, cs' with
  | [c], cs' =>
    rw [← perm_singleton.mp hperm.symm]
  | [], [] => rfl
  | [], _ :: _ => cases hperm.nil_eq
  | _ :: _ :: _, [] => cases hperm.eq_nil
  | _ :: _ :: _, [_] => cases hperm.length_eq
  | _ :: _ :: _, _ :: _ :: _ =>
    unfold buildPartitionKey
    rw [htexts]

section Members

variable {found found' : List Node} (h : ∀ n, n ∈ found ↔ n ∈ found')

include h

theorem perm_members {α : Type} [DecidableEq α] (f : Node → Option α) :
    (found.filterMap f).dedup.Perm (found'.filterMap f).dedup := by
  refine (perm_ext_iff_of_nodup (nodup_dedup _) (nodup_dedup _)).mpr fun a => ?_
  simp only [mem_dedup, mem_filterMap, h]

theorem requests_partitionDetail :
    (partitionDetail shortHash found).requests = (partitionDetail shortHash found').requests := by
  have hsorted := map_sortBy_texts id ((perm_members h Node.request?).map id)
  rwa [map_id, map_id] at hsorted

theorem texts_partitionDetail : (partitionDetail shortHash found).containers.map ContainerKey.text =
    (partitionDetail shortHash found').containers.map ContainerKey.text :=
  map_sortBy_texts ContainerKey.text ((perm_members h Node.container?).map ContainerKey.text)

/-- The walk's order does not matter. -/
theorem partitionDetail_key_eq : (partitionDetail shortHash found).key = (partitionDetail shortHash found').key := by
  have hcontainers : (partitionDetail shortHash found).containers.Perm (partitionDetail shortHash found').containers :=
    ((sortBy_perm _ _).trans (perm_members h Node.container?)).trans (sortBy_perm _ _).symm
  calc (partitionDetail shortHash found).key
      = buildPartitionKey shortHash (partitionDetail shortHash found).containers
          (partitionDetail shortHash found').requests := by rw [← requests_partitionDetail h]; rfl
    _ = (partitionDetail shortHash found').key := buildPartitionKey_congr hcontainers (texts_partitionDetail h)

end Members

/-- Partitions with the same members have the same key. -/
theorem details_key_eq {P' : Platform} {edges' : List (PartitionCandidate × Text)}
    {d' : PartitionDetail} (hd : d ∈ partitionDetails P shortHash edges)
    (hd' : d' ∈ partitionDetails P' shortHash edges') (h : ∀ n, d.has n ↔ d'.has n) : d.key = d'.key := by
  obtain ⟨c, -, rfl⟩ := mem_map.mp (mem_filter.mp hd).1
  obtain ⟨c', -, rfl⟩ := mem_map.mp (mem_filter.mp hd').1
  exact partitionDetail_key_eq fun n => by rw [← has_partitionDetail, h n, has_partitionDetail]

/-- A partition's key is not empty. -/
theorem details_key_ne (hd : d ∈ partitionDetails P shortHash edges) : d.key ≠ [] := by
  obtain ⟨c, -, rfl⟩ := mem_map.mp (mem_filter.mp hd).1
  change buildPartitionKey _ _ _ ≠ []
  unfold buildPartitionKey
  split <;> simp

/-! ## The key of a request -/

section

variable (cands : AList fun _ : ContainerKey => PartitionCandidate)

include cands

/-- Candidates are added to their own map only. -/
theorem addContainers_eq (key : Text) (containers : List ContainerKey) (info : PartitionInfo) :
    ∃ c, containers.foldl (PartitionInfo.addContainer cands key) info = { info with candidatesByKey := c } := by
  induction containers generalizing info with
  | nil => exact ⟨_, rfl⟩
  | cons ck containers ih =>
    rw [foldl_cons]
    obtain ⟨c, hc⟩ := ih (info.addContainer cands key ck)
    refine ⟨c, hc.trans ?_⟩
    unfold PartitionInfo.addContainer
    cases cands.lookup ck <;> rfl

theorem lookup_addPartitions (ds : List PartitionDetail) (info : PartitionInfo) (r : Text) :
    (ds.foldl (PartitionInfo.addPartition cands) info).requestToPartition.lookup r =
      (ds.filter fun d => r ∈ d.requests).foldl (fun _ d => some d.key) (info.requestToPartition.lookup r) :=
  foldl_part (fun info => info.requestToPartition.lookup r) (fun info d => by
    unfold PartitionInfo.addPartition
    obtain ⟨c, hc⟩ := addContainers_eq cands d.key d.containers _
    rw [hc, lookup_foldl_insert_const]
    simp only [decide_eq_true_eq]
    congr) ds info

end

/-- What is recorded for the partitions, one after the other. -/
def recorded (P : Platform) (shortHash : Text → Text) (edges : List (PartitionCandidate × Text)) : PartitionInfo :=
  (partitionDetails P shortHash edges).foldl (PartitionInfo.addPartition (containerCands edges)) (edgeInfo edges)

/-- **A request's key is that of its partition.** -/
theorem lookup_requestToPartition (hd : d ∈ partitionDetails P shortHash edges) {r : Text} (hr : r ∈ d.requests) :
    (resolveFromEdges P shortHash edges).requestToPartition.lookup r = some d.key := by
  have hresult : (recorded P shortHash edges).requestToPartition.lookup r = some d.key := by
    unfold recorded
    rw [lookup_addPartitions]
    refine foldl_last (fun x hx => ?_) (ne_nil_of_mem (mem_filter.mpr ⟨hd, decide_eq_true hr⟩)) _
    obtain ⟨hx, hrx⟩ := mem_filter.mp hx
    have hrx : r ∈ x.requests := of_decide_eq_true hrx
    exact details_key_eq hx hd fun n =>
      ((details_classes hx (a := .request r) hrx).2 n).trans ((details_classes hd (a := .request r) hr).2 n).symm
  obtain ⟨e, he, -⟩ := mem_graphNodes.mp (details_classes hd (a := .request r) hr).1
  have hne : edges.isEmpty = false := by simpa using ne_nil_of_mem he
  unfold resolveFromEdges
  rw [hne]
  dsimp only
  split
  · next h => cases h
  · split <;> exact hresult

/-! ## Growth -/

/-- No pod that was added uses the request. -/
def NotJoined (claimName : Text) (allocated : List Text) (pods pods' : List Pod) (request : Text) : Prop :=
  ∀ pod ∈ pods', pod ∉ pods → ∀ c ∈ pod.allContainers, ¬ Uses claimName allocated pod c request

section Growth

variable {claimName : Text} {allocated : List Text} {pods pods' : List Pod}
variable {edges' : List (PartitionCandidate × Text)}
variable (hedges : resolveEdges claimName allocated pods = .ok edges)
variable (hedges' : resolveEdges claimName allocated pods' = .ok edges')
variable (hgrown : pods ⊆ pods')

include hedges hedges' hgrown

theorem edges_subset : edges ⊆ edges' := fun e he => by
  obtain ⟨pod, hpod, h⟩ := (mem_resolveEdges hedges e).mp he
  exact (mem_resolveEdges hedges' e).mpr ⟨pod, hgrown hpod, h⟩

variable {P' : Platform}
variable (hd : d ∈ partitionDetails P shortHash edges)
variable (hunique : ∀ p ∈ pods', ∀ q ∈ pods', p.uid = q.uid → p = q)
variable (hnew : ∀ request ∈ d.requests, NotJoined claimName allocated pods pods' request)

include hd hunique hnew

/-- The later edges at the members of the partition are the earlier ones. -/
theorem mem_edges_of_has {e : PartitionCandidate × Text} (he : e ∈ edges') {a b : Node} (ha : d.has a)
    (hjoins : Joins e a b) : e ∈ edges := by
  obtain ⟨pod, hpod, c, hc, hcand, huses⟩ := (mem_resolveEdges hedges' e).mp he
  refine (mem_resolveEdges hedges e).mpr ⟨pod, ?_, c, hc, hcand, huses⟩
  rcases hjoins with ⟨rfl, -⟩ | ⟨rfl, -⟩
  · -- At a container: its pod was there, because the container was.
    obtain ⟨e₀, he₀, hnode⟩ := mem_graphNodes.mp (details_classes hd ha).1
    have hkey : e.1.key = e₀.1.key := by simpa using hnode
    obtain ⟨pod₀, hpod₀, c₀, -, hcand₀, -⟩ := (mem_resolveEdges hedges e₀).mp he₀
    have huid : pod.uid = pod₀.uid := by
      rw [hcand, hcand₀] at hkey
      exact congrArg ContainerKey.podUID hkey
    rw [hunique pod hpod pod₀ (hgrown hpod₀) huid]
    exact hpod₀
  · -- At a request: no added pod uses it.
    by_contra hadded
    exact hnew e.2 ha pod hpod hadded c hc huses

/-- **The members of the partition are linked as before.** -/
theorem linked_iff_of_has {a : Node} (ha : d.has a) (m : Node) : Linked edges a m ↔ Linked edges' a m := by
  constructor
  · refine Relation.ReflTransGen.mono (fun x y hxy => ?_) a m
    rw [mem_neighbours] at hxy ⊢
    obtain ⟨e, he, hjoins⟩ := hxy
    exact ⟨e, edges_subset hedges hedges' hgrown he, hjoins⟩
  · intro hlinked
    refine (connected_of_inside d.has (fun x y hx hxy => ?_) (fun x y hx hxy => ?_) ha hlinked).1
    · exact ((details_classes hd hx).2 y).mpr (.single hxy)
    · rw [mem_neighbours] at hxy ⊢
      obtain ⟨e, he, hjoins⟩ := hxy
      exact ⟨e, mem_edges_of_has hedges hedges' hgrown hd hunique hnew he hx hjoins, hjoins⟩

/-- **The partition is there later**, with its members and its key. -/
theorem detail_persists (P' : Platform) {request : Text} (hrequest : request ∈ d.requests) :
    ∃ d' ∈ partitionDetails P' shortHash edges', d'.key = d.key ∧ ∀ n, d'.has n ↔ d.has n := by
  have hclass := details_classes hd (a := .request request) hrequest
  obtain ⟨e, he, hnode⟩ := mem_graphNodes.mp hclass.1
  have hname : request = e.2 := by simpa using hnode
  obtain ⟨d', hd', -, hhas⟩ := details_cover P' shortHash (edges_subset hedges hedges' hgrown he)
  rw [← hname] at hhas
  have hmembers : ∀ n, d'.has n ↔ d.has n := fun n =>
    calc d'.has n ↔ Linked edges' (.request request) n := (details_classes hd' hhas).2 n
      _ ↔ Linked edges (.request request) n :=
          (linked_iff_of_has hedges hedges' hgrown hd hunique hnew (a := .request request) hrequest n).symm
      _ ↔ d.has n := (hclass.2 n).symm
  exact ⟨d', hd', details_key_eq hd' hd hmembers, hmembers⟩

/-- Its containers are later candidates under its key. -/
theorem among_later (P' : Platform) {k : ContainerKey} (hk : k ∈ d.containers) :
    Among ((resolveFromEdges P' shortHash edges').candidates d.key) k := by
  obtain ⟨e, he, hnode⟩ := mem_graphNodes.mp (details_classes hd (a := .container k) hk).1
  have hkey : k = e.1.key := by simpa using hnode
  have hlink : Linked edges (.container k) (.request e.2) :=
    .single ((mem_neighbours edges _ _).mpr ⟨e, he, .inl ⟨by rw [hkey], rfl⟩⟩)
  have hrequest : d.has (.request e.2) := ((details_classes hd (a := .container k) hk).2 _).mpr hlink
  obtain ⟨d', hd', hd'key, hmembers⟩ := detail_persists hedges hedges' hgrown hd hunique hnew P' hrequest
  rw [← hd'key]
  exact among_resolveFromEdges hd' ((hmembers (.container k)).mpr hk) (edges_subset hedges hedges' hgrown he)
    hkey.symm

end Growth

/-! ## Recorded keys -/

theorem lookupClaim_of_recorded {r : ClientRegisterResolver} {uuid key : Text}
    (hindexed : r.claims.filter (fun claim => claim.indexedUnder uuid) = [claim])
    (hrecorded : claim.annotations.lookup (annotationKey uuid) = some key) (hkey : key ≠ []) :
    r.lookupClaim uuid = .ok (claim, key) := by
  unfold ClientRegisterResolver.lookupClaim
  rw [hindexed]
  dsimp only
  rw [hrecorded]
  exact if_neg hkey

/-- **A recorded key resolves** to all containers of its partition, if no pod that was added to the claim since
uses a request of the partition. -/
theorem recorded_key_resolves {P P' : Platform} {shortHash : Text → Text} {reader : PodReader}
    {claim claim' : ResourceClaim} {r : ClientRegisterResolver} {info : PartitionInfo} {pods pods' : List Pod}
    {edges : List (PartitionCandidate × Text)} {uuid request : Text} {d : PartitionDetail}
    (hprepared : resolveClaimVGPUPartitionsFromAllocatedRequests P shortHash reader claim
      (allocatedVGPURequestsForClaim r.isVGPU claim) = .ok info)
    (hpods : getReservedPods reader claim.ns claim.reservedFor = .ok pods)
    (hedges : resolveEdges claim.name (allocatedVGPURequestsForClaim r.isVGPU claim) pods = .ok edges)
    (hd : d ∈ partitionDetails P shortHash edges) (hrequest : request ∈ d.requests)
    (hsame : claim' = { claim with annotations := claim'.annotations, reservedFor := claim'.reservedFor })
    (hindexed : r.claims.filter (fun claim => claim.indexedUnder uuid) = [claim'])
    (hrecorded : claim'.annotations.lookup (annotationKey uuid) = some (resolveVGPUResultPartitionKey request info))
    (hpods' : getReservedPods r.pods claim'.ns claim'.reservedFor = .ok pods') (hgrown : pods ⊆ pods')
    (hwell : ∀ pod ∈ pods', pod.WellFormed) (hunique : ∀ p ∈ pods', ∀ q ∈ pods', p.uid = q.uid → p = q)
    (hnew : ∀ q ∈ d.requests, NotJoined claim.name (allocatedVGPURequestsForClaim r.isVGPU claim) pods pods' q) :
    ∃ target, r.targetByUUID P' shortHash uuid = .ok target ∧
      ∀ k ∈ d.containers, ∃ c ∈ target.candidates, c.1.uid = k.podUID ∧ c.2 = k.name := by
  have hallocated : allocatedVGPURequestsForClaim r.isVGPU claim' = allocatedVGPURequestsForClaim r.isVGPU claim := by
    rw [hsame]
    rfl
  have hname : claim'.name = claim.name := by rw [hsame]
  -- The key that was recorded is the partition's.
  obtain ⟨e, he, hnode⟩ := mem_graphNodes.mp (details_classes hd (a := .request request) hrequest).1
  have hinfo : info = resolveFromEdges P shortHash edges :=
    Except.ok.inj (hprepared.symm.trans (resolve_of_edges P shortHash hpods hedges he).2)
  have hkey : resolveVGPUResultPartitionKey request info = d.key := by
    unfold resolveVGPUResultPartitionKey
    rw [hinfo, lookup_requestToPartition hd hrequest]
    exact if_pos (details_key_ne hd)
  rw [hkey] at hrecorded
  -- What is resolved later comes from the later edges.
  obtain ⟨edges', hedges'⟩ : ∃ edges', resolveEdges claim'.name (allocatedVGPURequestsForClaim r.isVGPU claim') pods' =
      .ok edges' := resolveEdges_ok hwell
  have hearlier := hedges
  rw [← hname, ← hallocated] at hearlier hnew
  have hlater := resolve_of_edges P' shortHash hpods' hedges' (edges_subset hearlier hedges' hgrown he)
  have hamong : ∀ k ∈ d.containers, Among ((resolveFromEdges P' shortHash edges').candidates d.key) k := fun k hk =>
    among_later hearlier hedges' hgrown hd hunique hnew P' hk
  have hcontainer : e.1.key ∈ d.containers := by
    have hreq : request = e.2 := by simpa using hnode
    refine ((details_classes hd (a := .request request) hrequest).2 (.container e.1.key)).mpr (.single ?_)
    exact (mem_neighbours edges _ _).mpr ⟨e, he, .inr ⟨by rw [hreq], rfl⟩⟩
  obtain ⟨target, htarget, hcands⟩ : ∃ target, r.target P' shortHash claim' d.key = .ok target ∧ target.candidates =
      ((resolveFromEdges P' shortHash edges').candidates d.key).map fun c => (c.pod, c.containerName) := by
    obtain ⟨c, hc, -⟩ := hamong _ hcontainer
    unfold ClientRegisterResolver.target
    simp only [hlater.1, hlater.2, isEmpty_eq_false_iff.2 (ne_nil_of_mem hc), Bool.false_eq_true, if_false]
    exact ⟨_, rfl, rfl⟩
  refine ⟨target, ?_, fun k hk => ?_⟩
  · unfold ClientRegisterResolver.targetByUUID
    rw [lookupClaim_of_recorded hindexed hrecorded (details_key_ne hd)]
    exact htarget
  · obtain ⟨c, hc, huid, hcname⟩ := hamong k hk
    rw [hcands]
    exact ⟨(c.pod, c.containerName), mem_map_of_mem hc, huid, hcname⟩

/-! ### Pods that join -/

/-- A pod with one container, which uses the request of `claim`. -/
def userPod (name request : Text) : Pod :=
  { ns := "ns".toList
    name := name
    uid := name
    resourceClaims := [⟨"gpus".toList, "claim".toList, []⟩]
    claimStatuses := []
    initContainers := []
    containers := [⟨"main".toList, [⟨"gpus".toList, request⟩], false⟩] }

/-- A claim for the vGPUs `r` and `s`, held by the pods. -/
def twoVGPUClaim (annotations : List (Text × Text)) (pods : List Pod) : ResourceClaim :=
  { ns := "ns".toList
    name := "claim".toList
    uid := "claim-uid".toList
    annotations := annotations
    requests := ["r".toList, "s".toList].map fun name => ⟨name, some ⟨"vgpu".toList, []⟩, []⟩
    allocation := some (["r".toList, "s".toList].map fun name => ⟨name, draDriverName, name⟩)
    reservedFor := pods.map fun pod => ⟨[], "pods".toList, pod.name, pod.uid⟩ }

/-- A reader of the pods. -/
def readerOf (pods : List Pod) : PodReader := fun ns name =>
  match pods.find? fun pod => pod.ns == ns && pod.name == name with
  | some pod => .found pod
  | none => .notFound

/-- A resolver that sees the pods and the claim, with the key recorded under `id`. -/
def resolverOf (pods : List Pod) (key : Text) : ClientRegisterResolver :=
  { pods := readerOf pods
    claims := [twoVGPUClaim [(annotationKey "id".toList, key)] pods]
    contPath := "/etc/vgpu-manager".toList
    isVGPU := fun _ => true }

/-- The key that is recorded for `r` when the pods hold the claim. -/
def recordedKey (P : Platform) (shortHash : Text → Text) (pods : List Pod) : Except ResolveError Text := do
  let claim := twoVGPUClaim [] pods
  let info ← resolveClaimVGPUPartitionsFromAllocatedRequests P shortHash (readerOf pods) claim
    (allocatedVGPURequestsForClaim (fun _ => true) claim)
  return resolveVGPUResultPartitionKey "r".toList info

/-- `shortHash` of the texts that are hashed for the pods `p` and `q`. -/
def shortHashHere (value : Text) : Text :=
  if value = "p".toList then "148de9c5a7a4".toList
  else if value = "q".toList then "8e35c2cd3bf6".toList
  else if value = "p/app/main,q/app/main|r".toList then "5fc5a0f2548d".toList
  else []

/-- The key that is recorded while `p` alone holds the claim. -/
def earlyKey : Text := "pod-148de9c5a7a4-app/main".toList

/-- A pod `q` joins and uses the request of `p`: the key that was recorded for `p` leads nowhere. -/
theorem joined_pod_loses_key :
    recordedKey (.exact .int64) shortHashHere [userPod "p".toList "r".toList] = .ok earlyKey ∧
      ((resolverOf [userPod "p".toList "r".toList] earlyKey).targetByUUID (.exact .int64) shortHashHere
        "id".toList).map Target.candidates = .ok [(userPod "p".toList "r".toList, "main".toList)] ∧
      (resolverOf [userPod "p".toList "r".toList, userPod "q".toList "r".toList] earlyKey).targetByUUID
        (.exact .int64) shortHashHere "id".toList = .error (.noCandidates earlyKey "ns".toList "claim".toList) := by
  decide +kernel

theorem userPod_wellFormed (name request : Text) : (userPod name request).WellFormed := by
  intro c hc ref href
  simp only [userPod, Pod.allContainers, map_nil, nil_append, map_cons, mem_singleton] at hc
  subst hc
  rw [mem_singleton] at href
  subst href
  exact ⟨⟨"gpus".toList, "claim".toList, []⟩, rfl, .inl (by decide)⟩

theorem eq_of_uses_userPod {name request claimName : Text} {allocated : List Text} {c : ContainerRef} {q : Text}
    (hrequest : request ≠ []) (hc : c ∈ (userPod name request).allContainers)
    (h : Uses claimName allocated (userPod name request) c q) : q = request := by
  obtain ⟨ref, href, -, hin⟩ := uses_iff.mp h
  simp only [userPod, Pod.allContainers, map_nil, nil_append, map_cons, mem_singleton] at hc
  subst hc
  rw [mem_singleton] at href
  subst href
  unfold resolveActualAllocatedRequestsForClaimRef at hin
  rw [if_pos hrequest] at hin
  split at hin
  · exact mem_singleton.mp hin
  · cases hin

/-- A pod that uses the other request leaves the key good. -/
theorem other_pod_keeps_key :
    ∃ target, (resolverOf [userPod "p".toList "r".toList, userPod "q".toList "s".toList] earlyKey).targetByUUID
        (.exact .int64) shortHashHere "id".toList = .ok target ∧
      ∀ k ∈ [(⟨"p".toList, .app, "main".toList⟩ : ContainerKey)], ∃ c ∈ target.candidates,
        c.1.uid = k.podUID ∧ c.2 = k.name := by
  let pods := [userPod "p".toList "r".toList]
  let pods' := [userPod "p".toList "r".toList, userPod "q".toList "s".toList]
  let claim := twoVGPUClaim [] pods
  have hpods : getReservedPods (readerOf pods) claim.ns claim.reservedFor = .ok pods := by decide +kernel
  have hedges : resolveEdges claim.name
      (allocatedVGPURequestsForClaim (resolverOf pods' earlyKey).isVGPU claim) pods =
      .ok [(⟨userPod "p".toList "r".toList, "main".toList, .app⟩, "r".toList)] := by decide +kernel
  have hprepared := (resolve_of_edges (.exact .int64) shortHashHere hpods hedges (.head _)).2
  refine @recorded_key_resolves (.exact .int64) (.exact .int64) shortHashHere (readerOf pods) claim
    (twoVGPUClaim [(annotationKey "id".toList, earlyKey)] pods') (resolverOf pods' earlyKey) _ pods pods' _
    "id".toList "r".toList ⟨earlyKey, [⟨"p".toList, .app, "main".toList⟩], ["r".toList]⟩
    hprepared hpods hedges (by decide +kernel) (by decide) rfl (by decide +kernel) (by decide +kernel)
    (by decide +kernel) (by decide +kernel) ?_ (by decide +kernel) ?_
  · intro pod hpod
    simp only [pods', mem_cons, not_mem_nil, or_false] at hpod
    rcases hpod with rfl | rfl <;> exact userPod_wellFormed _ _
  · intro q hq pod hpod hadded c hc huses
    simp only [pods, pods', mem_cons, not_mem_nil, or_false] at hq hpod hadded
    rcases hpod with rfl | rfl
    · exact hadded rfl
    · have hname := eq_of_uses_userPod (by decide) hc huses
      rw [hq] at hname
      exact absurd hname (by decide)

end VGpuManager.ClaimResolve

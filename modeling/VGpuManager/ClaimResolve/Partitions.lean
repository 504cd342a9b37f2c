import Mathlib.Data.Char
import VGpuManager.Foundation.Components
import VGpuManager.Foundation.Loops
import VGpuManager.Foundation.Platform
import VGpuManager.Foundation.Sorting

/-!
# Partitions of a claim (`claimresolve/partitions.go`, `claimresolve/allocated_vgpu.go`)

The containers of the pods that hold a claim use its vGPU requests. Containers that share a request,
directly or through others, form a partition: a component of the graph of containers and requests. A
partition shares one directory and is known by a key that is made of its containers and requests.
-/

namespace VGpuManager.ClaimResolve

open Foundation List

/-! ## Pods and claims -/

/-- A container's reference to a claim of its pod; without a request it is to all of them. -/
structure ClaimRef where
  name : Text
  request : Text
  deriving Repr, DecidableEq

/-- A container; `restartable` for a sidecar. -/
structure Container where
  name : Text
  claims : List ClaimRef
  restartable : Bool
  deriving Repr, DecidableEq

/-- `PodResourceClaim`; an empty text for what is not given. -/
structure PodResourceClaim where
  name : Text
  resourceClaimName : Text
  resourceClaimTemplateName : Text
  deriving Repr, DecidableEq

structure PodResourceClaimStatus where
  name : Text
  resourceClaimName : Text
  deriving Repr, DecidableEq

structure Pod where
  ns : Text
  name : Text
  uid : Text
  resourceClaims : List PodResourceClaim
  claimStatuses : List PodResourceClaimStatus
  initContainers : List Container
  containers : List Container
  deriving Repr, DecidableEq

inductive ContainerKind where
  | init
  | app
  deriving Repr, DecidableEq

def ContainerKind.text : ContainerKind → Text
  | .init => "init".toList
  | .app => "app".toList

/-- `ContainerRef`. -/
structure ContainerRef where
  name : Text
  claims : List ClaimRef
  kind : ContainerKind
  restartable : Bool
  deriving Repr, DecidableEq

section

variable (pod : Pod) (podClaimName : Text)

/-- `GetAllPodContainers`. -/
def Pod.allContainers : List ContainerRef :=
  (pod.initContainers.map fun c => ⟨c.name, c.claims, .init, c.restartable⟩) ++
    pod.containers.map fun c => ⟨c.name, c.claims, .app, false⟩

/-- The reason why a claim of a pod cannot be resolved. -/
inductive ResolveError where
  | podClaimNotFound (podClaimName : Text)
  | noClaimSource (ns pod podClaimName : Text)
  | readerFailed
  deriving Repr, DecidableEq

/-- `FindPodResourceClaim`. -/
def findPodResourceClaim : Except ResolveError PodResourceClaim :=
  match pod.resourceClaims.find? fun c => c.name == podClaimName with
  | some podClaim => .ok podClaim
  | none => .error (.podClaimNotFound podClaimName)

/-- `GetPodResourceClaimStatus`. -/
def getPodResourceClaimStatus : Option PodResourceClaimStatus :=
  pod.claimStatuses.find? fun s => s.name == podClaimName

/-- `ResolveActualClaimNameForPodClaim`; `none` for a claim that has not been made yet. -/
def resolveActualClaimNameForPodClaim : Except ResolveError (Option Text) := do
  let podClaim ← findPodResourceClaim pod podClaimName
  if podClaim.resourceClaimName ≠ [] then return some podClaim.resourceClaimName
  else if podClaim.resourceClaimTemplateName ≠ [] then
    match getPodResourceClaimStatus pod podClaimName with
    | some status => if status.resourceClaimName = [] then return none else return some status.resourceClaimName
    | none => return none
  else throw (.noClaimSource pod.ns pod.name podClaimName)

def textLess (a b : Text) : Bool := decide (a < b)

/-- `sets.List`. -/
def sortedSet (l : List Text) : List Text := sortBy textLess l.dedup

theorem mem_sortedSet {l : List Text} {t : Text} : t ∈ sortedSet l ↔ t ∈ l := by
  rw [sortedSet, mem_sortBy, mem_dedup]

theorem nodup_sortedSet (l : List Text) : (sortedSet l).Nodup := nodup_sortBy (nodup_dedup l)

/-- `ResolveActualAllocatedRequestsForClaimRef`. -/
def resolveActualAllocatedRequestsForClaimRef (claimRef : ClaimRef) (allocatedVGPUReqs : List Text) : List Text :=
  if claimRef.request ≠ [] then
    if claimRef.request ∈ allocatedVGPUReqs then [claimRef.request] else []
  else sortedSet allocatedVGPUReqs

/-! ## Edges -/

/-- A container in the graph: the parts of its key, which contain no slash. -/
structure ContainerKey where
  podUID : Text
  kind : ContainerKind
  name : Text
  deriving Repr, DecidableEq

/-- `buildContainerKey`. -/
def ContainerKey.text (k : ContainerKey) : Text := k.podUID ++ '/' :: k.kind.text ++ '/' :: k.name

/-- `PartitionCandidate`. -/
structure PartitionCandidate where
  pod : Pod
  containerName : Text
  kind : ContainerKind
  deriving Repr, DecidableEq

def PartitionCandidate.key (c : PartitionCandidate) : ContainerKey := ⟨c.pod.uid, c.kind, c.containerName⟩

/-- The container as a candidate. -/
def candidate (c : ContainerRef) : PartitionCandidate := ⟨pod, c.name, c.kind⟩

end

variable (claimName : Text) (allocatedRequests : List Text)

/-- The requests of the claim that the reference is for. -/
def claimRefRequests (pod : Pod) (claimRef : ClaimRef) :
    Except ResolveError (List Text) := do
  match ← resolveActualClaimNameForPodClaim pod claimRef.name with
  | some actualClaimName =>
    if actualClaimName = claimName then
      return resolveActualAllocatedRequestsForClaimRef claimRef allocatedRequests
    else return []
  | none => return []

/-- The edges of a container. -/
def containerEdges (pod : Pod) (c : ContainerRef) :
    Except ResolveError (List (PartitionCandidate × Text)) := do
  let requests ← c.claims.mapM (claimRefRequests claimName allocatedRequests pod)
  return requests.flatten.map fun request => (candidate pod c, request)

def podEdges (pod : Pod) :
    Except ResolveError (List (PartitionCandidate × Text)) := do
  let edges ← pod.allContainers.mapM (containerEdges claimName allocatedRequests pod)
  return edges.flatten

/-- The edges of the graph, in the order in which they are found. -/
def resolveEdges (pods : List Pod) :
    Except ResolveError (List (PartitionCandidate × Text)) := do
  let edges ← pods.mapM (podEdges claimName allocatedRequests)
  return edges.flatten

/-- The container uses the request of the claim. -/
def Uses (pod : Pod) (c : ContainerRef) (request : Text) : Prop :=
  ∃ claimRef ∈ c.claims, ∃ requests, claimRefRequests claimName allocatedRequests pod claimRef = .ok requests ∧
    request ∈ requests

variable {allocated : List Text} {claimName} {request : Text} {pod : Pod} {c : ContainerRef}
  {edges : List (PartitionCandidate × Text)} {pods : List Pod} {k : ContainerKey}
  {e : PartitionCandidate × Text} {cand : PartitionCandidate}

theorem mem_of_resolveActual {claimRef : ClaimRef}
    (h : request ∈ resolveActualAllocatedRequestsForClaimRef claimRef allocated) : request ∈ allocated := by
  unfold resolveActualAllocatedRequestsForClaimRef at h
  split at h
  · split at h
    · next hin => rwa [mem_singleton.mp h]
    · cases h
  · exact mem_sortedSet.mp h

/-- What it is for a container to use a request. -/
theorem uses_iff : Uses claimName allocated pod c request ↔ ∃ claimRef ∈ c.claims,
      resolveActualClaimNameForPodClaim pod claimRef.name = .ok (some claimName) ∧
        request ∈ resolveActualAllocatedRequestsForClaimRef claimRef allocated := by
  constructor
  · intro ⟨claimRef, href, requests, hok, hmem⟩
    obtain ⟨name, hname, hok⟩ := bind_ok hok
    cases name with
    | none =>
      cases hok
      cases hmem
    | some actual =>
      dsimp only at hok
      split_ifs at hok with hactual <;> cases hok
      · exact ⟨claimRef, href, hactual ▸ hname, hmem⟩
      · cases hmem
  · intro ⟨claimRef, href, hname, hmem⟩
    refine ⟨claimRef, href, _, ?_, hmem⟩
    unfold claimRefRequests
    rw [hname]
    exact if_pos rfl

theorem Uses.mem_allocated (h : Uses claimName allocated pod c request) : request ∈ allocated := by
  obtain ⟨ref, -, -, hmem⟩ := uses_iff.mp h
  exact mem_of_resolveActual hmem

theorem mem_containerEdges (h : containerEdges claimName allocated pod c = .ok edges) (e : PartitionCandidate × Text) :
    e ∈ edges ↔ e.1 = candidate pod c ∧ Uses claimName allocated pod c e.2 := by
  obtain ⟨requests, hrequests, rfl⟩ := map_ok h
  have hmem := mem_flatten_mapM hrequests e.2
  constructor
  · intro he
    obtain ⟨r, hr, rfl⟩ := mem_map.mp he
    exact ⟨rfl, hmem.mp hr⟩
  · intro ⟨hcand, huses⟩
    exact mem_map.mpr ⟨e.2, hmem.mpr huses, by rw [← hcand]⟩

/-- **The edges are what the containers of the pods use.** -/
theorem mem_resolveEdges (h : resolveEdges claimName allocated pods = .ok edges) (e : PartitionCandidate × Text) :
    e ∈ edges ↔ ∃ pod ∈ pods, ∃ c ∈ pod.allContainers, e.1 = candidate pod c ∧ Uses claimName allocated pod c e.2 := by
  obtain ⟨perPod, hperPod, rfl⟩ := map_ok h
  rw [mem_flatten_mapM hperPod]
  refine exists_congr fun pod => and_congr_right fun hpod => ?_
  obtain ⟨podEs, hpodEs⟩ := (mem_mapM_ok hperPod).1 pod hpod
  obtain ⟨perContainer, hperContainer, rfl⟩ := map_ok hpodEs
  rw [hpodEs]
  simp only [Except.ok.injEq, exists_eq_left']
  rw [mem_flatten_mapM hperContainer]
  refine exists_congr fun c => and_congr_right fun hc => ?_
  obtain ⟨es, hes⟩ := (mem_mapM_ok hperContainer).1 c hc
  rw [hes]
  simp only [Except.ok.injEq, exists_eq_left']
  exact mem_containerEdges hes e

/-- Every claim a container refers to is one of its pod, and given by name or template. -/
def Pod.WellFormed (pod : Pod) : Prop :=
  ∀ c ∈ pod.allContainers, ∀ claimRef ∈ c.claims,
    ∃ podClaim ∈ pod.resourceClaims.find? fun p => p.name == claimRef.name,
    podClaim.resourceClaimName ≠ [] ∨ podClaim.resourceClaimTemplateName ≠ []

/-- What a reference of a pod is to can be told if it is given by name or template. -/
theorem resolveActual_ok_iff {podClaimName : Text} :
    (∃ name, resolveActualClaimNameForPodClaim pod podClaimName = .ok name) ↔
      ∃ podClaim ∈ pod.resourceClaims.find? fun p => p.name == podClaimName,
        podClaim.resourceClaimName ≠ [] ∨ podClaim.resourceClaimTemplateName ≠ [] := by
  unfold resolveActualClaimNameForPodClaim findPodResourceClaim
  cases hfind : pod.resourceClaims.find? fun p => p.name == podClaimName with
  | none => simp [bind, Except.bind]
  | some podClaim =>
    simp only [bind, Except.bind, Option.mem_def, Option.some.injEq, exists_eq_left']
    by_cases hgiven : podClaim.resourceClaimName ≠ []
    · exact ⟨fun _ => .inl hgiven, fun _ => ⟨_, if_pos hgiven⟩⟩
    rw [if_neg hgiven]
    by_cases htemplate : podClaim.resourceClaimTemplateName ≠ []
    · rw [if_pos htemplate]
      refine ⟨fun _ => .inr htemplate, fun _ => ?_⟩
      cases getPodResourceClaimStatus pod podClaimName with
      | none => exact ⟨_, rfl⟩
      | some status =>
        dsimp only
        split <;> exact ⟨_, rfl⟩
    · rw [if_neg htemplate]
      exact ⟨nofun, fun h => (h.elim hgiven htemplate).elim⟩

theorem resolveEdges_ok (h : ∀ pod ∈ pods, pod.WellFormed) :
    ∃ edges, resolveEdges claimName allocated pods = .ok edges := by
  have hlift {α β : Type} {m : Except ResolveError α} {g : α → β} (hm : ∃ a, m = .ok a) :
      ∃ b, (do let a ← m; return g a) = Except.ok b := by
    obtain ⟨a, rfl⟩ := hm
    exact ⟨g a, rfl⟩
  refine hlift (mapM_ok_of_forall fun pod hpod => hlift (mapM_ok_of_forall fun c hc =>
    hlift (mapM_ok_of_forall fun ref href => ?_)))
  obtain ⟨name, hname⟩ := resolveActual_ok_iff.mpr (h pod hpod c hc ref href)
  unfold claimRefRequests
  rw [hname]
  cases name with
  | none => exact ⟨_, rfl⟩
  | some actual =>
    simp only [bind, Except.bind]
    split <;> exact ⟨_, rfl⟩

/-! ## The graph -/

/-- A node: a container or a request (`buildRequestNode`). -/
inductive Node where
  | container (key : ContainerKey)
  | request (name : Text)
  deriving Repr, DecidableEq

def Node.text : Node → Text
  | .container key => key.text
  | .request name => "r:".toList ++ name

abbrev Graph := Node → List Node

variable {found : List Node}

def linkGraph (graph : Graph) (left right : Node) : Graph :=
  let graph := Function.update graph left ((graph left).insert right)
  Function.update graph right ((graph right).insert left)

def buildGraph (edges : List (PartitionCandidate × Text)) : Graph :=
  edges.foldl (fun graph e => linkGraph graph (.container e.1.key) (.request e.2)) fun _ => []

/-- The nodes of the graph. -/
def graphNodes (edges : List (PartitionCandidate × Text)) : List Node :=
  (edges.flatMap fun e => [.container e.1.key, .request e.2]).dedup

/-- The two ends of an edge. -/
def Joins (e : PartitionCandidate × Text) (a b : Node) : Prop :=
  (a = .container e.1.key ∧ b = .request e.2) ∨ (a = .request e.2 ∧ b = .container e.1.key)

theorem mem_linkGraph {graph : Graph} (e : PartitionCandidate × Text) (a b : Node) :
    b ∈ linkGraph graph (.container e.1.key) (.request e.2) a ↔ Joins e a b ∨ b ∈ graph a := by
  unfold linkGraph Joins
  by_cases hr : a = .request e.2 <;> by_cases hc : a = .container e.1.key <;>
    simp [hr, hc, mem_insert_iff]

/-- The neighbours in the order of their names. -/
def neighbours (edges : List (PartitionCandidate × Text)) (n : Node) : List Node :=
  sortBy (fun a b => textLess a.text b.text) (buildGraph edges n)

theorem mem_neighbours (edges : List (PartitionCandidate × Text)) (a b : Node) :
    b ∈ neighbours edges a ↔ ∃ e ∈ edges, Joins e a b := by
  have hfold : ∀ (edges : List (PartitionCandidate × Text)) (graph : Graph),
      b ∈ edges.foldl (fun graph e => linkGraph graph (.container e.1.key) (.request e.2)) graph a ↔
        (∃ e ∈ edges, Joins e a b) ∨ b ∈ graph a := by
    intro edges
    induction edges with
    | nil => simp
    | cons e edges ih =>
      intro graph
      rw [foldl_cons, ih, mem_linkGraph]
      simp only [mem_cons, exists_eq_or_imp]
      rw [or_assoc, or_left_comm]
  rw [neighbours, mem_sortBy, buildGraph, hfold]
  simp

theorem mem_graphNodes {n : Node} : n ∈ graphNodes edges ↔ ∃ e ∈ edges, n = .container e.1.key ∨ n = .request e.2 := by
  simp [graphNodes]

theorem undirected (edges : List (PartitionCandidate × Text)) :
    Undirected (neighbours edges) (graphNodes edges).toFinset where
  symm := fun a b hb => by
    rw [mem_neighbours] at hb ⊢
    obtain ⟨e, he, h⟩ := hb
    exact ⟨e, he, h.symm.imp (fun h => ⟨h.2, h.1⟩) fun h => ⟨h.2, h.1⟩⟩
  closed := fun a _ b hb => by
    obtain ⟨e, he, h⟩ := (mem_neighbours edges a b).mp hb
    rw [mem_toFinset, mem_graphNodes]
    exact ⟨e, he, h.elim (fun h => .inr h.2) fun h => .inl h.2⟩

/-! ## Partitions -/

/-- `PartitionDetail`. -/
structure PartitionDetail where
  key : Text
  containers : List ContainerKey
  requests : List Text
  deriving Repr, DecidableEq

def Node.container? : Node → Option ContainerKey
  | .container key => some key
  | .request _ => none

def Node.request? : Node → Option Text
  | .container _ => none
  | .request name => some name

/-- `buildPartitionKey`, with the hash that `shortHash` computes. -/
def buildPartitionKey (shortHash : Text → Text) (containers : List ContainerKey) (requests : List Text) : Text :=
  match containers with
  | [c] => "pod-".toList ++ shortHash c.podUID ++ '-' :: c.kind.text ++ '/' :: c.name
  | _ => "cg-".toList ++ shortHash (join ',' (containers.map ContainerKey.text) ++ '|' :: join ',' requests)

/-- What `walkPartition` makes of the nodes it found. -/
def partitionDetail (shortHash : Text → Text) (found : List Node) : PartitionDetail :=
  let containers := sortBy (fun a b => textLess a.text b.text) (found.filterMap Node.container?).dedup
  let requests := sortedSet (found.filterMap Node.request?)
  ⟨buildPartitionKey shortHash containers requests, containers, requests⟩

variable (P : Platform) {shortHash : Text → Text}

/-- The partitions, in the order in which the map of the graph is walked. -/
def partitionDetails (shortHash : Text → Text) (edges : List (PartitionCandidate × Text)) : List PartitionDetail :=
  let nodes := graphNodes edges
  let fuel := 1 + (nodes.map fun n => (neighbours edges n).length).sum
  ((components (neighbours edges) fuel (P.mapOrder nodes) []).map (partitionDetail shortHash)).filter
    fun d => !d.requests.isEmpty

theorem mem_containers : k ∈ (partitionDetail shortHash found).containers ↔ .container k ∈ found := by
  have hnode (n : Node) : n.container? = some k ↔ n = .container k := by cases n <;> simp [Node.container?]
  simp only [partitionDetail, mem_sortBy, mem_dedup, mem_filterMap, hnode, exists_eq_right]

theorem mem_requests {r : Text} : r ∈ (partitionDetail shortHash found).requests ↔ .request r ∈ found := by
  have hnode (n : Node) : n.request? = some r ↔ n = .request r := by cases n <;> simp [Node.request?]
  simp only [partitionDetail, mem_sortedSet, mem_filterMap, hnode, exists_eq_right]

/-- A node is in the partition. -/
def PartitionDetail.has (d : PartitionDetail) : Node → Prop
  | .container k => k ∈ d.containers
  | .request r => r ∈ d.requests

theorem has_partitionDetail {n : Node} : (partitionDetail shortHash found).has n ↔ n ∈ found := by
  cases n with
  | container k => exact mem_containers
  | request r => exact mem_requests

/-- Nodes are linked through the edges. -/
def Linked (edges : List (PartitionCandidate × Text)) : Node → Node → Prop := Connected (neighbours edges)

instance (edges : List (PartitionCandidate × Text)) : Trans (Linked edges) (Linked edges) (Linked edges) :=
  ⟨Relation.ReflTransGen.trans⟩

theorem components_of_edges (edges : List (PartitionCandidate × Text)) :
    (∀ c ∈ components (neighbours edges) (1 + ((graphNodes edges).map fun n => (neighbours edges n).length).sum)
        (P.mapOrder (graphNodes edges)) [], ∀ a ∈ c, a ∈ graphNodes edges ∧ ∀ m, m ∈ c ↔ Linked edges a m) ∧
      ∀ n ∈ graphNodes edges, ∃ c ∈ components (neighbours edges)
        (1 + ((graphNodes edges).map fun n => (neighbours edges n).length).sum) (P.mapOrder (graphNodes edges)) [],
        n ∈ c := by
  have hfuel : enoughFuel (neighbours edges) (graphNodes edges).toFinset ≤
      1 + ((graphNodes edges).map fun n => (neighbours edges n).length).sum := by
    have hnodup : (graphNodes edges).Nodup := nodup_dedup _
    rw [enoughFuel, sum_toFinset _ hnodup]
  have hnodes : ∀ n ∈ P.mapOrder (graphNodes edges), n ∈ (graphNodes edges).toFinset := fun n hn =>
    mem_toFinset.mpr (P.mem_mapOrder.mp hn)
  have hnone : ∀ a ∈ ([] : List Node), ∀ b ∈ neighbours edges a, b ∈ ([] : List Node) := nofun
  refine ⟨fun c hc a ha => ?_, fun n hn => ?_⟩
  · rw [← mem_toFinset]
    exact components_classes (undirected edges) hfuel hnone hnodes c hc a ha
  · exact (components_cover (undirected edges) hfuel hnone hnodes n (P.mem_mapOrder.mpr hn)).resolve_left
      not_mem_nil

/-- **Partitions are classes** of linked containers and requests. -/
theorem details_classes {P : Platform}
    {d : PartitionDetail} (hd : d ∈ partitionDetails P shortHash edges) {a : Node} (ha : d.has a) :
    a ∈ graphNodes edges ∧ ∀ m, d.has m ↔ Linked edges a m := by
  obtain ⟨hd, -⟩ := mem_filter.mp hd
  obtain ⟨c, hc, rfl⟩ := mem_map.mp hd
  rw [has_partitionDetail] at ha
  obtain ⟨hnode, hclass⟩ := (components_of_edges P edges).1 c hc a ha
  refine ⟨hnode, fun m => ?_⟩
  rw [has_partitionDetail]
  exact hclass m

/-- **Every container and request is in a partition.** -/
theorem details_cover (shortHash : Text → Text) (he : e ∈ edges) :
    ∃ d ∈ partitionDetails P shortHash edges, d.has (.container e.1.key) ∧ d.has (.request e.2) := by
  obtain ⟨hclasses, hcover⟩ := components_of_edges P edges
  obtain ⟨c, hc, hin⟩ := hcover (.container e.1.key) (mem_graphNodes.mpr ⟨e, he, .inl rfl⟩)
  have hedge : Linked edges (.container e.1.key) (.request e.2) :=
    .single ((mem_neighbours edges _ _).mpr ⟨e, he, .inl ⟨rfl, rfl⟩⟩)
  have hreq := ((hclasses c hc _ hin).2 (.request e.2)).mpr hedge
  refine ⟨partitionDetail shortHash c, mem_filter.mpr ⟨mem_map_of_mem hc, ?_⟩,
    has_partitionDetail.mpr hin, has_partitionDetail.mpr hreq⟩
  have hmem : e.2 ∈ (partitionDetail shortHash c).requests := mem_requests.mpr hreq
  simpa using ne_nil_of_mem hmem

/-! ## What is resolved -/

/-- `PartitionInfo`. -/
structure PartitionInfo where
  requestToPartition : AList fun _ : Text => Text
  partitions : AList fun _ : Text => PartitionDetail
  candidatesByKey : AList fun _ : Text => List PartitionCandidate
  fallback : Bool

/-- `appendUniqueCandidate`. -/
def appendUniqueCandidate (list : List PartitionCandidate) (cand : PartitionCandidate) : List PartitionCandidate :=
  if list.any fun c => c.pod.uid == cand.pod.uid && c.containerName == cand.containerName then list
  else list ++ [cand]

/-- The candidates under a key. -/
def PartitionInfo.candidates (info : PartitionInfo) (key : Text) : List PartitionCandidate :=
  (info.candidatesByKey.lookup key).getD []

def PartitionInfo.addCandidate (info : PartitionInfo) (key : Text) (cand : PartitionCandidate) : PartitionInfo :=
  { info with
    candidatesByKey := info.candidatesByKey.insert key (appendUniqueCandidate (info.candidates key) cand) }

/-- The candidates of each request. -/
def edgeInfo (edges : List (PartitionCandidate × Text)) : PartitionInfo :=
  edges.foldl (fun info e => info.addCandidate e.2 e.1) ⟨∅, ∅, ∅, false⟩

/-- `containerCands`. -/
def containerCands (edges : List (PartitionCandidate × Text)) : AList fun _ : ContainerKey => PartitionCandidate :=
  edges.foldl (fun cands e => cands.insert e.1.key e.1) ∅

variable (cands : AList fun _ : ContainerKey => PartitionCandidate)

/-- The container is recorded as a candidate of the partition. -/
def PartitionInfo.addContainer (key : Text) (info : PartitionInfo) (ck : ContainerKey) : PartitionInfo :=
  match cands.lookup ck with
  | some cand => info.addCandidate key cand
  | none => info

/-- What is recorded of a partition. -/
def PartitionInfo.addPartition (info : PartitionInfo) (partition : PartitionDetail) : PartitionInfo :=
  let info := { info with
    partitions := info.partitions.insert partition.key partition
    requestToPartition := partition.requests.foldl (fun m r => m.insert r partition.key) info.requestToPartition }
  partition.containers.foldl (PartitionInfo.addContainer cands partition.key) info

section

variable (shortHash)

/-- What is resolved from the edges. -/
def resolveFromEdges (edges : List (PartitionCandidate × Text)) : PartitionInfo :=
  if edges.isEmpty then { edgeInfo edges with fallback := true }
  else
    let info := (partitionDetails P shortHash edges).foldl (PartitionInfo.addPartition (containerCands edges))
      (edgeInfo edges)
    if info.requestToPartition.entries.isEmpty then { info with fallback := true } else info

/-- What a read finds. -/
inductive Lookup (α : Type) where
  | found (a : α)
  | notFound
  | failed
  deriving Repr

/-- An entry of `ReservedFor`. -/
structure ConsumerRef where
  apiGroup : Text
  resource : Text
  name : Text
  uid : Text
  deriving Repr, DecidableEq

/-- What can be read of pods. -/
abbrev PodReader := Text → Text → Lookup Pod

/-- `GetReservedPods`, of a claim in the namespace. -/
def getReservedPods (reader : PodReader) (ns : Text) : List ConsumerRef → Except ResolveError (List Pod)
  | [] => .ok []
  | ref :: refs =>
    if ref.apiGroup ≠ [] ∨ ref.resource ≠ "pods".toList then getReservedPods reader ns refs
    else
      match reader ns ref.name with
      | .notFound => getReservedPods reader ns refs
      | .failed => .error .readerFailed
      | .found pod =>
        if ref.uid ≠ [] ∧ pod.uid ≠ ref.uid then getReservedPods reader ns refs
        else do return pod :: (← getReservedPods reader ns refs)

/-- What is asked of a device: its class, and the CEL expressions of its selectors. -/
structure Ask where
  deviceClassName : Text
  selectors : List Text
  deriving Repr, DecidableEq

/-- `DeviceRequest`: one thing exactly, or the first available of some. -/
structure DeviceRequest where
  name : Text
  exactly : Option Ask
  firstAvailable : List (Text × Ask)
  deriving Repr, DecidableEq

structure AllocationResult where
  request : Text
  driver : Text
  device : Text
  deriving Repr, DecidableEq

structure ResourceClaim where
  ns : Text
  name : Text
  uid : Text
  annotations : List (Text × Text)
  requests : List DeviceRequest
  allocation : Option (List AllocationResult)
  reservedFor : List ConsumerRef
  deriving Repr, DecidableEq

/-- `util.DRADriverName`. -/
def draDriverName : Text := "manager.nvidia.com".toList

/-- `AllocatedResultMeta`. -/
structure AllocatedResultMeta where
  mainRequest : Text
  isVGPU : Bool
  deriving Repr, DecidableEq

/-- `BuildAllocatedResultIndex`, where `isVGPU` classifies what is asked for. -/
def buildAllocatedResultIndex (isVGPU : Ask → Bool) (claim : ResourceClaim) :
    AList fun _ : Text => AllocatedResultMeta :=
  claim.requests.foldl (fun index req =>
    match req.exactly with
    | some ask => index.insert req.name ⟨req.name, isVGPU ask⟩
    | none => req.firstAvailable.foldl (fun index subReq =>
      index.insert (req.name ++ '/' :: subReq.1) ⟨req.name, isVGPU subReq.2⟩) index) ∅

/-- `GetAllocatedVGPURequests`, of the results of this driver. -/
def getAllocatedVGPURequests (isVGPU : Ask → Bool) (claim : ResourceClaim) : List Text :=
  let index := buildAllocatedResultIndex isVGPU claim
  let ours := (claim.allocation.getD []).filter fun result => result.driver == draDriverName
  (ours.filterMap fun result =>
    match index.lookup result.request with
    | some found => if found.isVGPU then some found.mainRequest else none
    | none => none).dedup

/-- The rest of the resolution, for the pods that hold the claim. -/
def resolveForPods (claimName : Text) (allocatedRequests : List Text)
    (reservedPods : List Pod) : Except ResolveError PartitionInfo :=
  if reservedPods.isEmpty then .ok ⟨∅, ∅, ∅, true⟩
  else do
    let edges ← resolveEdges claimName allocatedRequests reservedPods
    return resolveFromEdges P shortHash edges

/-- `ResolveClaimVGPUPartitionsFromAllocatedRequests`. -/
def resolveClaimVGPUPartitionsFromAllocatedRequests (reader : PodReader)
    (claim : ResourceClaim) (allocatedRequests : List Text) : Except ResolveError PartitionInfo :=
  if allocatedRequests.isEmpty then .ok ⟨∅, ∅, ∅, false⟩
  else do
    let reservedPods ← getReservedPods reader claim.ns claim.reservedFor
    resolveForPods P shortHash claim.name allocatedRequests reservedPods

/-- Where there are edges, the resolution is that of the edges. -/
theorem resolve_of_edges {reader : PodReader} {claim : ResourceClaim}
    (hpods : getReservedPods reader claim.ns claim.reservedFor = .ok pods)
    (hedges : resolveEdges claim.name allocated pods = .ok edges) (he : e ∈ edges) :
    allocated.isEmpty = false ∧ resolveClaimVGPUPartitionsFromAllocatedRequests P shortHash reader claim allocated =
      .ok (resolveFromEdges P shortHash edges) := by
  obtain ⟨pod, hpod, c, -, -, huses⟩ := (mem_resolveEdges hedges e).mp he
  have hallocated : allocated.isEmpty = false := by simpa using ne_nil_of_mem huses.mem_allocated
  have hnonempty : pods.isEmpty = false := by simpa using ne_nil_of_mem hpod
  refine ⟨hallocated, ?_⟩
  unfold resolveClaimVGPUPartitionsFromAllocatedRequests resolveForPods
  simp only [hallocated, hpods, hnonempty, hedges, bind, Except.bind, Bool.false_eq_true, if_false]
  rfl

end

/-! ## Candidates -/

/-- The container is among the candidates. -/
def Among (list : List PartitionCandidate) (k : ContainerKey) : Prop :=
  ∃ c ∈ list, c.pod.uid = k.podUID ∧ c.containerName = k.name

theorem among_appendUnique {list : List PartitionCandidate}
    (h : Among list k ∨ cand.key = k) : Among (appendUniqueCandidate list cand) k := by
  unfold appendUniqueCandidate
  split
  · next hany =>
    rcases h with h | rfl
    · exact h
    · obtain ⟨c, hc, hsame⟩ := any_eq_true.mp hany
      simp only [Bool.and_eq_true, beq_iff_eq] at hsame
      exact ⟨c, hc, hsame⟩
  · rcases h with ⟨c, hc, hsame⟩ | rfl
    · exact ⟨c, mem_append_left _ hc, hsame⟩
    · exact ⟨cand, mem_append_right _ (.head _), rfl, rfl⟩

theorem among_addCandidate {info : PartitionInfo} {key key' : Text}
    (h : Among (info.candidates key') k ∨ (key' = key ∧ cand.key = k)) :
    Among ((info.addCandidate key cand).candidates key') k := by
  unfold PartitionInfo.addCandidate
  by_cases hkey : key' = key
  · subst hkey
    rw [PartitionInfo.candidates, AList.lookup_insert]
    exact among_appendUnique (h.imp id fun h => h.2)
  · rw [PartitionInfo.candidates, AList.lookup_insert_ne hkey]
    exact h.resolve_right fun h => hkey h.1

/-- A container of an edge has a candidate of its own. -/
theorem lookup_containerCands (he : e ∈ edges) : ∃ cand,
    (containerCands edges).lookup e.1.key = some cand ∧ cand.key = e.1.key := by
  unfold containerCands
  refine foldl_sets (Q := fun cands : AList fun _ : ContainerKey => PartitionCandidate => ∃ cand,
    cands.lookup e.1.key = some cand ∧ cand.key = e.1.key) he (fun cands => ?_) (fun cands x h => ?_) ∅
  · exact ⟨e.1, AList.lookup_insert _, rfl⟩
  · by_cases hk : e.1.key = x.1.key
    · exact ⟨x.1, hk ▸ AList.lookup_insert _, hk.symm⟩
    · rwa [AList.lookup_insert_ne hk]

theorem among_addPartition {cands : AList fun _ : ContainerKey => PartitionCandidate} {info : PartitionInfo}
    {partition : PartitionDetail} {key : Text} (h : Among (info.candidates key) k ∨
      (key = partition.key ∧ k ∈ partition.containers ∧ ∃ cand, cands.lookup k = some cand ∧ cand.key = k)) :
    Among ((info.addPartition cands partition).candidates key) k := by
  have hkeep (info : PartitionInfo) (ck : ContainerKey) (h : Among (info.candidates key) k) :
      Among ((info.addContainer cands partition.key ck).candidates key) k := by
    unfold PartitionInfo.addContainer
    cases cands.lookup ck with
    | none => exact h
    | some c => exact among_addCandidate (.inl h)
  unfold PartitionInfo.addPartition
  rcases h with h | ⟨hkey, hmem, cand, hcand, hk⟩
  · refine foldlRecOn (motive := fun info => Among (info.candidates key) k) partition.containers _ ?_
      fun info hinfo ck _ => hkeep info ck hinfo
    exact h
  · refine foldl_sets (Q := fun info : PartitionInfo => Among (info.candidates key) k) hmem (fun info => ?_) hkeep _
    rw [PartitionInfo.addContainer, hcand]
    exact among_addCandidate (.inr ⟨hkey, hk⟩)

/-- **The containers of a partition are candidates under its key.** -/
theorem among_resolveFromEdges {P : Platform}
    {d : PartitionDetail} (hd : d ∈ partitionDetails P shortHash edges) (hk : k ∈ d.containers) (he : e ∈ edges)
    (hkey : e.1.key = k) : Among ((resolveFromEdges P shortHash edges).candidates d.key) k := by
  obtain ⟨cand, hcand, hcandKey⟩ := lookup_containerCands he
  rw [hkey] at hcand hcandKey
  have hresult := foldl_sets (Q := fun info : PartitionInfo => Among (info.candidates d.key) k) hd
    (fun _ => among_addPartition (.inr ⟨rfl, hk, cand, hcand, hcandKey⟩))
    (fun _ _ h => among_addPartition (.inl h)) (edgeInfo edges)
  have hne : edges.isEmpty = false := by simpa using ne_nil_of_mem he
  unfold resolveFromEdges
  rw [hne]
  dsimp only
  split
  · next h => cases h
  · split <;> exact hresult

end VGpuManager.ClaimResolve

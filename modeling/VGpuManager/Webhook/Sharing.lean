import VGpuManager.Webhook.Requests

/-!
# Partitions of accepted claims

The webhooks compare the containers of one request; a partition is a component of containers and requests. What
they accept (`SharedWell`) keeps a partition inside one pod (`pod_of_linked`) and leaves a sidecar alone in
its partition (`sidecar_of_linked`). Init containers run one after the other, so two containers of a
partition can only run at the same time if both are app containers, and no request is shared by two of those.

But a chain of init containers can link them, because init containers may share requests among themselves
(`linked_apps_accepted`).
-/

namespace VGpuManager.ClaimResolve.Webhook

open Foundation List

/-! ## What is recorded stays -/

variable {c c' : ContainerRef} {claim : ResourceClaim} {mainReq request : Text} {pod p : Pod} {r : Reader}
  {pods : List Pod} {allocated : List Text} {refs : List ConsumerRef} {P : Platform} {key : RequestKey} {s t : Usages}
  {infos : List ResourceInfo}

section Usage

variable {ι : Type}

/-- The container is among those of its class. -/
def Usage.Holds (c : ContainerRef) (id : ι) (u : Usage ι) : Prop :=
  if c.restartable then id ∈ u.sidecars
  else
    match c.kind with
    | .init => id ∈ u.initContainers
    | .app => id ∈ u.appContainers

/-- Everything that is in the one usage is in the other. -/
structure Usage.Within (u u' : Usage ι) : Prop where
  initContainers : u.initContainers ⊆ u'.initContainers
  appContainers : u.appContainers ⊆ u'.appContainers
  sidecars : u.sidecars ⊆ u'.sidecars

theorem Usage.Within.refl (u : Usage ι) : u.Within u := ⟨List.Subset.refl _, List.Subset.refl _, List.Subset.refl _⟩

variable {u : Usage ι}

theorem Usage.Within.trans {v w : Usage ι} (h : u.Within v) (h' : v.Within w) : u.Within w :=
  ⟨fun _ hid => h'.initContainers (h.initContainers hid), fun _ hid => h'.appContainers (h.appContainers hid),
    fun _ hid => h'.sidecars (h.sidecars hid)⟩

theorem subset_insert [BEq ι] [LawfulBEq ι] (id : ι) (l : List ι) : l ⊆ l.insert id := fun _ => mem_insert_of_mem

theorem Usage.Holds.mono {id : ι} {u' : Usage ι} (hsub : u.Within u') (h : u.Holds c id) : u'.Holds c id := by
  unfold Usage.Holds at h ⊢
  split
  · next hc => exact hsub.sidecars (by rwa [if_pos hc] at h)
  · next hc =>
    rw [if_neg hc] at h
    cases hkind : c.kind with
    | init => exact hsub.initContainers (by rwa [hkind] at h)
    | app => exact hsub.appContainers (by rwa [hkind] at h)

theorem eq_of_mem_short {l : List ι} (h : l.length ≤ 1) {a b : ι} (ha : a ∈ l) (hb : b ∈ l) : a = b := by
  match l with
  | [] => cases ha
  | [x] => rw [mem_singleton.mp ha, mem_singleton.mp hb]
  | _ :: _ :: _ => simp at h

theorem Usage.conflict_none (h : u.conflict = none) : u.appContainers.length ≤ 1 ∧ u.sidecars.length ≤ 1 ∧
      (u.sidecars ≠ [] → u.initContainers = [] ∧ u.appContainers = []) := by
  unfold Usage.conflict at h
  split_ifs at h with happs hsidecars hothers
  refine ⟨by omega, by omega, fun hne => ?_⟩
  have hpos := length_pos_iff.mpr hne
  exact ⟨length_eq_zero_iff.mp (by omega), length_eq_zero_iff.mp (by omega)⟩

/-- **What the matrix lets share:** app containers are one, and a sidecar is alone. -/
theorem Usage.compatible (h : u.conflict = none) {id id' : ι} (hc : u.Holds c id) (hc' : u.Holds c' id') :
    (c.restartable = false → c'.restartable = false → c.kind = .app → c'.kind = .app → id = id') ∧
      (c.restartable = true → c'.restartable = true ∧ id = id') := by
  obtain ⟨happs, hsidecars, halone⟩ := Usage.conflict_none h
  unfold Usage.Holds at hc hc'
  refine ⟨fun hr hr' hk hk' => ?_, fun hr => ?_⟩
  · simp only [hr, hr', hk, hk', Bool.false_eq_true, if_false] at hc hc'
    exact eq_of_mem_short happs hc hc'
  · rw [if_pos hr] at hc
    obtain ⟨hinits, happs⟩ := halone (ne_nil_of_mem hc)
    split at hc'
    · next hr' => exact ⟨hr', eq_of_mem_short hsidecars hc hc'⟩
    · rw [hinits, happs] at hc'
      cases hkind : c'.kind <;> rw [hkind] at hc' <;> cases hc'

variable [DecidableEq ι]

theorem Usage.within_add (c : ContainerRef) (id : ι) (u : Usage ι) : u.Within (u.add c id) := by
  have hrefl := Usage.Within.refl u
  unfold Usage.add
  split
  · exact { hrefl with sidecars := subset_insert id _ }
  · split
    · exact { hrefl with initContainers := subset_insert id _ }
    · exact { hrefl with appContainers := subset_insert id _ }

theorem Usage.holds_add (c : ContainerRef) (id : ι) (u : Usage ι) : (u.add c id).Holds c id := by
  unfold Usage.add Usage.Holds
  split
  · exact mem_insert_self
  · cases c.kind <;> exact mem_insert_self

end Usage

/-! ## What the claim webhook accepts -/

/-- The use by these containers is accepted. -/
def ActualRequestUsage.Fine (u : ActualRequestUsage) : Prop := u.containers.conflict = none ∧ u.pods.length ≤ 1

theorem refuse_eq_none {u : ActualRequestUsage} : u.refuse claim mainReq = none ↔ u.Fine := by
  unfold ActualRequestUsage.refuse ActualRequestUsage.Fine
  cases u.containers.conflict with
  | some _ | none => simp

/-- Usages grow, and what is accepted stays so. -/
structure ActualRequestUsage.Le (u u' : ActualRequestUsage) : Prop where
  pods : u.pods ⊆ u'.pods
  containers : u.containers.Within u'.containers
  fine : u.Fine → u'.Fine

theorem ActualRequestUsage.Le.refl (u : ActualRequestUsage) : u.Le u := ⟨List.Subset.refl _, .refl _, id⟩

theorem ActualRequestUsage.Le.trans {u v w : ActualRequestUsage} (h : u.Le v) (h' : v.Le w) : u.Le w :=
  ⟨fun _ hp => h'.pods (h.pods hp), h.containers.trans h'.containers, fun hu => h'.fine (h.fine hu)⟩

/-- The use of the request is recorded, and accepted. -/
structure Recorded (pod : Pod) (c : ContainerRef) (mainReq : Text) (usages : ActualUsages) : Prop where
  pod_mem : (pod.ns, pod.name) ∈ (entry .empty usages mainReq).pods
  holds : (entry .empty usages mainReq).containers.Holds c ⟨pod.ns, pod.name, c.name⟩
  fine : (entry .empty usages mainReq).Fine

abbrev ActualGrows : ActualUsages → ActualUsages → Prop := Grows ActualRequestUsage.empty ActualRequestUsage.Le

theorem ActualGrows.refl (s : ActualUsages) : ActualGrows s s := fun _ => .refl _

theorem ActualGrows.trans (s t u : ActualUsages) (h : ActualGrows s t) (h' : ActualGrows t u) : ActualGrows s u :=
  fun k => (h k).trans (h' k)

theorem Recorded.mono {s t : ActualUsages} (hgrows : ActualGrows s t)
    (h : Recorded pod c mainReq s) : Recorded pod c mainReq t :=
  ⟨(hgrows mainReq).pods h.pod_mem, h.holds.mono (hgrows mainReq).containers, (hgrows mainReq).fine h.fine⟩

theorem useAllocated_records {s t : ActualUsages} (h : useAllocated claim pod c s mainReq = .ok t) :
    ActualGrows s t ∧ Recorded pod c mainReq t := by
  have hadd : ∀ u : ActualRequestUsage, (u.add pod c).refuse claim mainReq = none → u.Le (u.add pod c) :=
    fun u hu => ⟨subset_insert _ _, Usage.within_add _ _ _, fun _ => refuse_eq_none.mp hu⟩
  obtain ⟨hgrows, hrefuse, hentry⟩ := updateEntry_grows ActualRequestUsage.Le.refl hadd h
  refine ⟨hgrows, ?_, ?_, refuse_eq_none.mp hrefuse⟩
  · rw [hentry]
    exact mem_insert_self
  · rw [hentry]
    exact Usage.holds_add _ _ _

/-- A reference of the container hits the request of the claim. -/
def Reader.Hit (r : Reader) (claim : ResourceClaim) (pod : Pod) (c : ContainerRef) (mainReq : Text) : Prop :=
  ∃ claimRef ∈ c.claims, ∃ hits, r.claimRefHits claim pod claimRef = .ok hits ∧ (claim.uid, mainReq) ∈ hits

theorem validateContainer_records {s t : ActualUsages} (h : r.validateContainer claim pod s c = .ok t) :
    ActualGrows s t ∧ ∀ mainReq, r.Hit claim pod c mainReq → Recorded pod c mainReq t := by
  obtain ⟨hits, hhits, h⟩ := bind_ok h
  dsimp only at h
  split at h
  · cases h
  · obtain ⟨hgrows, hrecorded⟩ := foldlM_records ActualGrows.refl ActualGrows.trans
      (fun mainReq t => Recorded pod c mainReq t) (fun _ _ _ hst => Recorded.mono hst)
      (fun _ _ _ _ => useAllocated_records) h
    refine ⟨hgrows, fun mainReq hhit => hrecorded mainReq (mem_sortedSet.mpr ?_)⟩
    have hmem : (claim.uid, mainReq) ∈ hits.flatten := (mem_flatten_mapM hhits _).mpr hhit
    exact mem_map.mpr ⟨_, mem_filter.mpr ⟨hmem, by simp⟩, rfl⟩

theorem validateOneReservedPod_records {s t : ActualUsages} (h : r.validateOneReservedPod claim s pod = .ok t) :
    ActualGrows s t ∧ ∀ c ∈ pod.allContainers, ∀ mainReq, r.Hit claim pod c mainReq → Recorded pod c mainReq t :=
  foldlM_records ActualGrows.refl ActualGrows.trans
    (fun c t => ∀ mainReq, r.Hit claim pod c mainReq → Recorded pod c mainReq t)
    (fun _ _ _ hst hall mainReq hhit => (hall mainReq hhit).mono hst) (fun _ _ _ _ => validateContainer_records) h

theorem accepted_of_no_vgpu (hnone : r.allocatedVGPURequests claim = []) :
    r.validateAllocatedVGPUSharing claim = .ok () :=
  if_pos (.inr (isEmpty_iff.mpr hnone))

/-- Where vGPUs are allocated, the answer is that of the loop over the pods. -/
theorem accepted_iff_loop (hpods : getReservedPods r.pod claim.ns claim.reservedFor = .ok pods)
    (hne : r.allocatedVGPURequests claim ≠ []) : r.validateAllocatedVGPUSharing claim = .ok () ↔
      ∃ usages, pods.foldlM (r.validateOneReservedPod claim) ∅ = .ok usages := by
  have hsome : ¬ (claim.allocation.isNone = true ∨ (r.allocatedVGPURequests claim).isEmpty = true) := by
    rintro (hnone | hempty)
    · refine hne ?_
      unfold Reader.allocatedVGPURequests getAllocatedVGPURequests
      rw [Option.isNone_iff_eq_none.mp hnone]
      rfl
    · exact hne (isEmpty_iff.mp hempty)
  unfold Reader.validateAllocatedVGPUSharing
  rw [if_neg hsome, hpods]
  refine ⟨fun h => ?_, fun ⟨usages, husages⟩ => ?_⟩
  · obtain ⟨reserved, hreserved, h⟩ := bind_ok h
    cases hreserved
    obtain ⟨usages, husages, -⟩ := bind_ok h
    exact ⟨usages, husages⟩
  · simp only [Except.mapError, bind, Except.bind, husages]
    rfl

/-- **A claim that is accepted** has every use of its requests recorded and accepted. -/
theorem accepted_records (hpods : getReservedPods r.pod claim.ns claim.reservedFor = .ok pods)
    (h : r.validateAllocatedVGPUSharing claim = .ok ()) (hne : r.allocatedVGPURequests claim ≠ []) :
    ∃ usages, ∀ pod ∈ pods, ∀ c ∈ pod.allContainers, ∀ mainReq, r.Hit claim pod c mainReq →
      Recorded pod c mainReq usages := by
  obtain ⟨usages, husages⟩ := (accepted_iff_loop hpods hne).mp h
  exact ⟨usages, (foldlM_records ActualGrows.refl ActualGrows.trans
    (fun pod t => ∀ c ∈ pod.allContainers, ∀ mainReq, r.Hit claim pod c mainReq → Recorded pod c mainReq t)
    (fun _ _ _ hst hall c hc mainReq hhit => (hall c hc mainReq hhit).mono hst)
    (fun _ _ _ _ => validateOneReservedPod_records) husages).2⟩

theorem resolveActual_mono {claimRef : ClaimRef} {allocated' : List Text} (hsub : allocated ⊆ allocated')
    (h : request ∈ resolveActualAllocatedRequestsForClaimRef claimRef allocated) :
    request ∈ resolveActualAllocatedRequestsForClaimRef claimRef allocated' := by
  have hin : request ∈ allocated' := hsub (mem_of_resolveActual h)
  unfold resolveActualAllocatedRequestsForClaimRef at h ⊢
  split
  · next hnamed =>
    rw [if_pos hnamed] at h
    split at h
    · rw [mem_singleton] at h
      subst h
      rw [if_pos hin]
      exact mem_singleton_self _
    · cases h
  · exact mem_sortedSet.mpr hin

/-- What makes an edge of the graph is seen by the webhook. -/
theorem hit_of_uses (hallocated : allocated ⊆ r.allocatedVGPURequests claim) (hns : pod.ns = claim.ns)
    (h : Uses claim.name allocated pod c request) : r.Hit claim pod c request := by
  obtain ⟨claimRef, hclaimRef, hname, hactual⟩ := uses_iff.mp h
  refine ⟨claimRef, hclaimRef, _, ?_, mem_map_of_mem (resolveActual_mono hallocated hactual)⟩
  have hclaim : r.getClaimCached claim pod.ns claim.name = .found claim := if_pos ⟨hns, rfl⟩
  unfold Reader.claimRefHits
  rw [hname]
  simp only [Except.mapError, bind, Except.bind, hclaim]
  rfl

/-- A reader finds the pod that it was asked for. -/
def Honest (reader : PodReader) : Prop :=
  ∀ ns name pod, reader ns name = .found pod → pod.ns = ns ∧ pod.name = name

theorem found_of_reserved {reader : PodReader} (hreader : Honest reader) {ns : Text}
    (h : getReservedPods reader ns refs = .ok pods) (hpod : pod ∈ pods) :
    pod.ns = ns ∧ reader ns pod.name = .found pod := by
  induction refs generalizing pods with
  | nil =>
    cases h
    cases hpod
  | cons ref refs ih =>
    unfold getReservedPods at h
    split at h
    · exact ih h hpod
    · split at h
      · exact ih h hpod
      · cases h
      · next found hfound =>
        split at h
        · exact ih h hpod
        · obtain ⟨rest, hrest, rfl⟩ := map_ok h
          rcases mem_cons.mp hpod with rfl | hpod
          · obtain ⟨hns, hname⟩ := hreader _ _ _ hfound
            exact ⟨hns, by rw [hname]; exact hfound⟩
          · exact ih hrest hpod

/-- Pods that hold a claim are told apart by their names. -/
theorem eq_of_reserved {reader : PodReader} (hreader : Honest reader) {ns : Text}
    (h : getReservedPods reader ns refs = .ok pods) : ∀ p ∈ pods, ∀ q ∈ pods, p.name = q.name → p = q := by
  intro p hp q hq hname
  have hfound := (found_of_reserved hreader h hp).2
  rw [hname, (found_of_reserved hreader h hq).2] at hfound
  cases hfound
  rfl

/-- Pods are told apart by their UIDs, and containers of a pod by their names. -/
structure ValidPods (pods : List Pod) : Prop where
  uids : ∀ p ∈ pods, ∀ q ∈ pods, p.uid = q.uid → p = q
  names : ∀ p ∈ pods, (p.allContainers.map ContainerRef.name).Nodup

/-- **Shared well:** a request is used in one pod only, by one app container, and by nothing beside a sidecar. -/
structure SharedWell (claimName : Text) (allocated : List Text) (pods : List Pod) : Prop where
  pod : ∀ p ∈ pods, ∀ c ∈ p.allContainers, ∀ q ∈ pods, ∀ c' ∈ q.allContainers, ∀ request,
    Uses claimName allocated p c request → Uses claimName allocated q c' request → p = q
  app : ∀ p ∈ pods, ∀ c ∈ p.allContainers, ∀ c' ∈ p.allContainers, ∀ request, c.kind = .app → c'.kind = .app →
    Uses claimName allocated p c request → Uses claimName allocated p c' request → c.name = c'.name
  sidecar : ∀ p ∈ pods, ∀ c ∈ p.allContainers, ∀ c' ∈ p.allContainers, ∀ request, c.restartable = true →
    Uses claimName allocated p c request → Uses claimName allocated p c' request → c.name = c'.name

theorem restartable_of_app (hc : c ∈ pod.allContainers) (happ : c.kind = .app) : c.restartable = false := by
  rcases mem_append.mp hc with hinit | happ
  · obtain ⟨x, -, rfl⟩ := mem_map.mp hinit
    cases happ
  · obtain ⟨x, -, rfl⟩ := mem_map.mp happ
    rfl

/-- **What the claim webhook accepts is shared well.** -/
theorem sharedWell_of_accepted (hreader : Honest r.pod)
    (hpods : getReservedPods r.pod claim.ns claim.reservedFor = .ok pods)
    (haccepted : r.validateAllocatedVGPUSharing claim = .ok ())
    (hallocated : allocated ⊆ r.allocatedVGPURequests claim) : SharedWell claim.name allocated pods := by
  by_cases hne : r.allocatedVGPURequests claim = []
  · -- Nothing is allocated, so nothing is used.
    have hnone : ∀ {pod c request}, ¬ Uses claim.name allocated pod c request := fun huses => by
      simpa [hne] using hallocated huses.mem_allocated
    constructor <;> intros <;> exact absurd ‹_› hnone
  · obtain ⟨usages, hrecorded⟩ := accepted_records hpods haccepted hne
    have huse : ∀ p ∈ pods, ∀ c ∈ p.allContainers, ∀ request, Uses claim.name allocated p c request →
        Recorded p c request usages := fun p hp c hc request huses =>
      hrecorded p hp c hc request (hit_of_uses hallocated (found_of_reserved hreader hpods hp).1 huses)
    refine ⟨fun p hp c hc q hq c' hc' request h h' => ?_, fun p hp c hc c' hc' request happ happ' h h' => ?_,
      fun p hp c hc c' hc' request hside h h' => ?_⟩
    · have hrec := huse p hp c hc request h
      have hid := eq_of_mem_short hrec.fine.2 hrec.pod_mem (huse q hq c' hc' request h').pod_mem
      exact eq_of_reserved hreader hpods p hp q hq (congrArg Prod.snd hid)
    · have hrec := huse p hp c hc request h
      have hid := (Usage.compatible hrec.fine.1 hrec.holds (huse p hp c' hc' request h').holds).1
        (restartable_of_app hc happ) (restartable_of_app hc' happ') happ happ'
      exact congrArg ContainerID.containerName hid
    · have hrec := huse p hp c hc request h
      have hid := ((Usage.compatible hrec.fine.1 hrec.holds (huse p hp c' hc' request h').holds).2 hside).2
      exact congrArg ContainerID.containerName hid

/-! ## Containers that run at the same time -/

/-- The first container can be running when the second one is: they are in different pods, or the first comes
earlier in its pod and runs on, as an app container or a sidecar does. -/
def RunsBeside (p : Pod) (c : ContainerRef) (q : Pod) (c' : ContainerRef) : Prop :=
  p.uid ≠ q.uid ∨ ∃ i j : Nat, i < j ∧ p.allContainers[i]? = some c ∧ p.allContainers[j]? = some c' ∧
    (c.kind = .app ∨ c.restartable = true)

/-- Two containers of the pods can run at the same time. -/
def Concurrent (pods : List Pod) (k k' : ContainerKey) : Prop :=
  ∃ p ∈ pods, ∃ c ∈ p.allContainers, ∃ q ∈ pods, ∃ c' ∈ q.allContainers,
    (candidate p c).key = k ∧ (candidate q c').key = k' ∧ RunsBeside p c q c'

/-- No two containers of the partition can run at the same time. -/
def NeverTogether (pods : List Pod) (d : PartitionDetail) : Prop :=
  ∀ k ∈ d.containers, ∀ k' ∈ d.containers, ¬ Concurrent pods k k'

/-- No chain of containers and requests links two app containers of a pod. -/
def AppsApart (pods : List Pod) (edges : List (PartitionCandidate × Text)) : Prop :=
  ∀ p ∈ pods, ∀ c ∈ p.allContainers, ∀ c' ∈ p.allContainers, c.kind = .app → c'.kind = .app → c.name ≠ c'.name →
    ¬ Linked edges (.container (candidate p c).key) (.container (candidate p c').key)

/-- Init containers come first. -/
theorem app_of_later {i j : Nat} (hij : i < j) (hi : p.allContainers[i]? = some c)
    (hj : p.allContainers[j]? = some c') (happ : c.kind = .app) : c'.kind = .app := by
  unfold Pod.allContainers at hi hj
  have hge : (p.initContainers.map fun c => (⟨c.name, c.claims, .init, c.restartable⟩ : ContainerRef)).length ≤ i := by
    by_contra hlt
    rw [getElem?_append_left (by omega)] at hi
    obtain ⟨x, -, rfl⟩ := mem_map.mp (mem_of_getElem? hi)
    cases happ
  rw [getElem?_append_right (by omega)] at hj
  obtain ⟨x, -, rfl⟩ := mem_map.mp (mem_of_getElem? hj)
  rfl

/-- Names tell the places of containers apart. -/
theorem index_eq_of_name (hnames : (p.allContainers.map ContainerRef.name).Nodup) {i j : Nat}
    (hi : p.allContainers[i]? = some c) (hj : p.allContainers[j]? = some c') (hname : c.name = c'.name) : i = j := by
  have hlt : i < (p.allContainers.map ContainerRef.name).length := by
    rw [List.length_map]
    exact (List.getElem?_eq_some_iff.mp hi).1
  refine (List.getElem?_inj hlt hnames).mp ?_
  rw [List.getElem?_map, List.getElem?_map, hi, hj, Option.map_some, Option.map_some, hname]

/-- A node that stands for one of the containers or requests. -/
def Inside (pods : List Pod) (containers : Pod → ContainerRef → Prop) (requests : Text → Prop) : Node → Prop
  | .container k => ∃ p ∈ pods, ∃ c ∈ p.allContainers, (candidate p c).key = k ∧ containers p c
  | .request request => requests request

section Partitions

variable {claimName : Text} {edges : List (PartitionCandidate × Text)}

theorem eq_of_name (hvalid : ValidPods pods) (hp : p ∈ pods)
    (hc : c ∈ p.allContainers) (hc' : c' ∈ p.allContainers) (hname : c.name = c'.name) : c = c' :=
  inj_on_of_nodup_map (hvalid.names p hp) hc hc' hname

/-- A key names one container. -/
theorem eq_of_key (hvalid : ValidPods pods) {q : Pod} (hp : p ∈ pods) (hq : q ∈ pods)
    (hc : c ∈ p.allContainers) (hc' : c' ∈ q.allContainers) (hkey : (candidate p c).key = (candidate q c').key) :
    p = q ∧ c = c' := by
  have hpods := hvalid.uids p hp q hq (congrArg ContainerKey.podUID hkey)
  subst hpods
  exact ⟨rfl, eq_of_name hvalid hp hc hc' (congrArg ContainerKey.name hkey)⟩

variable (hedges : resolveEdges claimName allocated pods = .ok edges)

include hedges

/-- The neighbours of a request are its users. -/
theorem mem_neighbours_request {n : Node} : n ∈ neighbours edges (.request request) ↔ ∃ p ∈ pods, ∃ c ∈ p.allContainers,
      n = .container (candidate p c).key ∧ Uses claimName allocated p c request := by
  rw [mem_neighbours]
  constructor
  · rintro ⟨e, he, ⟨hnode, -⟩ | ⟨hnode, rfl⟩⟩
    · cases hnode
    · obtain ⟨p, hp, c, hc, hcand, huses⟩ := (mem_resolveEdges hedges e).mp he
      cases hnode
      exact ⟨p, hp, c, hc, by rw [hcand], huses⟩
  · rintro ⟨p, hp, c, hc, rfl, huses⟩
    exact ⟨(candidate p c, request), (mem_resolveEdges hedges _).mpr ⟨p, hp, c, hc, rfl, huses⟩, .inr ⟨rfl, rfl⟩⟩

variable (hvalid : ValidPods pods)

include hvalid

/-- The neighbours of a container are the requests that it uses. -/
theorem mem_neighbours_container (hp : p ∈ pods) (hc : c ∈ p.allContainers) {n : Node} :
    n ∈ neighbours edges (.container (candidate p c).key) ↔
      ∃ request, n = .request request ∧ Uses claimName allocated p c request := by
  rw [mem_neighbours]
  constructor
  · rintro ⟨e, he, ⟨hnode, rfl⟩ | ⟨hnode, -⟩⟩
    · obtain ⟨q, hq, c', hc', hcand, huses⟩ := (mem_resolveEdges hedges e).mp he
      rw [hcand] at hnode
      obtain ⟨rfl, rfl⟩ := eq_of_key hvalid hp hq hc hc' (Node.container.inj hnode)
      exact ⟨e.2, rfl, huses⟩
    · cases hnode
  · rintro ⟨request, rfl, huses⟩
    exact ⟨(candidate p c, request), (mem_resolveEdges hedges _).mpr ⟨p, hp, c, hc, rfl, huses⟩, .inl ⟨rfl, rfl⟩⟩

/-- A set of containers and requests that is closed under use holds everything linked to its members. -/
theorem linked_inside (containers : Pod → ContainerRef → Prop) (requests : Text → Prop)
    (huse : ∀ p ∈ pods, ∀ c ∈ p.allContainers, containers p c → ∀ request, Uses claimName allocated p c request →
      requests request)
    (huser : ∀ request, requests request → ∀ p ∈ pods, ∀ c ∈ p.allContainers, Uses claimName allocated p c request →
      containers p c) {q : Pod} (hp : p ∈ pods) (hq : q ∈ pods) (hc : c ∈ p.allContainers)
    (hc' : c' ∈ q.allContainers) (hin : containers p c)
    (hlinked : Linked edges (.container (candidate p c).key) (.container (candidate q c').key)) : containers q c' := by
  have hclosed : ∀ a b, Inside pods containers requests a → b ∈ neighbours edges a →
      Inside pods containers requests b := by
    intro a b ha hb
    cases a with
    | container k =>
      obtain ⟨p, hp, c, hc, rfl, hin⟩ := ha
      obtain ⟨request, rfl, huses⟩ := (mem_neighbours_container hedges hvalid hp hc).mp hb
      exact huse p hp c hc hin request huses
    | request name =>
      obtain ⟨p, hp, c, hc, rfl, huses⟩ := (mem_neighbours_request hedges).mp hb
      exact ⟨p, hp, c, hc, rfl, huser name ha p hp c hc huses⟩
  obtain ⟨p', hp', x, hx, hkey, hin'⟩ := (connected_of_inside (Inside pods containers requests) hclosed
    (fun _ _ _ h => h) (show Inside pods containers requests (.container (candidate p c).key) from
      ⟨p, hp, c, hc, rfl, hin⟩) hlinked).2
  obtain ⟨rfl, rfl⟩ := eq_of_key hvalid hp' hq hx hc' hkey
  exact hin'

variable (hshared : SharedWell claimName allocated pods)

include hshared

/-- **A partition stays inside a pod.** -/
theorem pod_of_linked {q : Pod} (hp : p ∈ pods) (hq : q ∈ pods) (hc : c ∈ p.allContainers) (hc' : c' ∈ q.allContainers)
    (hlinked : Linked edges (.container (candidate p c).key) (.container (candidate q c').key)) : q = p := by
  refine linked_inside hedges hvalid (fun q _ => q = p)
    (fun request => ∃ x ∈ p.allContainers, Uses claimName allocated p x request)
    (fun q _ x hx hin request huses => ?_) (fun request hin q hq x hx huses => ?_) hp hq hc hc' rfl hlinked
  · subst hin
    exact ⟨x, hx, huses⟩
  · obtain ⟨y, hy, huses'⟩ := hin
    exact hshared.pod q hq x hx p hp y hy request huses huses'

/-- **A sidecar is alone in its partition.** -/
theorem sidecar_of_linked (hp : p ∈ pods) (hc : c ∈ p.allContainers)
    (hc' : c' ∈ p.allContainers) (hside : c.restartable = true)
    (hlinked : Linked edges (.container (candidate p c).key) (.container (candidate p c').key)) : c' = c := by
  have hinside := linked_inside hedges hvalid (fun q x => q = p ∧ x = c) (Uses claimName allocated p c)
    (fun q _ x _ hin request huses => ?_) (fun request hin q hq x hx huses => ?_) hp hp hc hc' ⟨rfl, rfl⟩ hlinked
  · exact hinside.2
  · obtain ⟨rfl, rfl⟩ := hin
    exact huses
  · have hsame := hshared.pod q hq x hx p hp c hc request huses hin
    subst hsame
    exact ⟨rfl, (eq_of_name hvalid hq hc hx (hshared.sidecar q hq c hc x hx request hside hin huses)).symm⟩

variable {shortHash : Text → Text}

/-- Two containers of a partition that can run at the same time are app containers of one pod. -/
theorem neverTogether_of_appsApart (hapart : AppsApart pods edges)
    {d : PartitionDetail} (hd : d ∈ partitionDetails P shortHash edges) : NeverTogether pods d := by
  rintro k hk k' hk' ⟨p, hp, c, hc, q, hq, c', hc', rfl, rfl, hbeside⟩
  have hlinked : Linked edges (.container (candidate p c).key) (.container (candidate q c').key) :=
    ((details_classes hd (a := .container _) hk).2 _).mp hk'
  obtain rfl := pod_of_linked hedges hvalid hshared hp hq hc hc' hlinked
  rcases hbeside with huid | ⟨i, j, hij, hi, hj, hruns⟩
  · exact huid rfl
  have hdistinct : c.name ≠ c'.name := fun hname => hij.ne (index_eq_of_name (hvalid.names q hp) hi hj hname)
  rcases hruns with happ | hside
  · exact hapart q hp c hc c' hc' happ (app_of_later hij hi hj happ) hdistinct hlinked
  · exact hdistinct (by rw [sidecar_of_linked hedges hvalid hshared hp hc hc' hside hlinked])

omit hshared in
/-- App containers that are linked are in one partition. -/
theorem appsApart_of_neverTogether (hnever : ∀ d ∈ partitionDetails P shortHash edges, NeverTogether pods d) :
    AppsApart pods edges := by
  intro p hp c hc c' hc' happ happ' hne hlinked
  have hkeys : Node.container (candidate p c).key ≠ .container (candidate p c').key := fun hkey =>
    hne (congrArg ContainerKey.name (Node.container.inj hkey))
  -- The chain leaves the first container by an edge, so that the container is in a partition.
  obtain ⟨n, hn, -⟩ := (Relation.ReflTransGen.cases_head hlinked).resolve_left hkeys
  obtain ⟨request, -, huses⟩ := (mem_neighbours_container hedges hvalid hp hc).mp hn
  have hedge : (candidate p c, request) ∈ edges := (mem_resolveEdges hedges _).mpr ⟨p, hp, c, hc, rfl, huses⟩
  obtain ⟨d, hd, hin, -⟩ := details_cover P shortHash hedge
  have hin' : d.has (.container (candidate p c').key) := ((details_classes hd hin).2 _).mpr hlinked
  obtain ⟨i, hi⟩ := mem_iff_getElem?.mp hc
  obtain ⟨j, hj⟩ := mem_iff_getElem?.mp hc'
  rcases Nat.lt_trichotomy i j with hij | rfl | hji
  · exact hnever d hd _ hin _ hin' ⟨p, hp, c, hc, p, hp, c', hc', rfl, rfl, .inr ⟨i, j, hij, hi, hj, .inl happ⟩⟩
  · exact hne (congrArg ContainerRef.name (Option.some.inj (hi.symm.trans hj)))
  · exact hnever d hd _ hin' _ hin ⟨p, hp, c', hc', p, hp, c, hc, rfl, rfl, .inr ⟨j, i, hji, hj, hi, .inl happ'⟩⟩

end Partitions

/-! ## What the pod webhook accepts -/

abbrev UsagesGrow : Usages → Usages → Prop := Grows Usage.empty Usage.Within

theorem UsagesGrow.refl (s : Usages) : UsagesGrow s s := fun _ => .refl _

theorem UsagesGrow.trans (s t u : Usages) (h : UsagesGrow s t) (h' : UsagesGrow t u) : UsagesGrow s u :=
  fun k => (h k).trans (h' k)

theorem useRequest_records (h : useRequest c s key = .ok t) : UsagesGrow s t ∧ (entry .empty t key).Holds c c.name := by
  obtain ⟨hgrows, -, hentry⟩ := updateEntry_grows Usage.Within.refl (fun u _ => Usage.within_add c c.name u) h
  refine ⟨hgrows, ?_⟩
  rw [hentry]
  exact Usage.holds_add _ _ _

/-- The webhook takes the request to be one of the container. -/
def Reader.Sees (r : Reader) (infos : List ResourceInfo) (pod : Pod) (c : ContainerRef) (key : RequestKey) : Prop :=
  ∃ claimRef ∈ c.claims, ∃ keys, r.requestKeys infos pod c claimRef = .ok keys ∧ key ∈ keys

theorem checkContainer_records (h : r.checkContainer infos pod s c = .ok t) :
    UsagesGrow s t ∧ ∀ key, r.Sees infos pod c key → (entry .empty t key).Holds c c.name := by
  obtain ⟨keys, hkeys, h⟩ := bind_ok h
  dsimp only at h
  split at h
  · cases h
  · obtain ⟨hgrows, hholds⟩ := foldlM_records UsagesGrow.refl UsagesGrow.trans
      (fun key t => (entry .empty t key).Holds c c.name) (fun key _ _ hst => Usage.Holds.mono (hst key))
      (fun _ _ _ _ => useRequest_records) h
    refine ⟨hgrows, fun key hsees => hholds key ?_⟩
    rw [sortedKeys, mem_sortBy, mem_dedup]
    exact (mem_flatten_mapM hkeys key).mpr hsees

theorem mem_entries_of_entry {usages : Usages} {id : Text}
    (h : (entry .empty usages key).Holds c id) : ⟨key, entry .empty usages key⟩ ∈ usages.entries := by
  unfold entry at h ⊢
  cases hlookup : usages.lookup key with
  | none =>
    rw [hlookup] at h
    unfold Usage.Holds at h
    split at h
    · cases h
    · cases hkind : c.kind <;> rw [hkind] at h <;> cases h
  | some usage => exact AList.mem_lookup_iff.mp hlookup

/-- No entry is in conflict. -/
def NoConflict (usages : Usages) : Prop := ∀ key, (entry .empty usages key).conflict = none

theorem useRequest_noConflict (hs : NoConflict s) (h : useRequest c s key = .ok t) : NoConflict t := by
  obtain ⟨hnone, rfl⟩ := updateEntry_ok h
  intro key'
  by_cases hkey : key' = key
  · rw [hkey, entry_insert]
    exact Option.map_eq_none_iff.mp hnone
  · rw [entry_insert_of_ne _ hkey]
    exact hs key'

theorem checkContainer_noConflict (hs : NoConflict s) (h : r.checkContainer infos pod s c = .ok t) : NoConflict t := by
  obtain ⟨keys, -, h⟩ := bind_ok h
  dsimp only at h
  split at h
  · cases h
  · exact foldlM_invariant NoConflict (fun _ _ _ _ => useRequest_noConflict) hs h

/-- **A pod that is accepted** has every use that the webhook sees recorded, without a conflict, and its init
containers share with one app container each. -/
theorem accepted_pod (hclaims : pod.resourceClaims ≠ []) (h : r.checkResourceClaimRequests P infos pod = .ok ()) :
    ∃ usages, (∀ c ∈ pod.allContainers, ∀ key, r.Sees infos pod c key → (entry .empty usages key).Holds c c.name) ∧
      NoConflict usages ∧ ∀ initName ∈ initNames P usages, (appsOverlapping usages initName).length ≤ 1 := by
  unfold Reader.checkResourceClaimRequests at h
  rw [if_neg (by simpa using hclaims)] at h
  obtain ⟨usages, husages, h⟩ := bind_ok h
  refine ⟨usages, (foldlM_records UsagesGrow.refl UsagesGrow.trans
    (fun c t => ∀ key, r.Sees infos pod c key → (entry .empty t key).Holds c c.name)
    (fun _ _ _ hst hall key hsees => Usage.Holds.mono (hst key) (hall key hsees))
    (fun _ _ _ _ => checkContainer_records) husages).2,
    foldlM_invariant NoConflict (fun _ _ _ _ => checkContainer_noConflict) (fun _ => rfl) husages,
    fun initName hname => ?_⟩
  split at h
  · cases h
  · next hnone => simpa using find?_eq_none.mp hnone initName hname

/-- **An init container shares with one app container,** as far as the pod webhook sees. -/
theorem accepted_pod_apps (hclaims : pod.resourceClaims ≠ []) (h : r.checkResourceClaimRequests P infos pod = .ok ())
    {i a b : ContainerRef} (hi : i ∈ pod.allContainers) (ha : a ∈ pod.allContainers) (hb : b ∈ pod.allContainers)
    (hinit : i.kind = .init) (hplain : i.restartable = false) (happ : a.kind = .app) (happ' : b.kind = .app)
    {key' : RequestKey} (hia : r.Sees infos pod i key) (hak : r.Sees infos pod a key)
    (hib : r.Sees infos pod i key') (hbk : r.Sees infos pod b key') : a.name = b.name := by
  obtain ⟨usages, hholds, -, hshort⟩ := accepted_pod hclaims h
  have hinits : ∀ key, r.Sees infos pod i key → i.name ∈ (entry .empty usages key).initContainers := fun key hsees => by
    have hin := hholds i hi key hsees
    unfold Usage.Holds at hin
    rwa [hplain, if_neg Bool.false_ne_true, hinit] at hin
  have happs : ∀ c ∈ pod.allContainers, c.kind = .app → ∀ key, r.Sees infos pod i key → r.Sees infos pod c key →
      c.name ∈ appsOverlapping usages i.name := fun c hc hkind key hik hck => by
    have hin := hholds c hc key hck
    have hentry := mem_entries_of_entry hin
    unfold Usage.Holds at hin
    rw [restartable_of_app hc hkind, if_neg Bool.false_ne_true, hkind] at hin
    refine mem_dedup.mpr (mem_flatMap.mpr ⟨_, mem_filter.mpr ⟨hentry, ?_⟩, hin⟩)
    exact decide_eq_true (hinits key hik)
  have hentry := mem_entries_of_entry (hholds i hi key hia)
  have hname : i.name ∈ initNames P usages :=
    P.mem_mapOrder.mpr (mem_dedup.mpr (mem_flatMap.mpr ⟨_, hentry, hinits key hia⟩))
  exact eq_of_mem_short (hshort i.name hname) (happs a ha happ key hia hak) (happs b hb happ' key' hib hbk)

/-! ## Chains of init containers -/

/-- The pod's init containers share no request of the claim among themselves. -/
def InitsApart (claimName : Text) (allocated : List Text) (pod : Pod) : Prop :=
  ∀ i ∈ pod.allContainers, ∀ j ∈ pod.allContainers, i.kind = .init → j.kind = .init → ∀ request,
    Uses claimName allocated pod i request → Uses claimName allocated pod j request → i.name = j.name

/-- The pod webhook saw what the containers use of the claim, under one name of the claim. -/
def SeenInAdvance (r : Reader) (infos : List ResourceInfo) (claimName : Text) (allocated : List Text) (pod : Pod) :
    Prop :=
  ∃ podClaimName, ∀ c ∈ pod.allContainers, ∀ request, Uses claimName allocated pod c request →
    r.Sees infos pod c ⟨podClaimName, request⟩

theorem resourceClaims_of_uses {claimName : Text} (h : Uses claimName allocated pod c request) :
    pod.resourceClaims ≠ [] := by
  intro hnone
  obtain ⟨claimRef, -, hname, -⟩ := uses_iff.mp h
  unfold resolveActualClaimNameForPodClaim findPodResourceClaim at hname
  rw [hnone] at hname
  cases hname

/-- The containers that share with an app container: it, and init containers. -/
def SharesWithApp (claimName : Text) (allocated : List Text) (pod : Pod) (a x : ContainerRef) : Prop :=
  x = a ∨ (x.kind = .init ∧ x.restartable = false ∧
    ∃ request, Uses claimName allocated pod x request ∧ Uses claimName allocated pod a request)

/-- **Without shared init containers** no chain leads from one app container to another. -/
theorem appsApart_of_initsApart {infos : Pod → List ResourceInfo} {claimName : Text}
    {edges : List (PartitionCandidate × Text)}
    (hedges : resolveEdges claimName allocated pods = .ok edges) (hvalid : ValidPods pods)
    (hshared : SharedWell claimName allocated pods)
    (hpods : ∀ pod ∈ pods, r.checkResourceClaimRequests P (infos pod) pod = .ok ())
    (hinits : ∀ pod ∈ pods, InitsApart claimName allocated pod)
    (hseen : ∀ pod ∈ pods, SeenInAdvance r (infos pod) claimName allocated pod) : AppsApart pods edges := by
  intro p hp a ha b hb happ happ' hne hlinked
  -- The containers that the chain passes share a request with the first one.
  have hinside := linked_inside hedges hvalid (fun q x => q = p ∧ SharesWithApp claimName allocated p a x)
    (fun request => ∃ x ∈ p.allContainers, SharesWithApp claimName allocated p a x ∧
      Uses claimName allocated p x request)
    (fun q _ x hx hin request huses => ?_) (fun request hin q hq y hy huses => ?_) hp hp ha hb ⟨rfl, .inl rfl⟩ hlinked
  · rcases hinside.2 with rfl | ⟨hinit, -⟩
    · exact hne rfl
    · rw [happ'] at hinit
      cases hinit
  · obtain ⟨rfl, hin⟩ := hin
    exact ⟨x, hx, hin, huses⟩
  · obtain ⟨x, hx, hsharing, husesX⟩ := hin
    obtain rfl := hshared.pod q hq y hy p hp x hx request huses husesX
    refine ⟨rfl, ?_⟩
    have hplain : x.restartable = false := by
      rcases hsharing with rfl | ⟨-, hplain, -⟩
      · exact restartable_of_app hx happ
      · exact hplain
    have hplainY : y.restartable = false := by
      by_contra hside
      rw [Bool.not_eq_false] at hside
      obtain rfl := eq_of_name hvalid hq hy hx (hshared.sidecar q hq y hy x hx request hside huses husesX)
      rw [hplain] at hside
      cases hside
    cases hkind : y.kind with
    | init =>
      rcases hsharing with rfl | ⟨hinit, -, hwith⟩
      · exact .inr ⟨hkind, hplainY, request, huses, husesX⟩
      · obtain rfl := eq_of_name hvalid hq hy hx (hinits q hq y hy x hx hkind hinit request huses husesX)
        exact .inr ⟨hkind, hplainY, hwith⟩
    | app =>
      rcases hsharing with rfl | ⟨hinit, -, request', huses', husesA⟩
      · exact .inl (eq_of_name hvalid hq hy hx (hshared.app q hq y hy x hx request hkind happ huses husesX))
      · -- An init container between two app containers is what the pod webhook looks for.
        obtain ⟨podClaimName, hsees⟩ := hseen q hq
        have hname := accepted_pod_apps (resourceClaims_of_uses huses) (hpods q hq) hx hy ha hinit hplain hkind happ
          (hsees x hx request husesX) (hsees y hy request huses) (hsees x hx request' huses')
          (hsees a ha request' husesA)
        exact .inl (eq_of_name hvalid hq hy ha hname)

/-- **Partitions of accepted claims:** their containers never run at the same time exactly if no chain links app
containers of a pod. There is no such chain where init containers share no request and the pod webhook has seen
what the containers use. -/
theorem accepted_partitions_iff {P P' : Platform} {shortHash : Text → Text} {r r' : Reader}
    {infos : Pod → List ResourceInfo} {claim : ResourceClaim} {allocated : List Text} {pods : List Pod}
    {edges : List (PartitionCandidate × Text)} (hreader : Honest r.pod)
    (hreserved : getReservedPods r.pod claim.ns claim.reservedFor = .ok pods) (hvalid : ValidPods pods)
    (hpods : ∀ pod ∈ pods, r'.checkResourceClaimRequests P' (infos pod) pod = .ok ())
    (hclaim : r.validateAllocatedVGPUSharing claim = .ok ()) (hallocated : allocated ⊆ r.allocatedVGPURequests claim)
    (hedges : resolveEdges claim.name allocated pods = .ok edges) :
    ((∀ d ∈ partitionDetails P shortHash edges, NeverTogether pods d) ↔ AppsApart pods edges) ∧
      ((∀ pod ∈ pods, InitsApart claim.name allocated pod ∧ SeenInAdvance r' (infos pod) claim.name allocated pod) →
        ∀ d ∈ partitionDetails P shortHash edges, NeverTogether pods d) := by
  have hshared := sharedWell_of_accepted hreader hreserved hclaim hallocated
  refine ⟨⟨appsApart_of_neverTogether hedges hvalid, fun hapart d hd => ?_⟩, fun hrules d hd => ?_⟩
  · exact neverTogether_of_appsApart hedges hvalid hshared hapart hd
  · have hapart := appsApart_of_initsApart hedges hvalid hshared hpods (fun pod hpod => (hrules pod hpod).1)
      fun pod hpod => (hrules pod hpod).2
    exact neverTogether_of_appsApart hedges hvalid hshared hapart hd

/-! ### Two pods -/

/-- A container that uses the requests of the pod's claim `gpus`. -/
def user (name : Text) (requests : List Text) : Container :=
  ⟨name, requests.map fun request => ⟨"gpus".toList, request⟩, false⟩

/-- A pod that holds `claim`. -/
def holder (initContainers containers : List Container) : Pod :=
  { ns := "ns".toList
    name := "pod".toList
    uid := "pod-uid".toList
    resourceClaims := [⟨"gpus".toList, "claim".toList, []⟩]
    claimStatuses := []
    initContainers := initContainers
    containers := containers }

/-- The claim, with vGPUs for the requests. -/
def heldClaim (requests : List Text) : ResourceClaim :=
  { ns := "ns".toList
    name := "claim".toList
    uid := "claim-uid".toList
    annotations := []
    requests := requests.map fun name => ⟨name, some ⟨"vgpu-class".toList, []⟩, []⟩
    allocation := some (requests.map fun name => ⟨name, draDriverName, name⟩)
    reservedFor := [⟨[], "pods".toList, "pod".toList, "pod-uid".toList⟩] }

/-- A reader that finds this pod and this claim. -/
def readerFor (pod : Pod) (claim : ResourceClaim) : Reader :=
  { vgpuDeviceClassName := "vgpu-class".toList
    deviceClass := fun _ => []
    pod := fun ns name => if ns = pod.ns ∧ name = pod.name then .found pod else .notFound
    resourceClaim := fun ns name => if ns = claim.ns ∧ name = claim.name then .found claim else .notFound
    resourceClaimTemplate := fun _ _ => .notFound }

theorem honest_readerFor (pod : Pod) (claim : ResourceClaim) : Honest (readerFor pod claim).pod := by
  intro ns name found h
  dsimp only [readerFor] at h
  split at h
  · next hasked =>
    cases h
    exact ⟨hasked.1.symm, hasked.2.symm⟩
  · cases h

theorem validPods_holder {inits apps : List Container} (hnames : ((inits ++ apps).map Container.name).Nodup) :
    ValidPods [holder inits apps] := by
  constructor
  · intro p hp q hq _
    rw [mem_singleton.mp hp, mem_singleton.mp hq]
  · intro p hp
    rw [mem_singleton.mp hp]
    simpa [holder, Pod.allContainers, Function.comp_def] using hnames

/-- Each app container shares a request with an init container, and the init containers share one. -/
def chainPod : Pod :=
  holder [user "init-1".toList ["r1".toList, "r2".toList], user "init-2".toList ["r2".toList, "r3".toList]]
    [user "app-1".toList ["r1".toList], user "app-2".toList ["r3".toList]]

def chainClaim : ResourceClaim := heldClaim ["r1".toList, "r2".toList, "r3".toList]

/-- What the containers of the pod use. -/
def chainEdges : List (PartitionCandidate × Text) :=
  [(⟨chainPod, "init-1".toList, .init⟩, "r1".toList), (⟨chainPod, "init-1".toList, .init⟩, "r2".toList),
    (⟨chainPod, "init-2".toList, .init⟩, "r2".toList), (⟨chainPod, "init-2".toList, .init⟩, "r3".toList),
    (⟨chainPod, "app-1".toList, .app⟩, "r1".toList), (⟨chainPod, "app-2".toList, .app⟩, "r3".toList)]

/-- Both webhooks accept, and app containers that run at the same time are in one partition. -/
theorem linked_apps_accepted :
    (readerFor chainPod chainClaim).checkResourceClaimRequests (.exact .int64) [] chainPod = .ok () ∧
      (readerFor chainPod chainClaim).validateAllocatedVGPUSharing chainClaim = .ok () ∧
      getReservedPods (readerFor chainPod chainClaim).pod chainClaim.ns chainClaim.reservedFor = .ok [chainPod] ∧
      resolveEdges chainClaim.name ((readerFor chainPod chainClaim).allocatedVGPURequests chainClaim) [chainPod] =
        .ok chainEdges ∧
      ∀ P shortHash, ¬ ∀ d ∈ partitionDetails P shortHash chainEdges, NeverTogether [chainPod] d := by
  have hedges : resolveEdges chainClaim.name ((readerFor chainPod chainClaim).allocatedVGPURequests chainClaim)
      [chainPod] = .ok chainEdges := by decide +kernel
  refine ⟨by decide +kernel, by decide +kernel, by decide +kernel, hedges, fun P shortHash hnever => ?_⟩
  have hapart := appsApart_of_neverTogether hedges (validPods_holder (by decide)) hnever
  have hlink {a b : Node} (h : b ∈ neighbours chainEdges a) : Linked chainEdges a b := .single h
  refine hapart chainPod (.head _) ⟨"app-1".toList, [⟨"gpus".toList, "r1".toList⟩], .app, false⟩
    (by decide +kernel) ⟨"app-2".toList, [⟨"gpus".toList, "r3".toList⟩], .app, false⟩ (by decide +kernel) rfl rfl
    (by decide) ?_
  calc Linked chainEdges (.container ⟨"pod-uid".toList, .app, "app-1".toList⟩) (.request "r1".toList) :=
        hlink (by decide +kernel)
    Linked chainEdges _ (.container ⟨"pod-uid".toList, .init, "init-1".toList⟩) := hlink (by decide +kernel)
    Linked chainEdges _ (.request "r2".toList) := hlink (by decide +kernel)
    Linked chainEdges _ (.container ⟨"pod-uid".toList, .init, "init-2".toList⟩) := hlink (by decide +kernel)
    Linked chainEdges _ (.request "r3".toList) := hlink (by decide +kernel)
    Linked chainEdges _ (.container ⟨"pod-uid".toList, .app, "app-2".toList⟩) := hlink (by decide +kernel)

/-- An init container and an app container that use one request. -/
def pairPod : Pod := holder [user "init".toList ["r".toList]] [user "app".toList ["r".toList]]

def pairClaim : ResourceClaim := heldClaim ["r".toList]

theorem mem_pairPod (hc : c ∈ pairPod.allContainers) :
    c = ⟨"init".toList, [⟨"gpus".toList, "r".toList⟩], .init, false⟩ ∨
      c = ⟨"app".toList, [⟨"gpus".toList, "r".toList⟩], .app, false⟩ := by
  simpa [pairPod, holder, user, Pod.allContainers] using hc

/-- The pair is accepted, and its containers never run at the same time. -/
theorem pair_never_together : (readerFor pairPod pairClaim).validateAllocatedVGPUSharing pairClaim = .ok () ∧
      ∀ d ∈ partitionDetails (.exact .int64) id
          [(⟨pairPod, "init".toList, .init⟩, "r".toList), (⟨pairPod, "app".toList, .app⟩, "r".toList)],
        NeverTogether [pairPod] d := by
  refine ⟨by decide +kernel, ?_⟩
  refine (@accepted_partitions_iff (.exact .int64) (.exact .int64) id (readerFor pairPod pairClaim)
    (readerFor pairPod pairClaim) (fun _ => []) pairClaim ["r".toList] [pairPod] _ (honest_readerFor _ _)
    (by decide +kernel) (validPods_holder (by decide)) ?_ (by decide +kernel) (by decide +kernel)
    (by decide +kernel)).2 ?_
  · intro pod hpod
    rw [mem_singleton.mp hpod]
    decide +kernel
  · intro pod hpod
    rw [mem_singleton.mp hpod]
    refine ⟨fun i hi j hj hinit hinit' _ _ _ => ?_, "gpus".toList, fun c hc request huses => ?_⟩
    · rcases mem_pairPod hi with rfl | rfl
      · rcases mem_pairPod hj with rfl | rfl
        · rfl
        · cases hinit'
      · cases hinit
    · rw [mem_singleton.mp huses.mem_allocated]
      rcases mem_pairPod hc with rfl | rfl
      · exact ⟨_, .head _, [⟨"gpus".toList, "r".toList⟩], by decide +kernel, .head _⟩
      · exact ⟨_, .head _, [⟨"gpus".toList, "r".toList⟩], by decide +kernel, .head _⟩

end VGpuManager.ClaimResolve.Webhook

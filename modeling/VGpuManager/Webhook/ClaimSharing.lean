import VGpuManager.Webhook.Sharing

/-!
# What the claim webhook decides

`validateAllocatedVGPUSharing` goes through the pods that hold a claim and stops at the first conflict. Its answer
is that of a condition without loops and order (`Reader.Sharable`): every container uses one allocated vGPU claim
at most, and the requests of the claim are shared well.
-/

namespace VGpuManager.ClaimResolve.Webhook

open Foundation List

/-! ## 1. What may be shared -/

variable (r : Reader) (claim : ResourceClaim)

/-- The vGPU requests that are allocated for the claim of this name; none if there is no such claim. -/
def Reader.allocatedOf (ns name : Text) : List Text :=
  match r.getClaimCached claim ns name with
  | .found actual => r.allocatedVGPURequests actual
  | _ => []

/-- The container uses vGPU requests of one allocated claim at most. -/
def Reader.OneClaim (pod : Pod) (c : ContainerRef) : Prop :=
  ∀ name request name' request', Uses name (r.allocatedOf claim pod.ns name) pod c request →
    Uses name' (r.allocatedOf claim pod.ns name') pod c request' → name = name'

/-- What the webhook shall accept. -/
structure Reader.Sharable (r : Reader) (claim : ResourceClaim) (pods : List Pod) : Prop where
  wellFormed : ∀ pod ∈ pods, pod.WellFormed
  oneClaim : ∀ pod ∈ pods, ∀ c ∈ pod.allContainers, r.OneClaim claim pod c
  shared : SharedWell claim.name (r.allocatedVGPURequests claim) pods

/-- Claims of a namespace are told apart by their UIDs. -/
def UniqueUIDs : Prop :=
  ∀ ns name name' actual actual', r.getClaimCached claim ns name = .found actual →
    r.getClaimCached claim ns name' = .found actual' → actual.uid = actual'.uid → name = name'

/-! ## 2. What a container hits -/

variable {c : ContainerRef} {hits : List (List (Text × Text))} {request : Text} {claim} {pod : Pod}
  {allocated : List Text}

section Hits

variable {r}

theorem getClaimCached_self (hns : pod.ns = claim.ns) : r.getClaimCached claim pod.ns claim.name = .found claim :=
  if_pos ⟨hns, rfl⟩

theorem mem_claimRefHits {claimRef : ClaimRef} {hits : List (Text × Text)}
    (h : r.claimRefHits claim pod claimRef = .ok hits) (hit : Text × Text) :
    hit ∈ hits ↔ ∃ name actual, resolveActualClaimNameForPodClaim pod claimRef.name = .ok (some name) ∧
      r.getClaimCached claim pod.ns name = .found actual ∧ actual.uid = hit.1 ∧
      hit.2 ∈ resolveActualAllocatedRequestsForClaimRef claimRef (r.allocatedVGPURequests actual) := by
  unfold Reader.claimRefHits at h
  obtain ⟨actualName, hname, h⟩ := bind_ok h
  rw [mapError_eq_ok] at hname
  rw [hname]
  cases actualName with
  | none =>
    cases h
    simp
  | some name =>
    dsimp only at h
    cases hget : r.getClaimCached claim pod.ns name with
    | notFound =>
      rw [hget] at h
      cases h
      simp [hget]
    | failed =>
      rw [hget] at h
      cases h
    | found actual =>
      rw [hget] at h
      cases h
      simp only [mem_map, Except.ok.injEq, Option.some.injEq]
      constructor
      · rintro ⟨mainReq, hmainReq, rfl⟩
        exact ⟨name, actual, rfl, hget, rfl, hmainReq⟩
      · rintro ⟨_, found, rfl, hfound, huid, hmainReq⟩
        rw [hget] at hfound
        cases hfound
        exact ⟨hit.2, hmainReq, by rw [huid]⟩

/-- If claims can be read, a reference fails only where the pod does not say what it is to. -/
theorem claimRefHits_ok_iff (hreads : ∀ ns name, r.resourceClaim ns name ≠ .failed) (claimRef : ClaimRef) :
    (∃ hits, r.claimRefHits claim pod claimRef = .ok hits) ↔
      ∃ name, resolveActualClaimNameForPodClaim pod claimRef.name = .ok name := by
  constructor
  · intro ⟨hits, h⟩
    obtain ⟨name, hname, -⟩ := bind_ok h
    exact ⟨name, mapError_eq_ok.mp hname⟩
  · intro ⟨name, hname⟩
    unfold Reader.claimRefHits
    simp only [hname, Except.mapError, bind, Except.bind]
    cases name with
    | none => exact ⟨_, rfl⟩
    | some name =>
      have hread : r.getClaimCached claim pod.ns name ≠ .failed := by
        unfold Reader.getClaimCached
        split
        · nofun
        · exact hreads _ _
      dsimp only
      cases hget : r.getClaimCached claim pod.ns name with
      | found _ | notFound => exact ⟨_, rfl⟩
      | failed => exact absurd hget hread

/-- What the references of a container hit together is what it uses. -/
theorem mem_hits (h : c.claims.mapM (r.claimRefHits claim pod) = .ok hits) (hit : Text × Text) :
    hit ∈ hits.flatten ↔ ∃ name actual, r.getClaimCached claim pod.ns name = .found actual ∧ actual.uid = hit.1 ∧
      Uses name (r.allocatedVGPURequests actual) pod c hit.2 := by
  rw [mem_flatten_mapM h]
  constructor
  · intro ⟨claimRef, href, found, hok, hmem⟩
    obtain ⟨name, actual, hname, hget, huid, hin⟩ := (mem_claimRefHits hok hit).mp hmem
    exact ⟨name, actual, hget, huid, uses_iff.mpr ⟨claimRef, href, hname, hin⟩⟩
  · intro ⟨name, actual, hget, huid, huses⟩
    obtain ⟨claimRef, href, hname, hin⟩ := uses_iff.mp huses
    obtain ⟨found, hok⟩ := (mem_mapM_ok h).1 claimRef href
    exact ⟨claimRef, href, found, hok, (mem_claimRefHits hok hit).mpr ⟨name, actual, hname, hget, huid, hin⟩⟩

/-- A container uses what is allocated of a claim that is there. -/
theorem uses_allocatedOf {name : Text} : Uses name (r.allocatedOf claim pod.ns name) pod c request ↔
      ∃ actual, r.getClaimCached claim pod.ns name = .found actual ∧
        Uses name (r.allocatedVGPURequests actual) pod c request := by
  unfold Reader.allocatedOf
  cases hget : r.getClaimCached claim pod.ns name with
  | found actual => simp
  | notFound | failed => simpa using fun h : Uses name [] pod c request => nomatch h.mem_allocated

end Hits

theorem short_iff {α : Type} {l : List α} (hnodup : l.Nodup) : l.length ≤ 1 ↔ ∀ a ∈ l, ∀ b ∈ l, a = b := by
  classical
  rw [← toFinset_card_of_nodup hnodup, Finset.card_le_one]
  simp only [mem_toFinset]

/-- **The UIDs that a container hits are one** if it uses one claim. -/
theorem oneClaim_iff {r : Reader} (huids : UniqueUIDs r claim)
    (hhits : c.claims.mapM (r.claimRefHits claim pod) = .ok hits) :
    (sortedSet (hits.flatten.map Prod.fst)).length ≤ 1 ↔ r.OneClaim claim pod c := by
  have hmem {uid : Text} : uid ∈ sortedSet (hits.flatten.map Prod.fst) ↔ ∃ name actual request,
      r.getClaimCached claim pod.ns name = .found actual ∧ actual.uid = uid ∧
        Uses name (r.allocatedVGPURequests actual) pod c request := by
    rw [mem_sortedSet, mem_map]
    constructor
    · rintro ⟨hit, hhit, rfl⟩
      obtain ⟨name, actual, hget, huid, huses⟩ := (mem_hits hhits hit).mp hhit
      exact ⟨name, actual, hit.2, hget, huid, huses⟩
    · intro ⟨name, actual, request, hget, huid, huses⟩
      exact ⟨(uid, request), (mem_hits hhits _).mpr ⟨name, actual, hget, huid, huses⟩, rfl⟩
  rw [short_iff (nodup_sortedSet _)]
  constructor
  · intro h name request name' request' huses huses'
    obtain ⟨actual, hget, huses⟩ := uses_allocatedOf.mp huses
    obtain ⟨actual', hget', huses'⟩ := uses_allocatedOf.mp huses'
    exact huids pod.ns name name' actual actual' hget hget'
      (h _ (hmem.mpr ⟨name, actual, request, hget, rfl, huses⟩) _
        (hmem.mpr ⟨name', actual', request', hget', rfl, huses'⟩))
  · intro h uid huid uid' huid'
    obtain ⟨name, actual, request, hget, rfl, huses⟩ := hmem.mp huid
    obtain ⟨name', actual', request', hget', rfl, huses'⟩ := hmem.mp huid'
    obtain rfl := h name request name' request' (uses_allocatedOf.mpr ⟨actual, hget, huses⟩)
      (uses_allocatedOf.mpr ⟨actual', hget', huses'⟩)
    rw [hget] at hget'
    cases hget'
    rfl

/-! ## 3. What has been recorded was used -/

section From

variable {ι : Type}

/-- Everything in the usage is there because of one of these users. -/
structure Usage.From (users : ContainerRef → ι → Prop) (u : Usage ι) : Prop where
  inits : ∀ id ∈ u.initContainers, ∃ c, users c id ∧ c.restartable = false
  apps : ∀ id ∈ u.appContainers, ∃ c, users c id ∧ c.restartable = false ∧ c.kind = .app
  sidecars : ∀ id ∈ u.sidecars, ∃ c, users c id ∧ c.restartable = true
  nodup_apps : u.appContainers.Nodup
  nodup_sidecars : u.sidecars.Nodup

variable {users : ContainerRef → ι → Prop} {u : Usage ι}

theorem Usage.From.empty : (Usage.empty : Usage ι).From users :=
  ⟨fun _ h => (nomatch h), fun _ h => (nomatch h), fun _ h => (nomatch h), nodup_nil, nodup_nil⟩

theorem forall_mem_insert [BEq ι] [LawfulBEq ι] {l : List ι} {id : ι} {p : ι → Prop} (h : ∀ x ∈ l, p x) (hid : p id) :
    ∀ x ∈ l.insert id, p x := by
  intro x hx
  rcases mem_insert_iff.mp hx with rfl | hx
  · exact hid
  · exact h x hx

theorem Usage.From.add [DecidableEq ι] (h : u.From users) {id : ι} (hc : users c id) : (u.add c id).From users := by
  unfold Usage.add
  split
  · next hr =>
    exact { h with sidecars := forall_mem_insert h.sidecars ⟨c, hc, hr⟩, nodup_sidecars := h.nodup_sidecars.insert }
  · next hr =>
    have hr : c.restartable = false := by simpa using hr
    split
    · exact { h with inits := forall_mem_insert h.inits ⟨c, hc, hr⟩ }
    · next hk => exact { h with
        apps := forall_mem_insert h.apps ⟨c, hc, hr, hk⟩
        nodup_apps := h.nodup_apps.insert }

/-- **Users that may share are in no conflict.** -/
theorem Usage.From.conflict_eq_none (h : u.From users)
    (happ : ∀ c id c' id', users c id → users c' id' → c.kind = .app → c'.kind = .app → id = id')
    (hside : ∀ c id c' id', users c id → users c' id' → c.restartable = true → id = id' ∧ c'.restartable = true) :
    u.conflict = none := by
  have happs : u.appContainers.length ≤ 1 := (short_iff h.nodup_apps).mpr fun id hid id' hid' => by
    obtain ⟨c, hc, -, hk⟩ := h.apps id hid
    obtain ⟨c', hc', -, hk'⟩ := h.apps id' hid'
    exact happ c id c' id' hc hc' hk hk'
  have hsidecars : u.sidecars.length ≤ 1 := (short_iff h.nodup_sidecars).mpr fun id hid id' hid' => by
    obtain ⟨c, hc, hr⟩ := h.sidecars id hid
    obtain ⟨c', hc', -⟩ := h.sidecars id' hid'
    exact (hside c id c' id' hc hc' hr).1
  have halone : ¬ (u.sidecars.length = 1 ∧ (u.initContainers.length > 0 ∨ u.appContainers.length > 0)) := by
    intro ⟨hone, hothers⟩
    obtain ⟨id, hid⟩ := exists_mem_of_length_pos (Nat.lt_of_lt_of_eq Nat.zero_lt_one hone.symm)
    obtain ⟨c, hc, hr⟩ := h.sidecars id hid
    have hother : ∃ c' id', users c' id' ∧ c'.restartable = false := by
      rcases hothers with hinits | happs
      · obtain ⟨id', hid'⟩ := exists_mem_of_length_pos hinits
        obtain ⟨c', hc', hr'⟩ := h.inits id' hid'
        exact ⟨c', id', hc', hr'⟩
      · obtain ⟨id', hid'⟩ := exists_mem_of_length_pos happs
        obtain ⟨c', hc', hr', -⟩ := h.apps id' hid'
        exact ⟨c', id', hc', hr'⟩
    obtain ⟨c', id', hc', hr'⟩ := hother
    have hrestartable := (hside c id c' id' hc hc' hr).2
    rw [hr'] at hrestartable
    cases hrestartable
  unfold Usage.conflict
  rw [if_neg (Nat.not_lt.mpr happs), if_neg (Nat.not_lt.mpr hsidecars), if_neg halone]

end From

section Accept

variable {r} {pods : List Pod}

/-- The containers that use a request of the claim. -/
def User (claimName : Text) (allocated : List Text) (pods : List Pod) (request : Text) (pod : Pod) (c : ContainerRef) :
    Prop :=
  pod ∈ pods ∧ c ∈ pod.allContainers ∧ Uses claimName allocated pod c request

/-- The entry is made of users of its request. -/
structure ActualRequestUsage.From (users : Pod → ContainerRef → Prop) (u : ActualRequestUsage) : Prop where
  pods : ∀ id ∈ u.pods, ∃ pod c, users pod c ∧ id = (pod.ns, pod.name)
  nodup : u.pods.Nodup
  containers : u.containers.From fun c id => ∃ pod, users pod c ∧ id = ⟨pod.ns, pod.name, c.name⟩

variable {users : Pod → ContainerRef → Prop} {u : ActualRequestUsage}

theorem ActualRequestUsage.From.empty : ActualRequestUsage.empty.From users :=
  ⟨fun _ h => (nomatch h), nodup_nil, .empty⟩

theorem ActualRequestUsage.From.add (h : u.From users) (hc : users pod c) : (u.add pod c).From users :=
  ⟨forall_mem_insert h.pods ⟨pod, c, hc, rfl⟩, h.nodup.insert, h.containers.add ⟨pod, hc, rfl⟩⟩

/-- Users that share well are accepted. -/
theorem ActualRequestUsage.From.fine (hshared : SharedWell claim.name allocated pods)
    (hnames : ∀ pod ∈ pods, (pod.allContainers.map ContainerRef.name).Nodup)
    (h : u.From (User claim.name allocated pods request)) : u.Fine := by
  constructor
  · refine h.containers.conflict_eq_none (fun c id c' id' hid hid' hk hk' => ?_) fun c id c' id' hid hid' hr => ?_
    · obtain ⟨pod, ⟨hpod, hc, huses⟩, rfl⟩ := hid
      obtain ⟨pod', ⟨hpod', hc', huses'⟩, rfl⟩ := hid'
      obtain rfl := hshared.pod pod hpod c hc pod' hpod' c' hc' request huses huses'
      rw [hshared.app pod hpod c hc c' hc' request hk hk' huses huses']
    · obtain ⟨pod, ⟨hpod, hc, huses⟩, rfl⟩ := hid
      obtain ⟨pod', ⟨hpod', hc', huses'⟩, rfl⟩ := hid'
      obtain rfl := hshared.pod pod hpod c hc pod' hpod' c' hc' request huses huses'
      have hname := hshared.sidecar pod hpod c hc c' hc' request hr huses huses'
      obtain rfl := inj_on_of_nodup_map (hnames pod hpod) hc hc' hname
      exact ⟨rfl, hr⟩
  · refine (short_iff h.nodup).mpr fun id hid id' hid' => ?_
    obtain ⟨pod, c, ⟨hpod, hc, huses⟩, rfl⟩ := h.pods id hid
    obtain ⟨pod', c', ⟨hpod', hc', huses'⟩, rfl⟩ := h.pods id' hid'
    rw [hshared.pod pod hpod c hc pod' hpod' c' hc' request huses huses']

/-- Every entry is made of users of its request. -/
def RecordedFrom (claim : ResourceClaim) (allocated : List Text) (pods : List Pod) (usages : ActualUsages) : Prop :=
  ∀ request, (entry .empty usages request).From (User claim.name allocated pods request)

variable (hnames : ∀ pod ∈ pods, (pod.allContainers.map ContainerRef.name).Nodup)

include hnames

theorem useAllocated_ok (hshared : SharedWell claim.name allocated pods)
    (huser : User claim.name allocated pods request pod c) {s : ActualUsages}
    (hs : RecordedFrom claim allocated pods s) :
    ∃ t, useAllocated claim pod c s request = .ok t ∧ RecordedFrom claim allocated pods t := by
  have hnew := (hs request).add huser
  refine ⟨_, updateEntry_of_none (refuse_eq_none.mpr (hnew.fine hshared hnames)), fun request' => ?_⟩
  by_cases hsame : request' = request
  · subst hsame
    rw [entry_insert]
    exact hnew
  · rw [entry_insert_of_ne _ hsame]
    exact hs request'

variable (hreads : ∀ ns name, r.resourceClaim ns name ≠ .failed) (huids : UniqueUIDs r claim)
variable (hns : ∀ pod ∈ pods, pod.ns = claim.ns)

include hreads huids hns

theorem validateContainer_ok (hsharable : r.Sharable claim pods) (hpod : pod ∈ pods)
    (hc : c ∈ pod.allContainers) {s : ActualUsages} (hs : RecordedFrom claim (r.allocatedVGPURequests claim) pods s) :
    ∃ t, r.validateContainer claim pod s c = .ok t ∧ RecordedFrom claim (r.allocatedVGPURequests claim) pods t := by
  obtain ⟨hits, hhits⟩ : ∃ hits, c.claims.mapM (r.claimRefHits claim pod) = .ok hits :=
    mapM_ok_of_forall fun ref href => (claimRefHits_ok_iff hreads ref).mpr
      (resolveActual_ok_iff.mpr (hsharable.wellFormed pod hpod c hc ref href))
  have hone := (oneClaim_iff huids hhits).mpr (hsharable.oneClaim pod hpod c hc)
  unfold Reader.validateContainer
  simp only [hhits, bind, Except.bind, if_neg (Nat.not_lt.mpr hone)]
  refine foldlM_ok _ (fun request hrequest s hs => ?_) hs
  -- what was hit of the claim was used
  have huses : Uses claim.name (r.allocatedVGPURequests claim) pod c request := by
    obtain ⟨hit, hhit, rfl⟩ := mem_map.mp (mem_sortedSet.mp hrequest)
    obtain ⟨hhit, huid⟩ := mem_filter.mp hhit
    obtain ⟨name, actual, hget, hactual, huses⟩ := (mem_hits hhits hit).mp hhit
    have hself : r.getClaimCached claim pod.ns claim.name = .found claim := getClaimCached_self (hns pod hpod)
    obtain rfl := huids pod.ns name claim.name actual claim hget hself (hactual.trans (beq_iff_eq.mp huid))
    rw [hself] at hget
    cases hget
    exact huses
  exact useAllocated_ok hnames hsharable.shared ⟨hpod, hc, huses⟩ hs

/-- **No allowed pattern is refused.** -/
theorem accepted_of_sharable (hpods : getReservedPods r.pod claim.ns claim.reservedFor = .ok pods)
    (hsharable : r.Sharable claim pods) : r.validateAllocatedVGPUSharing claim = .ok () := by
  by_cases hne : r.allocatedVGPURequests claim = []
  · exact accepted_of_no_vgpu hne
  · refine (accepted_iff_loop hpods hne).mpr ?_
    obtain ⟨t, ht, -⟩ := foldlM_ok (s := ∅)
      (RecordedFrom claim (r.allocatedVGPURequests claim) pods)
      (fun pod hpod s hs => foldlM_ok _ (fun c hc s hs =>
        validateContainer_ok hnames hreads huids hns hsharable hpod hc hs) hs) fun _ => .empty
    exact ⟨t, ht⟩

end Accept

section Decision

variable {r} {pods : List Pod} (hreader : Honest r.pod)
  (hpods : getReservedPods r.pod claim.ns claim.reservedFor = .ok pods)
  (hreads : ∀ ns name, r.resourceClaim ns name ≠ .failed) (huids : UniqueUIDs r claim)

include hreader hpods hreads huids

/-- **No conflict is missed.** -/
theorem sharable_of_accepted (hne : r.allocatedVGPURequests claim ≠ [])
    (h : r.validateAllocatedVGPUSharing claim = .ok ()) : r.Sharable claim pods := by
  obtain ⟨usages, husages⟩ := (accepted_iff_loop hpods hne).mp h
  -- every container was gone through
  have hcontainer : ∀ pod ∈ pods, ∀ c ∈ pod.allContainers, ∃ hits,
      c.claims.mapM (r.claimRefHits claim pod) = .ok hits ∧ (sortedSet (hits.flatten.map Prod.fst)).length ≤ 1 := by
    intro pod hpod c hc
    obtain ⟨_, _, hone⟩ := foldlM_ok_mem husages pod hpod
    obtain ⟨_, _, hone⟩ := foldlM_ok_mem hone c hc
    obtain ⟨hits, hhits, hone⟩ := bind_ok hone
    dsimp only at hone
    split at hone
    · cases hone
    · next hshort => exact ⟨hits, hhits, Nat.not_lt.mp hshort⟩
  refine ⟨fun pod hpod c hc ref href => ?_, fun pod hpod c hc => ?_,
    sharedWell_of_accepted hreader hpods h (List.Subset.refl _)⟩
  · obtain ⟨hits, hhits, -⟩ := hcontainer pod hpod c hc
    exact resolveActual_ok_iff.mp ((claimRefHits_ok_iff hreads ref).mp ((mem_mapM_ok hhits).1 ref href))
  · obtain ⟨hits, hhits, hshort⟩ := hcontainer pod hpod c hc
    exact (oneClaim_iff huids hhits).mp hshort

theorem accepted_iff_sharable (hnames : ∀ pod ∈ pods, (pod.allContainers.map ContainerRef.name).Nodup) :
    r.validateAllocatedVGPUSharing claim = .ok () ↔ r.allocatedVGPURequests claim = [] ∨ r.Sharable claim pods := by
  constructor
  · intro h
    by_cases hne : r.allocatedVGPURequests claim = []
    · exact .inl hne
    · exact .inr (sharable_of_accepted hreader hpods hreads huids hne h)
  · intro h
    rcases h with hnone | hsharable
    · exact accepted_of_no_vgpu hnone
    · exact accepted_of_sharable hnames hreads huids (fun pod hpod => (found_of_reserved hreader hpods hpod).1) hpods
        hsharable

end Decision

/-! ## 4. Order -/

/-- Each element of one list is related to one of the other. -/
def Matched {α : Type} (R : α → α → Prop) (l l' : List α) : Prop :=
  (∀ a ∈ l, ∃ b ∈ l', R a b) ∧ ∀ b ∈ l', ∃ a ∈ l, R a b

theorem Matched.symm {α : Type} {R : α → α → Prop} (hR : ∀ a b, R a b → R b a) {l l' : List α}
    (h : Matched R l l') : Matched R l' l :=
  ⟨fun b hb => (h.2 b hb).imp fun a ha => ⟨ha.1, hR a b ha.2⟩,
    fun a ha => (h.1 a ha).imp fun b hb => ⟨hb.1, hR a b hb.2⟩⟩

/-- The same container, with its references in whatever order. -/
structure SameContainer (c c' : ContainerRef) : Prop where
  name : c.name = c'.name
  kind : c.kind = c'.kind
  restartable : c.restartable = c'.restartable
  claims : ∀ ref, ref ∈ c.claims ↔ ref ∈ c'.claims

theorem SameContainer.symm (c c' : ContainerRef) (h : SameContainer c c') : SameContainer c' c :=
  ⟨h.name.symm, h.kind.symm, h.restartable.symm, fun ref => (h.claims ref).symm⟩

/-- The same pod, with its containers in whatever order. -/
structure SamePod (p p' : Pod) : Prop where
  ns : p.ns = p'.ns
  name : p.name = p'.name
  resourceClaims : p.resourceClaims = p'.resourceClaims
  claimStatuses : p.claimStatuses = p'.claimStatuses
  containers : Matched SameContainer p.allContainers p'.allContainers

theorem SamePod.symm (p p' : Pod) (h : SamePod p p') : SamePod p' p :=
  ⟨h.ns.symm, h.name.symm, h.resourceClaims.symm, h.claimStatuses.symm, h.containers.symm SameContainer.symm⟩

section Order

variable {r} {pods pods' : List Pod}

theorem SamePod.resolve {p p' : Pod} (h : SamePod p p') (podClaimName : Text) :
    resolveActualClaimNameForPodClaim p podClaimName = resolveActualClaimNameForPodClaim p' podClaimName := by
  unfold resolveActualClaimNameForPodClaim findPodResourceClaim getPodResourceClaimStatus
  rw [h.ns, h.name, h.resourceClaims, h.claimStatuses]

theorem uses_of_same {p p' : Pod} (hp : SamePod p p') {c' : ContainerRef} (hc : SameContainer c c') {name : Text}
    (h : Uses name allocated p' c' request) : Uses name allocated p c request := by
  obtain ⟨ref, href, hname, hmem⟩ := uses_iff.mp h
  exact uses_iff.mpr ⟨ref, (hc.claims ref).mpr href, (hp.resolve ref.name).trans hname, hmem⟩

/-- Pods in another order may share the same. -/
theorem sharable_of_matched (hsame : Matched SamePod pods pods')
    (hunique : ∀ p ∈ pods', ∀ q ∈ pods', p.name = q.name → p = q) (h : r.Sharable claim pods) :
    r.Sharable claim pods' := by
  refine ⟨fun p' hp' c' hc' ref href => ?_, fun p' hp' c' hc' name request name' request' huses huses' => ?_, ?_⟩
  · obtain ⟨p, hp, hpp⟩ := hsame.2 p' hp'
    obtain ⟨c, hc, hcc⟩ := hpp.containers.2 c' hc'
    have hok := resolveActual_ok_iff.mpr (h.wellFormed p hp c hc ref ((hcc.claims ref).mpr href))
    rw [hpp.resolve] at hok
    exact resolveActual_ok_iff.mp hok
  · obtain ⟨p, hp, hpp⟩ := hsame.2 p' hp'
    obtain ⟨c, hc, hcc⟩ := hpp.containers.2 c' hc'
    rw [← hpp.ns] at huses huses'
    exact h.oneClaim p hp c hc name request name' request' (uses_of_same hpp hcc huses) (uses_of_same hpp hcc huses')
  · refine ⟨fun p' hp' c' hc' q' hq' d' hd' request huses huses' => ?_,
      fun p' hp' c' hc' d' hd' request happ happ' huses huses' => ?_,
      fun p' hp' c' hc' d' hd' request hside huses huses' => ?_⟩
    · obtain ⟨p, hp, hpp⟩ := hsame.2 p' hp'
      obtain ⟨c, hc, hcc⟩ := hpp.containers.2 c' hc'
      obtain ⟨q, hq, hqq⟩ := hsame.2 q' hq'
      obtain ⟨d, hd, hdd⟩ := hqq.containers.2 d' hd'
      obtain rfl := h.shared.pod p hp c hc q hq d hd request (uses_of_same hpp hcc huses) (uses_of_same hqq hdd huses')
      exact hunique p' hp' q' hq' (hpp.name.symm.trans hqq.name)
    · obtain ⟨p, hp, hpp⟩ := hsame.2 p' hp'
      obtain ⟨c, hc, hcc⟩ := hpp.containers.2 c' hc'
      obtain ⟨d, hd, hdd⟩ := hpp.containers.2 d' hd'
      rw [← hcc.name, ← hdd.name]
      exact h.shared.app p hp c hc d hd request (hcc.kind.trans happ) (hdd.kind.trans happ')
        (uses_of_same hpp hcc huses) (uses_of_same hpp hdd huses')
    · obtain ⟨p, hp, hpp⟩ := hsame.2 p' hp'
      obtain ⟨c, hc, hcc⟩ := hpp.containers.2 c' hc'
      obtain ⟨d, hd, hdd⟩ := hpp.containers.2 d' hd'
      rw [← hcc.name, ← hdd.name]
      exact h.shared.sidecar p hp c hc d hd request (hcc.restartable.trans hside)
        (uses_of_same hpp hcc huses) (uses_of_same hpp hdd huses')

end Order

section Readers

variable {r} (reader' : PodReader) (refs' : List ConsumerRef)

/-- Which pods hold a claim has nothing to do with what was allocated for it. -/
theorem allocatedOf_readers (ns name : Text) :
    ({ r with pod := reader' } : Reader).allocatedOf { claim with reservedFor := refs' } ns name =
      r.allocatedOf claim ns name := by
  unfold Reader.allocatedOf Reader.getClaimCached
  by_cases hself : ns = claim.ns ∧ name = claim.name
  · rw [if_pos hself, if_pos hself]
    rfl
  · rw [if_neg hself, if_neg hself]
    rfl

theorem uniqueUIDs_readers (h : UniqueUIDs r claim) :
    UniqueUIDs { r with pod := reader' } { claim with reservedFor := refs' } := by
  have hfound {ns name : Text} {actual : ResourceClaim}
      (hget : ({ r with pod := reader' } : Reader).getClaimCached { claim with reservedFor := refs' } ns name =
        .found actual) : ∃ found, r.getClaimCached claim ns name = .found found ∧ found.uid = actual.uid := by
    unfold Reader.getClaimCached at hget ⊢
    by_cases hself : ns = claim.ns ∧ name = claim.name
    · rw [if_pos hself] at hget
      cases hget
      exact ⟨claim, if_pos hself, rfl⟩
    · rw [if_neg hself] at hget
      exact ⟨actual, (if_neg hself).trans hget, rfl⟩
  intro ns name name' actual actual' hget hget' huid
  obtain ⟨found, hfound₁, hsame⟩ := hfound hget
  obtain ⟨found', hfound₂, hsame'⟩ := hfound hget'
  exact h ns name name' found found' hfound₁ hfound₂ (hsame.trans (huid.trans hsame'.symm))

theorem sharable_readers {pods : List Pod} :
    ({ r with pod := reader' } : Reader).Sharable
    { claim with reservedFor := refs' } pods ↔ r.Sharable claim pods := by
  have hone (pod : Pod) (c : ContainerRef) :
      ({ r with pod := reader' } : Reader).OneClaim { claim with reservedFor := refs' } pod c ↔
        r.OneClaim claim pod c := by
    unfold Reader.OneClaim
    simp only [allocatedOf_readers]
  exact ⟨fun h => ⟨h.wellFormed, fun pod hpod c hc => (hone pod c).mp (h.oneClaim pod hpod c hc), h.shared⟩,
    fun h => ⟨h.wellFormed, fun pod hpod c hc => (hone pod c).mpr (h.oneClaim pod hpod c hc), h.shared⟩⟩

end Readers

/-- **What the claim webhook decides.** A claim with an allocated vGPU is accepted exactly if its pods may share it,
and one without always. The order of the pods, of their containers and of the references of these is of no
consequence. -/
theorem claim_sharing_exact {r : Reader} {claim : ResourceClaim} {pods : List Pod} (hreader : Honest r.pod)
    (hpods : getReservedPods r.pod claim.ns claim.reservedFor = .ok pods)
    (hreads : ∀ ns name, r.resourceClaim ns name ≠ .failed) (huids : UniqueUIDs r claim)
    (hnames : ∀ pod ∈ pods, (pod.allContainers.map ContainerRef.name).Nodup) :
    (r.validateAllocatedVGPUSharing claim = .ok () ↔ r.allocatedVGPURequests claim = [] ∨ r.Sharable claim pods) ∧
      ∀ (reader' : PodReader) (refs' : List ConsumerRef) (pods' : List Pod), Honest reader' →
        getReservedPods reader' claim.ns refs' = .ok pods' →
        (∀ pod ∈ pods', (pod.allContainers.map ContainerRef.name).Nodup) → Matched SamePod pods pods' →
        (({ r with pod := reader' } : Reader).validateAllocatedVGPUSharing
          { claim with reservedFor := refs' } = .ok () ↔
          r.validateAllocatedVGPUSharing claim = .ok ()) := by
  have hthis := accepted_iff_sharable hreader hpods hreads huids hnames
  refine ⟨hthis, fun reader' refs' pods' hreader' hpods' hnames' hsame => ?_⟩
  have hother := @accepted_iff_sharable { r with pod := reader' } { claim with reservedFor := refs' } pods' hreader'
    hpods' hreads (uniqueUIDs_readers reader' refs' huids) hnames'
  rw [hthis, hother, sharable_readers]
  refine or_congr Iff.rfl ⟨sharable_of_matched (hsame.symm SamePod.symm) (eq_of_reserved hreader hpods),
    sharable_of_matched hsame (eq_of_reserved hreader' hpods')⟩

/-- The containers of the pair may share the request. -/
theorem claim_sharing_exact_pair : (readerFor pairPod pairClaim).Sharable pairClaim [pairPod] := by
  have hclaim {ns name : Text} {actual : ResourceClaim}
      (h : (readerFor pairPod pairClaim).getClaimCached pairClaim ns name = .found actual) :
    name = pairClaim.name := by
    by_contra hne
    have hnone : (readerFor pairPod pairClaim).resourceClaim ns name = .notFound := if_neg fun h => hne h.2
    unfold Reader.getClaimCached at h
    rw [if_neg fun h => hne h.2, hnone] at h
    cases h
  have hexact := (@claim_sharing_exact (readerFor pairPod pairClaim) pairClaim [pairPod] (honest_readerFor _ _)
    (by decide +kernel) (fun ns name => ?_) (fun ns name name' actual actual' h h' _ => ?_)
    (validPods_holder (by decide)).names).1.mp (by decide +kernel)
  · exact hexact.resolve_left (by decide +kernel)
  · unfold readerFor
    dsimp only
    split <;> nofun
  · rw [hclaim h, hclaim h']

/-! ### A claim without vGPUs -/

/-- A claim of this name, with one request for a device of this class. -/
def oneRequestClaim (deviceClassName name : Text) : ResourceClaim :=
  { heldClaim ["r".toList] with
    name := name
    uid := name
    requests := [⟨"r".toList, some ⟨deviceClassName, []⟩, []⟩] }

/-- A pod that holds `claim` and whose container uses `first` and `second` too. -/
def threeClaimsPod : Pod :=
  { holder [] [⟨"app".toList, [⟨"gpus".toList, []⟩, ⟨"a".toList, []⟩, ⟨"b".toList, []⟩], false⟩] with
    resourceClaims := [⟨"gpus".toList, "claim".toList, []⟩, ⟨"a".toList, "first".toList, []⟩,
      ⟨"b".toList, "second".toList, []⟩] }

/-- `first` and `second` are for vGPUs. -/
def threeClaimsReader : Reader :=
  { readerFor threeClaimsPod (oneRequestClaim "nic-class".toList "claim".toList) with
    resourceClaim := fun ns name =>
      if ns = "ns".toList ∧ name ∈ ["first".toList, "second".toList] then
        .found (oneRequestClaim "vgpu-class".toList name)
      else .notFound }

/-- No vGPU is allocated for `claim`, so the webhook does not look at its pod, whose container uses two allocated
vGPU claims. -/
theorem other_claims_not_checked : (oneRequestClaim "nic-class".toList "claim".toList).allocation.isSome = true ∧
      getReservedPods threeClaimsReader.pod "ns".toList
        (oneRequestClaim "nic-class".toList "claim".toList).reservedFor =
        .ok [threeClaimsPod] ∧ (threeClaimsPod.allContainers.map ContainerRef.name).Nodup ∧
      threeClaimsReader.validateAllocatedVGPUSharing (oneRequestClaim "nic-class".toList "claim".toList) = .ok () ∧
      ∃ c ∈ threeClaimsPod.allContainers,
        ¬ threeClaimsReader.OneClaim (oneRequestClaim "nic-class".toList "claim".toList) threeClaimsPod c := by
  refine ⟨by decide, by decide +kernel, by decide, by decide +kernel, _, .head _, fun hone => ?_⟩
  have hsame := hone "first".toList "r".toList "second".toList "r".toList
    (uses_iff.mpr ⟨⟨"a".toList, []⟩, by decide, by decide, by decide +kernel⟩)
    (uses_iff.mpr ⟨⟨"b".toList, []⟩, by decide, by decide, by decide +kernel⟩)
  exact absurd hsame (by decide)

end VGpuManager.ClaimResolve.Webhook

import VGpuManager.Webhook.Sharing

/-!
# Exclusive use inside a pod

`checkResourceClaimRequests` shall let no two containers of a pod that run at the same time use one vGPU. It tells
requests apart by the name that the pod gives the claim. What the containers share is the claim itself
(`actualClaim`), and a pod can give one claim two names (`one_claim_two_names`).
-/

namespace VGpuManager.ClaimResolve.Webhook

open Foundation List

/-! ## 1. What is shared -/

/-- A claim: one that has a name, or one that is made for an entry of the pod. -/
inductive ActualClaim where
  | named (name : Text)
  | made (podClaimName : Text)
  deriving Repr, DecidableEq

variable (r : Reader) (infos : List ResourceInfo) (pod : Pod) (podClaimName mainRequest : Text)

/-- The claim that an entry of the pod stands for. -/
def actualClaim : Option ActualClaim :=
  match resolveActualClaimNameForPodClaim pod podClaimName with
  | .ok (some name) => some (.named name)
  | .ok none => some (.made podClaimName)
  | .error _ => none

/-- The entry's claim has this request, and a vGPU is what will be allocated for it: the claim is to be made of
limits, or every alternative of the request is a vGPU. -/
def Reader.Definite : Prop :=
  (∃ info ∈ infos, info.claimName = podClaimName ∧ info.requestName = mainRequest) ∨
    ∃ podClaim requests, findPodResourceClaim pod podClaimName = .ok podClaim ∧
      r.getDeviceRequestsForPodClaim pod.ns podClaim = .ok (some requests) ∧
      (r.buildPodRequestIndex requests).lookup mainRequest = some .defVGPU

/-- The reference is to the request, or to all requests of its claim. -/
def Reader.RefersTo (claimRef : ClaimRef) (claim : ActualClaim) (mainRequest : Text) : Prop :=
  actualClaim pod claimRef.name = some claim ∧
    (claimRef.request = [] ∨ claimRef.request = mainRequest) ∧ r.Definite infos pod claimRef.name mainRequest

def Reader.UsesDefinite (c : ContainerRef) (claim : ActualClaim) (mainRequest : Text) : Prop :=
  ∃ claimRef ∈ c.claims, r.RefersTo infos pod claimRef claim mainRequest

/-- **Exclusive use:** containers that run at the same time use no vGPU request of one claim. -/
def Reader.Exclusive : Prop :=
  ∀ c ∈ pod.allContainers, ∀ c' ∈ pod.allContainers, RunsBeside pod c pod c' → ∀ claim mainRequest,
    r.UsesDefinite infos pod c claim mainRequest → ¬ r.UsesDefinite infos pod c' claim mainRequest

/-- What containers that run at the same time use of one vGPU request of a claim, they use by one name of the
claim. -/
def Reader.OneNameEach : Prop :=
  ∀ c ∈ pod.allContainers, ∀ c' ∈ pod.allContainers, RunsBeside pod c pod c' → ∀ ref ∈ c.claims, ∀ ref' ∈ c'.claims,
    ∀ claim mainRequest, r.RefersTo infos pod ref claim mainRequest → r.RefersTo infos pod ref' claim mainRequest →
      ref.name = ref'.name

/-- Different names by which containers use vGPU requests stand for different claims. -/
def Reader.NamesApart : Prop :=
  ∀ c ∈ pod.allContainers, ∀ c' ∈ pod.allContainers, ∀ ref ∈ c.claims, ∀ ref' ∈ c'.claims,
    ∀ claim mainRequest mainRequest', r.RefersTo infos pod ref claim mainRequest →
      r.RefersTo infos pod ref' claim mainRequest' → ref.name = ref'.name

/-- As the mutating webhook writes it: a claim that is to be made of limits is referred to by the containers it is
made for, and request by request. -/
def AsConverted : Prop :=
  ∀ c ∈ pod.allContainers, ∀ claimRef ∈ c.claims, (∃ info ∈ infos, info.claimName = claimRef.name) →
    claimRef.request ≠ [] ∧ ∃ info ∈ infos, info.name = c.name ∧ info.claimName = claimRef.name

/-! ## 2. What the webhook sees -/

section Sees

variable {r infos pod} {c : ContainerRef} {claimRef : ClaimRef}
variable {mainRequest} {keys : List RequestKey}

/-- A claim that is made of limits. -/
theorem mem_requestKeys_of_converted (hinfo : ∃ info ∈ infos, info.name = c.name ∧ info.claimName = claimRef.name)
    (hrequest : claimRef.request ≠ [])
    (hok : r.requestKeys infos pod c claimRef = .ok keys) : ⟨claimRef.name, claimRef.request⟩ ∈ keys := by
  obtain ⟨info, hinfo, hname, hclaim⟩ := hinfo
  have hmem : info ∈ infos.filter fun info => info.name == c.name && info.claimName == claimRef.name :=
    mem_filter.mpr ⟨hinfo, by simp [hname, hclaim]⟩
  unfold Reader.requestKeys at hok
  split at hok
  · next hnone =>
    rw [hnone] at hmem
    cases hmem
  · rw [if_pos hrequest] at hok
    cases hok
    exact mem_singleton_self _

/-- A claim or template that is there. -/
theorem mem_resolveDefinite {podClaim : PodResourceClaim} {requests : List DeviceRequest}
    (hfind : findPodResourceClaim pod claimRef.name = .ok podClaim)
    (hrequests : r.getDeviceRequestsForPodClaim pod.ns podClaim = .ok (some requests))
    (hclass : (r.buildPodRequestIndex requests).lookup mainRequest = some .defVGPU)
    (hcovers : claimRef.request = [] ∨ claimRef.request = mainRequest)
    (hok : r.resolveDefiniteVGPURequests pod claimRef = .ok keys) : ⟨claimRef.name, mainRequest⟩ ∈ keys := by
  unfold Reader.resolveDefiniteVGPURequests at hok
  simp only [hfind, hrequests, Except.mapError, bind, Except.bind] at hok
  by_cases hall : claimRef.request = []
  · rw [if_neg (not_not_intro hall)] at hok
    cases hok
    refine mem_map.mpr ⟨⟨mainRequest, .defVGPU⟩, mem_filter.mpr ⟨?_, by simp⟩, rfl⟩
    exact AList.mem_lookup_iff.mp hclass
  · have hthis := hcovers.resolve_left hall
    rw [if_pos hall, hthis, hclass] at hok
    cases hok
    exact mem_singleton_self _

/-- **What is used is seen**, by the name that the pod gives the claim. -/
theorem mem_requestKeys (hconverted : AsConverted infos pod) (hc : c ∈ pod.allContainers) (href : claimRef ∈ c.claims)
    (hcovers : claimRef.request = [] ∨ claimRef.request = mainRequest)
    (hdefinite : r.Definite infos pod claimRef.name mainRequest)
    (hok : r.requestKeys infos pod c claimRef = .ok keys) : ⟨claimRef.name, mainRequest⟩ ∈ keys := by
  by_cases hmade : ∃ info ∈ infos, info.claimName = claimRef.name
  · obtain ⟨hrequest, hinfo⟩ := hconverted c hc claimRef href hmade
    have hmem := mem_requestKeys_of_converted hinfo hrequest hok
    rwa [hcovers.resolve_left hrequest] at hmem
  · have hfilter : (infos.filter fun info => info.name == c.name && info.claimName == claimRef.name) = [] := by
      refine filter_eq_nil_iff.mpr fun info hinfo hsame => hmade ⟨info, hinfo, ?_⟩
      simp only [Bool.and_eq_true, beq_iff_eq] at hsame
      exact hsame.2
    obtain ⟨podClaim, requests, hfind, hrequests, hclass⟩ := hdefinite.resolve_left fun h => by
      obtain ⟨info, hinfo, hname, -⟩ := h
      exact hmade ⟨info, hinfo, hname⟩
    unfold Reader.requestKeys at hok
    rw [hfilter] at hok
    exact mem_resolveDefinite hfind hrequests hclass hcovers (mapError_eq_ok.mp hok)

/-- In a pod that is accepted, the requests of every reference can be told. -/
theorem accepted_requestKeys {P : Platform} (hclaims : pod.resourceClaims ≠ [])
    (h : r.checkResourceClaimRequests P infos pod = .ok ()) :
    ∀ c ∈ pod.allContainers, ∀ claimRef ∈ c.claims, ∃ keys, r.requestKeys infos pod c claimRef = .ok keys := by
  unfold Reader.checkResourceClaimRequests at h
  rw [if_neg (by simpa using hclaims)] at h
  obtain ⟨usages, husages, -⟩ := bind_ok h
  intro c hc
  obtain ⟨s, t, hstep⟩ := foldlM_ok_mem husages c hc
  obtain ⟨keys, hkeys, -⟩ := bind_ok hstep
  exact (mem_mapM_ok hkeys).1

end Sees

/-! ## 3. Exclusive use -/

theorem mem_resourceClaims_of_actualClaim {pod : Pod} {name : Text} {claim : ActualClaim}
    (h : actualClaim pod name = some claim) : ∃ podClaim ∈ pod.resourceClaims, podClaim.name = name := by
  unfold actualClaim resolveActualClaimNameForPodClaim findPodResourceClaim at h
  cases hfind : pod.resourceClaims.find? fun c => c.name == name with
  | none =>
    rw [hfind] at h
    cases h
  | some podClaim => exact ⟨podClaim, mem_of_find?_eq_some hfind, by simpa using find?_some hfind⟩

/-- The check does what it is for if no vGPU request is used by two names at the same time. -/
theorem exclusive_of_one_name {P : Platform} {r : Reader} {infos : List ResourceInfo} {pod : Pod}
    (hnames : (pod.allContainers.map ContainerRef.name).Nodup) (hconverted : AsConverted infos pod)
    (haccepted : r.checkResourceClaimRequests P infos pod = .ok ()) (hone : r.OneNameEach infos pod) :
    r.Exclusive infos pod := by
  intro c hc c' hc' hbeside claim mainRequest huses huses'
  obtain ⟨ref, href, hrefers⟩ := huses
  obtain ⟨ref', href', hrefers'⟩ := huses'
  have hname := hone c hc c' hc' hbeside ref href ref' href' claim mainRequest hrefers hrefers'
  obtain ⟨hclaim, hcovers, hdefinite⟩ := hrefers
  obtain ⟨-, hcovers', hdefinite'⟩ := hrefers'
  have hclaims : pod.resourceClaims ≠ [] := by
    obtain ⟨podClaim, hmem, -⟩ := mem_resourceClaims_of_actualClaim hclaim
    exact ne_nil_of_mem hmem
  have hkeys := accepted_requestKeys hclaims haccepted
  -- both references are by one name, so both uses are under one key
  have hsees : r.Sees infos pod c ⟨ref.name, mainRequest⟩ := by
    obtain ⟨keys, hok⟩ := hkeys c hc ref href
    exact ⟨ref, href, keys, hok, mem_requestKeys hconverted hc href hcovers hdefinite hok⟩
  have hsees' : r.Sees infos pod c' ⟨ref.name, mainRequest⟩ := by
    obtain ⟨keys, hok⟩ := hkeys c' hc' ref' href'
    rw [hname]
    exact ⟨ref', href', keys, hok, mem_requestKeys hconverted hc' href' hcovers' hdefinite' hok⟩
  obtain ⟨usages, hholds, hnone, -⟩ := accepted_pod hclaims haccepted
  have hmatrix := Usage.compatible (hnone _) (hholds c hc _ hsees) (hholds c' hc' _ hsees')
  obtain ⟨i, j, hij, hi, hj, hruns⟩ := hbeside.resolve_left fun h => h rfl
  refine hij.ne (index_eq_of_name hnames hi hj ?_)
  rcases hruns with happ | hside
  · have happ' := app_of_later hij hi hj happ
    exact hmatrix.1 (restartable_of_app hc happ) (restartable_of_app hc' happ') happ happ'
  · exact (hmatrix.2 hside).2

/-- **The check does what it is for** if the names that are used stand for different claims, and exactly if no vGPU
request is used by two names at the same time. -/
theorem exclusive_iff_one_name {P : Platform} {r : Reader} {infos : List ResourceInfo} {pod : Pod}
    (hnames : (pod.allContainers.map ContainerRef.name).Nodup) (hconverted : AsConverted infos pod)
    (haccepted : r.checkResourceClaimRequests P infos pod = .ok ()) :
    (r.NamesApart infos pod → r.Exclusive infos pod) ∧ (r.Exclusive infos pod ↔ r.OneNameEach infos pod) := by
  have hexclusive := exclusive_of_one_name hnames hconverted haccepted
  refine ⟨fun h => hexclusive ?_, fun h => ?_, hexclusive⟩
  · intro c hc c' hc' _ ref href ref' href' claim mainRequest hrefers hrefers'
    exact h c hc c' hc' ref href ref' href' claim mainRequest mainRequest hrefers hrefers'
  · intro c hc c' hc' hbeside ref href ref' href' claim mainRequest hrefers hrefers'
    exact absurd ⟨ref', href', hrefers'⟩ (h c hc c' hc' hbeside claim mainRequest ⟨ref, href, hrefers⟩)

/-! ### One claim under two names -/

/-- Two app containers that use the request `r`, each by its own entry of the pod. -/
def twoEntries (first second : Text) : Pod :=
  { holder [] [⟨"app-1".toList, [⟨"a".toList, "r".toList⟩], false⟩, ⟨"app-2".toList, [⟨"b".toList, "r".toList⟩], false⟩]
    with resourceClaims := [⟨"a".toList, first, []⟩, ⟨"b".toList, second, []⟩] }

/-- A reader that finds `claim` and `other`, each with a vGPU request `r`. -/
def twoClaimsReader : Reader :=
  { readerFor (holder [] []) (heldClaim ["r".toList]) with
    resourceClaim := fun ns name =>
      if ns = "ns".toList ∧ name ∈ ["claim".toList, "other".toList] then
        .found { heldClaim ["r".toList] with name := name }
      else .notFound }

/-- Both entries stand for `claim`: its request is used by app containers that run at the same time, and the pod is
accepted. -/
theorem one_claim_two_names : ((twoEntries "claim".toList "claim".toList).allContainers.map ContainerRef.name).Nodup ∧
      AsConverted [] (twoEntries "claim".toList "claim".toList) ∧
      twoClaimsReader.checkResourceClaimRequests (.exact .int64) [] (twoEntries "claim".toList "claim".toList) =
        .ok () ∧ ¬ twoClaimsReader.Exclusive [] (twoEntries "claim".toList "claim".toList) := by
  refine ⟨by decide, fun _ _ _ _ h => ?_, by decide +kernel, fun hexclusive => ?_⟩
  · obtain ⟨info, hinfo, -⟩ := h
    cases hinfo
  · refine hexclusive ⟨"app-1".toList, [⟨"a".toList, "r".toList⟩], .app, false⟩ (by decide)
      ⟨"app-2".toList, [⟨"b".toList, "r".toList⟩], .app, false⟩ (by decide)
      (.inr ⟨0, 1, by decide, by decide, by decide, .inl rfl⟩) (.named "claim".toList) "r".toList ?_ ?_
    · exact ⟨_, .head _, by decide, .inr rfl, .inr ⟨⟨"a".toList, "claim".toList, []⟩,
        (heldClaim ["r".toList]).requests, by decide, by decide, by decide⟩⟩
    · exact ⟨_, .head _, by decide, .inr rfl, .inr ⟨⟨"b".toList, "claim".toList, []⟩,
        (heldClaim ["r".toList]).requests, by decide, by decide, by decide⟩⟩

/-- With a claim each, the use is exclusive. -/
theorem exclusive_iff_one_name_pair : twoClaimsReader.Exclusive [] (twoEntries "claim".toList "other".toList) := by
  refine (@exclusive_iff_one_name (.exact .int64) _ _ _ (by decide) (fun _ _ _ _ h => ?_) (by decide +kernel)).1 ?_
  · obtain ⟨info, hinfo, -⟩ := h
    cases hinfo
  · intro _ _ _ _ ref _ ref' _ claim _ _ hrefers hrefers'
    have hname {name : Text} (h : actualClaim (twoEntries "claim".toList "other".toList) name = some claim) :
        name = "a".toList ∧ claim = .named "claim".toList ∨ name = "b".toList ∧ claim = .named "other".toList := by
      obtain ⟨podClaim, hmem, rfl⟩ := mem_resourceClaims_of_actualClaim h
      simp only [twoEntries, mem_cons, not_mem_nil, or_false] at hmem
      rcases hmem with rfl | rfl
      · exact .inl ⟨rfl, (Option.some.inj h).symm⟩
      · exact .inr ⟨rfl, (Option.some.inj h).symm⟩
    rcases hname hrefers.1 with ⟨h, rfl⟩ | ⟨h, rfl⟩ <;> rcases hname hrefers'.1 with ⟨h', hc⟩ | ⟨h', hc⟩
    · rw [h, h']
    · exact absurd hc (by decide)
    · exact absurd hc (by decide)
    · rw [h, h']

end VGpuManager.ClaimResolve.Webhook

import VGpuManager.Allocator.Admission
import VGpuManager.Registry
import VGpuManager.Reservation

/-!
# What a successful allocation guarantees

The allocator places greedily in passes, the accounting reads the written annotation back and
reserves the lifecycle peak. This file joins the two.
-/

namespace VGpuManager

open Foundation List

variable {P : Platform} {A : IntArith} {n m : NodeInfo} {pod pod' : Pod}
  {req : AllocationRequest P.F} {need : ContainerNeed} {c : ContainerDeviceClaim}
  {now grace : Int}

/-! ## 1. Requests of a pod -/

/-- A request as `Allocate` gets it: built from the pod, with the statistics and the gang keys
the scheduler fills in later, and the cross-pod flag it clears for remote pods. -/
def AllocationRequest.BuiltFrom (pod : Pod) (req : AllocationRequest P.F) : Prop :=
  ∃ total max domainKey railKey crossPod, req = { buildAllocationRequest P pod with
    total := total, max := max, gangDomainKey := domainKey, gangRailKey := railKey
    crossPodTopology := crossPod }

theorem AllocationRequest.BuiltFrom.containers (h : req.BuiltFrom pod) : req.containers = containerNeeds pod := by
  obtain ⟨_, _, _, _, _, rfl⟩ := h
  rfl

theorem AllocationRequest.BuiltFrom.pod_eq (h : req.BuiltFrom pod) : req.pod = pod := by
  obtain ⟨_, _, _, _, _, rfl⟩ := h
  rfl

theorem AllocationRequest.BuiltFrom.hasSequentialInit (h : req.BuiltFrom pod) :
    req.hasSequentialInit = (containerNeeds pod).any ContainerNeed.sequentialInit := by
  obtain ⟨_, _, _, _, _, rfl⟩ := h
  rfl

theorem checkSelectors_none (v : Text) : checkSelectors P none none v = true := rfl

variable {d : Device} {Q : Device → Prop} {g : ContainerNeed → ContainerDeviceClaim} {needs : List ContainerNeed}

/-- An eligible device is one the pod's selectors accept. -/
theorem Eligible.selectors (hreq : req.BuiltFrom pod) (hne : containerNeeds pod ≠ [])
    (h : Eligible P req d) : checkDeviceType P pod.annotations d.deviceType = true ∧
      checkDeviceUuid P pod.annotations d.uuid = true := by
  obtain ⟨_, _, _, _, _, rfl⟩ := hreq
  have htype := h.type
  have huuid := h.uuid
  simp only [buildAllocationRequest, Bool.and_eq_true, Bool.not_eq_true', isEmpty_eq_false_iff,
    hne, ne_eq, not_false_eq_true, true_and, Bool.or_eq_true, Option.isSome_iff_ne_none]
    at htype huuid
  constructor
  · by_cases hsel : pod.annotations.includeGpuType = none ∧ pod.annotations.excludeGpuType = none
    · rw [checkDeviceType, hsel.1, hsel.2, checkSelectors_none]
    · exact htype (by tauto)
  · by_cases hsel : pod.annotations.includeGpuUuid = none ∧ pod.annotations.excludeGpuUuid = none
    · rw [checkDeviceUuid, hsel.1, hsel.2, checkSelectors_none]
    · exact huuid (by tauto)

theorem Container.need_eq {kind : ContainerKind} {x : Container}
    (h : x.need kind = some need) : 0 < x.vgpuNumber ∧ need =
      { name := x.name
        kind := kind
        restartable := kind = .init && x.restartable
        number := x.vgpuNumber
        cores := x.vgpuCores
        memory := x.vgpuMemory } := by
  unfold Container.need at h
  split at h
  · simp at h
  · exact ⟨by omega, (Option.some.inj h).symm⟩

theorem mem_containerNeeds : need ∈ containerNeeds pod ↔ (∃ x ∈ pod.initContainers, x.need .init = some need) ∨
      ∃ x ∈ pod.containers, x.need .app = some need := by
  simp [containerNeeds]

theorem number_pos (h : need ∈ containerNeeds pod) : 0 < need.number := by
  rcases mem_containerNeeds.mp h with ⟨x, -, hx⟩ | ⟨x, -, hx⟩
  all_goals
    obtain ⟨hpos, rfl⟩ := Container.need_eq hx
    exact hpos

theorem isVGPUResourcePod_of_needs (h : containerNeeds pod ≠ []) : isVGPUResourcePod pod = true := by
  obtain ⟨need, hneed⟩ := exists_mem_of_ne_nil _ h
  rcases mem_containerNeeds.mp hneed with ⟨x, hx, heq⟩ | ⟨x, hx, heq⟩
  all_goals
    have hpos : x.isVGPURequired = true := decide_eq_true (Container.need_eq heq).1
    have hany := any_eq_true.mpr ⟨x, hx, hpos⟩
    simp [isVGPUResourcePod, hany]

/-- A pod as the API server admits it: container names differ and hold no separator, limits are
not negative. -/
@[mk_iff]
structure Pod.WellFormed (A : IntArith) (pod : Pod) : Prop where
  names : ((pod.initContainers ++ pod.containers).map Container.name).Nodup
  name_free : ∀ x ∈ pod.initContainers ++ pod.containers, SeparatorFree x.name
  cores : ∀ x ∈ pod.initContainers ++ pod.containers, 0 ≤ x.vgpuCores ∧ A.Fits x.vgpuCores
  memory : ∀ x ∈ pod.initContainers ++ pod.containers, 0 ≤ x.vgpuMemory ∧ A.Fits x.vgpuMemory

instance (A : IntArith) (pod : Pod) : Decidable (pod.WellFormed A) := decidable_of_iff _ (Pod.wellFormed_iff A pod).symm

theorem needs_names_sublist (kind : ContainerKind) : ∀ l : List Container,
    ((l.filterMap (Container.need kind)).map ContainerNeed.name).Sublist (l.map Container.name)
  | [] => .slnil
  | x :: l => by
    rw [filterMap_cons]
    split
    · exact (needs_names_sublist kind l).cons _
    · rename_i need hneed
      rw [map_cons, map_cons, (Container.need_eq hneed).2]
      exact (needs_names_sublist kind l).cons_cons _

theorem Pod.WellFormed.nodup_needs (h : pod.WellFormed A) : ((containerNeeds pod).map ContainerNeed.name).Nodup := by
  refine List.Sublist.nodup ?_ h.names
  rw [containerNeeds, map_append, map_append]
  exact (needs_names_sublist _ _).append (needs_names_sublist _ _)

/-! ## 2. A node and a pod to evaluate -/

variable (memoryFactor : Int)

/-- A node with two cards of 100 cores and 10000 MB, shared by ten. -/
def twoCards : Node where
  name := "gpu-node".toList
  vgpuAllocatable := 20
  deviceRegister := .value [ { id := 0, uuid := "GPU-a".toList, core := 100, memory := 10000, number := 10 },
    { id := 1, uuid := "GPU-b".toList, core := 100, memory := 10000, number := 10 }]
  configInfo := .value { deviceSplit := 10, memoryFactor := memoryFactor }

theorem twoCards_wellFormed :
    ∀ ds, NodeInfo.Options.registry (twoCards memoryFactor) {} = .ok ds → Registry.WellFormed .int64 ds := by
  intro ds h
  cases h
  decide +kernel

/-- A pod with a sidecar, an init container and a regular container. -/
def mixedPod : Pod where
  name := "mixed".toList
  uid := "u1".toList
  initContainers := [
    { name := "proxy".toList, restartable := true, vgpuNumber := 1, vgpuCores := 10,
      vgpuMemory := 1000 },
    { name := "warmup".toList, vgpuNumber := 2, vgpuCores := 80, vgpuMemory := 8000 }]
  containers := [{ name := "train".toList, vgpuNumber := 2, vgpuCores := 60, vgpuMemory := 6000 }]

/-- The empty snapshot of `twoCards`. -/
def twoCardsInfo : Except NodeInfoError NodeInfo :=
  newNodeInfo (.exact .int64) 0 0 (twoCards memoryFactor) {}

/-! ## 3. The claims of a pod -/

/-- A pod that was allocated: the claims of a placement are written to it, with the node. -/
theorem allocate_placement (hreq : req.BuiltFrom pod) (hnames : ((containerNeeds pod).map ContainerNeed.name).Nodup)
    (h : allocate P now grace n req = .ok (pod', m)) :
    ∃ g, PodPlacement P now grace n req g ∧
      pod' = { pod with annotations := { pod.annotations with
        preAllocated := some (PodDeviceClaim.marshalText ((containerNeeds pod).map g))
        predicateNode := some n.name } } := by
  obtain ⟨⟨claims, m'⟩, hclaims, h⟩ := bind_ok h
  obtain ⟨rfl, rfl⟩ := Prod.mk.inj (Except.ok.inj h)
  obtain ⟨g, rfl, hplace, hsame⟩ := allocateClaims_spec (by rwa [hreq.containers]) hclaims
  have hname : m'.name = n.name := by rw [hsame.rest]
  exact ⟨g, hplace, by rw [hreq.pod_eq, hreq.containers, hname]⟩

/-- One container got what it asked for: one claim on each of `number` different registered
devices, each healthy, not in MIG mode and accepted by the pod's selectors. -/
structure ContainerServed (P : Platform) (n : NodeInfo) (pod : Pod) (need : ContainerNeed)
    (c : ContainerDeviceClaim) : Prop where
  name : c.name = need.name
  count : (c.deviceClaims.length : Int) = need.number
  distinct : (c.deviceClaims.map DeviceClaim.id).Nodup
  device : ∀ claim ∈ c.deviceClaims, ∃ d ∈ n.devices, claim.id = d.id ∧ claim.uuid = d.uuid ∧
    d.healthy = true ∧ d.mig = false ∧ checkDeviceType P pod.annotations d.deviceType = true ∧
    checkDeviceUuid P pod.annotations d.uuid = true

/-- **The claims of an allocated pod**: the requesting containers in request order, each served
exactly. -/
theorem allocate_result (hreq : req.BuiltFrom pod) (hnames : ((containerNeeds pod).map ContainerNeed.name).Nodup)
    (h : allocate P now grace n req = .ok (pod', m)) :
    ∃ claims, pod'.annotations.preAllocated = some (PodDeviceClaim.marshalText claims) ∧
      List.Forall₂ (ContainerServed P n pod) (containerNeeds pod) claims := by
  obtain ⟨g, hplace, rfl⟩ := allocate_placement hreq hnames h
  refine ⟨_, rfl, ?_⟩
  rw [forall₂_map_right_iff, forall₂_same]
  intro need hneed
  have hp := hplace.placed need (by rwa [hreq.containers])
  refine ⟨hp.name, hp.count, hp.distinct, fun claim hc => ?_⟩
  obtain ⟨d, hd, helig, rfl⟩ := hp.each claim hc
  exact ⟨d, hd, rfl, rfl, helig.healthy, helig.notMig, helig.selectors hreq (ne_nil_of_mem hneed)⟩

theorem allocate_result_mixed : ∃ n pod' m claims, twoCardsInfo 1 = .ok n ∧
    allocate (.exact .int64) 0 0 n (buildAllocationRequest _ mixedPod) = .ok (pod', m) ∧
    pod'.annotations.preAllocated = some (PodDeviceClaim.marshalText claims) ∧
    List.Forall₂ (ContainerServed (.exact .int64) n mixedPod) (containerNeeds mixedPod) claims := by
  have hn := eq_okValue (x := twoCardsInfo 1) (by decide +kernel)
  have ha := eq_okValue (x := allocate (.exact .int64) 0 0 (okValue (twoCardsInfo 1)
    (by decide +kernel)) (buildAllocationRequest _ mixedPod)) (by decide +kernel)
  obtain ⟨claims, hpre, hserved⟩ := allocate_result ⟨_, _, _, _, _, rfl⟩ (by decide +kernel) ha
  exact ⟨_, _, _, claims, hn, ha, hpre, hserved⟩

/-! ## 4. What the accounting reads back -/

/-- The scaled memory of no requesting container wraps to a negative number. -/
def ScaledNotNegative (A : IntArith) (n : NodeInfo) (pod : Pod) : Prop :=
  ∀ need ∈ containerNeeds pod, 0 < n.memoryFactor → 0 ≤ A.mul need.memory n.memoryFactor
  deriving Decidable

theorem mem_containerNeeds_container (h : need ∈ containerNeeds pod) :
    ∃ x ∈ pod.initContainers ++ pod.containers, need.name = x.name ∧ need.cores = x.vgpuCores ∧
      need.memory = x.vgpuMemory := by
  rcases mem_containerNeeds.mp h with ⟨x, hx, heq⟩ | ⟨x, hx, heq⟩ <;>
    exact ⟨x, by simp [hx], by rw [(Container.need_eq heq).2]; exact ⟨rfl, rfl, rfl⟩⟩

theorem Device.Sound.getTotal_fits (h : d.Sound A) (r : Resource) : A.Fits (d.getTotal r) := by
  unfold Device.getTotal
  split
  · exact A.fits_zero
  · exact h.total_fits r

theorem NodeInfo.Sound.maxMemory_ok (h : n.Sound A) : 0 ≤ n.maxDeviceMemory ∧ A.Fits n.maxDeviceMemory := by
  rcases h.maxMemory with hz | ⟨d, hd, heq⟩
  · simp [hz]
  · rw [heq]
    exact ⟨d.getTotal_nonneg _, (h.devices d hd).getTotal_fits _⟩

theorem Device.Sound.reqMemory_fits (hd : d.Sound A) {x : Int} (hx : A.Fits x) : A.Fits (reqMemory d x) := by
  unfold reqMemory
  split
  · exact hd.getTotal_fits _
  · exact hx

theorem reqMemory_nonneg {x : Int} (hx : 0 ≤ x) : 0 ≤ reqMemory d x := by
  unfold reqMemory
  split
  · exact d.getTotal_nonneg _
  · exact hx

/-- What holds of all the numbers `resolveContainerNeeds` chooses from holds of the needs. -/
theorem resolve_of {Q : Int → Prop} (hwhole : Q hundredCore) (hcores : Q need.cores)
    (hmax : Q n.maxDeviceMemory) (hmemory : Q need.memory)
    (hscaled : 0 < n.memoryFactor → Q (A.mul need.memory n.memoryFactor)) :
    Q (n.resolve A need).1 ∧ Q (n.resolve A need).2 := by
  have hchosen : Q (if 0 < need.memory ∧ 0 < n.memoryFactor then
      A.mul need.memory n.memoryFactor else need.memory) := by
    split
    · rename_i hpos
      exact hscaled hpos.2
    · exact hmemory
  simp only [NodeInfo.resolve, resolveContainerNeeds]
  generalize (if 0 < need.memory ∧ 0 < n.memoryFactor then A.mul need.memory n.memoryFactor
    else need.memory) = memory at hchosen ⊢
  constructor
  · split
    · exact hwhole
    · exact hcores
  · split
    · exact hmax
    · exact hchosen

section Needs

variable (hn : n.Sound A) (hpod : pod.WellFormed A) (hneed : need ∈ containerNeeds pod)

include hn hpod hneed

/-- The needs of a container on a node are values of the type. -/
theorem resolve_fits : A.Fits (n.resolve A need).1 ∧ A.Fits (n.resolve A need).2 := by
  obtain ⟨x, hx, -, hcores, hmemory⟩ := mem_containerNeeds_container hneed
  exact resolve_of (A.fits_small (by decide) (by decide)) (hcores ▸ (hpod.cores x hx).2)
    hn.maxMemory_ok.2 (hmemory ▸ (hpod.memory x hx).2) fun _ => A.fits_mul _ _

/-- They are not negative, if the scaled memory does not wrap. -/
theorem resolve_nonneg (hmem : 0 < n.memoryFactor → 0 ≤ A.mul need.memory n.memoryFactor) :
    0 ≤ (n.resolve A need).1 ∧ 0 ≤ (n.resolve A need).2 := by
  obtain ⟨x, hx, -, hcores, hmemory⟩ := mem_containerNeeds_container hneed
  exact resolve_of (by decide) (hcores ▸ (hpod.cores x hx).1) hn.maxMemory_ok.1
    (hmemory ▸ (hpod.memory x hx).1) hmem

/-- The claims of a placed container survive the text form. -/
theorem Placement.encodable (h : Placement A n Q need c) : c.Encodable A := by
  obtain ⟨hcores, hmemory⟩ := resolve_fits hn hpod hneed
  obtain ⟨x, hx, hname, -, -⟩ := mem_containerNeeds_container hneed
  refine ⟨by rw [h.name, hname]; exact hpod.name_free x hx, fun claim hc => ?_⟩
  obtain ⟨d, hd, -, rfl⟩ := h.each claim hc
  have hs := hn.devices d hd
  exact ⟨hs.id_fits, hcores, hs.reqMemory_fits hmemory, hs.uuid_free⟩

/-- The claims of a placed container take nothing negative. -/
theorem Placement.usage_nonneg (hmem : 0 < n.memoryFactor → 0 ≤ A.mul need.memory n.memoryFactor)
    (h : Placement A n Q need c) : ∀ e ∈ c.usage, ∀ r, 0 ≤ e.2.get r := by
  obtain ⟨hcores, hmemory⟩ := resolve_nonneg hn hpod hneed hmem
  intro e he r
  obtain ⟨claim, hc, rfl⟩ := mem_map.mp he
  obtain ⟨d, hd, -, rfl⟩ := h.each claim hc
  cases r with
  | number => exact Int.one_nonneg
  | cores => exact hcores
  | memory => exact reqMemory_nonneg hmemory

end Needs

/-! ## 5. Lifecycle groups -/

/-- The accounting sorts a claim into the group its container was placed in. -/
theorem claim_group (hpod : pod.WellFormed A) (hinit : pod'.initContainers = pod.initContainers)
    (hneed : need ∈ containerNeeds pod) (hname : c.name = need.name) :
    isInitClaim pod' c = need.sequentialInit ∧ isSidecarClaim pod' c = need.sidecar ∧
      isRegularClaim pod' c = decide (need.kind = .app) := by
  obtain ⟨hseq, hside⟩ := names_congr hinit
  obtain ⟨hinits, hregular⟩ := names_groups hpod.names
  simp only [isRegularClaim, isSidecarClaim, isInitClaim, hseq, hside, hname, ContainerNeed.sequentialInit,
    ContainerNeed.sidecar]
  rcases mem_containerNeeds.mp hneed with ⟨x, hx, heq⟩ | ⟨x, hx, heq⟩
  · obtain ⟨-, rfl⟩ := Container.need_eq heq
    cases hr : x.restartable <;> simp [hinits x hx, hr]
  · obtain ⟨-, rfl⟩ := Container.need_eq heq
    simp [hregular x hx]

theorem podHasVGPUInitContainer_iff :
    podHasVGPUInitContainer pod = (containerNeeds pod).any ContainerNeed.sequentialInit := by
  rw [Bool.eq_iff_iff, podHasVGPUInitContainer, any_eq_true, any_eq_true]
  constructor
  · rintro ⟨x, hx, hreq⟩
    simp only [Container.isVGPURequired, Bool.and_eq_true, decide_eq_true_eq, Bool.not_eq_true'] at hreq
    refine ⟨_, mem_containerNeeds.mpr (.inl ⟨x, hx, if_neg (by omega)⟩), ?_⟩
    simp [ContainerNeed.sequentialInit, hreq.2]
  · rintro ⟨need, hneed, hseq⟩
    rcases mem_containerNeeds.mp hneed with ⟨x, hx, heq⟩ | ⟨x, hx, heq⟩
    · obtain ⟨hpos, rfl⟩ := Container.need_eq heq
      refine ⟨x, hx, ?_⟩
      simpa [Container.isVGPURequired, ContainerNeed.sequentialInit, hpos] using hseq
    · obtain ⟨-, rfl⟩ := Container.need_eq heq
      simp [ContainerNeed.sequentialInit] at hseq

/-! ## 6. Capacity -/

/-- Every resource of the device is used within its total. -/
def Device.WithinCapacity (d : Device) : Prop := ∀ r, d.used.get r ≤ d.total.get r
  deriving Decidable

theorem mem_usageOf {e : Text × Amount} (h : e ∈ usageOf g needs) : ∃ need ∈ needs, e ∈ (g need).usage :=
  mem_flatMap.mp h

theorem filter_claims {p : ContainerDeviceClaim → Bool}
    {q : ContainerNeed → Bool} (h : ∀ need ∈ needs, p (g need) = q need) :
    usageAll ((needs.map g).filter p) = usageOf g (needs.filter q) := by
  have hfilter : needs.filter (p ∘ g) = needs.filter q := filter_congr h
  rw [filter_map, hfilter]
  simp [usageAll, usageOf, flatMap_map]

/-- Without a sequential init container the request lists the sidecars and then the regular
containers. -/
theorem needs_split (h : (containerNeeds pod).any ContainerNeed.sequentialInit = false) :
    (containerNeeds pod).filter ContainerNeed.sidecar ++
      (containerNeeds pod).filter (fun need => need.kind = .app) = containerNeeds pod := by
  have hno : ∀ need ∈ containerNeeds pod, need.sequentialInit = false := by simpa using h
  have hkind : ∀ kind (l : List Container), ∀ need ∈ l.filterMap (Container.need kind), need.kind = kind := by
    intro kind l need hneed
    obtain ⟨x, -, heq⟩ := mem_filterMap.mp hneed
    rw [(Container.need_eq heq).2]
  rw [containerNeeds] at hno ⊢
  have hinit := hkind .init pod.initContainers
  have happ := hkind .app pod.containers
  generalize pod.initContainers.filterMap (Container.need .init) = inits at hno hinit ⊢
  generalize pod.containers.filterMap (Container.need .app) = apps at hno happ ⊢
  have h₁ : inits.filter ContainerNeed.sidecar = inits :=
    filter_eq_self.mpr fun need hneed => by
      have hseq := hno need (mem_append_left _ hneed)
      simpa [ContainerNeed.sequentialInit, ContainerNeed.sidecar, hinit need hneed] using hseq
  have h₂ : apps.filter ContainerNeed.sidecar = [] :=
    filter_eq_nil_iff.mpr fun need hneed => by simp [ContainerNeed.sidecar, happ need hneed]
  have h₃ : inits.filter (fun need => need.kind = .app) = [] :=
    filter_eq_nil_iff.mpr fun need hneed => by simp [hinit need hneed]
  have h₄ : apps.filter (fun need => need.kind = .app) = apps :=
    filter_eq_self.mpr fun need hneed => by simp [happ need hneed]
  rw [filter_append, filter_append, h₁, h₂, h₃, h₄, append_nil, nil_append]

/-- What a placement admits on every device, in the same form with and without sequential init
containers. -/
theorem PodPlacement.admitted (hn : n.Indexed) (hreq : req.BuiltFrom pod) (h : PodPlacement P now grace n req g)
    (hd : d ∈ n.devices) : AdmittedOn P.int d (usageOf g ((containerNeeds pod).filter ContainerNeed.sidecar) ++
        usageOf g ((containerNeeds pod).filter fun need => need.kind = .app)) ∧
      ∀ need ∈ containerNeeds pod, need.sequentialInit = true →
        InitAdmitted P.int d (usageOf g ((containerNeeds pod).filter ContainerNeed.sidecar)) (g need) := by
  cases hseq : req.hasSequentialInit with
  | true =>
    rw [← hreq.containers]
    exact ⟨h.main hn hseq d hd, h.inits hn hseq d hd⟩
  | false =>
    have hany := hreq.hasSequentialInit.symm.trans hseq
    refine ⟨?_, fun need hneed hs => absurd hs (any_eq_false.mp hany need hneed)⟩
    rw [usageOf, usageOf, ← flatMap_append, needs_split hany, ← hreq.containers]
    exact h.concurrent hn hseq d hd

/-- One init container at one GPU: what it takes is within what the sidecars leave. -/
theorem InitAdmitted.peak_le {stay : List (Text × Amount)}
    {r : Resource} (hn : n.Indexed) (hp : Placement A n Q need c) (hd : d ∈ n.devices)
    (hnn : ∀ e ∈ c.usage, ∀ r, 0 ≤ e.2.get r) (h : InitAdmitted A d stay c) :
    A.fill 0 (demandsAt d.uuid r c.usage) = (demandsAt d.uuid r c.usage).sum ∧
      0 ≤ (demandsAt d.uuid r c.usage).sum ∧ (demandsAt d.uuid r c.usage).sum ≤
        A.left (d.total.get r) (A.fill (d.used.get r) (demandsAt d.uuid r stay)) := by
  have hleft := NodeInfo.get_foldl_add A r (NodeInfo.amountsOf d.uuid stay) d.used
  rcases hp.amounts hn hd with hnone | ⟨-, hone⟩
  · rw [demandsAt, hnone]
    exact ⟨rfl, le_rfl, IntArith.left_nonneg⟩
  · have hle := h _ (by rw [hone]; exact mem_singleton.mpr rfl) r
    rw [usedAfter, hleft] at hle
    have h0 : 0 ≤ (claimOn A n need d).amount.get r := by
      have hmem : (claimOn A n need d).amount ∈ NodeInfo.amountsOf d.uuid c.usage := by
        rw [hone]
        exact mem_singleton_self _
      exact hnn _ (mem_amountsOf.mp hmem) r
    have hfits : A.Fits (0 + (claimOn A n need d).amount.get r) :=
      A.fits_zero.between (A.fits_left _ _) (Int.add_nonneg le_rfl h0) ((Int.zero_add _).trans_le hle)
    rw [demandsAt, hone]
    simp only [map_cons, map_nil, IntArith.fill, foldl_cons, foldl_nil,
      hfits.add_eq, Int.zero_add, sum_cons, sum_nil, Int.add_zero]
    exact ⟨trivial, h0, hle⟩

section Read

variable (hinit : pod'.initContainers = pod.initContainers)

include hinit

/-- Without sequential init containers the accounting adds every claim. -/
theorem podUsage_of_no_init (hclaims : getPodDeviceClaim P.int pod' = (containerNeeds pod).map g)
    (hi : podHasVGPUInitContainer pod = false) : podUsage P pod' = usageOf g (containerNeeds pod) := by
  rw [podUsage, podHasVGPUInitContainer_congr hinit, hi, hclaims]
  simp [usageOf, flatMap_map]

variable (hn : n.Sound P.int) (hpod : pod.WellFormed P.int) (hreq : req.BuiltFrom pod)
  (h : PodPlacement P now grace n req g)

omit hinit
include hreq h

theorem PodPlacement.placed_need (hneed : need ∈ containerNeeds pod) : Placement P.int n (Eligible P req) need
    (g need) :=
  h.placed need (by rwa [hreq.containers])

include hn hpod

/-- A placed pod takes nothing negative of any device. -/
theorem PodPlacement.demands_nonneg (hmem : ScaledNotNegative P.int n pod) (u : Text) (r : Resource)
    (needs : List ContainerNeed) (hsub : ∀ need ∈ needs, need ∈ containerNeeds pod) :
    ∀ v ∈ demandsAt u r (usageOf g needs), 0 ≤ v := by
  intro v hv
  obtain ⟨a, ha, rfl⟩ := mem_demandsAt.mp hv
  obtain ⟨need, hneed, he⟩ := mem_usageOf ha
  have hneed := hsub need hneed
  exact (h.placed_need hreq hneed).usage_nonneg hn hpod hneed (hmem need hneed) _ he r

/-- The accounting reads the claims of a placement back. -/
theorem PodPlacement.claims_read (hpre : pod'.annotations.preAllocated =
      some (PodDeviceClaim.marshalText ((containerNeeds pod).map g)))
    (hreal : decodeClaims P.int pod'.annotations.realAllocated = []) :
    getPodDeviceClaim P.int pod' = (containerNeeds pod).map g := by
  have hencodable : ∀ c ∈ (containerNeeds pod).map g, c.Encodable P.int := forall_mem_map.mpr fun need hneed =>
    (h.placed_need hreq hneed).encodable hn hpod hneed
  simp only [getPodDeviceClaim, hpre, hreal, decodeClaims_marshalText hencodable, length_nil, Nat.le_zero,
    length_eq_zero_iff]
  split
  · next hnil => exact hnil.symm
  · rfl

include hinit

/-- **What the accounting adds for an allocated pod fits** on every device that was within its
capacity. -/
theorem PodPlacement.usage_le (hmem : ScaledNotNegative P.int n pod)
    (hclaims : getPodDeviceClaim P.int pod' = (containerNeeds pod).map g)
    (hd : d ∈ n.devices) (hcap : d.WithinCapacity) (r : Resource) :
    P.int.fill (d.used.get r) (demandsAt d.uuid r (podUsage P pod')) ≤ d.total.get r := by
  have hs := hn.devices d hd
  have hplaced : ∀ need ∈ containerNeeds pod, Placement P.int n (Eligible P req) need (g need) :=
    fun _ hneed => h.placed_need hreq hneed
  have hnn := h.demands_nonneg hn hpod hreq hmem d.uuid r
  have hsame := podHasVGPUInitContainer_congr hinit
  obtain ⟨hmain, hinits⟩ := h.admitted hn.indexed hreq hd
  have hadm := hmain r
  cases hi : podHasVGPUInitContainer pod with
  | false =>
    rw [usageOf, usageOf, ← flatMap_append,
      needs_split (by rw [← podHasVGPUInitContainer_iff, hi]), ← usageOf] at hadm
    obtain ⟨hfill, hle, -⟩ := hadm.fill_le (hs.total_fits r) (hs.used_fits r) (hcap r) (hnn _ fun need h => h)
    rw [podUsage_of_no_init hinit hclaims hi]
    exact hfill.trans_le hle
  | true =>
    rw [NodeInfo.amountsOf_append, map_append] at hadm
    have hgroup := fun need hneed =>
      claim_group hpod hinit hneed (hplaced need hneed).name
    have hbound : ∀ v ∈ peaksAt P.int d.uuid r (((containerNeeds pod).map g).filter (isInitClaim pod')), 0 ≤ v ∧
        v ≤ P.int.left (d.total.get r) (P.int.fill (d.used.get r) (demandsAt d.uuid r
          (usageOf g ((containerNeeds pod).filter ContainerNeed.sidecar)))) := by
      intro v hv
      obtain ⟨c, hc, rfl⟩ := mem_map.mp hv
      obtain ⟨hc, hci⟩ := mem_filter.mp hc
      obtain ⟨need, hneed, rfl⟩ := mem_map.mp hc
      have hin := hinits need hneed (by rwa [← (hgroup need hneed).1])
      obtain ⟨hfill, hpeak⟩ := hin.peak_le hn.indexed (hplaced need hneed) hd
        ((hplaced need hneed).usage_nonneg hn hpod hneed (hmem need hneed))
      exact hfill.symm ▸ hpeak
    rcases podUsage_amounts pod' (hsame.trans hi) d.uuid with hnone | ⟨a, hone, ha⟩
    · rw [demandsAt, hnone]
      exact hcap r
    · rw [demandsAt, hone]
      simp only [map_cons, map_nil, IntArith.fill, foldl_cons, foldl_nil, ha, hclaims, reservedAt]
      rw [filter_claims fun need h => (hgroup need h).2.1, filter_claims fun need h => (hgroup need h).2.2]
      exact IntArith.reserve_le (hs.total_fits r) (hs.used_fits r) (hnn _ fun _ => mem_of_mem_filter)
        (hnn _ fun _ => mem_of_mem_filter) hadm (fun v hv => (hbound v hv).2) (hcap r)
        fun v hv => (hbound v hv).1

end Read

/-- **An allocated pod fits.** On a node built by `newNodeInfo` whose devices are within their
capacity, counting the pod `Allocate` returned leaves every device within its capacity. -/
theorem allocate_within_capacity {node : Node} {opts : NodeInfo.Options} {now' grace' : Int}
    (hreg : ∀ ds, opts.registry node = .ok ds → Registry.WellFormed P.int ds)
    (hn : newNodeInfo P now grace node opts = .ok n) (hpod : pod.WellFormed P.int)
    (hreq : req.BuiltFrom pod) (hmem : ScaledNotNegative P.int n pod)
    (hcap : ∀ d ∈ n.devices, d.WithinCapacity) (hreal : pod.annotations.realAllocated = none)
    (h : allocate P now grace n req = .ok (pod', m)) :
    ∀ d ∈ (n.addPodUsedResources P now' grace' pod').devices, d.WithinCapacity := by
  have hsound := newNodeInfo_sound hreg hn
  obtain ⟨g, hplace, hpod'⟩ := allocate_placement hreq hpod.nodup_needs h
  have hread : getPodDeviceClaim P.int pod' = (containerNeeds pod).map g :=
    hplace.claims_read hsound hpod hreq (by rw [hpod']) (by
      rw [hpod']
      show decodeClaims P.int pod.annotations.realAllocated = []
      rw [hreal]
      rfl)
  unfold NodeInfo.addPodUsedResources
  split
  · intro e he r
    rw [NodeInfo.devices, NodeInfo.addAmounts_spec P.int _ hsound.indexed] at he
    obtain ⟨d, hd, rfl⟩ := mem_map.mp he
    rw [Device.withUsed_used, Device.withUsed_total, NodeInfo.get_foldl_add]
    exact hplace.usage_le (by rw [hpod']) hsound hpod hreq hmem hread hd (hcap d hd) r
  · exact hcap

/-- The pod of three lifecycles on the empty node. -/
theorem allocate_within_capacity_mixed : ∃ n pod' m, twoCardsInfo 1 = .ok n ∧
    allocate (.exact .int64) 0 0 n (buildAllocationRequest _ mixedPod) = .ok (pod', m) ∧
    ∀ d ∈ (n.addPodUsedResources (.exact .int64) 0 0 pod').devices, d.WithinCapacity := by
  have hn := eq_okValue (x := twoCardsInfo 1) (by decide +kernel)
  have ha := eq_okValue (x := allocate (.exact .int64) 0 0 (okValue (twoCardsInfo 1)
    (by decide +kernel)) (buildAllocationRequest _ mixedPod)) (by decide +kernel)
  exact ⟨_, _, _, hn, ha, allocate_within_capacity (twoCards_wellFormed 1) hn (by decide +kernel)
    ⟨_, _, _, _, _, rfl⟩ (by decide +kernel) (by decide +kernel) rfl ha⟩

/-- Three containers whose memory request times the factor 2 is `-2^62` in 64 bits. -/
def wrappingPod : Pod where
  name := "wrapping".toList
  uid := "u2".toList
  annotations := { includeGpuUuid := some "GPU-a".toList }
  containers := [ { name := "x".toList, vgpuNumber := 1, vgpuCores := 10, vgpuMemory := 6917529027641081856 },
    { name := "y".toList, vgpuNumber := 1, vgpuCores := 10, vgpuMemory := 6917529027641081856 },
    { name := "z".toList, vgpuNumber := 1, vgpuCores := 10, vgpuMemory := 6917529027641081856 }]

/-- **A scaled memory request that wraps is not refused.** Three negative claims on one card add
up to a usage far above its memory. -/
theorem allocate_overflow : ∃ n pod' m, twoCardsInfo 2 = .ok n ∧
    wrappingPod.WellFormed .int64 ∧ (∀ d ∈ n.devices, d.WithinCapacity) ∧
    allocate (.exact .int64) 0 0 n (buildAllocationRequest _ wrappingPod) = .ok (pod', m) ∧
    shouldCountPodDeviceAllocation (.exact .int64) 0 0 pod' = true ∧
    ∃ d ∈ (n.addPodUsedResources (.exact .int64) 0 0 pod').devices,
      d.total.memory = 10000 ∧ d.used.memory = 4611686018427387904 := by
  exact ⟨_, _, _, eq_okValue (by decide +kernel), by decide +kernel, by decide +kernel,
    eq_okValue (by decide +kernel), by decide +kernel, by decide +kernel⟩

end VGpuManager

import VGpuManager.Foundation.Lifecycle
import VGpuManager.Registry
import VGpuManager.Reservation

/-!
# The lifecycle peak of a pod

A pod's init containers start one after the other, in the order of the pod: a sidecar keeps running,
any other is gone before the next one starts. Then the regular containers run together with the
sidecars. This file compares what `ReducePodFootprint` reserves of a GPU, and what the accounting of
a node adds to it, with the peak over these points.
-/

namespace VGpuManager

open Foundation List

/-! ## 1. What the containers take -/

variable {P : Platform} {pod : Pod} {claims : PodDeviceClaim} {u : Text} {r : Resource}

section

variable (pod claims u r)

/-- What one container's claims take of a resource of a GPU. -/
def claimed (c : ContainerDeviceClaim) : Int := (demandsAt u r c.usage).sum

/-- What the claims give the container of this name. -/
def takenAt (name : Text) : Int :=
  takenBy ContainerDeviceClaim.name (claimed u r) claims name

/-- The init containers of the pod in their order; a sidecar stays. -/
def starters : List Starter :=
  pod.initContainers.map fun c => ⟨c.restartable, takenAt claims u r c.name⟩

/-- What the regular containers take together. -/
def mainTakes : Int :=
  (pod.containers.map fun c => takenAt claims u r c.name).sum

/-- **The lifecycle peak**: the most the pod takes at once, while one of the sequential init
containers runs next to the sidecars before it, or in the main phase. -/
def lifecyclePeak : Int :=
  peak (starters pod claims u r) (mainTakes pod claims u r)

/-- Every sidecar is declared before every sequential init container. -/
def SidecarsFirst : Prop :=
  pod.initContainers.Pairwise fun c d => d.restartable = true → c.restartable = true
  deriving Decidable

/-- Claims of the pod's containers, one entry for each of them, and none of them negative. -/
structure OwnClaims (pod : Pod) (claims : PodDeviceClaim) : Prop where
  names : ((pod.initContainers ++ pod.containers).map Container.name).Nodup
  once : (claims.map ContainerDeviceClaim.name).Nodup
  known : ∀ c ∈ claims, ∃ x ∈ pod.initContainers ++ pod.containers, x.name = c.name
  nonneg : ∀ c ∈ claims, ∀ d ∈ c.deviceClaims, 0 ≤ d.cores ∧ 0 ≤ d.memory

/-- A sequential init container that asks for no vGPU has no claim. -/
def RequestedInits : Prop :=
  ∀ x ∈ pod.initContainers, x.restartable = false → (∃ c ∈ claims, c.name = x.name) → x.isVGPURequired = true
  deriving Decidable

end

theorem stayFirst_starters (h : SidecarsFirst pod) : StayFirst (starters pod claims u r) :=
  pairwise_map.mpr h

theorem sum_usageAll (cs : PodDeviceClaim) : (demandsAt u r (usageAll cs)).sum = (cs.map (claimed u r)).sum :=
  sum_demandsAt_flatMap ContainerDeviceClaim.usage cs

theorem isInitClaim_iff (c : ContainerDeviceClaim) : isInitClaim pod c = true ↔ c.name ∈ sequentialInitNames pod := by
  simp [isInitClaim]

namespace OwnClaims

/-- The init containers that are no sidecars start one at a time. -/
theorem alone_starters : alone (starters pod claims u r) = (sequentialInitNames pod).map (takenAt claims u r) := by
  rw [alone, starters, filter_map, map_map, sequentialInitNames, map_map]
  rfl

section

variable (h : OwnClaims pod claims)

include h

/-- No claim of a part of the pod's claims takes a negative amount. -/
theorem demands_nonneg (cs : PodDeviceClaim) (hcs : cs ⊆ claims) : ∀ x ∈ demandsAt u r (usageAll cs), 0 ≤ x := by
  intro x hx
  obtain ⟨a, ha, rfl⟩ := mem_demandsAt.mp hx
  obtain ⟨c, hc, he⟩ := mem_flatMap.mp ha
  obtain ⟨d, hd, heq⟩ := mem_map.mp he
  rw [← (Prod.mk.inj heq).2]
  obtain ⟨hcores, hmem⟩ := h.nonneg c (hcs hc) d hd
  cases r with
  | number => exact Int.one_nonneg
  | cores => exact hcores
  | memory => exact hmem

theorem claimed_nonneg {c : ContainerDeviceClaim} (hc : c ∈ claims) : 0 ≤ claimed u r c := by
  have hone := h.demands_nonneg (u := u) (r := r) [c] (by simpa using hc)
  refine sum_nonneg fun x hx => hone x ?_
  simpa [usageAll] using hx

theorem takenAt_nonneg (name : Text) : 0 ≤ takenAt claims u r name :=
  sum_nonneg (forall_mem_map.mpr fun _ hc => h.claimed_nonneg (mem_of_mem_filter hc))

theorem starters_nonneg : ∀ s ∈ starters pod claims u r, 0 ≤ s.takes :=
  forall_mem_map.mpr fun c _ => h.takenAt_nonneg c.name

theorem mainTakes_nonneg : 0 ≤ mainTakes pod claims u r :=
  sum_nonneg (forall_mem_map.mpr fun c _ => h.takenAt_nonneg c.name)

/-! ## 2. The three groups, by container -/

theorem names_parts : (pod.initContainers.map Container.name).Nodup ∧ (pod.containers.map Container.name).Nodup ∧
      ∀ x ∈ pod.initContainers, ∀ y ∈ pod.containers, x.name ≠ y.name := by
  have hnames := h.names
  rw [map_append, nodup_append] at hnames
  exact ⟨hnames.1, hnames.2.1, fun x hx y hy =>
    hnames.2.2 _ (mem_map_of_mem hx) _ (mem_map_of_mem hy)⟩

theorem isSidecarClaim_iff (c : ContainerDeviceClaim) : isSidecarClaim pod c = true ↔ c.name ∈ sidecarNames pod := by
  simp only [isSidecarClaim, isInitClaim, Bool.and_eq_true, Bool.not_eq_true', decide_eq_false_iff_not,
    decide_eq_true_eq, and_iff_right_iff_imp]
  -- a sidecar is not also a sequential init container
  intro hs hq
  obtain ⟨x, hx, hr, heq⟩ := mem_sidecarNames.mp hs
  rw [← heq, ((names_groups h.names).1 x hx).1, hr] at hq
  exact absurd hq (by decide)

/-- A claim is of a regular container if it is neither of a sidecar nor of another init container. -/
theorem isRegularClaim_iff {c : ContainerDeviceClaim} (hc : c ∈ claims) :
    isRegularClaim pod c = true ↔ c.name ∈ pod.containers.map Container.name := by
  obtain ⟨hinits, hregular⟩ := names_groups h.names
  obtain ⟨x, hx, hname⟩ := h.known c hc
  rw [isRegularClaim, isInitClaim, ← hname]
  rcases mem_append.mp hx with hx | hx
  · refine iff_of_false ?_ fun hin => ?_
    · cases hr : x.restartable <;> simp [hinits x hx, hr]
    · obtain ⟨y, hy, heq⟩ := mem_map.mp hin
      exact h.names_parts.2.2 x hx y hy heq.symm
  · refine iff_of_true ?_ (mem_map_of_mem hx)
    simp [hregular x hx]

/-- What the sidecars take together. -/
theorem staying_starters : staying (starters pod claims u r) =
    ((claims.filter (isSidecarClaim pod)).map (claimed u r)).sum := by
  have hnodup : (sidecarNames pod).Nodup := h.names_parts.1.sublist (filter_sublist.map _)
  have hnames : ((starters pod claims u r).filter Starter.stays).map Starter.takes =
      (sidecarNames pod).map (takenAt claims u r) := by
    rw [starters, filter_map, map_map, sidecarNames, map_map]
    rfl
  rw [staying, hnames]
  exact sum_takenBy _ _ hnodup fun c _ => h.isSidecarClaim_iff c

theorem foldl_max_alone : (alone (starters pod claims u r)).foldl max 0 =
    ((claims.filter (isInitClaim pod)).map (claimed u r)).foldl max 0 := by
  rw [alone_starters]
  exact foldl_max_takenBy (claimed u r) h.once fun c _ => isInitClaim_iff c

theorem sum_alone : (alone (starters pod claims u r)).sum =
    ((claims.filter (isInitClaim pod)).map (claimed u r)).sum := by
  have hnodup : (sequentialInitNames pod).Nodup := h.names_parts.1.sublist (filter_sublist.map _)
  rw [alone_starters]
  exact sum_takenBy _ _ hnodup fun c _ => isInitClaim_iff c

theorem mainTakes_eq : mainTakes pod claims u r = ((claims.filter (isRegularClaim pod)).map (claimed u r)).sum := by
  have hnames : (pod.containers.map fun c => takenAt claims u r c.name) =
      (pod.containers.map Container.name).map (takenAt claims u r) := by
    rw [map_map]
    rfl
  rw [mainTakes, hnames]
  exact sum_takenBy _ _ h.names_parts.2.1 fun c hc => h.isRegularClaim_iff hc

/-- **All claims of the pod are in one of the three groups.** -/
theorem sum_groups : (claims.map (claimed u r)).sum = staying (starters pod claims u r) + mainTakes pod claims u r +
      (alone (starters pod claims u r)).sum := by
  have hrest := sum_filter_or (claimed u r) claims (p := isSidecarClaim pod) (q := isRegularClaim pod)
    fun c _ hs => by
      simp only [isSidecarClaim, isRegularClaim, Bool.and_eq_true, Bool.not_eq_true'] at hs ⊢
      simp [hs.2]
  have hall := sum_filter_or (claimed u r) claims (p := fun c => isSidecarClaim pod c || isRegularClaim pod c)
    (q := isInitClaim pod) fun c _ hs => by
      simp only [isSidecarClaim, isRegularClaim] at hs
      cases hi : isInitClaim pod c <;> simp [hi] at hs ⊢
  have hself : (claims.filter fun c => isSidecarClaim pod c || isRegularClaim pod c || isInitClaim pod c) =
      claims := by
    refine filter_eq_self.mpr fun c _ => ?_
    simp only [isSidecarClaim, isRegularClaim]
    cases isInitClaim pod c <;> cases decide (c.name ∈ sidecarNames pod) <;> rfl
  rw [hself, hrest] at hall
  rw [h.staying_starters, h.mainTakes_eq, h.sum_alone]
  exact hall

/-! ## 3. The footprint -/

/-- What each group takes is within the sum of all claims. -/
theorem groups_le : staying (starters pod claims u r) ≤ (demandsAt u r (usageAll claims)).sum ∧
      mainTakes pod claims u r ≤ (demandsAt u r (usageAll claims)).sum ∧
      ∀ x ∈ alone (starters pod claims u r), x ≤ (demandsAt u r (usageAll claims)).sum := by
  have hgroups := h.sum_groups (u := u) (r := r)
  have hstarters := h.starters_nonneg (u := u) (r := r)
  have hmain := h.mainTakes_nonneg (u := u) (r := r)
  have hstay := staying_nonneg hstarters
  have halone := sum_nonneg (alone_nonneg hstarters)
  rw [← sum_usageAll] at hgroups
  refine ⟨by omega, by omega, fun x hx => ?_⟩
  have hone := single_le_sum (alone_nonneg hstarters) x hx
  omega

/-- The last addition of a reduction does not wrap either. -/
theorem add_eq_reserve (hfits : P.int.Fits (demandsAt u r (usageAll claims)).sum) :
    P.int.add (staying (starters pod claims u r))
        (max (mainTakes pod claims u r) ((alone (starters pod claims u r)).foldl max 0)) =
      reserve (starters pod claims u r) (mainTakes pod claims u r) := by
  have hstarters := h.starters_nonneg (u := u) (r := r)
  have hmain := h.mainTakes_nonneg (u := u) (r := r)
  have hstay := staying_nonneg hstarters
  have hle := reserve_le_sum hstarters hmain
  rw [← h.sum_groups, ← sum_usageAll] at hle
  have hpos : 0 ≤ reserve (starters pod claims u r) (mainTakes pod claims u r) := by
    rw [reserve]
    omega
  exact (P.int.fits_zero.between hfits hpos hle).add_eq

/-- **The footprint of claims that fit the type is the reserve.** -/
theorem footprintAt_eq_reserve (hfits : P.int.Fits (demandsAt u r (usageAll claims)).sum) :
    footprintAt P pod claims u r = reserve (starters pod claims u r) (mainTakes pod claims u r) := by
  obtain ⟨hstay, hmain, halone⟩ := h.groups_le
  -- a group of the claims is within their sum, so no addition wraps
  have hfill : ∀ cs ⊆ claims, (cs.map (claimed u r)).sum ≤ (demandsAt u r (usageAll claims)).sum →
      P.int.fill 0 (demandsAt u r (usageAll cs)) = (cs.map (claimed u r)).sum := by
    intro cs hcs hsum
    rw [← sum_usageAll] at hsum ⊢
    exact IntArith.sum_eq hfits (h.demands_nonneg cs hcs) hsum
  by_cases hseq : sequentialInitNames pod = []
  · have hnone : alone (starters pod claims u r) = [] := by rw [alone_starters, hseq]; rfl
    rw [footprintAt_plain hseq, hfill claims (List.Subset.refl _) (by rw [sum_usageAll]), h.sum_groups,
      reserve, hnone]
    simp [max_eq_left (h.mainTakes_nonneg)]
  · have hpeaks : peaksAt P.int u r (claims.filter (isInitClaim pod)) =
        (claims.filter (isInitClaim pod)).map (claimed u r) := by
      refine map_congr_left fun c hc => ?_
      have hmem := mem_of_mem_filter hc
      have hone : claimed u r c ≤ (claims.map (claimed u r)).sum :=
        single_le_sum (forall_mem_map.mpr fun _ => h.claimed_nonneg) _ (mem_map_of_mem hmem)
      simpa [usageAll] using hfill [c] (by simpa using hmem) (by
        rw [sum_usageAll, map_singleton, sum_singleton]
        exact hone)
    have hside := hfill _ (filter_subset_self claims) (by rw [← h.staying_starters]; exact hstay)
    have hreg := hfill _ (filter_subset_self claims) (by rw [← h.mainTakes_eq]; exact hmain)
    rw [footprintAt_reserved hseq, reservedAt, hside, hreg, hpeaks, ← h.foldl_max_alone,
      ← h.mainTakes_eq, ← h.staying_starters, h.add_eq_reserve hfits]

/-! ## 4. The accounting -/

/-- Without a sequential init container that asks for vGPUs the reserve is the plain sum. -/
theorem reserve_of_no_init (hreq : RequestedInits pod claims) (hinit : podHasVGPUInitContainer pod = false) :
    reserve (starters pod claims u r) (mainTakes pod claims u r) = (demandsAt u r (usageAll claims)).sum := by
  have hnone : claims.filter (isInitClaim pod) = [] := by
    refine filter_eq_nil_iff.mpr fun c hc hi => ?_
    obtain ⟨x, hx, hname⟩ := mem_map.mp ((isInitClaim_iff c).mp hi)
    obtain ⟨hx, hr⟩ := mem_filter.mp hx
    have hr : x.restartable = false := by simpa using hr
    have hneeds := hreq x hx hr ⟨c, hc, hname.symm⟩
    exact absurd hinit (by
      simp only [podHasVGPUInitContainer, any_eq_false, not_forall]
      exact ⟨x, hx, by simp [hr, hneeds]⟩)
  have hmax := h.foldl_max_alone (u := u) (r := r)
  have hsum := h.sum_alone (u := u) (r := r)
  rw [hnone] at hmax hsum
  have hmain := h.mainTakes_nonneg (u := u) (r := r)
  rw [sum_usageAll, h.sum_groups, hsum, reserve, hmax]
  simp [max_eq_left hmain]

end

/-- **The accounting adds the footprint**, on its init-aware path and claim by claim. -/
theorem addPodUsedResources_footprint (hmod : P.int.Modular) {now grace : Int} {n : NodeInfo} {d : Device}
    (h : OwnClaims pod claims) (hreq : RequestedInits pod claims) (hclaims : getPodDeviceClaim P.int pod = claims)
    (hfits : P.int.Fits (demandsAt d.uuid r (usageAll claims)).sum) (hn : n.Sound P.int)
    (hd : d ∈ n.devices) (hcount : shouldCountPodDeviceAllocation P now grace pod = true) :
    ∃ e ∈ (n.addPodUsedResources P now grace pod).devices, e.id = d.id ∧ e.uuid = d.uuid ∧
      e.used.get r = P.int.add (d.used.get r) (footprintAt P pod claims d.uuid r) := by
  have hmap := NodeInfo.addAmounts_spec P.int (podUsage P pod) hn.indexed
  have hdevices : (n.addPodUsedResources P now grace pod).devices = n.devices.map fun d =>
      d.withUsed ((NodeInfo.amountsOf d.uuid (podUsage P pod)).foldl (Amount.add P.int) d.used) := by
    rw [NodeInfo.addPodUsedResources, if_pos hcount, NodeInfo.devices, hmap]
    rfl
  rw [hdevices]
  refine ⟨_, mem_map_of_mem hd, rfl, rfl, ?_⟩
  have hused := (hn.devices d hd).used_fits r
  rw [Device.withUsed_used, NodeInfo.get_foldl_add]
  cases hinit : podHasVGPUInitContainer pod with
  | true =>
    rw [← hclaims]
    exact fill_podUsage hinit d.uuid r hused
  | false =>
    have husage : podUsage P pod = usageAll claims := by
      simp [podUsage, hinit, hclaims, usageAll]
    rw [h.footprintAt_eq_reserve hfits, h.reserve_of_no_init hreq hinit, husage]
    exact hmod.foldl_add hused _

end OwnClaims

end VGpuManager

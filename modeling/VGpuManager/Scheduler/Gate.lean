import VGpuManager.Allocator.Safety

/-!
# The capacity gate of the filter

`nodeCapacityGate` drops a node before the allocator runs, by comparing the pod's demand with
the node's aggregates. Its comment calls every check a necessary condition. That is proved here
for nodes whose devices have no negative usage, as long as none of the sums involved wraps, so
always over unbounded integers.
-/

namespace VGpuManager

open Foundation List

/-- The devices the pod's selectors accept, as the gate counts them. -/
def selectorMatches {P : Platform} (req : AllocationRequest P.F) (d : Device) : Bool :=
  !(req.checkDeviceUuid && !checkDeviceUuid P req.pod.annotations d.uuid) &&
    !(req.checkDeviceType && !checkDeviceType P req.pod.annotations d.deviceType)

def nodeCapacityGate (P : Platform) (req : AllocationRequest P.F) (n : NodeInfo) : Option ReasonCode :=
  if n.schedulableDevices < req.max.number then some .insufficientGPUCards
  else if n.maxDeviceCores < req.max.cores then some .insufficientVGPUCore
  else if n.maxDeviceMemory < req.max.memory then some .insufficientVGPUMemory
  else if n.getAvailableNumber P.int < req.total.number then some .insufficientGPUResources
  else if n.getAvailableCores P.int < req.total.cores then some .insufficientVGPUCore
  else if n.getAvailableMemory P.int < req.total.memory then some .insufficientVGPUMemory
  else if (req.checkDeviceUuid || req.checkDeviceType) &&
      decide (((n.devices.filter (selectorMatches req)).length : Int) < req.max.number) then
    some (if req.checkDeviceUuid then .deviceUUIDMismatch else .deviceTypeMismatch)
  else none

/-! ## 1. Statistics in closed form -/

section

variable (resolve : ContainerNeed → Int × Int) (r : Resource) (need : ContainerNeed)

/-- What one vGPU of a container takes at least. -/
def perCard : Amount :=
  ⟨1, (resolve need).1, (resolve need).2⟩

/-- What all vGPUs of a container take at least. -/
def aggregate : Int :=
  need.number * (perCard resolve need).get r

/-- The entry of a container in the maxima: its card count, or the need of one card. -/
def largestOf : Int :=
  (⟨need.number, (resolve need).1, (resolve need).2⟩ : Amount).get r

theorem aggregate_eq : (⟨need.number, IntArith.unbounded.mul (resolve need).1 need.number,
      IntArith.unbounded.mul (resolve need).2 need.number⟩ : Amount).get r = aggregate resolve r need := by
  cases r <;> simp [Amount.get, aggregate, perCard, Int.mul_comm]

/-- What one container adds to the statistics over unbounded integers. -/
theorem Demand.add_spec (s : Demand) :
    let s' := s.add .unbounded resolve need
    s'.largest.get r = max (s.largest.get r) (largestOf resolve r need) ∧
      s'.initMax.get r = (if need.sequentialInit then
        max (s.initMax.get r) (aggregate resolve r need) else s.initMax.get r) ∧
      s'.sidecar.get r = (if !need.sequentialInit && need.restartable then
        s.sidecar.get r + aggregate resolve r need else s.sidecar.get r) ∧
      s'.regular.get r = (if !need.sequentialInit && !need.restartable then
        s.regular.get r + aggregate resolve r need else s.regular.get r) := by
  have hagg := aggregate_eq resolve r need
  cases hseq : need.sequentialInit <;> cases hres : need.restartable <;>
    simp [Demand.add, hseq, hres, hagg, largestOf, -IntArith.unbounded_mul]

end

/-- The statistics over unbounded integers, group by group. -/
theorem demandOf_spec (resolve : ContainerNeed → Int × Int) (r : Resource) :
    ∀ (needs : List ContainerNeed) (s : Demand),
    let s' := needs.foldl (Demand.add .unbounded resolve) s
    s'.largest.get r = (needs.map (largestOf resolve r)).foldl max (s.largest.get r) ∧
      s'.initMax.get r = ((needs.filter ContainerNeed.sequentialInit).map
        (aggregate resolve r)).foldl max (s.initMax.get r) ∧
      s'.sidecar.get r = s.sidecar.get r + ((needs.filter fun need =>
        !need.sequentialInit && need.restartable).map (aggregate resolve r)).sum ∧
      s'.regular.get r = s.regular.get r + ((needs.filter fun need =>
        !need.sequentialInit && !need.restartable).map (aggregate resolve r)).sum
  | [], s => by simp
  | need :: needs, s => by
    obtain ⟨h₁, h₂, h₃, h₄⟩ := demandOf_spec resolve r needs (s.add .unbounded resolve need)
    obtain ⟨a₁, a₂, a₃, a₄⟩ := Demand.add_spec resolve r need s
    dsimp only
    rw [foldl_cons, h₁, h₂, h₃, h₄, a₁, a₂, a₃, a₄]
    refine ⟨rfl, ?_, ?_, ?_⟩
    · cases hseq : need.sequentialInit <;> simp [hseq]
    all_goals
      split <;> rename_i hc <;>
        simp only [filter_cons, hc, if_true, map_cons, sum_cons, Int.add_assoc]
      rfl

variable {P : Platform} {A : IntArith} {n : NodeInfo} {pod pod' : Pod} {req : AllocationRequest P.F}
  {g : ContainerNeed → ContainerDeviceClaim} {need : ContainerNeed} {resolve : ContainerNeed → Int × Int}
  {d : Device} {ds : List Device} {r : Resource} {now grace b : Int} {node : Node} {opts : NodeInfo.Options}

/-- One container whose group stays within values of the type is counted exactly. -/
theorem Demand.add_exact {T : Resource → Int} (hT : ∀ r, A.Fits (T r)) {s : Demand}
    (hs : ∀ r, 0 ≤ s.sidecar.get r ∧ 0 ≤ s.regular.get r) (hagg : ∀ r, 0 ≤ aggregate resolve r need)
    (hle : let s' := s.add .unbounded resolve need
      ∀ r, s'.sidecar.get r ≤ T r ∧ s'.regular.get r ≤ T r ∧ s'.initMax.get r ≤ T r) :
    s.add A resolve need = s.add .unbounded resolve need := by
  have hspec := fun r => (Demand.add_spec resolve r need s).2
  -- the aggregate is within the group it goes to
  have hbound : ∀ r, aggregate resolve r need ≤ T r := by
    intro r
    obtain ⟨h₁, h₂, h₃⟩ := hspec r
    obtain ⟨l₁, l₂, l₃⟩ := hle r
    obtain ⟨s₁, s₂⟩ := hs r
    rw [h₂] at l₁
    rw [h₃] at l₂
    rw [h₁] at l₃
    cases hseq : need.sequentialInit <;> cases hres : need.restartable <;>
      simp [hseq, hres] at l₁ l₂ l₃ <;> omega
  have hmul : ∀ x, (x = (resolve need).1 ∨ x = (resolve need).2) → A.mul x need.number = x * need.number := by
    rintro x (rfl | rfl)
    · exact A.fits_zero.between (hT .cores) ((hagg .cores).trans_eq (Int.mul_comm _ _))
        ((Int.mul_comm _ _).trans_le (hbound .cores))
    · exact A.fits_zero.between (hT .memory) ((hagg .memory).trans_eq (Int.mul_comm _ _))
        ((Int.mul_comm _ _).trans_le (hbound .memory))
  have hsum : ∀ a : Amount, (∀ r, 0 ≤ a.get r) → (∀ r, a.get r + aggregate resolve r need ≤ T r) →
      a.add A ⟨need.number, A.mul (resolve need).1 need.number, A.mul (resolve need).2 need.number⟩ =
      a.add .unbounded ⟨need.number, (resolve need).1 * need.number, (resolve need).2 * need.number⟩ := by
    intro a ha hle
    rw [hmul _ (.inl rfl), hmul _ (.inr rfl)]
    refine Amount.ext_get fun r => ?_
    have hget := aggregate_eq resolve r need
    simp only [IntArith.unbounded_mul] at hget
    rw [Amount.get_add, Amount.get_add, hget, IntArith.unbounded_add]
    have := hagg r
    exact A.fits_zero.between (hT r) (Int.add_nonneg (ha r) this) (hle r)
  cases hseq : need.sequentialInit with
  | true => simp [Demand.add, hseq, hmul]
  | false =>
    cases hres : need.restartable with
    | true =>
      have hfits : ∀ r, s.sidecar.get r + aggregate resolve r need ≤ T r := fun r => by
        have := (hle r).1
        rwa [(hspec r).2.1, if_pos (by simp [hseq, hres])] at this
      simp [Demand.add, hseq, hres, hsum _ (fun r => (hs r).1) hfits]
    | false =>
      have hfits : ∀ r, s.regular.get r + aggregate resolve r need ≤ T r := fun r => by
        have := (hle r).2.1
        rwa [(hspec r).2.2, if_pos (by simp [hseq, hres])] at this
      simp [Demand.add, hseq, hres, hsum _ (fun r => (hs r).2) hfits]

/-- **Statistics without overflow**: where the groups stay within values of the type, the type
computes what unbounded integers compute. -/
theorem demandOf_exact {T : Resource → Int} (hT : ∀ r, A.Fits (T r)) : ∀ (needs : List ContainerNeed) (s : Demand),
    (∀ r, 0 ≤ s.sidecar.get r ∧ 0 ≤ s.regular.get r) →
    (∀ need ∈ needs, ∀ r, 0 ≤ aggregate resolve r need) →
    (let s' := needs.foldl (Demand.add .unbounded resolve) s
      ∀ r, s'.sidecar.get r ≤ T r ∧ s'.regular.get r ≤ T r ∧ s'.initMax.get r ≤ T r) →
    needs.foldl (Demand.add A resolve) s = needs.foldl (Demand.add .unbounded resolve) s
  | [], _, _, _, _ => rfl
  | need :: needs, s, hs, hagg, hle => by
    rw [foldl_cons] at hle
    have hrest : ∀ x ∈ needs, ∀ r, 0 ≤ aggregate resolve r x := fun x hx => hagg x (by simp [hx])
    have hsums : ∀ (p : ContainerNeed → Bool) (r : Resource),
        0 ≤ ((needs.filter p).map (aggregate resolve r)).sum := fun p r =>
      sum_nonneg (forall_mem_map.mpr fun x hx => hrest x (mem_filter.mp hx).1 r)
    -- the groups only grow, so they are in range after the first container already
    have hfirst : let s' := s.add .unbounded resolve need
        ∀ r, s'.sidecar.get r ≤ T r ∧ s'.regular.get r ≤ T r ∧ s'.initMax.get r ≤ T r := by
      show ∀ r, (s.add .unbounded resolve need).sidecar.get r ≤ T r ∧
        (s.add .unbounded resolve need).regular.get r ≤ T r ∧
        (s.add .unbounded resolve need).initMax.get r ≤ T r
      intro r
      obtain ⟨-, h₂, h₃, h₄⟩ := demandOf_spec resolve r needs (s.add .unbounded resolve need)
      obtain ⟨l₁, l₂, l₃⟩ := hle r
      have hi : (s.add .unbounded resolve need).initMax.get r ≤
          ((needs.filter ContainerNeed.sequentialInit).map (aggregate resolve r)).foldl max
            ((s.add .unbounded resolve need).initMax.get r) := le_foldl_max (.inl rfl)
      have h₃' := hsums (fun x => !x.sequentialInit && x.restartable) r
      have h₄' := hsums (fun x => !x.sequentialInit && !x.restartable) r
      exact ⟨by omega, by omega, by omega⟩
    have hone := Demand.add_exact hT hs (hagg need (by simp)) hfirst
    rw [foldl_cons, foldl_cons, hone]
    refine demandOf_exact hT needs _ (fun r => ?_) hrest hle
    obtain ⟨-, -, h₃, h₄⟩ := Demand.add_spec resolve r need s
    have := hs r
    have := hagg need (by simp) r
    rw [h₃, h₄]
    constructor <;> split <;> omega

/-! ## 2. One device -/

/-- The devices that count for the aggregates. -/
abbrev schedulable (n : NodeInfo) : List Device := n.devices.filter Device.schedulable

/-- No capacity of the node wraps: what a device has left is the true difference, and the
capacities of the schedulable devices add up within the type. -/
@[mk_iff]
structure NodeInfo.NoOverflow (A : IntArith) (n : NodeInfo) : Prop where
  left : ∀ d ∈ n.devices, ∀ r, d.allocatable A r = max 0 (d.total.get r - d.used.get r)
  total : ∀ r, A.Fits ((schedulable n).map fun d => d.getTotal r).sum

instance (A : IntArith) (n : NodeInfo) : Decidable (n.NoOverflow A) :=
  decidable_of_iff _ (NodeInfo.noOverflow_iff A n).symm

theorem noOverflow_unbounded (n : NodeInfo) : n.NoOverflow .unbounded :=
  ⟨fun _ _ _ => rfl, fun _ => rfl⟩

theorem scaledNotNegative_unbounded (hpod : pod.WellFormed .unbounded) : ScaledNotNegative .unbounded n pod := by
  intro need hneed hpos
  obtain ⟨x, hx, -, -, hmemory⟩ := mem_containerNeeds_container hneed
  rw [hmemory]
  exact Int.mul_nonneg (hpod.memory x hx).1 hpos.le

/-- Where usage is not negative, a device has at most its capacity left. -/
theorem NodeInfo.NoOverflow.allocatable_le (h : n.NoOverflow A)
    (hused : ∀ d ∈ n.devices, ∀ r, 0 ≤ d.used.get r) (hd : d ∈ n.devices) : d.allocatable A r ≤ d.getTotal r := by
  rw [h.left d hd r, d.getTotal_eq_max]
  have := hused d hd r
  omega

/-- What a placed pod takes of a device over its life. -/
def peakOn (g : ContainerNeed → ContainerDeviceClaim) (pod : Pod) (r : Resource) (d : Device) : Int :=
  (demandsAt d.uuid r (usageOf g ((containerNeeds pod).filter ContainerNeed.sidecar))).sum +
    max (demandsAt d.uuid r (usageOf g ((containerNeeds pod).filter fun need => need.kind = .app))).sum
      ((((containerNeeds pod).filter ContainerNeed.sequentialInit).map fun need =>
        (demandsAt d.uuid r (g need).usage).sum).foldl max 0)

section

variable (hn : n.Sound P.int) (hpod : pod.WellFormed P.int) (hmem : ScaledNotNegative P.int n pod)
  (hreq : req.BuiltFrom pod) (hplace : PodPlacement P now grace n req g)

include hn hpod hmem hreq hplace

theorem PodPlacement.group_nonneg (d : Device) (r : Resource) (p : ContainerNeed → Bool) :
    ∀ v ∈ demandsAt d.uuid r (usageOf g ((containerNeeds pod).filter p)), 0 ≤ v :=
  hplace.demands_nonneg hn hpod hreq hmem d.uuid r _ fun _ => mem_of_mem_filter

/-- **A placed pod takes of a device at most what was free on it**, where the free amount did not
wrap. -/
theorem PodPlacement.peak_le_allocatable (hd : d ∈ n.devices)
    (hleft : d.allocatable P.int r = max 0 (d.total.get r - d.used.get r)) :
    peakOn g pod r d ≤ d.allocatable P.int r := by
  have hs := hn.devices d hd
  have hgroup := hplace.group_nonneg hn hpod hmem hreq d r
  obtain ⟨hmain, hinits⟩ := hplace.admitted hn.indexed hreq hd
  have hadm := hmain r
  rw [NodeInfo.amountsOf_append, map_append] at hadm
  refine IntArith.lifecycle_le_left (hs.total_fits r) (hs.used_fits r) (hgroup _) (hgroup _) hadm
    (forall_mem_map.mpr fun need hneed => ?_) hleft
  obtain ⟨hneed, hseq⟩ := mem_filter.mp hneed
  have hplaced := hplace.placed_need hreq hneed
  exact ((hinits need hneed hseq).peak_le hn.indexed hplaced hd
    (hplaced.usage_nonneg hn hpod hneed (hmem need hneed))).2.2

theorem PodPlacement.peakOn_nonneg : 0 ≤ peakOn g pod r d := by
  have hgroup := hplace.group_nonneg hn hpod hmem hreq d r
  exact Int.add_nonneg (sum_nonneg (hgroup _)) (le_max_of_le_left (sum_nonneg (hgroup _)))

/-- Where the peak does not wrap, the accounting's peaks of the sequential init containers are their
sums. -/
theorem PodPlacement.init_peaks (hinit : pod'.initContainers = pod.initContainers)
    (hfits : P.int.Fits (peakOn g pod r d)) :
    peaksAt P.int d.uuid r (((containerNeeds pod).map g).filter (isInitClaim pod')) =
      ((containerNeeds pod).filter ContainerNeed.sequentialInit).map fun need =>
        (demandsAt d.uuid r (g need).usage).sum := by
  have hnn := hplace.demands_nonneg hn hpod hreq hmem d.uuid r
  have hstay := sum_nonneg (hplace.group_nonneg hn hpod hmem hreq d r ContainerNeed.sidecar)
  have hfilter : (containerNeeds pod).filter (isInitClaim pod' ∘ g) =
      (containerNeeds pod).filter ContainerNeed.sequentialInit :=
    filter_congr fun need hneed =>
      (claim_group hpod hinit hneed (hplace.placed_need hreq hneed).name).1
  rw [peaksAt, filter_map, map_map, hfilter]
  refine map_congr_left fun need hneed => ?_
  refine IntArith.sum_eq hfits (fun v hv => ?_) ?_
  · exact hnn [need] (by simpa using (mem_filter.mp hneed).1) v (by simpa [usageOf] using hv)
  · have hle : (demandsAt d.uuid r (g need).usage).sum ≤
        (((containerNeeds pod).filter ContainerNeed.sequentialInit).map fun need =>
          (demandsAt d.uuid r (g need).usage).sum).foldl max 0 :=
      le_foldl_max (.inr (mem_map_of_mem hneed))
    exact hle.trans ((le_max_right _ _).trans (Int.le_add_of_nonneg_left hstay))

/-- The accounting adds at most that peak for a placed pod, in amounts that are not negative. -/
theorem PodPlacement.usage_le_peak (hinit : pod'.initContainers = pod.initContainers)
    (hclaims : getPodDeviceClaim P.int pod' = (containerNeeds pod).map g) (hfits : P.int.Fits (peakOn g pod r d)) :
    (∀ v ∈ demandsAt d.uuid r (podUsage P pod'), 0 ≤ v) ∧
      (demandsAt d.uuid r (podUsage P pod')).sum ≤ peakOn g pod r d := by
  have hnn := hplace.demands_nonneg hn hpod hreq hmem d.uuid r
  have hgroup := hplace.group_nonneg hn hpod hmem hreq d r
  have hs0 := sum_nonneg (hgroup ContainerNeed.sidecar)
  have hm0 := sum_nonneg (hgroup fun need => need.kind = .app)
  have hpeak0 : 0 ≤ peakOn g pod r d := hplace.peakOn_nonneg hn hpod hmem hreq
  have hsame := podHasVGPUInitContainer_congr hinit
  cases hi : podHasVGPUInitContainer pod with
  | false =>
    have husage := podUsage_of_no_init hinit hclaims hi
    refine ⟨by rw [husage]; exact hnn _ fun need h => h, ?_⟩
    rw [husage, ← needs_split (by rw [← podHasVGPUInitContainer_iff, hi]), usageOf,
      flatMap_append, ← usageOf, ← usageOf, demandsAt, NodeInfo.amountsOf_append,
      map_append, sum_append]
    exact Int.add_le_add_left (le_max_left _ _) _
  | true =>
    have hclaim := fun need hneed => claim_group (c := g need) hpod hinit hneed (hplace.placed_need hreq hneed).name
    rcases podUsage_amounts pod' (hsame.trans hi) d.uuid with hnone | ⟨a, hone, ha⟩
    · rw [demandsAt, hnone]
      exact ⟨by simp, hpeak0⟩
    · -- every group is within the peak, so none of the accounting's sums wraps
      have hstay := IntArith.sum_eq hfits (hgroup ContainerNeed.sidecar) (by unfold peakOn; omega)
      have hmain := IntArith.sum_eq hfits (hgroup fun need => need.kind = .app) (by unfold peakOn; omega)
      have hpeak : a.get r = peakOn g pod r d := by
        rw [ha r, hclaims, reservedAt, hplace.init_peaks hn hpod hmem hreq hinit hfits,
          filter_claims fun need h => (hclaim need h).2.1,
          filter_claims fun need h => (hclaim need h).2.2]
        show P.int.add (P.int.sum _) (max (P.int.sum _) _) = _
        rw [hstay, hmain]
        exact hfits.add_eq
      rw [demandsAt, hone, map_singleton, hpeak]
      exact ⟨by simpa using hpeak0, by simp⟩

end

/-! ## 3. All devices -/

theorem sum_ite_uuid (hnd : (ds.map Device.uuid).Nodup) {u : Text} (v : Int)
    (h : ∃ d ∈ ds, d.uuid = u) : (ds.map fun d => if u = d.uuid then v else 0).sum = v := by
  have hsum := sum_map_ite_eq (ds.map Device.uuid) (fun _ => v) (fun _ => 0) u
  rw [@List.count_eq_one_of_mem Text instBEqOfDecidableEq _ _ _ hnd (mem_map.mpr h)] at hsum
  simpa [Function.comp_def, eq_comm] using hsum

/-- Occupancies on listed devices: device by device they add up to all of them. -/
theorem sum_demandsAt (hnd : (ds.map Device.uuid).Nodup) (r : Resource) :
    ∀ {l : List (Text × Amount)}, (∀ e ∈ l, ∃ d ∈ ds, d.uuid = e.1) →
    (ds.map fun d => (demandsAt d.uuid r l).sum).sum = (l.map fun e => e.2.get r).sum
  | [], _ => by simp [demandsAt]
  | (u, a) :: l, h => by
    have hcons : ∀ d : Device, (demandsAt d.uuid r ((u, a) :: l)).sum =
        (if u = d.uuid then a.get r else 0) + (demandsAt d.uuid r l).sum := by
      intro d
      rw [demandsAt, NodeInfo.amountsOf_cons]
      split <;> simp [demandsAt]
    simp only [hcons, sum_map_add]
    rw [sum_ite_uuid hnd _ (h (u, a) (by simp)), sum_demandsAt hnd r fun e he => h e (by simp [he])]
    rfl

/-- One vGPU takes at least the container's need per card. -/
theorem perCard_le (d : Device) : (perCard (n.resolve A) need).get r ≤ (claimOn A n need d).amount.get r := by
  cases r with
  | number | cores => exact le_rfl
  | memory =>
    change (n.resolve A need).2 ≤ reqMemory d (n.resolve A need).2
    unfold reqMemory
    split
    · rename_i hz
      rw [hz]
      exact d.getTotal_nonneg _
    · exact le_rfl

theorem Placement.aggregate_le {Q : Device → Prop} {c : ContainerDeviceClaim} (h : Placement A n Q need c) :
    aggregate (n.resolve A) r need ≤ (c.usage.map fun e => e.2.get r).sum := by
  have hsum := card_nsmul_le_sum (c.usage.map fun e => e.2.get r) ((perCard (n.resolve A) need).get r)
    (forall_mem_map.mpr (forall_mem_map.mpr fun claim hc => ?each))
  case each =>
    obtain ⟨d, -, -, rfl⟩ := h.each claim hc
    exact perCard_le d
  rw [aggregate, ← h.count]
  simpa [ContainerDeviceClaim.usage] using hsum

/-! ## 4. The gate -/

theorem Eligible.mem_schedulable (he : Eligible P req d) (hd : d ∈ n.devices) : d ∈ schedulable n :=
  mem_filter.mpr ⟨hd, by simp [Device.schedulable, he.healthy, he.notMig]⟩

/-- A placed pod on a sound node whose sums do not wrap. -/
structure GateContext (P : Platform) (now grace : Int) (n : NodeInfo) (pod : Pod) (req : AllocationRequest P.F)
    (g : ContainerNeed → ContainerDeviceClaim) : Prop where
  sound : n.Sound P.int
  exact : n.NoOverflow P.int
  used : ∀ d ∈ n.devices, ∀ r, 0 ≤ d.used.get r
  wellFormed : pod.WellFormed P.int
  memory : ScaledNotNegative P.int n pod
  built : req.BuiltFrom pod
  placement : PodPlacement P now grace n req g

theorem nodup_uuids (hn : n.Indexed) : ((schedulable n).map Device.uuid).Nodup :=
  ((nodup_devices n).filter _).map_on fun _ hd _ he hu =>
    hn.eq_of_uuid_eq (mem_filter.mp hd).1 (mem_filter.mp he).1 hu

/-- Of a pod's containers that are no sequential init, the restartable ones are its sidecars, the others run
at last. -/
theorem filter_groups (pod : Pod) : (containerNeeds pod).filter (fun need => !need.sequentialInit && need.restartable) =
        (containerNeeds pod).filter ContainerNeed.sidecar ∧
      (containerNeeds pod).filter (fun need => !need.sequentialInit && !need.restartable) =
        (containerNeeds pod).filter fun need => need.kind = .app := by
  constructor
  all_goals
    refine filter_congr fun need hneed => ?_
    rcases mem_containerNeeds.mp hneed with ⟨x, -, heq⟩ | ⟨x, -, heq⟩ <;>
      rw [(Container.need_eq heq).2] <;> cases x.restartable <;>
      simp [ContainerNeed.sequentialInit, ContainerNeed.sidecar]

/-- Without overflow the free amount of a node is the sum of what its devices have left. -/
theorem available_refresh (hexact : n.NoOverflow A) (hused : ∀ d ∈ n.devices, ∀ r, 0 ≤ d.used.get r) (r : Resource) :
    (n.refreshResourcesData A).getAvailable A r = ((schedulable n).map fun d => d.allocatable A r).sum := by
  have hle : ∀ d ∈ schedulable n, d.allocatable A r ≤ d.getTotal r := fun d hd =>
    hexact.allocatable_le hused (mem_filter.mp hd).1
  have htotals : ∀ x ∈ (schedulable n).map fun d => d.getTotal r, 0 ≤ x :=
    forall_mem_map.mpr fun d _ => d.getTotal_nonneg r
  have hsub : (schedulable n).map (fun d => A.sub (d.getTotal r) (d.allocatable A r)) =
      (schedulable n).map fun d => d.getTotal r - d.allocatable A r :=
    map_congr_left fun d hd => by
      have hone : d.getTotal r ≤ ((schedulable n).map fun d => d.getTotal r).sum :=
        single_le_sum htotals _ (mem_map_of_mem hd)
      have h₁ := hle d hd
      have h₂ : 0 ≤ d.allocatable A r := Device.allocatable_nonneg
      exact A.fits_zero.between (hexact.total r) (by omega) (by omega)
  have hall := sum_sub_sum_sub (fun d => d.getTotal r) (fun d => d.allocatable A r) (schedulable n)
  have hfree : 0 ≤ ((schedulable n).map fun d => d.allocatable A r).sum :=
    sum_nonneg (forall_mem_map.mpr fun d _ => Device.allocatable_nonneg)
  have htotal : A.sum ((schedulable n).map fun d => d.getTotal r) = ((schedulable n).map fun d => d.getTotal r).sum :=
    IntArith.sum_eq (hexact.total r) htotals le_rfl
  have htaken : ∀ x ∈ (schedulable n).map fun d => d.getTotal r - d.allocatable A r, 0 ≤ x :=
    forall_mem_map.mpr fun d hd => Int.sub_nonneg_of_le (hle d hd)
  have hsum : A.sum ((schedulable n).map fun d => d.getTotal r - d.allocatable A r) =
      ((schedulable n).map fun d => d.getTotal r - d.allocatable A r).sum :=
    IntArith.sum_eq (hexact.total r) htaken (by omega)
  have hfits : A.Fits ((schedulable n).map fun d => d.allocatable A r).sum :=
    A.fits_zero.between (hexact.total r) hfree (by have := sum_nonneg htaken; omega)
  simp only [NodeInfo.getAvailable, NodeInfo.refreshResourcesData, Amount.get_ofFun]
  rw [hsub, htotal, hsum, IntArith.left, IntArith.sub, hall, hfits]
  omega

theorem largest_le {needs : List ContainerNeed} (h0 : 0 ≤ b) (h : ∀ need ∈ needs, largestOf resolve r need ≤ b) :
    (demandOf .unbounded resolve needs).largest.get r ≤ b := by
  rw [demandOf, (demandOf_spec resolve r needs {}).1, Amount.get_zero]
  exact foldl_max_le h0 (forall_mem_map.mpr h)

/-- The counters of a built snapshot: the number of schedulable devices, and bounds for what one
of them has. -/
theorem newNodeInfo_counters (hn : newNodeInfo P now grace node opts = .ok n) :
    n.schedulableDevices = (schedulable n).length ∧ 0 ≤ n.maxDeviceCores ∧ 0 ≤ n.maxDeviceMemory ∧
      ∀ d ∈ schedulable n, d.getTotal .cores ≤ n.maxDeviceCores ∧ d.getTotal .memory ≤ n.maxDeviceMemory := by
  obtain ⟨bare, -, hrefresh⟩ := newNodeInfo_ok hn
  rw [hrefresh]
  exact ⟨rfl, le_foldl_max (.inl rfl), le_foldl_max (.inl rfl), fun d hd =>
    ⟨le_foldl_max (.inr (mem_map_of_mem hd)), le_foldl_max (.inr (mem_map_of_mem hd))⟩⟩

namespace GateContext

variable (h : GateContext P now grace n pod req g)

include h

theorem placed (hneed : need ∈ containerNeeds pod) : Placement P.int n (Eligible P req) need (g need) :=
  h.placement.placed_need h.built hneed

theorem nonneg (hneed : need ∈ containerNeeds pod) : ∀ e ∈ (g need).usage, ∀ r, 0 ≤ e.2.get r :=
  (h.placed hneed).usage_nonneg h.sound h.wellFormed hneed (h.memory need hneed)

theorem peak_le (hd : d ∈ n.devices) : peakOn g pod r d ≤ d.allocatable P.int r :=
  h.placement.peak_le_allocatable h.sound h.wellFormed h.memory h.built hd (h.exact.left d hd r)

theorem aggregate_nonneg (hneed : need ∈ containerNeeds pod) (r : Resource) :
    0 ≤ aggregate (n.resolve P.int) r need := by
  obtain ⟨hcores, hmemory⟩ := resolve_nonneg h.sound h.wellFormed hneed (h.memory need hneed)
  have hnumber : 0 ≤ need.number := by
    have := (h.placed hneed).count
    omega
  refine Int.mul_nonneg hnumber ?_
  cases r
  · exact Int.one_nonneg
  · exact hcores
  · exact hmemory

/-- Every occupancy of the pod is on a schedulable device. -/
theorem mem_schedulable (hneed : need ∈ containerNeeds pod) {e : Text × Amount} (he : e ∈ (g need).usage) :
    ∃ d ∈ schedulable n, d.uuid = e.1 := by
  obtain ⟨claim, hc, rfl⟩ := mem_map.mp he
  obtain ⟨d, hd, helig, rfl⟩ := (h.placed hneed).each claim hc
  exact ⟨d, helig.mem_schedulable hd, rfl⟩

/-- A group's aggregate is within what its claims take, device by device. -/
theorem group_le (r : Resource) (needs : List ContainerNeed) (hsub : ∀ need ∈ needs, need ∈ containerNeeds pod) :
    (needs.map (aggregate (n.resolve P.int) r)).sum ≤
      ((schedulable n).map fun d => (demandsAt d.uuid r (usageOf g needs)).sum).sum := by
  rw [sum_demandsAt (nodup_uuids h.sound.indexed) r fun e he => ?known]
  case known =>
    obtain ⟨need, hneed, he⟩ := mem_usageOf he
    exact h.mem_schedulable (hsub need hneed) he
  rw [usageOf, map_flatMap, flatMap, sum_flatten, map_map]
  exact sum_le_sum fun need hneed => (h.placed (hsub need hneed)).aggregate_le

/-- **The pod's peak demand is within what the schedulable devices have left.** -/
theorem total_le (r : Resource) : ((demandOf .unbounded (n.resolve P.int) (containerNeeds pod)).peak .unbounded).get r ≤
      ((schedulable n).map fun d => d.allocatable P.int r).sum := by
  obtain ⟨-, hinit, hside, hreg⟩ := demandOf_spec (n.resolve P.int) r (containerNeeds pod) {}
  rw [(filter_groups pod).1] at hside
  rw [(filter_groups pod).2] at hreg
  have hpeaks := sum_lifecycle_le (schedulable n) (fun d => (demandsAt d.uuid r
      (usageOf g ((containerNeeds pod).filter ContainerNeed.sidecar))).sum)
    (fun d => (demandsAt d.uuid r (usageOf g ((containerNeeds pod).filter fun need => need.kind = .app))).sum)
    (((containerNeeds pod).filter ContainerNeed.sequentialInit).map fun need d =>
      (demandsAt d.uuid r (g need).usage).sum)
  simp only [map_map, Function.comp_def] at hpeaks
  have hdev : ((schedulable n).map (peakOn g pod r)).sum ≤ ((schedulable n).map fun d => d.allocatable P.int r).sum :=
    sum_le_sum fun d hd => h.peak_le (mem_filter.mp hd).1
  refine le_trans ?_ (hpeaks.trans hdev)
  simp only [Demand.peak, Amount.get_add, Amount.get_sup, IntArith.unbounded_add, demandOf, hside,
    hreg, hinit, Amount.get_zero, Int.zero_add]
  have hs := h.group_le r ((containerNeeds pod).filter ContainerNeed.sidecar)
    fun _ => mem_of_mem_filter
  have hm := h.group_le r ((containerNeeds pod).filter fun need => need.kind = .app)
    fun _ => mem_of_mem_filter
  refine Int.add_le_add hs (max_le_max hm (foldl_max_le (le_foldl_max (.inl rfl)) ?_))
  intro x hx
  obtain ⟨need, hneed, rfl⟩ := mem_map.mp hx
  have hone := h.group_le r [need] (by simpa using (mem_filter.mp hneed).1)
  simp only [map_cons, map_nil, sum_cons, sum_nil, Int.add_zero, usageOf,
    flatMap_cons, flatMap_nil, append_nil] at hone
  exact hone.trans (le_foldl_max (.inr (mem_map_of_mem hneed)))

/-- One claim is within the peak of its device. -/
theorem le_peakOn (r : Resource) (hneed : need ∈ containerNeeds pod) {e : Text × Amount} (he : e ∈ (g need).usage)
    (hu : e.1 = d.uuid) : e.2.get r ≤ peakOn g pod r d := by
  have hnn := h.placement.demands_nonneg h.sound h.wellFormed h.built h.memory d.uuid r
  have hin : ∀ {l : List (Text × Amount)}, e ∈ l → e.2.get r ∈ demandsAt d.uuid r l := fun hl =>
    mem_demandsAt.mpr ⟨e.2, hu ▸ hl, rfl⟩
  have hmem : ∀ needs, need ∈ needs → (∀ x ∈ needs, x ∈ containerNeeds pod) →
      e.2.get r ≤ (demandsAt d.uuid r (usageOf g needs)).sum := fun needs hx hsub =>
    single_le_sum (hnn needs hsub) _ (hin (mem_flatMap.mpr ⟨need, hx, he⟩))
  have hs0 := sum_nonneg (h.placement.group_nonneg h.sound h.wellFormed h.memory h.built d r ContainerNeed.sidecar)
  unfold peakOn
  -- the container is in one of the three groups
  cases hk : need.kind with
  | app =>
    have := hmem ((containerNeeds pod).filter fun need => need.kind = .app)
      (mem_filter.mpr ⟨hneed, by simp [hk]⟩) fun _ => mem_of_mem_filter
    omega
  | init =>
    cases hr : need.restartable with
    | true =>
      have := hmem ((containerNeeds pod).filter ContainerNeed.sidecar)
        (mem_filter.mpr ⟨hneed, by simp [ContainerNeed.sidecar, hk, hr]⟩)
        fun _ => mem_of_mem_filter
      have h0 : 0 ≤ (((containerNeeds pod).filter ContainerNeed.sequentialInit).map fun need =>
          (demandsAt d.uuid r (g need).usage).sum).foldl max 0 := le_foldl_max (.inl rfl)
      omega
    | false =>
      have hone : e.2.get r ≤ (demandsAt d.uuid r (g need).usage).sum :=
        single_le_sum (fun v hv => by
          obtain ⟨a, ha, rfl⟩ := mem_demandsAt.mp hv
          exact h.nonneg hneed _ ha r) _ (hin he)
      have := le_foldl_max (m := 0) (.inr (mem_map.mpr
        ⟨need, mem_filter.mpr ⟨hneed, by simp [ContainerNeed.sequentialInit, hk, hr]⟩,
          rfl⟩) : _ ∨ (demandsAt d.uuid r (g need).usage).sum ∈
        ((containerNeeds pod).filter ContainerNeed.sequentialInit).map fun need =>
          (demandsAt d.uuid r (g need).usage).sum)
      omega

/-- The need of one card is within the capacity of a card. -/
theorem perCard_le_total (r : Resource) (hneed : need ∈ containerNeeds pod) :
    ∃ d ∈ schedulable n, (perCard (n.resolve P.int) need).get r ≤ d.getTotal r := by
  have hp := h.placed hneed
  have hpos := number_pos hneed
  obtain ⟨claim, hc⟩ : ∃ claim, claim ∈ (g need).deviceClaims :=
    exists_mem_of_length_pos (by have := hp.count; omega)
  obtain ⟨d, hd, helig, rfl⟩ := hp.each claim hc
  have hin : (d.uuid, (claimOn P.int n need d).amount) ∈ (g need).usage :=
    mem_map_of_mem hc
  refine ⟨d, helig.mem_schedulable hd, ?_⟩
  calc (perCard (n.resolve P.int) need).get r ≤ (claimOn P.int n need d).amount.get r := perCard_le d
    _ ≤ peakOn g pod r d := h.le_peakOn r hneed hin rfl
    _ ≤ d.allocatable P.int r := h.peak_le hd
    _ ≤ d.getTotal r := h.exact.allocatable_le h.used hd

/-- The request's statistics for the node, as sums and maxima of unbounded integers. -/
theorem resetStatistics_eq : (req.resetStatistics n).max =
        (demandOf .unbounded (n.resolve P.int) (containerNeeds pod)).largest ∧ (req.resetStatistics n).total =
        (demandOf .unbounded (n.resolve P.int) (containerNeeds pod)).peak .unbounded := by
  have hle : ∀ r, ((demandOf .unbounded (n.resolve P.int) (containerNeeds pod)).peak
      .unbounded).get r ≤ ((schedulable n).map fun d => d.getTotal r).sum := fun r =>
    (h.total_le r).trans (sum_le_sum fun d hd =>
      h.exact.allocatable_le h.used (mem_filter.mp hd).1)
  -- all groups are within the peak, because none of them is negative
  have hsum : ∀ (p : ContainerNeed → Bool) (r : Resource),
      0 ≤ (((containerNeeds pod).filter p).map (aggregate (n.resolve P.int) r)).sum := fun p r =>
    sum_nonneg (forall_mem_map.mpr fun x hx => h.aggregate_nonneg (mem_filter.mp hx).1 r)
  have hgroups : ∀ r, let s := demandOf .unbounded (n.resolve P.int) (containerNeeds pod)
      0 ≤ s.sidecar.get r ∧ 0 ≤ s.regular.get r ∧
      s.sidecar.get r + max (s.regular.get r) (s.initMax.get r) ≤
        ((schedulable n).map fun d => d.getTotal r).sum := by
    intro r
    obtain ⟨-, -, h₃, h₄⟩ := demandOf_spec (n.resolve P.int) r (containerNeeds pod) {}
    refine ⟨?_, ?_, ?_⟩
    · rw [demandOf, h₃, Amount.get_zero, Int.zero_add]
      exact hsum _ r
    · rw [demandOf, h₄, Amount.get_zero, Int.zero_add]
      exact hsum _ r
    · simpa [Demand.peak] using hle r
  have hexact : demandOf P.int (n.resolve P.int) (containerNeeds pod) =
      demandOf .unbounded (n.resolve P.int) (containerNeeds pod) :=
    demandOf_exact h.exact.total _ {} (fun r => by simp) (fun need hneed r => h.aggregate_nonneg hneed r) fun r => by
        obtain ⟨h₁, h₂, h₃⟩ := hgroups r
        simp only [demandOf] at h₁ h₂ h₃
        exact ⟨by omega, by omega, by omega⟩
  simp only [AllocationRequest.resetStatistics, h.built.containers]
  refine ⟨congrArg Demand.largest hexact, Amount.ext_get fun r => ?_⟩
  obtain ⟨h₁, h₂, h₃⟩ := hgroups r
  rw [hexact, Demand.peak, Demand.peak, Amount.get_add, Amount.get_add, Amount.get_sup, IntArith.unbounded_add]
  exact P.int.fits_zero.between (h.exact.total r) (by omega) h₃

/-- No container needs more cards than a list that has all it may use. -/
theorem max_number_le (hall : ∀ d ∈ n.devices, Eligible P req d → d ∈ ds) :
    (req.resetStatistics n).max.number ≤ ds.length := by
  rw [h.resetStatistics_eq.1]
  refine largest_le (r := .number) (by omega) fun need hneed => ?_
  have hp := h.placed hneed
  -- its claims are on different devices of the list
  have hsub : (g need).deviceClaims.map DeviceClaim.id ⊆ ds.map Device.id := by
    intro i hi
    obtain ⟨claim, hc, rfl⟩ := mem_map.mp hi
    obtain ⟨d, hd, helig, rfl⟩ := hp.each claim hc
    exact mem_map_of_mem (hall d hd helig)
  have hlen := (subperm_of_subset hp.distinct hsub).length_le
  simp only [length_map] at hlen
  have hcount := hp.count
  show need.number ≤ ds.length
  omega

/-- No vGPU needs more of a resource than a bound for the cards. -/
theorem max_get_le (hr : r ≠ .number) (h0 : 0 ≤ b)
    (hb : ∀ d ∈ schedulable n, d.getTotal r ≤ b) : (req.resetStatistics n).max.get r ≤ b := by
  rw [h.resetStatistics_eq.1]
  refine largest_le h0 fun need hneed => ?_
  obtain ⟨d, hd, hle⟩ := h.perCard_le_total r hneed
  have hsame : largestOf (n.resolve P.int) r need = (perCard (n.resolve P.int) need).get r := by
    cases r with
    | number => exact absurd rfl hr
    | cores | memory => rfl
  exact (hsame.trans_le hle).trans (hb d hd)

end GateContext

/-- A device the request may use passes the selectors. -/
theorem Eligible.selectorMatches (he : Eligible P req d) : selectorMatches (req.resetStatistics n) d = true := by
  have htype := he.type
  have huuid := he.uuid
  simp only [VGpuManager.selectorMatches, AllocationRequest.resetStatistics, Bool.and_eq_true,
    Bool.not_eq_true', Bool.and_eq_false_iff]
  cases ht : req.checkDeviceType <;> cases hu : req.checkDeviceUuid <;>
    simp_all

/-- **The gate rejects no node the allocator can use**, as long as no device of the node has a
negative usage on record and none of the sums wraps. -/
theorem gate_passes {m : NodeInfo} (hreg : ∀ ds, opts.registry node = .ok ds → Registry.WellFormed P.int ds)
    (hn : newNodeInfo P now grace node opts = .ok n) (hpod : pod.WellFormed P.int)
    (hreq : req.BuiltFrom pod) (hmem : ScaledNotNegative P.int n pod)
    (hexact : n.NoOverflow P.int) (hused : ∀ d ∈ n.devices, ∀ r, 0 ≤ d.used.get r)
    (h : allocate P now grace n req = .ok (pod', m)) : nodeCapacityGate P (req.resetStatistics n) n = none := by
  obtain ⟨g, hplace, -⟩ := allocate_placement hreq hpod.nodup_needs h
  have ctx : GateContext P now grace n pod req g :=
    ⟨newNodeInfo_sound hreg hn, hexact, hused, hpod, hmem, hreq, hplace⟩
  obtain ⟨hcards, hcores0, hmemory0, hmax⟩ := newNodeInfo_counters hn
  -- the three maxima
  have hnumber : (req.resetStatistics n).max.number ≤ n.schedulableDevices := by
    rw [hcards]
    exact ctx.max_number_le fun d hd he => he.mem_schedulable hd
  have hcores : (req.resetStatistics n).max.cores ≤ n.maxDeviceCores :=
    ctx.max_get_le (by decide) hcores0 fun d hd => (hmax d hd).1
  have hmemory : (req.resetStatistics n).max.memory ≤ n.maxDeviceMemory :=
    ctx.max_get_le (by decide) hmemory0 fun d hd => (hmax d hd).2
  -- the three totals
  have htotal : ∀ r, (req.resetStatistics n).total.get r ≤ n.getAvailable P.int r := by
    intro r
    rw [ctx.resetStatistics_eq.2]
    refine (ctx.total_le r).trans_eq (Eq.symm ?_)
    obtain ⟨bare, -, rfl⟩ := newNodeInfo_ok hn
    exact available_refresh ⟨hexact.left, hexact.total⟩ hused r
  have hn₄ : (req.resetStatistics n).total.number ≤ n.getAvailableNumber P.int := htotal .number
  have hc₄ : (req.resetStatistics n).total.cores ≤ n.getAvailableCores P.int := htotal .cores
  have hm₄ : (req.resetStatistics n).total.memory ≤ n.getAvailableMemory P.int := htotal .memory
  -- the selectors
  have hselected : (req.resetStatistics n).max.number ≤
      ((n.devices.filter (selectorMatches (req.resetStatistics n))).length : Int) :=
    ctx.max_number_le fun d hd he => mem_filter.mpr ⟨hd, he.selectorMatches⟩
  unfold nodeCapacityGate
  rw [if_neg (by omega), if_neg (by omega), if_neg (by omega), if_neg (by omega),
    if_neg (by omega), if_neg (by omega), if_neg]
  simp only [Bool.and_eq_true, decide_eq_true_eq, not_and]
  intro _
  omega

/-- Over unbounded integers nothing wraps, so only a negative usage on record can mislead the
gate. -/
theorem gate_of_allocate {m : NodeInfo} (hP : P.int = .unbounded)
    (hreg : ∀ ds, opts.registry node = .ok ds → Registry.WellFormed P.int ds)
    (hn : newNodeInfo P now grace node opts = .ok n) (hpod : pod.WellFormed P.int)
    (hreq : req.BuiltFrom pod) (hused : ∀ d ∈ n.devices, ∀ r, 0 ≤ d.used.get r)
    (h : allocate P now grace n req = .ok (pod', m)) : nodeCapacityGate P (req.resetStatistics n) n = none := by
  refine gate_passes hreg hn hpod hreq ?_ ?_ hused h
  · rw [hP] at hpod ⊢
    exact scaledNotNegative_unbounded hpod
  · rw [hP]
    exact noOverflow_unbounded n

theorem gate_of_allocate_mixed : ∃ n pod' m, newNodeInfo (.exact .unbounded) 0 0 (twoCards 1) {} = .ok n ∧
    allocate (.exact .unbounded) 0 0 n (buildAllocationRequest _ mixedPod) = .ok (pod', m) ∧
    nodeCapacityGate (.exact .unbounded) ((buildAllocationRequest _ mixedPod).resetStatistics n) n = none := by
  have hn := eq_okValue (x := newNodeInfo (.exact .unbounded) 0 0 (twoCards 1) {}) (by decide +kernel)
  have ha := eq_okValue (x := allocate (.exact .unbounded) 0 0 (okValue
    (newNodeInfo (.exact .unbounded) 0 0 (twoCards 1) {}) (by decide +kernel))
    (buildAllocationRequest _ mixedPod)) (by decide +kernel)
  exact ⟨_, _, _, hn, ha, gate_of_allocate rfl
    (fun ds h => by obtain rfl := Except.ok.inj h; decide +kernel) hn (by decide +kernel)
    ⟨_, _, _, _, _, rfl⟩ (by decide +kernel) ha⟩

/-- One card with half of the usual cores. -/
def halfCard : Node where
  name := "half".toList
  vgpuAllocatable := 10
  deviceRegister := .value [ { id := 0, uuid := "GPU-h".toList, core := 50, memory := 10000, number := 10 }]
  configInfo := .value { deviceSplit := 10, memoryFactor := 1 }

/-- A bound pod whose annotation was written by hand: it claims a negative number of cores. -/
def negativePod : Pod where
  name := "negative".toList
  uid := "u3".toList
  nodeName := "half".toList
  phase := .running
  annotations := { preAllocated := some "main[0_GPU-h_-60_0]".toList }
  containers := [{ name := "main".toList, vgpuNumber := 1 }]

/-- A pod that asks for all cores of an ordinary card. -/
def wholeCardPod : Pod where
  name := "whole".toList
  uid := "u4".toList
  containers := [{ name := "main".toList, vgpuNumber := 1, vgpuCores := 100, vgpuMemory := 100 }]

/-- A negative usage on record: the allocator sees more cores than the card has, the gate does
not. -/
theorem gate_rejects_negative_usage : ∃ n pod' m,
    newNodeInfo (.exact .unbounded) 0 0 halfCard { nodePods := [negativePod] } = .ok n ∧
    allocate (.exact .unbounded) 0 0 n (buildAllocationRequest _ wholeCardPod) = .ok (pod', m) ∧
    nodeCapacityGate (.exact .unbounded) ((buildAllocationRequest _ wholeCardPod).resetStatistics n)
      n = some .insufficientVGPUCore := by
  exact ⟨_, _, _, eq_okValue (by decide +kernel), eq_okValue (by decide +kernel), by decide +kernel⟩

end VGpuManager

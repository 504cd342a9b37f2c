import VGpuManager.Scheduler.Filter

/-!
# The size of a claim

`CheckDeviceRequest` bounds the cores and the number of devices a container asks for, not its
memory. `resolveContainerNeeds` multiplies that memory by the node's factor in 64 bits, and the
gates then compare the product with what a device has left.
-/

namespace VGpuManager

open Foundation List

variable {P : Platform} {n m : NodeInfo} {pod pod' : Pod} {req : AllocationRequest P.F}
  {need : ContainerNeed} {now grace : Int} {g : ContainerNeed → ContainerDeviceClaim} {d : Device}

/-- The claim is on this device and takes no negative amount and no more than its totals. -/
structure DeviceClaim.Within (claim : DeviceClaim) (d : Device) : Prop where
  id : claim.id = d.id
  uuid : claim.uuid = d.uuid
  cores : 0 ≤ claim.cores ∧ claim.cores ≤ d.getTotalCores
  memory : 0 ≤ claim.memory ∧ claim.memory ≤ d.getTotalMemory

/-- Nothing registered or in use on the devices is negative. -/
def NodeInfo.NotNegative (n : NodeInfo) : Prop :=
  ∀ d ∈ n.devices, ∀ r, 0 ≤ d.total.get r ∧ 0 ≤ d.used.get r
  deriving Decidable

/-! ## 1. Claims that are not negative -/

theorem mem_usageOf_of_mem {needs : List ContainerNeed} (h : need ∈ needs) {e : Text × Amount}
    (he : e ∈ (g need).usage) : e ∈ usageOf g needs := mem_flatMap.mpr ⟨need, h, he⟩

section Placed

variable (hP : P.int = .int64) (hn : n.Sound P.int) (hsigns : n.NotNegative)
  (hnn : ∀ need ∈ containerNeeds pod, ∀ e ∈ (g need).usage, ∀ r, 0 ≤ e.2.get r)

include hP hn hsigns in
/-- What is free on a device is computed without wrapping. -/
theorem left_exact (hd : d ∈ n.devices) (r : Resource) :
    P.int.left (d.total.get r) (d.used.get r) = max 0 (d.total.get r - d.used.get r) := by
  have hs := hn.devices d hd
  have htotal := hs.total_fits r
  have hused := hs.used_fits r
  rw [hP] at htotal hused ⊢
  exact IntArith.int64_left htotal hused (hsigns d hd r).1 (hsigns d hd r).2

include hnn in
theorem usageOf_nonneg (needs : List ContainerNeed) (hsub : ∀ need ∈ needs, need ∈ containerNeeds pod)
    (u : Text) (r : Resource) : ∀ v ∈ (NodeInfo.amountsOf u (usageOf g needs)).map fun a => a.get r, 0 ≤ v := by
  intro v hv
  obtain ⟨a, ha, rfl⟩ := mem_map.mp hv
  obtain ⟨need, hneed, he⟩ := mem_usageOf (mem_amountsOf.mp ha)
  exact hnn need (hsub need hneed) _ he r

include hP hn hsigns hnn

/-- What the claims of a container take of a device is within its total. -/
theorem PodPlacement.amount_le (hreq : req.BuiltFrom pod) (hplace : PodPlacement P now grace n req g)
    (hneed : need ∈ containerNeeds pod) (hd : d ∈ n.devices) {a : Amount}
    (ha : (d.uuid, a) ∈ (g need).usage) (r : Resource) : a.get r ≤ d.getTotal r := by
  have hs := hn.devices d hd
  have hleft := left_exact hP hn hsigns hd r
  have h0 := (hsigns d hd r).2
  obtain ⟨hmain, hinits⟩ := hplace.admitted hn.indexed hreq hd
  have hrun := hmain r
  have hside := usageOf_nonneg hnn ((containerNeeds pod).filter ContainerNeed.sidecar)
    (fun _ => mem_of_mem_filter) d.uuid r
  have happ := usageOf_nonneg hnn ((containerNeeds pod).filter fun need => need.kind = .app)
    (fun _ => mem_of_mem_filter) d.uuid r
  rw [NodeInfo.amountsOf_append, map_append] at hrun
  rw [Device.getTotal_eq_max]
  by_cases hseq : need.sequentialInit = true
  · -- tested against what the sidecars leave
    have htest := hinits need hneed hseq a (mem_amountsOf.mpr ha) r
    obtain ⟨hsum, hfill, -, hafter⟩ := (IntArith.AdmitsAll.append_iff.mp hrun).1.sum_le_left
      (hs.total_fits r) (hs.used_fits r) hleft hside
    have hpos := sum_nonneg hside
    rw [usedAfter, NodeInfo.get_foldl_add, hfill, hafter] at htest
    omega
  · -- tested in the concurrent pass
    refine hrun.each_le (hs.total_fits r) (hs.used_fits r) h0 hleft ?_ (a.get r) ?_
    · exact fun v hv => (mem_append.mp hv).elim (hside v) (happ v)
    · rw [← map_append, ← NodeInfo.amountsOf_append]
      refine mem_map_of_mem (mem_amountsOf.mpr (mem_append.mpr ?_))
      cases hkind : need.kind with
      | app => exact .inr (mem_usageOf_of_mem (mem_filter.mpr ⟨hneed, by simp [hkind]⟩) ha)
      | init =>
        refine .inl (mem_usageOf_of_mem (mem_filter.mpr ⟨hneed, ?_⟩) ha)
        simpa [ContainerNeed.sequentialInit, ContainerNeed.sidecar, hkind] using hseq

end Placed

/-! ## 2. Scaled requests -/

/-- A request that wraps below zero is claimed as it is. -/
theorem claimOn_of_wrapped {A : IntArith} (hpos : 0 < need.memory) (hfactor : 0 < n.memoryFactor)
    (hneg : A.mul need.memory n.memoryFactor < 0) : (claimOn A n need d).memory = A.mul need.memory n.memoryFactor := by
  have hne : A.mul need.memory n.memoryFactor ≠ 0 := by omega
  simp [claimOn, NodeInfo.resolve, resolveContainerNeeds, reqMemory, hpos, hfactor, hne]

/-- **The claims of an allocated pod are between zero and the totals of their devices just when no
scaled memory request wraps to a negative number**, on a node where nothing registered or in use
is negative. -/
theorem claims_within_totals_iff {node : Node} {opts : NodeInfo.Options} (hP : P.int = .int64)
    (hreg : ∀ ds, opts.registry node = .ok ds → Registry.WellFormed P.int ds)
    (hn : newNodeInfo P now grace node opts = .ok n) (hsigns : n.NotNegative)
    (hpod : pod.WellFormed P.int) (hreq : req.BuiltFrom pod) (h : allocate P now grace n req = .ok (pod', m)) :
    ∃ claims, pod'.annotations.preAllocated = some (PodDeviceClaim.marshalText claims) ∧
      ((∀ c ∈ claims, ∀ claim ∈ c.deviceClaims, ∃ d ∈ n.devices, claim.Within d) ↔ ScaledNotNegative P.int n pod) := by
  have hsound := newNodeInfo_sound hreg hn
  obtain ⟨g, hplace, rfl⟩ := allocate_placement hreq hpod.nodup_needs h
  refine ⟨_, rfl, fun hall need hneed hfactor => ?_, fun hscaled c hc claim hclaim => ?_⟩
  · by_contra hneg
    have hp := hplace.placed_need hreq hneed
    obtain ⟨x, hx, -, -, hmemory⟩ := mem_containerNeeds_container hneed
    have hpos : 0 < need.memory := by
      have h0 := (hpod.memory x hx).1
      rcases (hmemory ▸ h0).eq_or_lt with hzero | hpos
      · rw [← hzero] at hneg
        exact absurd (by simp [IntArith.mul, IntArith.wrap_small]) hneg
      · exact hpos
    -- the container has a claim, and it carries the wrapped number
    have hcount := hp.count
    have hnumber := number_pos hneed
    obtain ⟨claim, hclaim⟩ : ∃ claim, claim ∈ (g need).deviceClaims :=
      exists_mem_of_length_pos (by omega)
    obtain ⟨d, -, hwithin⟩ := hall _ (mem_map_of_mem hneed) claim hclaim
    obtain ⟨e, -, -, rfl⟩ := hp.each claim hclaim
    have h0 := hwithin.memory.1
    rw [claimOn_of_wrapped hpos hfactor (by omega)] at h0
    exact hneg h0
  · obtain ⟨need, hneed, rfl⟩ := mem_map.mp hc
    have hp := hplace.placed_need hreq hneed
    have hnn : ∀ need ∈ containerNeeds pod, ∀ e ∈ (g need).usage, ∀ r, 0 ≤ e.2.get r :=
      fun need hneed => (hplace.placed_need hreq hneed).usage_nonneg hsound hpod hneed (hscaled need hneed)
    obtain ⟨d, hd, -, rfl⟩ := hp.each claim hclaim
    have hmem : (d.uuid, (claimOn P.int n need d).amount) ∈ (g need).usage :=
      mem_map_of_mem hclaim
    have hle := hplace.amount_le hP hsound hsigns hnn hreq hneed hd hmem
    have h0 := hnn need hneed _ hmem
    exact ⟨d, hd, rfl, rfl, ⟨h0 .cores, hle .cores⟩, ⟨h0 .memory, hle .memory⟩⟩

theorem mixed_claims_within : ∃ n pod' m claims, twoCardsInfo 1 = .ok n ∧
    allocate (.exact .int64) 0 0 n (buildAllocationRequest _ mixedPod) = .ok (pod', m) ∧
    pod'.annotations.preAllocated = some (PodDeviceClaim.marshalText claims) ∧
    ∀ c ∈ claims, ∀ claim ∈ c.deviceClaims, ∃ d ∈ n.devices, claim.Within d := by
  have hn := eq_okValue (x := twoCardsInfo 1) (by decide +kernel)
  have ha := eq_okValue (x := allocate (.exact .int64) 0 0 (okValue (twoCardsInfo 1)
    (by decide +kernel)) (buildAllocationRequest _ mixedPod)) (by decide +kernel)
  obtain ⟨claims, hpre, hiff⟩ := claims_within_totals_iff rfl (twoCards_wellFormed 1) hn
    (by decide +kernel) (by decide +kernel) ⟨_, _, _, _, _, rfl⟩ ha
  exact ⟨_, _, _, claims, hn, ha, hpre, hiff.mpr (by decide +kernel)⟩

/-- **An accepted request with negative claims.** The request passes `CheckDeviceRequest`; times the
factor 2 its memory is `-2^62` in 64 bits, which every device has room for. -/
theorem wrapped_claims_negative : ∃ n pod' m, twoCardsInfo 2 = .ok n ∧ n.NotNegative ∧ wrappingPod.WellFormed .int64 ∧
    checkDeviceRequest (.exact .int64) (buildAllocationRequest _ wrappingPod) = true ∧
    allocate (.exact .int64) 0 0 n (buildAllocationRequest _ wrappingPod) = .ok (pod', m) ∧
    getPodDeviceClaim .int64 pod' = [⟨"x".toList, [⟨0, "GPU-a".toList, 10, -4611686018427387904⟩]⟩,
        ⟨"y".toList, [⟨0, "GPU-a".toList, 10, -4611686018427387904⟩]⟩,
        ⟨"z".toList, [⟨0, "GPU-a".toList, 10, -4611686018427387904⟩]⟩] := by
  exact ⟨_, _, _, eq_okValue (by decide +kernel), by decide +kernel, by decide +kernel, by decide +kernel,
    eq_okValue (by decide +kernel), by decide +kernel⟩

end VGpuManager

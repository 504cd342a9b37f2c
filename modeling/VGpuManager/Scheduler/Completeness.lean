import Mathlib.Data.List.Flatten
import VGpuManager.Scheduler.Agreement

/-!
# Completeness of the victim search

`findAdditionalVictims` tries the growing initial segments of one order of eviction. That misses no victim set as
long as evicting more never makes the allocator refuse, and a pod of several containers may need a pod to stay.
-/

namespace VGpuManager

open Foundation NodeInfo List

variable {P : Platform} {now grace : Int} {K : PreemptRule} {pdbLister : Option PDBLister} {gpuTopology : Bool}
  {req : AllocationRequest P.F} {n m : NodeInfo} {node : Node} {pod : Pod} {victims : Victims}
  {allVGPUPods : List Pod} {excluded excluded' : List Text} {need : ContainerNeed}

/-! ## 1. When a node is refined -/

/-- **When a node is refined**: the gates pass, and the kept victims with some initial segment of
the further ones are accepted. -/
theorem refineForNode_isSome_iff :
    (refineForNode P now grace K pdbLister req n node victims allVGPUPods).isSome = true ↔
      refineGate P req n node = none ∧
        ∃ added, added <+: additionalVictims P now grace K pdbLister req n victims allVGPUPods ∧
          accepts P now grace req n allVGPUPods (keptVictims P now grace req victims ++ added) = true := by
  constructor
  · intro h
    obtain ⟨⟨refined, violations⟩, hr⟩ := Option.isSome_iff_exists.mp h
    obtain ⟨hgate, hacc, added, hpre, rfl, -⟩ := refineForNode_spec hr
    exact ⟨hgate, added, hpre, hacc⟩
  · intro ⟨hgate, added, hpre, hacc⟩
    unfold refineForNode
    rw [if_neg (by simp [hgate])]
    dsimp only
    split
    · rfl
    · rename_i hkeep
      rw [Option.isSome_map, growUntil_isSome_iff]
      refine ⟨added, ?_, hpre, hacc⟩
      intro hnil
      rw [hnil, append_nil] at hacc
      exact hkeep hacc

/-- Some of the further victims, added to the kept ones, make the allocator accept the pod. -/
def VictimSetExists (P : Platform) (now grace : Int) (K : PreemptRule) (pdbLister : Option PDBLister)
    (req : AllocationRequest P.F) (n : NodeInfo) (victims : Victims) (allVGPUPods : List Pod) : Prop :=
  ∃ set, set ⊆ additionalVictims P now grace K pdbLister req n victims allVGPUPods ∧
    accepts P now grace req n allVGPUPods (keptVictims P now grace req victims ++ set) = true

/-! ## 2. A pod with one container -/

/-- The request takes any devices that pass the gates: it has no topology, or one it does not insist on and that
counts devices only. -/
def AllocationRequest.AnyDevices {F : Type} (req : AllocationRequest F) : Prop :=
  req.topology ≠ .link ∧ req.topology ≠ .pcie ∧ (req.topology = .numa → req.topologyStrict = false)
  deriving Decidable

theorem length_allocateNUMA {policy : SchedulerPolicy} {store ds : List Device} {k : Nat}
    (h : allocateNUMA P n policy store k = some ds) : ds.length = k := by
  unfold allocateNUMA at h
  split at h
  · cases h
  dsimp only at h
  split at h
  · cases h
  obtain ⟨e, he, rfl⟩ := Option.map_eq_some_iff.mp h
  have hk : k ≤ e.2.length := by simpa using find?_some he
  exact length_take_of_le hk

theorem pickDevices_any (hany : req.AnyDevices) {store : List Device} {k : Nat} (hk : k ≤ store.length) :
    ∃ picked, pickDevices P n now grace req store k = .ok picked ∧ picked.length = k := by
  have htake : ((sortDeviceStore P req.devicePolicy store).take k).length = k :=
    length_take_of_le (by simpa [sortDeviceStore] using hk)
  rw [pickDevices, if_neg (by omega)]
  unfold allocateByTopologyMode
  cases htopo : req.topology with
  | link => exact absurd htopo hany.1
  | pcie => exact absurd htopo hany.2.1
  | numa =>
    dsimp only
    split
    · rename_i ds hds
      exact ⟨ds, rfl, length_allocateNUMA hds⟩
    · rw [hany.2.2 htopo]
      exact ⟨_, rfl, htake⟩
  | none => exact ⟨_, rfl, htake⟩
  | unsupported value => exact ⟨_, rfl, htake⟩

/-- Its container is placed exactly if enough devices pass the gates. -/
theorem allocateOne_ok_iff (hany : req.AnyDevices) (hpos : 0 < need.number) :
    (∃ c, allocateOne P now grace n req need none = .ok c) ↔ need.number ≤ n.schedulableDevices ∧
      need.number.toNat ≤ (n.devices.filter fun d => (refusal P req (n.resolve P.int need).1
        (n.resolve P.int need).2 d).isNone).length := by
  unfold allocateOne
  split
  · rename_i hfew
    exact ⟨fun h => absurd h (by simp), fun h => absurd h.1 (by omega)⟩
  dsimp only
  by_cases hk : need.number.toNat ≤
      (filterDevices P n req (n.resolve P.int need).1 (n.resolve P.int need).2 none).length
  · obtain ⟨picked, hpick, hlen⟩ := @pickDevices_any P now grace req n hany _ _ hk
    rw [hpick]
    dsimp only
    rw [if_neg (by omega)]
    exact ⟨fun _ => ⟨by omega, hk⟩, fun _ => ⟨_, rfl⟩⟩
  · have hnone : pickDevices P n now grace req (filterDevices P n req (n.resolve P.int need).1
        (n.resolve P.int need).2 none) need.number.toNat = .ok [] := by
      rw [pickDevices, if_pos (by omega)]
    rw [hnone]
    dsimp only
    rw [if_pos (by simp; omega)]
    exact ⟨fun h => absurd h (by simp), fun h => absurd h.2 hk⟩

/-- Claims on devices of the node are recorded. -/
theorem addContainerAllocate_isSome {claims : List DeviceClaim} (hn : n.Indexed)
    (h : ∀ c ∈ claims, ∃ d ∈ n.devices, d.uuid = c.uuid) : (addContainerAllocate P.int n claims).isSome = true := by
  induction claims generalizing n with
  | nil => rfl
  | cons c claims ih =>
    obtain ⟨d, hd, hu⟩ := h c mem_cons_self
    obtain ⟨k, hk, hmap⟩ := @addAmount_spec P.int n d hn hd c.amount
    have hstep : n.addUsedResources P.int c = some k := by rw [addUsedResources, ← hu, hk]
    have hrest := ih ((addAmount_same hk).indexed hn) fun c' hc' => by
      obtain ⟨e, he, hue⟩ := h c' (mem_cons_of_mem _ hc')
      refine ⟨e.withUsed (if e.uuid = d.uuid then e.used.add P.int c.amount else e.used), ?_, hue⟩
      rw [NodeInfo.devices, hmap]
      exact mem_map_of_mem he
    simpa [addContainerAllocate, foldlM_cons, hstep] using hrest

theorem allocateAndAccumulate_isOk (hn : n.Indexed) {c : ContainerDeviceClaim}
    (h : allocateOne P now grace n req need none = .ok c) :
    ∃ k, allocateAndAccumulate P now grace req n need = .ok (c, k) := by
  have hclaims : ∀ a ∈ c.deviceClaims, ∃ d ∈ n.devices, d.uuid = a.uuid := by
    intro a ha
    obtain ⟨d, hd, -, rfl⟩ := (allocateOne_spec h).each a ha
    exact ⟨d, hd, rfl⟩
  obtain ⟨k, hk⟩ := Option.isSome_iff_exists.mp (@addContainerAllocate_isSome P n _ hn hclaims)
  exact ⟨k, by simp only [allocateAndAccumulate, h, hk]⟩

/-- A pod of one container is placed exactly if the container is, whatever its kind. -/
theorem allocate_one_ok_iff (hn : n.Indexed) (hone : req.containers = [need]) :
    (∃ r, allocate P now grace n req = .ok r) ↔ ∃ c, allocateOne P now grace n req need none = .ok c := by
  have hrestore : n.restoreUsage n.snapshotUsage = n := restore_snapshot (.refl n)
  unfold allocate allocateClaims
  cases hplaced : allocateOne P now grace n req need none with
  | error code =>
    have hacc : allocateAndAccumulate P now grace req n need = .error (.rejected code) := by
      simp only [allocateAndAccumulate, hplaced]
    cases hkind : need.kind <;> cases hres : need.restartable <;> cases hseq : req.hasSequentialInit <;>
      simp [hone, ContainerNeed.sidecar, ContainerNeed.sequentialInit, hkind, hres, allocateConcurrent,
        allocateInits, allocateInit, usedUUIDs, hacc, hplaced, hrestore, bind, Except.bind]
  | ok c =>
    obtain ⟨k, hacc⟩ := allocateAndAccumulate_isOk hn hplaced
    cases hkind : need.kind <;> cases hres : need.restartable <;> cases hseq : req.hasSequentialInit <;>
      simp [hone, ContainerNeed.sidecar, ContainerNeed.sequentialInit, hkind, hres, allocateConcurrent,
        allocateInits, allocateInit, usedUUIDs, hacc, hplaced, hrestore, bind, Except.bind, pure, Except.pure]

/-! ## 3. Evicting more -/

/-- What the pods of the node have recorded: nothing negative, and no counter or difference leaves the type. -/
structure RecordedInRange (P : Platform) (now grace : Int) (n : NodeInfo) (pods : List Pod) : Prop where
  nonneg : ∀ e ∈ podsUsage P now grace (podsOnNode pods n.name), ∀ r, 0 ≤ e.2.get r
  fits : ∀ d ∈ n.devices, ∀ r,
    let sum := ((amountsOf d.uuid (podsUsage P now grace (podsOnNode pods n.name))).map fun a => a.get r).sum
    P.int.Fits sum ∧ P.int.Fits (d.total.get r - sum)

/-- What the pods that stay have recorded on a device. -/
def staying (P : Platform) (now grace : Int) (n : NodeInfo) (pods : List Pod) (excluded : List Text) (u : Text) :
    List Amount :=
  amountsOf u (podsUsage P now grace ((podsOnNode pods n.name).filter fun q => q.uid ∉ excluded))

theorem staying_sublist (h : excluded ⊆ excluded') (u : Text) :
    (staying P now grace n allVGPUPods excluded' u).Sublist (staying P now grace n allVGPUPods excluded u) := by
  unfold staying amountsOf podsUsage
  refine (((Sublist.filter _ ?_).flatMap _).filter _).map _
  refine monotone_filter_right _ fun q hq => ?_
  simpa using fun hin => (by simpa using hq : q.uid ∉ excluded') (h hin)

/-- The devices without the victims. -/
theorem removeVictims_deviceMap (hn : n.Indexed) :
    (removeVictims P now grace n allVGPUPods excluded).deviceMap = n.deviceMap.mapUsed fun d =>
      (staying P now grace n allVGPUPods excluded d.uuid).foldl (Amount.add P.int) {} := by
  have hreset : ({ n with nodePods := [] } : NodeInfo).resetResourceUsage.Indexed :=
    SameNode.indexed (n := { n with nodePods := [] }) ⟨rfl, _, rfl⟩ ⟨hn.lookup, hn.known⟩
  rw [removeVictims_eq rfl, (addPodList_spec _ hreset).2]
  exact DeviceMap.mapUsed_mapUsed _ _

section Range

variable (hrange : RecordedInRange P now grace n allVGPUPods)

include hrange

theorem staying_nonneg {u : Text} {a : Amount} (h : a ∈ staying P now grace n allVGPUPods excluded u) (r : Resource) :
    0 ≤ a.get r := by
  have hall := (staying_sublist (nil_subset excluded) u).subset h
  obtain ⟨e, he, rfl⟩ := mem_map.mp hall
  refine hrange.nonneg e ?_ r
  simpa using (mem_filter.mp he).1

/-- The more pods go, the less is recorded. -/
theorem staying_sum_le (h : excluded ⊆ excluded') (u : Text) (r : Resource) :
    ((staying P now grace n allVGPUPods excluded' u).map fun a => a.get r).sum ≤
      ((staying P now grace n allVGPUPods excluded u).map fun a => a.get r).sum := by
  refine ((staying_sublist h u).map _).sum_le_sum fun x hx => ?_
  obtain ⟨a, ha, rfl⟩ := mem_map.mp hx
  exact staying_nonneg hrange ha r

/-- The counter of a device is the true sum. -/
theorem get_staying {d : Device} (hd : d ∈ n.devices) (r : Resource) :
    ((staying P now grace n allVGPUPods excluded d.uuid).foldl (Amount.add P.int) {}).get r =
      ((staying P now grace n allVGPUPods excluded d.uuid).map fun a => a.get r).sum := by
  have hzero : ({} : Amount).get r = 0 := by cases r <;> rfl
  have hle := staying_sum_le hrange (nil_subset excluded) d.uuid r
  have hnonneg : ∀ v ∈ (staying P now grace n allVGPUPods excluded d.uuid).map (fun a => a.get r), 0 ≤ v := by
    intro v hv
    obtain ⟨a, ha, rfl⟩ := mem_map.mp hv
    exact staying_nonneg hrange ha r
  rw [get_foldl_add, IntArith.fill, hzero, IntArith.foldl_add_eq (hrange.fits d hd r).1 _ 0 P.int.fits_zero hnonneg,
    Int.zero_add]
  simpa [staying] using hle

/-- Evicting more leaves more of every device. -/
theorem allocatable_staying (h : excluded ⊆ excluded') {d : Device} (hd : d ∈ n.devices) (r : Resource)
    (hfits : P.int.Fits (d.total.get r)) :
    (d.withUsed ((staying P now grace n allVGPUPods excluded d.uuid).foldl (Amount.add P.int) {})).allocatable P.int r ≤
      (d.withUsed ((staying P now grace n allVGPUPods excluded' d.uuid).foldl (Amount.add P.int) {})).allocatable
        P.int r := by
  have hle := staying_sum_le hrange h d.uuid r
  have hall := staying_sum_le hrange (nil_subset excluded) d.uuid r
  have hnonneg : 0 ≤ ((staying P now grace n allVGPUPods excluded' d.uuid).map fun a => a.get r).sum := by
    refine sum_nonneg fun v hv => ?_
    obtain ⟨a, ha, rfl⟩ := mem_map.mp hv
    exact staying_nonneg hrange ha r
  unfold Device.allocatable
  rw [Device.withUsed_used, Device.withUsed_used, get_staying hrange hd, get_staying hrange hd]
  refine IntArith.left_anti hfits (hrange.fits d hd r).2 hnonneg hle ?_
  simpa [staying] using hall

end Range

/-- A device that passes the gates passes them with more left. -/
theorem refusal_none_of_le {cores memory : Int} {d : Device} {a b : Amount}
    (h : ∀ r, (d.withUsed a).allocatable P.int r ≤ (d.withUsed b).allocatable P.int r)
    (hpass : refusal P req cores memory (d.withUsed a) = none) : refusal P req cores memory (d.withUsed b) = none := by
  have hslots : (d.withUsed a).allocatable P.int .number ≤ (d.withUsed b).allocatable P.int .number := h .number
  have hcores : (d.withUsed a).allocatable P.int .cores ≤ (d.withUsed b).allocatable P.int .cores := h .cores
  have hmemory : (d.withUsed a).allocatable P.int .memory ≤ (d.withUsed b).allocatable P.int .memory := h .memory
  have hslots₀ : 0 ≤ (d.withUsed a).allocatable P.int .number := Device.allocatable_nonneg
  have hcores₀ : 0 ≤ (d.withUsed a).allocatable P.int .cores := Device.allocatable_nonneg
  have htotal : reqMemory (d.withUsed b) memory = reqMemory (d.withUsed a) memory := rfl
  unfold refusal Device.allocatableNumber Device.allocatableCores Device.allocatableMemory at hpass ⊢
  split_ifs at hpass with hhealthy hmig hnone hmem hcore htype huuid
  refine (if_neg hhealthy).trans ((if_neg hmig).trans ((if_neg (by omega)).trans ((if_neg (by omega)).trans
    ((if_neg (by omega)).trans ((if_neg htype).trans (if_neg huuid))))))

/-- When the pod is accepted without some victims: enough devices pass with what stays recorded on them. -/
theorem accepts_iff (hn : n.Indexed) (hany : req.AnyDevices) (hone : req.containers = [need]) (hpos : 0 < need.number)
    (vs : List Pod) : accepts P now grace req n allVGPUPods vs = true ↔ need.number ≤ n.schedulableDevices ∧
      need.number.toNat ≤ (n.devices.filter fun d => (refusal P req (n.resolve P.int need).1 (n.resolve P.int need).2
        (d.withUsed ((staying P now grace n allVGPUPods (vs.map Pod.uid) d.uuid).foldl (Amount.add P.int)
          {}))).isNone).length := by
  obtain ⟨hrest, -⟩ := @addPodList_same P now grace ((podsOnNode allVGPUPods n.name).filter fun q =>
    q.uid ∉ vs.map Pod.uid) ({ n with nodePods := [] } : NodeInfo).resetResourceUsage
  have hmap := @removeVictims_deviceMap P now grace n allVGPUPods (vs.map Pod.uid) hn
  have hok : accepts P now grace req n allVGPUPods vs = true ↔
      ∃ r, allocate P now grace (removeVictims P now grace n allVGPUPods (vs.map Pod.uid)) req = .ok r := by
    unfold accepts canAllocate
    cases allocate P now grace (removeVictims P now grace n allVGPUPods (vs.map Pod.uid)) req <;>
      simp [Except.map, Except.isOk, Except.toBool]
  rw [← removeVictims_eq (n := n) rfl] at hrest
  generalize removeVictims P now grace n allVGPUPods (vs.map Pod.uid) = m at hok hmap hrest
  have hm : SameNode { n with nodePods := m.nodePods } m := ⟨by rw [hrest]; rfl, _, hmap⟩
  rw [hok, allocate_one_ok_iff (hm.indexed ⟨hn.lookup, hn.known⟩) hone, allocateOne_ok_iff hany hpos, hm.resolve,
    NodeInfo.devices, hmap, DeviceMap.mapUsed, filter_map, length_map, hrest]
  rfl

/-- **Evicting more never makes the allocator refuse**, for a pod of one container. -/
theorem accepts_mono (hn : n.Sound P.int) (hrange : RecordedInRange P now grace n allVGPUPods) (hany : req.AnyDevices)
    (hone : req.containers = [need]) (hpos : 0 < need.number) {vs ws : List Pod} (hsub : vs ⊆ ws)
    (h : accepts P now grace req n allVGPUPods vs = true) : accepts P now grace req n allVGPUPods ws = true := by
  rw [accepts_iff hn.indexed hany hone hpos] at h ⊢
  refine ⟨h.1, h.2.trans ?_⟩
  rw [← countP_eq_length_filter, ← countP_eq_length_filter]
  refine countP_mono_left fun d hd hpass => ?_
  rw [Option.isNone_iff_eq_none] at hpass ⊢
  exact refusal_none_of_le (fun r => allocatable_staying hrange (map_subset _ hsub) hd r
    ((hn.devices d hd).total_fits r)) hpass

end VGpuManager

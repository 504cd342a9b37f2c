import VGpuManager.Allocator.Congruence

/-!
# The order of map walks

A map is walked in a new order each time. What is recorded of pods is the same in every order. A choice depends on the
order where NUMA nodes are sorted by a score and two of them have the same: the sort keeps them as the walk met them
(`pkg/device/allocator/numa.go`). A request that has no topology mode, or NUMA nodes in the order of their numbers, is
placed alike in all orders.
-/

namespace VGpuManager

open Foundation NodeInfo List

variable {P : Platform} (o : Platform.MapOrder) {now grace : Int}

/-! ## 1. Recording pods -/

theorem shouldCount_walking (pod : Pod) : shouldCountPodDeviceAllocation (P.walking o) now grace pod =
    shouldCountPodDeviceAllocation P now grace pod := by
  unfold shouldCountPodDeviceAllocation
  rfl

section Record

variable (u : Text) (r : Resource) {used : Int}

theorem fill_podUsage_walking (pod : Pod) (hused : P.int.Fits used) :
    P.int.fill used (demandsAt u r (podUsage (P.walking o) pod)) =
      P.int.fill used (demandsAt u r (podUsage P pod)) := by
  by_cases hinit : podHasVGPUInitContainer pod = true
  · have hseq := sequentialInitNames_ne_nil hinit
    have hwalk := @fill_podUsage (P.walking o) pod hinit u r used hused
    have hown := @fill_podUsage P pod hinit u r used hused
    rw [footprintAt_reserved hseq] at hwalk hown
    exact hwalk.trans hown.symm
  · simp only [podUsage, if_neg hinit]

theorem fill_podsUsage_walking (pods : List Pod) (hused : P.int.Fits used) :
    P.int.fill used (demandsAt u r (podsUsage (P.walking o) now grace pods)) =
      P.int.fill used (demandsAt u r (podsUsage P now grace pods)) := by
  have hsplit (Q : Platform) (pod : Pod) (counted : List Pod) (x : Int) :
      P.int.fill x (demandsAt u r ((pod :: counted).flatMap (podUsage Q))) =
        P.int.fill (P.int.fill x (demandsAt u r (podUsage Q pod))) (demandsAt u r (counted.flatMap (podUsage Q))) := by
    rw [flatMap_cons, demandsAt, amountsOf_append, map_append]
    exact foldl_append
  have hcounted : ∀ (counted : List Pod) {x : Int}, P.int.Fits x →
      P.int.fill x (demandsAt u r (counted.flatMap (podUsage (P.walking o)))) =
        P.int.fill x (demandsAt u r (counted.flatMap (podUsage P))) := by
    intro counted
    induction counted with
    | nil => exact fun _ => rfl
    | cons pod counted ih =>
      intro x hx
      rw [hsplit, hsplit, fill_podUsage_walking o u r pod hx]
      exact ih (P.int.fits_foldl_add hx _)
  have hcount : shouldCountPodDeviceAllocation (P.walking o) now grace = shouldCountPodDeviceAllocation P now grace :=
    funext fun pod => shouldCount_walking o pod
  rw [podsUsage, hcount]
  exact hcounted _ hused

end Record

variable {n : NodeInfo} (pods : List Pod)

theorem addPodList_walking_deviceMap (hn : n.Indexed) (hfits : ∀ d ∈ n.devices, ∀ r, P.int.Fits (d.used.get r)) :
    (n.addPodList (P.walking o) now grace pods).deviceMap = (n.addPodList P now grace pods).deviceMap := by
  rw [(addPodList_spec pods hn).2, (addPodList_spec pods hn).2]
  refine DeviceMap.mapUsed_congr fun d hd => Amount.ext_get fun r => ?_
  rw [get_foldl_add, get_foldl_add]
  exact fill_podsUsage_walking o d.uuid r pods (hfits d hd r)

/-- **What is recorded of pods does not depend on the order**, but for the node's own counters. -/
theorem addPodList_walking (hn : n.Indexed) (hfits : ∀ d ∈ n.devices, ∀ r, P.int.Fits (d.used.get r)) :
    n.addPodList (P.walking o) now grace pods =
      { n.addPodList P now grace pods with used := (n.addPodList (P.walking o) now grace pods).used } := by
  have hwalk := (@addPodList_same (P.walking o) now grace pods n).rest
  have hown := (@addPodList_same P now grace pods n).rest
  rw [addPodList_walking_deviceMap o pods hn hfits] at hwalk
  rw [hown]
  exact hwalk

/-- The vote of the siblings as well. -/
theorem gangAnchorComponent_walking (gangName : Option Text) (owner : Option OwnerReference) (excluded : List Text) :
    n.gangAnchorComponent (P.walking o) now grace gangName owner excluded =
      n.gangAnchorComponent P now grace gangName owner excluded := by
  simp only [gangAnchorComponent, shouldCount_walking]

/-! ## 2. Snapshots without links -/

variable {node : Node} {opts : NodeInfo.Options}

theorem bareNodeInfo_walking (hoff : opts.gpuTopologyEnabled = false) :
    bareNodeInfo (P.walking o) node opts = bareNodeInfo P node opts := by
  have hindex (Q : Platform) : buildComponentIndex Q ∅ = ∅ := by rw [buildComponentIndex, Dict.walk_empty, foldl_nil]
  unfold bareNodeInfo
  rw [hoff]
  cases opts.registry node with
  | error e => rfl
  | ok registry =>
    cases opts.config node with
    | error e => rfl
    | ok config =>
      cases hgather : gatherDevices registry with
      | error e => simp [hgather, bind, Except.bind]
      | ok gather =>
        have htopology (Q : Platform) :
            gatherTopology Q node false gather.deviceList = .ok (gather.deviceList, false, ∅) := rfl
        simp [hgather, htopology, bind, Except.bind, hindex]

theorem refresh_used (A : IntArith) (n : NodeInfo) (used : Amount) :
    ({ n with used := used } : NodeInfo).refreshResourcesData A = n.refreshResourcesData A := rfl

theorem newNodeInfo_walking (hoff : opts.gpuTopologyEnabled = false) (hpods : opts.resetPods = false)
    (hused : opts.resetUsed = false) (hreg : ∀ ds, opts.registry node = .ok ds → Registry.WellFormed P.int ds) :
    newNodeInfo (P.walking o) now grace node opts = newNodeInfo P now grace node opts := by
  rw [newNodeInfo, newNodeInfo, bareNodeInfo_walking o hoff]
  cases hbare : bareNodeInfo P node opts with
  | error e => rfl
  | ok bare =>
    have hsound := bareNodeInfo_sound hreg hbare
    have hfits : ∀ d ∈ bare.devices, ∀ r, P.int.Fits (d.used.get r) := fun d hd => (hsound.devices d hd).used_fits
    simp only [Except.map, addPodsUsedResources_eq, hpods, hused, Bool.false_eq_true, if_false]
    rw [addPodList_walking o _ hsound.indexed hfits]
    exact congrArg _ (refresh_used _ _ _)

/-! ## 3. Placing a pod -/

/-- No choice for the request hangs on the order of a walk. -/
def AllocationRequest.OrderFree {F : Type} (req : AllocationRequest F) : Prop :=
  req.topology ≠ .link ∧ req.topology ≠ .pcie ∧
    (req.topology = .numa → req.devicePolicy ≠ .binpack ∧ req.devicePolicy ≠ .spread)
  deriving Decidable

theorem numaOrder_walking (m : Dict Int (List Device)) {policy : SchedulerPolicy}
    (h : policy ≠ .binpack ∧ policy ≠ .spread) : numaOrder (P.walking o) m policy = numaOrder P m policy := by
  have hsort := sortBy_eq_of_perm Prod.fst (((P.walking o).mapOrder_perm _).trans (P.mapOrder_perm _).symm)
    (Dict.nodup_walk (P.walking o) m)
  unfold numaOrder
  cases policy with
  | binpack => exact absurd rfl h.1
  | spread => exact absurd rfl h.2
  | none => exact hsort
  | unsupported value => exact hsort

variable {req : AllocationRequest P.F} (hfree : req.OrderFree)

include hfree

theorem allocateOne_walking (n : NodeInfo) (need : ContainerNeed) (restrictUUIDs : Option (List Text)) :
    allocateOne (P.walking o) now grace n req need restrictUUIDs =
      allocateOne P now grace n req need restrictUUIDs := by
  obtain ⟨hlink, hpcie, hnuma⟩ := hfree
  have hmode (store : List Device) (k : Nat) : allocateByTopologyMode (P.walking o) n now grace req store k =
      allocateByTopologyMode P n now grace req store k := by
    unfold allocateByTopologyMode
    cases htopo : req.topology with
    | link => exact absurd htopo hlink
    | pcie => exact absurd htopo hpcie
    | numa => simp only [allocateNUMA, numaOrder_walking o _ (hnuma htopo)]
    | none => rfl
    | unsupported value => rfl
  have hsort (store : List Device) : sortDeviceStore (P.walking o) req.devicePolicy store =
      sortDeviceStore P req.devicePolicy store := rfl
  have hfilter (cores memory : Int) : filterDevices (P.walking o) n req cores memory restrictUUIDs =
      filterDevices P n req cores memory restrictUUIDs := rfl
  have hrefused (cores memory : Int) : deviceRefusals (P.walking o) n req cores memory restrictUUIDs =
      deviceRefusals P n req cores memory restrictUUIDs := rfl
  simp only [allocateOne, pickDevices, hmode, hsort, hfilter, hrefused]

theorem allocateConcurrent_walking : ∀ (needs : List ContainerNeed) (n : NodeInfo),
    allocateConcurrent (P.walking o) now grace req n needs = allocateConcurrent P now grace req n needs
  | [], _ => rfl
  | need :: needs, n => by
    simp only [allocateConcurrent, allocateAndAccumulate, allocateOne_walking o hfree,
      allocateConcurrent_walking needs]

theorem allocateInits_walking (n : NodeInfo) (preferred : List Text) : ∀ needs : List ContainerNeed,
    allocateInits (P.walking o) now grace req n preferred needs = allocateInits P now grace req n preferred needs
  | [] => rfl
  | need :: needs => by
    simp only [allocateInits, allocateInit, allocateOne_walking o hfree, allocateInits_walking n preferred needs]

/-- **Such a request is placed alike in all orders.** -/
theorem allocate_walking (n : NodeInfo) : allocate (P.walking o) now grace n req = allocate P now grace n req := by
  simp only [allocate, allocateClaims, allocateConcurrent_walking o hfree, allocateInits_walking o hfree]

end VGpuManager

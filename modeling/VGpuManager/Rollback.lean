import VGpuManager.Foundation.Runs
import VGpuManager.Usage

/-!
# Rolling usage back, and the aggregates

The allocator records pods on a snapshot of the node, saves the counters, tries, and rolls back; the aggregates of the
node are computed anew from its devices. Both are about whole sequences of calls: a rollback may come after any number
of other calls, and snapshots nest.
-/

namespace VGpuManager

open Foundation List

/-! ## 1. Calls -/

/-- The calls that change the usage of a node or save it. -/
inductive UsageCall where
  | addPod (now grace : Int) (pod : Pod)
  | snapshot
  /-- Roll back to a snapshot by its number; without one nothing happens. -/
  | restore (taken : Option Nat)
  | refresh

/-- The node and the snapshots taken so far. -/
structure UsageState where
  node : NodeInfo
  taken : List NodeInfo.UsageSnapshot := []

namespace UsageState

/-- Roll back to the snapshot with this number. -/
def restoreTo (s : UsageState) (k : Nat) : UsageState :=
  match s.taken[k]? with
  | none => s
  | some snap => { s with node := s.node.restoreUsage snap }

def step (P : Platform) (s : UsageState) : UsageCall → UsageState
  | .addPod now grace pod => { s with node := s.node.addPodUsedResources P now grace pod }
  | .snapshot => { s with taken := s.taken ++ [s.node.snapshotUsage] }
  | .restore none => s
  | .restore (some k) => s.restoreTo k
  | .refresh => { s with node := s.node.refreshResourcesData P.int }

variable {P : Platform} {s t : UsageState} {call : UsageCall}

/-- What later calls leave: the devices of the node, and the snapshots that were taken. -/
structure Later (s t : UsageState) : Prop where
  devices : NodeInfo.SameDevices s.node t.node
  taken : s.taken.IsPrefix t.taken

theorem step_later (P : Platform) (s : UsageState) (call : UsageCall) : Later s (step P s call) := by
  cases call with
  | addPod now grace pod =>
    refine ⟨?_, prefix_refl _⟩
    show NodeInfo.SameDevices s.node (s.node.addPodUsedResources P now grace pod)
    unfold NodeInfo.addPodUsedResources
    split
    · exact (NodeInfo.addAmounts_same P.int _ _).sameDevices
    · exact .refl _
  | snapshot => exact ⟨.refl _, prefix_append _ _⟩
  | restore k =>
    cases k with
    | none => exact ⟨.refl _, prefix_refl _⟩
    | some k =>
      show Later s (s.restoreTo k)
      unfold restoreTo
      split
      · exact ⟨.refl _, prefix_refl _⟩
      · exact ⟨NodeInfo.sameDevices_restore _ _, prefix_refl _⟩
  | refresh => exact ⟨NodeInfo.sameDevices_refresh _ _, prefix_refl _⟩

theorem run_later (P : Platform) (calls : List UsageCall) (s : UsageState) : Later s (run (step P) s calls) := by
  induction calls generalizing s with
  | nil => exact ⟨.refl _, prefix_refl _⟩
  | cons call calls ih =>
    have hone := step_later P s call
    have hrest := ih (step P s call)
    exact ⟨hone.devices.trans hrest.devices, hone.taken.trans hrest.taken⟩

/-- **A rollback brings back the devices** of the point at which the snapshot was taken. -/
theorem restore_matching (P : Platform) (s : UsageState) (between : List UsageCall) :
    (step P (run (step P) s (.snapshot :: between)) (.restore (some s.taken.length))).node.devices =
      s.node.devices := by
  have hlater := run_later P between (step P s .snapshot)
  have hrun : run (step P) s (.snapshot :: between) = run (step P) (step P s .snapshot) between := rfl
  generalize run (step P) (step P s .snapshot) between = t at hlater hrun
  -- the snapshot is still the one taken at this point
  have hsnap : t.taken[s.taken.length]? = some s.node.snapshotUsage := by
    obtain ⟨more, hmore⟩ := hlater.taken
    rw [← hmore]
    show (s.taken ++ [s.node.snapshotUsage] ++ more)[s.taken.length]? = _
    rw [append_assoc, getElem?_append_right le_rfl, Nat.sub_self]
    rfl
  rw [hrun]
  show (t.restoreTo s.taken.length).node.devices = _
  rw [restoreTo, hsnap]
  exact congrArg DeviceMap.devices (NodeInfo.restore_deviceMap hlater.devices.devices)

end UsageState

/-! ## 2. Aggregates -/

section Aggregates

variable {A : IntArith} (hmod : A.Modular) (n : NodeInfo) (r : Resource)

include hmod

/-- The total of a resource is the wrapped sum over the schedulable devices. -/
theorem refresh_total : (n.refreshResourcesData A).total.get r =
    A.wrap ((n.devices.filter Device.schedulable).map fun d => d.getTotal r).sum := by
  show (Amount.ofFun fun r => A.sum ((n.devices.filter Device.schedulable).map fun d => d.getTotal r)).get r = _
  rw [Amount.get_ofFun, IntArith.sum, hmod.foldl_add A.fits_zero, Int.zero_add]

/-- What is available of a resource is the wrapped sum of what the schedulable devices have left, not below zero. -/
theorem refresh_available : (n.refreshResourcesData A).getAvailable A r =
    max 0 (A.wrap ((n.devices.filter Device.schedulable).map fun d => d.allocatable A r).sum) := by
  have hused : (n.refreshResourcesData A).used.get r = A.wrap ((n.devices.filter Device.schedulable).map
      fun d => A.sub (d.getTotal r) (d.allocatable A r)).sum := by
    show (Amount.ofFun fun r => A.sum ((n.devices.filter Device.schedulable).map
      fun d => A.sub (d.getTotal r) (d.allocatable A r))).get r = _
    rw [Amount.get_ofFun, IntArith.sum, hmod.foldl_add A.fits_zero, Int.zero_add]
  rw [NodeInfo.getAvailable, IntArith.left, IntArith.sub, refresh_total hmod, hused, hmod.wrap_sub, Int.sub_eq_add_neg,
    hmod, ← Int.sub_eq_add_neg]
  simp only [IntArith.sub]
  rw [hmod.wrap_sub_sum, sum_sub_sum_sub]

end Aggregates

/-- **Rolling back and the aggregates, after any calls.** A rollback brings every device back to the counters it had
when the matching snapshot was taken. After a refresh the total of a resource and what is available of it are the
sums over the schedulable devices exactly if these sums are integers of the type. -/
theorem usage_calls_exact {P : Platform} (hmod : P.int.Modular) (n : NodeInfo) : (∀ before between : List UsageCall,
      ((run (UsageState.step P) ⟨n, []⟩ (before ++ .snapshot :: between ++
        [.restore (some (run (UsageState.step P) ⟨n, []⟩ before).taken.length)])).node.devices =
          (run (UsageState.step P) ⟨n, []⟩ before).node.devices)) ∧
      ∀ (calls : List UsageCall) (r : Resource) (m : NodeInfo),
        m = (run (UsageState.step P) ⟨n, []⟩ (calls ++ [.refresh])).node →
        (m.total.get r = ((m.devices.filter Device.schedulable).map fun d => d.getTotal r).sum ↔
          P.int.Fits ((m.devices.filter Device.schedulable).map fun d => d.getTotal r).sum) ∧
        (m.getAvailable P.int r = ((m.devices.filter Device.schedulable).map fun d => d.allocatable P.int r).sum ↔
          P.int.Fits ((m.devices.filter Device.schedulable).map fun d => d.allocatable P.int r).sum) := by
  refine ⟨fun before between => ?_, fun calls r m hm => ?_⟩
  · rw [run_append, run_append]
    exact UsageState.restore_matching P _ between
  · rw [run_append] at hm
    generalize run (UsageState.step P) ⟨n, []⟩ calls = s at hm
    obtain rfl : m = s.node.refreshResourcesData P.int := hm
    have hsame : (s.node.refreshResourcesData P.int).devices = s.node.devices := rfl
    rw [hsame, refresh_total hmod, refresh_available hmod]
    have hnonneg : 0 ≤ ((s.node.devices.filter Device.schedulable).map fun d => d.allocatable P.int r).sum :=
      sum_nonneg fun x hx => by
        obtain ⟨d, -, rfl⟩ := mem_map.mp hx
        exact Device.allocatable_nonneg
    refine ⟨Iff.rfl, fun h => ?_, fun h => ?_⟩
    · -- a wrapped sum below zero would make the sum zero, which does not wrap
      rcases le_total 0 (P.int.wrap ((s.node.devices.filter Device.schedulable).map
        fun d => d.allocatable P.int r).sum) with hpos | hneg
      · rwa [max_eq_right hpos] at h
      · rw [max_eq_left hneg] at h
        rw [← h]
        exact P.int.fits_zero
    · rw [h, max_eq_right hnonneg]

/-- Two cards of half the range. -/
def hugeCards : Node where
  name := "huge".toList
  deviceRegister := .value [⟨0, [], "a".toList, 100, 4611686018427387904, 10, 0, false, true⟩,
    ⟨1, [], "b".toList, 100, 4611686018427387904, 10, 0, false, true⟩]
  configInfo := .value { deviceSplit := 10, memoryFactor := 1 }

def hugeCardsInfo : NodeInfo := okValue (newNodeInfo (.exact .int64) 0 0 hugeCards {}) (by decide +kernel)

/-- **The total of two large cards is negative**, and nothing of them is available. -/
theorem aggregates_wrap : ((hugeCardsInfo.refreshResourcesData .int64).devices.filter Device.schedulable).length = 2 ∧
    ((hugeCardsInfo.refreshResourcesData .int64).devices.map fun d => d.getTotal .memory).sum = 9223372036854775808 ∧
    (hugeCardsInfo.refreshResourcesData .int64).total.get .memory = -9223372036854775808 ∧
    (hugeCardsInfo.refreshResourcesData .int64).getAvailable .int64 .memory = 0 := by
  decide +kernel

/-- A container on the first card. -/
def cardPod : Pod where
  name := "p".toList
  uid := "u1".toList
  nodeName := "huge".toList
  phase := .running
  annotations := { preAllocated := some "main[0_a_10_1000]".toList }
  containers := [{ name := "main".toList, vgpuNumber := 1, vgpuCores := 10, vgpuMemory := 1000 }]

theorem usage_calls_exact_card : IntArith.int64.Modular ∧ (run (UsageState.step (.exact .int64)) ⟨hugeCardsInfo, []⟩
      [.snapshot, .addPod 0 0 cardPod, .refresh, .restore (some 0)]).node.devices = hugeCardsInfo.devices ∧
    ((run (UsageState.step (.exact .int64)) ⟨hugeCardsInfo, []⟩ [.addPod 0 0 cardPod]).node.devices.map
      fun d => d.used.get .memory) = [1000, 0] ∧ (run (UsageState.step (.exact .int64)) ⟨hugeCardsInfo, []⟩
      [.addPod 0 0 cardPod, .refresh]).node.getAvailable .int64 .cores = 190 := by
  obtain ⟨hback, hsums⟩ := @usage_calls_exact (.exact .int64) IntArith.int64_modular hugeCardsInfo
  refine ⟨IntArith.int64_modular, hback [] [.addPod 0 0 cardPod, .refresh], by decide +kernel, ?_⟩
  exact ((hsums [.addPod 0 0 cardPod] .cores _ rfl).2.mpr (by decide +kernel)).trans (by decide +kernel)

end VGpuManager

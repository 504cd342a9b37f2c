import Mathlib.Algebra.Order.Group.Nat
import VGpuManager.Library.Ledger

/-!
# The memory limit (`cuda_hook.c`: `prepare_memory_allocation`, `graph_mem_admit`)

Before an allocation reaches the driver the library adds what the container already uses on the
device, the virtual memory the ledger tracks there and the requested size, and compares with the
device's total. When that fails and the virtual part may be stale, the entries of dead processes
are dropped from the ledger and the sum is formed again.

All three sums are formed in `size_t`.
-/

namespace VGpuManager.Library

open List

/-- The fields of `device_t` the decision reads; the flags are `int32_t` in the source. -/
structure DeviceConfig where
  totalMemory : UInt64
  realMemory : UInt64
  memoryLimit : Bool
  memoryOversold : Bool
  deriving Repr, DecidableEq

/-- `memory_path_t`. -/
inductive MemoryPath where
  | gpu
  | uva
  | oom
  deriving Repr, DecidableEq

/-- Which locks on the tracked memory are taken: by the first read, by the cleanup and by the read after it. -/
structure VmemLocks where
  read : Bool := true
  cleanup : Bool := true
  reread : Bool := true
  deriving Repr, DecidableEq

/-- What one allocation meets. `config` is absent when the device has no host index. -/
structure MemoryState where
  config : Option DeviceConfig
  used : UInt64
  vmemNode : Bool
  processes : List ProcessUsed
  locks : VmemLocks := {}
  deriving Repr, DecidableEq

/-! ## Dropping the entries of dead processes -/

/-- `processes[i] = processes[size-1]; size--`. -/
def swapRemove (ps : List ProcessUsed) (i : Nat) : List ProcessUsed :=
  match ps.getLast? with
  | none => ps
  | some last => (ps.set i last).dropLast

/-- The loop of `rm_vmem_node_by_non_existent_device_pid`, from the last entry down; `gone` is a
process that does not exist or is a zombie. -/
def rmNonExistent (gone : Int → Bool) : Nat → List ProcessUsed → List ProcessUsed
  | 0, ps => ps
  | i + 1, ps =>
    if ((ps[i]?).map fun p => gone p.pid).getD false then rmNonExistent gone i (swapRemove ps i)
    else rmNonExistent gone i ps

section

variable (gone : Int → Bool) (vmemNode locked : Bool) (ps : List ProcessUsed)

/-- `check_cleanup_vmem_nodes_by_device`: without the lock nothing is done. -/
def checkCleanupVmemNodesByDevice : List ProcessUsed :=
  if locked then rmNonExistent gone ps.length ps else ps

/-- `get_used_gpu_virt_memory`: the entries of every process, added as `size_t`; without the lock nothing
is counted. -/
def getUsedGpuVirtMemory : UInt64 :=
  if vmemNode && locked then ps.foldl (fun count p => count + p.used) 0 else 0

end

/-! ## The decision -/

section

variable (gone : Int → Bool) (m : MemoryState) (d : DeviceConfig) (used request : UInt64) (allowUva : Bool)

/-- `load_limited_memory_view`: nothing when the device is unknown or not limited. -/
def loadLimitedMemoryView : Option (DeviceConfig × UInt64 × UInt64) :=
  match m.config with
  | none => none
  | some d =>
    if d.memoryLimit then some (d, m.used, getUsedGpuVirtMemory m.vmemNode m.locks.read m.processes) else none

/-- The path of an admitted allocation: the oversold fallback when the device itself cannot hold
it. -/
def admittedPath : MemoryPath :=
  if allowUva && d.memoryOversold && decide (d.realMemory < used + request) then .uva else .gpu

/-- `prepare_memory_allocation`: the path, and the process list it leaves. -/
def prepareMemoryAllocation : MemoryPath × List ProcessUsed :=
  match loadLimitedMemoryView m with
  | none => (.gpu, m.processes)
  | some (d, used, vmemUsed) =>
    if d.totalMemory < used + vmemUsed + request then
      if 0 < vmemUsed ∧ used + request ≤ d.totalMemory then
        let ps := checkCleanupVmemNodesByDevice gone m.locks.cleanup m.processes
        if d.totalMemory < used + getUsedGpuVirtMemory m.vmemNode m.locks.reread ps + request then (.oom, ps)
        else (admittedPath d used request allowUva, ps)
      else (.oom, m.processes)
    else (admittedPath d used request allowUva, m.processes)

/-- `graph_mem_admit_dev`: `reserved` is what the driver's graph pool already holds, `none` when
the query failed. The result says whether the launch may go on. -/
def graphMemAdmitDev (need : UInt64) (reserved : Option UInt64) : Bool × List ProcessUsed :=
  if need = 0 then (true, m.processes)
  else if (m.config.map (·.memoryLimit)).getD false = false then (true, m.processes)
  else
    let growth := if reserved.getD 0 < need then need - reserved.getD 0 else 0
    if growth = 0 then (true, m.processes)
    else
      let (path, ps) := prepareMemoryAllocation gone m growth false
      (decide (path ≠ .oom), ps)

end

/-- `graph_mem_admit`: the devices one after the other, up to the first that refuses. -/
def graphMemAdmit (gone : Int → Bool) : List (MemoryState × UInt64 × Option UInt64) → Bool
  | [] => true
  | (m, need, reserved) :: rest =>
    (graphMemAdmitDev gone m need reserved).1 && graphMemAdmit gone rest

/-! ## The cleanup leaves the live entries -/

section

variable (gone : Int → Bool) (ps front back : List ProcessUsed) (p last : ProcessUsed)

theorem swapRemove_append_singleton : swapRemove (front ++ [p]) front.length = front := by
  simp [swapRemove]

theorem swapRemove_append_cons : swapRemove (front ++ p :: (back ++ [last])) front.length = front ++ last :: back := by
  have hlast : (front ++ p :: (back ++ [last])).getLast? = some last := by
    rw [show front ++ p :: (back ++ [last]) = (front ++ p :: back) ++ [last] by simp]
    exact getLast?_concat
  rw [swapRemove, hlast]
  simp only [set_append, Nat.lt_irrefl, if_false, Nat.sub_self, set_cons_zero]
  rw [show front ++ last :: (back ++ [last]) = (front ++ last :: back) ++ [last] by simp, dropLast_concat]

/-- The loop at position `i`: what stands behind it was kept, what stands before it is still to be
looked at. -/
theorem rmNonExistent_perm :
    (rmNonExistent gone front.length (front ++ back)).Perm (front.filter (fun p => !gone p.pid) ++ back) := by
  induction front using reverseRecOn generalizing back with
  | nil => exact List.Perm.refl _
  | append_singleton front p ih =>
    have hget : (front ++ [p] ++ back)[front.length]? = some p := by simp
    rw [length_append, length_singleton, rmNonExistent, hget]
    cases hgone : gone p.pid with
    | false =>
      simpa [hgone] using ih (p :: back)
    | true =>
      -- the last entry takes the place of the dropped one; it was looked at before
      rcases eq_nil_or_concat back with rfl | ⟨back, last, rfl⟩
      · have hs := swapRemove_append_singleton front p
        simpa [hgone, hs] using ih []
      · have hs := swapRemove_append_cons front back p last
        have hperm : (last :: back).Perm (back ++ [last]) :=
          (perm_append_singleton last back).symm
        have := (ih (last :: back)).trans (hperm.append_left _)
        simpa [hgone, hs] using this

theorem checkCleanup_perm : (checkCleanupVmemNodesByDevice gone true ps).Perm (ps.filter fun p => !gone p.pid) := by
  simpa [checkCleanupVmemNodesByDevice] using rmNonExistent_perm gone ps []

end

/-! ## The decision against the unbounded sum -/

/-- The virtual memory tracked on the device, as an unbounded number. -/
def tracked (vmemNode : Bool) (ps : List ProcessUsed) : Nat :=
  if vmemNode then (ps.map (·.used.toNat)).sum else 0

theorem toNat_foldl_used : ∀ (ps : List ProcessUsed) (count : UInt64),
    (ps.foldl (fun count p => count + p.used) count).toNat = (count.toNat + (ps.map (·.used.toNat)).sum) % 2 ^ 64
  | [], count => by simp [Nat.mod_eq_of_lt count.toNat_lt]
  | p :: ps, count => by
    rw [foldl_cons, toNat_foldl_used ps, UInt64.toNat_add, map_cons, sum_cons]
    omega

/-- Read back, the tracked memory is exact as long as it is a `size_t`. -/
theorem toNat_getUsedGpuVirtMemory {vmemNode : Bool} {ps : List ProcessUsed} (h : tracked vmemNode ps < 2 ^ 64) :
    (getUsedGpuVirtMemory vmemNode true ps).toNat = tracked vmemNode ps := by
  cases vmemNode with
  | false => rfl
  | true =>
    simp only [tracked, if_true] at h
    simp only [getUsedGpuVirtMemory, tracked, Bool.and_true, if_true, toNat_foldl_used]
    rw [show (0 : UInt64).toNat = 0 from rfl, Nat.zero_add, Nat.mod_eq_of_lt h]

/-- What the cleanup leaves is what the live processes hold, so it is not more than before. -/
theorem tracked_checkCleanup (gone : Int → Bool) (vmemNode : Bool) (ps : List ProcessUsed) :
    tracked vmemNode (checkCleanupVmemNodesByDevice gone true ps) = tracked vmemNode (ps.filter fun p => !gone p.pid) ∧
      tracked vmemNode (ps.filter fun p => !gone p.pid) ≤ tracked vmemNode ps := by
  cases vmemNode with
  | false => exact ⟨rfl, le_rfl⟩
  | true =>
    refine ⟨((checkCleanup_perm gone ps).map _).sum_eq, ?_⟩
    exact (filter_sublist.map _).sum_le_sum fun _ _ => Nat.zero_le _

/-- Formed in `size_t`, the sum with `virt` comes out within the limit although it is not. -/
def WrapsWithin (d : DeviceConfig) (used request : UInt64) (virt : Nat) : Prop :=
  2 ^ 64 ≤ used.toNat + virt + request.toNat ∧ (used.toNat + virt + request.toNat) % 2 ^ 64 ≤ d.totalMemory.toNat
  deriving Decidable

/-- None of the sums the decision rests on wraps to a value within the limit: the first one, and,
when the first exceeds the limit but would not without the tracked memory, the one with the
memory of the live processes only. -/
def SumsHold (gone : Int → Bool) (m : MemoryState) (d : DeviceConfig) (request : UInt64) : Prop :=
  ¬ WrapsWithin d m.used request (tracked m.vmemNode m.processes) ∧ (d.totalMemory.toNat <
        (m.used.toNat + tracked m.vmemNode m.processes + request.toNat) % 2 ^ 64 →
      0 < tracked m.vmemNode m.processes →
      (m.used.toNat + request.toNat) % 2 ^ 64 ≤ d.totalMemory.toNat →
      ¬ WrapsWithin d m.used request (tracked m.vmemNode (m.processes.filter fun p => !gone p.pid)))
  deriving Decidable

theorem toNat_add_add (a b c : UInt64) : (a + b + c).toNat = (a.toNat + b.toNat + c.toNat) % 2 ^ 64 := by
  rw [UInt64.toNat_add, UInt64.toNat_add]
  omega

section Decision

variable {gone : Int → Bool} {m : MemoryState} {d : DeviceConfig} {used request : UInt64} {allowUva : Bool}

/-- One comparison in `size_t`: it admits what fits, and besides only what wraps. -/
theorem le_total_iff {virt : UInt64} : ¬ d.totalMemory < used + virt + request ↔
      used.toNat + virt.toNat + request.toNat ≤ d.totalMemory.toNat ∨ WrapsWithin d used request virt.toNat := by
  rw [UInt64.lt_iff_toNat_lt, toNat_add_add, WrapsWithin]
  omega

theorem not_le_of_wraps {virt : Nat} (h : WrapsWithin d used request virt) :
    ¬ used.toNat + virt + request.toNat ≤ d.totalMemory.toNat := by
  have htotal := d.totalMemory.toNat_lt
  have hbig := h.1
  omega

theorem admittedPath_ne_oom : admittedPath d used request allowUva ≠ .oom := by
  unfold admittedPath
  split <;> simp

/-- The decision on a limited device, with the second sum written over the cleaned list. -/
theorem prepare_eq (hd : m.config = some d) (hlim : d.memoryLimit = true) (hlocks : m.locks = {}) :
    prepareMemoryAllocation gone m request allowUva =
      let vmemUsed := getUsedGpuVirtMemory m.vmemNode true m.processes
      let ps := checkCleanupVmemNodesByDevice gone true m.processes
      if d.totalMemory < m.used + vmemUsed + request then
        if 0 < vmemUsed ∧ m.used + request ≤ d.totalMemory then
          if d.totalMemory < m.used + getUsedGpuVirtMemory m.vmemNode true ps + request then (.oom, ps)
          else (admittedPath d m.used request allowUva, ps)
        else (.oom, m.processes)
      else (admittedPath d m.used request allowUva, m.processes) := by
  simp only [prepareMemoryAllocation, loadLimitedMemoryView, hd, hlim, hlocks, if_true]

section

variable (htracked : tracked m.vmemNode m.processes < 2 ^ 64)

include htracked

/-- The first comparison, read on unbounded numbers. -/
theorem first_sum_lt_iff : d.totalMemory < m.used + getUsedGpuVirtMemory m.vmemNode true m.processes + request ↔
      d.totalMemory.toNat < (m.used.toNat + tracked m.vmemNode m.processes + request.toNat) % 2 ^ 64 := by
  rw [UInt64.lt_iff_toNat_lt, toNat_add_add, toNat_getUsedGpuVirtMemory htracked]

/-- The condition of the cleanup, read on unbounded numbers. -/
theorem cleanup_iff : (0 < getUsedGpuVirtMemory m.vmemNode true m.processes ∧ m.used + request ≤ d.totalMemory) ↔
      (0 < tracked m.vmemNode m.processes ∧ (m.used.toNat + request.toNat) % 2 ^ 64 ≤ d.totalMemory.toNat) := by
  rw [UInt64.lt_iff_toNat_lt, UInt64.le_iff_toNat_le, UInt64.toNat_add, toNat_getUsedGpuVirtMemory htracked]
  rfl

theorem not_first_sum_lt_iff : ¬ d.totalMemory < m.used + getUsedGpuVirtMemory m.vmemNode true m.processes + request ↔
      m.used.toNat + tracked m.vmemNode m.processes + request.toNat ≤ d.totalMemory.toNat ∨
        WrapsWithin d m.used request (tracked m.vmemNode m.processes) := by
  rw [le_total_iff, toNat_getUsedGpuVirtMemory htracked]

/-- The second comparison is over the memory of the live processes. -/
theorem not_second_sum_lt_iff : ¬ d.totalMemory < m.used + getUsedGpuVirtMemory m.vmemNode true
        (checkCleanupVmemNodesByDevice gone true m.processes) + request ↔
      m.used.toNat + tracked m.vmemNode (m.processes.filter fun p => !gone p.pid) +
          request.toNat ≤ d.totalMemory.toNat ∨
        WrapsWithin d m.used request (tracked m.vmemNode (m.processes.filter fun p => !gone p.pid)) := by
  obtain ⟨hclean, hless⟩ := tracked_checkCleanup gone m.vmemNode m.processes
  rw [le_total_iff, toNat_getUsedGpuVirtMemory (by omega), hclean]

end

/-- What is let through fits exactly when no deciding sum wraps to a value within the limit. -/
theorem prepare_fits_iff (hd : m.config = some d) (hlim : d.memoryLimit = true) (hlocks : m.locks = {})
    (htracked : tracked m.vmemNode m.processes < 2 ^ 64) : ((prepareMemoryAllocation gone m request allowUva).1 ≠ .oom →
      m.used.toNat + tracked m.vmemNode (prepareMemoryAllocation gone m request allowUva).2 +
        request.toNat ≤ d.totalMemory.toNat) ↔ SumsHold gone m d request := by
  have hadm : admittedPath d m.used request allowUva ≠ .oom := admittedPath_ne_oom
  rw [prepare_eq hd hlim hlocks]
  by_cases h₁ : d.totalMemory < m.used + getUsedGpuVirtMemory m.vmemNode true m.processes + request
  · have hfirst : ¬ WrapsWithin d m.used request (tracked m.vmemNode m.processes) := fun hw =>
      (not_first_sum_lt_iff htracked).mpr (.inr hw) h₁
    rw [if_pos h₁]
    by_cases h₂ : 0 < getUsedGpuVirtMemory m.vmemNode true m.processes ∧ m.used + request ≤ d.totalMemory
    · -- the second sum decides
      have hsums : SumsHold gone m d request ↔
          ¬ WrapsWithin d m.used request (tracked m.vmemNode (m.processes.filter fun p => !gone p.pid)) := by
        obtain ⟨hpos, hfit⟩ := (cleanup_iff htracked).mp h₂
        simp only [SumsHold, hfirst, (first_sum_lt_iff htracked).mp h₁, hpos, hfit, not_false_eq_true, true_and,
          forall_const]
      rw [if_pos h₂, hsums]
      split
      · next h₃ => exact iff_of_true (absurd rfl) fun hw => (not_second_sum_lt_iff htracked).mpr (.inr hw) h₃
      · next h₃ =>
        rw [(tracked_checkCleanup gone m.vmemNode m.processes).1]
        exact ⟨fun h hw => not_le_of_wraps hw (h hadm), fun hw _ =>
          ((not_second_sum_lt_iff htracked).mp h₃).resolve_right hw⟩
    · rw [if_neg h₂]
      exact iff_of_true (absurd rfl) ⟨hfirst, fun _ hpos hfit => absurd ((cleanup_iff htracked).mpr ⟨hpos, hfit⟩) h₂⟩
  · rw [if_neg h₁]
    exact ⟨fun h => ⟨fun hw => not_le_of_wraps hw (h hadm), fun hlt => absurd ((first_sum_lt_iff htracked).mpr hlt) h₁⟩,
      fun hsums _ => ((not_first_sum_lt_iff htracked).mp h₁).resolve_right hsums.1⟩

end Decision

/-- **The memory limit.** On a limited device an allocation is let through only when what is used,
what is tracked after the call and what is requested fit the device's total, exactly when no sum
the decision rests on wraps to a value within the limit. -/
theorem prepare_within_limit_iff {gone : Int → Bool} {m : MemoryState} {d : DeviceConfig}
    (hd : m.config = some d) (hlim : d.memoryLimit = true) (hlocks : m.locks = {})
    (htracked : tracked m.vmemNode m.processes < 2 ^ 64) (request : UInt64) (allowUva : Bool) :
    ((prepareMemoryAllocation gone m request allowUva).1 ≠ .oom →
      m.used.toNat + tracked m.vmemNode (prepareMemoryAllocation gone m request allowUva).2 +
        request.toNat ≤ d.totalMemory.toNat) ↔ SumsHold gone m d request :=
  prepare_fits_iff hd hlim hlocks htracked

/-- A limited device of 100 bytes with 60 in use, 30 of them tracked, 20 by a dead process. -/
def stalePartly : MemoryState :=
  ⟨some ⟨100, 80, true, true⟩, 60, true, [⟨4, 20⟩, ⟨5, 10⟩], {}⟩

theorem stalePartly_within_limit : (prepareMemoryAllocation (· = 4) stalePartly 25 true).1 = .uva ∧
    stalePartly.used.toNat + tracked stalePartly.vmemNode
      (prepareMemoryAllocation (· = 4) stalePartly 25 true).2 + (25 : UInt64).toNat ≤ 100 :=
  ⟨by decide, (@prepare_within_limit_iff (· = 4) stalePartly ⟨100, 80, true, true⟩ rfl rfl rfl
    (by decide) 25 true).mpr (by decide) (by decide)⟩

-- a read without its lock counts nothing: 60 used, 30 tracked and 25 requested are let through on 100
example : (prepareMemoryAllocation (fun _ => false)
    ⟨some ⟨100, 100, true, false⟩, 60, true, [⟨4, 20⟩, ⟨5, 10⟩], { read := false }⟩ 25 false).1 = .gpu := by
  decide

/-- A request ten bytes short of `2^64` on a device of 100 bytes with 20 in use is let through: the
sum comes out as 10. -/
theorem huge_request_admitted :
    (prepareMemoryAllocation (fun _ => false) ⟨some ⟨100, 100, true, false⟩, 20, true, [], {}⟩
      18446744073709551606 false).1 = .gpu ∧ 100 < (20 : UInt64).toNat + tracked true
      (prepareMemoryAllocation (fun _ => false) ⟨some ⟨100, 100, true, false⟩, 20, true, [], {}⟩
        18446744073709551606 false).2 + (18446744073709551606 : UInt64).toNat := by
  decide

/-- A launch of a graph that allocates on several devices is admitted only when the growth of the
pool fits on each limited one. -/
theorem graphMemAdmit_within_limit {gone : Int → Bool} :
    ∀ {devs : List (MemoryState × UInt64 × Option UInt64)}, graphMemAdmit gone devs = true →
    ∀ e ∈ devs, ∀ d, e.1.config = some d → d.memoryLimit = true → e.1.locks = {} →
    tracked e.1.vmemNode e.1.processes < 2 ^ 64 → e.2.2.getD 0 < e.2.1 →
    SumsHold gone e.1 d (e.2.1 - e.2.2.getD 0) →
    e.1.used.toNat + tracked e.1.vmemNode (graphMemAdmitDev gone e.1 e.2.1 e.2.2).2 +
      (e.2.1 - e.2.2.getD 0).toNat ≤ d.totalMemory.toNat
  | [], _, _, he, _, _, _, _, _, _, _ => by simp at he
  | (m, need, reserved) :: devs, hadm, e, he, d, hd, hlim, hlocks, ht, hgrow, hsums => by
    simp only [graphMemAdmit, Bool.and_eq_true] at hadm
    rcases mem_cons.mp he with rfl | he
    · have hlt := UInt64.lt_iff_toNat_lt.mp hgrow
      dsimp only at hd hlim hlocks ht hgrow hsums hlt ⊢
      have hneed : need ≠ 0 := by
        rintro rfl
        simp at hlt
      have hpos : need - reserved.getD 0 ≠ 0 := by
        intro h
        have hsub := UInt64.toNat_sub_of_le _ _ (UInt64.le_of_lt hgrow)
        rw [h] at hsub
        have hz : (0 : UInt64).toNat = 0 := rfl
        omega
      have heq : graphMemAdmitDev gone m need reserved =
          (decide ((prepareMemoryAllocation gone m (need - reserved.getD 0) false).1 ≠ .oom),
            (prepareMemoryAllocation gone m (need - reserved.getD 0) false).2) := by
        simp [graphMemAdmitDev, hneed, hd, hlim, hgrow, hpos]
      rw [heq] at hadm ⊢
      exact (prepare_fits_iff hd hlim hlocks ht).mpr hsums (by simpa using hadm.1)
    · exact graphMemAdmit_within_limit hadm.2 e he d hd hlim hlocks ht hgrow hsums

/-- A graph on two such devices: the first pool has to grow, the second holds the need already. -/
theorem graphMemAdmit_within_limit_stalePartly :
    60 + tracked true (graphMemAdmitDev (· = 4) stalePartly 30 (some 5)).2 + 25 ≤ 100 :=
  @graphMemAdmit_within_limit (· = 4) [(stalePartly, 30, some 5), (stalePartly, 30, some 40)] (by decide)
    (stalePartly, 30, some 5) mem_cons_self ⟨100, 80, true, true⟩ rfl rfl rfl (by decide) (by decide) (by decide)

end VGpuManager.Library

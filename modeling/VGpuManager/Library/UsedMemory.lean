import Mathlib.Algebra.Order.Group.Nat
import VGpuManager.Foundation.BinarySearch
import VGpuManager.Library.Ledger

/-!
# What the container uses on a device (`cuda_hook.c`: `get_used_gpu_memory_by_device`)

NVML lists the processes on a device twice, those with a compute context and those with a
graphics context, for the whole host. The library adds up the ones that are its container's. How
it tells depends on the compatibility mode: by the list of pids registered for the container, by
cgroup, or, when the open kernel flag is set, by looking at the process itself.

In the modes that have two ways of telling, the first way that identifies an entry of a list is
used for the rest of that list (the two latches of `accumulate_used_memory`).
-/

namespace VGpuManager.Library

open Foundation List

/-- `nvmlProcessInfo_t`: the pid and the memory of one process. -/
structure ProcessInfo where
  pid : UInt32
  usedGpuMemory : UInt64
  deriving Repr, DecidableEq

/-- The answer of `device_pid_in_same_container`. -/
inductive Ownership where
  | yes
  | no
  | unknown
  deriving Repr, DecidableEq

/-- What the checks read about a process from the operating system. -/
structure ProcView where
  pidExist : UInt32 → Bool
  sameContainer : UInt32 → Ownership
  /-- the process's own cgroup path is ours -/
  cgroupOurs : UInt32 → Bool
  /-- the host's cgroup path of the process is ours -/
  hostCgroupOurs : UInt32 → Bool
  /-- `/dev/nvidia*` is open in the process -/
  gpuDeviceFd : UInt32 → Bool

/-! ## Is the process ours -/

/-- `PID_LINEAR_SEARCH_THRESHOLD`. -/
def pidLinearSearchThreshold : Nat := 20

/-- `pid_linear_search`. -/
def pidLinearSearch (key : UInt32) (arr : List Int32) : Bool := arr.any fun a => a.toUInt32 == key

/-- `check_device_pid_in_ordered_container_pids`. -/
def checkDevicePidInOrderedContainerPids (devicePid : UInt32) (pids : List Int32) : Bool :=
  if devicePid = 0 ∨ pids = [] then false
  else if pids.length ≤ pidLinearSearchThreshold then pidLinearSearch devicePid pids
  else BinarySearch.contains devicePid.toInt32.toInt (pids.map Int32.toInt)

/-- `check_device_pid_in_local_container_pid`. -/
def checkDevicePidInLocalContainerPid (env : ProcView) (devicePid : UInt32) : Bool :=
  if devicePid = 0 then false
  else if env.pidExist devicePid = false then false
  else
    match env.sameContainer devicePid with
    | .no => false
    | .unknown => env.cgroupOurs devicePid
    | .yes => env.gpuDeviceFd devicePid

/-- `check_device_pid_in_host_cgroup_container`. -/
def checkDevicePidInHostCgroupContainer (env : ProcView) (devicePid : UInt32) : Bool :=
  env.hostCgroupOurs devicePid

/-! ## Adding up a list -/

variable (ours : UInt32 → Bool) (used : UInt64) (infos : List ProcessInfo)

/-- The loop with one way of telling. -/
def accumulatePlain : UInt64 :=
  infos.foldl (fun used p => if ours p.pid then used + p.usedGpuMemory else used) used

/-- The two latches of a pass, with the sum so far. -/
structure Pass where
  used : UInt64
  matchFirst : Bool
  matchOpenKernel : Bool
  deriving Repr, DecidableEq

variable (first : UInt32 → Bool) (openKernelMode : Bool) (localOurs : UInt32 → Bool)

/-- One entry of the loop with two ways of telling: `first` (the registered list or the cgroup)
and, under the open kernel flag, the look at the process itself. -/
def Pass.step (s : Pass) (p : ProcessInfo) : Pass :=
  if !s.matchOpenKernel && first p.pid then
    { s with used := s.used + p.usedGpuMemory, matchFirst := true }
  else if !s.matchFirst && openKernelMode && localOurs p.pid then
    { s with used := s.used + p.usedGpuMemory, matchOpenKernel := true }
  else s

/-- The whole loop. -/
def accumulateLatched (used : UInt64) (infos : List ProcessInfo) : UInt64 :=
  (infos.foldl (Pass.step first openKernelMode localOurs) ⟨used, false, false⟩).used

/-- `VGPU_COMPATIBILITY_MODE`. -/
def cgroupv1CompatibilityMode : Nat := 1
def cgroupv2CompatibilityMode : Nat := 2
def openKernelCompatibilityMode : Nat := 100
def clientCompatibilityMode : Nat := 200
def sessionCompatibilityMode : Nat := 300

variable (mode : Nat)

/-- `(mode & flag) == flag`. -/
def hasMode (flag : Nat) : Bool := mode &&& flag == flag

variable (env : ProcView) (pids : List Int32)

/-- `accumulate_used_memory`. `none` is the process being stopped: an empty registered list, or a
mode that is none of the known ones. -/
def accumulateUsedMemory (used : UInt64) (infos : List ProcessInfo) : Option UInt64 :=
  let openKernelMode := hasMode mode openKernelCompatibilityMode
  if infos = [] then some used
  else if hasMode mode sessionCompatibilityMode then
    if pids = [] then none
    else some (accumulatePlain (checkDevicePidInOrderedContainerPids · pids) used infos)
  else if hasMode mode clientCompatibilityMode then
    if pids = [] then none
    else some (accumulateLatched (checkDevicePidInOrderedContainerPids · pids) openKernelMode
      (checkDevicePidInLocalContainerPid env) used infos)
  else if hasMode mode cgroupv2CompatibilityMode || hasMode mode cgroupv1CompatibilityMode then
    some (accumulateLatched (checkDevicePidInHostCgroupContainer env) openKernelMode
      (checkDevicePidInLocalContainerPid env) used infos)
  else if openKernelMode then
    some (accumulatePlain (checkDevicePidInLocalContainerPid env) used infos)
  else if mode = 0 then some (accumulatePlain (fun _ => true) used infos)
  else none

/-- `drop_pids_present_in`. -/
def dropPidsPresentIn (stale fresh : List ProcessInfo) : List ProcessInfo :=
  stale.filter fun p => !fresh.any fun q => q.pid == p.pid

/-- What an NVML enumeration leaves in the array: nothing when the call failed, and no more than
the array holds. -/
def enumerated (answer : Option (List ProcessInfo)) : List ProcessInfo :=
  (answer.getD []).take maxPids

/-- `get_used_gpu_memory_by_device`. -/
def getUsedGpuMemoryByDevice (compute graphics : Option (List ProcessInfo)) : Option UInt64 :=
  let graphicPids := enumerated graphics
  let computePids := dropPidsPresentIn (enumerated compute) graphicPids
  (accumulateUsedMemory mode env pids 0 computePids).bind fun used =>
    accumulateUsedMemory mode env pids used graphicPids

/-! ## The latches -/

section Latches

variable {first localOurs openKernelMode}

/-- Once an entry was told by the first way, the other is not tried any more, and never without the flag. -/
theorem foldl_step_first : ∀ (infos : List ProcessInfo) (used : UInt64) {m : Bool}, (!m && openKernelMode) = false →
    (infos.foldl (Pass.step first openKernelMode localOurs) ⟨used, m, false⟩).used = accumulatePlain first used infos
  | [], _, _, _ => rfl
  | p :: infos, used, m, hm => by
    have ih := foldl_step_first infos
    cases hp : first p.pid with
    | true => simpa [Pass.step, accumulatePlain, hp] using ih (used + p.usedGpuMemory) rfl
    | false => simpa [Pass.step, accumulatePlain, hp, hm] using ih used hm

/-- Without the open kernel flag there is only the first way. -/
theorem accumulateLatched_closed (used : UInt64) (infos : List ProcessInfo) :
    accumulateLatched first false localOurs used infos = accumulatePlain first used infos :=
  foldl_step_first infos used rfl

/-- A list no entry of which is told by the first way is left to the look at the process. -/
theorem accumulateLatched_none (used : UInt64) {infos : List ProcessInfo} (hnone : ∀ p ∈ infos, first p.pid = false) :
    accumulateLatched first true localOurs used infos = accumulatePlain localOurs used infos := by
  have h : ∀ (infos : List ProcessInfo) (used : UInt64) (m : Bool), (∀ p ∈ infos, first p.pid = false) →
      (infos.foldl (Pass.step first true localOurs) ⟨used, false, m⟩).used =
        accumulatePlain localOurs used infos := by
    intro infos
    induction infos with
    | nil => intro used m _; rfl
    | cons p infos ih =>
      intro used m hnone
      have hp := hnone p (by simp)
      have hrest := fun q hq => hnone q (.tail _ hq)
      cases hl : localOurs p.pid with
      | true =>
        simpa [Pass.step, accumulatePlain, hp, hl] using ih (used + p.usedGpuMemory) true hrest
      | false => simpa [Pass.step, accumulatePlain, hp, hl] using ih used m hrest
  exact h infos used false hnone

/-- No entry before the first one told by the first way is taken for ours by its looks. -/
def NoEarlyGuess (first localOurs : UInt32 → Bool) (infos : List ProcessInfo) : Prop :=
  (∃ p ∈ infos, first p.pid = true) → ∀ q ∈ infos.takeWhile (fun p => !first p.pid), localOurs q.pid = false
  deriving Decidable

/-- With nothing guessed before it, the first entry of ours settles the way for the list. -/
theorem accumulateLatched_some (used : UInt64) : ∀ {infos : List ProcessInfo},
    NoEarlyGuess first localOurs infos → (∃ p ∈ infos, first p.pid = true) →
    accumulateLatched first true localOurs used infos = accumulatePlain first used infos
  | [], _, h => by simp at h
  | p :: infos, hearly, hsome => by
    cases hp : first p.pid with
    | true =>
      simpa [accumulateLatched, Pass.step, accumulatePlain, hp] using
        foldl_step_first infos (used + p.usedGpuMemory) rfl
    | false =>
      have hl : localOurs p.pid = false := hearly hsome p (by simp [hp])
      have hsome' : ∃ q ∈ infos, first q.pid = true := by simpa [hp] using hsome
      have hearly' : NoEarlyGuess first localOurs infos := fun _ q hq =>
        hearly hsome q (by simpa [hp] using .inr hq)
      simpa [accumulateLatched, Pass.step, accumulatePlain, hp, hl] using accumulateLatched_some used hearly' hsome'

end Latches

/-! ## The sum as a number -/

/-- The memory of the entries a predicate selects. -/
def sumOf : Nat :=
  ((infos.filter fun p => ours p.pid).map (·.usedGpuMemory.toNat)).sum

theorem toNat_accumulatePlain (ours : UInt32 → Bool) : ∀ (infos : List ProcessInfo)
    (used : UInt64), (accumulatePlain ours used infos).toNat = (used.toNat + sumOf ours infos) % 2 ^ 64
  | [], used => by simp [accumulatePlain, sumOf, Nat.mod_eq_of_lt used.toNat_lt]
  | p :: infos, used => by
    have ih := toNat_accumulatePlain ours infos
    cases hp : ours p.pid with
    | true =>
      have := ih (used + p.usedGpuMemory)
      simp only [accumulatePlain, foldl_cons, hp, if_true] at this ⊢
      rw [this, UInt64.toNat_add, sumOf, sumOf, filter_cons_of_pos (by simpa using hp),
        map_cons, sum_cons]
      omega
    | false => simpa [accumulatePlain, sumOf, hp] using ih used

theorem sumOf_le : sumOf ours infos ≤ sumOf (fun _ => true) infos := by
  simp only [sumOf, filter_true]
  exact (filter_sublist.map _).sum_le_sum fun _ _ => Nat.zero_le _

/-! ## The registered list -/

variable (compute graphics : List ProcessInfo)

/-- The process is in the list registered for the container. -/
def Registered (pid : UInt32) : Prop := pid ≠ 0 ∧ pid.toInt32 ∈ pids

instance (pids : List Int32) : DecidablePred (Registered pids) :=
  fun _ => inferInstanceAs (Decidable (_ ∧ _))

/-- Both searches of the sorted list find the registered processes. -/
theorem checkOrdered_iff {pids : List Int32} (hs : (pids.map Int32.toInt).Pairwise (· ≤ ·))
    (pid : UInt32) : checkDevicePidInOrderedContainerPids pid pids = true ↔ Registered pids pid := by
  unfold checkDevicePidInOrderedContainerPids Registered
  by_cases h0 : pid = 0
  · simp [h0]
  by_cases hnil : pids = []
  · simp [hnil]
  simp only [h0, hnil, or_self, if_false, ne_eq, not_false_eq_true, true_and]
  split
  · simp only [pidLinearSearch, any_eq_true, beq_iff_eq]
    constructor
    · rintro ⟨a, ha, rfl⟩
      simpa using ha
    · intro h
      exact ⟨pid.toInt32, h, by simp⟩
  · rw [BinarySearch.contains_iff hs, mem_map]
    constructor
    · intro ⟨a, ha, he⟩
      rwa [← Int32.toInt_inj.mp he]
    · intro h
      exact ⟨pid.toInt32, h, rfl⟩

/-! ## One entry per process -/

/-- The memory of a process: as the graphics list has it, or else the compute list. -/
def memoryOf (pid : UInt32) : Nat :=
  (((graphics.find? (·.pid = pid)).or (compute.find? (·.pid = pid))).map (·.usedGpuMemory.toNat)).getD 0

/-- The memory of the registered processes on the device, each counted once. -/
def registeredUsage : Nat :=
  ∑ pid ∈ ((compute ++ graphics).map (·.pid)).toFinset with Registered pids pid, memoryOf compute graphics pid

theorem mem_dropPidsPresentIn {stale fresh : List ProcessInfo} {p : ProcessInfo} :
    p ∈ dropPidsPresentIn stale fresh ↔ p ∈ stale ∧ p.pid ∉ fresh.map (·.pid) := by
  simp [dropPidsPresentIn]

section Once

variable {compute graphics}

theorem nodup_deduplicated (hc : (compute.map (·.pid)).Nodup) (hg : (graphics.map (·.pid)).Nodup) :
    ((dropPidsPresentIn compute graphics ++ graphics).map (·.pid)).Nodup := by
  rw [map_append, nodup_append']
  exact ⟨hc.sublist (filter_sublist.map _), hg,
    forall_mem_map.mpr fun _ hp => (mem_dropPidsPresentIn.mp hp).2⟩

theorem toFinset_deduplicated : ((dropPidsPresentIn compute graphics ++ graphics).map
    (·.pid)).toFinset = ((compute ++ graphics).map (·.pid)).toFinset := by
  ext pid
  simp only [mem_toFinset, map_append, mem_append, mem_map, mem_dropPidsPresentIn]
  constructor
  · rintro (⟨p, hp, rfl⟩ | h)
    · exact .inl ⟨p, hp.1, rfl⟩
    · exact .inr h
  · rintro (⟨p, hp, rfl⟩ | h)
    · by_cases hin : ∃ q ∈ graphics, q.pid = p.pid
      · exact .inr hin
      · exact .inl ⟨p, ⟨hp, hin⟩, rfl⟩
    · exact .inr h

theorem memoryOf_deduplicated (hc : (compute.map (·.pid)).Nodup) (hg : (graphics.map (·.pid)).Nodup) {p : ProcessInfo}
    (hp : p ∈ dropPidsPresentIn compute graphics ++ graphics) :
    memoryOf compute graphics p.pid = p.usedGpuMemory.toNat := by
  rcases mem_append.mp hp with hp | hp
  · obtain ⟨hmem, hnot⟩ := mem_dropPidsPresentIn.mp hp
    have hnone : graphics.find? (·.pid = p.pid) = none := by
      simpa [find?_eq_none] using hnot
    simp [memoryOf, hnone, find?_of_inj hmem fun q hq => inj_on_of_nodup_map hc hq hmem]
  · simp [memoryOf, find?_of_inj hp fun q hq => inj_on_of_nodup_map hg hq hp]

/-- Dropping from the compute list what the graphics list has leaves every registered process
counted once. -/
theorem registeredUsage_eq (pids : List Int32) (hc : (compute.map (·.pid)).Nodup)
    (hg : (graphics.map (·.pid)).Nodup) : registeredUsage pids compute graphics =
      sumOf (fun pid => decide (Registered pids pid)) (dropPidsPresentIn compute graphics) +
        sumOf (fun pid => decide (Registered pids pid)) graphics := by
  have hnodup := nodup_deduplicated hc hg
  have hfilter : (((dropPidsPresentIn compute graphics ++ graphics).map (·.pid)).toFinset.filter
      (Registered pids)) = (((dropPidsPresentIn compute graphics ++ graphics).map (·.pid)).filter
        fun pid => decide (Registered pids pid)).toFinset := by
    ext pid
    simp [or_and_right]
  rw [registeredUsage, ← toFinset_deduplicated, hfilter, sum_toFinset _ (hnodup.filter _),
    filter_map, map_map]
  have hmap : ∀ infos : List ProcessInfo, (∀ p ∈ infos, p ∈ dropPidsPresentIn compute graphics ++ graphics) →
      (infos.map (memoryOf compute graphics ∘ fun p => p.pid)) = infos.map (·.usedGpuMemory.toNat) := fun infos h =>
    map_congr_left fun p hp => memoryOf_deduplicated hc hg (h p hp)
  rw [hmap _ fun _ => mem_of_mem_filter, filter_append, map_append, sum_append]
  rfl

end Once

/-! ## The whole computation -/

/-- What the look at the process adds to a list: in client mode with the open kernel flag, the
entries it takes for ours, as long as the list has no registered process. -/
def guessed (infos : List ProcessInfo) : Nat :=
  if hasMode mode sessionCompatibilityMode = false ∧
      hasMode mode openKernelCompatibilityMode = true ∧ ∀ p ∈ infos, ¬ Registered pids p.pid then
    sumOf (checkDevicePidInLocalContainerPid env) infos
  else 0

/-- The condition on one list: it matters in client mode with the open kernel flag only. -/
def OrderHarmless (infos : List ProcessInfo) : Prop :=
  hasMode mode sessionCompatibilityMode = true ∨ hasMode mode openKernelCompatibilityMode = false ∨
    NoEarlyGuess (fun pid => decide (Registered pids pid)) (checkDevicePidInLocalContainerPid env) infos
  deriving Decidable

section Device

variable {mode env pids infos used}

theorem checkOrdered_eq (hs : (pids.map Int32.toInt).Pairwise (· ≤ ·)) :
    (checkDevicePidInOrderedContainerPids · pids) = fun pid => decide (Registered pids pid) := by
  funext pid
  rw [Bool.eq_iff_iff, checkOrdered_iff hs, decide_eq_true_iff]

theorem sumOf_registered_none (h : ∀ p ∈ infos, ¬ Registered pids p.pid) :
    sumOf (fun pid => decide (Registered pids pid)) infos = 0 := by
  rw [sumOf, filter_eq_nil_iff.mpr (by simpa using h)]
  rfl

/-- One pass adds the registered entries of its list and what is guessed there. -/
theorem accumulateUsedMemory_eq (hmode : hasMode mode sessionCompatibilityMode = true ∨
      hasMode mode clientCompatibilityMode = true) (hs : (pids.map Int32.toInt).Pairwise (· ≤ ·)) (hpids : pids ≠ [])
    (horder : OrderHarmless mode env pids infos) (hfit : used.toNat + sumOf (fun _ => true) infos < 2 ^ 64) :
    ∃ used', accumulateUsedMemory mode env pids used infos = some used' ∧ used'.toNat =
      used.toNat + (sumOf (fun pid => decide (Registered pids pid)) infos + guessed mode env pids infos) := by
  have hplain : ∀ ours : UInt32 → Bool, (accumulatePlain ours used infos).toNat =
      used.toNat + sumOf ours infos := fun ours => by
    have := sumOf_le ours infos
    rw [toNat_accumulatePlain, Nat.mod_eq_of_lt (by omega)]
  unfold accumulateUsedMemory
  by_cases hnil : infos = []
  · subst hnil
    exact ⟨used, by simp, by simp [sumOf, guessed]⟩
  by_cases hsession : hasMode mode sessionCompatibilityMode = true
  · refine ⟨accumulatePlain (checkDevicePidInOrderedContainerPids · pids) used infos,
      by simp only [hnil, hsession, hpids, if_false, if_true], ?_⟩
    rw [checkOrdered_eq hs, hplain]
    simp [guessed, hsession]
  · have hclient := hmode.resolve_left hsession
    refine ⟨accumulateLatched (checkDevicePidInOrderedContainerPids · pids)
        (hasMode mode openKernelCompatibilityMode) (checkDevicePidInLocalContainerPid env) used infos,
      by simp only [hnil, hsession, hclient, hpids, if_false, if_true, Bool.false_eq_true], ?_⟩
    rw [checkOrdered_eq hs]
    cases hopen : hasMode mode openKernelCompatibilityMode with
    | false =>
      rw [accumulateLatched_closed, hplain]
      simp [guessed, hopen]
    | true =>
      have hearly : NoEarlyGuess (fun pid => decide (Registered pids pid))
          (checkDevicePidInLocalContainerPid env) infos :=
        (horder.resolve_left hsession).resolve_left (by simp [hopen])
      by_cases hsome : ∃ p ∈ infos, Registered pids p.pid
      · rw [accumulateLatched_some used hearly (by simpa using hsome), hplain]
        have hnot : ¬ ∀ p ∈ infos, ¬ Registered pids p.pid := by simpa using hsome
        simp [guessed, hnot]
      · have hnone : ∀ p ∈ infos, ¬ Registered pids p.pid := by simpa using hsome
        rw [accumulateLatched_none used (by simpa using hnone), hplain]
        rw [guessed, if_pos ⟨by simpa using hsession, hopen, hnone⟩, sumOf_registered_none hnone]
        omega

end Device

theorem sumOf_drop_le : sumOf (fun _ => true) (dropPidsPresentIn compute graphics) ≤ sumOf (fun _ => true) compute := by
  simp only [sumOf, filter_true]
  exact ((filter_sublist).map _).sum_le_sum fun _ _ => Nat.zero_le _

theorem guessed_le (infos : List ProcessInfo) :
    sumOf (fun pid => decide (Registered pids pid)) infos + guessed mode env pids infos ≤
      sumOf (fun _ => true) infos := by
  unfold guessed
  split
  · rename_i h
    rw [sumOf_registered_none h.2.2, Nat.zero_add]
    exact sumOf_le _ _
  · rw [Nat.add_zero]
    exact sumOf_le _ _

/-- **The used memory of the container.** In session and in client mode the result holds every
registered process on the device once, with its graphics value when it is in both lists. In
session mode and without the open kernel flag it holds nothing else; in client mode with the flag
it also holds what is guessed in a list without a registered process, and is right as long as
nothing is guessed before the first registered process of a list. -/
theorem used_memory_counts_registered {mode : Nat} {env : ProcView} {pids : List Int32}
    {compute graphics : List ProcessInfo} (hmode : hasMode mode sessionCompatibilityMode = true ∨
      hasMode mode clientCompatibilityMode = true) (hs : (pids.map Int32.toInt).Pairwise (· ≤ ·)) (hpids : pids ≠ [])
    (hc : (compute.map (·.pid)).Nodup) (hg : (graphics.map (·.pid)).Nodup)
    (hclen : compute.length ≤ maxPids) (hglen : graphics.length ≤ maxPids)
    (htotal : sumOf (fun _ => true) compute + sumOf (fun _ => true) graphics < 2 ^ 64)
    (hcompute : OrderHarmless mode env pids (dropPidsPresentIn compute graphics))
    (hgraphics : OrderHarmless mode env pids graphics) :
    ∃ used, getUsedGpuMemoryByDevice mode env pids (some compute) (some graphics) = some used ∧
      used.toNat = registeredUsage pids compute graphics +
        (guessed mode env pids (dropPidsPresentIn compute graphics) + guessed mode env pids graphics) := by
  have hdrop := sumOf_drop_le compute graphics
  have hle := guessed_le mode env pids (dropPidsPresentIn compute graphics)
  have hz : (0 : UInt64).toNat = 0 := rfl
  have hfit₁ : (0 : UInt64).toNat + sumOf (fun _ => true) (dropPidsPresentIn compute graphics) < 2 ^ 64 := by omega
  obtain ⟨used₁, h₁, hn₁⟩ := accumulateUsedMemory_eq hmode hs hpids hcompute hfit₁
  have hfit₂ : used₁.toNat + sumOf (fun _ => true) graphics < 2 ^ 64 := by omega
  obtain ⟨used₂, h₂, hn₂⟩ := accumulateUsedMemory_eq hmode hs hpids hgraphics hfit₂
  refine ⟨used₂, ?_, ?_⟩
  · simp only [getUsedGpuMemoryByDevice, enumerated, Option.getD_some,
      take_of_length_le hclen, take_of_length_le hglen, h₁, Option.bind_some, h₂]
  · rw [registeredUsage_eq pids hc hg]
    omega

/-- A view in which process 7 looks like one of the container's. -/
def looksLikeOurs : ProcView where
  pidExist := fun _ => true
  sameContainer := fun pid => if pid = 7 then .yes else .no
  cgroupOurs := fun _ => false
  hostCgroupOurs := fun _ => false
  gpuDeviceFd := fun pid => pid = 7

/-- Client mode with the open kernel flag, a process in both lists, and one that looks like ours
behind the first registered one. -/
theorem both_lists_counted_once : ∃ used, getUsedGpuMemoryByDevice 236 looksLikeOurs [3, 5]
    (some [⟨5, 100⟩, ⟨3, 40⟩, ⟨7, 10⟩]) (some [⟨8, 1⟩, ⟨5, 120⟩]) = some used ∧
    used.toNat = registeredUsage [3, 5] [⟨5, 100⟩, ⟨3, 40⟩, ⟨7, 10⟩] [⟨8, 1⟩, ⟨5, 120⟩] +
      (guessed 236 looksLikeOurs [3, 5] (dropPidsPresentIn [⟨5, 100⟩, ⟨3, 40⟩, ⟨7, 10⟩] [⟨8, 1⟩, ⟨5, 120⟩]) +
        guessed 236 looksLikeOurs [3, 5] [⟨8, 1⟩, ⟨5, 120⟩]) :=
  used_memory_counts_registered (by decide) (by decide) (by decide) (by decide) (by decide)
    (by decide) (by decide) (by decide) (by decide) (by decide)

/-- The same flag, and the process that looks like ours stands first: the registered process behind
it is not counted. -/
theorem early_guess_hides_registered :
    getUsedGpuMemoryByDevice 236 looksLikeOurs [5] (some [⟨7, 10⟩, ⟨5, 100⟩]) (some []) = some 10 ∧
    registeredUsage [5] [⟨7, 10⟩, ⟨5, 100⟩] [] = 100 := by
  decide +kernel

end VGpuManager.Library

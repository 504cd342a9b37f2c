import VGpuManager.ClaimResolve.Partitions
import VGpuManager.Lifecycle

/-!
# The exporter's footprint (`dra_gpu.go`)

The metrics of pods with resource claims are reduced by `reduceDRAPodFootprint`, a second
`ReducePodFootprint` that is told the kind of each container and has no shortcut for pods without
init containers.
-/

namespace VGpuManager

open Foundation List

/-! ## 1. The reduction -/

/-- `draAllocResult`: the device, and how much of it the container holds. -/
structure DraAllocResult where
  uuid : Text
  cores : Int
  memory : Int
deriving DecidableEq, Repr

/-- `draContainerAlloc`. -/
structure DraContainerAlloc where
  name : Text
  kind : ClaimResolve.ContainerKind
  restartable : Bool
  results : List DraAllocResult
deriving DecidableEq, Repr

abbrev DraFootprints := Dict Text Amount

variable (A : IntArith) (m : DraFootprints) (result : DraAllocResult)

def DraAllocResult.amount : Amount := ⟨1, result.cores, result.memory⟩

def draAddFootprint : DraFootprints :=
  m.insert result.uuid ((Dict.getD m result.uuid {}).add A result.amount)

def draMaxFootprintInto (uuid : Text) (f : Amount) : DraFootprints :=
  m.insert uuid ((Dict.getD m uuid {}).sup f)

structure DraGroups where
  regularSum : DraFootprints := ∅
  sidecarSum : DraFootprints := ∅
  initMax : DraFootprints := ∅

variable (P : Platform) (g : DraGroups) (alloc : DraContainerAlloc)

/-- The sums of one container's results, on top of `m`. -/
def draAddResults : DraFootprints :=
  alloc.results.foldl (draAddFootprint A) m

/-- One init container's own sums, folded into the maximum. -/
def draMaxResults (m : DraFootprints) (alloc : DraContainerAlloc) : DraFootprints :=
  let perInit := draAddResults P.int ∅ alloc
  (Dict.walk P perInit).foldl (fun m e => draMaxFootprintInto m e.1 e.2) m

/-- Put one container's results into its group; a sidecar is recognised first. -/
def DraGroups.addContainer : DraGroups :=
  if alloc.restartable then { g with sidecarSum := draAddResults P.int g.sidecarSum alloc }
  else if alloc.kind = .init then { g with initMax := draMaxResults P g.initMax alloc }
  else { g with regularSum := draAddResults P.int g.regularSum alloc }

def DraGroups.combine (uuid : Text) : Amount :=
  (Dict.getD g.sidecarSum uuid {}).add A ((Dict.getD g.regularSum uuid {}).sup (Dict.getD g.initMax uuid {}))

def reduceDRAPodFootprint (containers : List DraContainerAlloc) : DraFootprints :=
  let g := containers.foldl (DraGroups.addContainer P) {}
  let keys := (Dict.walk P g.regularSum ++ Dict.walk P g.sidecarSum ++ Dict.walk P g.initMax).map Prod.fst
  keys.foldl (fun m uuid => if uuid ∈ m then m else m.insert uuid (g.combine P.int uuid)) ∅

/-! ## 2. One GPU -/

variable {A P} {pod : Pod} {claims : PodDeviceClaim} {u : Text} {r : Resource} {m} {allocs : List DraContainerAlloc}

/-- The occupancies of a container's results. -/
def DraContainerAlloc.usage : List (Text × Amount) :=
  alloc.results.map fun result => (result.uuid, result.amount)

def DraContainerAlloc.isInit : Bool :=
  !alloc.restartable && decide (alloc.kind = .init)

def DraContainerAlloc.isRegular : Bool :=
  !alloc.restartable && !decide (alloc.kind = .init)

/-- Adding results: the GPU gets the amounts of its own ones, in order. -/
theorem get_addResults (m : DraFootprints) : (Dict.getD (draAddResults A m alloc) u {}).get r =
      A.fill ((Dict.getD m u {}).get r) (demandsAt u r alloc.usage) := by
  refine get_foldl_adds (fun m => Dict.getD m u {}) (fun m x => ?_) alloc.results m
  rw [draAddFootprint, Dict.getD_insert]
  by_cases h : x.uuid = u
  · subst h
    simp
  · simp [h]

/-- Folding one init container's sums into the maximum. -/
theorem get_maxResults (hnn : 0 ≤ (Dict.getD m u {}).get r) : (Dict.getD (draMaxResults P m alloc) u {}).get r =
      max ((Dict.getD m u {}).get r) (P.int.fill 0 (demandsAt u r alloc.usage)) := by
  have hown := get_addResults (A := P.int) (u := u) (r := r) alloc ∅
  rw [show Dict.getD (∅ : DraFootprints) u {} = {} from rfl, Amount.get_zero] at hown
  rw [← hown]
  refine get_foldl_sup (fun m => Dict.getD m u {}) (show id ({} : Amount) = {} from rfl)
    rfl (fun m e => ?_) hnn
  rw [draMaxFootprintInto, Dict.getD_insert]
  by_cases h : e.1 = u
  · subst h
    simp
  · simp [h]

/-- Each group sees its own containers only. -/
theorem DraGroups.addContainer_parts (P : Platform) (g : DraGroups) (alloc : DraContainerAlloc) :
    ((g.addContainer P alloc).sidecarSum =
        if alloc.restartable then draAddResults P.int g.sidecarSum alloc else g.sidecarSum) ∧
      ((g.addContainer P alloc).regularSum =
        if alloc.isRegular then draAddResults P.int g.regularSum alloc else g.regularSum) ∧
      (g.addContainer P alloc).initMax = if alloc.isInit then draMaxResults P g.initMax alloc else g.initMax := by
  unfold DraGroups.addContainer DraContainerAlloc.isRegular DraContainerAlloc.isInit
  by_cases hr : alloc.restartable = true
  · simp [hr]
  · by_cases hk : alloc.kind = .init <;> simp [hr, hk]

/-- **The reduction at one GPU**: the sidecars' sum plus the larger of the regular containers' sum
and the largest init container. -/
theorem reduceDRAPodFootprint_at (allocs : List DraContainerAlloc) (u : Text) (r : Resource) :
    (Dict.getD (reduceDRAPodFootprint P allocs) u {}).get r = P.int.add (P.int.fill 0 (demandsAt u r
          ((allocs.filter DraContainerAlloc.restartable).flatMap DraContainerAlloc.usage)))
        (max (P.int.fill 0 (demandsAt u r
            ((allocs.filter DraContainerAlloc.isRegular).flatMap DraContainerAlloc.usage)))
          (((allocs.filter DraContainerAlloc.isInit).map
            fun alloc => P.int.fill 0 (demandsAt u r alloc.usage)).foldl max 0)) := by
  have hside := foldl_part DraGroups.sidecarSum (fun g a => (g.addContainer_parts P a).1) allocs {}
  have hreg := foldl_part DraGroups.regularSum (fun g a => (g.addContainer_parts P a).2.1) allocs {}
  have hinit := foldl_part DraGroups.initMax (fun g a => (g.addContainer_parts P a).2.2) allocs {}
  have hsum (as : List DraContainerAlloc) := foldl_fill (fun m => (Dict.getD m u {}).get r)
    (fun m a => get_addResults (A := P.int) a m) as ∅
  have hmax := foldl_peaks (fun m : DraFootprints => (Dict.getD m u {}).get r)
    (fun m a => get_maxResults (P := P) a) (allocs.filter DraContainerAlloc.isInit) (s := ∅) (Amount.get_zero r).ge
  rw [reduceDRAPodFootprint]
  generalize allocs.foldl (DraGroups.addContainer P) {} = g at hside hreg hinit
  refine (getD_combined (fun a : Amount => a.get r) fun hr hs hi => ?_).trans ?_
  · simp only [DraGroups.combine, Dict.getD, AList.lookup_eq_none.mpr hr, AList.lookup_eq_none.mpr hs,
      AList.lookup_eq_none.mpr hi, Option.getD_none, Amount.get_add, Amount.get_sup, Amount.get_zero]
    exact P.int.fits_zero
  · rw [DraGroups.combine, Amount.get_add, Amount.get_sup, hside, hreg, hinit]
    have hzero : (Dict.getD (∅ : DraFootprints) u {}).get r = 0 := Amount.get_zero r
    rw [hzero] at hmax
    simp only [hzero] at hsum
    exact congrArg₂ P.int.add (hsum _) (congrArg₂ max (hsum _) hmax)

/-! ## 3. The same amounts, container by container -/

/-- An allocation for each container of the pod, in the order of `GetAllPodContainers`, that gives
the container the amounts its claims do. -/
structure SameAllocs (pod : Pod) (claims : PodDeviceClaim) (allocs : List DraContainerAlloc) : Prop where
  containers : allocs.map (fun a => (a.name, a.kind, a.restartable)) =
    pod.initContainers.map (fun c => (c.name, ClaimResolve.ContainerKind.init, c.restartable)) ++
      pod.containers.map fun c => (c.name, ClaimResolve.ContainerKind.app, false)
  amounts : ∀ a ∈ allocs, a.usage.Perm (usageAll (claims.filter fun c => c.name = a.name))

namespace SameAllocs

variable (h : SameAllocs pod claims allocs)

include h

theorem claimed_eq {a : DraContainerAlloc} (ha : a ∈ allocs) :
    (demandsAt u r a.usage).sum = takenAt claims u r a.name := by
  have hperm : (demandsAt u r a.usage).Perm (demandsAt u r (usageAll (claims.filter fun c => c.name = a.name))) :=
    (((h.amounts a ha).filter _).map _).map _
  rw [hperm.sum_eq, sum_usageAll]
  rfl

/-- The containers of a group, with what their claims give them. -/
theorem map_group (p : Text × ClaimResolve.ContainerKind × Bool → Bool) :
    (allocs.filter fun a => p (a.name, a.kind, a.restartable)).map (fun a => takenAt claims u r a.name) =
      ((pod.initContainers.filter fun c => p (c.name, .init, c.restartable)).map fun c => takenAt claims u r c.name) ++
        (pod.containers.filter fun c => p (c.name, .app, false)).map fun c => takenAt claims u r c.name := by
  have hmap : (allocs.filter fun a => p (a.name, a.kind, a.restartable)).map (fun a => takenAt claims u r a.name) =
      ((allocs.map fun a => (a.name, a.kind, a.restartable)).filter p).map fun t => takenAt claims u r t.1 := by
    rw [filter_map, map_map]
    rfl
  rw [hmap, h.containers, filter_append, map_append, filter_map, filter_map,
    map_map, map_map]
  rfl

theorem sidecars : ((allocs.filter DraContainerAlloc.restartable).map fun a => takenAt claims u r a.name).sum =
      staying (starters pod claims u r) := by
  have hgroup := h.map_group (u := u) (r := r) fun t => t.2.2
  rw [filter_eq_nil_iff.mpr (by simp : ∀ c ∈ pod.containers, ¬(false = true)), map_nil,
    append_nil] at hgroup
  rw [hgroup, staying, starters, filter_map, map_map]
  rfl

theorem regular : ((allocs.filter DraContainerAlloc.isRegular).map fun a => takenAt claims u r a.name).sum =
      mainTakes pod claims u r := by
  have hgroup := h.map_group (u := u) (r := r) fun t => !t.2.2 && !decide (t.2.1 = .init)
  have hnone : (pod.initContainers.filter fun c =>
      !c.restartable && !decide (ClaimResolve.ContainerKind.init = .init)) = [] := by simp
  have hall : (pod.containers.filter fun _ =>
      !false && !decide (ClaimResolve.ContainerKind.app = .init)) = pod.containers := by simp
  rw [hnone, hall, map_nil, nil_append] at hgroup
  exact congrArg sum hgroup

theorem inits : (allocs.filter DraContainerAlloc.isInit).map (fun a => takenAt claims u r a.name) =
      alone (starters pod claims u r) := by
  have hgroup := h.map_group (u := u) (r := r) fun t => !t.2.2 && decide (t.2.1 = .init)
  have hnone : (pod.containers.filter fun _ =>
      !false && decide (ClaimResolve.ContainerKind.app = .init)) = [] := by simp
  rw [hnone, map_nil, append_nil] at hgroup
  rw [alone, starters, filter_map, map_map]
  refine Eq.trans hgroup ?_
  simp only [decide_true, Bool.and_true]
  rfl

theorem demands_nonneg (hown : OwnClaims pod claims) (group : List DraContainerAlloc) (hgroup : group ⊆ allocs) :
    ∀ x ∈ demandsAt u r (group.flatMap DraContainerAlloc.usage), 0 ≤ x := by
  intro x hx
  obtain ⟨b, hb, rfl⟩ := mem_demandsAt.mp hx
  obtain ⟨a, ha, hea⟩ := mem_flatMap.mp hb
  have hclaim := (h.amounts a (hgroup ha)).mem_iff.mp hea
  exact hown.demands_nonneg _ (filter_subset_self _) _ (mem_demandsAt.mpr ⟨b, hclaim, rfl⟩)

/-- A group that is within the sum of all claims is added up without wrapping. -/
theorem fill_group (hown : OwnClaims pod claims)
    (hfits : P.int.Fits (demandsAt u r (usageAll claims)).sum) (group : List DraContainerAlloc)
    (hgroup : group ⊆ allocs)
    (hle : (group.map fun a => takenAt claims u r a.name).sum ≤ (demandsAt u r (usageAll claims)).sum) :
    P.int.fill 0 (demandsAt u r (group.flatMap DraContainerAlloc.usage)) =
      (group.map fun a => takenAt claims u r a.name).sum := by
  have hsum : (demandsAt u r (group.flatMap DraContainerAlloc.usage)).sum =
      (group.map fun a => takenAt claims u r a.name).sum := by
    rw [sum_demandsAt_flatMap, map_congr_left fun a ha => h.claimed_eq (hgroup ha)]
  rw [← hsum] at hle ⊢
  exact IntArith.sum_eq hfits (h.demands_nonneg hown group hgroup) hle

/-- **The exporter's reduction is the footprint.** -/
theorem reduce_eq (hown : OwnClaims pod claims) (hfits : P.int.Fits (demandsAt u r (usageAll claims)).sum) :
    (Dict.getD (reduceDRAPodFootprint P allocs) u {}).get r = footprintAt P pod claims u r := by
  obtain ⟨hstay, hmain, halone⟩ := hown.groups_le
  have hside := h.fill_group hown hfits _ (filter_subset_self allocs) (by rw [h.sidecars]; exact hstay)
  have hreg := h.fill_group hown hfits _ (filter_subset_self allocs) (by rw [h.regular]; exact hmain)
  have hinit : ((allocs.filter DraContainerAlloc.isInit).map
      fun a => P.int.fill 0 (demandsAt u r a.usage)) = alone (starters pod claims u r) := by
    rw [← h.inits] at halone ⊢
    refine map_congr_left fun a ha => ?_
    have hfill := h.fill_group hown hfits [a] (by simpa using mem_of_mem_filter ha) (by
      rw [map_singleton, sum_singleton]
      exact halone _ (mem_map_of_mem ha))
    simpa using hfill
  rw [reduceDRAPodFootprint_at, hside, hreg, hinit, h.sidecars, h.regular, hown.add_eq_reserve hfits,
    hown.footprintAt_eq_reserve hfits]

end SameAllocs

/-! ## 4. One peak, three computations -/

/-- **The footprint of a pod against its lifecycle peak.** For claims of the pod's own containers
that are not negative and fit the type together: the footprint is at least the peak, is the peak
if the sidecars are declared first, is what the accounting of a node adds to the GPU, and is what
the exporter computes for the same amounts. -/
theorem footprint_lifecycle (hint : P.int = .int64) (h : OwnClaims pod claims)
    (hfits : IntArith.int64.Fits (demandsAt u r (usageAll claims)).sum) :
    lifecyclePeak pod claims u r ≤ footprintAt P pod claims u r ∧
      (SidecarsFirst pod → footprintAt P pod claims u r = lifecyclePeak pod claims u r) ∧
      (∀ (now grace : Int) (n : NodeInfo), ∀ d ∈ n.devices, n.Sound .int64 → d.uuid = u →
        RequestedInits pod claims → getPodDeviceClaim .int64 pod = claims →
        shouldCountPodDeviceAllocation P now grace pod = true →
        ∃ e ∈ (n.addPodUsedResources P now grace pod).devices, e.id = d.id ∧ e.uuid = u ∧
          e.used.get r = IntArith.int64.add (d.used.get r) (footprintAt P pod claims u r)) ∧
      ∀ allocs, SameAllocs pod claims allocs →
        (Dict.getD (reduceDRAPodFootprint P allocs) u {}).get r = footprintAt P pod claims u r := by
  rw [← hint] at hfits ⊢
  have hreserve := h.footprintAt_eq_reserve hfits
  refine ⟨?_, fun hfirst => ?_, ?_, fun allocs hsame => hsame.reduce_eq h hfits⟩
  · rw [hreserve]
    exact peak_le_reserve h.starters_nonneg _
  · rw [hreserve]
    exact (peak_eq_reserve (stayFirst_starters hfirst) h.mainTakes_nonneg).symm
  · intro now grace n d hd hn hu hreq hclaims hcount
    subst hu
    exact h.addPodUsedResources_footprint (hint ▸ IntArith.int64_modular) hreq hclaims hfits hn hd hcount

def card : Device := newDevice { id := 0, uuid := "GPU-a".toList, core := 100, memory := 40000, number := 10 }

/-- A node with one GPU. -/
def cardInfo : NodeInfo where
  name := "gpu-node".toList
  deviceMap := ⟨[card], by decide⟩
  deviceIndexMap := (∅ : Dict Text Int).insert card.uuid card.id
  deviceList := []
  memoryFactor := 1
  gpuTopology := false
  numaTopology := false

theorem cardInfo_sound : cardInfo.Sound .int64 := by
  have hdevices : ∀ d ∈ cardInfo.devices, d = card := fun d hd => mem_singleton.mp hd
  refine ⟨⟨fun d hd => ?_, fun u i hu => ?_⟩, fun d hd => ?_, .inl rfl⟩
  · rw [hdevices d hd]
    exact AList.lookup_insert ∅
  · have hu : ((∅ : Dict Text Int).insert card.uuid card.id).lookup u = some i := hu
    rcases lookup_insert_cases hu with ⟨rfl, rfl⟩ | ⟨-, hu⟩
    · exact ⟨card, mem_singleton_self card, rfl, rfl⟩
    · cases hu
  · rw [hdevices d hd]
    exact ⟨rfl, fun r => by cases r <;> rfl, fun r => by cases r <;> rfl, by decide⟩

/-- A proxy that stays, a warm-up before the main phase, and the application. -/
def stagedPod : Pod where
  name := "staged".toList
  uid := "staged-uid".toList
  annotations :=
    { preAllocated := some "proxy[0_GPU-a_20_500];warm[0_GPU-a_60_1000];app[0_GPU-a_30_800]".toList }
  initContainers := [{ name := "proxy".toList, vgpuNumber := 1, restartable := true },
    { name := "warm".toList, vgpuNumber := 1 }]
  containers := [{ name := "app".toList, vgpuNumber := 1 }]

def stagedAllocs : List DraContainerAlloc :=
  [⟨"proxy".toList, .init, true, [⟨"GPU-a".toList, 20, 500⟩]⟩,
    ⟨"warm".toList, .init, false, [⟨"GPU-a".toList, 60, 1000⟩]⟩,
    ⟨"app".toList, .app, false, [⟨"GPU-a".toList, 30, 800⟩]⟩]

theorem footprint_lifecycle_staged :
    lifecyclePeak stagedPod (getPodDeviceClaim .int64 stagedPod) "GPU-a".toList .cores = 80 ∧
      footprintAt (.exact .int64) stagedPod (getPodDeviceClaim .int64 stagedPod) "GPU-a".toList .cores =
        lifecyclePeak stagedPod (getPodDeviceClaim .int64 stagedPod) "GPU-a".toList .cores ∧
      (∃ e ∈ (cardInfo.addPodUsedResources (.exact .int64) 0 0 stagedPod).devices,
        e.used.get .cores = IntArith.int64.add 0 (footprintAt (.exact .int64) stagedPod
          (getPodDeviceClaim .int64 stagedPod) "GPU-a".toList .cores)) ∧
      (Dict.getD (reduceDRAPodFootprint (.exact .int64) stagedAllocs) "GPU-a".toList {}).get .cores =
        footprintAt (.exact .int64) stagedPod (getPodDeviceClaim .int64 stagedPod) "GPU-a".toList .cores := by
  have hown : OwnClaims stagedPod (getPodDeviceClaim .int64 stagedPod) :=
    ⟨by decide +kernel, by decide +kernel, by decide +kernel, by decide +kernel⟩
  have hsame : SameAllocs stagedPod (getPodDeviceClaim .int64 stagedPod) stagedAllocs :=
    ⟨by decide +kernel, by decide +kernel⟩
  obtain ⟨-, hpeak, hadd, hdra⟩ := footprint_lifecycle (P := .exact .int64) (u := "GPU-a".toList)
    (r := .cores) rfl hown (by decide +kernel)
  obtain ⟨e, he, -, -, hused⟩ := hadd 0 0 cardInfo _ (mem_singleton_self _) cardInfo_sound rfl
    (by decide +kernel) rfl (by decide +kernel)
  exact ⟨by decide +kernel, hpeak (by decide), ⟨e, he, hused⟩, hdra _ hsame⟩

/-- An init container that asks for no vGPU, with a claim all the same. -/
def idlePod : Pod where
  name := "idle".toList
  uid := "idle-uid".toList
  annotations := { preAllocated := some "setup[0_GPU-a_50_1000];app[0_GPU-a_50_1000]".toList }
  initContainers := [{ name := "setup".toList }]
  containers := [{ name := "app".toList, vgpuNumber := 1 }]

/-- A warm-up and a proxy behind it. -/
def lateProxyPod : Pod where
  name := "late".toList
  uid := "late-uid".toList
  initContainers := [{ name := "warm".toList, vgpuNumber := 1 },
    { name := "proxy".toList, vgpuNumber := 1, restartable := true }]

def pairPod : Pod where
  name := "pair".toList
  uid := "pair-uid".toList
  containers := [{ name := "x".toList, vgpuNumber := 1 }, { name := "y".toList, vgpuNumber := 1 }]

/-- **Claims the footprint is not right for.** A claim of an init container that asks for no vGPU is
added claim by claim, 100 instead of the footprint of 50. A negative claim of a later proxy takes
the footprint below the peak, and so does a sum beyond 64 bits. -/
theorem footprint_of_unusual_claims :
    (footprintAt (.exact .int64) idlePod (getPodDeviceClaim .int64 idlePod) "GPU-a".toList .cores = 50 ∧
      (cardInfo.addPodUsedResources (.exact .int64) 0 0 idlePod).devices.map (fun d => d.used.get .cores) = [100]) ∧
      footprintAt (.exact .int64) lateProxyPod [⟨"warm".toList, [⟨0, "GPU-a".toList, 50, 0⟩]⟩,
          ⟨"proxy".toList, [⟨0, "GPU-a".toList, -10, 0⟩]⟩] "GPU-a".toList .cores <
        lifecyclePeak lateProxyPod [⟨"warm".toList, [⟨0, "GPU-a".toList, 50, 0⟩]⟩,
          ⟨"proxy".toList, [⟨0, "GPU-a".toList, -10, 0⟩]⟩] "GPU-a".toList .cores ∧
      footprintAt (.exact .int64) pairPod [⟨"x".toList, [⟨0, "GPU-a".toList, 0, 6917529027641081856⟩]⟩,
          ⟨"y".toList, [⟨0, "GPU-a".toList, 0, 6917529027641081856⟩]⟩] "GPU-a".toList .memory <
        lifecyclePeak pairPod [⟨"x".toList, [⟨0, "GPU-a".toList, 0, 6917529027641081856⟩]⟩,
          ⟨"y".toList, [⟨0, "GPU-a".toList, 0, 6917529027641081856⟩]⟩] "GPU-a".toList .memory := by
  refine ⟨⟨by decide +kernel, by decide +kernel⟩, by decide +kernel, by decide +kernel⟩

end VGpuManager

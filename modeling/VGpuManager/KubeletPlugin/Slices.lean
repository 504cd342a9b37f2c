import VGpuManager.KubeletPlugin.Partitions

/-!
# What is announced of the GPUs (`driver.go`, `consumable_shares.go`)

Every time resources are published, each device of each GPU is described anew, and after the devices of
a GPU its counter set. The description of the full GPU may write into the map both are computed from
(`applyConsumableShares`), between the two.

So with a number of shares the first counter set has a counter `shares` that the full GPU does not take;
from the second time on it takes that, too. And the number of memory slices is the largest size of a
placement, so a placement that ends beyond it takes slices that are not there.
-/

namespace VGpuManager.Partitions

open Foundation KubeletPlugin List

/-! ## Devices -/

/-- `GpuDeviceInfo`, as far as it is read here. -/
structure GpuDeviceInfo where
  minor : Gpu
  memoryTotal : Nat
  maxCapacities : PartCapacityMap
  memSliceCount : Nat

/-- A counter set is named after its GPU. -/
structure CounterSet where
  name : Gpu
  counters : Counters Text

section

variable (d : GpuDeviceInfo)

/-- `fullGpuCapacity`. -/
def GpuDeviceInfo.fullGpuCapacity : PartCapacityMap :=
  if d.memoryTotal = 0 then ∅
  else (∅ : PartCapacityMap).insert .memory (intcap (IntArith.int64.wrap d.memoryTotal))

/-- Nothing was found when the profiles were inspected. -/
def GpuDeviceInfo.bare : Bool := d.maxCapacities.entries.isEmpty

def GpuDeviceInfo.partCapacities : PartCapacityMap :=
  if d.bare then d.fullGpuCapacity else d.maxCapacities

/-- The counters of the GPU. -/
def GpuDeviceInfo.counters : Counters Text :=
  addCountersForMemSlices (capacitiesToCounters d.maxCapacities) 0 d.memSliceCount

def GpuDeviceInfo.partSharedCounterSets : Option CounterSet :=
  if d.bare then none else some ⟨d.minor, d.counters⟩

def GpuDeviceInfo.partConsumesCounters : Option CounterSet :=
  if d.bare then none else some ⟨d.minor, d.counters⟩

end

def MigSpec.partConsumesCounters (i : MigSpec) : Option CounterSet :=
  some ⟨i.parent, addCountersForMemSlices (capacitiesToCounters i.capacities) i.placement.start i.placement.size⟩

/-- `AllocatableDevice`, with what `GetDevice` says of the capacities of a vGPU. -/
inductive AllocatableDevice where
  | vgpu (capacities : PartCapacityMap)
  | gpu
  | migDynamic (spec : MigSpec)

/-- The whole GPU, in one way or the other. -/
def AllocatableDevice.isFull : AllocatableDevice → Bool
  | .vgpu _ | .gpu => true
  | .migDynamic _ => false

def AllocatableDevice.isGpu : AllocatableDevice → Bool
  | .gpu => true
  | .vgpu _ | .migDynamic _ => false

/-- `resourceapi.Device`; `source` and `gpu` stand for its name and its attributes. -/
structure Device where
  source : AllocatableDevice
  gpu : Gpu
  capacity : PartCapacityMap
  allowMultipleAllocations : Bool
  consumesCounters : Option CounterSet

/-- The gate and the option. -/
structure Config where
  gate : Bool
  consumableShares : Text

variable (cfg : Config) (useSplitResourceSlices : Bool)

def Config.isConsumableSharesEnabled : Bool :=
  let sharesOption := trimSpace cfg.consumableShares
  cfg.gate && sharesOption ≠ [] && sharesOption ≠ "disabled".toList

def applyConsumableShares (dev : Device) : Device :=
  if cfg.isConsumableSharesEnabled then
    let sharesOption := trimSpace cfg.consumableShares
    let dev := { dev with allowMultipleAllocations := true }
    match dev.capacity.lookup .memory with
    | none => dev
    | some memCap =>
      let maxMem := memCap.value.tdiv step * step
      if sharesOption = "unlimited".toList then
        { dev with capacity := dev.capacity.insert .memory ⟨maxMem, some ⟨0, 0, maxMem, step⟩⟩ }
      else if sharesOption = "memory".toList then
        { dev with capacity := dev.capacity.insert .memory ⟨maxMem, some ⟨maxMem, step, maxMem, step⟩⟩ }
      else
        match parseInt .int64 sharesOption with
        | some val =>
          if 0 < val then
            { dev with
              capacity := (dev.capacity.insert .memory ⟨maxMem, some ⟨0, 0, maxMem, step⟩⟩).insert .shares
                ⟨val, some ⟨1, 1, val, 1⟩⟩ }
          else dev
        | none => dev
  else dev

/-- `PartGetDevice`. The capacities of the full GPU are the map of the GPU itself, unless that is empty:
what is written into them stays. -/
def partGetDevice (info : GpuDeviceInfo) : AllocatableDevice → Device × GpuDeviceInfo
  | .vgpu capacities => (⟨.vgpu capacities, info.minor, capacities, true, info.partConsumesCounters⟩, info)
  | .gpu =>
    let dev := applyConsumableShares cfg ⟨.gpu, info.minor, info.partCapacities, false, info.partConsumesCounters⟩
    (dev, if info.bare then info else { info with maxCapacities := dev.capacity })
  | .migDynamic spec =>
    (applyConsumableShares cfg
      ⟨.migDynamic spec, spec.parent, spec.capacities, false, spec.partConsumesCounters⟩, info)

/-! ## Slices -/

/-- A GPU with its allocatable devices, in the order of their names. -/
structure GpuEntry where
  info : GpuDeviceInfo
  devices : List AllocatableDevice

variable (gpus : List GpuEntry)

/-- The devices are described one after the other. -/
def announce (cfg : Config) : GpuDeviceInfo → List AllocatableDevice → List Device × GpuDeviceInfo
  | info, [] => ([], info)
  | info, d :: ds =>
    let first := partGetDevice cfg info d
    let rest := announce cfg first.2 ds
    (first.1 :: rest.1, rest.2)

def GpuEntry.announced (e : GpuEntry) : List Device := (announce cfg e.info e.devices).1

/-- The GPU as it is afterwards. -/
def GpuEntry.next (e : GpuEntry) : GpuEntry := { e with
  info := (announce cfg e.info e.devices).2 }

/-- The counter set, which is computed last. -/
def GpuEntry.counterSets (e : GpuEntry) : List CounterSet :=
  if e.devices.isEmpty then [] else (e.next cfg).info.partSharedCounterSets.toList

/-- `resourceslice.Slice`. -/
structure Slice where
  sharedCounters : List CounterSet
  devices : List Device

def generateSplitResourceSlices : List Slice :=
  ⟨gpus.flatMap (GpuEntry.counterSets cfg), []⟩ :: gpus.map fun e => ⟨[], e.announced cfg⟩

def generateCombinedResourceSlices : List Slice :=
  gpus.map fun e => ⟨e.counterSets cfg, e.announced cfg⟩

/-- `GenerateDriverResources`. -/
def generateDriverResources : List Slice :=
  if useSplitResourceSlices then generateSplitResourceSlices cfg gpus
  else generateCombinedResourceSlices cfg gpus

/-- The GPUs after resources were generated. -/
def generated : List GpuEntry := gpus.map (GpuEntry.next cfg)

/-! ## Soundness -/

variable (pool : List Slice)

/-- The devices of all slices. -/
def poolDevices : List Device := pool.flatMap Slice.devices

/-- The counters of the GPU, wherever they are announced. -/
def poolCounters (gpu : Gpu) : Option (Counters Text) :=
  ((pool.flatMap Slice.sharedCounters).find? fun c => c.name == gpu).map CounterSet.counters

/-- What the device takes of the counters of its GPU. -/
def Device.takes (d : Device) : List (Counters Text) := (d.consumesCounters.map CounterSet.counters).toList

/-- The full device takes all there is: the same counters with the same values. -/
def TakesAll (d : Device) : Prop :=
  d.consumesCounters.isSome = (poolCounters pool d.gpu).isSome ∧
    ∀ n, (d.consumesCounters.bind fun c => c.counters.lookup n) = (poolCounters pool d.gpu).bind (AList.lookup n)

/-- The devices can be allocated together. -/
def FitTogether (ds : List Device) (gpu : Gpu) : Prop :=
  Fits ((poolCounters pool gpu).getD ∅) (ds.flatMap Device.takes)

/-- Both are MIG devices, on different memory slices. -/
def SlicesDisjoint (d d' : Device) : Prop :=
  ∃ s s', d.source = .migDynamic s ∧ d'.source = .migDynamic s' ∧ s.placement.disjoint s'.placement

/-- What the slices are to guarantee of the devices of a GPU. -/
structure Sound (pool : List Slice) : Prop where
  whole : ∀ d ∈ poolDevices pool, d.source.isFull = true → TakesAll pool d
  alone : ∀ d ∈ poolDevices pool, d.source.isFull = false → FitTogether pool [d] d.gpu
  apart : (poolDevices pool).Pairwise fun d d' =>
    d.gpu = d'.gpu → FitTogether pool [d, d'] d.gpu → SlicesDisjoint d d'

/-- The GPU is as it was enumerated: perhaps the full device, and the MIG devices that were found. -/
def GpuEntry.Enumerated (e : GpuEntry) : Prop :=
  ∃ visits found parent, inspectMigProfilesAndPlacements e.info.minor visits = some found ∧
    e.info.maxCapacities = found.maxCapacities ∧ e.info.memSliceCount = found.maxMemSlicesConsumed ∧
    (∀ d ∈ parent, d.isFull = true) ∧
    e.devices.Perm ((parent : Option AllocatableDevice).toList ++ found.migSpecs.entries.map fun s => .migDynamic s.2)

/-- How `GetPerGpuAllocatableDevices` comes to it. -/
def enumerate (minor : Gpu) (memoryTotal : Nat) (parent : Option AllocatableDevice)
    (visits : List ProfileVisit) : Option GpuEntry := do
  let found ← inspectMigProfilesAndPlacements minor visits
  return ⟨⟨minor, memoryTotal, found.maxCapacities, found.maxMemSlicesConsumed⟩,
    parent.toList ++ found.migSpecs.entries.map fun s => .migDynamic s.2⟩

variable {e : GpuEntry} {cfg gpus} {s : MigSpec}

theorem enumerated_of_enumerate (minor : Gpu) (memoryTotal : Nat) (parent : Option AllocatableDevice)
    (visits : List ProfileVisit) (hparent : ∀ d ∈ parent, d.isFull = true)
    (h : enumerate minor memoryTotal parent visits = some e) : e.Enumerated := by
  obtain ⟨found, hfound, he⟩ := Option.bind_eq_some_iff.mp h
  cases he
  exact ⟨visits, found, parent, hfound, rfl, rfl, hparent, .refl _⟩

/-- Every MIG device ends within the slices that are counted. -/
def GpuEntry.WithinSlices (e : GpuEntry) : Prop :=
  ∀ s, .migDynamic s ∈ e.devices → s.placement.start + s.placement.size ≤ e.info.memSliceCount

/-- The number of shares that is announced. -/
def Config.shares (cfg : Config) : Option Int :=
  let sharesOption := trimSpace cfg.consumableShares
  if cfg.isConsumableSharesEnabled then
    if sharesOption = "unlimited".toList then none
    else if sharesOption = "memory".toList then none
    else (parseInt .int64 sharesOption).filter (0 < ·)
  else none

/-- A number of shares is written into the capacities of the GPU. -/
def GpuEntry.writesShares (cfg : Config) (e : GpuEntry) : Bool :=
  cfg.shares.isSome && e.devices.any AllocatableDevice.isGpu && !e.info.bare

/-! ## What describing a device changes -/

theorem wholeUnits_cases {m : PartCapacityMap} (h : WholeUnits m) (hne : m.entries ≠ []) :
    ∃ cap, m.lookup .memory = some cap ∧ cap.value.tdiv step * step = cap.value := by
  obtain ⟨v, hv, hdvd⟩ := h.resolve_left hne
  obtain ⟨cap, hcap, rfl⟩ := Option.map_eq_some_iff.mp hv
  exact ⟨cap, hcap, Int.tdiv_mul_cancel hdvd⟩

/-- What happens to the capacities: nothing, a policy for memory, or shares as well. -/
theorem applyConsumableShares_cases (cfg : Config) {dev : Device} {cap : DeviceCapacity}
    (hcap : dev.capacity.lookup .memory = some cap) :
    let capacity := (applyConsumableShares cfg dev).capacity
    let maxMem := cap.value.tdiv step * step
    (cfg.shares = none ∧ capacity = dev.capacity) ∨
      (cfg.shares = none ∧ ∃ p, capacity = dev.capacity.insert .memory ⟨maxMem, p⟩) ∨
      ∃ n p q, cfg.shares = some n ∧ capacity = (dev.capacity.insert .memory ⟨maxMem, p⟩).insert .shares ⟨n, q⟩ := by
  unfold applyConsumableShares Config.shares
  simp only [hcap]
  split
  · split
    · exact .inr (.inl ⟨rfl, _, rfl⟩)
    · split
      · exact .inr (.inl ⟨rfl, _, rfl⟩)
      · cases parseInt .int64 (trimSpace cfg.consumableShares) with
        | none => exact .inl ⟨rfl, rfl⟩
        | some val =>
          by_cases hval : 0 < val
          · simp only [Option.filter_some, hval, decide_true, if_true]
            exact .inr (.inr ⟨val, _, _, rfl, rfl⟩)
          · simp only [Option.filter_some, hval, decide_false, if_false]
            exact .inl ⟨rfl, trivial⟩
  · exact .inl ⟨rfl, rfl⟩

/-- Only the number of shares is new. -/
theorem valueOf_applyConsumableShares (cfg : Config) (dev : Device) (hunits : WholeUnits dev.capacity)
    (hne : dev.capacity.entries ≠ []) (n : CapacityName) : valueOf (applyConsumableShares cfg dev).capacity n =
      if n = .shares then cfg.shares.or (valueOf dev.capacity .shares) else valueOf dev.capacity n := by
  obtain ⟨cap, hcap, hunit⟩ := wholeUnits_cases hunits hne
  have hkept (p : Option RequestPolicy) (k : CapacityName) :
      valueOf (dev.capacity.insert .memory ⟨cap.value, p⟩) k = valueOf dev.capacity k := by
    rw [valueOf_insert]
    split
    · next hk => rw [hk, valueOf, hcap, Option.map_some]
    · rfl
  have hcases := applyConsumableShares_cases cfg hcap
  simp only [hunit] at hcases
  have hold : valueOf dev.capacity n =
      if n = .shares then (none : Option Int).or (valueOf dev.capacity .shares) else valueOf dev.capacity n := by
    split
    · next hn => rw [hn, Option.none_or]
    · rfl
  rcases hcases with ⟨hshares, hsame⟩ | ⟨hshares, p, hmemory⟩ | ⟨val, p, q, hshares, hboth⟩
  · rw [hsame, hshares]
    exact hold
  · rw [hmemory, hkept, hshares]
    exact hold
  · rw [hboth, hshares, valueOf_insert, hkept, Option.some_or]

/-- The rest of the device stays as it was. -/
theorem applyConsumableShares_keeps (cfg : Config) (dev : Device) :
    (applyConsumableShares cfg dev).source = dev.source ∧ (applyConsumableShares cfg dev).gpu = dev.gpu ∧
      (applyConsumableShares cfg dev).consumesCounters = dev.consumesCounters := by
  unfold applyConsumableShares
  dsimp only
  repeat' split
  all_goals exact ⟨rfl, rfl, rfl⟩

/-- What is known of the description of a device. -/
structure Describes (info : GpuDeviceInfo) (d : AllocatableDevice) (dev : Device) : Prop where
  source : dev.source = d
  full : d.isFull = true → dev.gpu = info.minor ∧ dev.consumesCounters = info.partConsumesCounters
  mig : ∀ s, d = .migDynamic s → dev.gpu = s.parent ∧ dev.consumesCounters = s.partConsumesCounters

theorem partGetDevice_describes (cfg : Config) (info : GpuDeviceInfo) (d : AllocatableDevice) :
    Describes info d (partGetDevice cfg info d).1 := by
  cases d with
  | vgpu capacities => exact ⟨rfl, fun _ => ⟨rfl, rfl⟩, nofun⟩
  | gpu =>
    obtain ⟨hsource, hgpu, htakes⟩ := applyConsumableShares_keeps cfg
      ⟨.gpu, info.minor, info.partCapacities, false, info.partConsumesCounters⟩
    exact ⟨hsource, fun _ => ⟨hgpu, htakes⟩, nofun⟩
  | migDynamic spec =>
    obtain ⟨hsource, hgpu, htakes⟩ := applyConsumableShares_keeps cfg
      ⟨.migDynamic spec, spec.parent, spec.capacities, false, spec.partConsumesCounters⟩
    refine ⟨hsource, (fun h => by cases h), fun s hs => ?_⟩
    cases hs
    exact ⟨hgpu, htakes⟩

theorem AllocatableDevice.isMig {d : AllocatableDevice} (h : d.isFull = false) : ∃ spec, d = .migDynamic spec := by
  cases d with
  | migDynamic spec => exact ⟨spec, rfl⟩
  | vgpu _ | gpu => cases h

/-- At most one device is the whole GPU. -/
def OneFull (ds : List AllocatableDevice) : Prop :=
  ds.Pairwise fun d d' => ¬ (d.isFull = true ∧ d'.isFull = true)

/-- Since only the full GPU writes, all devices are described as the GPU was before. -/
theorem announce_eq (cfg : Config) (info : GpuDeviceInfo) (ds : List AllocatableDevice) (h : OneFull ds) :
    announce cfg info ds = (ds.map fun d => (partGetDevice cfg info d).1,
      if ds.any AllocatableDevice.isGpu then (partGetDevice cfg info .gpu).2 else info) := by
  induction ds generalizing info with
  | nil => rfl
  | cons d ds ih =>
    obtain ⟨hfirst, hrest⟩ := pairwise_cons.mp h
    cases d with
    | vgpu _ | migDynamic _ =>
      simp only [announce, partGetDevice, ih _ hrest, map_cons, any_cons, AllocatableDevice.isGpu,
        Bool.false_or]
    | gpu =>
      have hmig : ∀ d ∈ ds, d.isFull = false := fun d hd => by
        simpa [AllocatableDevice.isFull] using hfirst d hd
      have hnone : ds.any AllocatableDevice.isGpu = false := by
        rw [any_eq_false]
        intro d hd
        obtain ⟨spec, rfl⟩ := AllocatableDevice.isMig (hmig d hd)
        exact Bool.false_ne_true
      have hsame : (ds.map fun d => (partGetDevice cfg (partGetDevice cfg info .gpu).2 d).1) =
          ds.map fun d => (partGetDevice cfg info d).1 := by
        refine map_congr_left fun d hd => ?_
        obtain ⟨spec, rfl⟩ := AllocatableDevice.isMig (hmig d hd)
        rfl
      simp only [announce, ih _ hrest, hnone, hsame]
      rfl

/-! ## A GPU after some publishes -/

theorem bare_iff {m : PartCapacityMap} (h : WholeUnits m) : m.entries = [] ↔ valueOf m .memory = none := by
  constructor
  · intro hempty
    simp [valueOf, AList.lookup, hempty]
  · intro hnone
    rcases h with hempty | ⟨v, hv, -⟩
    · exact hempty
    · rw [hnone] at hv
      cases hv

/-- What `k` publishes have made of the GPU. -/
structure GpuEntry.After (cfg : Config) (e : GpuEntry) (k : Nat) (e' : GpuEntry) : Prop where
  devices : e'.devices = e.devices
  minor : e'.info.minor = e.info.minor
  memSliceCount : e'.info.memSliceCount = e.info.memSliceCount
  units : WholeUnits e'.info.maxCapacities
  kept : ∀ n, n ≠ .shares → valueOf e'.info.maxCapacities n = valueOf e.info.maxCapacities n
  shares : valueOf e'.info.maxCapacities .shares = if 0 < k ∧ e.writesShares cfg = true then cfg.shares else none

theorem GpuEntry.After.bare {e' : GpuEntry} {k : Nat} (h : e.After cfg k e')
    (hunits : WholeUnits e.info.maxCapacities) : e'.info.bare = e.info.bare := by
  rw [GpuDeviceInfo.bare, GpuDeviceInfo.bare, Bool.eq_iff_iff, List.isEmpty_iff, List.isEmpty_iff,
    bare_iff h.units, bare_iff hunits, h.kept .memory (by simp)]

theorem GpuEntry.After.next {e' : GpuEntry} {k : Nat} (h : e.After cfg k e')
    (hunits : WholeUnits e.info.maxCapacities) (hone : OneFull e.devices) : e.After cfg (k + 1) (e'.next cfg) := by
  have hbare := h.bare hunits
  have hinfo : (e'.next cfg).info =
      if e.devices.any AllocatableDevice.isGpu then (partGetDevice cfg e'.info .gpu).2 else e'.info := by
    show (announce cfg e'.info e'.devices).2 = _
    rw [h.devices, announce_eq cfg e'.info e.devices hone]
  by_cases hwrites : (e.devices.any AllocatableDevice.isGpu && !e.info.bare) = true
  · -- the full GPU is described, with the map of the GPU as its capacities
    obtain ⟨hgpu, hnot⟩ := Bool.and_eq_true_iff.mp hwrites
    have hnot : e'.info.bare = false := by rw [hbare]; simpa using hnot
    have hne : e'.info.maxCapacities.entries ≠ [] := by simpa [GpuDeviceInfo.bare] using hnot
    have hcapacity : e'.info.partCapacities = e'.info.maxCapacities := by
      rw [GpuDeviceInfo.partCapacities, hnot]
      rfl
    have hvalue := valueOf_applyConsumableShares cfg
      ⟨.gpu, e'.info.minor, e'.info.maxCapacities, false, e'.info.partConsumesCounters⟩ h.units hne
    rw [if_pos hgpu, partGetDevice, hnot, hcapacity] at hinfo
    have hkept (n : CapacityName) (hn : n ≠ .shares) :
        valueOf (e'.next cfg).info.maxCapacities n = valueOf e'.info.maxCapacities n := by
      rw [hinfo]
      exact (hvalue n).trans (if_neg hn)
    refine ⟨h.devices, by rw [hinfo]; exact h.minor, by rw [hinfo]; exact h.memSliceCount, ?_, ?_, ?_⟩
    · obtain ⟨v, hv, hdvd⟩ := h.units.resolve_left hne
      exact .inr ⟨v, by rw [hkept .memory (by simp), hv], hdvd⟩
    · intro n hn
      rw [hkept n hn, h.kept n hn]
    · have hshares : valueOf (e'.next cfg).info.maxCapacities .shares =
          cfg.shares.or (valueOf e'.info.maxCapacities .shares) := by
        rw [hinfo]
        exact (hvalue .shares).trans (if_pos rfl)
      rw [hshares, h.shares]
      cases hcfg : cfg.shares with
      | none => simp [GpuEntry.writesShares, hcfg]
      | some n =>
        have hyes : e.writesShares cfg = true := by
          rw [GpuEntry.writesShares, hcfg, Bool.and_assoc, hwrites]
          rfl
        simp [hyes]
  · have hsame : (e'.next cfg).info = e'.info := by
      rw [hinfo]
      split
      · next hgpu =>
        have hyes : e'.info.bare = true := by
          rw [hbare]
          simpa [hgpu] using hwrites
        rw [partGetDevice, hyes]
        rfl
      · rfl
    have hno : e.writesShares cfg = false := by
      rw [GpuEntry.writesShares, Bool.and_assoc, Bool.eq_false_of_not_eq_true hwrites, Bool.and_false]
    refine ⟨h.devices, hsame ▸ h.minor, hsame ▸ h.memSliceCount, hsame ▸ h.units, hsame ▸ h.kept, ?_⟩
    rw [hsame, h.shares, hno]
    simp

/-! ## The pool -/

theorem poolDevices_generate (cfg : Config) (split : Bool) (gpus : List GpuEntry) :
    poolDevices (generateDriverResources cfg split gpus) = gpus.flatMap (GpuEntry.announced cfg) := by
  cases split with
  | true => simp [generateDriverResources, generateSplitResourceSlices, poolDevices, flatMap_map]
  | false => simp [generateDriverResources, generateCombinedResourceSlices, poolDevices, flatMap_map]

theorem poolSets_generate (cfg : Config) (split : Bool) (gpus : List GpuEntry) :
    (generateDriverResources cfg split gpus).flatMap Slice.sharedCounters =
      gpus.flatMap (GpuEntry.counterSets cfg) := by
  cases split with
  | true => simp [generateDriverResources, generateSplitResourceSlices, flatMap_map]
  | false => simp [generateDriverResources, generateCombinedResourceSlices, flatMap_map]

/-- The counter sets of a GPU carry its name. -/
theorem name_of_mem_counterSets {c : CounterSet}
    (hminor : (e.next cfg).info.minor = e.info.minor) (hc : c ∈ e.counterSets cfg) : c.name = e.info.minor := by
  unfold GpuEntry.counterSets at hc
  split at hc
  · cases hc
  · unfold GpuDeviceInfo.partSharedCounterSets at hc
    split at hc
    · cases hc
    · simp only [Option.toList_some, mem_singleton] at hc
      rw [hc, ← hminor]

/-- Among GPUs with different names the counters of one are its own. -/
theorem find_counterSets (hminor : ∀ e ∈ gpus, (e.next cfg).info.minor = e.info.minor)
    (hnodup : (gpus.map fun e => e.info.minor).Nodup) (he : e ∈ gpus) :
    (gpus.flatMap (GpuEntry.counterSets cfg)).find? (fun c => c.name == e.info.minor) = (e.counterSets cfg).head? := by
  obtain ⟨before, after, rfl⟩ := append_of_mem he
  rw [map_append, map_cons, nodup_middle, nodup_cons, ← map_append] at hnodup
  have hnone {l : List GpuEntry} (hl : l ⊆ before ++ after) :
      (l.flatMap (GpuEntry.counterSets cfg)).find? (fun c => c.name == e.info.minor) = none := by
    simp only [find?_eq_none, mem_flatMap, beq_iff_eq]
    intro c ⟨y, hy, hc⟩ hname
    have hy' : y ∈ before ++ e :: after := perm_middle.mem_iff.mpr (.tail _ (hl hy))
    exact hnodup.1 (mem_map.mpr ⟨y, hl hy, (name_of_mem_counterSets (hminor y hy') hc).symm.trans hname⟩)
  rw [flatMap_append, flatMap_cons, find?_append, find?_append,
    hnone (subset_append_left before after), hnone (subset_append_right before after), Option.none_or,
    Option.or_none]
  cases hsets : e.counterSets cfg with
  | nil => rfl
  | cons c cs =>
    have hname := name_of_mem_counterSets (hminor e he) (by rw [hsets]; exact (.head _))
    rw [find?_cons_of_pos (by rw [hname]; exact beq_self_eq_true _)]
    rfl

/-! ## One GPU at one publish -/

/-- What the enumeration guarantees. -/
structure GpuEntry.Inspected (e : GpuEntry) : Prop where
  units : WholeUnits e.info.maxCapacities
  kinds : valueOf e.info.maxCapacities .shares = none
  one : OneFull e.devices
  parent : ∀ s, .migDynamic s ∈ e.devices → s.parent = e.info.minor
  covered : ∀ s, .migDynamic s ∈ e.devices → ∀ n v, valueOf s.capacities n = some v →
    ∃ w, valueOf e.info.maxCapacities n = some w ∧ v ≤ w

theorem GpuEntry.Enumerated.inspected (h : e.Enumerated) : e.Inspected := by
  obtain ⟨visits, found, parent, hfound, hmax, -, hparent, hperm⟩ := h
  have hcovers := inspect_covers hfound
  have hspec {s : MigSpec} (hs : .migDynamic s ∈ e.devices) : ∃ name, found.migSpecs.lookup name = some s := by
    rcases mem_append.mp (hperm.mem_iff.mp hs) with hs | hs
    · have hfull := hparent _ (Option.mem_toList.mp hs)
      cases hfull
    · obtain ⟨⟨name, s'⟩, hmem, hs'⟩ := mem_map.mp hs
      cases hs'
      exact ⟨name, AList.mem_lookup_iff.mpr hmem⟩
  refine ⟨hmax ▸ hcovers.units, hmax ▸ hcovers.kinds, ?_, fun s hs => ?_, fun s hs => ?_⟩
  · have hsymm : Std.Symm fun d d' : AllocatableDevice => ¬ (d.isFull = true ∧ d'.isFull = true) :=
      ⟨fun _ _ h h' => h ⟨h'.2, h'.1⟩⟩
    refine (hperm.pairwise_iff fun h => hsymm.symm _ _ h).mpr ?_
    rw [pairwise_append]
    refine ⟨by cases parent <;> simp, pairwise_of_forall_mem_list ?_, ?_⟩
    · intro d hd d' _ ⟨hfull, _⟩
      obtain ⟨s, -, rfl⟩ := mem_map.mp hd
      cases hfull
    · intro d _ d' hd' ⟨_, hfull⟩
      obtain ⟨s, -, rfl⟩ := mem_map.mp hd'
      cases hfull
  · obtain ⟨name, hname⟩ := hspec hs
    exact hcovers.parent name s hname
  · obtain ⟨name, hname⟩ := hspec hs
    rw [hmax]
    exact hcovers.capacities name s hname

/-- A GPU with MIG devices has counters. -/
theorem GpuEntry.Inspected.not_bare (h : e.Inspected) (hs : .migDynamic s ∈ e.devices) : e.info.bare = false := by
  obtain ⟨v, hv, -⟩ := step_dvd_memory s.giProfileInfo
  obtain ⟨w, hw, -⟩ := h.covered s hs .memory v hv
  rw [GpuDeviceInfo.bare, isEmpty_eq_false_iff]
  intro hempty
  rw [(bare_iff h.units).mp hempty] at hw
  cases hw

/-- The GPU `e` at a publish, as `e'`, after `k` others. -/
structure Stage (cfg : Config) (pool : List Slice) (e : GpuEntry) (k : Nat) (e' : GpuEntry) : Prop where
  inspected : e.Inspected
  now : e.After cfg k e'
  later : e.After cfg (k + 1) (e'.next cfg)
  announced : e'.announced cfg = e.devices.map fun d => (partGetDevice cfg e'.info d).1
  counters : e.devices ≠ [] →
    poolCounters pool e.info.minor = if e.info.bare then none else some (e'.next cfg).info.counters

/-- What a MIG device takes. -/
theorem takes_mig (cfg : Config) (info : GpuDeviceInfo) (s : MigSpec) :
    (partGetDevice cfg info (.migDynamic s)).1.takes =
      [addCountersForMemSlices (capacitiesToCounters s.capacities) s.placement.start s.placement.size] := by
  have htakes := ((partGetDevice_describes cfg info (.migDynamic s)).mig s rfl).2
  rw [Device.takes, htakes]
  rfl

section Stage

variable {pool} {e' : GpuEntry} {k : Nat} (h : Stage cfg pool e k e')

include h

theorem Stage.lookup_capacity (hbare : e.info.bare = false) (hne : e.devices ≠ []) (n : CapacityName) :
    ((poolCounters pool e.info.minor).getD ∅).lookup (camelToDNSName n) =
      valueOf (e'.next cfg).info.maxCapacities n := by
  rw [h.counters hne, hbare]
  exact Partitions.lookup_capacity _ 0 _ n

theorem Stage.lookup_memslice (hbare : e.info.bare = false) (hne : e.devices ≠ []) (i : Nat) :
    ((poolCounters pool e.info.minor).getD ∅).lookup (memsliceCounterName i) =
      if i < e.info.memSliceCount then some 1 else none := by
  rw [h.counters hne, hbare]
  have hslice := Partitions.lookup_memslice (e'.next cfg).info.maxCapacities 0 (e'.next cfg).info.memSliceCount i
  simpa [GpuDeviceInfo.counters, h.later.memSliceCount] using hslice

variable {d : AllocatableDevice}

/-- The full device takes all, unless shares are announced for the first time. -/
theorem Stage.takesAll_iff (hd : d ∈ e.devices) (hfull : d.isFull = true) :
    TakesAll pool (partGetDevice cfg e'.info d).1 ↔ ¬ (k = 0 ∧ e.writesShares cfg = true) := by
  obtain ⟨hgpu, htakes⟩ := (partGetDevice_describes cfg e'.info d).full hfull
  have hne : e.devices ≠ [] := ne_nil_of_mem hd
  unfold TakesAll
  rw [hgpu, htakes, h.now.minor, h.counters hne, GpuDeviceInfo.partConsumesCounters, h.now.bare h.inspected.units]
  cases hbare : e.info.bare with
  | true => simp [GpuEntry.writesShares, hbare]
  | false =>
    simp only [Bool.false_eq_true, if_false, Option.isSome_some, true_and, Option.bind_some]
    constructor
    · rintro hsame ⟨rfl, hwrites⟩
      have hnow := hsame (camelToDNSName .shares)
      rw [GpuDeviceInfo.counters, GpuDeviceInfo.counters, Partitions.lookup_capacity,
        Partitions.lookup_capacity, h.now.shares, h.later.shares] at hnow
      rw [if_neg (by simp), if_pos ⟨Nat.one_pos, hwrites⟩] at hnow
      simp [GpuEntry.writesShares, ← hnow] at hwrites
    · intro hcond t
      have hvalue (n : CapacityName) :
          valueOf e'.info.maxCapacities n = valueOf (e'.next cfg).info.maxCapacities n := by
        by_cases hn : n = .shares
        · rw [hn, h.now.shares, h.later.shares]
          have hiff : 0 < k ∧ e.writesShares cfg = true ↔ 0 < k + 1 ∧ e.writesShares cfg = true := by
            refine ⟨fun hw => ⟨Nat.succ_pos k, hw.2⟩, fun hw => ⟨?_, hw.2⟩⟩
            exact Nat.pos_of_ne_zero fun hk => hcond ⟨hk, hw.2⟩
          simp only [hiff]
        · rw [h.now.kept n hn, h.later.kept n hn]
      rw [GpuDeviceInfo.counters, GpuDeviceInfo.counters, h.now.memSliceCount, h.later.memSliceCount]
      obtain ⟨n, rfl⟩ | ⟨i, rfl⟩ | hnone := counterName_cases t
      · rw [Partitions.lookup_capacity, Partitions.lookup_capacity, hvalue]
      · rw [Partitions.lookup_memslice, Partitions.lookup_memslice]
      · rw [hnone, hnone]

/-- A MIG device fits alone if it ends within the memory slices. -/
theorem Stage.alone_iff (hs : .migDynamic s ∈ e.devices) (hsize : 1 ≤ s.placement.size) :
    FitTogether pool [(partGetDevice cfg e'.info (.migDynamic s)).1] e.info.minor ↔
      s.placement.start + s.placement.size ≤ e.info.memSliceCount := by
  have hbare := h.inspected.not_bare hs
  have hne : e.devices ≠ [] := ne_nil_of_mem hs
  unfold FitTogether
  rw [flatMap_singleton, takes_mig, fits_singleton]
  constructor
  · intro hfits
    -- its last slice is there
    have hlast := Partitions.lookup_memslice s.capacities s.placement.start s.placement.size
      (s.placement.start + s.placement.size - 1)
    rw [if_pos (by omega)] at hlast
    obtain ⟨v, hv, -⟩ := hfits _ _ hlast
    rw [h.lookup_memslice hbare hne] at hv
    split at hv
    · omega
    · cases hv
  · intro hend t w hw
    obtain ⟨n, rfl⟩ | ⟨i, rfl⟩ | hnone := counterName_cases t
    · rw [Partitions.lookup_capacity] at hw
      have hn : n ≠ .shares := by
        rintro rfl
        have := (valueOf_commonCapacitiesMig_isSome s.giProfileInfo .shares).mp (Option.isSome_iff_exists.mpr ⟨w, hw⟩)
        exact this.2 rfl
      obtain ⟨v, hv, hle⟩ := h.inspected.covered s hs n w hw
      exact ⟨v, by rw [h.lookup_capacity hbare hne, h.later.kept n hn, hv], hle⟩
    · rw [Partitions.lookup_memslice] at hw
      split at hw
      · next hi =>
        refine ⟨1, ?_, (Option.some.inj hw).symm.le⟩
        rw [h.lookup_memslice hbare hne, if_pos (by omega)]
      · cases hw
    · rw [hnone] at hw
      cases hw

/-- Devices that take the same memory slice do not fit. -/
theorem Stage.not_both (hbare : e.info.bare = false) (hne : e.devices ≠ []) {c d : Counters Text}
    (hfits : Fits ((poolCounters pool e.info.minor).getD ∅) [c, d]) {i : Nat}
    (hc : c.lookup (memsliceCounterName i) = some 1) (hd : d.lookup (memsliceCounterName i) = some 1) : False := by
  obtain ⟨x, hx, hle⟩ := hfits.sum_le hc hd
  rw [h.lookup_memslice hbare hne] at hx
  split at hx
  · cases hx
    omega
  · cases hx

/-- What the full device takes of the slices that are there. -/
theorem Stage.takes_full (hbare : e.info.bare = false) (hfull : d.isFull = true) :
    (partGetDevice cfg e'.info d).1.takes = [e'.info.counters] ∧
      ∀ i, i < e.info.memSliceCount → e'.info.counters.lookup (memsliceCounterName i) = some 1 := by
  have htakes := ((partGetDevice_describes cfg e'.info d).full hfull).2
  refine ⟨?_, fun i hi => ?_⟩
  · rw [Device.takes, htakes, GpuDeviceInfo.partConsumesCounters, h.now.bare h.inspected.units, hbare]
    rfl
  · rw [GpuDeviceInfo.counters, Partitions.lookup_memslice, h.now.memSliceCount]
    exact if_pos ⟨Nat.zero_le i, by omega⟩

/-- A MIG device takes its first slice, and only from a slice that is there. -/
theorem Stage.first_slice (hs : .migDynamic s ∈ e.devices) (hsize : 1 ≤ s.placement.size)
    {others : List (Counters Text)} {c : Counters Text} (hmem : c ∈ others)
    (hc : c = addCountersForMemSlices (capacitiesToCounters s.capacities) s.placement.start s.placement.size)
    (hfits : Fits ((poolCounters pool e.info.minor).getD ∅) others) :
    c.lookup (memsliceCounterName s.placement.start) = some 1 ∧ s.placement.start < e.info.memSliceCount := by
  have hfirst : c.lookup (memsliceCounterName s.placement.start) = some 1 := by
    rw [hc, Partitions.lookup_memslice]
    exact if_pos ⟨le_rfl, by omega⟩
  obtain ⟨v, hv, -⟩ := fits_iff.mp hfits c hmem _ _ hfirst
  rw [h.lookup_memslice (h.inspected.not_bare hs) (ne_nil_of_mem hs)] at hv
  split at hv
  · exact ⟨hfirst, ‹_›⟩
  · cases hv

/-- Two devices of which at most one is full fit together only if both are MIG devices on different
slices. -/
theorem Stage.apart {d' : AllocatableDevice} (hd : d ∈ e.devices) (hd' : d' ∈ e.devices)
    (hone : ¬ (d.isFull = true ∧ d'.isFull = true)) (hsize : ∀ s, .migDynamic s ∈ e.devices → 1 ≤ s.placement.size)
    (hfits : FitTogether pool [(partGetDevice cfg e'.info d).1, (partGetDevice cfg e'.info d').1] e.info.minor) :
    SlicesDisjoint (partGetDevice cfg e'.info d).1 (partGetDevice cfg e'.info d').1 := by
  have hne : e.devices ≠ [] := ne_nil_of_mem hd
  rw [FitTogether, flatMap_cons, flatMap_singleton] at hfits
  cases hfull : d.isFull with
  | true =>
    obtain ⟨s, rfl⟩ := AllocatableDevice.isMig (Bool.eq_false_of_not_eq_true fun hfull' => hone ⟨hfull, hfull'⟩)
    have hbare := h.inspected.not_bare hd'
    obtain ⟨htakes, hslices⟩ := h.takes_full hbare hfull
    rw [htakes, takes_mig] at hfits
    obtain ⟨hfirst, hlt⟩ := h.first_slice hd' (hsize s hd') (.tail _ (.head _)) rfl hfits
    exact (h.not_both hbare hne hfits (hslices _ hlt) hfirst).elim
  | false =>
    obtain ⟨s, rfl⟩ := AllocatableDevice.isMig hfull
    have hbare := h.inspected.not_bare hd
    rw [takes_mig] at hfits
    cases hfull' : d'.isFull with
    | true =>
      obtain ⟨htakes, hslices⟩ := h.takes_full hbare hfull'
      rw [htakes] at hfits
      obtain ⟨hfirst, hlt⟩ := h.first_slice hd (hsize s hd) (.head _) rfl hfits
      exact (h.not_both hbare hne hfits hfirst (hslices _ hlt)).elim
    | false =>
      obtain ⟨s', rfl⟩ := AllocatableDevice.isMig hfull'
      refine ⟨s, s', (partGetDevice_describes cfg _ _).source, (partGetDevice_describes cfg _ _).source, ?_⟩
      rw [takes_mig] at hfits
      by_contra hoverlap
      rw [Placement.disjoint, not_or] at hoverlap
      -- the later of the two starts lies in both
      have hpos := hsize s hd
      have hpos' := hsize s' hd'
      refine h.not_both hbare hne hfits (i := max s.placement.start s'.placement.start) ?_ ?_
      · rw [Partitions.lookup_memslice, if_pos (by omega)]
      · rw [Partitions.lookup_memslice, if_pos (by omega)]

/-- A device is announced under the GPU's minor. -/
theorem Stage.gpu_eq (hd : d ∈ e.devices) : (partGetDevice cfg e'.info d).1.gpu = e.info.minor := by
  have hdescribes := partGetDevice_describes cfg e'.info d
  cases d with
  | vgpu _ | gpu => exact (hdescribes.full rfl).1.trans h.now.minor
  | migDynamic s => exact (hdescribes.mig s rfl).1.trans (h.inspected.parent s hd)

end Stage

/-! ## All GPUs at every publish -/

theorem after_iterate (cfg : Config) (h : e.Inspected) (k : Nat) : e.After cfg k ((GpuEntry.next cfg)^[k] e) := by
  induction k with
  | zero => exact ⟨rfl, rfl, rfl, h.units, fun _ _ => rfl,
    by rw [Function.iterate_zero_apply, h.kinds, if_neg (by simp)]⟩
  | succ k ih =>
    rw [Function.iterate_succ_apply']
    exact ih.next h.units h.one

theorem generated_iterate (cfg : Config) (gpus : List GpuEntry) (k : Nat) :
    (generated cfg)^[k] gpus = gpus.map (GpuEntry.next cfg)^[k] := by
  induction k with
  | zero => simp
  | succ k ih =>
    rw [Function.iterate_succ_apply', ih, generated, map_map, Function.iterate_succ']

/-- Every GPU is at such a stage. -/
theorem stage_of_mem (cfg : Config) (split : Bool)
    (hminors : (gpus.map fun e => e.info.minor).Nodup) (hgpus : ∀ e ∈ gpus, e.Inspected) (k : Nat) (he : e ∈ gpus) :
    Stage cfg (generateDriverResources cfg split ((generated cfg)^[k] gpus)) e k ((GpuEntry.next cfg)^[k] e) := by
  have hinspected := hgpus e he
  have hafter (x : GpuEntry) (hx : x ∈ gpus) := after_iterate cfg (hgpus x hx) k
  have hnext (x : GpuEntry) (hx : x ∈ gpus) := (hafter x hx).next (hgpus x hx).units (hgpus x hx).one
  refine ⟨hinspected, hafter e he, hnext e he, ?_, fun hne => ?_⟩
  · rw [GpuEntry.announced, (hafter e he).devices, announce_eq _ _ _ hinspected.one]
  · have hminor : ∀ y ∈ gpus.map (GpuEntry.next cfg)^[k], (y.next cfg).info.minor = y.info.minor :=
      forall_mem_map.mpr fun x hx => by rw [(hnext x hx).minor, (hafter x hx).minor]
    have hnodup : ((gpus.map (GpuEntry.next cfg)^[k]).map fun e => e.info.minor).Nodup := by
      have hsame : ((gpus.map (GpuEntry.next cfg)^[k]).map fun e => e.info.minor) =
          gpus.map fun e => e.info.minor := by
        rw [map_map]
        exact map_congr_left fun x hx => (hafter x hx).minor
      rw [hsame]
      exact hminors
    have hfind := find_counterSets hminor hnodup (mem_map_of_mem he)
    rw [(hafter e he).minor] at hfind
    rw [poolCounters, poolSets_generate, generated_iterate, hfind, GpuEntry.counterSets, (hafter e he).devices,
      GpuDeviceInfo.partSharedCounterSets, (hnext e he).bare hinspected.units]
    have hempty : e.devices.isEmpty = false := by simpa using hne
    rw [hempty]
    cases e.info.bare <;> rfl

/-- The devices of all GPUs, as they are announced at this publish. -/
theorem poolDevices_iterate (cfg : Config) (split : Bool)
    (hminors : (gpus.map fun e => e.info.minor).Nodup) (hgpus : ∀ e ∈ gpus, e.Inspected) (k : Nat) :
    poolDevices (generateDriverResources cfg split ((generated cfg)^[k] gpus)) = gpus.flatMap fun e =>
      e.devices.map fun d => (partGetDevice cfg ((GpuEntry.next cfg)^[k] e).info d).1 := by
  rw [poolDevices_generate, generated_iterate, flatMap_map]
  exact flatMap_congr fun e he => (stage_of_mem cfg split hminors hgpus k he).announced

/-- **The slices are sound, with two exceptions.** At every publish, in either form of the slices: full
devices take all counters, MIG devices fit, and only MIG devices on different memory slices fit
together, exactly if every MIG device ends within the slices that are counted, and it is not the first
publish of a number of shares. -/
theorem slices_sound_iff (cfg : Config) (split : Bool) (gpus : List GpuEntry)
    (hminors : (gpus.map fun e => e.info.minor).Nodup) (henum : ∀ e ∈ gpus, e.Enumerated)
    (hsize : ∀ e ∈ gpus, ∀ s, .migDynamic s ∈ e.devices → 1 ≤ s.placement.size) (k : Nat) :
    Sound (generateDriverResources cfg split ((generated cfg)^[k] gpus)) ↔
      ∀ e ∈ gpus, e.WithinSlices ∧ ¬ (k = 0 ∧ e.writesShares cfg = true) := by
  have hgpus (e : GpuEntry) (he : e ∈ gpus) : e.Inspected := (henum e he).inspected
  have hstage {e : GpuEntry} (he : e ∈ gpus) := stage_of_mem cfg split hminors hgpus k he
  have hmem {dev : Device} : dev ∈ poolDevices (generateDriverResources cfg split ((generated cfg)^[k] gpus)) ↔
        ∃ e ∈ gpus, ∃ d ∈ e.devices, (partGetDevice cfg ((GpuEntry.next cfg)^[k] e).info d).1 = dev := by
    rw [poolDevices_iterate cfg split hminors hgpus]
    simp only [mem_flatMap, mem_map]
  constructor
  · intro hsound e he
    refine ⟨fun s hs => ?_, fun hfirst => ?_⟩
    · have halone := hsound.alone _ (hmem.mpr ⟨e, he, _, hs, rfl⟩)
        (by rw [(partGetDevice_describes cfg _ _).source]; rfl)
      rw [(hstage he).gpu_eq hs] at halone
      exact ((hstage he).alone_iff hs (hsize e he s hs)).mp halone
    · obtain ⟨d, hd, hisGpu⟩ : ∃ d ∈ e.devices, d.isGpu = true := by
        have hwrites := hfirst.2
        simp only [GpuEntry.writesShares, Bool.and_eq_true, any_eq_true] at hwrites
        exact hwrites.1.2
      have hfull : d.isFull = true := by
        cases d with
        | gpu | vgpu _ => rfl
        | migDynamic _ => cases hisGpu
      have hwhole := hsound.whole _ (hmem.mpr ⟨e, he, d, hd, rfl⟩)
        (by rw [(partGetDevice_describes cfg _ _).source]; exact hfull)
      exact ((hstage he).takesAll_iff hd hfull).mp hwhole hfirst
  · intro hcond
    refine ⟨fun dev hdev hfull => ?_, fun dev hdev hmig => ?_, ?_⟩
    · obtain ⟨e, he, d, hd, rfl⟩ := hmem.mp hdev
      rw [(partGetDevice_describes cfg _ _).source] at hfull
      exact ((hstage he).takesAll_iff hd hfull).mpr (hcond e he).2
    · obtain ⟨e, he, d, hd, rfl⟩ := hmem.mp hdev
      rw [(partGetDevice_describes cfg _ _).source] at hmig
      rw [(hstage he).gpu_eq hd]
      obtain ⟨s, rfl⟩ := AllocatableDevice.isMig hmig
      exact ((hstage he).alone_iff hd (hsize e he s hd)).mpr ((hcond e he).1 s hd)
    · rw [poolDevices_iterate cfg split hminors hgpus, pairwise_flatMap]
      refine ⟨fun e he => ?_, ?_⟩
      · refine pairwise_map.mpr ((hstage he).inspected.one.imp_of_mem fun hd hd' hone => ?_)
        rw [(hstage he).gpu_eq hd]
        exact fun _ hfits => (hstage he).apart hd hd' hone (hsize e he) hfits
      · have hpairs : gpus.Pairwise fun e e' => e.info.minor ≠ e'.info.minor := pairwise_map.mp hminors
        refine hpairs.imp_of_mem fun he he' hne dev hdev dev' hdev' hsame => ?_
        obtain ⟨d, hd, rfl⟩ := mem_map.mp hdev
        obtain ⟨d', hd', rfl⟩ := mem_map.mp hdev'
        rw [(hstage he).gpu_eq hd, (hstage he').gpu_eq hd'] at hsame
        exact absurd hsame hne

/-- A profile with `n` slices, each of ten units of memory. -/
def profileOf (n : Nat) (starts : List Nat) : ProfileVisit :=
  ⟨n, n, .success ⟨n, 14 * n, n, n, 0, 0, 0, 10 * n⟩, .success (starts.map fun i => ⟨i, n⟩)⟩

/-- A GPU with two memory slices, its own or one each for two MIG devices. -/
def smallGpu : GpuEntry :=
  (enumerate 0 20971520 (some .gpu) [profileOf 1 [0, 1], profileOf 2 [0]]).getD ⟨⟨0, 0, ∅, 0⟩, []⟩

theorem smallGpu_enumerated : smallGpu.Enumerated :=
  enumerated_of_enumerate 0 20971520 (some .gpu) [profileOf 1 [0, 1], profileOf 2 [0]] (by rintro d ⟨⟩; rfl) rfl

/-- The options as they are by default. -/
def sharesOff : Config := ⟨false, "disabled".toList⟩

/-- Four shares of each device. -/
def fourShares : Config := ⟨true, "4".toList⟩

theorem second_publish_sound :
    Sound (generateDriverResources fourShares true ((generated fourShares)^[1] [smallGpu])) := by
  refine (slices_sound_iff fourShares true [smallGpu] (by decide) ?_ ?_ 1).mpr ?_
  · intro e he
    rw [mem_singleton.mp he]
    exact smallGpu_enumerated
  · intro e he s hs
    rw [mem_singleton.mp he] at hs
    have hall : smallGpu.devices.all (fun d => match d with
      | .migDynamic s => decide (1 ≤ s.placement.size)
      | _ => true) = true := by decide +kernel
    simpa using all_eq_true.mp hall _ hs
  · intro e he
    rw [mem_singleton.mp he]
    refine ⟨fun s hs => ?_, by simp⟩
    have hall : smallGpu.devices.all (fun d => match d with
      | .migDynamic s => decide (s.placement.start + s.placement.size ≤ smallGpu.info.memSliceCount)
      | _ => true) = true := by decide +kernel
    simpa using all_eq_true.mp hall _ hs

/-- A GPU of which only half is found as one MIG device, at two places. -/
def halvedGpu : GpuEntry :=
  (enumerate 0 83886080 (some .gpu) [profileOf 4 [0, 4]]).getD ⟨⟨0, 0, ∅, 0⟩, []⟩

/-- The first time four shares are announced they are counted, but the full GPU does not take them. And
of the two halves the upper one takes slices that are not counted. -/
theorem first_publish_unsound : (smallGpu.Enumerated ∧ ¬ Sound (generateDriverResources fourShares true [smallGpu])) ∧
      halvedGpu.Enumerated ∧ ¬ Sound (generateDriverResources sharesOff true [halvedGpu]) := by
  refine ⟨⟨smallGpu_enumerated, fun hsound => ?_⟩, ?_, fun hsound => ?_⟩
  · have hbad : (poolDevices (generateDriverResources fourShares true [smallGpu])).any (fun d =>
        d.source.isFull && !decide ((d.consumesCounters.bind fun c => c.counters.lookup "shares".toList) =
          (poolCounters (generateDriverResources fourShares true [smallGpu]) d.gpu).bind
            (AList.lookup "shares".toList))) = true := by decide +kernel
    obtain ⟨d, hd, hbad⟩ := any_eq_true.mp hbad
    simp only [Bool.and_eq_true, Bool.not_eq_true', decide_eq_false_iff_not] at hbad
    exact hbad.2 ((hsound.whole d hd hbad.1).2 _)
  · exact enumerated_of_enumerate 0 83886080 (some .gpu) [profileOf 4 [0, 4]] (by rintro d ⟨⟩; rfl) rfl
  · have hbad : (poolDevices (generateDriverResources sharesOff true [halvedGpu])).any (fun d =>
        !d.source.isFull && !decide (Fits
          ((poolCounters (generateDriverResources sharesOff true [halvedGpu]) d.gpu).getD ∅) d.takes)) = true := by
      decide +kernel
    obtain ⟨d, hd, hbad⟩ := any_eq_true.mp hbad
    simp only [Bool.and_eq_true, Bool.not_eq_true', decide_eq_false_iff_not] at hbad
    have halone := hsound.alone d hd hbad.1
    rw [FitTogether, flatMap_singleton] at halone
    exact hbad.2 halone

end VGpuManager.Partitions

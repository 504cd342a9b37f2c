import VGpuManager.Foundation.Counters
import VGpuManager.Foundation.Loops
import VGpuManager.Foundation.Text
import VGpuManager.KubeletPlugin.Checkpoint

/-!
# Partitions of a GPU (`partitions.go`, `mig.go`, `nvlib.go`)

With dynamic MIG a GPU is announced with all MIG devices that could be created on it. Its counter set
holds, for each kind of capacity, the largest amount a MIG device has, and one counter for each memory
slice. Devices take from it what they are made of; the full GPU takes everything.

The largest amounts are kept in one map (`maxCapacities`). `PartCapacities` hands out the map itself, not
a copy, so what `applyConsumableShares` then writes into the capacities of the full GPU is written there
too, and is part of what is counted from then on.
-/

namespace VGpuManager.Partitions

open Foundation KubeletPlugin List

/-! ## Capacities and counters -/

/-- The capacities that are announced of devices. -/
inductive CapacityName where
  | multiprocessors
  | copyEngines
  | decoders
  | encoders
  | jpegEngines
  | ofaEngines
  | memory
  | cores
  | shares
  deriving Repr, DecidableEq

/-- `CapacityRequestPolicy` with its valid range. -/
structure RequestPolicy where
  defaultValue : Int
  min : Int
  max : Int
  step : Int
  deriving Repr, DecidableEq

structure DeviceCapacity where
  value : Int
  requestPolicy : Option RequestPolicy
  deriving Repr, DecidableEq

def intcap (i : Int) : DeviceCapacity := ⟨i, none⟩

abbrev PartCapacityMap := AList fun _ : CapacityName => DeviceCapacity

variable (m : PartCapacityMap)

/-- What the capacities say, request policies apart. -/
def valueOf (n : CapacityName) : Option Int := (m.lookup n).map DeviceCapacity.value

section

variable (n : CapacityName)

@[simp] theorem valueOf_empty : valueOf ∅ n = none := rfl

theorem valueOf_insert (k : CapacityName) (c : DeviceCapacity) :
    valueOf (m.insert k c) n = if n = k then some c.value else valueOf m n := by
  unfold valueOf
  by_cases hk : n = k
  · subst hk
    simp
  · simp [hk]

/-- `camelToDNSName`, of the names there are. -/
def camelToDNSName : CapacityName → Text
  | .multiprocessors => "multiprocessors".toList
  | .copyEngines => "copy-engines".toList
  | .decoders => "decoders".toList
  | .encoders => "encoders".toList
  | .jpegEngines => "jpeg-engines".toList
  | .ofaEngines => "ofa-engines".toList
  | .memory => "memory".toList
  | .cores => "cores".toList
  | .shares => "shares".toList

def memsliceCounterName (i : Nat) : Text := "memory-slice-".toList ++ Nat.toDigits 10 i

theorem camelToDNSName_injective : Function.Injective camelToDNSName := by
  intro n m h
  cases n <;> cases m <;> first | rfl | exact absurd h (by decide)

theorem memsliceCounterName_injective : Function.Injective memsliceCounterName := by
  intro i j h
  have hdigits : Nat.toDigits 10 i = Nat.toDigits 10 j := append_cancel_left h
  have hparse := congrArg parseDigits hdigits
  rw [parseDigits_toDigits, parseDigits_toDigits] at hparse
  exact Option.some.inj hparse

/-- A capacity is not taken for a memory slice. -/
theorem camelToDNSName_ne_memslice (i : Nat) : camelToDNSName n ≠ memsliceCounterName i := by
  intro h
  have hpiece : "memory-slice-".toList <+: camelToDNSName n := by
    rw [h]
    exact prefix_append _ _
  cases n <;> exact absurd hpiece (by decide)

end

def capacitiesToCounters : Counters Text := rekey camelToDNSName DeviceCapacity.value m

def addCountersForMemSlices (counters : Counters Text) (start size : Nat) : Counters Text :=
  insertAll ((List.range' start size).map memsliceCounterName) 1 counters

theorem lookup_capacity (start size : Nat) (n : CapacityName) :
    (addCountersForMemSlices (capacitiesToCounters m) start size).lookup (camelToDNSName n) = valueOf m n := by
  have hno : camelToDNSName n ∉ (range' start size).map memsliceCounterName := by
    intro h
    obtain ⟨i, -, hi⟩ := mem_map.mp h
    exact camelToDNSName_ne_memslice n i hi.symm
  rw [addCountersForMemSlices, lookup_insertAll, if_neg hno]
  exact lookup_rekey camelToDNSName_injective _ m n

theorem lookup_memslice (start size i : Nat) :
    (addCountersForMemSlices (capacitiesToCounters m) start size).lookup (memsliceCounterName i) =
      if start ≤ i ∧ i < start + size then some 1 else none := by
  have hmem : memsliceCounterName i ∈ (range' start size).map memsliceCounterName ↔
      start ≤ i ∧ i < start + size := by
    rw [mem_map_of_injective memsliceCounterName_injective, mem_range'_1]
  rw [addCountersForMemSlices, lookup_insertAll]
  simp only [hmem]
  split
  · rfl
  · exact lookup_rekey_of_ne _ m fun n => camelToDNSName_ne_memslice n i

/-- A counter is for a capacity or for a memory slice. -/
theorem counterName_cases (t : Text) : (∃ n, camelToDNSName n = t) ∨ (∃ i, memsliceCounterName i = t) ∨
    ∀ m start size, (addCountersForMemSlices (capacitiesToCounters m) start size).lookup t = none := by
  by_contra hne
  rw [not_or, not_or, not_exists, not_exists] at hne
  obtain ⟨hcap, hslice, hsome⟩ := hne
  refine hsome fun m start size => ?_
  have hno : t ∉ (range' start size).map memsliceCounterName := by
    intro h
    obtain ⟨i, -, hi⟩ := mem_map.mp h
    exact hslice i hi
  rw [addCountersForMemSlices, lookup_insertAll, if_neg hno]
  exact lookup_rekey_of_ne _ m hcap

/-! ## Profiles and placements -/

/-- `nvml.GpuInstanceProfileInfo`. -/
structure GpuInstanceProfileInfo where
  id : Nat
  multiprocessorCount : Nat
  copyEngineCount : Nat
  decoderCount : Nat
  encoderCount : Nat
  jpegCount : Nat
  ofaCount : Nat
  memorySizeMB : Nat
  deriving Repr, DecidableEq

/-- `nvml.GpuInstancePlacement`: the memory slices from `start` on. -/
structure Placement where
  start : Nat
  size : Nat
  deriving Repr, DecidableEq

/-- No memory slice belongs to both. -/
def Placement.disjoint (p q : Placement) : Prop := p.start + p.size ≤ q.start ∨ q.start + q.size ≤ p.start

/-- `MigSpec`: a MIG device that could be created. -/
structure MigSpec where
  parent : Gpu
  giProfileInfo : GpuInstanceProfileInfo
  placement : Placement
  deriving Repr, DecidableEq

def MigSpec.canonicalName (i : MigSpec) : DeviceName := .mig i.parent i.giProfileInfo.id i.placement.start

variable (p : GpuInstanceProfileInfo)

/-- `CommonCapacitiesMig`. Memory is in bytes, computed without sign on 64 bits. -/
def commonCapacitiesMig : PartCapacityMap :=
  ((((((∅ : PartCapacityMap).insert .multiprocessors (intcap p.multiprocessorCount)).insert .copyEngines
    (intcap p.copyEngineCount)).insert .decoders (intcap p.decoderCount)).insert .encoders
    (intcap p.encoderCount)).insert .jpegEngines (intcap p.jpegCount)).insert .ofaEngines
    (intcap p.ofaCount) |>.insert .memory (intcap (IntArith.int64.wrap (p.memorySizeMB * 1024 * 1024)))

def MigSpec.capacities (i : MigSpec) : PartCapacityMap := commonCapacitiesMig i.giProfileInfo

/-- `setMax`. -/
def setMax (k : CapacityName) (v : DeviceCapacity) : PartCapacityMap :=
  match m.lookup k with
  | some cur => if cur.value < v.value then m.insert k v else m
  | none => m.insert k v

/-- What NVML answers. -/
inductive NvmlAnswer (α : Type) where
  | success (a : α)
  | notSupported
  | invalidArgument
  | failed
  deriving Repr

/-- What is found of a MIG profile: its slices, and the answers about the GPU instance profile. -/
structure ProfileVisit where
  c : Nat
  g : Nat
  profileInfo : NvmlAnswer GpuInstanceProfileInfo
  possiblePlacements : NvmlAnswer (List Placement)
  deriving Repr

/-- What has been gathered. -/
structure Inspection where
  maxCapacities : PartCapacityMap
  maxMemSlicesConsumed : Nat
  migSpecs : AList fun _ : DeviceName => MigSpec

def Inspection.addPlacement (gpu : Gpu) (info : GpuInstanceProfileInfo) (acc : Inspection)
    (placement : Placement) : Inspection :=
  let mi : MigSpec := ⟨gpu, info, placement⟩
  { maxCapacities := mi.capacities.entries.foldl (fun m e => setMax m e.1 e.2) acc.maxCapacities
    maxMemSlicesConsumed := max acc.maxMemSlicesConsumed placement.size
    -- another profile under the same name only adds to the candidates
    migSpecs := if (acc.migSpecs.lookup mi.canonicalName).isSome then acc.migSpecs
      else acc.migSpecs.insert mi.canonicalName mi }

/-- One profile; `none` is an error. -/
def Inspection.visit (gpu : Gpu) (acc : Inspection) (v : ProfileVisit) : Option Inspection :=
  if v.c ≠ v.g then some acc
  else
    match v.profileInfo with
    | .notSupported | .invalidArgument => some acc
    | .failed => none
    | .success info =>
      match v.possiblePlacements with
      | .notSupported | .invalidArgument => some acc
      | .failed => none
      | .success placements => some (placements.foldl (Inspection.addPlacement gpu info) acc)

/-- `inspectMigProfilesAndPlacements`. -/
def inspectMigProfilesAndPlacements (gpu : Gpu) (visits : List ProfileVisit) : Option Inspection :=
  visits.foldlM (Inspection.visit gpu) ⟨∅, 0, ∅⟩

/-! ## What the inspection guarantees -/

/-- The unit of memory. -/
def step : Int := 1024 * 1024

theorem valueOf_setMax (k n : CapacityName) (v : DeviceCapacity) : valueOf (setMax m k v) n =
      if n = k then some ((valueOf m k).elim v.value (max · v.value)) else valueOf m n := by
  unfold setMax
  cases hk : m.lookup k with
  | none =>
    rw [valueOf_insert]
    simp [valueOf, hk]
  | some cur =>
    have hcur : valueOf m k = some cur.value := by rw [valueOf, hk, Option.map_some]
    dsimp only
    split
    · next hlt =>
      rw [valueOf_insert, hcur, Option.elim_some, max_eq_right hlt.le]
    · next hle =>
      rw [hcur, Option.elim_some, max_eq_left (not_lt.mp hle)]
      split
      · next hn => rw [hn, hcur]
      · rfl

/-- Each capacity grows to what the other map has of it. -/
def larger (old : Option Int) : Option Int → Option Int
  | none => old
  | some v => some (old.elim v (max · v))

theorem valueOf_foldl_setMax (n : CapacityName) :
    ∀ (es : List (Sigma fun _ => DeviceCapacity)) (m : PartCapacityMap), es.NodupKeys →
      valueOf (es.foldl (fun m e => setMax m e.1 e.2) m) n =
        larger (valueOf m n) ((es.dlookup n).map DeviceCapacity.value) := by
  intro es
  induction es with
  | nil => intro m _; rfl
  | cons e es ih =>
    intro m hnodup
    obtain ⟨hfresh, hrest⟩ := nodupKeys_cons.mp hnodup
    rw [foldl_cons, ih _ hrest, valueOf_setMax]
    by_cases hn : n = e.1
    · subst hn
      rw [if_pos rfl, dlookup_eq_none.mpr hfresh, dlookup_cons_eq]
      rfl
    · rw [if_neg hn, dlookup_cons_ne _ _ hn]

theorem valueOf_raised (caps : PartCapacityMap) (n : CapacityName) :
    valueOf (caps.entries.foldl (fun m e => setMax m e.1 e.2) m) n = larger (valueOf m n) (valueOf caps n) :=
  valueOf_foldl_setMax n caps.entries m caps.nodupKeys

theorem le_larger {old : Option Int} (new : Option Int) {v : Int} (h : old = some v ∨ new = some v) :
    ∃ w, larger old new = some w ∧ v ≤ w := by
  rcases h with rfl | rfl
  · cases new with
    | none => exact ⟨v, rfl, le_rfl⟩
    | some w => exact ⟨max v w, rfl, le_max_left v w⟩
  · cases old with
    | none => exact ⟨v, rfl, le_rfl⟩
    | some w => exact ⟨max w v, rfl, le_max_right w v⟩

theorem valueOf_commonCapacitiesMig_isSome (n : CapacityName) :
    (valueOf (commonCapacitiesMig p) n).isSome ↔ n ≠ .cores ∧ n ≠ .shares := by
  simp only [commonCapacitiesMig, valueOf_insert]
  cases n <;> simp

theorem step_dvd_memory : ∃ v, valueOf (commonCapacitiesMig p) .memory = some v ∧ step ∣ v := by
  refine ⟨IntArith.int64.wrap (p.memorySizeMB * 1024 * 1024), ?_, ?_⟩
  · rw [commonCapacitiesMig, valueOf_insert, if_pos rfl]
    rfl
  · simp only [IntArith.int64, step]
    omega

/-- Memory is announced in whole units, if anything is. -/
def WholeUnits : Prop := m.entries = [] ∨ ∃ v, valueOf m .memory = some v ∧ step ∣ v

/-- What has been gathered covers the MIG devices that have been seen. -/
structure Inspection.Covers (gpu : Gpu) (acc : Inspection) : Prop where
  parent : ∀ name s, acc.migSpecs.lookup name = some s → s.parent = gpu
  capacities : ∀ name s, acc.migSpecs.lookup name = some s → ∀ n v, valueOf s.capacities n = some v →
    ∃ w, valueOf acc.maxCapacities n = some w ∧ v ≤ w
  kinds : valueOf acc.maxCapacities .shares = none
  units : WholeUnits acc.maxCapacities

variable {acc : Inspection} {gpu : Gpu}

theorem Inspection.Covers.addPlacement (h : acc.Covers gpu)
    (info : GpuInstanceProfileInfo) (placement : Placement) : (acc.addPlacement gpu info placement).Covers gpu := by
  have hmax (n : CapacityName) : valueOf (acc.addPlacement gpu info placement).maxCapacities n =
      larger (valueOf acc.maxCapacities n) (valueOf (commonCapacitiesMig info) n) := valueOf_raised _ _ n
  have hspec {name : DeviceName} {s : MigSpec}
      (hs : (acc.addPlacement gpu info placement).migSpecs.lookup name = some s) :
      acc.migSpecs.lookup name = some s ∨ s = ⟨gpu, info, placement⟩ := by
    unfold Inspection.addPlacement at hs
    dsimp only at hs
    split at hs
    · exact .inl hs
    · exact (lookup_insert_cases hs).symm.imp And.right And.right
  refine ⟨fun name s hs => ?_, fun name s hs n v hv => ?_, ?_, .inr ?_⟩
  · rcases hspec hs with hs | rfl
    · exact h.parent name s hs
    · rfl
  · rw [hmax]
    rcases hspec hs with hs | rfl
    · obtain ⟨w, hw, hle⟩ := h.capacities name s hs n v hv
      obtain ⟨x, hx, hle'⟩ := le_larger (valueOf (commonCapacitiesMig info) n) (.inl hw)
      exact ⟨x, hx, hle.trans hle'⟩
    · exact le_larger _ (.inr hv)
  · have hnone : valueOf (commonCapacitiesMig info) .shares = none := by
      have := (valueOf_commonCapacitiesMig_isSome info .shares).not.mpr (by simp)
      simpa using this
    rw [hmax, h.kinds, hnone]
    rfl
  · obtain ⟨v, hv, hdvd⟩ := step_dvd_memory info
    rw [hmax, hv]
    rcases h.units with hempty | ⟨w, hw, hdvd'⟩
    · have hnone : valueOf acc.maxCapacities .memory = none := by
        simp [valueOf, AList.lookup, hempty]
      rw [hnone]
      exact ⟨v, rfl, hdvd⟩
    · rw [hw]
      refine ⟨max w v, rfl, ?_⟩
      rcases max_choice w v with hmax | hmax <;> rw [hmax] <;> assumption

theorem Inspection.Covers.addPlacements (h : acc.Covers gpu)
    (info : GpuInstanceProfileInfo) (placements : List Placement) :
    (placements.foldl (Inspection.addPlacement gpu info) acc).Covers gpu := by
  induction placements generalizing acc with
  | nil => exact h
  | cons placement placements ih => exact ih (h.addPlacement info placement)

theorem Inspection.Covers.visit {acc' : Inspection} (h : acc.Covers gpu) (v : ProfileVisit)
    (hv : acc.visit gpu v = some acc') : acc'.Covers gpu := by
  unfold Inspection.visit at hv
  split at hv
  · exact Option.some.inj hv ▸ h
  · split at hv
    · exact Option.some.inj hv ▸ h
    · exact Option.some.inj hv ▸ h
    · cases hv
    · next info _ =>
      split at hv
      · exact Option.some.inj hv ▸ h
      · exact Option.some.inj hv ▸ h
      · cases hv
      · exact Option.some.inj hv ▸ h.addPlacements info _

/-- **The inspection covers what it found.** -/
theorem inspect_covers {visits : List ProfileVisit} {found : Inspection}
    (h : inspectMigProfilesAndPlacements gpu visits = some found) : found.Covers gpu := by
  have hall : ∀ (visits : List ProfileVisit) (acc : Inspection), acc.Covers gpu →
      visits.foldlM (Inspection.visit gpu) acc = some found → found.Covers gpu := by
    intro visits
    induction visits with
    | nil => exact fun acc hacc hfound => Option.some.inj hfound ▸ hacc
    | cons v visits ih =>
      intro acc hacc hfound
      rw [foldlM_cons, Option.bind_eq_bind, Option.bind_eq_some_iff] at hfound
      obtain ⟨next, hnext, hrest⟩ := hfound
      exact ih next (hacc.visit v hnext) hrest
  refine hall visits _ ⟨?_, ?_, rfl, .inl rfl⟩ h
  · nofun
  · nofun

end VGpuManager.Partitions

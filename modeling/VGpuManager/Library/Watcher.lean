import Mathlib.Data.List.Induction
import VGpuManager.Library.Bucket
import VGpuManager.Library.Estimator

/-!
# The controller cycle (`cuda_hook.c`: `utilization_watcher`, `delta`, `refill_ceiling`)

The cycle of the process that won the refill: it takes the current sample, notices a silent
driver, adjusts a soft limit, asks `sm_delta_est_control_avg` for the share and refills the
bucket. A launch that finds the bucket negative waits for the next refill.
-/

namespace VGpuManager.Library

open Foundation

/-! ## Exclusivity -/

/-- What the debounce keeps for a device; `memo` is the answer of the current cycle, once there is one. -/
structure Debounce where
  exclusive : Bool
  streak : Nat := 0
  lost : Bool := false
  memo : Option Bool := none
  deriving Repr, DecidableEq

/-- `host_index_is_exclusive_debounced`. -/
def Debounce.call (cycles : Nat) (observed : Bool) (s : Debounce) : Bool × Debounce :=
  match s.memo with
  | some answer => (answer, s)
  | none =>
    if observed = s.exclusive then (s.exclusive, { s with streak := 0, memo := some s.exclusive })
    else if cycles ≤ s.streak + 1 then
      (observed, ⟨observed, 0, s.lost || s.exclusive, some observed⟩)
    else (s.exclusive, { s with streak := s.streak + 1, memo := some s.exclusive })

/-! ## The state and a cycle -/

/-- What the process knows of the device and its tunables. -/
structure WatcherConfig where
  maxThreadPerSm : Nat
  smNum : Nat
  /-- The bucket is the one all processes of the container share. -/
  shared : Bool
  incDivisor : Int
  rampDivisor : Int
  usageThreshold : Int
  exclDebounceCycles : Nat
  exclExternalUtilThreshold : Int
  threads_pos : 0 < maxThreadPerSm
  sms_pos : 0 < smNum

/-- `g_total_cuda_cores`: the pool. -/
def WatcherConfig.total (cfg : WatcherConfig) : Int := cfg.maxThreadPerSm * cfg.smNum * 256

/-- What a cycle finds: the sample, the clocks, the limits and whether a launch was throttled. -/
structure CycleInput where
  valid : Bool
  /-- The timestamp of the sample in microseconds. -/
  sampleTs : Nat
  userCurrent : Int
  sysCurrent : Int
  externalProcessNum : Int
  /-- `monotonic_ns`. -/
  mono : Int
  /-- `gettimeofday`, in milliseconds. -/
  nowMs : Int
  throttled : Bool
  hardLimit : Bool
  hardCore : Int
  softCore : Int
  deriving Repr, DecidableEq

/-- The controller between two cycles, with the bucket it refills. -/
structure Controller where
  est : Estimate
  share : Int
  bucket : Int
  mark : Int
  markValid : Bool
  deltaCalls : Nat
  sampleSeenTs : Nat
  sampleSeenNs : Int
  upLimit : Int
  isCnt : Nat
  avgSysFree : Int
  preExternal : Int
  exclusive : Bool
  exclusiveStreak : Nat
  lostExclusivity : Bool
  deriving Repr, DecidableEq

namespace Controller

variable (cfg : WatcherConfig) (s : Controller) (i : CycleInput)

/-- The time of the last new sample. -/
def see : Controller :=
  if i.sampleTs ≠ s.sampleSeenTs ∨ s.sampleSeenNs = 0 then
    { s with sampleSeenTs := i.sampleTs, sampleSeenNs := i.mono }
  else s

/-- A launch waits, yet there was no new sample for `SM_SAMPLE_SILENT_NS`. -/
def silent : Bool :=
  i.valid && i.throttled && 2000000000 < i.mono - (s.see i).sampleSeenNs

/-- The sample as the controller takes it: after a silence the reading is zero and the estimate
starts over. -/
def heed : Controller × CycleInput :=
  if s.silent i then
    ({ s.see i with est := s.est.reset }, { i with userCurrent := 0, sysCurrent := 0 })
  else (s.see i, i)

/-- `host_index_is_exclusive_raw`. -/
def exclusiveRaw : Bool :=
  i.externalProcessNum ≤ 0 || max (i.sysCurrent - i.userCurrent) 0 < cfg.exclExternalUtilThreshold

/-- The cycle asks once whether the device is ours. -/
def debounced : Controller :=
  let d := (Debounce.call cfg.exclDebounceCycles (exclusiveRaw cfg i)
    ⟨s.exclusive, s.exclusiveStreak, s.lostExclusivity, none⟩).2
  { s with exclusive := d.exclusive, exclusiveStreak := d.streak, lostExclusivity := d.lost }

/-- `soft_reset_to_hard`. -/
def softResetToHard (hardCore : Int) (scale : Bool) : Controller :=
  { s with
    share :=
      if scale ∧ hardCore < s.upLimit ∧ 0 < s.share then (s.share * hardCore).tdiv s.upLimit
      else s.share
    upLimit := hardCore
    isCnt := 0
    avgSysFree := 0 }

/-- The limit after `SOFT_ADJUST_INTERVAL` cycles: a step up with headroom, a step down under
pressure. -/
def adjustLimit : Int :=
  let avg := (s.avgSysFree * 2).tdiv 30
  let step := max (i.hardCore.tdiv 10) 1
  if cfg.usageThreshold < avg then min (s.upLimit + step) i.softCore
  else if avg < cfg.usageThreshold ∧ i.hardCore < s.upLimit then
    max (s.upLimit - step) i.hardCore
  else s.upLimit

/-- One cycle of the elastic ramp. -/
def ramp : Controller :=
  let s := { s with isCnt := s.isCnt + 1, avgSysFree := s.avgSysFree + (100 - i.sysCurrent) }
  let s := if s.isCnt % 30 = 0 then { s with upLimit := adjustLimit cfg s i, isCnt := 0 } else s
  { s with avgSysFree := if s.isCnt % 15 = 0 then 0 else s.avgSysFree }

/-- A new process of another container: everybody negotiates from the guaranteed share. -/
def noticeExternal : Controller :=
  let t :=
    if s.preExternal < i.externalProcessNum then s.softResetToHard i.hardCore (!s.exclusive) else s
  { t with preExternal := i.externalProcessNum }

/-- Exclusivity was lost: the burst headroom is given back, once. -/
def giveBack : Controller :=
  if s.lostExclusivity then { s.softResetToHard i.hardCore true with lostExclusivity := false }
  else s

/-- A soft limit follows the competition on the device. -/
def adjust : Controller :=
  let s := (debounced cfg s i).noticeExternal i
  if s.exclusive then { s with upLimit := i.softCore } else ramp cfg (s.giveBack i) i

/-- The arguments of the controller call. -/
def args (limit : Int) : DeltaArgs where
  total := cfg.total
  upLimit := limit
  userCurrent := i.userCurrent
  deviceCurrent := i.sysCurrent
  sampleTsMs := i.sampleTs / 1000
  readingAvgMs := 1000
  nowMs := i.nowMs
  share := s.share
  bucket := s.bucket
  boot := s.deltaCalls < 2
  consumed := if s.markValid then s.mark - s.bucket else -1
  incDivisor := cfg.incDivisor
  rampDivisor := cfg.rampDivisor

/-- `delta`: the controller call, and the drain it asks for. -/
def delta (limit : Int) : Controller × Int :=
  let r := smDeltaEstControlAvg s.est (s.args cfg i limit)
  let drained := if r.drain then drainBacklog s.bucket else (s.bucket, 0)
  ({ s with
      est := r.est
      deltaCalls := if s.deltaCalls < 2 then s.deltaCalls + 1 else s.deltaCalls
      bucket := drained.1
      mark := s.bucket + drained.2 }, r.next)

/-- `refill_ceiling`. -/
def refillCeiling : Int := smDeltaEstBucketCeiling s.share

/-- The refill with the share just decided. -/
def refill : Controller :=
  let change :=
    changeToken s.share s.refillCeiling (smDeltaDebtFloor s.share s.refillCeiling) s.bucket
  { s with bucket := change.1, mark := s.mark + change.2, markValid := true }

/-- The share is decided and added to the bucket. -/
def supply (limit : Int) : Controller :=
  let d := s.delta cfg i limit
  { d.1 with share := d.2 }.refill

/-- The bypass of a hard limit brings the bucket to the target and leaves the share. -/
def bypass : Controller :=
  let d := s.delta cfg i i.hardCore
  let s := d.1
  if cfg.shared then
    let change := changeToken (d.2 - s.bucket) s.refillCeiling 0 s.bucket
    { s with bucket := change.1, mark := s.mark + change.2, markValid := true }
  else
    let target := min d.2 s.refillCeiling
    { s with bucket := target, mark := target, markValid := true }

/-- The bypass: the device is ours, hardly used, and nobody waits. -/
def bypasses : Bool :=
  exclusiveRaw cfg i && i.userCurrent < max (s.upLimit.tdiv 10) 1 && !i.throttled

/-- The limit of the cycle, a soft one after its adjustment. -/
def limited : Controller × Int :=
  if i.hardLimit then (s, i.hardCore) else (s.adjust cfg i, (s.adjust cfg i).upLimit)

/-- The controller once the sample is taken. -/
def control : Controller :=
  if i.hardLimit && s.bypasses cfg i then s.bypass cfg i
  else (s.limited cfg i).1.supply cfg i (s.limited cfg i).2

/-- One cycle. Without a valid sample the controller only runs when a launch waits. -/
def cycle : Controller :=
  if i.valid ∨ s.bucket < 0 ∨ i.throttled then (s.heed i).1.control cfg (s.heed i).2 else s

end Controller

/-! ## Exclusivity, call by call -/

/-- A cycle of the watcher: what a call would observe, how many calls there are, and whether the watcher takes
the lost-exclusivity flag before them. -/
structure WatcherCycle where
  observed : Bool
  calls : Nat
  taken : Bool := false

namespace Debounce

/-- The calls of a cycle, with their answers. -/
def callAll (cycles : Nat) (observed : Bool) : Nat → Debounce → List Bool × Debounce
  | 0, s => ([], s)
  | n + 1, s =>
    let (answer, s) := call cycles observed s
    let (answers, s) := callAll cycles observed n s
    (answer :: answers, s)

/-- A cycle starts without a memo. -/
def cycle (cycles : Nat) (s : Debounce) (c : WatcherCycle) : List Bool × Debounce :=
  callAll cycles c.observed c.calls { s with memo := none, lost := s.lost && !c.taken }

def run (cycles : Nat) (s : Debounce) (cs : List WatcherCycle) : Debounce :=
  cs.foldl (fun s c => (cycle cycles s c).2) s

variable {cycles : Nat} {observed : Bool} {s : Debounce} {c : WatcherCycle}

/-- Once there is a memo, all calls return it. -/
theorem callAll_of_memo {answer : Bool} (h : s.memo = some answer) (n : Nat) :
    callAll cycles observed n s = (List.replicate n answer, s) := by
  induction n with
  | zero => rfl
  | succ n ih => simp only [callAll, call, h, ih, List.replicate_succ]

/-- The observations of the cycles that have a call, the newest first. -/
def observations (cs : List WatcherCycle) : List Bool := ((cs.filter (·.calls ≠ 0)).map (·.observed)).reverse

/-- The observations directly before, as far back as they all differ from the answer. -/
def pending (s : Debounce) (os : List Bool) : Nat := (os.takeWhile (· ≠ s.exclusive)).length

/-- What a cycle does, if the streak counts the pending observations. -/
structure Cycled (cycles : Nat) (os : List Bool) (s : Debounce) (c : WatcherCycle) (answers : List Bool)
    (t : Debounce) : Prop where
  changes : t.exclusive ≠ s.exclusive ↔ cycles ≤ s.pending os
  answers : answers = List.replicate c.calls t.exclusive
  lost : t.lost = (s.lost && !c.taken || s.exclusive && !t.exclusive)
  streak : t.streak = t.pending os
  short : t.streak < cycles

theorem cycle_step {os : List Bool} (hstreak : s.streak = s.pending os) (hlt : s.streak < cycles) (c : WatcherCycle) :
    Cycled cycles (if c.calls = 0 then os else c.observed :: os) s c (cycle cycles s c).1 (cycle cycles s c).2 := by
  obtain ⟨observed, n, taken⟩ := c
  cases n with
  | zero => exact ⟨by simp [cycle, callAll, ← hstreak, hlt], rfl, by simp [cycle, callAll], hstreak, hlt⟩
  | succ n =>
    simp only [cycle, callAll, call, Nat.add_eq_zero_iff, Nat.one_ne_zero, and_false, if_false]
    split
    · next hsame =>
      subst hsame
      rw [callAll_of_memo rfl]
      exact ⟨by simp [pending]; omega, rfl, by simp, by simp [pending], by simp; omega⟩
    · next hdiff =>
      have hpending : s.pending (observed :: os) = s.streak + 1 := by simp [pending, hdiff, hstreak]
      split
      · next hlong =>
        rw [callAll_of_memo rfl]
        refine ⟨by simp [hdiff, hpending, hlong], rfl, ?_, by simp [pending], by simp; omega⟩
        cases observed <;> cases h : s.exclusive <;> simp_all
      · next hshort =>
        rw [callAll_of_memo rfl]
        exact ⟨by simp [hpending]; omega, rfl, by simp, hpending.symm, by simp; omega⟩

theorem observations_snoc (cs : List WatcherCycle) (c : WatcherCycle) :
    observations (cs ++ [c]) = if c.calls = 0 then observations cs else c.observed :: observations cs := by
  by_cases hcalls : c.calls = 0 <;> simp [observations, hcalls]

theorem run_pending (hcycles : 1 ≤ cycles) (a : Bool) (cs : List WatcherCycle) :
    let s := run cycles { exclusive := a } cs
    s.streak = s.pending (observations cs) ∧ s.streak < cycles := by
  induction cs using List.reverseRecOn with
  | nil => exact ⟨rfl, hcycles⟩
  | append_singleton cs c ih =>
    have hstep := cycle_step ih.1 ih.2 c
    rw [← observations_snoc] at hstep
    rw [run, List.foldl_append]
    exact ⟨hstep.streak, hstep.short⟩

/-- **The answer changes exactly when the observations pending with this cycle reach the debounce length.** All
calls of a cycle return the same, and the flag goes up with a change from exclusive to shared, and only then. -/
theorem debounce_window (hcycles : 1 ≤ cycles) (a : Bool) (before : List WatcherCycle) (c : WatcherCycle) :
    let s := run cycles { exclusive := a } before
    Cycled cycles (observations (before ++ [c])) s c (cycle cycles s c).1 (cycle cycles s c).2 := by
  obtain ⟨hstreak, hlt⟩ := run_pending hcycles a before
  rw [observations_snoc]
  exact cycle_step hstreak hlt c

theorem debounce_window_two :
    let s := run 2 { exclusive := true } [⟨false, 3, false⟩]
    (s.cycle 2 ⟨false, 1, false⟩).2.exclusive ≠ s.exclusive :=
  (debounce_window (by decide) true [⟨false, 3, false⟩] ⟨false, 1, false⟩).changes.mpr (by decide)

end Debounce

end VGpuManager.Library

import Mathlib.Algebra.Group.Nat.Defs
import Mathlib.Algebra.Order.Group.Unbundled.Int
import Mathlib.Tactic.Common

/-!
# The share controller (`sm_delta.h`)

Once a cycle the controller decides how many tokens the container gets, its *share*, from the
utilisation it reads and from what the bucket says was launched. `sm_delta_control` moves the
share in steps; `sm_delta_est_control_avg` puts an estimate in front of it, made when a window of
samples closes, and between two windows holds the share or lets the step run.

Quantities are integers: the pool, the shares and the charges of a real device stay far inside
`int64_t`. Times are compared as the code does it, as wrapping 32-bit differences.
-/

namespace VGpuManager.Library

open List

/-- `INT64_MAX`. -/
def int64Max : Int := 2 ^ 63 - 1

/-- `(int32_t)((uint32_t)a - (uint32_t)b)`. -/
def wrapDiff (a b : Int) : Int := (a - b).bmod (2 ^ 32)

/-- What one call of the controller is given. -/
structure DeltaArgs where
  total : Int
  upLimit : Int
  userCurrent : Int
  deviceCurrent : Int
  /-- The timestamp of the current sample in milliseconds, 0 when there is none. -/
  sampleTsMs : Nat
  readingAvgMs : Nat
  nowMs : Int
  share : Int
  bucket : Int
  boot : Bool
  /-- What was launched since the last refill; negative when that is unknown. -/
  consumed : Int
  incDivisor : Int
  rampDivisor : Int
  deriving Repr, DecidableEq

/-! ## The step -/

/-- `sm_delta_isqrt`: bit by bit, from the highest power of four that is not above `n`. -/
def smDeltaIsqrt (n : Nat) : Nat :=
  let bits := ((List.range 32).reverse.map (4 ^ ·)).dropWhile (n < ·)
  (bits.foldl (fun (acc : Nat × Nat) bit =>
      if acc.2 + bit ≤ acc.1 then (acc.1 - (acc.2 + bit), acc.2 / 2 + bit)
      else (acc.1, acc.2 / 2))
    (n, 0)).2

namespace DeltaArgs

variable (a : DeltaArgs)

def rawDiff : Int := (a.upLimit - a.userCurrent).natAbs

def up : Int := if 0 < a.upLimit then a.upLimit else 1

def seed : Int :=
  let incDivisor := if a.incDivisor ≤ 0 then 1310720 else a.incDivisor
  max ((a.total * 5).tdiv incDivisor) 1

def jump : Int := min ((a.total * a.up).tdiv 6400) (a.total.tdiv 64)

def escape : Int := smDeltaIsqrt (min (2 * a.seed * a.share) int64Max).toNat

def growCap : Int := (max a.share a.total).tdiv 10

/-- The step up: in proportion to the distance, at least the seed, and faster off a zero reading
with the bucket empty. -/
def grow (cap : Int) : Int :=
  if a.boot ∧ a.share < a.jump then a.jump
  else
    let damp : Int := if a.bucket ≤ 0 then 4 else 6
    let increment := max ((a.share * a.rawDiff).tdiv (damp * a.up)) a.seed
    let increment :=
      if a.userCurrent = 0 ∧ a.bucket ≤ 0 then max increment a.escape else increment
    let increment := min increment a.growCap
    min (a.share + increment) cap

/-- The cut when the utilisation is beyond twice the target. -/
def blowout (cap : Int) : Int :=
  let increment := max ((a.share * a.rawDiff).tdiv (6 * a.up)) a.seed
  let increment :=
    if 0 < a.rampDivisor then max increment ((a.total * a.rawDiff).tdiv (a.up * a.rampDivisor))
    else increment
  max (a.share - min increment cap) 0

/-- The cut of a mild overshoot, in proportion to how much of it the share explains. -/
def mildCut : Int :=
  let backlog := max a.bucket 0
  let prop := (a.share * a.rawDiff).tdiv (6 * a.up)
  let byCause := (prop * a.share).tdiv (a.share + backlog + 1)
  let byError := (prop * a.rawDiff).tdiv 100
  let increment := max byCause byError
  let increment := if increment < 1 ∧ backlog < a.share then 1 else increment
  max (a.share - increment) 0

end DeltaArgs

section

variable (a : DeltaArgs)

/-- `sm_delta_step_cap`. -/
def smDeltaStepCap (cap : Int) : Int :=
  if 100 ≤ a.upLimit then cap
  else if a.userCurrent ≤ a.upLimit then a.grow cap
  else if a.upLimit < a.rawDiff ∧ 5 ≤ a.rawDiff then a.blowout cap
  else a.mildCut

/-- The most a share may be: `DELTA_HEADROOM_POOLS` pools. -/
def headroom (total : Int) : Int :=
  if int64Max / 65536 < total then int64Max else total * 65536

/-- `sm_delta_share_cap`. -/
def smDeltaShareCap : Int :=
  let lim := headroom a.total
  let cap :=
    if a.total.tdiv 2 < a.consumed then
      if a.consumed < lim.tdiv 2 then 2 * a.consumed else lim
    else a.total
  if cap < a.share then min a.share lim else cap

/-- `sm_delta_observe`: the share to use instead of `next`, and whether to drain the bucket. -/
def smDeltaObserve (next : Int) : Int × Bool :=
  let backlogGate := if a.total < a.share then a.share.tdiv 10 * 15 else 8 * a.share
  let need := if 100 - a.upLimit < 10 then max (100 - a.upLimit) 5 else 10
  if 100 ≤ a.upLimit ∨ a.upLimit < 1 ∨ a.consumed < 100 ∨ a.userCurrent - a.upLimit < need ∨
      a.share ≤ a.consumed ∨ a.bucket ≤ backlogGate then
    (next, false)
  else
    (min next ((a.consumed * a.upLimit).tdiv a.userCurrent), true)

/-- `sm_delta_control`. -/
def smDeltaControl : Int × Bool :=
  smDeltaObserve a (smDeltaStepCap a (smDeltaShareCap a))

end

/-! ## The estimate -/

/-- One cycle in the ring: when it was read, what it consumed, whether the bucket ran dry. -/
structure CycleRecord where
  tMs : Int
  consumed : Int
  starved : Bool
  deriving Repr, DecidableEq

/-- `sm_delta_est_t`. The ring holds the last cycles, newest first. -/
structure Estimate where
  lastTs : Nat
  winTs : Nat
  winReadingMs : Int
  winMs : Nat
  refConsumed : Int
  haveEst : Bool
  zeroStarved : Bool
  dropCycles : Nat
  periodMs : Nat
  longGaps : Nat
  ring : List CycleRecord
  deriving Repr, DecidableEq

variable (st : Estimate)

/-- The estimate zeroed, but for the sample period. -/
def Estimate.reset : Estimate :=
  ⟨0, 0, 0, 0, 0, false, false, 0, st.periodMs, 0, []⟩

/-- `SM_DELTA_EST_RING`. -/
def ringSize : Nat := 16

/-- Whether the cycle was short of tokens. -/
def DeltaArgs.demand (a : DeltaArgs) : Bool :=
  a.bucket ≤ 0 || (0 ≤ a.consumed && a.share - a.share.tdiv 8 ≤ a.consumed)

variable (a : DeltaArgs)

/-- A cycle whose consumption is known enters the ring. -/
def Estimate.record : Estimate :=
  if 0 ≤ a.consumed then
    { st with ring := (⟨a.nowMs, a.consumed, a.demand⟩ :: st.ring).take ringSize }
  else st

/-- The smoothed sample period. A gap over twice the period is a silence, unless three come in a
row. -/
def Estimate.notePeriod (period : Nat) : Estimate :=
  if st.periodMs = 0 then { st with periodMs := period }
  else if period ≤ 2 * st.periodMs then
    { st with periodMs := (3 * st.periodMs + period + 2) / 4, longGaps := 0 }
  else if 3 ≤ st.longGaps + 1 then { st with periodMs := period, longGaps := 0 }
  else { st with longGaps := st.longGaps + 1 }

/-- A new sample enters the window; the first one only opens it. -/
def Estimate.addSample : Estimate :=
  if st.lastTs = 0 then { st with lastTs := a.sampleTsMs, winTs := a.sampleTsMs }
  else
    let period := min (wrapDiff a.sampleTsMs st.lastTs) 10000
    if 0 < period then
      { st with
        lastTs := a.sampleTsMs
        winReadingMs := st.winReadingMs + a.userCurrent * period
        winMs := st.winMs + period.toNat }.notePeriod period.toNat
    else { st with lastTs := a.sampleTsMs }

/-- The time a reading averages over. -/
def Estimate.avgMs : Nat := max a.readingAvgMs st.periodMs

def Estimate.sliding : Bool :=
  0 < st.periodMs && st.periodMs * 3 < st.avgMs a * 2

/-- A sliding reading at 0 with the bucket dry and the device idle is acted on at once. -/
def Estimate.zeroNow : Bool :=
  st.sliding a && 0 < st.winMs && a.userCurrent < 1 && a.deviceCurrent < 1 && st.ring.head?.any (·.starved)

/-- The weighted sums over the records of a window, weights in thousandths of a cycle. -/
structure WindowSums where
  num : Int := 0
  den : Int := 0
  starvedNum : Int := 0
  starvedDen : Int := 0
  activeDen : Int := 0
  deriving Repr, DecidableEq

variable (s : WindowSums)

/-- One record of weight `w` is added. -/
def WindowSums.add (r : CycleRecord) (w : Int) : WindowSums where
  num := s.num + r.consumed * w
  den := s.den + w
  starvedNum := if r.starved then s.starvedNum + r.consumed * w else s.starvedNum
  starvedDen := if r.starved then s.starvedDen + w else s.starvedDen
  activeDen := if 0 < r.consumed ∨ r.starved then s.activeDen + w else s.activeDen

/-- The share of the cycle from `t0` to `t1` that lies in the span from 0 to `stop`. -/
def overlap (stop t0 t1 : Int) : Int :=
  let lo := max t0 0
  let hi := min t1 stop
  if hi ≤ lo ∨ t1 - t0 ≤ 0 then 0 else ((hi - lo) * 1000).tdiv (t1 - t0)

/-- The records, newest first, weighted by their overlap with the span of length `stop` after
`start`. A record covers the time since the one before it. -/
def weigh (start stop : Int) : List CycleRecord → WindowSums → WindowSums
  | k :: kp :: rest, s =>
    let t1 := wrapDiff k.tMs start
    let t0 := wrapDiff kp.tMs start
    -- the records behind lie before the span as well: the loop ends
    if t1 ≤ 0 then s
    else weigh start stop (kp :: rest) (s.add k (overlap stop t0 t1))
  | _, s => s

/-- The spans of the window: one from its start to the sample, or one for each sample that a
sliding reading averages over. -/
def Estimate.spans : List (Int × Int) :=
  if st.sliding a then
    (List.range (max ((st.winMs + st.periodMs / 2) / st.periodMs) 1)).map fun (j : Nat) =>
      ((a.sampleTsMs : Int) - j * st.periodMs - st.avgMs a, (st.avgMs a : Int))
  else [((st.winTs : Int), wrapDiff a.sampleTsMs st.winTs)]

def Estimate.sums : WindowSums :=
  (st.spans a).foldl (fun s span => weigh span.1 span.2 st.ring s) {}

/-- The mean consumption of a cycle, rounded. -/
def WindowSums.cbar : Int :=
  if 0 < s.den then (s.num + s.den.tdiv 2).tdiv s.den else 0

/-- The share that would have held the target: from the mean, or, where the bucket ran dry in a
quarter of the active cycles, from the cycles that ran dry. -/
def WindowSums.estimate (upLimit m : Int) : Int :=
  if 0 < s.activeDen ∧ s.activeDen ≤ 4 * s.starvedDen ∧ 0 < s.starvedDen then
    let mActive := max ((m * s.den).tdiv s.activeDen) 1
    let mean := (s.starvedNum + s.starvedDen.tdiv 2).tdiv s.starvedDen
    (mean * upLimit + mActive.tdiv 2).tdiv mActive
  else (s.cbar * upLimit + m.tdiv 2).tdiv m

/-- The window closes: the mean reading is paired with the consumption, and where that gives a
ratio the share it asks for is returned. -/
def Estimate.closeWindow : Estimate × Option Int :=
  let reading := st.winReadingMs.tdiv st.winMs
  let s := st.sums a
  let zeroStarved : Bool := reading < 1 && 0 < s.den && s.den ≤ 2 * s.starvedDen
  let st' : Estimate :=
    { st with winTs := a.sampleTsMs, winReadingMs := 0, winMs := 0, zeroStarved := zeroStarved }
  let m := if 1 ≤ reading then reading else if zeroStarved then 1 else 0
  if 1 ≤ m ∧ 0 < s.cbar ∧ 1 ≤ a.upLimit ∧ a.upLimit < 100 then
    ({ st' with haveEst := true, refConsumed := s.cbar, dropCycles := 0 },
      some (max (min (s.estimate a.upLimit m) (headroom a.total)) 0))
  else (st', none)

/-- The sample is one the estimate has not seen. -/
def Estimate.fresh : Bool :=
  a.sampleTsMs != 0 && a.sampleTsMs != st.lastTs

/-- The sample closes the window. -/
def Estimate.closes : Bool :=
  st.lastTs != 0 && ((st.addSample a).zeroNow a || 500 ≤ (st.addSample a).winMs)

/-- What the estimate makes of the current sample. -/
def Estimate.readSample : Estimate × Option Int :=
  if st.fresh a then
    if st.closes a then (st.addSample a).closeWindow a else (st.addSample a, none)
  else (st, none)

/-- What one call of the controller decides. -/
structure DeltaResult where
  est : Estimate
  next : Int
  drain : Bool
  deriving Repr, DecidableEq

/-- Between two estimates the share holds, unless there is none yet or the last window was starved
at a zero reading: then the step runs. -/
def Estimate.holds : Bool :=
  a.upLimit < 100 && st.lastTs != 0 && ((st.haveEst && !st.zeroStarved) || !a.demand)

def Estimate.holdOrStep : DeltaResult :=
  if st.holds a then ⟨st, a.share, false⟩
  else ⟨st, (smDeltaControl a).1, (smDeltaControl a).2⟩

/-- The bucket has tokens left, yet the cycle consumed a quarter of what the estimate was made
on. -/
def Estimate.dropping : Bool :=
  st.haveEst && 0 < a.consumed && 0 < a.bucket && 1 ≤ a.upLimit && a.upLimit < 100 && a.consumed * 4 < st.refConsumed

/-- A cycle without a new estimate. Two cycles of dropped demand in a row cut the share. -/
def Estimate.betweenEstimates : DeltaResult :=
  if st.dropping a then
    if 2 ≤ st.dropCycles + 1 then
      let next := max ((a.consumed * a.upLimit + 50).tdiv 100) 1
      ⟨{ st with dropCycles := 0, refConsumed := a.consumed }, min next a.share, next < a.bucket⟩
    else { st with dropCycles := st.dropCycles + 1 }.holdOrStep a
  else { st with dropCycles := 0 }.holdOrStep a

/-- `sm_delta_est_control_avg`. -/
def smDeltaEstControlAvg : DeltaResult :=
  match (st.record a).readSample a with
  | (st, some next) => ⟨st, next, next < a.bucket⟩
  | (st, none) => st.betweenEstimates a

/-! ## The bounds of the bucket -/

/-- `sm_delta_est_bucket_ceiling`. -/
def smDeltaEstBucketCeiling (share : Int) : Int :=
  if int64Max / 2 < share then int64Max else max (share * 2) 1

/-- `sm_delta_debt_floor`. -/
def smDeltaDebtFloor (share ceiling : Int) : Int :=
  -(max (if int64Max / 2 / 100 < share then int64Max / 2 else share * 100) ceiling)

/-! ## The square root -/

/-- One pass of the second loop of `sm_delta_isqrt`: the rest of `n`, and the root so far. -/
def isqrtStep (s : Nat × Nat) (bit : Nat) : Nat × Nat :=
  if s.2 + bit ≤ s.1 then (s.1 - (s.2 + bit), s.2 / 2 + bit) else (s.1, s.2 / 2)

/-- The lowest `k` bits of the second loop. -/
def isqrtBits (k : Nat) : List Nat := (List.range k).reverse.map (4 ^ ·)

theorem isqrtBits_succ (k : Nat) : isqrtBits (k + 1) = 4 ^ k :: isqrtBits k := by
  simp [isqrtBits, range_succ]

/-- No sum of the second loop leaves 64 bits; the other one it forms, for the new root, is not larger. -/
def SumsFit : List Nat → Nat × Nat → Prop
  | [], _ => True
  | bit :: bits, s => s.2 + bit < 2 ^ 64 ∧ SumsFit bits (isqrtStep s bit)

/-- The first loop leaves the bits of a power of four that is above `n`. -/
theorem exists_isqrtBits {n : Nat} : ∀ {j}, n < 4 ^ j →
    ∃ k ≤ j, n < 4 ^ k ∧ (isqrtBits j).dropWhile (n < ·) = isqrtBits k
  | 0, hn => ⟨0, le_rfl, hn, rfl⟩
  | j + 1, hn => by
    rw [isqrtBits_succ, dropWhile_cons]
    split
    · next hlt =>
      obtain ⟨k, hk, h⟩ := exists_isqrtBits (of_decide_eq_true hlt)
      exact ⟨k, hk.trans j.le_succ, h⟩
    · exact ⟨j + 1, le_rfl, hn, (isqrtBits_succ j).symm⟩

/-- With `k` bits to come, the root so far is `t * 2 ^ k`, and `s.2` is that times `2 ^ k`. -/
theorem isqrt_loop {n : Nat} : ∀ {k t} {s : Nat × Nat}, (t + 1) * 4 ^ k ≤ 2 ^ 64 → n = s.1 + t * t * 4 ^ k →
    s.2 = t * 4 ^ k → n < (t + 1) * (t + 1) * 4 ^ k →
    let r := ((isqrtBits k).foldl isqrtStep s).2
    SumsFit (isqrtBits k) s ∧ r * r ≤ n ∧ n < (r + 1) * (r + 1)
  | 0, t, s, _, hrest, hroot, hlt => by
    simp only [pow_zero, Nat.mul_one] at hrest hroot hlt
    simp only [isqrtBits, range_zero, reverse_nil, map_nil, foldl_nil, SumsFit, hroot]
    exact ⟨trivial, by omega, hlt⟩
  | k + 1, t, s, hfit, hrest, hroot, hlt => by
    rw [pow_succ] at hfit hrest hroot hlt
    have hpos : 0 < 4 ^ k := Nat.pow_pos (by decide)
    rw [isqrtBits_succ, foldl_cons, SumsFit, and_assoc]
    refine ⟨by grind, ?_⟩
    unfold isqrtStep
    split
    · exact isqrt_loop (t := 2 * t + 1) (by grind) (by grind) (by grind) (by grind)
    · exact isqrt_loop (t := 2 * t) (by grind) (by grind) (by grind) (by grind)

/-- **`sm_delta_isqrt` returns the largest number whose square is at most `n`**, and none of its sums wraps. -/
theorem smDeltaIsqrt_floor (n : UInt64) :
    smDeltaIsqrt n.toNat * smDeltaIsqrt n.toNat ≤ n.toNat ∧ (∀ q, q * q ≤ n.toNat → q ≤ smDeltaIsqrt n.toNat) ∧
      SumsFit ((isqrtBits 32).dropWhile (n.toNat < ·)) (n.toNat, 0) := by
  obtain ⟨k, hk, hlt, hbits⟩ := exists_isqrtBits (j := 32) n.toNat_lt
  obtain ⟨hsums, hle, hgt⟩ := isqrt_loop (n := n.toNat) (k := k) (t := 0) (s := (n.toNat, 0))
    (by rw [Nat.zero_add, Nat.one_mul]; exact Nat.pow_le_pow_right (n := 4) (by decide) hk)
    (by simp) (by simp) (by simpa)
  have hroot : smDeltaIsqrt n.toNat = ((isqrtBits k).foldl isqrtStep (n.toNat, 0)).2 := by
    rw [← hbits]
    rfl
  rw [hbits, hroot]
  exact ⟨hle, fun q hq => Nat.lt_succ_iff.mp (Nat.mul_self_lt_mul_self_iff.mp (hq.trans_lt hgt)), hsums⟩

end VGpuManager.Library

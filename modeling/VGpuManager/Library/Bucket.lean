import Mathlib.Algebra.BigOperators.Group.List.Basic
import Mathlib.Algebra.Ring.Int.Defs
import VGpuManager.Foundation.Runs

/-!
# The shared token bucket (`cuda_hook.c`: `rate_limiter`, `change_token`, `drain_backlog`, `delta`)

A launch takes its tokens from the bucket when that is not negative and otherwise waits. Once a
cycle the controller of the container reads the bucket, may drain it, and refills it, while the
launches of every process go on. To know what was launched it keeps a mark: the bucket as it read
it, plus every change it then applied itself. At the next cycle `mark - bucket` is the
consumption.

Every update of the bucket is one compare-and-swap, so it is one step here; between two steps of
the controller any number of launches may come.
-/

namespace VGpuManager.Library

open Foundation

/-! ## The updates -/

section Updates

variable {α : Type} [Add α] [Sub α] [Neg α] [Zero α] [LE α] [LT α] [DecidableLE α] [DecidableLT α]

/-- `change_token`: the bucket after the change, held within the bounds, and the change that was
applied. -/
def changeToken (delta ceiling floor bucket : α) : α × α :=
  let after :=
    if ceiling < bucket + delta then ceiling
    else if bucket + delta < floor then floor
    else bucket + delta
  (after, after - bucket)

/-- `drain_backlog`: a positive bucket is emptied, a debt is left alone. -/
def drainBacklog (bucket : α) : α × α := if bucket ≤ 0 then (bucket, 0) else (0, -bucket)

/-- One pass of the loop of `rate_limiter`: `none` while the bucket is negative. -/
def rateLimiter (tokens bucket : α) : Option α := if bucket < 0 then none else some (bucket - tokens)

end Updates

/-! ## The interleavings -/

/-- Where the running cycle stands: `delta` has read the bucket and decided whether to drain; it
is ready to refill; the bypass has read the bucket a second time. -/
inductive CyclePhase where
  | idle
  | read (drain : Bool)
  | ready
  | loaded (cur : Int64)
  deriving Repr, DecidableEq

/-- The bucket, the controller's mark, and, for the statement only, the charges taken since the
last bucket read of a cycle (newest first). -/
structure BucketState where
  bucket : Int64
  mark : Int64
  markValid : Bool
  phase : CyclePhase
  charges : Option (List Int64)
  deriving Repr, DecidableEq

/-- The atomic steps. What the controller decides (whether to drain, the shares, targets and
bounds) is arbitrary. -/
inductive BucketStep where
  | launch (tokens : Int64)
  | deltaRead (drain : Bool)
  | drain
  | refill (share ceiling floor : Int64)
  | bypassLoad
  | bypassRefill (target ceiling : Int64)
  deriving Repr, DecidableEq

/-- `delta`'s consumption, at its bucket read: unknown (`-1`) as long as there is no mark. -/
def consumed (s : BucketState) : Int64 := if s.markValid then s.mark - s.bucket else -1

/-- `delta_mark_refill` after the refill of the cycle. -/
def BucketState.finish (s : BucketState) (change : Int64 × Int64) : BucketState :=
  { s with bucket := change.1, mark := s.mark + change.2, markValid := true, phase := .idle }

/-- One atomic step. A step of the controller that is not next in its cycle does nothing: cycles
do not overlap. -/
def BucketState.step (s : BucketState) : BucketStep → BucketState
  | .launch tokens =>
    match rateLimiter tokens s.bucket with
    | none => s
    | some bucket => { s with bucket := bucket, charges := s.charges.map (tokens :: ·) }
  | .deltaRead drain =>
    match s.phase with
    | .idle => { s with mark := s.bucket, phase := .read drain, charges := some [] }
    | _ => s
  | .drain =>
    match s.phase with
    | .read true =>
      let change := drainBacklog s.bucket
      { s with bucket := change.1, mark := s.mark + change.2, phase := .ready }
    | .read false => { s with phase := .ready }
    | _ => s
  | .refill share ceiling floor =>
    match s.phase with
    | .ready => s.finish (changeToken share ceiling floor s.bucket)
    | _ => s
  | .bypassLoad =>
    match s.phase with
    | .ready => { s with phase := .loaded s.bucket }
    | _ => s
  | .bypassRefill target ceiling =>
    match s.phase with
    | .loaded cur => s.finish (changeToken (target - cur) ceiling 0 s.bucket)
    | _ => s

/-- What a step can do: nothing, when a launch waits or the step is not next; or one of the updates,
each in its phase of the cycle. -/
inductive BucketMove (s : BucketState) : BucketStep → BucketState → Prop where
  | stays (e : BucketStep) : BucketMove s e s
  | launched {tokens : Int64} (hbucket : ¬ s.bucket < 0) : BucketMove s (.launch tokens)
      { s with bucket := s.bucket - tokens, charges := s.charges.map (tokens :: ·) }
  | read {drain : Bool} (hphase : s.phase = .idle) : BucketMove s (.deltaRead drain)
      { s with mark := s.bucket, phase := .read drain, charges := some [] }
  | drained (hphase : s.phase = .read true) : BucketMove s .drain
      { s with bucket := (drainBacklog s.bucket).1, mark := s.mark + (drainBacklog s.bucket).2,
               phase := .ready }
  | kept (hphase : s.phase = .read false) : BucketMove s .drain { s with phase := .ready }
  | refilled {share ceiling floor : Int64} (hphase : s.phase = .ready) :
      BucketMove s (.refill share ceiling floor) (s.finish (changeToken share ceiling floor s.bucket))
  | loaded (hphase : s.phase = .ready) : BucketMove s .bypassLoad { s with phase := .loaded s.bucket }
  | bypassed {target ceiling cur : Int64} (hphase : s.phase = .loaded cur) :
      BucketMove s (.bypassRefill target ceiling) (s.finish (changeToken (target - cur) ceiling 0 s.bucket))

theorem BucketState.step_move (s : BucketState) (e : BucketStep) : BucketMove s e (s.step e) := by
  cases e with
  | launch tokens =>
    simp only [step, rateLimiter]
    split
    · exact .stays _
    · rename_i bucket hlaunch
      split at hlaunch
      · cases hlaunch
      · cases hlaunch
        exact .launched ‹_›
  | deltaRead drain =>
    simp only [step]
    split
    · exact .read ‹_›
    · exact .stays _
  | drain =>
    simp only [step]
    split
    · exact .drained ‹_›
    · exact .kept ‹_›
    · exact .stays _
  | refill share ceiling floor =>
    simp only [step]
    split
    · exact .refilled ‹_›
    · exact .stays _
  | bypassLoad =>
    simp only [step]
    split
    · exact .loaded ‹_›
    · exact .stays _
  | bypassRefill target ceiling =>
    simp only [step]
    split
    · exact .bypassed ‹_›
    · exact .stays _

variable (bucket mark : Int64) (markValid : Bool)

/-- Before the first cycle, with whatever the region holds. -/
def BucketState.start : BucketState :=
  ⟨bucket, mark, markValid, .idle, none⟩

/-! ## The mark -/

/-- The sum of the charges in `int64_t`. -/
def totalCharge (cs : List Int64) : Int64 := cs.foldr (· + ·) 0

/-- The sum of the charges. -/
def chargeSum (cs : List Int64) : Int := (cs.map Int64.toInt).sum

/-- The number is a value of `int64_t`. -/
def FitsInt64 (n : Int) : Prop := -2 ^ 63 ≤ n ∧ n < 2 ^ 63
  deriving Decidable

theorem FitsInt64.bmod {n : Int} (h : FitsInt64 n) : n.bmod (2 ^ 64) = n :=
  Int.bmod_eq_of_le (by simpa using h.1) (by simpa using h.2)

theorem totalCharge_toInt : ∀ cs : List Int64, (totalCharge cs).toInt = (chargeSum cs).bmod (2 ^ 64)
  | [] => by simp [totalCharge, chargeSum]
  | c :: cs => by
    show (c + totalCharge cs).toInt = (c.toInt + chargeSum cs).bmod (2 ^ 64)
    rw [Int64.toInt_add, totalCharge_toInt cs, Int.add_bmod_bmod]

/-- The mark is ahead of the bucket by the charges since the last read, at every point of a cycle,
and it is valid between cycles once there was a read. -/
structure MarkInv (s : BucketState) : Prop where
  ahead : ∀ cs, s.charges = some cs → s.mark - s.bucket = totalCharge cs
  valid : s.phase = .idle → s.charges ≠ none → s.markValid = true

/-- A change of the bucket that is added to the mark does not show in the difference. -/
theorem changeToken_ahead (delta ceiling floor bucket : Int64) : mark + (changeToken delta ceiling floor bucket).2 -
      (changeToken delta ceiling floor bucket).1 = mark - bucket := by
  unfold changeToken
  grind

theorem drainBacklog_ahead (bucket : Int64) :
    mark + (drainBacklog bucket).2 - (drainBacklog bucket).1 = mark - bucket := by
  unfold drainBacklog
  split <;> grind

variable {s : BucketState}

theorem MarkInv.finish (h : MarkInv s) {change : Int64 × Int64}
    (hchange : s.mark + change.2 - change.1 = s.mark - s.bucket) : MarkInv (s.finish change) where
  ahead := fun cs hcs => hchange.trans (h.ahead cs hcs)
  valid := fun _ _ => rfl

theorem MarkInv.launched (h : MarkInv s) (tokens : Int64) :
    MarkInv { s with bucket := s.bucket - tokens, charges := s.charges.map (tokens :: ·) } := by
  refine ⟨fun cs hcs => ?_, fun hp hc => h.valid hp (by simpa using hc)⟩
  obtain ⟨cs', hcs', rfl⟩ : ∃ cs', s.charges = some cs' ∧ tokens :: cs' = cs := by
    simpa using hcs
  have hahead := h.ahead cs' hcs'
  show s.mark - (s.bucket - tokens) = tokens + totalCharge cs'
  rw [← hahead]
  grind

theorem MarkInv.move {t : BucketState} (h : MarkInv s) {e : BucketStep} (hmove : BucketMove s e t) : MarkInv t := by
  cases hmove with
  | stays => exact h
  | launched => exact h.launched _
  | read =>
    refine ⟨fun cs hcs => ?_, fun hp => ?_⟩
    · obtain rfl : [] = cs := by simpa using hcs
      show s.bucket - s.bucket = totalCharge []
      simp [totalCharge]
    · simp at hp
  | drained =>
    refine ⟨fun cs hcs => ?_, fun hp => ?_⟩
    · exact (drainBacklog_ahead s.mark s.bucket).trans (h.ahead cs hcs)
    · simp at hp
  | kept => exact ⟨h.ahead, fun hp => by simp at hp⟩
  | refilled => exact h.finish (changeToken_ahead ..)
  | loaded => exact ⟨h.ahead, fun hp => by simp at hp⟩
  | bypassed => exact h.finish (changeToken_ahead ..)

/-- At a bucket read of a cycle that had a predecessor, the consumption is the sum of the charges
taken since the predecessor's bucket read: in `int64_t` always, and as a number whenever `int64_t`
has it. -/
def ReadsCharges (s : BucketState) (e : BucketStep) : Prop :=
  ∀ drain cs, e = .deltaRead drain → s.phase = .idle → s.charges = some cs → consumed s = totalCharge cs ∧
      (FitsInt64 (chargeSum cs) → (consumed s).toInt = chargeSum cs)

theorem MarkInv.readsCharges (h : MarkInv s) (e : BucketStep) : ReadsCharges s e := by
  intro drain cs _ hidle hcs
  have hvalid : s.markValid = true := h.valid hidle (by simp [hcs])
  have hsum : consumed s = totalCharge cs := by
    simpa [consumed, hvalid] using h.ahead cs hcs
  refine ⟨hsum, fun hfits => ?_⟩
  rw [hsum, totalCharge_toInt, hfits.bmod]

theorem MarkInv.start : MarkInv (.start bucket mark markValid) where
  ahead := nofun
  valid := fun _ hc => absurd rfl hc

/-- **The consumption of a cycle is what was launched.** Whatever the launches in between, and
whatever drains, refills, ceilings and floors the controller applied. -/
theorem consumption_exact (bucket mark : Int64) (markValid : Bool) (es : List BucketStep) :
    Along BucketState.step ReadsCharges (.start bucket mark markValid) es := by
  have hany : Along BucketState.step (fun _ _ => True) (.start bucket mark markValid) es :=
    Along.of_forall (fun _ _ => trivial) es _
  exact along_of_invariant (fun s e h _ => h.move (s.step_move e)) (fun _ e h _ => h.readsCharges e) es
    (MarkInv.start bucket mark markValid) hany

/-! ## No overflow -/

/-- `SM_LAUNCH_TOKENS_MAX`. -/
def smLaunchTokensMax : Int64 := Int64.maxValue / 4

/-- A charge is at most `SM_LAUNCH_TOKENS_MAX`, and the bounds of a refill are below `2 ^ 59`. -/
def Capped : BucketStep → Prop
  | .launch tokens => 0 ≤ tokens.toInt ∧ tokens.toInt ≤ smLaunchTokensMax.toInt
  | .refill _ ceiling floor =>
    (-2 ^ 59 ≤ ceiling.toInt ∧ ceiling.toInt ≤ 2 ^ 59) ∧ (-2 ^ 59 ≤ floor.toInt ∧ floor.toInt ≤ 2 ^ 59)
  | .bypassRefill _ ceiling => -2 ^ 59 ≤ ceiling.toInt ∧ ceiling.toInt ≤ 2 ^ 59
  | _ => True

/-- How far the mark may be off zero, as the cycle goes on: each of its changes is bounded. -/
def markBound : CyclePhase → Int
  | .read _ => 2 ^ 61
  | .ready | .loaded _ => 2 ^ 61 + 2 ^ 59
  | .idle => 2 ^ 62 + 2 ^ 60

/-- The bucket and the mark stay clear of the ends of `int64_t`, so the mark is ahead of the bucket
by the charges as a number. -/
structure ClearInv (s : BucketState) : Prop where
  bucket : -2 ^ 61 ≤ s.bucket.toInt ∧ s.bucket.toInt ≤ 2 ^ 59
  ahead : ∀ cs, s.charges = some cs → s.mark.toInt - s.bucket.toInt = chargeSum cs
  mark : s.charges ≠ none → -markBound s.phase ≤ s.mark.toInt ∧ s.mark.toInt ≤ markBound s.phase
  reading : s.charges = none → s.phase = .idle

theorem toInt_add_of_fits {a b : Int64} (h : FitsInt64 (a.toInt + b.toInt)) : (a + b).toInt = a.toInt + b.toInt := by
  rw [Int64.toInt_add, h.bmod]

theorem toInt_sub_of_fits {a b : Int64} (h : FitsInt64 (a.toInt - b.toInt)) : (a - b).toInt = a.toInt - b.toInt := by
  rw [Int64.toInt_sub, h.bmod]

/-- A change applied to the bucket and to the mark, both clear of the ends. -/
theorem toInt_changed {mark before after : Int64}
    (hmark : -(2 ^ 61 + 2 ^ 59) ≤ mark.toInt ∧ mark.toInt ≤ 2 ^ 61 + 2 ^ 59)
    (hbefore : -2 ^ 61 ≤ before.toInt ∧ before.toInt ≤ 2 ^ 59) (hafter : -2 ^ 61 ≤ after.toInt ∧ after.toInt ≤ 2 ^ 59) :
    (mark + (after - before)).toInt = mark.toInt + (after.toInt - before.toInt) := by
  have hsub : (after - before).toInt = after.toInt - before.toInt :=
    toInt_sub_of_fits ⟨by omega, by omega⟩
  rw [toInt_add_of_fits ⟨by omega, by omega⟩, hsub]

/-- Whatever the change, even one that wraps, the bucket ends within the bounds. -/
theorem changeToken_mem {ceiling floor : Int64} {l u : Int} (delta bucket : Int64)
    (hceiling : l ≤ ceiling.toInt ∧ ceiling.toInt ≤ u) (hfloor : l ≤ floor.toInt ∧ floor.toInt ≤ u) :
    l ≤ (changeToken delta ceiling floor bucket).1.toInt ∧ (changeToken delta ceiling floor bucket).1.toInt ≤ u := by
  unfold changeToken
  split
  · exact hceiling
  · split
    · exact hfloor
    · rename_i hle hge
      have hle := Int64.le_iff_toInt_le.mp (Int64.not_lt.mp hle)
      have hge := Int64.le_iff_toInt_le.mp (Int64.not_lt.mp hge)
      exact ⟨Int.le_trans hfloor.1 hge, Int.le_trans hle hceiling.2⟩

theorem drainBacklog_snd : (drainBacklog bucket).2 = (drainBacklog bucket).1 - bucket := by
  unfold drainBacklog
  split <;> grind

/-- A drain only takes, and never goes below zero. -/
theorem drainBacklog_mem {bucket : Int64} (hbucket : -2 ^ 61 ≤ bucket.toInt ∧ bucket.toInt ≤ 2 ^ 59) :
    (-2 ^ 61 ≤ (drainBacklog bucket).1.toInt ∧ (drainBacklog bucket).1.toInt ≤ bucket.toInt) ∧
      bucket.toInt - 2 ^ 59 ≤ (drainBacklog bucket).1.toInt := by
  unfold drainBacklog
  split
  · rename_i hle
    refine ⟨⟨hbucket.1, Int.le_refl _⟩, ?_⟩
    show bucket.toInt - 2 ^ 59 ≤ bucket.toInt
    omega
  · rename_i hlt
    have hpos : 0 < bucket.toInt := by
      simpa using Int64.lt_iff_toInt_lt.mp (Int64.not_le.mp hlt)
    simp only [Int64.toInt_zero]
    omega

theorem ClearInv.finish (h : ClearInv s) (hcharges : s.charges ≠ none)
    (hphase : markBound s.phase = 2 ^ 61 + 2 ^ 59) {after : Int64}
    (hafter : -2 ^ 59 ≤ after.toInt ∧ after.toInt ≤ 2 ^ 59) : ClearInv (s.finish (after, after - s.bucket)) := by
  have hmark := h.mark hcharges
  rw [hphase] at hmark
  have hbucket := h.bucket
  have hchanged : (s.mark + (after - s.bucket)).toInt = s.mark.toInt + (after.toInt - s.bucket.toInt) :=
    toInt_changed hmark hbucket ⟨by omega, hafter.2⟩
  refine ⟨⟨?_, hafter.2⟩, fun cs hcs => ?_, fun _ => ?_, fun hnone => absurd hnone hcharges⟩
  · show -2 ^ 61 ≤ after.toInt
    omega
  · have hahead := h.ahead cs hcs
    show (s.mark + (after - s.bucket)).toInt - after.toInt = chargeSum cs
    omega
  · show -(2 ^ 62 + 2 ^ 60) ≤ (s.mark + (after - s.bucket)).toInt ∧
      (s.mark + (after - s.bucket)).toInt ≤ 2 ^ 62 + 2 ^ 60
    omega

theorem ClearInv.drained (h : ClearInv s) {d : Bool} (hphase : s.phase = .read d) (hcharges : s.charges ≠ none) :
    ClearInv { s with bucket := (drainBacklog s.bucket).1,
                      mark := s.mark + (drainBacklog s.bucket).2, phase := .ready } := by
  have hmark : -2 ^ 61 ≤ s.mark.toInt ∧ s.mark.toInt ≤ 2 ^ 61 := by
    simpa [hphase, markBound] using h.mark hcharges
  have hbucket := h.bucket
  obtain ⟨⟨hlow, hle⟩, hdrop⟩ := drainBacklog_mem hbucket
  have hchanged : (s.mark + (drainBacklog s.bucket).2).toInt =
      s.mark.toInt + ((drainBacklog s.bucket).1.toInt - s.bucket.toInt) := by
    rw [drainBacklog_snd]
    exact toInt_changed ⟨by omega, by omega⟩ hbucket ⟨hlow, by omega⟩
  refine ⟨⟨hlow, Int.le_trans hle hbucket.2⟩, fun cs hcs => ?_, fun _ => ?_, fun hnone => absurd hnone hcharges⟩
  · have hahead := h.ahead cs hcs
    show (s.mark + (drainBacklog s.bucket).2).toInt - (drainBacklog s.bucket).1.toInt = chargeSum cs
    omega
  · show -(2 ^ 61 + 2 ^ 59) ≤ (s.mark + (drainBacklog s.bucket).2).toInt ∧
      (s.mark + (drainBacklog s.bucket).2).toInt ≤ 2 ^ 61 + 2 ^ 59
    omega

theorem ClearInv.launched (h : ClearInv s) {tokens : Int64}
    (hcap : Capped (.launch tokens)) (hlaunch : ¬ s.bucket < 0) :
    ClearInv { s with bucket := s.bucket - tokens, charges := s.charges.map (tokens :: ·) } := by
  have hnonneg : 0 ≤ s.bucket.toInt := by
    simpa using Int64.le_iff_toInt_le.mp (Int64.not_lt.mp hlaunch)
  have hbucket := h.bucket
  obtain ⟨hlow, hhigh⟩ : 0 ≤ tokens.toInt ∧ tokens.toInt ≤ 2 ^ 61 :=
    ⟨hcap.1, Int.le_trans hcap.2 (by decide)⟩
  have hsub : (s.bucket - tokens).toInt = s.bucket.toInt - tokens.toInt :=
    toInt_sub_of_fits ⟨by omega, by omega⟩
  refine ⟨⟨?_, ?_⟩, fun cs hcs => ?_, fun hc => h.mark (by simpa using hc),
    fun hnone => h.reading (by simpa using hnone)⟩
  · rw [hsub]; omega
  · rw [hsub]; omega
  · obtain ⟨cs', hcs', rfl⟩ : ∃ cs', s.charges = some cs' ∧ tokens :: cs' = cs := by
      simpa using hcs
    have hahead := h.ahead cs' hcs'
    show s.mark.toInt - (s.bucket - tokens).toInt = tokens.toInt + chargeSum cs'
    omega

theorem ClearInv.move {t : BucketState} (h : ClearInv s) {e : BucketStep} (hcap : Capped e)
    (hmove : BucketMove s e t) : ClearInv t := by
  have hbucket := h.bucket
  have hcharges (hphase : s.phase ≠ .idle) : s.charges ≠ none := fun hnone =>
    hphase (h.reading hnone)
  cases hmove with
  | stays => exact h
  | launched hlaunch => exact h.launched hcap hlaunch
  | read =>
    refine ⟨hbucket, fun cs hcs => ?_, fun _ => ?_, nofun⟩
    · obtain rfl : [] = cs := by simpa using hcs
      show s.bucket.toInt - s.bucket.toInt = chargeSum []
      simp [chargeSum]
    · show -2 ^ 61 ≤ s.bucket.toInt ∧ s.bucket.toInt ≤ 2 ^ 61
      omega
  | drained hphase => exact h.drained hphase (hcharges (by simp [hphase]))
  | kept hphase =>
    have hreading := hcharges (by simp [hphase])
    have hmark : -2 ^ 61 ≤ s.mark.toInt ∧ s.mark.toInt ≤ 2 ^ 61 := by
      simpa [hphase, markBound] using h.mark hreading
    refine ⟨hbucket, h.ahead, fun _ => ?_, fun hnone => absurd hnone hreading⟩
    show -(2 ^ 61 + 2 ^ 59) ≤ s.mark.toInt ∧ s.mark.toInt ≤ 2 ^ 61 + 2 ^ 59
    omega
  | @refilled share ceiling floor hphase =>
    exact h.finish (hcharges (by simp [hphase])) (by simp [hphase, markBound])
      (changeToken_mem share s.bucket hcap.1 hcap.2)
  | loaded hphase =>
    have hreading := hcharges (by simp [hphase])
    exact ⟨hbucket, h.ahead, fun hc => by simpa [hphase, markBound] using h.mark hc,
      fun hnone => absurd hnone hreading⟩
  | @bypassed target ceiling cur hphase =>
    exact h.finish (hcharges (by simp [hphase])) (by simp [hphase, markBound])
      (changeToken_mem (target - cur) s.bucket hcap (by decide))

theorem capped_charges_fit (h : ClearInv s) {cs : List Int64}
    (hcs : s.charges = some cs) : FitsInt64 (chargeSum cs) := by
  have hahead := h.ahead cs hcs
  have hbucket := h.bucket
  have hmark := h.mark (by simp [hcs])
  have hbound : markBound s.phase ≤ 2 ^ 62 + 2 ^ 60 := by
    cases s.phase <;> simp [markBound]
  exact ⟨by omega, by omega⟩

end VGpuManager.Library

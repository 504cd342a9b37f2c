import VGpuManager.Foundation.Runs

/-!
# The refill election (`cuda_hook.c`: `sm_try_claim_refill`, `sm_ctl_load`, `sm_ctl_publish`)

The processes of a container share one controller per device. In each cycle one of them wins it
by a compare-and-swap of the refill stamp, copies the controller's state out of the shared region,
runs the controller and writes the state back.

Nothing but the stamp keeps a second winner out: it is stale for the others once
`SM_REFILL_PERIOD_NS` have passed since the clock value the winner wrote, whether the winner has
published or not (`late_winner_overtaken`).
-/

namespace VGpuManager.Library

open Foundation

/-! ## The shared region -/

/-- The state of the controller of a device: what `sm_ctl_load` copies out of the region. -/
structure ControllerState (Est : Type) where
  share : Int64
  upLimit : Int32
  isCnt : Int32
  avgSysFree : Int32
  preExternalProc : Int32
  exclDebounced : Int32
  exclStreak : Int32
  lostExclPending : Int32
  deltaMark : Int64
  deltaMarkValid : Int32
  est : Est
  deriving Repr, DecidableEq

/-- `sm_node_dev_t`, with the fields of the election and of the controller. -/
structure SmNodeDev (Est : Type) extends ControllerState Est where
  lastRefillNs : Int
  sampleIntervalNs : Int
  deriving Repr, DecidableEq

variable {Est : Type} (d : SmNodeDev Est)

def smCtlLoad : ControllerState Est := d.toControllerState

def smCtlPublish (ctl : ControllerState Est) : SmNodeDev Est :=
  { d with toControllerState := ctl }

/-- `SM_WATCHER_NOMINAL_PERIOD_NS`. -/
def smWatcherNominalPeriodNs : Int := 100 * 1000000

/-- `SM_REFILL_PERIOD_NS`. -/
def smRefillPeriodNs : Int := smWatcherNominalPeriodNs * 9 / 10

/-- `SM_CADENCE_MAX_PERIODS`. -/
def smCadenceMaxPeriods : Int := 10

/-- `SM_STANDBY_REFILL_BEATS`. -/
def smStandbyRefillBeats : Int := 2

def smOwnerCadenceNs : Int :=
  if d.sampleIntervalNs < smWatcherNominalPeriodNs then smWatcherNominalPeriodNs
  else
    let cap := smWatcherNominalPeriodNs * smCadenceMaxPeriods
    if d.sampleIntervalNs > cap then cap else d.sampleIntervalNs

/-- How old the stamp must be: less for the process that samples, and for everybody when there is
no lock to decide that. -/
def refillThreshold (owner : Bool) : Int :=
  if owner then smRefillPeriodNs else smOwnerCadenceNs d * smStandbyRefillBeats

/-- Nobody claims earlier than the owner may. -/
theorem refillPeriod_le_threshold (owner : Bool) : smRefillPeriodNs ≤ refillThreshold d owner := by
  unfold refillThreshold smOwnerCadenceNs smRefillPeriodNs smWatcherNominalPeriodNs
    smCadenceMaxPeriods smStandbyRefillBeats
  dsimp only
  split
  · omega
  · split
    · omega
    · split <;> omega

/-! ## The interleavings -/

/-- Where a process stands in its cycle. From `won` on it is a winner; `turn` counts the wins. -/
inductive RefillPhase (Est : Type) where
  | watching
  | looked (last : Int)
  | stale (last now : Int)
  | won (turn : Nat) (stamp : Int)
  | loaded (turn : Nat) (stamp : Int) (ctl : ControllerState Est)
  | ran (turn : Nat) (stamp : Int) (ctl : ControllerState Est)
  deriving Repr, DecidableEq

/-- The win of a process that has not published yet: its turn and the stamp it wrote. -/
def RefillPhase.win : RefillPhase Est → Option (Nat × Int)
  | .won turn stamp | .loaded turn stamp _ | .ran turn stamp _ => some (turn, stamp)
  | _ => none

/-- `n` processes on one device, with the clock they share. For the statement only: the number of
wins so far, and what was published, newest first, with the turn that published it. -/
structure Election (Est : Type) (n : Nat) where
  clock : Int
  dev : SmNodeDev Est
  phase : Fin n → RefillPhase Est
  turns : Nat
  log : List (Nat × ControllerState Est)

/-- The steps. `look`, `test` and `swap` are `sm_try_claim_refill`: the load of the stamp, the
clock with the staleness test, and the compare-and-swap. What the controller computes is
arbitrary, and so is the interval the sampling owner publishes. -/
inductive ElectionStep (Est : Type) (n : Nat) where
  | tick (ns : Nat)
  | sampled (interval : Int)
  | look (p : Fin n)
  | test (p : Fin n) (owner : Bool)
  | swap (p : Fin n)
  | load (p : Fin n)
  | control (p : Fin n) (out : ControllerState Est)
  | publish (p : Fin n)
  deriving Repr, DecidableEq

variable {n : Nat} (s : Election Est n) (p : Fin n)

def Election.setPhase (ph : RefillPhase Est) : Election Est n :=
  { s with phase := fun q => if q = p then ph else s.phase q }

/-- The swap succeeds. -/
def Election.claimed (now : Int) : Election Est n :=
  { s with dev := { s.dev with lastRefillNs := now }, turns := s.turns + 1 }.setPhase p (.won (s.turns + 1) now)

/-- The winner of the turn writes its state back. -/
def Election.published (turn : Nat) (ctl : ControllerState Est) : Election Est n :=
  { s with dev := smCtlPublish s.dev ctl, log := (turn, ctl) :: s.log }.setPhase p .watching

/-- One step. A step that is not the next one of its process does nothing. -/
def Election.step : ElectionStep Est n → Election Est n
  | .tick ns => { s with clock := s.clock + ns }
  | .sampled interval => { s with dev := { s.dev with sampleIntervalNs := interval } }
  | .look p =>
    match s.phase p with
    | .watching => s.setPhase p (.looked s.dev.lastRefillNs)
    | _ => s
  | .test p owner =>
    match s.phase p with
    | .looked last =>
      if s.clock - last < refillThreshold s.dev owner then s.setPhase p .watching
      else s.setPhase p (.stale last s.clock)
    | _ => s
  | .swap p =>
    match s.phase p with
    | .stale last now =>
      if s.dev.lastRefillNs = last then s.claimed p now else s.setPhase p .watching
    | _ => s
  | .load p =>
    match s.phase p with
    | .won turn stamp => s.setPhase p (.loaded turn stamp (smCtlLoad s.dev))
    | _ => s
  | .control p out =>
    match s.phase p with
    | .loaded turn stamp _ => s.setPhase p (.ran turn stamp out)
    | _ => s
  | .publish p =>
    match s.phase p with
    | .ran turn _ ctl => s.published p turn ctl
    | _ => s

/-- Nobody in a cycle, with whatever the region holds. -/
def Election.start (clock : Int) (dev : SmNodeDev Est) : Election Est n :=
  ⟨clock, dev, fun _ => .watching, 0, [(0, smCtlLoad dev)]⟩

/-! ## What the election is for -/

/-- No two processes are between their win and their publish. -/
def Exclusive : Prop :=
  ∀ p q, (s.phase p).win.isSome → (s.phase q).win.isSome → p = q
  deriving Decidable

/-- The region holds what the turn before published. -/
def HoldsPrevious (turn : Nat) : Prop :=
  s.log.head? = some (turn - 1, smCtlLoad s.dev)

/-- At most one winner at a time; when it loads, the region holds what the winner before it
published, and still does when it publishes itself. -/
def OneController (e : ElectionStep Est n) : Prop :=
  Exclusive s ∧
    match e with
    | .load p | .publish p => ∀ w ∈ (s.phase p).win, HoldsPrevious s w.1
    | _ => True

/-- Every winner that has not published is within the refill period of the stamp it wrote. -/
def Timely : Prop :=
  ∀ p, ∀ w ∈ (s.phase p).win, s.clock < w.2 + smRefillPeriodNs
  deriving Decidable

section Decidable

variable [DecidableEq Est]

instance (s : Election Est n) (turn : Nat) : Decidable (HoldsPrevious s turn) :=
  inferInstanceAs (Decidable (_ = _))

instance (s : Election Est n) : ∀ e, Decidable (OneController s e)
  | .load p | .publish p => inferInstanceAs (Decidable (Exclusive s ∧ ∀ w ∈ (s.phase p).win, _))
  | .tick _ | .sampled _ | .look _ | .test _ _ | .swap _ | .control _ _ =>
    inferInstanceAs (Decidable (Exclusive s ∧ True))

end Decidable

/-! ## Timely winners -/

/-- What holds in every state of a run of timely winners. -/
structure ElectionInv (s : Election Est n) : Prop where
  stale : ∀ p last now, s.phase p = .stale last now → last + smRefillPeriodNs ≤ now ∧ now ≤ s.clock
  winner : ∀ p, ∀ w ∈ (s.phase p).win, w = (s.turns, s.dev.lastRefillNs) ∧ HoldsPrevious s s.turns
  exclusive : Exclusive s
  rest : (∀ p, (s.phase p).win = none) → s.log.head? = some (s.turns, smCtlLoad s.dev)

theorem ElectionInv.start (clock : Int) (dev : SmNodeDev Est) : ElectionInv (.start clock dev : Election Est n) where
  stale := nofun
  winner := nofun
  exclusive := nofun
  rest := fun _ => rfl

variable {p s}

theorem setPhase_win {ph : RefillPhase Est} (hwin : ph.win = (s.phase p).win) (q : Fin n) :
    ((s.setPhase p ph).phase q).win = (s.phase q).win := by
  by_cases hq : q = p
  · subst hq
    simp [Election.setPhase, hwin]
  · simp [Election.setPhase, hq]

/-- A process moves on without winning or publishing. -/
theorem ElectionInv.setPhase (h : ElectionInv s) {ph : RefillPhase Est} (hwin : ph.win = (s.phase p).win)
    (hstale : ∀ last now, ph = .stale last now →
      last + smRefillPeriodNs ≤ now ∧ now ≤ s.clock) : ElectionInv (s.setPhase p ph) := by
  have hsame := setPhase_win hwin
  refine ⟨fun q last now hq => ?_, fun q w hw => ?_, fun q r hq hr => ?_, fun hnone => ?_⟩
  · by_cases hqp : q = p
    · exact hstale last now (by simpa [Election.setPhase, hqp] using hq)
    · exact h.stale q last now (by simpa [Election.setPhase, hqp] using hq)
  · exact h.winner q w (by rwa [hsame q] at hw)
  · exact h.exclusive q r (by rwa [hsame q] at hq) (by rwa [hsame r] at hr)
  · exact h.rest fun q => by rw [← hsame q]; exact hnone q

theorem claimed_phase_self (now : Int) : (s.claimed p now).phase p = .won (s.turns + 1) now := by
  simp [Election.claimed, Election.setPhase]

theorem claimed_phase_of_ne {q : Fin n} (hq : q ≠ p) (now : Int) : (s.claimed p now).phase q = s.phase q := by
  simp [Election.claimed, Election.setPhase, hq]

theorem published_phase_self (turn : Nat)
    (ctl : ControllerState Est) : (s.published p turn ctl).phase p = .watching := by
  simp [Election.published, Election.setPhase]

theorem published_phase_of_ne {q : Fin n} (hq : q ≠ p) (turn : Nat)
    (ctl : ControllerState Est) : (s.published p turn ctl).phase q = s.phase q := by
  simp [Election.published, Election.setPhase, hq]

/-- A process wins: the winner before it has published, or its stamp would not be stale. -/
theorem ElectionInv.claimed (h : ElectionInv s) (htime : Timely s)
    {last now : Int} (hp : s.phase p = .stale last now) (hstamp : s.dev.lastRefillNs = last) :
    ElectionInv (s.claimed p now) := by
  obtain ⟨hage, hnow⟩ := h.stale p last now hp
  have hnone : ∀ q, (s.phase q).win = none := by
    intro q
    cases hw : (s.phase q).win with
    | none => rfl
    | some w =>
      have hmine : w.2 = last := by rw [(h.winner q w hw).1, hstamp]
      have hearly := htime q w hw
      omega
  have honly : ∀ q, ((s.claimed p now).phase q).win.isSome → q = p := by
    intro q hq
    refine Classical.byContradiction fun hqp => ?_
    rw [claimed_phase_of_ne hqp, hnone q] at hq
    exact nomatch hq
  refine ⟨fun q l t hq => ?_, fun q w hw => ?_, fun q r hq hr => ?_, fun hnone' => ?_⟩
  · by_cases hqp : q = p
    · rw [hqp, claimed_phase_self] at hq
      exact nomatch hq
    · exact h.stale q l t (by rwa [claimed_phase_of_ne hqp] at hq)
  · obtain rfl : q = p := honly q (Option.isSome_of_mem hw)
    rw [claimed_phase_self] at hw
    exact ⟨(Option.some.inj hw).symm, h.rest hnone⟩
  · rw [honly q hq, honly r hr]
  · have hp' := hnone' p
    rw [claimed_phase_self] at hp'
    exact nomatch hp'

/-- The winner publishes: the region holds its turn's state, and there is no winner. -/
theorem ElectionInv.published (h : ElectionInv s) {turn : Nat}
    {stamp : Int} {ctl : ControllerState Est} (hp : s.phase p = .ran turn stamp ctl) :
    ElectionInv (s.published p turn ctl) := by
  have hmine : (s.phase p).win = some (turn, stamp) := by rw [hp]; rfl
  have hturn : turn = s.turns := congrArg Prod.fst (h.winner p _ hmine).1
  have hnone : ∀ q, ((s.published p turn ctl).phase q).win = none := by
    intro q
    by_cases hqp : q = p
    · rw [hqp, published_phase_self]; rfl
    · rw [published_phase_of_ne hqp]
      cases hw : (s.phase q).win with
      | none => rfl
      | some w => exact absurd (h.exclusive q p (by rw [hw]; rfl) (by rw [hmine]; rfl)) hqp
  refine ⟨fun q l t hq => ?_, fun q w hw => ?_, fun q r hq hr => ?_, fun _ => ?_⟩
  · by_cases hqp : q = p
    · rw [hqp, published_phase_self] at hq
      exact nomatch hq
    · exact h.stale q l t (by rwa [published_phase_of_ne hqp] at hq)
  · rw [hnone q] at hw
    exact nomatch hw
  · rw [hnone q] at hq
    exact nomatch hq
  · show some (turn, ctl) = some (s.turns, ctl)
    rw [hturn]

theorem ElectionInv.step (h : ElectionInv s) (htime : Timely s) (e : ElectionStep Est n) : ElectionInv (s.step e) := by
  cases e with
  | tick ns =>
    refine ⟨fun p last now hp => ?_, h.winner, h.exclusive, h.rest⟩
    obtain ⟨hage, hnow⟩ := h.stale p last now hp
    refine ⟨hage, ?_⟩
    show now ≤ s.clock + ns
    omega
  | sampled interval => exact ⟨h.stale, h.winner, h.exclusive, h.rest⟩
  | look p =>
    simp only [Election.step]
    split
    · rename_i hp
      exact h.setPhase (by rw [hp]; rfl) (fun _ _ => nofun)
    · exact h
  | test p owner =>
    simp only [Election.step]
    split
    · rename_i last hp
      split
      · exact h.setPhase (by rw [hp]; rfl) (fun _ _ => nofun)
      · rename_i hage
        refine h.setPhase (by rw [hp]; rfl) fun l t heq => ?_
        obtain ⟨rfl, rfl⟩ : last = l ∧ s.clock = t := by simpa using heq
        have hthreshold := refillPeriod_le_threshold s.dev owner
        omega
    · exact h
  | swap p =>
    simp only [Election.step]
    split
    · rename_i last now hp
      split
      · rename_i hstamp
        exact h.claimed htime hp hstamp
      · exact h.setPhase (by rw [hp]; rfl) (fun _ _ => nofun)
    · exact h
  | load p =>
    simp only [Election.step]
    split
    · rename_i turn stamp hp
      exact h.setPhase (by rw [hp]; rfl) (fun _ _ => nofun)
    · exact h
  | control p out =>
    simp only [Election.step]
    split
    · rename_i turn stamp ctl hp
      exact h.setPhase (by rw [hp]; rfl) (fun _ _ => nofun)
    · exact h
  | publish p =>
    simp only [Election.step]
    split
    · rename_i turn stamp ctl hp
      exact h.published hp
    · exact h

theorem ElectionInv.oneController (h : ElectionInv s) (e : ElectionStep Est n) : OneController s e := by
  have hprevious (p : Fin n) : ∀ w ∈ (s.phase p).win, HoldsPrevious s w.1 := by
    intro w hw
    obtain ⟨heq, hlog⟩ := h.winner p w hw
    rwa [heq]
  refine ⟨h.exclusive, ?_⟩
  cases e with
  | load p | publish p => exact hprevious p
  | _ => trivial

/-- **The election is mutual exclusion for timely winners**: in every run in which each winner
publishes before the refill period since its stamp is over, there is at most one winner at a time,
and each loads, and still finds when it publishes, what the winner before it published. -/
theorem timely_winners_exclude (clock : Int) (dev : SmNodeDev Est) (es : List (ElectionStep Est n))
    (htime : Along Election.step (fun s _ => Timely s) (.start clock dev) es) :
    Along Election.step OneController (.start clock dev) es :=
  along_of_invariant (fun _ e h ht => h.step ht e) (fun _ e h _ => h.oneController e) es
    (ElectionInv.start clock dev) htime

/-! ## Late winners -/

/-- The period is exact: once it is over, any process that watches becomes a second winner. -/
theorem late_winner_overtaken {q : Fin n} {turn : Nat} {stamp : Int}
    (hp : (s.phase p).win = some (turn, stamp)) (hstamp : s.dev.lastRefillNs = stamp)
    (hlate : stamp + smRefillPeriodNs ≤ s.clock) (hq : s.phase q = .watching) :
    ¬ Exclusive (run Election.step s [.look q, .test q true, .swap q]) := by
  have hpq : p ≠ q := by
    rintro rfl
    rw [hq] at hp
    exact nomatch hp
  have hage : ¬ s.clock - stamp < smRefillPeriodNs := by omega
  intro hexclusive
  refine hpq (hexclusive p q ?_ ?_)
  · simp [run, Election.step, Election.setPhase, Election.claimed, refillThreshold, hq, hstamp, hage, hpq, hp]
  · simp [run, Election.step, Election.setPhase, Election.claimed, refillThreshold, hq, hstamp, hage, RefillPhase.win]

/-- A region on which nothing was published yet. -/
def freshDev : SmNodeDev Unit := ⟨⟨0, 0, 0, 0, 0, 0, 0, 0, 0, 0, ()⟩, 0, 0⟩

/-- The controller's state with the share. -/
def sharing (share : Int64) : ControllerState Unit := ⟨share, 0, 0, 0, 0, 0, 0, 0, 0, 0, ()⟩

/-- Two processes take turns, each publishing within the period. -/
def takingTurns : List (ElectionStep Unit 2) :=
  [.look 0, .test 0 true, .look 1, .test 1 false, .swap 0, .swap 1, .load 0, .tick 50000000,
    .control 0 (sharing 10), .publish 0, .tick 100000000, .look 0, .look 1, .test 0 true,
    .test 1 true, .swap 1, .swap 0, .load 1, .control 1 (sharing 20), .publish 1]

theorem takingTurns_exclude : Along Election.step OneController (.start 200000000 freshDev) takingTurns ∧
      smCtlLoad (run Election.step (.start 200000000 freshDev) takingTurns).dev = sharing 20 :=
  ⟨timely_winners_exclude 200000000 freshDev takingTurns (by decide), by decide⟩

/-- The first winner is held up for a period between its load and its publish. -/
def stalledWinner : List (ElectionStep Unit 2) :=
  [.look 0, .test 0 true, .swap 0, .load 0, .tick 90000000, .look 1, .test 1 true, .swap 1, .load 1,
    .control 0 (sharing 10), .publish 0, .control 1 (sharing 20), .publish 1]

/-- Both winners load the state from before the first, and the second overwrites what the first
published. -/
theorem stalled_winner_overtaken :
    let s := run Election.step (.start 200000000 freshDev) (stalledWinner.take 9)
    s.phase 0 = .loaded 1 200000000 (sharing 0) ∧ s.phase 1 = .loaded 2 290000000 (sharing 0) ∧
      (run Election.step (.start 200000000 freshDev) stalledWinner).log =
        [(2, sharing 20), (1, sharing 10), (0, sharing 0)] ∧
      ¬ Along Election.step OneController (.start 200000000 freshDev) stalledWinner := by
  decide

end VGpuManager.Library

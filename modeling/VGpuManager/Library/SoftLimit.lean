import VGpuManager.Library.Watcher

/-!
# The elastic limit (`cuda_hook.c`: `utilization_watcher`, soft mode)

In soft mode the limit moves between `hard_core` and `soft_core`. A device of our own takes `soft_core`, a new
competitor or the loss of exclusivity sets the limit back to `hard_core`; in all other cycles the limit of the cycle
before is kept, but for a step every `SOFT_ADJUST_INTERVAL` cycles. The bounds are read anew in every cycle.
-/

namespace VGpuManager.Library

open Foundation

/-- The limit lies between the two bounds of the cycle. -/
def CycleInput.Within (i : CycleInput) (limit : Int) : Prop := i.hardCore ≤ limit ∧ limit ≤ i.softCore
  deriving Decidable

/-- A cycle of a soft limit with proper bounds. -/
def CycleInput.Soft (i : CycleInput) : Prop := i.hardLimit = false ∧ i.hardCore ≤ i.softCore

namespace Controller

variable {cfg : WatcherConfig} {s : Controller} {i : CycleInput}

/-- The cycle sets the limit, whatever it was: to `soft_core` on a device of our own, else to `hard_core` for a new
competitor or lost exclusivity. -/
def Resets (cfg : WatcherConfig) (s : Controller) (i : CycleInput) : Prop :=
  (debounced cfg s i).exclusive = true ∨ s.preExternal < i.externalProcessNum ∨
    (debounced cfg s i).lostExclusivity = true

/-- What the debounced exclusivity has to do with the limit: nothing. -/
structure SameRamp (s t : Controller) : Prop where
  upLimit : t.upLimit = s.upLimit
  isCnt : t.isCnt = s.isCnt
  avgSysFree : t.avgSysFree = s.avgSysFree

theorem SameRamp.ramp {t : Controller} (h : SameRamp s t) (cfg : WatcherConfig) (i : CycleInput) :
    (ramp cfg t i).upLimit = (ramp cfg s i).upLimit := by
  unfold Controller.ramp adjustLimit
  dsimp only
  rw [h.upLimit, h.isCnt, h.avgSysFree]
  split <;> rfl

theorem debounced_sameRamp (cfg : WatcherConfig) (s : Controller) (i : CycleInput) :
    SameRamp s (debounced cfg s i) ∧ (debounced cfg s i).preExternal = s.preExternal :=
  ⟨⟨rfl, rfl, rfl⟩, rfl⟩

/-- The first cycle after a reset does not move the limit. -/
theorem ramp_reset (hlimit : s.upLimit = i.hardCore) (hcnt : s.isCnt = 0) : (ramp cfg s i).upLimit = i.hardCore := by
  unfold ramp
  rw [hcnt, ← hlimit]
  rfl

/-- The ramp stays in the bounds. -/
theorem ramp_within (hi : i.Soft) (h : i.Within s.upLimit) : i.Within (ramp cfg s i).upLimit := by
  obtain ⟨-, hle⟩ := hi
  obtain ⟨hlo, hhi⟩ := h
  unfold ramp adjustLimit
  dsimp only
  split
  · unfold CycleInput.Within
    dsimp only
    split_ifs <;> omega
  · exact ⟨hlo, hhi⟩

/-- **The limit after a cycle**: one of the bounds if the cycle sets it, else what the ramp makes of the old one. -/
theorem adjust_upLimit (cfg : WatcherConfig) (s : Controller) (i : CycleInput) :
    (Resets cfg s i → (s.adjust cfg i).upLimit = i.hardCore ∨ (s.adjust cfg i).upLimit = i.softCore) ∧
      (¬ Resets cfg s i → (s.adjust cfg i).upLimit = (ramp cfg s i).upLimit) := by
  obtain ⟨hsame, hpre⟩ := debounced_sameRamp cfg s i
  unfold Resets adjust
  rw [← hpre]
  generalize debounced cfg s i = t at hsame
  have hexcl : (t.noticeExternal i).exclusive = t.exclusive ∧
      (t.noticeExternal i).lostExclusivity = t.lostExclusivity := by
    unfold noticeExternal
    split <;> exact ⟨rfl, rfl⟩
  dsimp only
  rw [hexcl.1]
  cases hown : t.exclusive with
  | true => exact ⟨fun _ => .inr rfl, fun h => absurd (.inl rfl) h⟩
  | false =>
    rw [if_neg Bool.false_ne_true]
    unfold giveBack
    rw [hexcl.2]
    cases hlost : t.lostExclusivity with
    | true => exact ⟨fun _ => .inl (ramp_reset rfl rfl), fun h => absurd (.inr (.inr rfl)) h⟩
    | false =>
      rw [if_neg Bool.false_ne_true]
      by_cases hnew : t.preExternal < i.externalProcessNum
      · refine ⟨fun _ => .inl ?_, fun h => absurd (.inr (.inl hnew)) h⟩
        unfold noticeExternal
        rw [if_pos hnew]
        exact ramp_reset rfl rfl
      · refine ⟨fun h => ?_, fun _ => ?_⟩
        · simp [hnew] at h
        · have hkept : SameRamp s (t.noticeExternal i) := by
            rw [noticeExternal, if_neg hnew]
            exact ⟨hsame.upLimit, hsame.isCnt, hsame.avgSysFree⟩
          exact hkept.ramp cfg i

/-! ## Runs -/

/-- The controller runs in this cycle. -/
def Runs (s : Controller) (i : CycleInput) : Prop := i.valid = true ∨ s.bucket < 0 ∨ i.throttled = true

/-- After the cycle, if it is one of the controller, the limit lies in the bounds it read. -/
def LimitWithin (cfg : WatcherConfig) (s : Controller) (i : CycleInput) : Prop :=
  s.Runs i → i.Within (s.cycle cfg i).upLimit

theorem heed_limit (s : Controller) (i : CycleInput) : (s.heed i).1.upLimit = s.upLimit ∧
    (s.heed i).2.hardCore = i.hardCore ∧ (s.heed i).2.softCore = i.softCore ∧ (s.heed i).2.hardLimit = i.hardLimit := by
  unfold heed see
  split_ifs <;> exact ⟨rfl, rfl, rfl, rfl⟩

/-- A cycle of the controller leaves the adjusted limit. -/
theorem cycle_upLimit (hi : i.hardLimit = false) (hruns : s.Runs i) :
    (s.cycle cfg i).upLimit = ((s.heed i).1.adjust cfg (s.heed i).2).upLimit := by
  obtain ⟨-, -, -, hmode⟩ := heed_limit s i
  unfold Runs at hruns
  rw [cycle, if_pos hruns, control, limited, hmode, hi]
  rfl

/-- A cycle that sets the limit sets it inside the bounds. -/
theorem limitWithin_of_resets (hi : i.Soft) (hset : Resets cfg (s.heed i).1 (s.heed i).2) : LimitWithin cfg s i := by
  obtain ⟨hmode, hle⟩ := hi
  obtain ⟨-, hhard, hsoft, -⟩ := heed_limit s i
  intro hruns
  rw [cycle_upLimit hmode hruns]
  rcases (adjust_upLimit cfg (s.heed i).1 (s.heed i).2).1 hset with h | h
  · rw [h, hhard]
    exact ⟨le_rfl, hle⟩
  · rw [h, hsoft]
    exact ⟨hle, le_rfl⟩

/-- A limit inside the bounds of the cycle is inside after it as well. -/
theorem limitWithin_of_within (hi : i.Soft) (h : i.Within s.upLimit) : LimitWithin cfg s i := by
  by_cases hset : Resets cfg (s.heed i).1 (s.heed i).2
  · exact limitWithin_of_resets hi hset
  obtain ⟨hlimit, hhard, hsoft, hmode⟩ := heed_limit s i
  intro hruns
  have hin : (s.heed i).2.Within (ramp cfg (s.heed i).1 (s.heed i).2).upLimit :=
    ramp_within ⟨hmode.trans hi.1, by rw [hhard, hsoft]; exact hi.2⟩ (by
      rw [CycleInput.Within, hlimit, hhard, hsoft]
      exact h)
  rw [cycle_upLimit hi.1 hruns, (adjust_upLimit cfg _ _).2 hset]
  rwa [CycleInput.Within, hhard, hsoft] at hin

/-- The second configuration has the wider bounds. -/
def Widens (i j : CycleInput) : Prop := j.hardCore ≤ i.hardCore ∧ i.softCore ≤ j.softCore

/-- If the configurations only widen the bounds, the limit stays inside them. -/
theorem along_of_widening (cfg : WatcherConfig) : ∀ {es : List CycleInput} {s : Controller} {c : CycleInput},
    (∀ i ∈ es, i.Soft) → c.Within s.upLimit → List.IsChain Widens (c :: es) →
      Along (cycle cfg) (LimitWithin cfg) s es
  | [], _, _, _, _, _ => trivial
  | i :: es, s, c, hsoft, hin, hchain => by
    obtain ⟨hwider, hchain⟩ := List.isChain_cons_cons.mp hchain
    have hstart : i.Within s.upLimit := ⟨hwider.1.trans hin.1, hin.2.trans hwider.2⟩
    have hwithin : LimitWithin cfg s i := limitWithin_of_within (hsoft i (.head _)) hstart
    refine ⟨hwithin, along_of_widening cfg (fun j hj => hsoft j (.tail _ hj)) ?_ hchain⟩
    by_cases hruns : s.Runs i
    · exact hwithin hruns
    · rwa [show s.cycle cfg i = s from if_neg hruns]

/-- A watcher under the limit that counts one process of another container and no exclusivity. -/
def sharing (limit : Int) : Controller :=
  ⟨⟨0, 0, 0, 0, 0, false, false, 0, 0, 0, []⟩, 0, 0, 0, false, 0, 0, 0, limit, 0, 0, 1, false, 0, false⟩

/-- That process goes on using the device. -/
def busyCycle (cfg : WatcherConfig) (hard soft : Int) : CycleInput :=
  ⟨true, 1000, 0, cfg.exclExternalUtilThreshold, 1, 1000, 1000, false, false, hard, soft⟩

/-- Such a cycle leaves the limit alone. -/
theorem busyCycle_keeps (cfg : WatcherConfig) (limit hard soft : Int) :
    ((sharing limit).cycle cfg (busyCycle cfg hard soft)).upLimit = limit := by
  rw [cycle_upLimit rfl (.inl rfl), (adjust_upLimit cfg _ _).2]
  · rfl
  · have hheed : (sharing limit).heed (busyCycle cfg hard soft) =
        ((sharing limit).see (busyCycle cfg hard soft), busyCycle cfg hard soft) := rfl
    have hraw : exclusiveRaw cfg (busyCycle cfg hard soft) = false := by simp [exclusiveRaw, busyCycle]
    rw [hheed]
    unfold Resets debounced
    rw [hraw]
    simp [see, sharing, busyCycle, Debounce.call]

/-- **When the elastic limit lies between the bounds.** From every limit inside the old bounds, and for all
readings, it lies inside the new ones after a cycle exactly if the update widens the bounds. In a run it does
after every cycle if it starts inside the bounds `c` and every update widens them. -/
theorem soft_limit_within_iff (cfg : WatcherConfig) :
    (∀ c d : CycleInput, c.hardCore ≤ c.softCore → d.hardCore ≤ d.softCore → (Widens c d ↔
      ∀ s i, i.Soft → i.hardCore = d.hardCore → i.softCore = d.softCore → c.Within s.upLimit → LimitWithin cfg s i)) ∧
    ∀ s c es, (∀ i ∈ es, i.Soft) → c.Within s.upLimit → List.IsChain Widens (c :: es) →
      Along (cycle cfg) (LimitWithin cfg) s es := by
  refine ⟨fun c d hc hd => ⟨fun hwider s i hi hhard hsoft hin => ?_, fun h => ?_⟩,
    fun s c es hsoft hin hchain => along_of_widening cfg hsoft hin hchain⟩
  · refine limitWithin_of_within hi ⟨?_, ?_⟩
    · exact hhard ▸ hwider.1.trans hin.1
    · exact hsoft ▸ hin.2.trans hwider.2
  · have hkept (limit : Int) (hin : c.Within limit) : d.Within limit := by
      have := h (sharing limit) (busyCycle cfg d.hardCore d.softCore) ⟨rfl, hd⟩ rfl rfl hin (.inl rfl)
      rwa [busyCycle_keeps] at this
    exact ⟨(hkept c.hardCore ⟨le_rfl, hc⟩).1, (hkept c.softCore ⟨hc, le_rfl⟩).2⟩

/-- A device with one multiprocessor. -/
def softConfig : WatcherConfig := ⟨1024, 1, false, 0, 0, 20, 3, 5, by decide, by decide⟩

/-- The bounds are widened after the first cycle. -/
theorem soft_limit_within_two : Along (cycle softConfig) (LimitWithin softConfig) (sharing 50)
    [busyCycle softConfig 50 80, busyCycle softConfig 40 80] :=
  (soft_limit_within_iff softConfig).2 (sharing 50) (busyCycle softConfig 50 80) _
    (fun i hi => by simp at hi; rcases hi with rfl | rfl <;> exact ⟨rfl, by decide⟩) (by decide)
    (by unfold Widens; decide)

/-- **An update leaves the limit behind.** The bounds fall from 50 and 80 to 20 and 30, and the limit stays at 50. -/
theorem update_leaves_limit_behind : (busyCycle softConfig 50 80).Soft ∧ (busyCycle softConfig 20 30).Soft ∧
      ((sharing 50).cycle softConfig (busyCycle softConfig 50 80)).upLimit = 50 ∧
      (((sharing 50).cycle softConfig (busyCycle softConfig 50 80)).cycle softConfig
        (busyCycle softConfig 20 30)).upLimit = 50 :=
  ⟨⟨rfl, by decide⟩, ⟨rfl, by decide⟩, by decide +kernel, by decide +kernel⟩

end Controller

end VGpuManager.Library

import Mathlib.Data.Finset.Lattice.Fold
import Mathlib.Data.Fintype.Basic
import VGpuManager.Foundation.Runs

/-!
# Executions that go on for ever

An execution is an infinite sequence of states joined by events. What must happen some time is
shown from what fairness promises: the helpful event of a state comes, and until then the state
stays as it is as far as it matters (`Execution.eventually_of_helpful`).
-/

namespace VGpuManager.Foundation

open List

variable {σ ε : Type} {step : σ → ε → σ}

/-- The states `state 0, state 1, …`, the `n`th event leading from the `n`th to the next. -/
structure Execution (step : σ → ε → σ) where
  state : ℕ → σ
  event : ℕ → ε
  next : ∀ n, state (n + 1) = step (state n) (event n)

namespace Execution

variable {n : ℕ} {P : σ → Prop} {es : List ε}

section

variable (R : Execution step)

include R

/-- What every step from `n` on keeps holds from `n` on. -/
theorem always_from {I : σ → Prop} (hn : I (R.state n))
    (hstep : ∀ m, n ≤ m → I (R.state m) → I (R.state (m + 1))) : ∀ m, n ≤ m → I (R.state m) := by
  intro m hm
  induction hm with
  | refl => exact hn
  | step hm ih => exact hstep _ hm ih

variable (H : σ → ε → Prop)

/-- **Progress.** `P` lasts until the helpful event `H`, which comes some time and leads from `P` to
`Q`. -/
theorem eventually_of_helpful {Q : σ → Prop} (hn : P (R.state n)) (hfair : ∃ m, n ≤ m ∧ H (R.state m) (R.event m))
    (hhelp : ∀ m, n ≤ m → P (R.state m) → H (R.state m) (R.event m) → Q (R.state (m + 1)))
    (hlasts : ∀ m, n ≤ m → P (R.state m) → ¬ H (R.state m) (R.event m) → P (R.state (m + 1))) :
    ∃ m, n ≤ m ∧ Q (R.state m) := by
  by_contra hnever
  push Not at hnever
  have hlasting : ∀ m, n ≤ m → P (R.state m) := by
    refine R.always_from hn fun m hm hP => hlasts m hm hP fun hh => ?_
    exact hnever (m + 1) (Nat.le_succ_of_le hm) (hhelp m hm hP hh)
  obtain ⟨m, hm, hh⟩ := hfair
  exact hnever (m + 1) (Nat.le_succ_of_le hm) (hhelp m hm (hlasting m hm) hh)

/-- What lasts until the event `H` and still comes to an end has met it. -/
theorem comes_of_ends {N : ℕ} (hn : P (R.state n))
    (hlasts : ∀ m, n ≤ m → P (R.state m) → ¬ H (R.state m) (R.event m) → P (R.state (m + 1)))
    (hends : ∀ m, N ≤ m → ¬ P (R.state m)) : ∃ m, n ≤ m ∧ H (R.state m) (R.event m) := by
  by_contra hnever
  push Not at hnever
  have hlasting := R.always_from hn fun m hm hP => hlasts m hm hP (hnever m hm)
  exact hends (max n N) (le_max_right n N) (hlasting (max n N) (le_max_left n N))

/-- A measure that no step from `n` on lowers and that rises again and again passes every bound. -/
theorem climbs (f : σ → ℤ) (hmono : ∀ m, n ≤ m → f (R.state m) ≤ f (R.state (m + 1)))
    (hrises : ∀ m, n ≤ m → ∃ p, m ≤ p ∧ f (R.state p) < f (R.state (p + 1))) :
    ∀ k : ℕ, ∃ m, n ≤ m ∧ f (R.state n) + k ≤ f (R.state m) := by
  intro k
  induction k with
  | zero => exact ⟨n, le_rfl, by simp⟩
  | succ k ih =>
    obtain ⟨m, hm, hk⟩ := ih
    obtain ⟨p, hp, hrise⟩ := hrises m hm
    have hstays : f (R.state m) ≤ f (R.state p) := by
      refine R.always_from (I := fun s => f (R.state m) ≤ f s) (Int.le_refl _) ?_ p hp
      exact fun q hq h => Int.le_trans h (hmono q (le_trans hm hq))
    exact ⟨p + 1, le_trans hm (Nat.le_succ_of_le hp), by omega⟩

/-- **Progress in stages.** While `P` lasts the helpful event `H` comes again and again; each time it
lowers the measure or leads to `Q`, and no other event raises the measure. -/
theorem eventually_of_descent {Q : σ → Prop} (μ : σ → ℕ) (hn : P (R.state n))
    (hfair : ∀ m, n ≤ m → P (R.state m) → ∃ p, m ≤ p ∧ H (R.state p) (R.event p))
    (hhelp : ∀ m, n ≤ m → P (R.state m) → H (R.state m) (R.event m) →
      Q (R.state (m + 1)) ∨ P (R.state (m + 1)) ∧ μ (R.state (m + 1)) < μ (R.state m))
    (hlasts : ∀ m, n ≤ m → P (R.state m) → ¬ H (R.state m) (R.event m) →
      Q (R.state (m + 1)) ∨ P (R.state (m + 1)) ∧ μ (R.state (m + 1)) ≤ μ (R.state m)) :
    ∃ m, n ≤ m ∧ Q (R.state m) := by
  by_contra hnever
  push Not at hnever
  have hnext : ∀ m, n ≤ m → ¬ Q (R.state (m + 1)) := fun m hm => hnever (m + 1) (Nat.le_succ_of_le hm)
  have hstep : ∀ m, n ≤ m → P (R.state m) → P (R.state (m + 1)) ∧ μ (R.state (m + 1)) ≤ μ (R.state m) := by
    intro m hm hP
    by_cases hH : H (R.state m) (R.event m)
    · obtain ⟨hP', hlt⟩ := (hhelp m hm hP hH).resolve_left (hnext m hm)
      exact ⟨hP', Nat.le_of_lt hlt⟩
    · exact (hlasts m hm hP hH).resolve_left (hnext m hm)
  have hlasting := R.always_from hn fun m hm hP => (hstep m hm hP).1
  -- the measure would pass below zero
  obtain ⟨m, -, hlow⟩ := R.climbs (fun s => -(μ s : ℤ))
    (fun m hm => by have h := (hstep m hm (hlasting m hm)).2; omega)
    (fun m hm => by
      obtain ⟨p, hp, hH⟩ := hfair m hm (hlasting m hm)
      have hnp := le_trans hm hp
      obtain ⟨-, hlt⟩ := (hhelp p hnp (hlasting p hnp) hH).resolve_left (hnext p hnp)
      exact ⟨p, hp, by omega⟩)
    (μ (R.state n) + 1)
  omega

/-- What each of finitely many parties comes to for good they all come to. -/
theorem eventually_all {k : ℕ} {Q : Fin k → σ → Prop} (h : ∀ i, ∃ N, ∀ m, N ≤ m → Q i (R.state m)) (n : ℕ) :
    ∃ N, n ≤ N ∧ ∀ m, N ≤ m → ∀ i, Q i (R.state m) := by
  choose N hN using h
  refine ⟨max n (Finset.univ.sup N), le_max_left _ _, fun m hm i => hN i m ?_⟩
  exact le_trans (Finset.le_sup (Finset.mem_univ i)) (le_trans (le_max_right _ _) hm)

/-- What holds at `n` and is kept by every event but `H` holds when `H` next comes. -/
theorem holds_at_next (H : ε → Prop) (hn : P (R.state n)) (hcomes : ∃ m, n ≤ m ∧ H (R.event m))
    (hkeeps : ∀ m, n ≤ m → P (R.state m) → ¬ H (R.event m) → P (R.state (m + 1))) :
    ∃ m, n ≤ m ∧ H (R.event m) ∧ P (R.state m) := by
  classical
  obtain ⟨hm, hH⟩ := Nat.find_spec hcomes
  refine ⟨Nat.find hcomes, hm, hH, ?_⟩
  -- none of the events before it is `H`
  have hbefore : ∀ k, n ≤ k → k ≤ Nat.find hcomes → P (R.state k) := by
    intro k hk
    induction hk with
    | refl => exact fun _ => hn
    | step hk ih =>
      intro hle
      refine hkeeps _ hk (ih (Nat.le_of_succ_le hle)) fun hH' => ?_
      exact Nat.find_min hcomes (Nat.lt_of_succ_le hle) ⟨hk, hH'⟩
  exact hbefore _ hm le_rfl

/-- An execution in which every step lowers a measure or changes nothing comes to rest. -/
theorem rests (μ : σ → ℕ) (hstep : ∀ m, n ≤ m → R.state (m + 1) = R.state m ∨ μ (R.state (m + 1)) < μ (R.state m)) :
    ∃ N, n ≤ N ∧ ∀ m, N ≤ m → R.state m = R.state N := by
  induction hk : μ (R.state n) using Nat.strong_induction_on generalizing n with
  | _ k ih =>
    by_cases hrest : ∀ m, n ≤ m → R.state m = R.state n
    · exact ⟨n, le_rfl, hrest⟩
    · -- the first step that is not idle lowers the measure
      obtain ⟨m, hm, hlower⟩ : ∃ m, n ≤ m ∧ μ (R.state (m + 1)) < μ (R.state n) := by
        by_contra hnever
        push Not at hnever
        refine hrest fun m hm => R.always_from (I := fun s => s = R.state n) rfl ?_ m hm
        intro m hm heq
        rcases hstep m hm with hsame | hlt
        · exact hsame.trans heq
        · rw [heq] at hlt
          exact absurd (hnever m hm) (by omega)
      obtain ⟨N, hN, hrest⟩ := ih _ (hk ▸ hlower) (fun p hp => hstep p (le_trans hm (Nat.le_of_succ_le hp))) rfl
      exact ⟨N, le_trans hm (Nat.le_of_succ_le hN), hrest⟩

end

/-- The execution with the given events. -/
def ofEvents (step : σ → ε → σ) (start : σ) (event : ℕ → ε) : Execution step where
  state := Nat.rec start fun n s => step s (event n)
  event := event
  next := fun _ => rfl

/-- The events of the list, and then `idle` for ever. -/
def ofList (step : σ → ε → σ) (start : σ) (es : List ε) (idle : ε) : Execution step :=
  ofEvents step start fun n => es.getD n idle

variable (step) (start : σ)

theorem ofList_event (idle : ε) (hn : n < es.length) : (ofList step start es idle).event n = es.get ⟨n, hn⟩ := by
  show es.getD n idle = _
  rw [getD_eq_getElem?_getD, getElem?_eq_getElem hn]
  rfl

theorem ofList_event_idle (idle : ε) (hn : es.length ≤ n) : (ofList step start es idle).event n = idle := by
  show es.getD n idle = idle
  rw [getD_eq_getElem?_getD, getElem?_eq_none hn]
  rfl

theorem ofList_event_mem (es : List ε) (idle : ε) (n : ℕ) :
    (ofList step start es idle).event n ∈ es ∨ (ofList step start es idle).event n = idle := by
  rcases Nat.lt_or_ge n es.length with hn | hn
  · rw [ofList_event step start idle hn]
    exact .inl (get_mem es _)
  · exact .inr (ofList_event_idle step start idle hn)

theorem ofList_state (es : List ε) (idle : ε) :
    ∀ n, n ≤ es.length → (ofList step start es idle).state n = run step start (es.take n) := by
  intro n hn
  induction n with
  | zero => rw [take_zero]; rfl
  | succ n ih =>
    have htake : es.take (n + 1) = es.take n ++ [es.get ⟨n, hn⟩] :=
      take_succ_eq_append_getElem hn
    rw [(ofList step start es idle).next n, ih (Nat.le_of_succ_le hn), ofList_event step start idle hn, htake]
    show step _ _ = (es.take n ++ [es.get ⟨n, hn⟩]).foldl step start
    rw [foldl_append]
    rfl

variable {step}

/-- What holds along the list and of idling after it holds at every step. -/
theorem ofList_along (allowed : σ → ε → Prop) {start : σ} {idle : ε} (halong : Along step allowed start es)
    (hidle : ∀ n, es.length ≤ n → allowed ((ofList step start es idle).state n) idle) (n : ℕ) :
    allowed ((ofList step start es idle).state n) ((ofList step start es idle).event n) := by
  rcases Nat.lt_or_ge n es.length with hn | hn
  · rw [ofList_state step start es idle n (Nat.le_of_lt hn), ofList_event step start idle hn]
    exact halong.at hn
  · rw [ofList_event_idle step start idle hn]
    exact hidle n hn

end Execution

end VGpuManager.Foundation

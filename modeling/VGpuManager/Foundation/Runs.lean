import Mathlib.Order.Basic

/-!
# Runs of a step function

A system is a state type with a step function over events. A run is the state after a list of
events; a condition on the events is a predicate on an event and the state it meets.
-/

namespace VGpuManager.Foundation

variable {σ ε : Type} {step : σ → ε → σ} {allowed : σ → ε → Prop}

/-- The state after the events. -/
def run (step : σ → ε → σ) (s : σ) (es : List ε) : σ := es.foldl step s

/-- Every event is allowed in the state it meets. -/
def Along (step : σ → ε → σ) (allowed : σ → ε → Prop) : σ → List ε → Prop
  | _, [] => True
  | s, e :: es => allowed s e ∧ Along step allowed (step s e) es

instance Along.decidable [h : ∀ s e, Decidable (allowed s e)] :
    ∀ (s : σ) (es : List ε), Decidable (Along step allowed s es)
  | _, [] => isTrue trivial
  | s, e :: es =>
    match h s e, Along.decidable (step s e) es with
    | isTrue he, isTrue hes => isTrue ⟨he, hes⟩
    | isFalse he, _ => isFalse fun ha => he ha.1
    | _, isFalse hes => isFalse fun ha => hes ha.2

theorem Along.of_forall (h : ∀ s e, allowed s e) : ∀ (es : List ε) (s : σ), Along step allowed s es
  | [], _ => trivial
  | e :: es, s => ⟨h s e, Along.of_forall h es (step s e)⟩

theorem Along.and {also : σ → ε → Prop} : ∀ {es : List ε} {s : σ}, Along step allowed s es →
    Along step also s es → Along step (fun s e => allowed s e ∧ also s e) s es
  | [], _, _, _ => trivial
  | _ :: _, _, h, k => ⟨⟨h.1, k.1⟩, Along.and h.2 k.2⟩

/-- The `n`th event is allowed in the state the ones before it lead to. -/
theorem Along.at : ∀ {es : List ε} {s : σ} {n : Nat}, Along step allowed s es → (hn : n < es.length) →
    allowed (run step s (es.take n)) (es.get ⟨n, hn⟩)
  | _ :: _, _, 0, h, _ => h.1
  | _ :: _, _, _ + 1, h, hn => Along.at h.2 (Nat.lt_of_succ_lt_succ hn)

/-- Along a list: at every event, in the state the ones before it lead to. -/
theorem along_iff_splits : ∀ {es : List ε} {s : σ}, Along step allowed s es ↔
    ∀ xs e ys, es = xs ++ e :: ys → allowed (run step s xs) e
  | [], s => ⟨fun _ xs e ys h => by simp at h, fun _ => trivial⟩
  | e :: es, s => by
    constructor
    · intro ⟨he, hes⟩ xs e' ys heq
      match xs, heq with
      | [], heq => exact (List.cons.inj heq).1 ▸ he
      | x :: xs, heq =>
        obtain ⟨rfl, htail⟩ := List.cons.inj heq
        exact along_iff_splits.mp hes xs e' ys htail
    · intro h
      refine ⟨h [] e es rfl, along_iff_splits.mpr fun xs e' ys heq => ?_⟩
      exact h (e :: xs) e' ys (by rw [heq, List.cons_append])

theorem run_append (s : σ) (xs ys : List ε) : run step s (xs ++ ys) = run step (run step s xs) ys :=
  List.foldl_append

variable {I : σ → Prop} {Q : σ → ε → Prop}

/-- **Invariants.** What every allowed step keeps holds after every run of allowed steps. -/
theorem run_invariant (hstep : ∀ s e, I s → allowed s e → I (step s e)) :
    ∀ (es : List ε) {s : σ}, I s → Along step allowed s es → I (run step s es)
  | [], _, h, _ => h
  | e :: es, s, h, ha => run_invariant hstep es (hstep s e h ha.1) ha.2

/-- **Safety at every step.** What the invariant implies of an allowed step holds all along. -/
theorem along_of_invariant (hstep : ∀ s e, I s → allowed s e → I (step s e))
    (hsafe : ∀ s e, I s → allowed s e → Q s e) :
    ∀ (es : List ε) {s : σ}, I s → Along step allowed s es → Along step Q s es
  | [], _, _, _ => trivial
  | e :: es, s, h, ha =>
    ⟨hsafe s e h ha.1, along_of_invariant hstep hsafe es (hstep s e h ha.1) ha.2⟩

/-- **An invariant and its exact condition.** If an allowed step keeps the invariant just when `Q`
holds of it, a run keeps it all along just when `Q` holds all along. -/
theorem along_iff_of_invariant (hstep : ∀ s e, I s → allowed s e → (I (step s e) ↔ Q s e)) :
    ∀ (es : List ε) {s : σ}, I s → Along step allowed s es →
      (Along step (fun s e => I (step s e)) s es ↔ Along step Q s es)
  | [], _, _, _ => Iff.rfl
  | e :: es, s, h, ha => by
    constructor
    · intro ⟨hkept, hrest⟩
      exact ⟨(hstep s e h ha.1).mp hkept, (along_iff_of_invariant hstep es hkept ha.2).mp hrest⟩
    · intro ⟨hq, hrest⟩
      have hkept := (hstep s e h ha.1).mpr hq
      exact ⟨hkept, (along_iff_of_invariant hstep es hkept ha.2).mpr hrest⟩

end VGpuManager.Foundation

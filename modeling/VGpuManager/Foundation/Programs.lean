import Mathlib.Order.Basic

/-!
# Programs that may fail on the way

A program acts on a state and may stop with an error after any of its actions; what it did to the
state until then stays done. `Ensures P m Q E`: from a state with `P`, the program returns a value
and a state with `Q`, or stops in a state with `E`. `Preserves I m` is the case of an invariant: `I`
holds wherever the program returns or stops. `Ends` compares a program with a function that hands its
state on. The rules follow the way programs are put together.
-/

namespace VGpuManager.Foundation

/-- A program over the states `σ` with errors `ε`. -/
abbrev Prog (ε σ α : Type) := ExceptT ε (StateM σ) α

variable {ε σ α β : Type} {I P E : σ → Prop}

/-- The state in which the program returns or stops. -/
def Prog.exec (m : Prog ε σ α) (s : σ) : σ := (m.run.run s).2

/-- The program, if the condition holds. -/
def Prog.onlyIf (c : Bool) (m : Prog ε σ Unit) : Prog ε σ Unit := if c then m else Pure.pure ()

/-- Stop unless the condition holds. -/
def Prog.require (c : Bool) (e : ε) : Prog ε σ Unit := if c then Pure.pure () else throw e

/-- One operation on the state; where it fails, the program stops. -/
def Prog.attempt (e : ε) (op : σ → Option σ) : Prog ε σ PUnit := do
  match op (← get) with
  | some s => set s
  | none => throw e

/-- What holds where the program returns (`Q`, with its value) and where it stops (`E`). -/
def Ensures (P : σ → Prop) (m : Prog ε σ α) (Q : α → σ → Prop) (E : σ → Prop) : Prop :=
  ∀ s, P s → match (m.run.run s).1 with
    | .ok a => Q a (m.exec s)
    | .error _ => E (m.exec s)

/-- `I` holds wherever the program returns or stops, if it held before. -/
def Preserves (I : σ → Prop) (m : Prog ε σ α) : Prop := Ensures I m (fun _ => I) I

variable {f : α → Prog ε σ β} {m : Prog ε σ α}

section Ensures

variable {Q : α → σ → Prop}

theorem Ensures.weaken {P' E' : σ → Prop} {Q' : α → σ → Prop}
    (h : Ensures P m Q E) (hP : ∀ s, P' s → P s) (hQ : ∀ a s, Q a s → Q' a s)
    (hE : ∀ s, E s → E' s) : Ensures P' m Q' E' := by
  intro s hs
  have hm := h s (hP s hs)
  cases hr : (m.run.run s).1 with
  | ok a =>
    rw [hr] at hm
    exact hQ a _ hm
  | error e =>
    rw [hr] at hm
    exact hE _ hm

/-- What holds wherever the program returns or stops. -/
theorem Ensures.exec (h : Ensures P m (fun _ => E) E) {s : σ} (hs : P s) : E (m.exec s) := by
  have hm := h s hs
  cases hr : (m.run.run s).1 with
  | ok _ | error _ => rwa [hr] at hm

theorem Ensures.pure {a : α} (h : ∀ s, P s → Q a s) : Ensures P (Pure.pure a : Prog ε σ α) Q E := h

theorem Ensures.throw {e : ε} (h : ∀ s, P s → E s) : Ensures P (throw e : Prog ε σ α) Q E := h

theorem Prog.run_bind (m : Prog ε σ α) (f : α → Prog ε σ β) (s : σ) : (m >>= f).run.run s =
      match m.run.run s with
      | (.ok a, t) => (f a).run.run t
      | (.error e, t) => (.error e, t) := by
  have hbind : (m >>= f).run.run s = StateT.run (match (m.run.run s).1 with
        | .ok a => (f a).run
        | .error e => Pure.pure (.error e)) (m.run.run s).2 := rfl
  rw [hbind]
  rcases m.run.run s with ⟨_ | _, t⟩ <;> rfl

theorem Ensures.bind {R : β → σ → Prop}
    (hm : Ensures P m Q E) (hf : ∀ a, Ensures (Q a) (f a) R E) : Ensures P (m >>= f) R E := by
  intro s hs
  have hs' := hm s hs
  unfold Prog.exec at hs' ⊢
  rw [Prog.run_bind]
  rcases hr : m.run.run s with ⟨e | a, t⟩
  · rw [hr] at hs'
    exact hs'
  · rw [hr] at hs'
    exact hf a t hs'

/-- What is known of the state is known of the value that was read. -/
theorem Ensures.get_bind {f : σ → Prog ε σ α} (hf : ∀ s, P s → Ensures (fun t => t = s) (f s) Q E) :
    Ensures P (get >>= f) Q E := fun s h => hf s h s rfl

theorem Ensures.modify {f : σ → σ} {Q : PUnit → σ → Prop} (h : ∀ s, P s → Q ⟨⟩ (f s)) :
    Ensures P (modify f : Prog ε σ PUnit) Q E := h

theorem Ensures.attempt {e : ε} {op : σ → Option σ} {Q : PUnit → σ → Prop} (hE : ∀ s, P s → E s)
    (hop : ∀ s t, P s → op s = some t → Q ⟨⟩ t) : Ensures P (Prog.attempt e op) Q E := by
  refine .get_bind fun s hs => ?_
  cases hstep : op s with
  | none => exact .throw fun _ ht => ht ▸ hE s hs
  | some t => exact .modify fun _ _ => hop s t hs hstep

theorem Ensures.ite {c : Prop} [Decidable c] {n : Prog ε σ α} (hm : c → Ensures P m Q E)
    (hn : ¬ c → Ensures P n Q E) : Ensures P (if c then m else n) Q E := by
  split
  · exact hm ‹_›
  · exact hn ‹_›

/-- After the check the condition holds. -/
theorem Ensures.require_bind {c : Bool} {e : ε} {f : Unit → Prog ε σ α} (hE : ∀ s, P s → E s)
    (hf : c = true → Ensures P (f ()) Q E) : Ensures P (Prog.require c e >>= f) Q E := by
  cases c with
  | false => exact hE
  | true => exact hf rfl

end Ensures

/-! ## Invariants -/

theorem Preserves.exec (h : Preserves I m) {s : σ} (hs : I s) : I (m.exec s) :=
  Ensures.exec h hs

theorem Preserves.pure (a : α) : Preserves I (Pure.pure a : Prog ε σ α) := Ensures.pure fun _ h => h

theorem Preserves.throw (e : ε) : Preserves I (throw e : Prog ε σ α) := Ensures.throw fun _ h => h

theorem Preserves.bind (hm : Preserves I m) (hf : ∀ a, Preserves I (f a)) :
    Preserves I (m >>= f) := Ensures.bind hm hf

theorem Preserves.get_bind {f : σ → Prog ε σ β} (hf : ∀ s, I s → Preserves I (f s)) : Preserves I (get >>= f) :=
  Ensures.get_bind fun s h => (hf s h).weaken (fun _ ht => ht ▸ h) (fun _ _ ht => ht) (fun _ ht => ht)

theorem Preserves.modify {f : σ → σ} (hf : ∀ s, I s → I (f s)) :
    Preserves I (modify f : Prog ε σ PUnit) := Ensures.modify hf

theorem Preserves.attempt {e : ε} {op : σ → Option σ} (h : ∀ s t, I s → op s = some t → I t) :
    Preserves I (Prog.attempt e op) := Ensures.attempt (fun _ hs => hs) h

theorem Preserves.ite {c : Prop} [Decidable c] {n : Prog ε σ α} (hm : c → Preserves I m)
    (hn : ¬ c → Preserves I n) : Preserves I (if c then m else n) := Ensures.ite hm hn

theorem Preserves.onlyIf {c : Bool} {m : Prog ε σ Unit} (hm : c = true → Preserves I m) :
    Preserves I (Prog.onlyIf c m) := Preserves.ite hm fun _ => Preserves.pure _

theorem Preserves.require (c : Bool) (e : ε) : Preserves I (Prog.require c e : Prog ε σ Unit) :=
  Preserves.ite (fun _ => Preserves.pure _) fun _ => Preserves.throw _

theorem Preserves.forM {f : α → Prog ε σ PUnit} : ∀ {xs : List α}, (∀ x ∈ xs, Preserves I (f x)) →
    Preserves I (xs.forM f)
  | [], _ => Preserves.pure _
  | x :: _, h => Preserves.bind (h x (.head _)) fun _ =>
    Preserves.forM fun y hy => h y (.tail _ hy)

/-- A property `G` of the values that later steps keep holds of all of them in the end. -/
theorem Ensures.mapM {G : β → σ → Prop} : ∀ {xs : List α} (ys : List β),
    (∀ x ∈ xs, ∀ ys : List β, Ensures (fun s => I s ∧ ∀ y ∈ ys, G y s) (f x)
      (fun z s => I s ∧ ∀ y ∈ z :: ys, G y s) I) →
    Ensures (fun s => I s ∧ ∀ y ∈ ys, G y s) (xs.mapM f) (fun zs s => I s ∧ ∀ y ∈ zs ++ ys, G y s) I
  | [], ys, _ => Ensures.pure fun s h => by simpa using h
  | x :: xs, ys, h => by
    rw [List.mapM_cons]
    refine Ensures.bind (h x (.head _) ys) fun z => ?_
    refine Ensures.bind (Ensures.mapM (z :: ys) fun y hy => h y (.tail _ hy))
      fun zs => Ensures.pure fun s hs => ⟨hs.1, fun y hy => hs.2 y ?_⟩
    grind

/-! ## What a program computes -/

/-- Run from `s` the program comes to the result of a function that hands its state on; where the
function fails nothing is said about the state the program stops in. -/
inductive Ends (m : Prog ε σ α) (s : σ) : Except ε (α × σ) → Prop
  | ok {a : α} {t : σ} (h : m.run.run s = (.ok a, t)) : Ends m s (.ok (a, t))
  | error {e : ε} {t : σ} (h : m.run.run s = (.error e, t)) : Ends m s (.error e)

section Ends

variable {s : σ}

variable {x : Except ε (α × σ)}

theorem Ends.result (h : Ends m s x) : (m.run.run s).1 = x.map Prod.fst := by
  cases h with
  | ok h | error h => rw [h]; rfl

theorem Ends.pure (a : α) : Ends (Pure.pure a : Prog ε σ α) s (.ok (a, s)) := .ok rfl

theorem Ends.throw (e : ε) : Ends (throw e : Prog ε σ α) s (.error e) := .error rfl

theorem Ends.bind_of_ok {x : Except ε (β × σ)} {a : α} {t : σ}
    (hm : m.run.run s = (.ok a, t)) (hf : Ends (f a) t x) : Ends (m >>= f) s x := by
  have hrun : (m >>= f).run.run s = (f a).run.run t := by rw [Prog.run_bind, hm]
  cases hf with
  | ok h => exact .ok (hrun.trans h)
  | error h => exact .error (hrun.trans h)

theorem Ends.bind {g : α × σ → Except ε (β × σ)}
    (hm : Ends m s x) (hf : ∀ a t, Ends (f a) t (g (a, t))) : Ends (m >>= f) s (x >>= g) := by
  cases hm with
  | ok h => exact .bind_of_ok h (hf _ _)
  | error h => exact .error (by rw [Prog.run_bind, h])

/-- The same for a result that is not written as a bind. -/
theorem Ends.bind_eq {g : α → σ → Except ε (β × σ)} {y : Except ε (β × σ)} (hm : Ends m s x)
    (hf : ∀ a t, Ends (f a) t (g a t)) (hy : (x >>= fun p => g p.1 p.2) = y) : Ends (m >>= f) s y :=
  hy ▸ hm.bind hf

theorem Ends.get_bind {f : σ → Prog ε σ α} (h : Ends (f s) s x) : Ends (get >>= f) s x :=
  .bind_of_ok rfl h

theorem Ends.modify_bind {g : σ → σ} {f : PUnit → Prog ε σ α}
    (h : Ends (f ⟨⟩) (g s) x) : Ends (modify g >>= f) s x := .bind_of_ok rfl h

end Ends

end VGpuManager.Foundation

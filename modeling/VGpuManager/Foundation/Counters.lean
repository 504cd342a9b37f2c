import Mathlib.Algebra.Order.Ring.Int
import Mathlib.Data.List.AList

/-!
# Counters that are shared

A set of counters has a value for each of its names; what consumes from it takes an amount of some of
them. Consumers fit if every counter they take from is there and holds what they take together. So what
takes all of a counter leaves nothing of it for others (`Fits.sum_le`).

Maps are filled by loops here: the same value under many names (`insertAll`), and the entries of
another map under new names (`rekey`).
-/

namespace VGpuManager.Foundation

open List

variable {ι κ α β : Type} [DecidableEq ι] [DecidableEq κ]

/-- Counters with their values, or amounts that are taken from them. -/
abbrev Counters (ι : Type) := AList fun _ : ι => Int

/-- What the consumers take of a counter. -/
def taken (consumers : List (Counters ι)) (n : ι) : Int :=
  (consumers.map fun c => (c.lookup n).getD 0).sum

/-- Every counter the consumers take from holds what they take together. -/
def Fits (counters : Counters ι) (consumers : List (Counters ι)) : Prop :=
  ∀ c ∈ consumers, ∀ e ∈ c.entries, ∃ v ∈ counters.lookup e.1, taken consumers e.1 ≤ v
  deriving Decidable

variable {counters : Counters ι} {f : κ → ι}

theorem fits_iff {consumers : List (Counters ι)} :
    Fits counters consumers ↔ ∀ c ∈ consumers, ∀ n w, c.lookup n = some w →
      ∃ v, counters.lookup n = some v ∧ taken consumers n ≤ v := by
  constructor
  · intro h c hc n w hw
    exact h c hc ⟨n, w⟩ (AList.mem_lookup_iff.mp hw)
  · intro h c hc ⟨n, w⟩ he
    exact h c hc n w (AList.mem_lookup_iff.mpr he)

theorem fits_singleton {c : Counters ι} :
    Fits counters [c] ↔ ∀ n w, c.lookup n = some w → ∃ v, counters.lookup n = some v ∧ w ≤ v := by
  rw [fits_iff]
  simp only [mem_singleton, forall_eq]
  refine forall_congr' fun n => forall_congr' fun w => forall_congr' fun hw => ?_
  simp [taken, hw]

/-- What two consumers take of a counter is there. -/
theorem Fits.sum_le {c d : Counters ι} (h : Fits counters [c, d]) {n : ι} {v w : Int}
    (hc : c.lookup n = some v) (hd : d.lookup n = some w) : ∃ x, counters.lookup n = some x ∧ v + w ≤ x := by
  obtain ⟨x, hx, hle⟩ := fits_iff.mp h c (.head _) n v hc
  refine ⟨x, hx, ?_⟩
  simpa [taken, hc, hd] using hle

/-! ## Loops over maps -/

/-- The value under each of the names. -/
def insertAll (ns : List ι) (v : α) (m : AList fun _ : ι => α) : AList fun _ : ι => α :=
  ns.foldl (fun m n => m.insert n v) m

theorem lookup_insertAll (ns : List ι) (v : α) (m : AList fun _ : ι => α) (n : ι) :
    (insertAll ns v m).lookup n = if n ∈ ns then some v else m.lookup n := by
  unfold insertAll
  induction ns generalizing m with
  | nil => simp
  | cons k ns ih =>
    rw [foldl_cons, ih]
    by_cases hk : n = k
    · subst hk
      simp
    · simp [hk]

/-- The entries of the map under new names. -/
def rekey (f : κ → ι) (g : α → β) (m : AList fun _ : κ => α) : AList fun _ : ι => β :=
  m.entries.foldl (fun acc e => acc.insert (f e.1) (g e.2)) ∅

theorem lookup_foldl_rekey (hf : Function.Injective f) (g : α → β) (k : κ) :
    ∀ (es : List (Sigma fun _ : κ => α)) (acc : AList fun _ : ι => β), es.NodupKeys →
      (es.foldl (fun acc e => acc.insert (f e.1) (g e.2)) acc).lookup (f k) =
        (es.dlookup k).elim (acc.lookup (f k)) fun a => some (g a) := by
  intro es
  induction es with
  | nil => intro acc _; rfl
  | cons e es ih =>
    intro acc hnodup
    obtain ⟨hfresh, hrest⟩ := nodupKeys_cons.mp hnodup
    rw [foldl_cons, ih _ hrest]
    by_cases hk : k = e.1
    · subst hk
      -- the name does not come again
      rw [dlookup_eq_none.mpr hfresh, dlookup_cons_eq]
      simp
    · rw [dlookup_cons_ne _ _ hk, AList.lookup_insert_ne (hf.ne hk)]

theorem lookup_rekey (hf : Function.Injective f) (g : α → β) (m : AList fun _ : κ => α)
    (k : κ) : (rekey f g m).lookup (f k) = (m.lookup k).map g := by
  have h := lookup_foldl_rekey hf g k m.entries ∅ m.nodupKeys
  rw [rekey, h]
  show ((m.lookup k).elim _ _) = _
  cases m.lookup k <;> rfl

omit [DecidableEq κ] in
theorem lookup_rekey_of_ne (g : α → β) (m : AList fun _ : κ => α) {n : ι}
    (hn : ∀ k, f k ≠ n) : (rekey f g m).lookup n = none := by
  have hfold : ∀ (es : List (Sigma fun _ : κ => α)) (acc : AList fun _ : ι => β), acc.lookup n = none →
      (es.foldl (fun acc e => acc.insert (f e.1) (g e.2)) acc).lookup n = none := by
    intro es
    induction es with
    | nil => exact fun _ h => h
    | cons e es ih =>
      intro acc h
      exact ih _ (by rw [AList.lookup_insert_ne (hn e.1).symm, h])
  exact hfold m.entries ∅ rfl

end VGpuManager.Foundation

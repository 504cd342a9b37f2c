import Mathlib.Algebra.BigOperators.Fin
import Mathlib.Algebra.Order.BigOperators.Group.List
import VGpuManager.Foundation.Loops

/-!
# Open hashing with a fixed number of buckets

Records of type `ν` with a key of type `κ`, in chains, one chain a bucket. The structure carries
the two facts every operation relies on: a record sits in the bucket of its key, and no key is
in a chain twice. So a lookup in one chain answers for the whole table.

`total f` is the sum of `f` over all records. Each operation has one equation for it, stated with
additions only, so that it can be used on quantities that are subtracted elsewhere.
-/

namespace VGpuManager.Foundation

open List

/-- Chained records, each in the bucket of its key, no key twice. -/
structure HashTable {κ ν : Type} (key : ν → κ) {n : Nat} (hash : κ → Fin n) where
  chain : Fin n → List ν
  placed : ∀ b, ∀ v ∈ chain b, hash (key v) = b
  nodup : ∀ b, ((chain b).map key).Nodup

namespace HashTable

variable {κ ν : Type} {key : ν → κ} {n : Nat} {hash : κ → Fin n}

/-- No record at all. -/
def empty : HashTable key hash where
  chain := fun _ => []
  placed := by intro b v hv; simp at hv
  nodup := by intro b; simp

variable (f : ν → Nat) (p : ν → Bool) (t : HashTable key hash)

/-- The table with one chain exchanged. -/
def setChain (b : Fin n) (vs : List ν)
    (hplaced : ∀ v ∈ vs, hash (key v) = b) (hnodup : (vs.map key).Nodup) : HashTable key hash where
  chain := fun c => if c = b then vs else t.chain c
  placed := by
    intro c v hv
    by_cases hc : c = b
    · subst hc
      exact hplaced v (by simpa using hv)
    · exact t.placed c v (by simpa [hc] using hv)
  nodup := by
    intro c
    by_cases hc : c = b
    · simpa [hc] using hnodup
    · simpa [hc] using t.nodup c

/-- Every record the predicate selects, out of every chain. -/
def retireIf (p : ν → Bool) : HashTable key hash where
  chain := fun b => (t.chain b).filter fun v => !p v
  placed := fun b v hv => t.placed b v (List.mem_filter.mp hv).1
  nodup := fun b => (t.nodup b).sublist (List.filter_sublist.map key)

/-- The sum of `f` over all records. Irreducible: a table has many buckets, and no proof should
walk them. -/
@[irreducible] def total : Nat :=
  ((List.finRange n).map fun b => ((t.chain b).map f).sum).sum

theorem total_eq_sum : t.total f = ∑ b, ((t.chain b).map f).sum := by
  rw [total, Fin.sum_univ_def]

@[simp] theorem total_empty : (empty : HashTable key hash).total f = 0 := by
  simp [total_eq_sum, empty]

/-- Only the exchanged chain moves the sum. -/
theorem total_setChain {b : Fin n} {vs : List ν} (hp : ∀ v ∈ vs, hash (key v) = b) (hn : (vs.map key).Nodup) :
    (t.setChain b vs hp hn).total f + ((t.chain b).map f).sum = t.total f + (vs.map f).sum := by
  have hsplit := fun g : Fin n → Nat => Finset.sum_erase_add Finset.univ g (Finset.mem_univ b)
  have hrest : ∑ c ∈ Finset.univ.erase b, (((t.setChain b vs hp hn).chain c).map f).sum =
      ∑ c ∈ Finset.univ.erase b, ((t.chain c).map f).sum := by
    refine Finset.sum_congr rfl fun c hc => ?_
    simp [setChain, (Finset.mem_erase.mp hc).1]
  have hb : (t.setChain b vs hp hn).chain b = vs := by simp [setChain]
  rw [total_eq_sum, total_eq_sum, ← hsplit, ← hsplit, hrest, hb]
  omega

/-- What is retired and what stays make up the sum. -/
theorem total_retireIf : (t.retireIf p).total f + t.total (fun v => if p v then f v else 0) = t.total f := by
  have hchain : ∀ vs : List ν, ((vs.filter fun v => !p v).map f).sum +
      (vs.map fun v => if p v then f v else 0).sum = (vs.map f).sum := by
    intro vs
    induction vs with
    | nil => rfl
    | cons v vs ih =>
      cases hv : p v <;> simp [hv] <;> omega
  simp only [total_eq_sum, retireIf, ← Finset.sum_add_distrib, hchain]

section Keyed

variable [DecidableEq κ]

/-- The record of a key. -/
def find? (t : HashTable key hash) (k : κ) : Option ν :=
  (t.chain (hash k)).find? fun v => key v = k

variable {k : κ} {t} {w : ν}

theorem not_mem_of_find?_none (h : t.find? k = none) : k ∉ (t.chain (hash k)).map key := by
  intro hk
  obtain ⟨v, hv, rfl⟩ := mem_map.mp hk
  simpa using find?_eq_none.mp h v hv

variable (t) (v : ν)

/-- Put a record in front of its chain; its key must not be in the table. -/
def insert (h : t.find? (key v) = none) : HashTable key hash :=
  t.setChain (hash (key v)) (v :: t.chain (hash (key v))) (by
      intro w hw
      rcases List.mem_cons.mp hw with rfl | hw
      · rfl
      · exact t.placed _ w hw)
    (List.nodup_cons.mpr ⟨not_mem_of_find?_none h, t.nodup _⟩)

/-- Write a record over the one of the same key, where that is. -/
def replace : HashTable key hash :=
  t.setChain (hash (key v)) ((t.chain (hash (key v))).map fun w => if key w = key v then v else w) (by
      intro u hu
      obtain ⟨w, hw, rfl⟩ := List.mem_map.mp hu
      split
      · rfl
      · exact t.placed _ w hw)
    (by rw [map_key_ite fun _ _ _ => rfl]; exact t.nodup _)

/-- Unlink the record of a key. -/
def remove (k : κ) : HashTable key hash :=
  t.setChain (hash k) ((t.chain (hash k)).eraseP fun v => key v = k)
    (fun w hw => t.placed _ w (List.mem_of_mem_eraseP hw))
    ((t.nodup _).sublist ((List.eraseP_sublist).map key))

theorem total_insert (h : t.find? (key v) = none) : (t.insert v h).total f = t.total f + f v := by
  have hset : (t.insert v h).total f + ((t.chain (hash (key v))).map f).sum =
      t.total f + ((v :: t.chain (hash (key v))).map f).sum := total_setChain f t _ _
  simp only [map_cons, sum_cons] at hset
  omega

theorem sum_eraseP (f : ν → Nat) : ∀ {vs : List ν}, vs.find? (fun v => key v = k) = some w →
    ((vs.eraseP fun v => key v = k).map f).sum + f w = (vs.map f).sum
  | [], h => by simp at h
  | v :: vs, h => by
    by_cases hv : key v = k
    · obtain rfl : v = w := by simpa [hv] using h
      simp only [eraseP_cons, hv, decide_true, cond_true, map_cons, sum_cons]
      omega
    · have hrest : vs.find? (fun v => key v = k) = some w := by simpa [hv] using h
      have ih := sum_eraseP f hrest
      simp only [eraseP_cons, hv, decide_false, cond_false, map_cons, sum_cons]
      omega

theorem sum_replace (f : ν → Nat) {v : ν} : ∀ {vs : List ν}, (vs.map key).Nodup →
    vs.find? (fun u => key u = key v) = some w →
    ((vs.map fun u => if key u = key v then v else u).map f).sum + f w = (vs.map f).sum + f v
  | [], _, h => by simp at h
  | u :: vs, hn, h => by
    obtain ⟨hu, hn⟩ := nodup_cons.mp hn
    by_cases huv : key u = key v
    · obtain rfl : u = w := by simpa [huv] using h
      -- the rest of the chain holds no other record of the key
      have hrest : (vs.map fun x => if key x = key v then v else x) = vs := by
        refine (map_congr_left fun x hx => ?_).trans (map_id vs)
        have hne : key x ≠ key v := fun e => hu (mem_map.mpr ⟨x, hx, e.trans huv.symm⟩)
        simp [hne]
      simp only [map_cons, huv, if_true, hrest, sum_cons]
      omega
    · have ih := sum_replace f hn (by simpa [huv] using h)
      simp only [map_cons, huv, if_false, sum_cons]
      omega

theorem total_remove (h : t.find? k = some w) : (t.remove k).total f + f w = t.total f := by
  have hset : (t.remove k).total f + ((t.chain (hash k)).map f).sum =
      t.total f + (((t.chain (hash k)).eraseP fun v => key v = k).map f).sum :=
    total_setChain f t _ _
  have hsum := sum_eraseP f h
  omega

theorem total_replace {v : ν} (h : t.find? (key v) = some w) : (t.replace v).total f + f w = t.total f + f v := by
  have hset : (t.replace v).total f + ((t.chain (hash (key v))).map f).sum = t.total f +
      (((t.chain (hash (key v))).map fun w => if key w = key v then v else w).map f).sum :=
    total_setChain f t _ _
  have hsum := sum_replace f (t.nodup _) h
  omega

/-- One record's share is within the sum. -/
theorem le_total (h : t.find? k = some w) : f w ≤ t.total f := by
  have := t.total_remove f h
  omega

end Keyed

end HashTable

end VGpuManager.Foundation

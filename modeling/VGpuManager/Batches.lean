import Mathlib.Algebra.Order.BigOperators.Group.List
import Mathlib.Algebra.Order.Ring.Nat

/-!
# Batches of a parallel run (`pkg/config/watcher/batch.go`)

The filter, the preemption and the device watcher split their items into batches, one goroutine a batch.
-/

namespace VGpuManager

open List

/-- `BatchConfig`: the first index, the last one and their number. -/
structure BatchConfig where
  startIndex : Nat
  endIndex : Nat
  count : Nat
  deriving Repr, DecidableEq

/-- The indices of a batch, as its worker goes through them. -/
def BatchConfig.items (b : BatchConfig) : List Nat := List.range' b.startIndex (b.endIndex + 1 - b.startIndex)

/-- One pass of the loop: the batches so far and the next index. -/
def addBatch (baseSize remainder : Nat) (s : List BatchConfig × Nat) (i : Nat) : List BatchConfig × Nat :=
  let batchSize := if i < remainder then baseSize + 1 else baseSize
  (s.1 ++ [⟨s.2, s.2 + batchSize - 1, batchSize⟩], s.2 + batchSize)

/-- `BalanceBatches`; behind the guard all numbers are natural. -/
def balanceBatches (totalCards maxPerBatch : Int) : List BatchConfig :=
  if totalCards ≤ 0 ∨ maxPerBatch ≤ 0 then []
  else
    let total := totalCards.toNat
    let numBatches := (total + maxPerBatch.toNat - 1) / maxPerBatch.toNat
    ((List.range numBatches).foldl (addBatch (total / numBatches) (total % numBatches)) ([], 0)).1

/-- The calls of `Execute`; with more than one batch they run in any order. -/
def execute (configs : List BatchConfig) : List (BatchConfig × Nat) := configs.zipIdx

/-- The batches after `k` passes. -/
structure Batched (base rest k : Nat) (s : List BatchConfig × Nat) : Prop where
  length : s.1.length = k
  next : s.2 = k * base + min k rest
  sizes : ∀ b ∈ s.1, b.startIndex + b.count = b.endIndex + 1 ∧ (b.count = base ∨ b.count = base + 1 ∧ 0 < rest)
  items : s.1.flatMap BatchConfig.items = List.range s.2

theorem batched_loop {base : Nat} (hbase : 0 < base) (rest k : Nat) :
    Batched base rest k ((List.range k).foldl (addBatch base rest) ([], 0)) := by
  induction k with
  | zero => exact ⟨rfl, by simp, nofun, rfl⟩
  | succ k h =>
    rw [range_succ, foldl_append, foldl_cons, foldl_nil]
    generalize (range k).foldl (addBatch base rest) ([], 0) = s at h
    obtain ⟨size, hsize, hone⟩ : ∃ size, (if k < rest then base + 1 else base) = size ∧
        (size = base ∧ rest ≤ k ∨ size = base + 1 ∧ k < rest) := ⟨_, rfl, by split <;> omega⟩
    simp only [addBatch, hsize]
    refine ⟨by simp [h.length], ?_, ?_, ?_⟩
    · rw [h.next, Nat.succ_mul]
      omega
    · simp only [forall_mem_append, forall_mem_singleton]
      exact ⟨h.sizes, by omega, by omega⟩
    · have hcount : s.2 + size - 1 + 1 - s.2 = size := by omega
      rw [flatMap_append, h.items, flatMap_singleton, BatchConfig.items, hcount, range_add,
        range'_eq_map_range]

/-- The number of batches is the quotient, rounded up. -/
theorem batches_bounds {t l n : Nat} (ht : 0 < t) (hl : 0 < l) (hn : n = (t + l - 1) / l) :
    0 < n ∧ n ≤ t ∧ t ≤ l * n ∧ l * n < t + l := by
  have hdiv := Nat.div_add_mod (t + l - 1) l
  have hmod := Nat.mod_lt (t + l - 1) hl
  rw [← hn] at hdiv
  have hlow : t ≤ l * n := by omega
  have hhigh : l * n < t + l := by omega
  refine ⟨Nat.pos_of_ne_zero fun h => by simp [h] at hlow; omega, ?_, hlow, hhigh⟩
  by_contra hlt
  have hmore : l * (t + 1) ≤ l * n := Nat.mul_le_mul_left l (Nat.not_le.mp hlt)
  have hone : t ≤ l * t := Nat.le_mul_of_pos_left t hl
  rw [Nat.mul_succ] at hmore
  omega

/-- **The batches of `BalanceBatches`**: as few as the limit allows, of nearly equal size, and one after the other
all indices, so that a run handles every index once. -/
theorem balanceBatches_spec {total limit : Int} (htotal : 0 < total) (hlimit : 0 < limit) :
    (∀ b ∈ balanceBatches total limit, 0 < b.count ∧ b.count ≤ limit ∧ b.startIndex + b.count = b.endIndex + 1) ∧
    (∀ sizes : List Nat, (∀ size ∈ sizes, (size : Int) ≤ limit) → sizes.sum = total →
      (balanceBatches total limit).length ≤ sizes.length) ∧
    (∀ b ∈ balanceBatches total limit, ∀ c ∈ balanceBatches total limit, b.count ≤ c.count + 1) ∧
    (balanceBatches total limit).flatMap BatchConfig.items = List.range total.toNat ∧
    ∀ calls : List (BatchConfig × Nat), calls.Perm (execute (balanceBatches total limit)) →
      (calls.flatMap fun call => call.1.items).Perm (List.range total.toNat) := by
  obtain ⟨t, rfl⟩ := Int.eq_ofNat_of_zero_le htotal.le
  obtain ⟨l, rfl⟩ := Int.eq_ofNat_of_zero_le hlimit.le
  rw [Int.natCast_pos] at htotal hlimit
  obtain ⟨n, hn⟩ : ∃ n, n = (t + l - 1) / l := ⟨_, rfl⟩
  obtain ⟨hpos, hle, hlow, hhigh⟩ := batches_bounds htotal hlimit hn
  have hbatches : balanceBatches t l = ((range n).foldl (addBatch (t / n) (t % n)) ([], 0)).1 := by
    rw [balanceBatches, if_neg (by omega), hn]
    rfl
  have hparts := Nat.div_add_mod t n
  have hrest := Nat.mod_lt t hpos
  obtain ⟨hlength, hnext, hsizes, hitems⟩ := batched_loop (Nat.div_pos hle hpos) (t % n) n
  rw [← hbatches] at hlength hsizes hitems
  have hcover : (balanceBatches t l).flatMap BatchConfig.items = range t := by
    rw [hitems, hnext]
    congr 1
    omega
  refine ⟨fun b hb => ?_, fun sizes hmax hsum => ?_, fun b hb c hc => ?_, hcover, fun calls hcalls => ?_⟩
  · obtain ⟨hends, hcount⟩ := hsizes b hb
    have hbase := Nat.div_pos hle hpos
    have hmost : t / n ≤ l := Nat.div_le_of_le_mul (Nat.mul_comm l n ▸ hlow)
    have hmore : 0 < t % n → t / n < l := fun hrest =>
      Nat.lt_of_mul_lt_mul_left (a := n) (by rw [Nat.mul_comm n l]; omega)
    exact ⟨by omega, by omega, hends⟩
  · have hmost : sizes.sum ≤ sizes.length * l :=
      sum_le_card_nsmul sizes l fun size hsize => Int.ofNat_le.mp (hmax size hsize)
    have hlen : l * n < l * (sizes.length + 1) := by
      rw [Nat.mul_succ, Nat.mul_comm l sizes.length]
      omega
    rw [hlength]
    exact Nat.le_of_lt_succ (Nat.lt_of_mul_lt_mul_left hlen)
  · have hb := (hsizes b hb).2
    have hc := (hsizes c hc).2
    omega
  · have hall : (execute (balanceBatches t l)).flatMap (fun call => call.1.items) = range t := by
      rw [← hcover, ← flatMap_map Prod.fst, execute, zipIdx_map_fst]
    exact hall ▸ hcalls.flatMap_right _

theorem balanceBatches_spec_ten : (balanceBatches 10 4).length ≤ [4, 4, 2].length :=
  (balanceBatches_spec (by decide) (by decide)).2.1 [4, 4, 2] (by decide) (by decide)

end VGpuManager

import Mathlib.Data.List.Sort

/-!
# Sorting with a `less` function

The program sorts with a Boolean `less`, often a chain of comparators in which a later one
decides ties of the earlier ones. `sortBy` is the stable sort for such a function. What the
results need of it is that it rearranges and nothing else, whatever `less` is.
-/

namespace VGpuManager.Foundation

open List

variable {α : Type} (less : α → α → Bool)

/-- Stable sort: `a` goes before `b` unless `b` is less than `a`. -/
def sortBy (l : List α) : List α :=
  l.insertionSort fun a b => less b a = false

/-- Lexicographic chain: the first comparator that separates the two decides. -/
def lessChain : List (α → α → Bool) → α → α → Bool
  | [], _, _ => false
  | [less], a, b => less a b
  | less :: rest, a, b => if less a b then true else if less b a then false else lessChain rest a b

theorem sortBy_perm (l : List α) : (sortBy less l).Perm l :=
  perm_insertionSort _ _

variable {l : List α} {less}

@[simp] theorem mem_sortBy {a : α} : a ∈ sortBy less l ↔ a ∈ l :=
  (sortBy_perm less l).mem_iff

@[simp] theorem length_sortBy (l : List α) : (sortBy less l).length = l.length :=
  (sortBy_perm less l).length_eq

/-- Sorted by a key, the first element is the one with the smallest key. -/
theorem head?_sortBy_min {f : α → Int} {x : α} (hx : x ∈ l) (hmin : ∀ y ∈ l, y ≠ x → f x < f y) :
    (sortBy (fun a b => decide (f a < f b)) l).head? = some x := by
  have : Std.Total fun a b : α => decide (f b < f a) = false := ⟨fun a b => by simp; omega⟩
  have : IsTrans α fun a b : α => decide (f b < f a) = false := ⟨fun a b c => by simp; omega⟩
  have hsorted := pairwise_insertionSort (fun a b => decide (f b < f a) = false) l
  have hmem : x ∈ sortBy (fun a b => decide (f a < f b)) l := mem_sortBy.mpr hx
  cases hl : sortBy (fun a b => decide (f a < f b)) l with
  | nil => simp [hl] at hmem
  | cons y rest =>
    have hy : y ∈ l := mem_sortBy.mp (by rw [hl]; exact (.head _))
    by_contra hne
    have hyx : y ≠ x := fun heq => hne (by simp [heq])
    rw [hl] at hmem
    have hrest : x ∈ rest := (mem_cons.mp hmem).resolve_left (Ne.symm hyx)
    rw [sortBy] at hl
    rw [hl] at hsorted
    have hle := rel_of_pairwise_cons hsorted hrest
    have hlt := hmin y hy hyx
    simp only [decide_eq_false_iff_not] at hle
    omega

theorem nodup_sortBy (h : l.Nodup) : (sortBy less l).Nodup :=
  (sortBy_perm less l).nodup_iff.mpr h

section Key

variable {κ : Type} [LinearOrder κ] (key : α → κ)

theorem pairwise_sortBy (l : List α) :
    (sortBy (fun a b => decide (key a < key b)) l).Pairwise fun a b => key a ≤ key b := by
  have : Std.Total fun a b : α => decide (key b < key a) = false := ⟨fun a b => by simpa using le_total _ _⟩
  have : IsTrans α fun a b : α => decide (key b < key a) = false :=
    ⟨fun a b c => by simpa using fun hab hbc => le_trans hab hbc⟩
  exact (pairwise_insertionSort _ l).imp fun hab => by simpa using hab

/-- Sorted by a key, the keys of the sorted list depend on the keys alone. -/
theorem map_sortBy_eq {l' : List α} (h : (l.map key).Perm (l'.map key)) :
    (sortBy (fun a b => decide (key a < key b)) l).map key =
      (sortBy (fun a b => decide (key a < key b)) l').map key := by
  have hsorted (l : List α) := pairwise_map.mpr (pairwise_sortBy key l)
  refine List.Perm.eq_of_pairwise (fun _ _ _ _ => le_antisymm) (hsorted l) (hsorted l') ?_
  exact (((sortBy_perm _ l).map key).trans h).trans ((sortBy_perm _ l').map key).symm

/-- Sorted by keys that differ, a list does not depend on the order it came in. -/
theorem sortBy_eq_of_perm {l' : List α} (h : l.Perm l') (hnodup : (l.map key).Nodup) :
    sortBy (fun a b => decide (key a < key b)) l = sortBy (fun a b => decide (key a < key b)) l' := by
  refine List.Perm.eq_of_pairwise (fun a b ha hb hab hba => ?_) (pairwise_sortBy key l) (pairwise_sortBy key l')
    (((sortBy_perm _ l).trans h).trans (sortBy_perm _ l').symm)
  exact inj_on_of_nodup_map hnodup (mem_sortBy.mp ha) (h.mem_iff.mpr (mem_sortBy.mp hb)) (le_antisymm hab hba)

end Key

end VGpuManager.Foundation

import Mathlib.Algebra.Order.Ring.Int
import VGpuManager.Foundation.Capacity

/-!
# Starters and a main phase

A sequence of starters runs before a main phase. One that stays keeps running to the end; any other
runs alone, on top of those that stayed before it, and is gone before the next one starts. What is
occupied at most is the `peak` over these points. A `reserve` counts everything that stays against
each of the points, wherever it was declared.
-/

namespace VGpuManager.Foundation

open List

/-- What runs before the main phase. -/
structure Starter where
  stays : Bool
  takes : Int
deriving DecidableEq, Repr

/-- What is occupied while each starter that does not stay is running. -/
def phases : Int → List Starter → List Int
  | _, [] => []
  | running, ⟨true, x⟩ :: l => phases (running + x) l
  | running, ⟨false, x⟩ :: l => (running + x) :: phases running l

variable (l : List Starter) (main : Int)

/-- What the starters that stay take together. -/
def staying : Int := ((l.filter Starter.stays).map Starter.takes).sum

/-- What each of the other starters takes. -/
def alone : List Int := (l.filter fun s => !s.stays).map Starter.takes

/-- The most that is occupied at any point, with `main` in the main phase. -/
def peak : Int := (phases 0 l).foldl max (staying l + main)

/-- What stays, and the larger of the main phase and the largest of the others. -/
def reserve : Int := staying l + max main ((alone l).foldl max 0)

variable {l} {s : Starter} {main} {x : Int}

section

variable (x l)

@[simp] theorem staying_cons_true : staying (⟨true, x⟩ :: l) = x + staying l := by
  simp [staying]

@[simp] theorem staying_cons_false : staying (⟨false, x⟩ :: l) = staying l := by
  simp [staying]

@[simp] theorem alone_cons_true : alone (⟨true, x⟩ :: l) = alone l := by
  simp [alone]

@[simp] theorem alone_cons_false : alone (⟨false, x⟩ :: l) = x :: alone l := by
  simp [alone]

end

section

variable (hnn : ∀ s ∈ l, 0 ≤ s.takes)

include hnn

theorem staying_nonneg : 0 ≤ staying l :=
  sum_nonneg (forall_mem_map.mpr fun s hs => hnn s (mem_of_mem_filter hs))

theorem alone_nonneg : ∀ x ∈ alone l, 0 ≤ x :=
  forall_mem_map.mpr fun s hs => hnn s (mem_of_mem_filter hs)

/-! ## The peak and the reserve -/

/-- At each point all that stays and the largest of the others cover what is occupied. -/
theorem le_of_mem_phases {running : Int} (hx : x ∈ phases running l) :
    x ≤ running + (staying l + (alone l).foldl max 0) := by
  induction l generalizing running with
  | nil => simp [phases] at hx
  | cons s l ih =>
    have hrest : ∀ t ∈ l, 0 ≤ t.takes := fun t ht => hnn t (.tail _ ht)
    obtain ⟨stays, y⟩ := s
    cases stays with
    | true =>
      have h := ih hrest hx
      rw [staying_cons_true, alone_cons_true]
      omega
    | false =>
      rw [staying_cons_false, alone_cons_false]
      have hstay := staying_nonneg hrest
      rcases mem_cons.mp hx with rfl | hx
      · have hy : y ≤ (y :: alone l).foldl max 0 := le_foldl_max (.inr (.head _))
        omega
      · have h := ih hrest hx
        have hmono : (alone l).foldl max 0 ≤ (y :: alone l).foldl max 0 :=
          foldl_max_le (le_foldl_max (.inl rfl)) fun z hz => le_foldl_max (.inr (.tail _ hz))
        omega

/-- **The reserve covers every point.** -/
theorem peak_le_reserve (main : Int) : peak l main ≤ reserve l main := by
  refine foldl_max_le ?_ fun x hx => ?_
  · have h := le_max_left main ((alone l).foldl max 0)
    rw [reserve]
    omega
  · have h := le_of_mem_phases hnn hx
    rw [reserve]
    omega

end

/-- What stays is declared before all others. -/
def StayFirst (l : List Starter) : Prop := l.Pairwise fun s t => t.stays = true → s.stays = true
  deriving Decidable

theorem phases_of_stayFirst (h : StayFirst l) (running : Int) :
    phases running l = (alone l).map (running + staying l + ·) := by
  induction l generalizing running with
  | nil => rfl
  | cons s l ih =>
    obtain ⟨hs, hl⟩ := pairwise_cons.mp h
    obtain ⟨stays, y⟩ := s
    cases stays with
    | true => rw [phases, ih hl, staying_cons_true, alone_cons_true, Int.add_assoc]
    | false =>
      -- nothing stays behind this one
      have hnone : l.filter Starter.stays = [] :=
        filter_eq_nil_iff.mpr fun t ht hstays => absurd (hs t ht hstays) (by simp)
      have hzero : staying l = 0 := by rw [staying, hnone]; rfl
      rw [phases, ih hl, staying_cons_false, alone_cons_false, map_cons, hzero, Int.add_zero]

theorem foldl_max_map_add (c : Int) (xs : List Int) (m : Int) :
    (xs.map (c + ·)).foldl max (c + m) = c + xs.foldl max m := by
  induction xs generalizing m with
  | nil => rfl
  | cons x xs ih => rw [map_cons, foldl_cons, foldl_cons, ← ih, ← add_max]

/-- **The reserve is the peak** if what stays is declared first. -/
theorem peak_eq_reserve (h : StayFirst l) (hmain : 0 ≤ main) : peak l main = reserve l main := by
  rw [peak, reserve, phases_of_stayFirst h, Int.zero_add, foldl_max_map_add]
  -- starting the maximum at the main phase is starting it at zero and taking the main phase as well
  rw [← @List.foldl_assoc Int max _, max_eq_left hmain]

/-- The reserve is within what all of them take together. -/
theorem reserve_le_sum (hnn : ∀ s ∈ l, 0 ≤ s.takes) (hmain : 0 ≤ main) :
    reserve l main ≤ staying l + main + (alone l).sum := by
  have hsum : 0 ≤ (alone l).sum := sum_nonneg (alone_nonneg hnn)
  have hmax : (alone l).foldl max 0 ≤ (alone l).sum :=
    foldl_max_le hsum fun x hx => single_le_sum (alone_nonneg hnn) x hx
  rw [reserve]
  omega

/-! ## Amounts by owner -/

section Owners

variable {κ α : Type} [DecidableEq κ] (key : α → κ) (amount : α → Int)

/-- What the entries of one owner take together. -/
def takenBy (entries : List α) (k : κ) : Int :=
  ((entries.filter fun e => key e = k).map amount).sum

variable {p : α → Bool} {entries : List α}

omit [DecidableEq κ] in
/-- The entries of two kinds that exclude each other. -/
theorem sum_filter_or (entries : List α) {q : α → Bool} (h : ∀ e ∈ entries, p e = true → q e = false) :
    ((entries.filter fun e => p e || q e).map amount).sum =
      ((entries.filter p).map amount).sum + ((entries.filter q).map amount).sum := by
  rw [sum_map_filter, sum_map_filter, sum_map_filter, ← sum_map_add]
  refine congrArg sum (map_congr_left fun e he => ?_)
  cases hp : p e with
  | true => simp [h e he hp]
  | false => simp

/-- What a list of owners takes is what the entries of these owners take. -/
theorem sum_takenBy {owners : List κ} (h : owners.Nodup) (hp : ∀ e ∈ entries, p e = true ↔ key e ∈ owners) :
    (owners.map (takenBy key amount entries)).sum = ((entries.filter p).map amount).sum := by
  induction owners generalizing p with
  | nil =>
    have hnone : entries.filter p = [] :=
      filter_eq_nil_iff.mpr fun e he hpe => absurd ((hp e he).mp hpe) not_mem_nil
    rw [hnone]
    rfl
  | cons k owners ih =>
    obtain ⟨hk, hrest⟩ := nodup_cons.mp h
    have hsplit := sum_filter_or amount entries (p := fun e => key e = k)
      (q := fun e => key e ∈ owners) fun e _ he => by
        have he : key e = k := by simpa using he
        simpa [he] using hk
    have hboth : entries.filter p = entries.filter fun e => key e = k || key e ∈ owners := by
      refine filter_congr fun e he => Bool.eq_iff_iff.mpr ?_
      rw [hp e he, mem_cons]
      simp
    have hothers := ih hrest fun e _ => decide_eq_true_iff
    rw [map_cons, sum_cons, hothers, takenBy, hboth, ← hsplit]

variable {key}

/-- An owner with one entry takes what the entry does. -/
theorem takenBy_of_mem (h : (entries.map key).Nodup) {e : α} (he : e ∈ entries) :
    takenBy key amount entries (key e) = amount e := by
  have hone : entries.filter (fun x => key x = key e) = [e] := by
    induction entries with
    | nil => simp at he
    | cons x entries ih =>
      obtain ⟨hx, hrest⟩ := nodup_cons.mp h
      rcases mem_cons.mp he with rfl | he
      · rw [filter_cons_of_pos (by simp), filter_eq_nil_iff.mpr]
        intro y hy heq
        exact hx (mem_map.mpr ⟨y, hy, by simpa using heq⟩)
      · have hne : key x ≠ key e := fun heq => hx (mem_map.mpr ⟨e, he, heq.symm⟩)
        rw [filter_cons_of_neg (by simpa using hne), ih hrest he]
  rw [takenBy, hone, map_singleton, sum_singleton]

/-- The largest amount over owners with one entry each; an owner without an entry takes nothing. -/
theorem foldl_max_takenBy (h : (entries.map key).Nodup) {owners : List κ}
    (hp : ∀ e ∈ entries, p e = true ↔ key e ∈ owners) :
    (owners.map (takenBy key amount entries)).foldl max 0 = ((entries.filter p).map amount).foldl max 0 := by
  refine le_antisymm (foldl_max_le (le_foldl_max (.inl rfl)) fun x hx => ?_)
    (foldl_max_le (le_foldl_max (.inl rfl)) fun x hx => ?_)
  · obtain ⟨k, hk, rfl⟩ := mem_map.mp hx
    by_cases hex : ∃ e ∈ entries, key e = k
    · obtain ⟨e, he, rfl⟩ := hex
      rw [takenBy_of_mem amount h he]
      exact le_foldl_max (.inr (mem_map.mpr ⟨e, mem_filter.mpr ⟨he, (hp e he).mpr hk⟩, rfl⟩))
    · have hnone : entries.filter (fun e => key e = k) = [] :=
        filter_eq_nil_iff.mpr fun e he heq => hex ⟨e, he, by simpa using heq⟩
      rw [takenBy, hnone]
      exact le_foldl_max (.inl rfl)
  · obtain ⟨e, he, rfl⟩ := mem_map.mp hx
    obtain ⟨he, hin⟩ := mem_filter.mp he
    rw [← takenBy_of_mem amount h he]
    exact le_foldl_max (.inr (mem_map_of_mem ((hp e he).mp hin)))

end Owners

end VGpuManager.Foundation

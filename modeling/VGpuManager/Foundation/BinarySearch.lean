import Mathlib.Data.List.Basic
import Mathlib.Order.Lattice

/-!
# Binary search

The halving loop of the C library's `bsearch` over a sorted list: the interval `[l, u)` is halved
until the key is met or the interval is empty. `contains_iff` says that on a sorted list it finds
exactly the members; `contains_iff_probes` what it finds on a list that is sorted but for a tail of
its own, which depends on where it looks.
-/

namespace VGpuManager.Foundation.BinarySearch

open List

variable {α : Type} [LinearOrder α]

/-- The loop on `[l, u)`; `fuel` bounds the number of halvings. -/
def loop (key : α) (xs : List α) : Nat → Nat → Nat → Bool
  | 0, _, _ => false
  | fuel + 1, l, u =>
    if l < u then
      match xs[(l + u) / 2]? with
      | none => false
      | some x =>
        if key < x then loop key xs fuel l ((l + u) / 2)
        else if x < key then loop key xs fuel ((l + u) / 2 + 1) u
        else true
    else false

/-- The whole list. -/
def contains (key : α) (xs : List α) : Bool := loop key xs xs.length 0 xs.length

variable {i m : Nat} {x : α} {xs : List α}

theorem getElem?_le (hs : xs.Pairwise (· ≤ ·)) {j : Nat} {y : α} (hij : i ≤ j)
    (hx : xs[i]? = some x) (hy : xs[j]? = some y) : x ≤ y := by
  obtain ⟨hi, rfl⟩ := List.getElem?_eq_some_iff.mp hx
  obtain ⟨hj, rfl⟩ := List.getElem?_eq_some_iff.mp hy
  rcases Nat.lt_or_eq_of_le hij with h | rfl
  · exact List.pairwise_iff_getElem.mp hs i j hi hj h
  · exact le_rfl

/-! ## A sorted list with a tail of its own -/

/-- The places the loop looks at. -/
def loopProbes (key : α) (xs : List α) : Nat → Nat → Nat → List Nat
  | 0, _, _ => []
  | fuel + 1, l, u =>
    if l < u then
      match xs[(l + u) / 2]? with
      | none => []
      | some x =>
        (l + u) / 2 ::
          if key < x then loopProbes key xs fuel l ((l + u) / 2)
          else if x < key then loopProbes key xs fuel ((l + u) / 2 + 1) u
          else []
    else []

def probes (key : α) (xs : List α) : List Nat := loopProbes key xs xs.length 0 xs.length

/-- The places the halving of a list looks at before it comes to `m`, whatever the list holds. -/
def wayTo (m : Nat) : Nat → Nat → Nat → List Nat
  | 0, _, _ => []
  | fuel + 1, l, u =>
    if m < (l + u) / 2 then (l + u) / 2 :: wayTo m fuel l ((l + u) / 2)
    else if (l + u) / 2 < m then (l + u) / 2 :: wayTo m fuel ((l + u) / 2 + 1) u
    else []

/-- On its way the search turns left at what is above the key and right at what is below it. -/
def TurnsTo (m : Nat) (key : α) (xs : List α) (q : Nat) : Prop :=
  (q < m → ∃ x, xs[q]? = some x ∧ x < key) ∧ (m < q → ∃ x, xs[q]? = some x ∧ key < x)

theorem mem_loopProbes_range {key : α} {q : Nat} : ∀ {fuel l u}, q ∈ loopProbes key xs fuel l u → l ≤ q ∧ q < u
  | 0, _, _, h => by simp [loopProbes] at h
  | fuel + 1, l, u, h => by
    rw [loopProbes] at h
    split_ifs at h with hlu
    · split at h
      · simp at h
      · rcases mem_cons.mp h with rfl | h
        · omega
        · split_ifs at h
          · have := mem_loopProbes_range h
            omega
          · have := mem_loopProbes_range h
            omega
          · simp at h
    · simp at h

theorem mem_loopProbes_iff {key : α} : ∀ {fuel l u}, u - l ≤ fuel → u ≤ xs.length → l ≤ m → m < u →
    (m ∈ loopProbes key xs fuel l u ↔ ∀ q ∈ wayTo m fuel l u, TurnsTo m key xs q)
  | 0, l, u, hf, _, _, _ => by omega
  | fuel + 1, l, u, hf, hu, hl, hm => by
    obtain ⟨x, hx⟩ : ∃ x, xs[(l + u) / 2]? = some x := ⟨_, List.getElem?_eq_getElem (by omega)⟩
    rw [loopProbes, if_pos (by omega), hx, wayTo]
    dsimp only
    rcases Nat.lt_trichotomy m ((l + u) / 2) with hlt | heq | hgt
    · have hturn : TurnsTo m key xs ((l + u) / 2) ↔ key < x := by simp [TurnsTo, hlt, hlt.not_gt, hx]
      rw [if_pos hlt, forall_mem_cons, hturn, mem_cons, or_iff_right hlt.ne]
      by_cases hkey : key < x
      · rw [if_pos hkey, mem_loopProbes_iff (by omega) (by omega) hl hlt, and_iff_right hkey]
      · rw [if_neg hkey]
        refine iff_of_false (fun h => ?_) fun h => hkey h.1
        split_ifs at h
        · have := mem_loopProbes_range h
          omega
        · simp at h
    · rw [← heq, if_neg (lt_irrefl m), if_neg (lt_irrefl m)]
      simp
    · have hturn : TurnsTo m key xs ((l + u) / 2) ↔ x < key := by simp [TurnsTo, hgt, hgt.not_gt, hx]
      rw [if_neg hgt.not_gt, if_pos hgt, forall_mem_cons, hturn, mem_cons, or_iff_right hgt.ne']
      by_cases hkey : key < x
      · rw [if_pos hkey]
        refine iff_of_false (fun h => ?_) fun h => hkey.not_gt h.1
        have := mem_loopProbes_range h
        omega
      · rw [if_neg hkey]
        by_cases hbelow : x < key
        · rw [if_pos hbelow, mem_loopProbes_iff (by omega) hu (by omega) hm, and_iff_right hbelow]
        · rw [if_neg hbelow]
          exact iff_of_false (by simp) fun h => hbelow h.1

/-- At `q` the search goes on to the right although nothing there is the key. -/
def LedAstray (key : α) (xs : List α) (q : Nat) : Prop :=
  (∃ x, xs[q]? = some x ∧ x < key) ∧ key ∉ xs.drop (q + 1)

theorem getElem?_le_take (hpre : (xs.take m).Pairwise (· ≤ ·)) {j : Nat}
    {y : α} (hij : i ≤ j) (hj : j < m) (hx : xs[i]? = some x) (hy : xs[j]? = some y) : x ≤ y := by
  refine getElem?_le hpre hij ?_ ?_
  · rwa [getElem?_take_of_lt (by omega)]
  · rwa [getElem?_take_of_lt hj]

theorem getElem?_le_drop (hrest : (xs.drop m).Pairwise (· ≤ ·)) {j : Nat}
    {y : α} (hi : m ≤ i) (hij : i ≤ j) (hx : xs[i]? = some x) (hy : xs[j]? = some y) : x ≤ y := by
  refine getElem?_le hrest (i := i - m) (j := j - m) (by omega) ?_ ?_
  · rwa [getElem?_drop, Nat.add_sub_cancel' hi]
  · rwa [getElem?_drop, Nat.add_sub_cancel' (by omega)]

omit [LinearOrder α] in
theorem mem_drop_of_getElem? {q : Nat} (hx : xs[i]? = some x) (h : q ≤ i) : x ∈ xs.drop q := by
  refine mem_iff_getElem?.mpr ⟨i - q, ?_⟩
  rw [getElem?_drop, Nat.add_sub_cancel' h, hx]

/-- Whatever the list, what is found stands in the interval, and the search never went astray. -/
theorem loop_found {key : α} : ∀ {fuel l u}, loop key xs fuel l u = true →
    (∃ i, l ≤ i ∧ i < u ∧ xs[i]? = some key) ∧ ∀ q ∈ loopProbes key xs fuel l u, ¬ LedAstray key xs q
  | 0, l, u, h => by simp [loop] at h
  | fuel + 1, l, u, h => by
    by_cases hlu : l < u
    case neg => simp [loop, hlu] at h
    case pos =>
      rw [loop, if_pos hlu] at h
      rw [loopProbes, if_pos hlu]
      cases hx : xs[(l + u) / 2]? with
      | none => simp [hx] at h
      | some x =>
        simp only [hx] at h ⊢
        -- only what is below the key leads to the right
        have hright (hge : ¬ x < key) : ¬ LedAstray key xs ((l + u) / 2) := by
          intro ⟨⟨y, hy, hlt⟩, _⟩
          obtain rfl : x = y := Option.some.inj (hx.symm.trans hy)
          exact hge hlt
        by_cases h₁ : key < x
        · rw [if_pos h₁] at h ⊢
          obtain ⟨⟨i, hl, hi, he⟩, hrest⟩ := loop_found h
          exact ⟨⟨i, hl, by omega, he⟩, forall_mem_cons.mpr ⟨hright h₁.not_gt, hrest⟩⟩
        · rw [if_neg h₁] at h ⊢
          by_cases h₂ : x < key
          · rw [if_pos h₂] at h ⊢
            obtain ⟨⟨i, hl, hi, he⟩, hrest⟩ := loop_found h
            refine ⟨⟨i, by omega, hi, he⟩, forall_mem_cons.mpr ⟨fun hastray => ?_, hrest⟩⟩
            exact hastray.2 (mem_drop_of_getElem? he hl)
          · obtain rfl : x = key := le_antisymm (not_lt.mp h₁) (not_lt.mp h₂)
            rw [if_neg h₂]
            exact ⟨⟨(l + u) / 2, by omega, by omega, hx⟩, forall_mem_singleton.mpr (hright h₂)⟩

/-- The first `m` entries are sorted and so are those after the next one. While the search does not
go astray behind the first `m`, the key stays in its interval: among the first `m`, or, once the
search has left them, behind them. -/
theorem loop_of_probes {key : α} (hpre : (xs.take m).Pairwise (· ≤ ·))
    (hrest : (xs.drop (m + 1)).Pairwise (· ≤ ·)) : ∀ {fuel l u}, u - l ≤ fuel → u ≤ xs.length →
    (u = xs.length ∨ ∃ x, xs[u]? = some x ∧ key < x) →
    (∃ a, l ≤ a ∧ a < u ∧ xs[a]? = some key ∧ (a < m ∨ m < l)) →
    (∀ q ∈ loopProbes key xs fuel l u, m ≤ q → ¬ LedAstray key xs q) →
    loop key xs fuel l u = true
  | 0, l, u, hf, _, _, ⟨a, hl, hu, _⟩, _ => by omega
  | fuel + 1, l, u, hf, hu, hend, ⟨a, hla, hau, ha, hwhere⟩, hprobes => by
    have hlu : l < u := by omega
    obtain ⟨x, hx⟩ : ∃ x, xs[(l + u) / 2]? = some x := ⟨_, List.getElem?_eq_getElem (by omega)⟩
    rw [loopProbes, if_pos hlu, hx] at hprobes
    rw [loop, if_pos hlu, hx]
    dsimp only at hprobes ⊢
    by_cases h₁ : key < x
    · rw [if_pos h₁] at hprobes ⊢
      -- the key is left of what is above it
      have hleft : a < (l + u) / 2 := by
        by_contra hge
        rcases hwhere with hm | hm
        · exact absurd (getElem?_le_take hpre (by omega) hm hx ha) (not_le.mpr h₁)
        · exact absurd (getElem?_le_drop hrest (by omega) (by omega) hx ha) (not_le.mpr h₁)
      exact loop_of_probes hpre hrest (by omega) (by omega) (.inr ⟨x, hx, h₁⟩)
        ⟨a, hla, hleft, ha, hwhere⟩ fun q hq => hprobes q (.tail _ hq)
    · rw [if_neg h₁] at hprobes ⊢
      by_cases h₂ : x < key
      · rw [if_pos h₂] at hprobes ⊢
        refine loop_of_probes hpre hrest (by omega) hu hend ?_ fun q hq => hprobes q (.tail _ hq)
        by_cases hmid : (l + u) / 2 < m
        · -- still among the first: right of what is below the key
          refine ⟨a, ?_, hau, ha, ?_⟩
          · by_contra hlt
            rcases hwhere with hm | hm
            · exact absurd (getElem?_le_take hpre (by omega) hmid ha hx) (not_le.mpr h₂)
            · omega
          · rcases hwhere with hm | hm
            · exact .inl hm
            · omega
        · -- behind them the search is not astray, and what ended the interval is above the key
          have hnot := hprobes _ (.head _) (by omega)
          have hkey : key ∈ xs.drop ((l + u) / 2 + 1) := by
            by_contra hmem
            exact hnot ⟨⟨x, hx, h₂⟩, hmem⟩
          obtain ⟨b, hb⟩ := List.mem_iff_getElem?.mp hkey
          rw [List.getElem?_drop] at hb
          refine ⟨(l + u) / 2 + 1 + b, by omega, ?_, hb, .inr (by omega)⟩
          rcases hend with rfl | ⟨y, hy, hlt⟩
          · exact (List.getElem?_eq_some_iff.mp hb).1
          · by_contra hge
            exact absurd (getElem?_le_drop hrest (by omega) (by omega) hy hb) (not_le.mpr hlt)
      · rw [if_neg h₂]

/-- **Binary search on a sorted list with a tail.** A key among the first `m` entries is found just
when the search does not go astray behind them. -/
theorem contains_iff_probes {key : α} (hpre : (xs.take m).Pairwise (· ≤ ·))
    (hrest : (xs.drop (m + 1)).Pairwise (· ≤ ·)) (hkey : key ∈ xs.take m) :
    contains key xs = true ↔ ∀ q ∈ probes key xs, m ≤ q → ¬ LedAstray key xs q := by
  constructor
  · exact fun h q hq _ => (loop_found h).2 q hq
  · intro h
    obtain ⟨a, ha⟩ := List.mem_iff_getElem?.mp hkey
    have ham : a < m := by
      have := (List.getElem?_eq_some_iff.mp ha).1
      simp only [List.length_take] at this
      omega
    rw [List.getElem?_take_of_lt ham] at ha
    refine loop_of_probes hpre hrest (by omega) (Nat.le_refl _) (.inl rfl) ?_ h
    exact ⟨a, Nat.zero_le a, (List.getElem?_eq_some_iff.mp ha).1, ha, .inl ham⟩

/-- **Binary search.** On a sorted list the members are found, and nothing else. -/
theorem contains_iff (hs : xs.Pairwise (· ≤ ·)) (key : α) : contains key xs = true ↔ key ∈ xs := by
  constructor
  · intro h
    obtain ⟨⟨i, -, -, hi⟩, -⟩ := loop_found h
    exact mem_of_getElem? hi
  · intro hkey
    refine (contains_iff_probes (by rwa [take_length])
      (by rw [drop_eq_nil_of_le (Nat.le_succ _)]; exact .nil) (by rwa [take_length])).mpr ?_
    intro q _ _ ⟨⟨x, hx, hlt⟩, hgone⟩
    -- left of the key nothing leads astray, and what is right of it is not below it
    obtain ⟨a, ha⟩ := mem_iff_getElem?.mp hkey
    refine hgone (mem_drop_of_getElem? ha ?_)
    by_contra hge
    exact absurd (getElem?_le hs (by omega) ha hx) (not_le.mpr hlt)

end VGpuManager.Foundation.BinarySearch

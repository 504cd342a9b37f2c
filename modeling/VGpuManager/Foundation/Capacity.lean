import VGpuManager.Foundation.Arith

/-!
# One counter against its capacity

A counter with a fixed capacity, and demands that are tested against what is left of it. The
arithmetic is a parameter (`IntArith`), so the results hold for machine integers as well.
-/

namespace VGpuManager.Foundation

open List

theorem foldl_max_le_iff {xs : List Int} {m b : Int} : xs.foldl max m ≤ b ↔ m ≤ b ∧ ∀ x ∈ xs, x ≤ b := by
  induction xs generalizing m with
  | nil => simp
  | cons x xs ih => simp [ih, and_assoc]

theorem le_foldl_max {xs : List Int} {m x : Int} (h : x = m ∨ x ∈ xs) : x ≤ xs.foldl max m := by
  obtain ⟨hm, hxs⟩ := foldl_max_le_iff.mp (le_refl (xs.foldl max m))
  rcases h with rfl | h
  · exact hm
  · exact hxs x h

theorem foldl_max_le {b : Int} {l : List Int} {m : Int} (hm : m ≤ b) (h : ∀ x ∈ l, x ≤ b) : l.foldl max m ≤ b :=
  foldl_max_le_iff.mpr ⟨hm, h⟩

theorem foldl_max_cases (xs : List Int) (m : Int) : xs.foldl max m = m ∨ xs.foldl max m ∈ xs := by
  refine foldlRecOn (motive := fun x => x = m ∨ x ∈ xs) xs max (.inl rfl) fun b hb a ha => ?_
  rcases max_choice b a with h | h <;> rw [h]
  · exact hb
  · exact .inr ha

theorem sum_map_filter {α : Type} (c : α → Bool) (f : α → Int) (l : List α) :
    ((l.filter c).map f).sum = (l.map fun x => if c x then f x else 0).sum := by
  simp [sum_map_ite]

theorem sum_sub_sum_sub {α : Type} (f g : α → Int) (l : List α) :
    (l.map f).sum - (l.map fun a => f a - g a).sum = (l.map g).sum := by
  rw [sub_eq_iff_eq_add, ← sum_map_add]
  simp only [add_sub_cancel]

namespace IntArith

variable (A : IntArith)

/-- What is left of `cap`, never negative. -/
def left (cap used : Int) : Int := max 0 (A.sub cap used)

/-- Every demand is within what the earlier ones left. -/
def AdmitsAll (cap : Int) : Int → List Int → Prop
  | _, [] => True
  | used, v :: vs => v ≤ A.left cap used ∧ AdmitsAll cap (A.add used v) vs

/-- The counter after a run of demands. -/
def fill (used : Int) (vs : List Int) : Int := vs.foldl A.add used

variable {A} in
theorem Modular.fill_perm (h : A.Modular) {vs ws : List Int} (hp : vs.Perm ws) (used : Int) :
    A.fill used vs = A.fill used ws :=
  h.foldl_add_perm hp used

theorem fits_left (cap used : Int) : A.Fits (A.left cap used) := by
  unfold left
  rcases le_total 0 (A.sub cap used) with h | h
  · rw [max_eq_right h]; exact A.wrap_wrap _
  · rw [max_eq_left h]; exact A.fits_zero

variable {A} {cap used v : Int} {vs ws : List Int}

/-- **An admitted demand is really available.** The subtraction may wrap when the counter is far
below zero, but then the test leaves nothing and only a zero demand passes. -/
theorem add_le_of_le_left (hcap : A.Fits cap) (hused : A.Fits used) (hle : used ≤ cap)
    (hv : 0 ≤ v) (h : v ≤ A.left cap used) : used + v ≤ cap ∧ (v = 0 ∨ A.Fits (cap - used)) := by
  rcases hv.eq_or_lt with hzero | hpos
  · exact ⟨by omega, .inl hzero.symm⟩
  · have hsub : 0 < A.wrap (cap - used) := by
      have := h.trans_eq (show A.left cap used = max 0 (A.wrap (cap - used)) from rfl)
      omega
    have hexact := A.wrap_sub_of_pos hcap hused hle hsub
    have : v ≤ max 0 (cap - used) := by
      rw [← hexact]; exact h
    exact ⟨by omega, .inr hexact⟩

theorem left_nonneg : 0 ≤ A.left cap used := le_max_left _ _

/-- A counter within the capacity leaves the true difference. -/
theorem left_of_le (hcap : A.Fits cap) (h0 : 0 ≤ used) (hle : used ≤ max 0 cap) :
    A.left cap used = max 0 (cap - used) := by
  have hfit : A.Fits (cap - used) := by
    rcases le_or_gt 0 cap with hpos | hneg
    · exact A.fits_zero.between hcap (by omega) (by omega)
    · have hzero : used = 0 := by omega
      simpa [hzero] using hcap
  rw [left, sub, hfit]

/-- The more is used, the less is left, as long as no difference wraps. -/
theorem left_anti {used' hi : Int} (hcap : A.Fits cap) (hlow : A.Fits (cap - hi)) (h0 : 0 ≤ used) (hle : used ≤ used')
    (hhi : used' ≤ hi) : A.left cap used' ≤ A.left cap used := by
  have hfit : A.Fits (cap - used) := hlow.between hcap (by omega) (by omega)
  have hfit' : A.Fits (cap - used') := hlow.between hcap (by omega) (by omega)
  rw [left, left, sub, sub, hfit, hfit']
  omega

theorem AdmitsAll.append_iff : ∀ {used : Int} {vs : List Int}, A.AdmitsAll cap used (vs ++ ws) ↔
      A.AdmitsAll cap used vs ∧ A.AdmitsAll cap (A.fill used vs) ws
  | used, [] => by simp [AdmitsAll, fill]
  | used, v :: vs => by
    have ih : A.AdmitsAll cap (A.add used v) (vs ++ ws) ↔ _ := AdmitsAll.append_iff
    simp only [cons_append, AdmitsAll, ih, fill, foldl_cons, and_assoc]

/-- **A run of admitted demands stays within the capacity**, the counter is the exact sum, and
only zero demands are admitted where the free amount does not fit the type. -/
theorem AdmitsAll.fill_le (hcap : A.Fits cap) : ∀ {used : Int} {vs : List Int}, A.Fits used →
    used ≤ cap → (∀ v ∈ vs, 0 ≤ v) → A.AdmitsAll cap used vs →
    A.fill used vs = used + vs.sum ∧ used + vs.sum ≤ cap ∧ (vs.sum = 0 ∨ A.Fits (cap - used))
  | used, [], _, hle, _, _ => by simp [fill, hle]
  | used, v :: vs, hused, hle, hnn, h => by
    have hv : 0 ≤ v := hnn v (by simp)
    obtain ⟨hstep, hfree⟩ := add_le_of_le_left hcap hused hle hv h.1
    have hfit : A.Fits (used + v) := hused.between hcap (by omega) hstep
    have hrest := h.2
    rw [hfit.add_eq] at hrest
    obtain ⟨heq, hbound, htail⟩ := AdmitsAll.fill_le hcap hfit hstep (fun w hw => hnn w (by simp [hw])) hrest
    simp only [fill, foldl_cons, sum_cons, hfit.add_eq] at heq ⊢
    refine ⟨by rw [heq]; omega, by omega, ?_⟩
    -- a first demand of zero leaves the counter, so the tail's free amount is the same one
    rcases hfree with hzero | hfits
    · subst hzero
      simpa using htail
    · exact .inr hfits

/-- **Where the free amount was computed without wrapping**, admitted demands are together within
it, the counter is their exact sum, and what is left after them is computed exactly as well. -/
theorem AdmitsAll.sum_le_left (hcap : A.Fits cap) : ∀ {used : Int} {vs : List Int}, A.Fits used →
    A.left cap used = max 0 (cap - used) → (∀ v ∈ vs, 0 ≤ v) → A.AdmitsAll cap used vs →
    vs.sum ≤ max 0 (cap - used) ∧ A.fill used vs = used + vs.sum ∧ A.Fits (used + vs.sum) ∧
      A.left cap (used + vs.sum) = max 0 (cap - (used + vs.sum))
  | used, [], hused, hleft, _, _ => by simp [fill, hused, hleft]
  | used, v :: vs, hused, hleft, hnn, h => by
    have hv : v ≤ max 0 (cap - used) := hleft ▸ h.1
    have h0 : 0 ≤ v := hnn v (by simp)
    -- a positive demand was admitted below the capacity, a zero one changes nothing
    have hfit : A.Fits (used + v) := by
      rcases h0.eq_or_lt with hz | hpos
      · simpa [← hz] using hused
      · exact hused.between hcap (by omega) (by omega)
    have hnext : A.left cap (used + v) = max 0 (cap - (used + v)) := by
      rcases h0.eq_or_lt with hz | hpos
      · simpa [← hz] using hleft
      · have hfree : A.Fits (cap - used) := by
          have := A.fits_left cap used
          rwa [hleft, max_eq_right (by omega)] at this
        have hsub : A.Fits (cap - (used + v)) := A.fits_zero.between hfree (by omega) (by omega)
        rw [left, sub, hsub]
    have hrest := h.2
    rw [hfit.add_eq] at hrest
    obtain ⟨hsum, hfill, hfits, hend⟩ := AdmitsAll.sum_le_left hcap hfit hnext
      (fun w hw => hnn w (by simp [hw])) hrest
    rw [fill] at hfill
    rw [fill, foldl_cons, hfit.add_eq, hfill, sum_cons, ← Int.add_assoc]
    exact ⟨by omega, rfl, hfits, hend⟩

/-- No admitted demand is above the capacity, if the counter did not start below zero. -/
theorem AdmitsAll.each_le (hcap : A.Fits cap) (hused : A.Fits used) (h0 : 0 ≤ used)
    (hleft : A.left cap used = max 0 (cap - used)) (hnn : ∀ v ∈ vs, 0 ≤ v)
    (h : A.AdmitsAll cap used vs) : ∀ v ∈ vs, v ≤ max 0 cap := by
  induction vs generalizing used with
  | nil => simp
  | cons w vs ih =>
    have hw : 0 ≤ w := hnn w (by simp)
    have hone : A.AdmitsAll cap used [w] := ⟨h.1, trivial⟩
    obtain ⟨hle, hfill, hfits, hnext⟩ := hone.sum_le_left hcap hused hleft (by simpa using hw)
    rw [sum_singleton] at hle hfill hfits hnext
    have hrest : A.AdmitsAll cap (used + w) vs := hfill ▸ h.2
    intro v hv
    rcases mem_cons.mp hv with rfl | hv
    · omega
    · exact ih hfits (by omega) hnext (fun x hx => hnn x (by simp [hx])) hrest v hv

/-- In two's complement a free amount is computed without wrapping, if neither number is negative. -/
theorem int64_left (hcap : int64.Fits cap) (hused : int64.Fits used) (h0 : 0 ≤ cap) (h0' : 0 ≤ used) :
    int64.left cap used = max 0 (cap - used) := by
  unfold Fits int64 at hcap hused
  unfold left sub int64
  dsimp only at hcap hused ⊢
  omega

section Lifecycle

variable {main peaks stay : List Int} (hcap : A.Fits cap) (hused : A.Fits used) (hstay : ∀ v ∈ stay, 0 ≤ v)
  (hmain : ∀ v ∈ main, 0 ≤ v) (h₁ : A.AdmitsAll cap used (stay ++ main))
  (h₂ : ∀ v ∈ peaks, v ≤ A.left cap (A.fill used stay))

include hcap hused hstay hmain h₁ h₂

/-- Where the free amount was computed without wrapping, the lifecycle reservation is within it. -/
theorem lifecycle_le_left (hleft : A.left cap used = max 0 (cap - used)) :
    stay.sum + max main.sum (peaks.foldl max 0) ≤ A.left cap used := by
  obtain ⟨hs, hfill, -, hafter⟩ :=
    (AdmitsAll.append_iff.mp h₁).1.sum_le_left hcap hused hleft hstay
  obtain ⟨hm, -⟩ := h₁.sum_le_left hcap hused hleft fun v hv =>
    (mem_append.mp hv).elim (hstay v) (hmain v)
  have hp : peaks.foldl max 0 ≤ max 0 (cap - (used + stay.sum)) :=
    foldl_max_le (le_max_left _ _) fun v hv => (h₂ v hv).trans_eq (by rw [hfill, hafter])
  rw [sum_append] at hm
  rw [hleft]
  omega

variable (hle : used ≤ cap) (hpeaks : ∀ v ∈ peaks, 0 ≤ v)

include hle hpeaks

/-- **The lifecycle reservation.** Demands `stay` are admitted first, `main` on top of them, and
each demand of `peaks` alone on top of `stay`. -/
theorem lifecycle_le : used + (stay.sum + max main.sum (peaks.foldl max 0)) ≤ cap ∧
      (stay.sum + max main.sum (peaks.foldl max 0) = 0 ∨ A.Fits (cap - used)) := by
  obtain ⟨hs, hm⟩ := AdmitsAll.append_iff.mp h₁
  obtain ⟨hfill, hsle, hsfree⟩ := hs.fill_le hcap hused hle hstay
  have hstay0 : 0 ≤ stay.sum := sum_nonneg hstay
  have hfit : A.Fits (used + stay.sum) := hused.between hcap (by omega) hsle
  rw [hfill] at hm h₂
  obtain ⟨-, hmle, hmfree⟩ := hm.fill_le hcap hfit hsle hmain
  obtain ⟨hple, hpfree⟩ : used + stay.sum + peaks.foldl max 0 ≤ cap ∧
      (peaks.foldl max 0 = 0 ∨ A.Fits (cap - (used + stay.sum))) := by
    rcases foldl_max_cases peaks 0 with hz | hmem
    · exact ⟨by omega, .inl hz⟩
    · exact add_le_of_le_left hcap hfit hsle (hpeaks _ hmem) (h₂ _ hmem)
  refine ⟨by omega, ?_⟩
  -- once something was admitted on top of `stay`, the whole free amount fits as well
  rcases hsfree with hz | hf
  · rw [hz, Int.add_zero] at hmfree hpfree
    rcases hmfree with hmz | hf
    · exact hpfree.imp_left fun hpz => by omega
    · exact .inr hf
  · exact .inr hf

/-- **The reservation as the type computes it** stays within the capacity: under the conditions
of `lifecycle_le` none of its additions wraps. -/
theorem reserve_le : A.add used (A.add (A.fill 0 stay) (max (A.fill 0 main) (peaks.foldl max 0))) ≤ cap := by
  obtain ⟨hbound, hfree⟩ := lifecycle_le hcap hused hstay hmain h₁ h₂ hle hpeaks
  have hs0 : 0 ≤ stay.sum := sum_nonneg hstay
  have hp0 : 0 ≤ peaks.foldl max 0 := le_foldl_max (.inl rfl)
  -- a value of the type that bounds the whole reservation
  obtain ⟨hi, hhi, hres⟩ : ∃ hi, A.Fits hi ∧ stay.sum + max main.sum (peaks.foldl max 0) ≤ hi := by
    rcases hfree with hzero | hfits
    · exact ⟨0, A.fits_zero, by omega⟩
    · exact ⟨cap - used, hfits, by omega⟩
  have hs : A.fill 0 stay = stay.sum := sum_eq hhi hstay (by omega)
  have hm : A.fill 0 main = main.sum := sum_eq hhi hmain (by omega)
  rw [hs, hm, (A.fits_zero.between hhi (by omega) hres).add_eq, (hused.between hcap (by omega) hbound).add_eq]
  exact hbound

end Lifecycle

end IntArith

/-! ## Sums over several counters -/

/-- **The lifecycle peak of the sums is within the sum of the lifecycle peaks.** -/
theorem sum_lifecycle_le {α : Type} (ds : List α) (stay main : α → Int) (inits : List (α → Int)) :
    (ds.map stay).sum + max (ds.map main).sum ((inits.map fun i => (ds.map i).sum).foldl max 0) ≤
      (ds.map fun d => stay d + max (main d) ((inits.map fun i => i d).foldl max 0)).sum := by
  rw [sum_map_add]
  refine Int.add_le_add_left (max_le ?_ (foldl_max_le ?_ ?_)) _
  · exact sum_le_sum fun d _ => le_max_left _ _
  · exact sum_nonneg (forall_mem_map.mpr fun d _ => le_max_of_le_right (le_foldl_max (.inl rfl)))
  · exact forall_mem_map.mpr fun i hi => sum_le_sum fun d _ =>
      le_max_of_le_right (le_foldl_max (.inr (mem_map_of_mem hi)))

end VGpuManager.Foundation

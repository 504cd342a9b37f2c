import Mathlib.Data.List.AList

/-!
# Loops that may fail

What is known of a loop in `Except` that came to its end: of one that collects (`List.mapM`) and of one that
carries a state (`List.foldlM`). `foldlM_records` is the rule for a loop that only adds to its state. `Alike`
compares two computations step by step.

A loop that cannot fail may change one part of its state at some elements only (`foldl_part`).

The state of such a loop is often a map whose entries are updated one at a time, and each update is checked
(`updateEntry`). The entries grow in whatever order the checks keep (`Grows`).
-/

namespace VGpuManager.Foundation

open List

variable {ε α β σ : Type}

/-- A part of the state that only some elements change: the loop over those. -/
theorem foldl_part (part : σ → β) {step : σ → α → σ} {p : α → Bool} {g : β → α → β}
    (h : ∀ s a, part (step s a) = if p a then g (part s) a else part s) (l : List α) (s : σ) :
    part (l.foldl step s) = (l.filter p).foldl g (part s) := by
  induction l generalizing s with
  | nil => rfl
  | cons a l ih =>
    rw [foldl_cons, ih, h]
    cases hp : p a with
    | true => rw [filter_cons_of_pos hp, foldl_cons, if_pos rfl]
    | false => rw [filter_cons_of_neg (by simp [hp]), if_neg (by simp)]

section Keys

variable {κ : Type} [DecidableEq κ] {key : α → κ} {k : κ} {f : α → α} {l : List α}

/-- Where only the elements of one key are changed, and keep it, the keys are the same. -/
theorem map_key_ite (h : ∀ a ∈ l, key a = k → key (f a) = k) :
    (l.map fun a => if key a = k then f a else a).map key = l.map key := by
  rw [map_map]
  refine map_congr_left fun a ha => ?_
  by_cases hk : key a = k
  · simp [hk, h a ha hk]
  · simp [hk]

theorem mem_map_ite {b : α} (h : b ∈ l.map fun a => if key a = k then f a else a) :
    (b ∈ l ∧ key b ≠ k) ∨ ∃ a ∈ l, key a = k ∧ b = f a := by
  obtain ⟨a, ha, rfl⟩ := mem_map.mp h
  by_cases hk : key a = k
  · exact .inr ⟨a, ha, hk, if_pos hk⟩
  · rw [if_neg hk]
    exact .inl ⟨ha, hk⟩

end Keys

/-- What one element brings about, and every step keeps, holds at the end. -/
theorem foldl_sets {step : σ → α → σ} {Q : σ → Prop} {l : List α} {a : α} (ha : a ∈ l) (hset : ∀ s, Q (step s a))
    (hkeep : ∀ s b, Q s → Q (step s b)) (s : σ) : Q (l.foldl step s) := by
  obtain ⟨before, after, rfl⟩ := append_of_mem ha
  rw [foldl_append]
  exact foldlRecOn after step (hset _) fun s hs b _ => hkeep s b hs

/-- A loop that keeps the last value only. -/
theorem foldl_last {f : α → β} {b : β} {l : List α} (h : ∀ a ∈ l, f a = b) (hne : l ≠ []) (x : Option β) :
    l.foldl (fun _ a => some (f a)) x = some b := by
  induction l generalizing x with
  | nil => exact absurd rfl hne
  | cons a l ih =>
    rw [foldl_cons]
    by_cases hl : l = []
    · rw [hl, foldl_nil, h a mem_cons_self]
    · exact ih (fun c hc => h c (.tail _ hc)) hl _

variable {xs : List α}

section Collect

variable {f : α → Except ε β} {m : Except ε α}

theorem bind_ok {g : α → Except ε β} {b : β} (h : (do let a ← m; g a) = Except.ok b) :
    ∃ a, m = .ok a ∧ g a = .ok b := by
  cases m with
  | error e => cases h
  | ok a => exact ⟨a, rfl, h⟩

theorem bind_error {g : α → Except ε β} {e : ε} (h : (do let a ← m; g a) = Except.error e) :
    m = .error e ∨ ∃ a, m = .ok a ∧ g a = .error e := by
  cases m with
  | error e' => exact .inl (by cases h; rfl)
  | ok a => exact .inr ⟨a, rfl, h⟩

theorem map_ok {g : α → β} {b : β} (h : (do let a ← m; return g a) = Except.ok b) : ∃ a, m = .ok a ∧ g a = b := by
  obtain ⟨a, hm, ha⟩ := bind_ok h
  exact ⟨a, hm, Except.ok.inj ha⟩

/-- A loop that succeeded did so for each element. -/
theorem mem_mapM_ok {ys : List β} (h : xs.mapM f = .ok ys) :
    (∀ x ∈ xs, ∃ y, f x = .ok y) ∧ ∀ y, y ∈ ys ↔ ∃ x ∈ xs, f x = .ok y := by
  induction xs generalizing ys with
  | nil =>
    cases h
    simp
  | cons x xs ih =>
    rw [mapM_cons] at h
    obtain ⟨z, hx, h⟩ := bind_ok h
    obtain ⟨zs, hxs, rfl⟩ := map_ok h
    obtain ⟨hall, hmem⟩ := ih hxs
    refine ⟨forall_mem_cons.mpr ⟨⟨z, hx⟩, hall⟩, fun y => ?_⟩
    simp [hmem, hx, eq_comm]

/-- `f` succeeds on the whole list if it does on each element. -/
theorem mapM_ok_of_forall (h : ∀ x ∈ xs, ∃ y, f x = .ok y) : ∃ ys, xs.mapM f = .ok ys := by
  induction xs with
  | nil => exact ⟨[], rfl⟩
  | cons x xs ih =>
    obtain ⟨y, hy⟩ := h x (.head _)
    obtain ⟨ys, hys⟩ := ih fun z hz => h z (.tail _ hz)
    exact ⟨y :: ys, by rw [mapM_cons, hy, hys]; rfl⟩

theorem mapError_eq_ok {ε' : Type} {g : ε → ε'} {a : α} : m.mapError g = .ok a ↔ m = .ok a := by
  cases m <;> simp [Except.mapError]

/-- What is in the lists that a loop collects. -/
theorem mem_flatten_mapM {f : α → Except ε (List β)} {ys : List (List β)}
    (h : xs.mapM f = .ok ys) (z : β) : z ∈ ys.flatten ↔ ∃ x ∈ xs, ∃ y, f x = .ok y ∧ z ∈ y := by
  rw [mem_flatten]
  constructor
  · intro ⟨y, hy, hz⟩
    obtain ⟨x, hx, hok⟩ := ((mem_mapM_ok h).2 y).mp hy
    exact ⟨x, hx, y, hok, hz⟩
  · intro ⟨x, hx, y, hok, hz⟩
    exact ⟨y, ((mem_mapM_ok h).2 y).mpr ⟨x, hx, hok⟩, hz⟩

end Collect

/-! ## Two computations side by side -/

/-- Both fail with the same error, or both return and the values are related. -/
inductive Alike (R : α → β → Prop) : Except ε α → Except ε β → Prop
  | error (e : ε) : Alike R (.error e) (.error e)
  | ok {a : α} {b : β} (h : R a b) : Alike R (.ok a) (.ok b)

section Alike

variable {γ δ : Type} {R : α → β → Prop} {S : γ → δ → Prop} {x : Except ε α} {y : Except ε β}

theorem Alike.bind {f : α → Except ε γ} {g : β → Except ε δ} (h : Alike R x y)
    (hf : ∀ a b, R a b → Alike S (f a) (g b)) : Alike S (x >>= f) (y >>= g) := by
  cases h with
  | error e => exact .error e
  | ok hab => exact hf _ _ hab

/-- Functions that agree on related values make the results equal. -/
theorem Alike.map_eq {f : α → γ} {g : β → γ} (h : Alike R x y) (hf : ∀ a b, R a b → f a = g b) : x.map f = y.map g := by
  cases h with
  | error e => rfl
  | ok hab => exact congrArg Except.ok (hf _ _ hab)

theorem Alike.ok_left {a : α} (h : Alike R x y) (hx : x = .ok a) : ∃ b, y = .ok b ∧ R a b := by
  cases h with
  | error e => cases hx
  | ok hab =>
    cases hx
    exact ⟨_, rfl, hab⟩

end Alike

/-! ## Loops with a state -/

variable {f : σ → α → Except ε σ} {s : σ}

/-- What every step of a loop keeps holds at its end. -/
theorem foldlM_invariant (inv : σ → Prop) {t : σ}
    (hstep : ∀ a ∈ xs, ∀ s t, inv s → f s a = .ok t → inv t) (hs : inv s) (h : xs.foldlM f s = .ok t) : inv t := by
  induction xs generalizing s with
  | nil =>
    cases h
    exact hs
  | cons x xs ih =>
    obtain ⟨u, hu, hrest⟩ := bind_ok h
    exact ih (fun a ha => hstep a (.tail _ ha)) (hstep x (.head _) s u hs hu) hrest

/-- A loop comes to its end if every step can be taken where the invariant holds. -/
theorem foldlM_ok (inv : σ → Prop) (hstep : ∀ a ∈ xs, ∀ s, inv s → ∃ t, f s a = .ok t ∧ inv t) (hs : inv s) :
    ∃ t, xs.foldlM f s = .ok t ∧ inv t := by
  induction xs generalizing s with
  | nil => exact ⟨s, rfl, hs⟩
  | cons x xs ih =>
    obtain ⟨u, hu, hinv⟩ := hstep x (.head _) s hs
    obtain ⟨t, ht, hinv⟩ := ih (fun a ha => hstep a (.tail _ ha)) hinv
    refine ⟨t, ?_, hinv⟩
    rw [foldlM_cons, hu]
    exact ht

/-- A loop whose steps can be taken or not whatever was done before: it comes to its end if all of them
can be taken, and fails if one cannot. -/
theorem foldlM_ends {e : ε} (inv : σ → Prop) (can : α → Prop)
    (hstep : ∀ a ∈ xs, ∀ s, inv s → can a ∧ (∃ t, f s a = .ok t ∧ inv t) ∨ ¬ can a ∧ f s a = .error e) (hs : inv s) :
    (∀ a ∈ xs, can a) ∧ (∃ t, xs.foldlM f s = .ok t ∧ inv t) ∨ (∃ a ∈ xs, ¬ can a) ∧ xs.foldlM f s = .error e := by
  induction xs generalizing s with
  | nil => exact .inl ⟨nofun, s, rfl, hs⟩
  | cons x xs ih =>
    rw [foldlM_cons]
    rcases hstep x (.head _) s hs with ⟨hcan, t, ht, hinv⟩ | ⟨hcannot, herr⟩
    · rw [ht]
      refine (ih (fun a ha => hstep a (.tail _ ha)) hinv).imp (fun h => ⟨forall_mem_cons.mpr ⟨hcan, h.1⟩, h.2⟩) ?_
      exact fun ⟨⟨a, ha, hcannot⟩, herr⟩ => ⟨⟨a, .tail _ ha, hcannot⟩, herr⟩
    · rw [herr]
      exact .inr ⟨⟨x, .head _, hcannot⟩, rfl⟩

/-- A loop whose steps only add to the state: in the end, what each step has recorded is there. -/
theorem foldlM_records {grows : σ → σ → Prop} (hrefl : ∀ s, grows s s)
    (htrans : ∀ s t u, grows s t → grows t u → grows s u) (recorded : α → σ → Prop)
    (hkeep : ∀ a s t, grows s t → recorded a s → recorded a t) {t : σ}
    (hstep : ∀ a ∈ xs, ∀ s t, f s a = .ok t → grows s t ∧ recorded a t) (h : xs.foldlM f s = .ok t) :
    grows s t ∧ ∀ a ∈ xs, recorded a t := by
  induction xs generalizing s with
  | nil =>
    cases h
    exact ⟨hrefl _, nofun⟩
  | cons x xs ih =>
    obtain ⟨u, hu, hrest⟩ := bind_ok h
    obtain ⟨hsu, hx⟩ := hstep x (.head _) s u hu
    obtain ⟨hut, hxs⟩ := ih (fun a ha => hstep a (.tail _ ha)) hrest
    refine ⟨htrans s u t hsu hut, fun a ha => ?_⟩
    rcases mem_cons.mp ha with rfl | ha
    · exact hkeep _ u t hut hx
    · exact hxs a ha

/-- A loop that came to its end took every step. -/
theorem foldlM_ok_mem {t : σ} (h : xs.foldlM f s = .ok t) : ∀ a ∈ xs, ∃ u v, f u a = .ok v :=
  (@foldlM_records ε α σ xs f s (fun _ _ => True) (fun _ => trivial) (fun _ _ _ _ _ => trivial)
    (fun a _ => ∃ u v, f u a = .ok v) (fun _ _ _ _ h => h) t (fun _ _ u v h => ⟨trivial, u, v, h⟩) h).2

/-! ## Maps that a loop fills -/

section Entries

variable {κ υ : Type} [DecidableEq κ] {m : AList fun _ : κ => υ}

/-- What is found after an insertion is what was put in, or the entry of another key. -/
theorem lookup_insert_cases {k k' : κ} {v w : υ}
    (h : (m.insert k v).lookup k' = some w) : k' = k ∧ w = v ∨ k' ≠ k ∧ m.lookup k' = some w := by
  by_cases hk : k' = k
  · subst hk
    rw [AList.lookup_insert] at h
    exact .inl ⟨rfl, (Option.some.inj h).symm⟩
  · rw [AList.lookup_insert_ne hk] at h
    exact .inr ⟨hk, h⟩

/-- A relation between the entries of different keys, and to the one that is put in. -/
theorem pairwise_insert {R : υ → υ → Prop} {k : κ} {v : υ}
    (h : ∀ i j a b, i ≠ j → m.lookup i = some a → m.lookup j = some b → R a b)
    (hv : ∀ i a, i ≠ k → m.lookup i = some a → R v a ∧ R a v) :
    ∀ i j a b, i ≠ j → (m.insert k v).lookup i = some a → (m.insert k v).lookup j = some b → R a b := by
  intro i j a b hne ha hb
  rcases lookup_insert_cases ha with ⟨hi, rfl⟩ | ⟨hi, ha'⟩
  · rcases lookup_insert_cases hb with ⟨hj, -⟩ | ⟨hj, hb⟩
    · exact absurd (hi.trans hj.symm) hne
    · exact (hv j b hj hb).1
  · rcases lookup_insert_cases hb with ⟨-, rfl⟩ | ⟨-, hb⟩
    · exact (hv i a hi ha').2
    · exact h i j a b hne ha' hb

theorem lookup_of_erase {k k' : κ} {v : υ} (h : (m.erase k).lookup k' = some v) : m.lookup k' = some v := by
  by_cases hk : k' = k
  · subst hk
    rw [AList.lookup_erase] at h
    cases h
  · rwa [AList.lookup_erase_ne hk] at h

/-- What is found under a key that one element has. -/
theorem find?_of_inj {f : α → κ} {l : List α} {a : α} (ha : a ∈ l) (hone : ∀ b ∈ l, f b = f a → b = a) :
    l.find? (fun b => f b = f a) = some a := by
  have hsome : (l.find? fun b => f b = f a).isSome := find?_isSome.mpr ⟨a, ha, by simp⟩
  obtain ⟨b, hb⟩ := Option.isSome_iff_exists.mp hsome
  rw [hb, hone b (mem_of_find?_eq_some hb) (by simpa using find?_some hb)]

/-- Of several entries with one key the last one stays. -/
theorem lookup_foldl_insert (l : List (κ × υ)) (m : AList fun _ : κ => υ) (k : κ) :
    (l.foldl (fun m e => m.insert e.1 e.2) m).lookup k =
      ((l.reverse.find? fun e => e.1 = k).map Prod.snd).or (m.lookup k) := by
  induction l generalizing m with
  | nil => rfl
  | cons e l ih =>
    rw [foldl_cons, ih, reverse_cons, find?_append]
    cases l.reverse.find? fun e => e.1 = k with
    | some f => rfl
    | none =>
      by_cases hk : e.1 = k
      · simp [hk, AList.lookup_insert]
      · simp [hk, AList.lookup_insert_ne (Ne.symm hk)]

/-- One value under several keys. -/
theorem lookup_foldl_insert_const (v : υ) (ks : List κ) (m : AList fun _ : κ => υ) (k : κ) :
    (ks.foldl (fun m k => m.insert k v) m).lookup k = if k ∈ ks then some v else m.lookup k := by
  induction ks generalizing m with
  | nil => simp
  | cons k' ks ih =>
    rw [foldl_cons, ih]
    rcases eq_or_ne k k' with rfl | hne <;> simp [*]

/-- The entry under a key, or the empty one. -/
def entry (empty : υ) (m : AList fun _ : κ => υ) (k : κ) : υ := (m.lookup k).getD empty

/-- The entry is updated, unless the new one is refused. -/
def updateEntry (empty : υ) (add : υ → υ) (refuse : υ → Option ε) (m : AList fun _ : κ => υ) (k : κ) :
    Except ε (AList fun _ : κ => υ) :=
  match refuse (add (entry empty m k)) with
  | some e => .error e
  | none => .ok (m.insert k (add (entry empty m k)))

/-- Every entry grows. -/
def Grows (empty : υ) (le : υ → υ → Prop) (m m' : AList fun _ : κ => υ) : Prop :=
  ∀ k, le (entry empty m k) (entry empty m' k)

variable {k : κ} {add : υ → υ} {empty : υ} {m' : AList fun _ : κ => υ} {refuse : υ → Option ε}

/-- With different keys every entry stays. -/
theorem lookup_foldl_insert_of_mem {l : List (κ × υ)} (hnodup : (l.map Prod.fst).Nodup)
    (m : AList fun _ : κ => υ) {v : υ} (h : (k, v) ∈ l) :
    (l.foldl (fun m e => m.insert e.1 e.2) m).lookup k = some v := by
  rw [lookup_foldl_insert, @find?_of_inj _ _ _ Prod.fst _ _ (mem_reverse.mpr h) fun e he =>
    inj_on_of_nodup_map hnodup (mem_reverse.mp he) h]
  rfl

theorem updateEntry_ok (h : updateEntry empty add refuse m k = .ok m') :
    refuse (add (entry empty m k)) = none ∧ m' = m.insert k (add (entry empty m k)) := by
  unfold updateEntry at h
  split at h
  · cases h
  · next hnone => exact ⟨hnone, (Except.ok.inj h).symm⟩

theorem updateEntry_of_none (h : refuse (add (entry empty m k)) = none) :
    updateEntry empty add refuse m k = .ok (m.insert k (add (entry empty m k))) := by
  unfold updateEntry
  rw [h]

theorem entry_insert (k : κ) (u : υ) : entry empty (m.insert k u) k = u := by
  rw [entry, AList.lookup_insert, Option.getD_some]

theorem entry_insert_of_ne {k' : κ} (u : υ) (h : k' ≠ k) : entry empty (m.insert k u) k' = entry empty m k' := by
  rw [entry, AList.lookup_insert_ne h, entry]

/-- An update lets the map grow if it lets the entry grow, and the entry under its key is as it was made. -/
theorem updateEntry_grows {le : υ → υ → Prop} (hrefl : ∀ u, le u u) (hadd : ∀ u, refuse (add u) = none → le u (add u))
    (h : updateEntry empty add refuse m k = .ok m') :
    Grows empty le m m' ∧ refuse (entry empty m' k) = none ∧ entry empty m' k = add (entry empty m k) := by
  obtain ⟨hnone, rfl⟩ := updateEntry_ok h
  refine ⟨fun k' => ?_, by rwa [entry_insert], entry_insert _ _⟩
  by_cases hk : k' = k
  · subst hk
    rw [entry_insert]
    exact hadd _ hnone
  · rw [entry_insert_of_ne _ hk]
    exact hrefl _

end Entries

end VGpuManager.Foundation

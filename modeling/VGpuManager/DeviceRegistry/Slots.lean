import Mathlib.Algebra.BigOperators.Fin
import Mathlib.Data.List.AList
import VGpuManager.Foundation.Runs

/-!
# The slots of register requests (`pkg/device/registry/server.go`: `acquireSlot`)

A request takes a token of a channel, then a place among the requests of its caller; it gives both back in
the other order. In between the tokens and the places do not agree.
-/

namespace VGpuManager.DeviceRegistry

open Foundation List

variable {κ : Type} [DecidableEq κ]

/-- `inFlight` is the length of the channel. The lists hold the caller keys of the calls that have a token and no
place yet, of the granted slots, and of the calls and release functions that come to `<-s.inFlight` next. -/
structure Slots (κ : Type) where
  inFlight : Nat := 0
  perCaller : AList fun _ : κ => Nat := ∅
  admitted : List κ := []
  granted : List κ := []
  returning : List κ := []

/-- `enter` and `lock` are the steps of `acquireSlot`, `release` is the locked section of the function it returns;
a refused call and a release end with `receive`. -/
inductive SlotEvent (κ : Type) where
  | enter (callerKey : κ)
  | lock (callerKey : κ)
  | release (callerKey : κ)
  | receive (callerKey : κ)

namespace Slots

variable (maxInFlight maxPerCallerResolves : Nat) (s : Slots κ)

/-- `perCaller[callerKey]`, zero for a missing key. -/
def count (callerKey : κ) : Nat := (s.perCaller.lookup callerKey).getD 0

/-- An event that is the next step of no call changes nothing; a receive waits for a token. -/
def step : SlotEvent κ → Slots κ
  | .enter k =>
    if s.inFlight < maxInFlight then { s with inFlight := s.inFlight + 1, admitted := k :: s.admitted } else s
  | .lock k =>
    if k ∉ s.admitted then s
    else if maxPerCallerResolves ≤ s.count k then
      { s with admitted := s.admitted.erase k, returning := k :: s.returning }
    else { s with
      perCaller := s.perCaller.insert k (s.count k + 1)
      admitted := s.admitted.erase k
      granted := k :: s.granted }
  | .release k =>
    if k ∉ s.granted then s
    else { s with
      perCaller := if s.count k ≤ 1 then s.perCaller.erase k else s.perCaller.insert k (s.count k - 1)
      granted := s.granted.erase k
      returning := k :: s.returning }
  | .receive k =>
    if k ∉ s.returning ∨ s.inFlight = 0 then s
    else { s with inFlight := s.inFlight - 1, returning := s.returning.erase k }

/-- The sum of the counts in the map. -/
def total : Nat := (s.perCaller.entries.map fun e => e.2).sum

/-- Every call under way and every slot has a token; the map counts the slots. -/
structure Inv : Prop where
  tokens : s.inFlight = s.admitted.length + s.granted.length + s.returning.length
  bound : s.inFlight ≤ maxInFlight
  counts : ∀ k, s.perCaller.lookup k = if s.granted.count k = 0 then none else some (s.granted.count k)
  capped : ∀ k, s.granted.count k ≤ maxPerCallerResolves

variable {maxInFlight maxPerCallerResolves s} (h : s.Inv maxInFlight maxPerCallerResolves)

include h

theorem Inv.count_eq (k : κ) : s.count k = s.granted.count k := by
  rw [count, h.counts]
  split <;> simp_all

theorem Inv.lock {k : κ} (hk : k ∈ s.admitted) : (s.step maxInFlight maxPerCallerResolves (.lock k)).Inv
    maxInFlight maxPerCallerResolves := by
  obtain ⟨htokens, hbound, hcounts, hcapped⟩ := id h
  have hlen := length_erase_add_one hk
  simp only [Slots.step, not_not.mpr hk, if_false, h.count_eq]
  split
  · exact ⟨by simp; omega, hbound, hcounts, hcapped⟩
  · next hroom =>
    refine ⟨by simp; omega, hbound, fun j => ?_, fun j => ?_⟩
    · by_cases hj : j = k
      · subst hj
        simp
      · simp [AList.lookup_insert_ne hj, hcounts, count_cons_of_ne (Ne.symm hj)]
    · by_cases hj : j = k
      · subst hj
        rw [count_cons_self]
        omega
      · rw [count_cons_of_ne (Ne.symm hj)]
        exact hcapped j

theorem Inv.release {k : κ} (hk : k ∈ s.granted) : (s.step maxInFlight maxPerCallerResolves (.release k)).Inv
    maxInFlight maxPerCallerResolves := by
  obtain ⟨htokens, hbound, hcounts, hcapped⟩ := id h
  have hlen := length_erase_add_one hk
  have hpos := count_pos_iff.mpr hk
  simp only [Slots.step, not_not.mpr hk, if_false, h.count_eq]
  refine ⟨by simp; omega, hbound, fun j => ?_, fun j => (erase_sublist.count_le j).trans (hcapped j)⟩
  by_cases hj : j = k
  · subst hj
    rw [count_erase_self]
    split
    all_goals
      simp
      omega
  · rw [count_erase_of_ne hj, ← hcounts]
    split
    · exact AList.lookup_erase_ne hj
    · exact AList.lookup_insert_ne hj

theorem Inv.step (e : SlotEvent κ) :
    (s.step maxInFlight maxPerCallerResolves e).Inv maxInFlight maxPerCallerResolves := by
  obtain ⟨htokens, hbound, hcounts, hcapped⟩ := id h
  cases e with
  | enter k =>
    simp only [Slots.step]
    split
    · exact ⟨by simp; omega, by simpa, hcounts, hcapped⟩
    · exact h
  | lock k =>
    by_cases hk : k ∈ s.admitted
    · exact h.lock hk
    · simpa [Slots.step, hk] using h
  | release k =>
    by_cases hk : k ∈ s.granted
    · exact h.release hk
    · simpa [Slots.step, hk] using h
  | receive k =>
    simp only [Slots.step]
    split
    · exact h
    · next hk =>
      obtain ⟨hk, hne⟩ := not_or.mp hk
      have hlen := length_erase_add_one (not_not.mp hk)
      exact ⟨by simp; omega, by simp; omega, hcounts, hcapped⟩

theorem Inv.total_eq : s.total = s.granted.length := by
  have hlookup (k v) : s.perCaller.lookup k = some v ↔ v = s.granted.count k ∧ k ∈ s.granted := by
    rw [h.counts]
    split
    · next hzero => simp [count_eq_zero.mp hzero]
    · next hne => simp [eq_comm, count_pos_iff.mp (Nat.pos_of_ne_zero hne)]
  have hkeys : s.perCaller.keys.Perm s.granted.dedup := by
    refine (perm_ext_iff_of_nodup s.perCaller.keys_nodup (nodup_dedup _)).mpr fun k => ?_
    rw [mem_dedup, ← AList.mem_keys, ← AList.lookup_isSome, Option.isSome_iff_exists]
    simp [hlookup]
  calc s.total
    _ = (s.perCaller.keys.map s.granted.count).sum := by
      rw [total, AList.keys, keys, map_map]
      congr 1
      exact map_congr_left fun e he => ((hlookup e.1 e.2).mp (AList.mem_lookup_iff.mpr he)).1
    _ = s.granted.length := by rw [(hkeys.map _).sum_eq, sum_map_count_dedup_eq_length]

omit h

/-- **Both budgets are kept in every interleaving**, a receive finds a token, and when no call is under way the
channel, the map and the granted slots have the same number. -/
theorem slots_within_budget (maxInFlight maxPerCallerResolves : Nat) (es : List (SlotEvent κ)) :
    let s := run (Slots.step maxInFlight maxPerCallerResolves) {} es
    s.granted.length ≤ maxInFlight ∧ (∀ callerKey, s.granted.count callerKey ≤ maxPerCallerResolves) ∧
    (s.returning ≠ [] → 0 < s.inFlight) ∧
    (s.admitted = [] ∧ s.returning = [] → s.inFlight = s.total ∧ s.total = s.granted.length) := by
  intro s
  have h : s.Inv maxInFlight maxPerCallerResolves :=
    @run_invariant _ _ _ (fun _ _ => True) _ (fun s e h _ => h.step e) es _
      ⟨rfl, Nat.zero_le _, fun _ => rfl, fun _ => Nat.zero_le _⟩ (.of_forall (fun _ _ => trivial) es _)
  obtain ⟨htokens, hbound, -, hcapped⟩ := id h
  refine ⟨by omega, hcapped, fun hwait => ?_, fun ⟨hadmitted, hreturning⟩ => ⟨?_, h.total_eq⟩⟩
  · have := length_pos_iff.mpr hwait
    omega
  · rw [h.total_eq, htokens, hadmitted, hreturning]
    simp

end Slots

end VGpuManager.DeviceRegistry

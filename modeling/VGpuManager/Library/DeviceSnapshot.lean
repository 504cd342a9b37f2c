import Mathlib.Data.Fintype.Basic
import VGpuManager.Foundation.Runs

/-!
# The device record and its sequence counter (`vgpu_config.go`, `config_io.c`)

`ModifyDevice` changes one device of the shared configuration under a write lock: it increments
the sequence counter, lets the mutation assign its fields and increments the counter again. A
reader takes no lock; it loads the counter, copies the record field by field, loads the counter
again and keeps the copy if the two loads agree on an even number.
-/

namespace VGpuManager.DeviceSnapshot

open Foundation List Function

/-! ## 1. The record and its writers -/

/-- One field of the record, with the call of `ModifyDevice` that assigned it last. -/
structure Cell (V : Type) where
  value : V
  author : Option Nat
deriving DecidableEq, Repr

/-- How far a call of `ModifyDevice` got: it has the lock, it is between its increments, it has
made both. -/
inductive Phase where
  | locked
  | writing
  | published
deriving DecidableEq, Repr

/-- A call that holds the write lock. The mutation is the list of its assignments, `done` of which
it has made. -/
structure Writer (ι V : Type) where
  call : Nat
  mutation : List (ι × V)
  phase : Phase
  done : Nat

/-- The record, the holder of its write lock, how many calls got the lock so far and how many died
between their increments. -/
structure Shared (ι V : Type) where
  seq : UInt32
  cell : ι → Cell V
  writer : Option (Writer ι V)
  calls : Nat
  dead : Nat

inductive WriteEvent (ι V : Type) where
  | acquire (mutation : List (ι × V))
  | increment
  | assign
  | publish
  | release
  /-- The holder's process dies; the kernel closes its file and with it the lock. -/
  | die

variable {ι V : Type} [DecidableEq ι]

/-- One step of `ModifyDevice`. -/
def Shared.step (s : Shared ι V) : WriteEvent ι V → Shared ι V
  | .acquire mutation =>
    match s.writer with
    -- `F_SETLKW` waits
    | some _ => s
    | none => { s with writer := some ⟨s.calls, mutation, .locked, 0⟩, calls := s.calls + 1 }
  | .increment =>
    match s.writer with
    | some w =>
      if w.phase = .locked then
        { s with seq := s.seq + 1, writer := some { w with phase := .writing } }
      else s
    | none => s
  | .assign =>
    match s.writer with
    | some w =>
      if w.phase = .writing then
        match w.mutation[w.done]? with
        | some (i, v) =>
          { s with
            cell := Function.update s.cell i ⟨v, some w.call⟩
            writer := some { w with done := w.done + 1 } }
        | none => s
      else s
    | none => s
  | .publish =>
    match s.writer with
    | some w =>
      if w.phase = .writing ∧ w.done = w.mutation.length then
        { s with seq := s.seq + 1, writer := some { w with phase := .published } }
      else s
    | none => s
  | .release =>
    match s.writer with
    | some w => if w.phase = .published then { s with writer := none } else s
    | none => s
  | .die =>
    match s.writer with
    | some w => { s with writer := none, dead := s.dead + if w.phase = .writing then 1 else 0 }
    | none => s

variable (n : UInt32)

/-- A record no call has touched; the counter may have any even value. -/
def Shared.initial (value : ι → V) : Shared ι V where
  seq := 2 * n
  cell i := ⟨value i, none⟩
  writer := none
  calls := 0
  dead := 0

/-! ## 2. Readers -/

/-- `CONFIG_SEQ_SPIN_LIMIT`. -/
def configSeqSpinLimit : Nat := 1024

/-- One call of `get_device_snapshot_of` or of `GetDeviceSnapshot`. -/
inductive Reader (ι V : Type) where
  | spinning (spins : Nat)
  | copying (spins : Nat) (s1 : UInt32) (copied : ι → Option (Cell V))
  | returned (snap : ι → Cell V)
  /-- The spin cap is hit: the copy is taken under the read lock. -/
  | locking

inductive ReadEvent (ι : Type) where
  | load
  | copy (i : ι)
  | check

def Reader.retry (spins : Nat) : Reader ι V :=
  if configSeqSpinLimit ≤ spins + 1 then .locking else .spinning (spins + 1)

variable [Fintype ι]

/-- One step of the lock-free path over the record as it is now. -/
def Reader.step (s : Shared ι V) : Reader ι V → ReadEvent ι → Reader ι V
  | .spinning spins, .load =>
    if s.seq &&& 1 = 0 then .copying spins s.seq fun _ => none else .retry spins
  | .copying spins s1 copied, .copy i =>
    if (copied i).isSome then .copying spins s1 copied
    else .copying spins s1 (Function.update copied i (some (s.cell i)))
  | .copying spins s1 copied, .check =>
    if h : ∀ i, (copied i).isSome then
      if s.seq = s1 then .returned fun i => (copied i).get (h i) else .retry spins
    else .copying spins s1 copied
  | r, _ => r

structure World (ι V : Type) where
  shared : Shared ι V
  readers : Nat → Reader ι V

inductive Event (ι V : Type) where
  | write (e : WriteEvent ι V)
  | read (r : Nat) (e : ReadEvent ι)

def World.step (s : World ι V) : Event ι V → World ι V
  | .write e => { s with shared := s.shared.step e }
  | .read r e => { s with readers := Function.update s.readers r ((s.readers r).step s.shared e) }

def World.initial (value : ι → V) : World ι V where
  shared := .initial n value
  readers _ := .spinning 0

/-! ## 3. Mixed snapshots -/

/-- The fields the call assigns, and those it has assigned so far. -/
def Writer.assigns (w : Writer ι V) (i : ι) : Prop := i ∈ w.mutation.map Prod.fst

def Writer.assigned (w : Writer ι V) (i : ι) : Prop := i ∈ (w.mutation.take w.done).map Prod.fst

/-- A live writer is between its increments, and the snapshot has one field from after its
assignment and another from before. -/
def Mixed (s : Shared ι V) (snap : ι → Cell V) : Prop :=
  ∃ w, s.writer = some w ∧ w.phase = .writing ∧
    ∃ i j, (snap i).author = some w.call ∧ w.assigns j ∧ (snap j).author ≠ some w.call

/-- The event lets the reader return the snapshot from its lock-free path. -/
def Returns (s : World ι V) (e : Event ι V) (r : Nat) (snap : ι → Cell V) : Prop :=
  (s.step e).readers r = .returned snap ∧ s.readers r ≠ .returned snap

/-- The event makes no reader return a mixed snapshot. -/
def Unmixed (s : World ι V) (e : Event ι V) : Prop :=
  ∀ r snap, Returns s e r snap → ¬ Mixed s.shared snap

/-- A live writer that came after an odd number of dead ones has assigned one field and assigns
another. -/
def Exposed (s : Shared ι V) : Prop :=
  ∃ w, s.writer = some w ∧ w.phase = .writing ∧ s.dead % 2 = 1 ∧ ∃ i j, w.assigned i ∧ w.assigns j ∧ j ≠ i

/-- The steps of the writers in an interleaving. -/
def writes : List (Event ι V) → List (WriteEvent ι V)
  | [] => []
  | .write e :: es => e :: writes es
  | .read _ _ :: es => writes es

/-! ## 4. What the writers keep -/

section Writers

omit [Fintype ι]

/-- Everything a step of the writers can do. -/
inductive Moves : Shared ι V → Shared ι V → Prop where
  | stays (s) : Moves s s
  | acquired (s) (mutation) (hfree : s.writer = none) :
      Moves s { s with writer := some ⟨s.calls, mutation, .locked, 0⟩, calls := s.calls + 1 }
  | incremented (s w) (hw : s.writer = some w) (hp : w.phase = .locked) :
      Moves s { s with seq := s.seq + 1, writer := some { w with phase := .writing } }
  | assigned (s w i v) (hw : s.writer = some w) (hp : w.phase = .writing)
      (hnext : w.mutation[w.done]? = some (i, v)) :
      Moves s { s with
        cell := Function.update s.cell i ⟨v, some w.call⟩
        writer := some { w with done := w.done + 1 } }
  | published (s w) (hw : s.writer = some w) (hp : w.phase = .writing) :
      Moves s { s with seq := s.seq + 1, writer := some { w with phase := .published } }
  | released (s w) (hw : s.writer = some w) (hp : w.phase = .published) : Moves s { s with writer := none }
  | died (s w) (hw : s.writer = some w) :
      Moves s { s with writer := none, dead := s.dead + if w.phase = .writing then 1 else 0 }

theorem Shared.step_moves (s : Shared ι V) (e : WriteEvent ι V) : Moves s (s.step e) := by
  cases hw : s.writer with
  | none =>
    cases e <;> simp only [Shared.step, hw] <;> first | exact .stays s | exact .acquired s _ hw
  | some w =>
    cases e <;> simp only [Shared.step, hw]
    case acquire => exact .stays s
    case increment =>
      split
      · exact .incremented s w hw ‹_›
      · exact .stays s
    case assign =>
      split
      · split
        · exact .assigned s w _ _ hw ‹_› ‹_›
        · exact .stays s
      · exact .stays s
    case publish =>
      split
      · exact .published s w hw (And.left ‹_›)
      · exact .stays s
    case release =>
      split
      · exact .released s w hw ‹_›
      · exact .stays s
    case die => exact .died s w hw

/-- One if a live writer is between its increments. -/
def Shared.midway (s : Shared ι V) : Nat :=
  match s.writer with
  | some w => if w.phase = .writing then 1 else 0
  | none => 0

/-- The counter counts the increments modulo two, and the cells name the calls that assigned
them. -/
structure Shared.Sound (s : Shared ι V) : Prop where
  parity : s.seq.toNat % 2 = (s.dead + s.midway) % 2
  authors : ∀ i c, (s.cell i).author = some c → c < s.calls
  call : ∀ w, s.writer = some w → w.call < s.calls
  locked : ∀ w, s.writer = some w → w.phase = .locked → w.done = 0
  assigned : ∀ w, s.writer = some w → ∀ i, (s.cell i).author = some w.call ↔ w.assigned i

theorem toNat_succ_mod_two (n : UInt32) : (n + 1).toNat % 2 = (n.toNat + 1) % 2 := by
  rw [UInt32.toNat_add]
  have : (1 : UInt32).toNat = 1 := rfl
  omega

omit [DecidableEq ι] in
theorem Shared.initial_sound (n : UInt32) (value : ι → V) : (Shared.initial n value).Sound where
  parity := by
    have htwo : (2 : UInt32).toNat = 2 := rfl
    simp only [Shared.initial, Shared.midway, UInt32.toNat_mul, htwo]
    omega
  authors := by simp [Shared.initial]
  call := by simp [Shared.initial]
  locked := by simp [Shared.initial]
  assigned := by simp [Shared.initial]

omit [DecidableEq ι] in
/-- The fields assigned after one more assignment. -/
theorem Writer.assigned_succ {w : Writer ι V} {i : ι} {v : V} (hnext : w.mutation[w.done]? = some (i, v)) (k : ι) :
    ({ w with done := w.done + 1 } : Writer ι V).assigned k ↔ w.assigned k ∨ k = i := by
  obtain ⟨hlt, heq⟩ := List.getElem?_eq_some_iff.mp hnext
  simp [Writer.assigned, List.take_succ_eq_append_getElem hlt, heq]

/-- **A step of the writers keeps the invariant.** -/
theorem Moves.sound {s s' : Shared ι V} (h : Moves s s') (hs : s.Sound) : s'.Sound := by
  have hpar := hs.parity
  cases h with
  | stays => exact hs
  | acquired mutation hfree =>
    simp only [Shared.midway, hfree] at hpar
    refine ⟨by simpa [Shared.midway] using hpar, ?_, ?_, ?_, ?_⟩
    · exact fun i c hc => Nat.lt_succ_of_lt (hs.authors i c hc)
    · rintro w ⟨⟩; exact Nat.lt_succ_self _
    · rintro w ⟨⟩ -; rfl
    · -- the call is new
      rintro w ⟨⟩ i
      simp only [Writer.assigned, take_zero, map_nil, not_mem_nil, iff_false]
      exact fun hc => absurd (hs.authors i _ hc) (Nat.lt_irrefl _)
  | incremented w hw hp =>
    simp only [Shared.midway, hw, hp] at hpar
    refine ⟨?_, hs.authors, ?_, ?_, ?_⟩
    · simp only [Shared.midway, toNat_succ_mod_two, if_true]
      simp at hpar
      omega
    · rintro _ ⟨⟩; exact hs.call w hw
    · rintro _ ⟨⟩ h; cases h
    · rintro _ ⟨⟩ i; exact hs.assigned w hw i
  | assigned w i v hw hp hnext =>
    simp only [Shared.midway, hw, hp] at hpar
    refine ⟨by simpa [Shared.midway, hp] using hpar, ?_, ?_, ?_, ?_⟩
    · intro k c hc
      by_cases hk : k = i
      · subst hk
        obtain rfl : w.call = c := by simpa using hc
        exact hs.call w hw
      · exact hs.authors k c (by simpa [update_of_ne hk] using hc)
    · rintro _ ⟨⟩; exact hs.call w hw
    · rintro _ ⟨⟩ h; exact absurd (h.symm.trans hp) (by decide)
    · rintro _ ⟨⟩ k
      rw [Writer.assigned_succ hnext]
      by_cases hk : k = i
      · simp [hk]
      · simpa [update_of_ne hk, hk] using hs.assigned w hw k
  | published w hw hp =>
    simp only [Shared.midway, hw, hp] at hpar
    refine ⟨?_, hs.authors, ?_, ?_, ?_⟩
    · simp only [Shared.midway, toNat_succ_mod_two]
      simp at hpar ⊢
      omega
    · rintro _ ⟨⟩; exact hs.call w hw
    · rintro _ ⟨⟩ h; cases h
    · rintro _ ⟨⟩ i; exact hs.assigned w hw i
  | released w hw hp =>
    simp only [Shared.midway, hw, hp] at hpar
    exact ⟨by simpa [Shared.midway] using hpar, hs.authors, by simp, by simp, by simp⟩
  | died w hw =>
    simp only [Shared.midway, hw] at hpar
    exact ⟨by simpa [Shared.midway] using hpar, hs.authors, by simp, by simp, by simp⟩

theorem Shared.run_sound {s : Shared ι V} (hs : s.Sound) (es : List (WriteEvent ι V)) : (run Shared.step s es).Sound :=
  foldlRecOn es Shared.step hs fun s hs e _ => (s.step_moves e).sound hs

end Writers

/-! ## 5. What the readers keep -/

/-- The counter a reader copies under was even, and a cell it copied from the writer that is at
work now is one that writer has assigned. -/
structure World.Sound (s : World ι V) : Prop where
  shared : s.shared.Sound
  even : ∀ r spins s1 copied, s.readers r = .copying spins s1 copied → s1 &&& 1 = 0
  authors : ∀ r spins s1 copied, s.readers r = .copying spins s1 copied →
    ∀ i cell c, copied i = some cell → cell.author = some c → c < s.shared.calls
  assigned : ∀ r spins s1 copied, s.readers r = .copying spins s1 copied →
    ∀ i cell w, copied i = some cell → s.shared.writer = some w → cell.author = some w.call → w.assigned i

omit [DecidableEq ι] [Fintype ι] in
theorem World.initial_sound (value : ι → V) : (World.initial n value).Sound where
  shared := Shared.initial_sound n value
  even := by simp [World.initial]
  authors := by simp [World.initial]
  assigned := by simp [World.initial]

omit [Fintype ι] in
/-- What is copied from the writer at work stays assigned by it, whatever the writers do. -/
theorem Moves.assigned_kept {s s' : Shared ι V} (h : Moves s s') {i : ι} {c : Nat}
    (hc : c < s.calls) (hkept : ∀ w, s.writer = some w → c = w.call → w.assigned i) :
    c < s'.calls ∧ ∀ w, s'.writer = some w → c = w.call → w.assigned i := by
  cases h with
  | stays => exact ⟨hc, hkept⟩
  | acquired mutation hfree =>
    refine ⟨Nat.lt_succ_of_lt hc, ?_⟩
    rintro w ⟨⟩ rfl
    exact absurd hc (Nat.lt_irrefl _)
  | incremented w hw hp => exact ⟨hc, by rintro _ ⟨⟩ h; exact hkept w hw h⟩
  | assigned w k v hw hp hnext =>
    refine ⟨hc, ?_⟩
    rintro _ ⟨⟩ h
    exact (Writer.assigned_succ hnext i).mpr (.inl (hkept w hw h))
  | published w hw hp => exact ⟨hc, by rintro _ ⟨⟩ h; exact hkept w hw h⟩
  | released _ _ _ | died _ _ => exact ⟨hc, by simp⟩

/-- A reader that copies after a step did so before it, or has just loaded the counter. -/
theorem Reader.step_copying {s : Shared ι V} {r : Reader ι V} {e : ReadEvent ι} {spins : Nat}
    {s1 : UInt32} {copied : ι → Option (Cell V)} (h : r.step s e = .copying spins s1 copied) :
    (s1 &&& 1 = 0 ∧ copied = fun _ => none) ∨ ∃ before, r = .copying spins s1 before ∧
        ∀ i cell, copied i = some cell → before i = some cell ∨ cell = s.cell i := by
  have hretry : ∀ n, (Reader.retry n : Reader ι V) ≠ .copying spins s1 copied := by
    intro n; unfold Reader.retry; split <;> simp
  unfold Reader.step at h
  split at h
  · split at h
    · obtain ⟨-, rfl, rfl⟩ := Reader.copying.inj h
      exact .inl ⟨‹_›, rfl⟩
    · exact absurd h (hretry _)
  · rename_i n s0 before k
    split at h
    · obtain ⟨rfl, rfl, rfl⟩ := Reader.copying.inj h
      exact .inr ⟨before, rfl, fun i cell hi => .inl hi⟩
    · obtain ⟨rfl, rfl, rfl⟩ := Reader.copying.inj h
      refine .inr ⟨before, rfl, fun i cell hi => ?_⟩
      by_cases hik : i = k
      · subst hik
        exact .inr (by simpa using hi.symm)
      · exact .inl (by simpa [update_of_ne hik] using hi)
  · split at h
    · split at h
      · cases h
      · exact absurd h (hretry _)
    · exact .inr ⟨_, h, fun i cell hi => .inl hi⟩
  · exact .inr ⟨_, h, fun i cell hi => .inl hi⟩

variable {s : World ι V}

theorem World.step_sound (hs : s.Sound) (e : Event ι V) : (s.step e).Sound := by
  cases e with
  | write e =>
    have hm := s.shared.step_moves e
    refine ⟨hm.sound hs.shared, hs.even, ?_, ?_⟩
    · intro r spins s1 copied hr i cell c hi hc
      refine (hm.assigned_kept (i := i) (hs.authors r spins s1 copied hr i cell c hi hc) ?_).1
      exact fun w hw hcw => hs.assigned r spins s1 copied hr i cell w hi hw (hcw ▸ hc)
    · intro r spins s1 copied hr i cell w hi hw hc
      refine (hm.assigned_kept (hs.authors r spins s1 copied hr i cell _ hi hc) ?_).2 w hw rfl
      exact fun w' hw' hcw => hs.assigned r spins s1 copied hr i cell w' hi hw' (hcw ▸ hc)
  | read k e =>
    -- a copying reader is one from before, but for its new cell
    have hcopying : ∀ r spins s1 copied, update s.readers k ((s.readers k).step s.shared e) r =
          .copying spins s1 copied →
        (s1 &&& 1 = 0 ∧ copied = fun _ => none) ∨ ∃ before, s.readers r = .copying spins s1 before ∧
            ∀ i cell, copied i = some cell → before i = some cell ∨ cell = s.shared.cell i := by
      intro r spins s1 copied hr
      by_cases hrk : r = k
      · subst hrk
        exact Reader.step_copying (by simpa using hr)
      · rw [update_of_ne hrk] at hr
        exact .inr ⟨copied, hr, fun i cell hi => .inl hi⟩
    refine ⟨hs.shared, ?_, ?_, ?_⟩
    · intro r spins s1 copied hr
      rcases hcopying r spins s1 copied hr with ⟨heven, -⟩ | ⟨before, hb, -⟩
      · exact heven
      · exact hs.even r spins s1 before hb
    · intro r spins s1 copied hr i cell c hi hc
      rcases hcopying r spins s1 copied hr with ⟨-, rfl⟩ | ⟨before, hb, hcells⟩
      · cases hi
      · rcases hcells i cell hi with hi | rfl
        · exact hs.authors r spins s1 before hb i cell c hi hc
        · exact hs.shared.authors i c hc
    · intro r spins s1 copied hr i cell w hi hw hc
      rcases hcopying r spins s1 copied hr with ⟨-, rfl⟩ | ⟨before, hb, hcells⟩
      · cases hi
      · rcases hcells i cell hi with hi | rfl
        · exact hs.assigned r spins s1 before hb i cell w hi hw hc
        · exact (hs.shared.assigned w hw i).mp hc

/-- A snapshot is returned by a check that finds the counter as it was loaded. -/
theorem Returns.copied {e : Event ι V} {r : Nat} {snap : ι → Cell V}
    (h : Returns s e r snap) : ∃ spins copied, s.readers r = .copying spins s.shared.seq copied ∧
      ∀ i, copied i = some (snap i) := by
  obtain ⟨hret, hnew⟩ := h
  cases e with
  | write e => exact absurd hret hnew
  | read k e =>
    simp only [World.step] at hret
    by_cases hrk : r = k
    · subst hrk
      rw [update_self] at hret
      have hretry : ∀ n, (Reader.retry n : Reader ι V) ≠ .returned snap := by
        intro n; unfold Reader.retry; split <;> simp
      unfold Reader.step at hret
      split at hret
      · split at hret
        · cases hret
        · exact absurd hret (hretry _)
      · split at hret <;> cases hret
      · rename_i spins s1 copied heq
        split at hret
        · rename_i hall
          split at hret
          · rename_i hseq
            obtain rfl := Reader.returned.inj hret
            exact ⟨spins, copied, hseq ▸ heq, fun i => by simp⟩
          · exact absurd hret (hretry _)
        · cases hret
      · exact absurd hret hnew
    · rw [update_of_ne hrk] at hret
      exact absurd hret hnew

theorem even_iff : n &&& 1 = 0 ↔ n.toNat % 2 = 0 := by
  rw [← UInt32.toNat_inj, UInt32.toNat_and]
  show n.toNat &&& 1 = 0 ↔ _
  rw [Nat.and_one_is_mod]

/-- **A mixed snapshot exposes the writer.** -/
theorem World.Sound.exposed (hs : s.Sound) {e : Event ι V} {r : Nat}
    {snap : ι → Cell V} (h : Returns s e r snap) (hmixed : Mixed s.shared snap) : Exposed s.shared := by
  obtain ⟨w, hw, hp, i, j, hi, hj, hnot⟩ := hmixed
  obtain ⟨spins, copied, hr, hcopied⟩ := h.copied
  have heven := (even_iff _).mp (hs.even r spins _ copied hr)
  have hpar := hs.shared.parity
  simp only [Shared.midway, hw, hp, if_true] at hpar
  refine ⟨w, hw, hp, by omega, i, j, ?_, hj, ?_⟩
  · exact hs.assigned r spins _ copied hr i (snap i) w (hcopied i) hw hi
  · rintro rfl
    exact hnot hi

theorem World.run_sound (hs : s.Sound) (es : List (Event ι V)) : (run World.step s es).Sound :=
  foldlRecOn es World.step hs fun _ hs e _ => World.step_sound hs e

/-! ## 6. Interleavings -/

omit [DecidableEq ι] [Fintype ι] in
theorem writes_append : ∀ xs ys : List (Event ι V), writes (xs ++ ys) = writes xs ++ writes ys
  | [], _ => rfl
  | .write e :: xs, ys => congrArg (e :: ·) (writes_append xs ys)
  | .read _ _ :: xs, ys => writes_append xs ys

/-- Readers leave the record alone. -/
theorem run_shared (es : List (Event ι V)) (s : World ι V) :
    (run World.step s es).shared = run Shared.step s.shared (writes es) := by
  induction es generalizing s with
  | nil => rfl
  | cons e es ih =>
    cases e with
    | write e => exact ih (s.step (.write e))
    | read r e => exact ih (s.step (.read r e))

omit [DecidableEq ι] [Fintype ι] in
@[simp] theorem writes_map_write (vs : List (WriteEvent ι V)) : writes (vs.map .write) = vs := by
  induction vs with
  | nil => rfl
  | cons v vs ih => exact congrArg (v :: ·) ih

theorem run_map_write_readers (vs : List (WriteEvent ι V)) (s : World ι V) :
    (run World.step s (vs.map .write)).readers = s.readers := by
  induction vs generalizing s with
  | nil => rfl
  | cons v vs ih => exact ih (s.step (.write v))

/-- The copying of several fields by one reader. -/
def copies (r : Nat) (fields : List ι) : List (Event ι V) := fields.map fun i => .read r (.copy i)

omit [DecidableEq ι] [Fintype ι] in
@[simp] theorem writes_copies (r : Nat) (fields : List ι) : writes (copies r fields : List (Event ι V)) = [] := by
  induction fields with
  | nil => rfl
  | cons i fields ih => exact ih

/-- After the copying of fields not yet copied they are there as the record has them. -/
theorem run_copies {r spins : Nat} {s1 : UInt32} {fields : List ι} (hdup : fields.Nodup)
    {copied : ι → Option (Cell V)} (hr : s.readers r = .copying spins s1 copied)
    (hnone : ∀ i ∈ fields, copied i = none) :
    (run World.step s (copies r fields)).readers r = .copying spins s1 fun i =>
      if i ∈ fields then some (s.shared.cell i) else copied i := by
  induction fields generalizing s copied with
  | nil => simpa [copies, run] using hr
  | cons k fields ih =>
    obtain ⟨hk, hdup⟩ := nodup_cons.mp hdup
    have hcopy : (s.step (.read r (.copy k))).readers r =
        .copying spins s1 (update copied k (some (s.shared.cell k))) := by
      simp [World.step, hr, Reader.step, hnone k (by simp)]
    have hrest : ∀ i ∈ fields, update copied k (some (s.shared.cell k)) i = none := by
      intro i hi
      have hne : i ≠ k := fun h => hk (h ▸ hi)
      rw [update_of_ne hne]
      exact hnone i (by simp [hi])
    have hrun := ih hdup hcopy hrest
    refine Eq.trans hrun (congrArg _ (funext fun i => ?_))
    by_cases hi : i = k
    · simp [hi, hk]
    · simp [hi, World.step]

/-! ## 7. The exact condition -/

omit [Fintype ι] in
/-- A writer between its increments was so before its first assignment, and the counter has not
moved since. -/
theorem run_opened {s : Shared ι V} (hs : s.Sound) (hfree : s.writer = none)
    (vs : List (WriteEvent ι V)) : ∀ {w}, (run Shared.step s vs).writer = some w →
      w.phase = .writing → ∃ us ts, vs = us ++ ts ∧ (run Shared.step s us).writer = some { w with done := 0 } ∧
        (run Shared.step s us).seq = (run Shared.step s vs).seq := by
  induction vs using reverseRecOn with
  | nil =>
    intro w hw
    exact absurd (hfree.symm.trans hw) (by simp)
  | append_singleton vs e ih =>
    intro w hw hp
    have hrun : run Shared.step s (vs ++ [e]) = (run Shared.step s vs).step e := by
      rw [run_append]; rfl
    have hbefore := Shared.run_sound hs vs
    rw [hrun] at hw ⊢
    revert hw
    generalize hs' : (run Shared.step s vs).step e = s'
    have hm : Moves (run Shared.step s vs) s' := hs' ▸ Shared.step_moves _ e
    intro hw
    cases hm with
    | stays =>
      obtain ⟨us, ts, rfl, hus, hseq⟩ := ih hw hp
      exact ⟨us, ts ++ [e], by simp, hus, hseq⟩
    | acquired mutation hfree =>
      cases hw
      cases hp
    | incremented w₀ hw₀ hp₀ =>
      cases hw
      refine ⟨vs ++ [e], [], by simp, ?_, ?_⟩
      · rw [hrun, hs']
        simp [hbefore.locked w₀ hw₀ hp₀]
      · rw [hrun, hs']
    | assigned w₀ i v hw₀ hp₀ hnext =>
      cases hw
      obtain ⟨us, ts, rfl, hus, hseq⟩ := ih hw₀ hp₀
      exact ⟨us, ts ++ [e], by simp, hus, hseq⟩
    | published w₀ hw₀ hp₀ =>
      cases hw
      cases hp
    | released _ _ _ | died _ _ => cases hw

theorem run_load_copies {fields : List ι} (hdup : fields.Nodup)
    (hr : s.readers 0 = .spinning 0) (heven : s.shared.seq &&& 1 = 0) :
    (run World.step s (.read 0 .load :: copies 0 fields)).readers 0 = .copying 0 s.shared.seq fun k =>
      if k ∈ fields then some (s.shared.cell k) else none := by
  have hload : (s.step (.read 0 .load)).readers 0 = .copying 0 s.shared.seq fun _ => none := by
    simp [World.step, hr, Reader.step, heven]
  exact run_copies hdup hload fun _ _ => rfl

/-- A reader that loads the counter and copies all fields but one after the steps `us`, and the last
field after the steps `ts`. -/
noncomputable def readAround (us ts : List (WriteEvent ι V)) (i : ι) : List (Event ι V) :=
  us.map .write ++ (.read 0 .load :: copies 0 (Finset.univ.erase i).toList) ++ ts.map .write ++ copies 0 [i]

theorem writes_readAround (us ts : List (WriteEvent ι V)) (i : ι) : writes (readAround us ts i) = us ++ ts := by
  simp [readAround, writes_append, writes]

/-- It has the last field as it is after all the steps. -/
theorem run_readAround (hr : s.readers 0 = .spinning 0) {us ts : List (WriteEvent ι V)}
    {A B : Shared ι V} (hA : run Shared.step s.shared us = A)
    (hB : run Shared.step s.shared (us ++ ts) = B) (heven : A.seq &&& 1 = 0) (i : ι) :
    (run World.step s (readAround us ts i)).readers 0 =
      .copying 0 A.seq fun k => some (Function.update A.cell i (B.cell i) k) := by
  have hothers : ∀ k, k ∈ (Finset.univ.erase i).toList ↔ k ≠ i := by simp
  have hshared : (run World.step s (us.map .write)).shared = A := by
    rw [run_shared, writes_map_write, hA]
  have hstill : (run World.step s (us.map .write)).readers 0 = .spinning 0 := by
    rw [run_map_write_readers, hr]
  have hcopied := run_load_copies (Finset.nodup_toList (Finset.univ.erase i)) hstill (hshared ▸ heven)
  rw [hshared, ← run_append, ← run_map_write_readers ts, ← run_append] at hcopied
  have hnow : (run World.step s (us.map .write ++ (.read 0 .load ::
      copies 0 (Finset.univ.erase i).toList) ++ ts.map .write)).shared = B := by
    rw [run_shared, ← hB]
    simp [writes_append, writes]
  rw [readAround, run_append]
  refine Eq.trans (run_copies (nodup_singleton i) hcopied (by simp)) (congrArg _ (funext fun k => ?_))
  by_cases hk : k = i
  · rw [hk, if_pos (mem_singleton_self i), hnow, update_self]
  · simp [hk, hothers]

/-- **An exposed writer is seen half done.** The reader loads the counter and copies all fields but
one before the writer's first assignment, and the last one after its assignment. -/
theorem exposed_seen {n : UInt32} {value : ι → V} {vs : List (WriteEvent ι V)}
    (h : Exposed (run Shared.step (Shared.initial n value) vs)) :
    ∃ es, writes es = vs ∧ ∃ snap, Returns (run World.step (World.initial n value) es) (.read 0 .check) 0 snap ∧
        Mixed (run World.step (World.initial n value) es).shared snap := by
  obtain ⟨w, hw, hp, hdead, i, j, hi, hj, hji⟩ := h
  obtain ⟨us, ts, rfl, hus, hseq⟩ := run_opened (Shared.initial_sound n value) rfl vs hw hp
  have hvs := Shared.run_sound (Shared.initial_sound n value) (us ++ ts)
  have hbefore := Shared.run_sound (Shared.initial_sound n value) us
  generalize hA : run Shared.step (Shared.initial n value) us = A at hus hseq hbefore
  generalize hB : run Shared.step (Shared.initial n value) (us ++ ts) = B at hw hdead hseq hvs
  -- the counter is even while the writer is at work
  have heven : A.seq &&& 1 = 0 := by
    have hpar := hvs.parity
    simp only [Shared.midway, hw, hp, if_true] at hpar
    rw [even_iff, hseq]
    omega
  have hread := run_readAround (s := World.initial n value) rfl hA hB heven i
  have hshared : (run World.step (World.initial n value) (readAround us ts i)).shared = B := by
    rw [run_shared, writes_readAround]
    exact hB
  refine ⟨readAround us ts i, writes_readAround us ts i, update A.cell i (B.cell i), ⟨?_, ?_⟩, ?_⟩
  · simp [World.step, hread, Reader.step, hshared, hseq]
  · simp [hread]
  · rw [hshared]
    refine ⟨w, hw, hp, i, j, ?_, hj, ?_⟩
    · simp [(hvs.assigned w hw i).mpr hi]
    · -- before its first assignment the writer has authored nothing
      have hnone := hbefore.assigned _ hus j
      simp only [Writer.assigned, take_zero, map_nil, not_mem_nil, iff_false] at hnone
      simpa [update_of_ne hji] using hnone

/-- **Which calls no reader sees half of.** A sequence of writer steps is safe under every
interleaving with readers just when no writer that follows an odd number of dead ones gets to
assign one of the several fields it assigns. -/
theorem snapshots_unmixed_iff (n : UInt32) (value : ι → V) (ws : List (WriteEvent ι V)) :
    (∀ es, writes es = ws → Along World.step Unmixed (World.initial n value) es) ↔
      ∀ vs, vs <+: ws → ¬ Exposed (run Shared.step (Shared.initial n value) vs) := by
  constructor
  · rintro h vs ⟨rest, rfl⟩ hexposed
    obtain ⟨es, hes, snap, hret, hmixed⟩ := exposed_seen hexposed
    have hall := h (es ++ .read 0 .check :: rest.map .write) (by simp [writes_append, writes, hes])
    exact along_iff_splits.mp hall es _ _ rfl 0 snap hret hmixed
  · rintro h es rfl
    refine along_iff_splits.mpr fun xs e ys heq r snap hret hmixed => ?_
    have hsound := World.run_sound (World.initial_sound n value) xs
    have hexposed := hsound.exposed hret hmixed
    rw [run_shared] at hexposed
    refine h (writes xs) ?_ hexposed
    rw [heq, writes_append]
    exact prefix_append _ _

/-- The first writer dies between its increments. The second finds the counter odd, makes it even
and assigns the first of its two fields; the reader gets one field of each. -/
theorem second_writer_seen_half :
    let ws : List (WriteEvent Bool Nat) := [.acquire [], .increment, .die,
      .acquire [(false, 1), (true, 1)], .increment, .assign]
    let s := run World.step (World.initial 0 fun _ => 0)
      (ws.map .write ++ [.read 0 .load, .read 0 (.copy false), .read 0 (.copy true)])
    ∃ snap, Returns s (.read 0 .check) 0 snap ∧ (snap false).value = 1 ∧ (snap true).value = 0 ∧
      Mixed s.shared snap := by
  refine ⟨_, ⟨rfl, nofun⟩, rfl, rfl, ⟨_, rfl, rfl, false, true, rfl, ?_, ?_⟩⟩
  · simp [Writer.assigns]
  · nofun

end VGpuManager.DeviceSnapshot

import VGpuManager.Foundation.Liveness

/-!
# A producer and a consumer on a bounded channel

The producer is a machine that in each of its states goes on, sends an item and waits until there is
room for it, offers an item and drops it if there is no room, or has ended. The consumer takes items
and deals with them; once a stop signal is given, it may leave whenever it waits. The producer sees
the signal only where its own program looks at it.
-/

namespace VGpuManager.Foundation

open List

variable {P ι β : Type}

/-- What a producer does next. -/
inductive Act (β : Type) where
  | go
  | send (item : β)
  | offer (item : β)
  | done
  deriving DecidableEq

/-- What it does in each of its states, and the state after that, given the signal and an input. -/
structure Producer (P ι β : Type) where
  act : P → Act β
  next : P → Bool → ι → P

/-- `due` counts the items the producer sends one after the other from here; after the signal each of
its actions lowers `rank`. -/
structure Producer.Bounded (prod : Producer P ι β) (due rank : P → ℕ) : Prop where
  sends_of_due : ∀ p, 0 < due p → ∃ x, prod.act p = .send x
  due_next : ∀ p x stopped i, prod.act p = .send x → due p = due (prod.next p stopped i) + 1
  rank_next : ∀ p i, prod.act p ≠ .done → rank (prod.next p true i) < rank p

inductive Receiver (β : Type) where
  | waiting
  | handling (item : β)
  | left
  deriving DecidableEq

structure Pipe (P β : Type) where
  queue : List β
  stopped : Bool
  producer : P
  consumer : Receiver β
  deriving DecidableEq

/-- Whose turn it is. A turn of the producer comes with its input; if a consumer finds both an item and
the signal, `leave` says which it takes. -/
inductive Turn (ι : Type) where
  | producer (input : ι)
  | consumer (leave : Bool)
  | stop

namespace Pipe

variable (prod : Producer P ι β) (cap : ℕ) (s : Pipe P β)

/-- The item is put into the channel, or handed over to a consumer that waits at an empty one. -/
def put (x : β) : Option (Pipe P β) :=
  if s.queue.length < cap then some { s with queue := s.queue ++ [x] }
  else match s.consumer, s.queue with
    | .waiting, [] => some { s with consumer := .handling x }
    | _, _ => none

def step : Turn ι → Pipe P β
  | .producer i =>
    match prod.act s.producer with
    | .go => { s with producer := prod.next s.producer s.stopped i }
    | .send x =>
      match s.put cap x with
      | some s' => { s' with producer := prod.next s.producer s.stopped i }
      | none => s
    | .offer x => { (s.put cap x).getD s with producer := prod.next s.producer s.stopped i }
    | .done => s
  | .consumer leave =>
    match s.consumer with
    | .waiting =>
      if s.stopped && (leave || s.queue.isEmpty) then { s with consumer := .left }
      else match s.queue with
        | x :: queue => { s with consumer := .handling x, queue }
        | [] => s
    | .handling _ => { s with consumer := .waiting }
    | .left => s
  | .stop => { s with stopped := true }

/-- Once the consumer has left, what is in the channel and what is to be sent next is not too much. -/
def Fits (due : P → ℕ) (s : Pipe P β) : Prop :=
  s.consumer = .left → s.queue.length + due s.producer ≤ cap

/-- Producer and consumer get a turn again and again. -/
structure Fair {prod : Producer P ι β} {cap : ℕ} (R : Execution (step prod cap)) : Prop where
  producer : ∀ n, ∃ m, n ≤ m ∧ ∃ i, R.event m = .producer i
  consumer : ∀ n, ∃ m, n ≤ m ∧ ∃ leave, R.event m = .consumer leave

/-! ## What a turn does -/

variable {prod cap s}

theorem put_some {s' : Pipe P β} {x : β} (h : s.put cap x = some s') :
    s.queue.length < cap ∧ s' = { s with queue := s.queue ++ [x] } ∨
      s.consumer = .waiting ∧ s.queue = [] ∧ s' = { s with consumer := .handling x } := by
  unfold put at h
  split at h
  · next hroom => exact .inl ⟨hroom, (Option.some.inj h).symm⟩
  · split at h
    · next hw hq => exact .inr ⟨hw, hq, (Option.some.inj h).symm⟩
    · cases h

variable (prod cap s) in
/-- A turn of the producer: nothing happens if it has ended or waits for room, and otherwise it goes
to its next state, with or without an item put into the channel. -/
theorem step_producer (i : ι) :
    (prod.act s.producer = .done ∨ ∃ x, prod.act s.producer = .send x ∧ s.put cap x = none) ∧
        s.step prod cap (.producer i) = s ∨
      (∀ x, prod.act s.producer ≠ .send x) ∧ prod.act s.producer ≠ .done ∧
        s.step prod cap (.producer i) = { s with producer := prod.next s.producer s.stopped i } ∨
      prod.act s.producer ≠ .done ∧ ∃ x s', s.put cap x = some s' ∧
        s.step prod cap (.producer i) = { s' with producer := prod.next s.producer s.stopped i } := by
  unfold step
  cases hact : prod.act s.producer with
  | go => exact .inr (.inl ⟨by simp, by simp, rfl⟩)
  | done => exact .inl ⟨.inl rfl, rfl⟩
  | send x =>
    cases hput : s.put cap x with
    | none => exact .inl ⟨.inr ⟨x, rfl, hput⟩, by simp only [hput]⟩
    | some s' => exact .inr (.inr ⟨by simp, x, s', hput, by simp only [hput]⟩)
  | offer x =>
    cases hput : s.put cap x with
    | none => exact .inr (.inl ⟨by simp, by simp, by simp only [hput, Option.getD_none]⟩)
    | some s' =>
      exact .inr (.inr ⟨by simp, x, s', hput, by simp only [hput, Option.getD_some]⟩)

/-- What the consumer still has to do before it leaves. -/
def load (s : Pipe P β) : ℕ :=
  match s.consumer with
  | .waiting => 2 * s.queue.length + 1
  | .handling _ => 2 * s.queue.length + 2
  | .left => 0

variable (prod cap) in
theorem step_consumer (hstopped : s.stopped = true) (leave : Bool) :
    s.consumer = .left ∧ s.step prod cap (.consumer leave) = s ∨
      (s.step prod cap (.consumer leave)).producer = s.producer ∧
        (s.step prod cap (.consumer leave)).load < s.load := by
  obtain ⟨queue, stopped, p, consumer⟩ := s
  cases consumer with
  | left => exact .inl ⟨rfl, rfl⟩
  | handling x => exact .inr ⟨rfl, by simp [step, load]⟩
  | waiting =>
    obtain rfl : stopped = true := hstopped
    cases leave <;> cases queue <;> exact .inr ⟨by simp [step], by simp [step, load]; try omega⟩

theorem load_put {s' : Pipe P β} {x : β} (h : s.put cap x = some s') : s'.load ≤ s.load + 2 := by
  rcases put_some h with ⟨-, rfl⟩ | ⟨hw, hq, rfl⟩
  · cases hc : s.consumer <;> simp [load, hc] <;> omega
  · simp [load, hw, hq]

theorem stopped_step (hstopped : s.stopped = true) (t : Turn ι) : (s.step prod cap t).stopped = true := by
  cases t with
  | stop => rfl
  | consumer leave =>
    unfold step
    dsimp only
    repeat' split
    all_goals exact hstopped
  | producer i =>
    rcases step_producer prod cap s i with
      ⟨-, heq⟩ | ⟨-, -, heq⟩ | ⟨-, x, s', hput, heq⟩
    · rw [heq]
      exact hstopped
    · rw [heq]
      exact hstopped
    · rw [heq]
      rcases put_some hput with ⟨-, rfl⟩ | ⟨-, -, rfl⟩ <;> exact hstopped

/-- After the signal each turn that changes something lowers what is left to do. -/
theorem step_lowers {due rank : P → ℕ} (hb : prod.Bounded due rank) (hstopped : s.stopped = true)
    (t : Turn ι) : s.step prod cap t = s ∨
      3 * rank (s.step prod cap t).producer + (s.step prod cap t).load < 3 * rank s.producer + s.load := by
  cases t with
  | stop =>
    obtain ⟨queue, stopped, p, consumer⟩ := s
    obtain rfl : stopped = true := hstopped
    exact .inl rfl
  | consumer leave =>
    rcases step_consumer prod cap hstopped leave with ⟨-, heq⟩ | ⟨hp, hload⟩
    · exact .inl heq
    · rw [hp]
      exact .inr (by omega)
  | producer i =>
    rcases step_producer prod cap s i with
      ⟨-, heq⟩ | ⟨-, hne, heq⟩ | ⟨hne, x, s', hput, heq⟩
    · exact .inl heq
    · have hrank := hb.rank_next s.producer i hne
      rw [← hstopped] at hrank
      rw [heq]
      refine .inr ?_
      show 3 * rank (prod.next s.producer s.stopped i) + s.load < _
      omega
    · have hrank := hb.rank_next s.producer i hne
      have hload := load_put hput
      rw [← hstopped] at hrank
      rw [heq]
      refine .inr ?_
      show 3 * rank (prod.next s.producer s.stopped i) + s'.load < _
      omega

/-! ## Runs -/

variable {R : Execution (step prod cap)} {due rank : P → ℕ} {n : ℕ}

theorem stopped_from (hstopped : (R.state n).stopped = true) : ∀ m, n ≤ m → (R.state m).stopped = true :=
  R.always_from (I := fun s => s.stopped = true) hstopped fun m _ h => by
    rw [R.next m]
    exact stopped_step h _

/-- **After the signal** the run comes to rest: the consumer has left, and the producer has ended or
waits for room. -/
theorem comes_to_rest (hb : prod.Bounded due rank) (hfair : Fair R) (hstopped : (R.state n).stopped = true) :
    ∃ N, n ≤ N ∧ (R.state N).consumer = .left ∧ (prod.act (R.state N).producer = .done ∨
      ∃ x, prod.act (R.state N).producer = .send x ∧ (R.state N).put cap x = none) := by
  obtain ⟨N, hN, hrest⟩ := R.rests (fun s => 3 * rank s.producer + s.load) fun m hm => by
    rw [R.next m]
    exact step_lowers hb (stopped_from hstopped m hm) _
  have hsame (m : ℕ) (hm : N ≤ m) : (R.state N).step prod cap (R.event m) = R.state N := by
    rw [← hrest m hm, ← R.next m, hrest m hm, hrest (m + 1) (Nat.le_succ_of_le hm)]
  refine ⟨N, hN, ?_, ?_⟩
  · obtain ⟨m, hm, leave, hev⟩ := hfair.consumer N
    have heq := hsame m hm
    rw [hev] at heq
    rcases step_consumer prod cap (stopped_from hstopped N hN) leave with
      ⟨hleft, -⟩ | ⟨-, hload⟩
    · exact hleft
    · rw [heq] at hload
      exact absurd hload (lt_irrefl _)
  · obtain ⟨m, hm, i, hev⟩ := hfair.producer N
    have heq := hsame m hm
    rw [hev] at heq
    have hlower (hne : prod.act (R.state N).producer ≠ .done)
        (hp : ((R.state N).step prod cap (.producer i)).producer =
          prod.next (R.state N).producer (R.state N).stopped i) : False := by
      have hrank := hb.rank_next (R.state N).producer i hne
      rw [heq, stopped_from hstopped N hN] at hp
      rw [← hp] at hrank
      exact lt_irrefl _ hrank
    rcases step_producer prod cap (R.state N) i with
      ⟨hstays, -⟩ | ⟨-, hne, hgoes⟩ | ⟨hne, x, s', hput, hgoes⟩
    · exact hstays
    · exact (hlower hne (by rw [hgoes])).elim
    · exact (hlower hne (by rw [hgoes])).elim

theorem queue_le (hqueue : (R.state 0).queue.length ≤ cap) : ∀ m, (R.state m).queue.length ≤ cap := by
  intro m
  refine R.always_from (I := fun s => s.queue.length ≤ cap) hqueue (fun m _ h => ?_) m (Nat.zero_le m)
  rw [R.next m]
  cases R.event m with
  | stop => exact h
  | consumer leave =>
    unfold step
    repeat' split
    all_goals simp_all <;> omega
  | producer i =>
    rcases step_producer prod cap (R.state m) i with
      ⟨-, heq⟩ | ⟨-, -, heq⟩ | ⟨-, x, s', hput, heq⟩
    · rw [heq]
      exact h
    · rw [heq]
      exact h
    · rw [heq]
      rcases put_some hput with ⟨hroom, rfl⟩ | ⟨-, -, rfl⟩
      · show (_ ++ [x]).length ≤ cap
        rw [length_append]
        exact hroom
      · exact h

/-- The consumer has left, and the producer is sending more than there is room for. -/
def Overfull (cap : ℕ) (due : P → ℕ) (s : Pipe P β) : Prop :=
  s.consumer = .left ∧ s.queue.length ≤ cap ∧ cap < s.queue.length + due s.producer

/-- What is sent moves from the producer into the channel, and nothing goes out. -/
theorem overfull_step (hb : prod.Bounded due rank) (h : Overfull cap due s) (t : Turn ι) :
    Overfull cap due (s.step prod cap t) := by
  obtain ⟨hleft, hqueue, hover⟩ := h
  cases t with
  | stop => exact ⟨hleft, hqueue, hover⟩
  | consumer leave =>
    have hsame : s.step prod cap (.consumer leave) = s := by
      unfold step
      rw [hleft]
    rw [hsame]
    exact ⟨hleft, hqueue, hover⟩
  | producer i =>
    obtain ⟨x, hx⟩ := hb.sends_of_due s.producer (by omega)
    rcases step_producer prod cap s i with
      ⟨-, heq⟩ | ⟨hno, -, -⟩ | ⟨-, y, s', hput, heq⟩
    · rw [heq]
      exact ⟨hleft, hqueue, hover⟩
    · exact absurd hx (hno x)
    · rcases put_some hput with ⟨hroom, rfl⟩ | ⟨hwaits, -, -⟩
      · have hdue := hb.due_next s.producer x s.stopped i hx
        rw [heq]
        refine ⟨hleft, ?_, ?_⟩
        · show (s.queue ++ [y]).length ≤ cap
          rw [length_append]
          exact hroom
        · show cap < (s.queue ++ [y]).length + due (prod.next s.producer s.stopped i)
          rw [length_append, length_singleton]
          omega
      · rw [hleft] at hwaits
        cases hwaits

theorem Overfull.not_done (hb : prod.Bounded due rank) (h : Overfull cap due s) : prod.act s.producer ≠ .done := by
  obtain ⟨x, hx⟩ := hb.sends_of_due s.producer (by have := h.2; omega)
  rw [hx]
  simp

theorem done_from (hdone : prod.act (R.state n).producer = .done) :
    ∀ m, n ≤ m → prod.act (R.state m).producer = .done :=
  R.always_from (I := fun s => prod.act s.producer = .done) hdone fun m _ h => by
    rw [R.next m]
    cases R.event m with
    | stop => exact h
    | consumer leave =>
      unfold step
      dsimp only
      repeat' split
      all_goals exact h
    | producer i =>
      unfold step
      rw [h]
      exact h

/-- A producer that sends too much does not end. -/
theorem never_ends (hb : prod.Bounded due rank) (hover : Overfull cap due (R.state n)) (m : ℕ) :
    prod.act (R.state m).producer ≠ .done := by
  intro hdone
  have hstays := R.always_from hover fun m _ h => by
    rw [R.next m]
    exact overfull_step hb h _
  exact (hstays (max n m) (le_max_left n m)).not_done hb (done_from hdone _ (le_max_right n m))

/-- A producer that has ended has had room for what it sent after the consumer had left. -/
theorem fits_of_ends (hb : prod.Bounded due rank) (hqueue : (R.state 0).queue.length ≤ cap)
    (hdone : ∃ n, prod.act (R.state n).producer = .done) (n : ℕ) : Fits cap due (R.state n) := by
  intro hleft
  obtain ⟨m, hdone⟩ := hdone
  by_contra hover
  exact never_ends hb ⟨hleft, queue_le hqueue n, by omega⟩ m hdone

/-- **Shutdown.** If there is room for what the producer sends after the consumer has left, then after
the signal both end. -/
theorem ends_of_fits (hb : prod.Bounded due rank) (hfair : Fair R)
    (hstopped : ∃ n, (R.state n).stopped = true) (hfits : ∀ n, Fits cap due (R.state n)) :
    ∃ n, (R.state n).stopped = true ∧ prod.act (R.state n).producer = .done ∧ (R.state n).consumer = .left := by
  obtain ⟨n, hstopped⟩ := hstopped
  obtain ⟨N, hN, hleft, hend⟩ := comes_to_rest hb hfair hstopped
  refine ⟨N, stopped_from hstopped N hN, ?_, hleft⟩
  rcases hend with hdone | ⟨x, hx, hput⟩
  · exact hdone
  · obtain ⟨-, -, i, -⟩ := hfair.producer 0
    have hdue := hb.due_next _ x true i hx
    have hroom : ¬ (R.state N).queue.length < cap := fun hroom => by
      rw [put, if_pos hroom] at hput
      cases hput
    have hfit := hfits N hleft
    omega

/-! ## Schedules -/

/-- The turns of the list, and then producer and consumer in turn. -/
def schedule (turns : List (Turn ι)) (input : ι) (n : ℕ) : Turn ι :=
  turns.getD n (if n % 2 = 0 then .producer input else .consumer true)

theorem schedule_fair (start : Pipe P β) (turns : List (Turn ι)) (input : ι) :
    Fair (Execution.ofEvents (step prod cap) start (schedule turns input)) := by
  have hafter (n : ℕ) (hn : turns.length ≤ n) :
      schedule turns input n = if n % 2 = 0 then .producer input else .consumer true := by
    rw [schedule, getD_eq_getElem?_getD, getElem?_eq_none hn]
    rfl
  constructor
  · intro n
    refine ⟨2 * (n + turns.length), by omega, input, ?_⟩
    show schedule turns input _ = _
    rw [hafter _ (by omega), if_pos (by omega)]
  · intro n
    refine ⟨2 * (n + turns.length) + 1, by omega, true, ?_⟩
    show schedule turns input _ = _
    rw [hafter _ (by omega), if_neg (by omega)]

end Pipe

end VGpuManager.Foundation

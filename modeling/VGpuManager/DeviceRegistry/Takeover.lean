import VGpuManager.DeviceRegistry.Socket

/-!
# Servers that take over and stop (`registry/server.go`)

A server's `Start`, `Stop` and guard go through a bounded number of operations. While the path is
missing the guard of a running server gets nearer to publishing it with each of its turns; once it is
there only a `Stop` removes it, and the guards rest.
-/

namespace VGpuManager.DeviceRegistry

open Foundation Function

variable {n : ℕ} {pid : Fin n → ℕ} {w : World n} {i j : Fin n}

/-! ## How a server goes on -/

def Phase.left : Phase n → ℕ
  | .idle => 0
  | .running => 0
  | .checking => 7
  | .binding a => a.stage.left
  | .stopping false => 2
  | .stopping true => 1

/-- Neither in `Start` nor in `Stop`. -/
def Phase.isSettled : Phase n → Bool
  | .idle => true
  | .running => true
  | .binding a => a.republish
  | .checking => false
  | .stopping _ => false

/-- Where a server's next operation can lead, with an entry at the path or not. -/
inductive Phase.Next (present : Bool) : Phase n → Phase n → Prop
  | idle : Next present .idle .idle
  | refused : Next present .checking .idle
  | begins (number : ℕ) : Next present .checking (.binding ⟨false, number, .clear⟩)
  | watches : Next present .running .running
  | misses (number : ℕ) (h : present = false) : Next present .running (.binding ⟨true, number, .clear⟩)
  | goes (a : Attempt n) (stage : Stage n) (h : stage.left < a.stage.left) : Next present (.binding a) (a.at stage)
  | abandons (a : Attempt n) : Next present (.binding a) a.abandoned
  | serves (a : Attempt n) : Next present (.binding a) .running
  | owns : Next present (.stopping false) (.stopping true)
  | leaves (owned : Bool) : Next present (.stopping owned) .idle

variable {a : Attempt n} {w' : World n} {m : ℕ}

theorem BindStep.next (h : BindStep pid w i a w') (present : Bool) :
    Phase.Next present (.binding a) (w'.server i).phase := by
  cases h with
  | givesUp entry hnot =>
    rw [World.setPhase_server]
    exact .abandons a
  | goes entry serial stage hnot hstage hleft hnext =>
    rw [World.setPhase_server]
    exact .goes a stage hleft
  | renames entry listener ino hs hentry =>
    rw [World.setPhase_server]
    exact .goes a _ (by rw [hs]; simp [Stage.left])
  | serves listener ino hs =>
    dsimp only
    rw [update_self]
    exact .serves a

/-- **All a turn can do to the server's phase.** -/
theorem turn_next (pid : Fin n → ℕ) (w : World n) (i : Fin n) (fault : Bool) (ino : ℕ) :
    Phase.Next w.path.isSome (w.server i).phase ((turn pid w i fault ino).server i).phase := by
  unfold turn
  cases hp : (w.server i).phase with
  | idle =>
    rw [hp]
    exact .idle
  | checking =>
    dsimp only
    split
    · rw [World.setPhase_server]
      exact .refused
    · rw [beginBind, World.setPhase_server]
      exact .begins _
  | binding a => exact (bindSocket_step pid w i a fault ino).next _
  | running =>
    dsimp only
    split
    · rw [hp]
      exact .watches
    · rename_i hmiss
      rw [beginBind, World.setPhase_server]
      exact .misses _ (by simp at hmiss; simp [hmiss.2])
  | stopping owned =>
    cases owned with
    | false =>
      dsimp only
      split
      · rw [World.setPhase_server]
        exact .owns
      · simp only [World.retire, update_self]
        exact .leaves false
    | true =>
      simp only [World.retire, update_self]
      exact .leaves true

theorem BindStep.server_ne (h : BindStep pid w i a w') (hj : j ≠ i) : w'.server j = w.server j := by
  cases h with
  | givesUp _ _ | goes _ _ _ _ _ _ _ | renames _ _ _ _ _ => exact World.setPhase_server_ne _ hj
  | serves listener ino hs => exact update_of_ne hj _ _

/-- A turn touches its own server only. -/
theorem turn_server_ne (pid : Fin n → ℕ) (w : World n) (fault : Bool) (ino : ℕ) (h : j ≠ i) :
    (turn pid w i fault ino).server j = w.server j := by
  have hphase : ∀ (w : World n) (phase : Phase n), (w.setPhase i phase).server j = w.server j :=
    fun w phase => World.setPhase_server_ne phase h
  unfold turn
  cases (w.server i).phase with
  | idle => rfl
  | checking => dsimp only; split <;> exact hphase _ _
  | binding a => exact (bindSocket_step pid w i a fault ino).server_ne h
  | running =>
    dsimp only
    split
    · rfl
    · exact hphase _ _
  | stopping owned =>
    cases owned with
    | false =>
      dsimp only
      split
      · exact hphase _ _
      · exact update_of_ne h _ _
    | true => exact update_of_ne h _ _

namespace Phase.Next

variable {present : Bool} {p q : Phase n}

/-- Unless it rests, a server gets nearer to it. -/
theorem left_lt (h : Next present p q) (hp : 0 < p.left) : q.left < p.left := by
  cases h with
  | idle => simp [Phase.left] at hp
  | refused => simp [Phase.left]
  | begins number => simp [Phase.left, Stage.left]
  | watches | misses _ _ => simp [Phase.left] at hp
  | goes a stage h => exact h
  | abandons a =>
    have hpos := a.stage.left_pos
    rw [Attempt.abandoned]
    split <;> exact hpos
  | serves a => exact a.stage.left_pos
  | owns => simp [Phase.left]
  | leaves owned => cases owned <;> simp [Phase.left]

/-- A server at rest stays at rest while the path is there. -/
theorem eq_of_rest (h : Next true p q) (hp : p.left = 0) : q = p := by
  cases h with
  | idle | watches => rfl
  | misses number h => cases h
  | refused | begins _ => simp [Phase.left] at hp
  | goes a _ _ | abandons a | serves a => exact absurd hp a.stage.left_pos.ne'
  | owns => simp [Phase.left] at hp
  | leaves owned => cases owned <;> simp [Phase.left] at hp

theorem settled (h : Next present p q) (hp : p.isSettled = true) : q.isSettled = true := by
  cases h with
  | idle | watches | misses _ _ => rfl
  | goes a stage h => exact hp
  | abandons a =>
    rw [Attempt.abandoned]
    split <;> rfl
  | serves a => rfl
  | refused | begins _ | owns | leaves _ => cases hp

/-- A server that is not stopped keeps running. -/
theorem running (h : Next present p q) (hp : p.isRunning = true) : q.isRunning = true := by
  cases h with
  | watches | misses _ _ => rfl
  | goes a stage h => exact hp
  | abandons a =>
    have hrep : a.republish = true := hp
    rw [Attempt.abandoned, hrep]
    rfl
  | serves a => rfl
  | idle | refused | begins _ | owns | leaves _ => cases hp

end Phase.Next

theorem settled_of_left {p : Phase n} (h : p.left = 0) : p.isSettled = true := by
  cases p with
  | idle | running => rfl
  | checking => simp [Phase.left] at h
  | binding a => exact absurd h a.stage.left_pos.ne'
  | stopping owned => cases owned <;> simp [Phase.left] at h

/-! ## The path is there to stay -/

theorem BindStep.path (h : BindStep pid w i a w') (hpath : w.path.isSome = true) : w'.path.isSome = true := by
  cases h with
  | givesUp _ _ | goes _ _ _ _ _ _ _ => exact hpath
  | renames entry listener ino hs hentry => rfl
  | serves listener ino hs => exact hpath

/-- How far a running server is from a path that is missing: it has to look, and to bind. -/
def Phase.ahead : Phase n → ℕ
  | .running => 7
  | .binding ⟨_, _, .publishing _ _⟩ => 8
  | .binding ⟨_, _, .undo⟩ => 8
  | .binding a => a.stage.left
  | _ => 0

/-- **The guard's progress.** While the path is missing, each operation of a running server gets it
nearer to the rename, if none fails. -/
theorem turn_ahead (h : Inv pid w) (hrun : (w.server i).phase.isRunning = true) (hmissing : w.path = none) (ino : ℕ) :
    (turn pid w i false ino).path.isSome = true ∨
      ((turn pid w i false ino).server i).phase.ahead < (w.server i).phase.ahead := by
  unfold turn
  cases hp : (w.server i).phase with
  | idle | checking | stopping _ => rw [hp] at hrun; cases hrun
  | running =>
    refine .inr ?_
    simp [hmissing, beginBind, Phase.ahead, Stage.left]
  | binding a =>
    have hready := h.ready i a hp
    rw [hp] at hrun
    obtain ⟨republish, number, stage⟩ := a
    obtain rfl : republish = true := hrun
    unfold bindSocket
    cases stage with
    | clear => exact .inr (by simp [Attempt.at, Phase.ahead, Stage.left])
    | listen =>
      have hentry : w.staged (pid i) number = none := hready
      exact .inr (by simp [hentry, Attempt.at, Phase.ahead, Stage.left])
    | chmod listener | stat listener =>
      have hentry : w.staged (pid i) number = some listener := hready.1
      exact .inr (by simp [hentry, Attempt.at, Phase.ahead, Stage.left])
    | rename listener id =>
      have hentry : w.staged (pid i) number = some listener := hready.1
      exact .inl (by simp [hentry])
    | publishing listener id => exact .inr (by simp [Phase.ahead])
    | undo => exact .inr (by simp [Attempt.abandoned, Phase.ahead])

/-! ## The path comes to be a running server's socket -/

/-- From `N` on no server is started or stopped, no operation fails, and every server that is not
idle comes to its turn again and again. -/
structure Settles (R : Execution (step pid)) (N : ℕ) : Prop where
  calls : ∀ m, N ≤ m → ∀ i, R.event m ≠ .start i ∧ R.event m ≠ .stop i
  works : ∀ m, N ≤ m → ∀ i ino, R.event m ≠ .turn i true ino
  fair : ∀ i m, N ≤ m → ((R.state m).server i).phase ≠ .idle → ∃ p, m ≤ p ∧ ∃ fault ino, R.event p = .turn i fault ino

namespace Settles

variable {R : Execution (step pid)} {N M : ℕ}

/-- It is the server's turn. -/
def TurnOf (i : Fin n) (e : Event n) : Prop := ∃ fault ino, e = .turn i fault ino

section

variable (h : Settles R N)

include h

theorem turns (hm : N ≤ m) (hturn : TurnOf i (R.event m)) :
    ∃ ino, R.state (m + 1) = turn pid (R.state m) i false ino := by
  obtain ⟨fault, ino, he⟩ := hturn
  cases fault with
  | true => exact absurd he (h.works m hm i ino)
  | false => exact ⟨ino, by rw [R.next, he]; rfl⟩

/-- Between its turns a server stays as it is. -/
theorem waits (hm : N ≤ m) (hturn : ¬TurnOf i (R.event m)) : (R.state (m + 1)).server i = (R.state m).server i := by
  rw [R.next]
  cases he : R.event m with
  | start j => exact absurd he (h.calls m hm j).1
  | stop j => exact absurd he (h.calls m hm j).2
  | turn j fault ino =>
    have hne : i ≠ j := fun heq => hturn ⟨fault, ino, by rw [he, heq]⟩
    exact turn_server_ne pid _ fault ino hne
  | exec p =>
    rw [step]
    split <;> rfl

theorem turn_phase (hm : N ≤ m) (hturn : TurnOf i (R.event m)) :
    Phase.Next (R.state m).path.isSome ((R.state m).server i).phase ((R.state (m + 1)).server i).phase := by
  obtain ⟨ino, hnext⟩ := h.turns hm hturn
  rw [hnext]
  exact turn_next pid _ i false ino

/-- A server goes on as `Phase.Next` says, or waits. -/
theorem next_phase (hm : N ≤ m) (i : Fin n) :
    Phase.Next (R.state m).path.isSome ((R.state m).server i).phase ((R.state (m + 1)).server i).phase ∨
      ((R.state (m + 1)).server i).phase = ((R.state m).server i).phase := by
  by_cases hturn : TurnOf i (R.event m)
  · exact .inl (h.turn_phase hm hturn)
  · exact .inr (by rw [h.waits hm hturn])

/-- **A server that rests only when `goal` holds comes to it.** What is left to do shrinks with every
turn. -/
theorem comes_to (goal : Phase n → Prop) (hrest : ∀ p : Phase n, p.left = 0 → goal p)
    (hM : N ≤ M) (i : Fin n) : ∃ m, M ≤ m ∧ goal ((R.state m).server i).phase := by
  by_cases hnow : goal ((R.state M).server i).phase
  · exact ⟨M, le_rfl, hnow⟩
  have hbusy : ∀ p : Phase n, ¬goal p → 0 < p.left := fun p hp =>
    Nat.pos_of_ne_zero fun hzero => hp (hrest p hzero)
  refine R.eventually_of_descent (P := fun w => ¬goal (w.server i).phase)
    (Q := fun w => goal (w.server i).phase) (fun _ e => TurnOf i e)
    (fun w => (w.server i).phase.left) hnow (fun m hm hP => ?_) (fun m hm hP hH => ?_)
    (fun m hm _ hH => ?_)
  · refine h.fair i m (le_trans hM hm) fun hidle => ?_
    have hpos := hbusy _ hP
    rw [hidle] at hpos
    cases hpos
  · have hlt := (h.turn_phase (le_trans hM hm) hH).left_lt (hbusy _ hP)
    exact (em _).imp_right fun hP' => ⟨hP', hlt⟩
  · rw [h.waits (le_trans hM hm) hH]
    exact (em _).imp_right fun hP' => ⟨hP', le_rfl⟩

/-- All servers come to what their operations keep. -/
theorem all_come_to (goal : Phase n → Prop) (hrest : ∀ p : Phase n, p.left = 0 → goal p) (hM : N ≤ M)
    (hkeep : ∀ m p q, M ≤ m → goal p → Phase.Next (R.state m).path.isSome p q → goal q) :
    ∃ L, M ≤ L ∧ ∀ m, L ≤ m → ∀ i, goal ((R.state m).server i).phase := by
  refine R.eventually_all (Q := fun i w => goal (w.server i).phase) (fun i => ?_) M
  obtain ⟨L, hL, hgoal⟩ := h.comes_to goal hrest hM i
  refine ⟨L, R.always_from (I := fun w => goal (w.server i).phase) hgoal fun m hm hp => ?_⟩
  rcases h.next_phase (le_trans hM (le_trans hL hm)) i with hnext | hsame
  · exact hkeep m _ _ (le_trans hL hm) hp hnext
  · rwa [hsame]

/-- All servers have come out of `Start` and `Stop`. -/
theorem all_settled : ∃ M, N ≤ M ∧ ∀ m, M ≤ m → ∀ i, ((R.state m).server i).phase.isSettled = true :=
  h.all_come_to (fun p => p.isSettled = true) (fun _ => settled_of_left) le_rfl fun _ _ _ _ hp hnext => hnext.settled hp

/-- Once all servers are settled the path is not removed any more. -/
theorem path_stays (hM : N ≤ M) (hsettled : ∀ m, M ≤ m → ∀ i, ((R.state m).server i).phase.isSettled = true)
    (hpath : (R.state M).path.isSome = true) : ∀ m, M ≤ m → (R.state m).path.isSome = true := by
  refine R.always_from (I := fun w => w.path.isSome = true) hpath fun m hm hp => ?_
  rw [R.next]
  cases he : R.event m with
  | start j => exact absurd he (h.calls m (le_trans hM hm) j).1
  | stop j => exact absurd he (h.calls m (le_trans hM hm) j).2
  | turn j fault ino =>
    -- only a server in `Stop` removes the path
    have hphase := hsettled m hm j
    rw [step, turn]
    cases hj : ((R.state m).server j).phase with
    | idle => exact hp
    | checking | running => dsimp only; split <;> exact hp
    | binding a => exact (bindSocket_step pid _ j a fault ino).path hp
    | stopping owned =>
      rw [hj] at hphase
      cases hphase
  | exec p =>
    rw [step]
    split <;> exact hp

theorem keeps_running {k : Fin n} (hk : ((R.state N).server k).phase.isRunning = true) :
    ∀ m, N ≤ m → ((R.state m).server k).phase.isRunning = true := by
  refine R.always_from (I := fun w => (w.server k).phase.isRunning = true) hk fun m hm hp => ?_
  rcases h.next_phase hm k with hnext | hsame
  · exact hnext.running hp
  · rwa [hsame]

/-- A path that is missing is published again. -/
theorem path_returns (hinit : Initial (R.state 0)) {k : Fin n}
    (hk : ∀ m, N ≤ m → ((R.state m).server k).phase.isRunning = true) (hM : N ≤ M) :
    ∃ m, M ≤ m ∧ (R.state m).path.isSome = true := by
  by_cases hnow : (R.state M).path = none
  · refine R.eventually_of_descent (P := fun w => w.path = none) (Q := fun w => w.path.isSome = true)
      (fun _ e => TurnOf k e) (fun w => (w.server k).phase.ahead) hnow (fun m hm _ => ?_)
      (fun m hm hP hH => ?_) (fun m hm hP hH => ?_)
    · refine h.fair k m (le_trans hM hm) fun hidle => ?_
      have hrun := hk m (le_trans hM hm)
      rw [hidle] at hrun
      cases hrun
    · obtain ⟨ino, hnext⟩ := h.turns (le_trans hM hm) hH
      rw [hnext]
      rcases turn_ahead (Inv.always R hinit m) (hk m (le_trans hM hm)) hP ino with hpath | hlt
      · exact .inl hpath
      · cases hp : (turn pid (R.state m) k false ino).path with
        | none => exact .inr ⟨rfl, hlt⟩
        | some o => exact .inl rfl
    · rw [h.waits (le_trans hM hm) hH]
      cases hp : (R.state (m + 1)).path with
      | none => exact .inr ⟨rfl, le_rfl⟩
      | some o => exact .inl rfl
  · exact ⟨M, le_rfl, Option.isSome_iff_ne_none.mpr hnow⟩

/-- With the path there, every server comes to rest. -/
theorem all_rest (hM : N ≤ M) (hpath : ∀ m, M ≤ m → (R.state m).path.isSome = true) :
    ∃ L, M ≤ L ∧ ∀ m, L ≤ m → ∀ i, ((R.state m).server i).phase.left = 0 := by
  refine h.all_come_to (fun p => p.left = 0) (fun _ hp => hp) hM fun m p q hm hp hnext => ?_
  rw [hpath m hm] at hnext
  rwa [hnext.eq_of_rest hp]

end

end Settles

/-- **The path comes to be the socket of a running server, and stays it.** Whatever servers of
whatever processes have started, taken over, republished and stopped, in whatever order of their single
operations and with whatever inode numbers: from `N` on no server starts or stops and operations do
not fail, and a server is running then. -/
theorem path_resolves (R : Execution (step pid)) (hinit : Initial (R.state 0)) {N : ℕ}
    (hsettles : Settles R N) {k : Fin n} (hrunning : ((R.state N).server k).phase.isRunning = true) :
    ∃ M, ∀ m, M ≤ m → ∃ i o, (R.state m).path = some o ∧
      ((R.state m).server i).phase.isRunning = true ∧ ((R.state m).server i).listener = some o := by
  have hk := hsettles.keeps_running hrunning
  obtain ⟨M₁, hM₁, hsettled⟩ := hsettles.all_settled
  obtain ⟨M₂, hM₂, hthere⟩ := hsettles.path_returns hinit hk hM₁
  have hM : N ≤ M₂ := le_trans hM₁ hM₂
  have hstays := hsettles.path_stays hM (fun m hm => hsettled m (le_trans hM₂ hm)) hthere
  obtain ⟨M₃, hM₃, hrest⟩ := hsettles.all_rest hM hstays
  refine ⟨M₃, fun m hm => ?_⟩
  have hinv := Inv.always R hinit m
  obtain ⟨o, ho⟩ := Option.isSome_iff_exists.mp (hstays m (le_trans hM₃ hm))
  have hat : ∀ i, ((R.state m).server i).phase = .idle ∨ ((R.state m).server i).phase = .running := by
    intro i
    have hleft := hrest m hm i
    cases hp : ((R.state m).server i).phase with
    | idle => exact .inl rfl
    | running => exact .inr rfl
    | checking => rw [hp] at hleft; cases hleft
    | binding a => rw [hp] at hleft; exact absurd hleft a.stage.left_pos.ne'
    | stopping owned => rw [hp] at hleft; cases owned <;> cases hleft
  cases hi : o.owner with
  | none =>
    -- an orphan: but the running server has published
    have hun := hinv.orphan o ho hi k
    have hrun := hk m (le_trans hM (le_trans hM₃ hm))
    rcases hat k with hp | hp
    · rw [hp] at hrun
      cases hrun
    · rw [hp] at hun
      exact hun.elim
  | some i =>
    have hresp := hinv.owned o i ho hi
    rcases hat i with hp | hp
    · simp only [Server.Responsible, hp] at hresp
    · simp only [Server.Responsible, hp] at hresp
      exact ⟨i, o, ho, by rw [hp]; rfl, hresp.1⟩

/-- Three servers, two of them of one process, and the orphan of a killed one at the path. -/
def handoverStart : World 3 where
  path := some ⟨none, 0, 3⟩
  staged := fun _ _ => none
  stageCounter := fun _ => 0
  serial := 1
  server := fun _ => {}

def handoverPid (i : Fin 3) : ℕ := i.val / 2

/-- The first server starts, the second one takes over, the third one fails to start, and the second
one stops. -/
def handoverEvents : List (Event 3) :=
  .start 0 :: List.replicate 7 (.turn 0 false 4) ++ .start 1 :: List.replicate 7 (.turn 1 false 5) ++
    [.start 2, .turn 2 true 0, .stop 1, .turn 1 false 0, .turn 1 false 0]

/-- Then the first server goes on alone. -/
def handover : Execution (step handoverPid) :=
  .ofList _ handoverStart handoverEvents (.turn 0 false 6)

theorem handover_event (hm : 21 ≤ m) : handover.event m = .turn 0 false 6 :=
  Execution.ofList_event_idle _ _ _ hm

theorem handover_state : handover.state 21 = run (step handoverPid) handoverStart handoverEvents :=
  Execution.ofList_state _ _ handoverEvents _ 21 le_rfl

theorem handover_idle {i : Fin 3} (hi : i ≠ 0) (hm : 21 ≤ m) : (handover.state m).server i = {} := by
  refine handover.always_from (I := fun w => w.server i = {}) ?_ (fun m hm h => ?_) m hm
  · rw [handover_state]
    revert i
    decide
  · rw [handover.next, handover_event hm]
    exact (turn_server_ne _ _ false 6 hi).trans h

theorem handover_settles : Settles handover 21 where
  calls := fun m hm i => by
    rw [handover_event hm]
    exact ⟨by simp, by simp⟩
  works := fun m hm i ino => by
    rw [handover_event hm]
    simp
  fair := fun i m hm hbusy => by
    by_cases hi : i = 0
    · exact ⟨m, le_rfl, false, 6, by rw [hi, handover_event hm]⟩
    · rw [handover_idle hi hm] at hbusy
      exact absurd rfl hbusy

theorem path_resolves_handover : (handover.state 21).path = none ∧ ∃ M, ∀ m, M ≤ m → ∃ i o,
    (handover.state m).path = some o ∧ ((handover.state m).server i).phase.isRunning = true ∧
      ((handover.state m).server i).listener = some o := by
  refine ⟨by rw [handover_state]; decide, path_resolves handover ⟨fun i => rfl, fun o ho => ?_⟩
    handover_settles (k := 0) (by rw [handover_state]; decide)⟩
  rw [← Option.some.inj ho]

/-- **A server publishes the socket it has bound**, whatever other servers do in between, and the inode number it
will go by is that socket's. -/
theorem rename_publishes_own (R : Execution (step pid)) (hinit : Initial (R.state 0))
    {listener : Socket n} {id : ℕ} (hp : ((R.state m).server i).phase = .binding a)
    (hstage : a.stage = .rename listener id) (ino : ℕ) :
    (step pid (R.state m) (.turn i false ino)).path = some listener ∧ listener.owner = some i ∧ id = listener.ino := by
  have hready := (Inv.always R hinit m).ready i a hp
  rw [hstage] at hready
  exact ⟨by simp [step, turn, bindSocket, hp, hstage, hready.1], hready.2⟩

theorem rename_publishes_own_handover :
    (step handoverPid (handover.state 14) (.turn 1 false 5)).path = some ⟨some 1, 2, 5⟩ :=
  (rename_publishes_own handover ⟨fun _ => rfl, fun _ ho => by rw [← Option.some.inj ho]⟩
    (a := ⟨false, 2, .rename ⟨some 1, 2, 5⟩ 5⟩) (by decide) rfl 5).1

end VGpuManager.DeviceRegistry

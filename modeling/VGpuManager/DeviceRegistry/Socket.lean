import VGpuManager.Foundation.Liveness

/-!
# The registry's socket path (`registry/socket.go`, `registry/server.go`)

Servers of several processes publish their sockets under one path. `bindSocket` binds a socket under
a name of its own and renames it onto the path, replacing whatever is there. `Stop` removes the path
if it still is the inode the server has bound: it looks first and unlinks then, so it may remove what
another server has published in between, or a socket that got a freed inode number. Every running
server has a guard that looks for the path now and then and publishes a new socket if it is missing.

The steps here are single operations on the file system, with those of all servers interleaved. Any
operation of `Start` and of the guard may fail.
-/

namespace VGpuManager.DeviceRegistry

open Foundation Function

/-! ## Sockets and servers -/

section Model

variable {n : ℕ}

/-- A bound socket: the server that has bound it, the number of the bind and the inode number. An
inode number may come again once the inode is freed. The orphan of a killed predecessor has no
server. -/
structure Socket (n : ℕ) where
  owner : Option (Fin n)
  serial : ℕ
  ino : ℕ
  deriving DecidableEq, Repr

/-- The next operation of `bindSocket` and `publish`. -/
inductive Stage (n : ℕ) where
  | clear
  | listen
  | chmod (listener : Socket n)
  | stat (listener : Socket n)
  | rename (listener : Socket n) (ino : ℕ)
  /-- Renamed; the server does not have the listener yet. -/
  | publishing (listener : Socket n) (ino : ℕ)
  /-- Failed after the bind: the listener is closed, its entry is still to be removed. -/
  | undo
  deriving DecidableEq, Repr

/-- A bind attempt, of `Start` or of the guard, with its number in the process. -/
structure Attempt (n : ℕ) where
  republish : Bool
  number : ℕ
  stage : Stage n
  deriving DecidableEq, Repr

/-- Where a server is. Its mutex is held from the beginning of `Start`, `Stop` and the guard's check
to the end of each. -/
inductive Phase (n : ℕ) where
  | idle
  /-- `checkSocketPath`. -/
  | checking
  | binding (attempt : Attempt n)
  | running
  /-- `removeOwnedSocket`: about to look at the path, or about to unlink it. -/
  | stopping (owned : Bool)
  deriving DecidableEq, Repr

structure Server (n : ℕ) where
  phase : Phase n := .idle
  listener : Option (Socket n) := none
  socketID : ℕ := 0
  deriving DecidableEq, Repr

/-- `running`; the guard's bind attempt leaves it set. -/
def Phase.isRunning : Phase n → Bool
  | .running => true
  | .binding attempt => attempt.republish
  | _ => false

/-- `socket.sock`, the staged names by process and attempt, the `stageCounter` of each process, the
number of the next bind, and the servers. -/
structure World (n : ℕ) where
  path : Option (Socket n)
  staged : ℕ → ℕ → Option (Socket n)
  stageCounter : ℕ → ℕ
  serial : ℕ
  server : Fin n → Server n

/-! ## Steps -/

namespace World

variable (w : World n) (i : Fin n)

def setPhase (phase : Phase n) : World n :=
  { w with server := Function.update w.server i { w.server i with phase } }

/-- The end of `Stop`. -/
def retire : World n := { w with server := Function.update w.server i {} }

def setStaged (pid number : ℕ) (entry : Option (Socket n)) : World n :=
  { w with staged := Function.update w.staged pid (Function.update (w.staged pid) number entry) }

end World

variable (pid : Fin n → ℕ) (w : World n) (i : Fin n) (a : Attempt n) (fault : Bool) (ino : ℕ)

/-- `stageCounter.Add(1)`, the beginning of `bindSocket`. -/
def beginBind (republish : Bool) : World n :=
  let number := w.stageCounter (pid i) + 1
  { w.setPhase i (.binding ⟨republish, number, .clear⟩) with
    stageCounter := Function.update w.stageCounter (pid i) number }

/-- Where a server is after a bind attempt that failed. -/
def Attempt.abandoned : Phase n := if a.republish then .running else .idle

def Attempt.at (stage : Stage n) : Phase n := .binding { a with stage }

/-- One operation of `bindSocket`. `fault` has it fail, `ino` is the inode number of a new socket. -/
def bindSocket : World n :=
  let stagedPath := w.staged (pid i) a.number
  match a.stage with
  | .clear =>
    if fault then w.setPhase i a.abandoned
    else (w.setStaged (pid i) a.number none).setPhase i (a.at .listen)
  | .listen =>
    -- the name must not exist
    if fault || stagedPath.isSome then w.setPhase i a.abandoned
    else
      let listener : Socket n := ⟨some i, w.serial, ino⟩
      { (w.setStaged (pid i) a.number (some listener)).setPhase i (a.at (.chmod listener)) with
        serial := w.serial + 1 }
  | .chmod listener =>
    if fault || stagedPath.isNone then w.setPhase i (a.at .undo)
    else w.setPhase i (a.at (.stat listener))
  | .stat listener =>
    match stagedPath with
    | some entry =>
      if fault then w.setPhase i (a.at .undo) else w.setPhase i (a.at (.rename listener entry.ino))
    | none => w.setPhase i (a.at .undo)
  | .rename listener ino =>
    match stagedPath with
    | some entry =>
      if fault then w.setPhase i (a.at .undo)
      else
        { (w.setStaged (pid i) a.number none).setPhase i (a.at (.publishing listener ino)) with
          path := some entry }
    | none => w.setPhase i (a.at .undo)
  | .publishing listener ino =>
    { w with server := Function.update w.server i ⟨.running, some listener, ino⟩ }
  | .undo =>
    (if fault then w else w.setStaged (pid i) a.number none).setPhase i a.abandoned

/-- The next operation of a server. A running server's guard looks at the path. -/
def turn : World n :=
  match (w.server i).phase with
  | .idle => w
  | .checking => if fault then w.setPhase i .idle else beginBind pid w i false
  | .binding a => bindSocket pid w i a fault ino
  | .running =>
    -- `republishSocketIfMissing`
    if fault || w.path.isSome then w else beginBind pid w i true
  | .stopping false =>
    if w.path.any (fun entry => entry.ino = (w.server i).socketID) then w.setPhase i (.stopping true)
    else w.retire i
  | .stopping true => { w.retire i with path := none }

/-- What happens: a server's `Start` or `Stop` is called and gets the mutex, a server does its next
operation, or a process is gone and a new one gets its PID. -/
inductive Event (n : ℕ) where
  | start (i : Fin n)
  | stop (i : Fin n)
  | turn (i : Fin n) (fault : Bool) (ino : ℕ)
  | exec (pid : ℕ)
  deriving DecidableEq, Repr

def step : Event n → World n
  | .start i => if (w.server i).phase = .idle then w.setPhase i .checking else w
  | .stop i =>
    if (w.server i).phase = .running then
      -- the listener is closed first
      { w with
        server := Function.update w.server i { w.server i with phase := .stopping false, listener := none } }
    else w
  | .turn i fault ino => turn pid w i fault ino
  | .exec p =>
    if ∀ i, pid i = p → (w.server i).phase = .idle then
      { w with stageCounter := Function.update w.stageCounter p 0 }
    else w

/-- No server has been started; the path may be an orphan, and so may staged names. -/
structure Initial (w : World n) : Prop where
  idle : ∀ i, (w.server i).phase = .idle
  orphan : ∀ o, w.path = some o → o.owner = none

end Model

/-! ## What sits at the path -/

variable {n : ℕ} {pid : Fin n → ℕ} {w w' : World n} {i j : Fin n} {a b : Attempt n} {o : Socket n}

namespace World

@[simp] theorem setPhase_staged (i : Fin n) (phase : Phase n) : (w.setPhase i phase).staged = w.staged := rfl

@[simp] theorem setPhase_server (i : Fin n) (phase : Phase n) :
    (w.setPhase i phase).server i = { w.server i with phase } :=
  update_self ..

theorem setPhase_server_ne (phase : Phase n) (h : j ≠ i) : (w.setPhase i phase).server j = w.server j :=
  update_of_ne h ..

section

variable (p k : ℕ) (entry : Option (Socket n))

include p k entry

@[simp] theorem setStaged_staged : (w.setStaged p k entry).staged p k = entry := by
  simp [setStaged]

end

theorem setStaged_staged_ne {p q k l : ℕ} (entry : Option (Socket n)) (h : p = q → k ≠ l) :
    (w.setStaged p k entry).staged q l = w.staged q l := by
  unfold setStaged
  by_cases hp : p = q
  · subst hp
    simp [update_of_ne (h rfl).symm]
  · simp [update_of_ne (Ne.symm hp)]

theorem setStaged_self (p k : ℕ) : w.setStaged p k (w.staged p k) = w := by
  simp [setStaged]

end World

/-- Renamed, and the server is about to store the listener. -/
def Stage.isPublishing : Stage n → Bool
  | .publishing .. => true
  | _ => false

/-- The server is responsible for this socket at the path: it serves it, is about to, or will remove
it. A republishing server's old socket is not at the path any more. -/
def Server.Responsible (s : Server n) (o : Socket n) : Prop :=
  match s.phase with
  | .running => s.listener = some o ∧ s.socketID = o.ino
  | .binding a => a.stage = .publishing o o.ino
  | .stopping false => s.socketID = o.ino
  | .stopping true => True
  | .idle => False
  | .checking => False

/-- A server that has published nothing since it was started. -/
def Phase.Unpublished : Phase n → Prop
  | .idle => True
  | .checking => True
  | .binding a => a.republish = false ∧ a.stage.isPublishing = false
  | .running => False
  | .stopping _ => False

/-- What an attempt finds under its staged name. -/
def Stage.Ready (entry : Option (Socket n)) (i : Fin n) : Stage n → Prop
  | .clear => True
  | .listen => entry = none
  | .chmod listener => entry = some listener ∧ listener.owner = some i
  | .stat listener => entry = some listener ∧ listener.owner = some i
  | .rename listener ino => entry = some listener ∧ listener.owner = some i ∧ ino = listener.ino
  | .publishing _ _ => True
  | .undo => True

/-- How many operations an attempt may still take. -/
def Stage.left : Stage n → ℕ
  | .clear => 6
  | .listen => 5
  | .chmod _ => 4
  | .stat _ => 3
  | .rename _ _ => 2
  | .publishing _ _ => 1
  | .undo => 1

theorem Stage.left_pos (s : Stage n) : 0 < s.left := by cases s <;> simp [Stage.left]

/-- **All an operation of `bindSocket` can do.** It gives up, goes on towards the rename or to the
removal of the staged name, renames, or leaves the listener to the server. -/
inductive BindStep (pid : Fin n → ℕ) (w : World n) (i : Fin n) (a : Attempt n) : World n → Prop
  | givesUp (entry : Option (Socket n)) (hnot : a.stage.isPublishing = false) :
      BindStep pid w i a ((w.setStaged (pid i) a.number entry).setPhase i a.abandoned)
  | goes (entry : Option (Socket n)) (serial : ℕ) (stage : Stage n)
      (hnot : a.stage.isPublishing = false) (hstage : stage.isPublishing = false)
      (hleft : stage.left < a.stage.left)
      (hready : a.stage.Ready (w.staged (pid i) a.number) i → stage.Ready entry i) :
      BindStep pid w i a { (w.setStaged (pid i) a.number entry).setPhase i (a.at stage) with serial := serial }
  | renames (entry listener : Socket n) (ino : ℕ) (hs : a.stage = .rename listener ino)
      (hentry : w.staged (pid i) a.number = some entry) :
      BindStep pid w i a { (w.setStaged (pid i) a.number none).setPhase i (a.at (.publishing listener ino)) with
          path := some entry }
  | serves (listener : Socket n) (ino : ℕ) (hs : a.stage = .publishing listener ino) :
      BindStep pid w i a { w with server := Function.update w.server i ⟨.running, some listener, ino⟩ }

namespace BindStep

/-- The staged name stays as it is. -/
theorem quits (hnot : a.stage.isPublishing = false) : BindStep pid w i a (w.setPhase i a.abandoned) := by
  have h : BindStep pid w i a _ := .givesUp (w.staged (pid i) a.number) hnot
  rwa [World.setStaged_self] at h

theorem moves (stage : Stage n) (hnot : a.stage.isPublishing = false)
    (hstage : stage.isPublishing = false) (hleft : stage.left < a.stage.left)
    (hready : a.stage.Ready (w.staged (pid i) a.number) i →
      stage.Ready (w.staged (pid i) a.number) i) : BindStep pid w i a (w.setPhase i (a.at stage)) := by
  have h : BindStep pid w i a _ :=
    .goes (w.staged (pid i) a.number) w.serial stage hnot hstage hleft hready
  rwa [World.setStaged_self] at h

end BindStep

theorem bindSocket_step (pid : Fin n → ℕ) (w : World n) (i : Fin n) (a : Attempt n) (fault : Bool)
    (ino : ℕ) : BindStep pid w i a (bindSocket pid w i a fault ino) := by
  obtain ⟨republish, number, stage⟩ := a
  have hundo (hnot : stage.isPublishing = false) (hleft : 1 < stage.left) :
      BindStep pid w i ⟨republish, number, stage⟩ (w.setPhase i (Attempt.at ⟨republish, number, stage⟩ .undo)) :=
    .moves .undo hnot rfl hleft fun _ => trivial
  unfold bindSocket
  cases stage with
  | clear =>
    dsimp only
    split
    · exact .quits rfl
    · exact .goes none w.serial .listen rfl rfl (by simp [Stage.left]) fun _ => rfl
  | listen =>
    dsimp only
    split
    · exact .quits rfl
    · exact .goes (some ⟨some i, w.serial, ino⟩) (w.serial + 1) (.chmod _) rfl rfl (by simp [Stage.left])
        fun _ => ⟨rfl, rfl⟩
  | chmod listener =>
    dsimp only
    split
    · exact hundo rfl (by simp [Stage.left])
    · exact .moves (.stat listener) rfl rfl (by simp [Stage.left]) fun h => h
  | stat listener =>
    cases hentry : w.staged (pid i) number with
    | none => exact hundo rfl (by simp [Stage.left])
    | some entry =>
      dsimp only
      split
      · exact hundo rfl (by simp [Stage.left])
      · refine .moves (.rename listener entry.ino) rfl rfl (by simp [Stage.left]) fun h => ?_
        obtain ⟨hsame, howner⟩ := h
        cases hentry.symm.trans hsame
        exact ⟨hentry, howner, rfl⟩
  | rename listener id =>
    cases hentry : w.staged (pid i) number with
    | none => exact hundo rfl (by simp [Stage.left])
    | some entry =>
      dsimp only
      split
      · exact hundo rfl (by simp [Stage.left])
      · exact .renames entry listener id rfl hentry
  | publishing listener id => exact .serves listener id rfl
  | undo =>
    cases fault with
    | true => exact .quits rfl
    | false => exact .givesUp none rfl

/-- **The invariant.** A socket at the path has its server, which is responsible for it; an orphan is
there only as long as nobody has published. Attempts under way have different staged names. -/
structure Inv (pid : Fin n → ℕ) (w : World n) : Prop where
  owned : ∀ o i, w.path = some o → o.owner = some i → (w.server i).Responsible o
  orphan : ∀ o, w.path = some o → o.owner = none → ∀ i, (w.server i).phase.Unpublished
  counted : ∀ i a, (w.server i).phase = .binding a → a.number ≤ w.stageCounter (pid i)
  ready : ∀ i a, (w.server i).phase = .binding a → a.stage.Ready (w.staged (pid i) a.number) i
  apart : ∀ i j a b, (w.server i).phase = .binding a → (w.server j).phase = .binding b → i ≠ j →
    pid i = pid j → a.number ≠ b.number

theorem Initial.inv (h : Initial w) : Inv pid w where
  owned := fun o i ho hi => by rw [h.orphan o ho] at hi; cases hi
  orphan := fun o _ _ i => by rw [h.idle i]; trivial
  counted := fun i a ha => by rw [h.idle i] at ha; cases ha
  ready := fun i a ha => by rw [h.idle i] at ha; cases ha
  apart := fun i j a b ha => by rw [h.idle i] at ha; cases ha

namespace Inv

section

variable (h : Inv pid w)

include h

/-- A step of one server. -/
theorem of_one (i : Fin n) (hothers : ∀ j, j ≠ i → w'.server j = w.server j)
    (hcounter : ∀ p, w.stageCounter p ≤ w'.stageCounter p) (hstaged : ∀ j a, j ≠ i → (w.server j).phase = .binding a →
      w'.staged (pid j) a.number = w.staged (pid j) a.number)
    (hpath : w'.path = w.path ∨ ∀ o, w'.path = some o → o.owner = some i)
    (howned : ∀ o, w'.path = some o → o.owner = some i → (w'.server i).Responsible o)
    (horphan : ∀ o, w'.path = some o → o.owner = none → (w'.server i).phase.Unpublished)
    (hattempt : ∀ a, (w'.server i).phase = .binding a → a.number ≤ w'.stageCounter (pid i) ∧
      a.stage.Ready (w'.staged (pid i) a.number) i ∧ ((∃ b, (w.server i).phase = .binding b ∧ b.number = a.number) ∨
        w.stageCounter (pid i) < a.number)) : Inv pid w' := by
  have hdiffer : ∀ j a b, j ≠ i → (w'.server i).phase = .binding a → (w.server j).phase = .binding b →
      pid i = pid j → a.number ≠ b.number := by
    intro j a b hj ha hb hpid
    obtain ⟨-, -, ⟨c, hc, hnumber⟩ | hnew⟩ := hattempt a ha
    · rw [← hnumber]
      exact h.apart i j c b hc hb hj.symm hpid
    · have hle := h.counted j b hb
      rw [← hpid] at hle
      omega
  refine ⟨fun o j ho hj => ?_, fun o ho hnone j => ?_, fun j a ha => ?_, fun j a ha => ?_,
    fun j k a b ha hb hne hpid => ?_⟩
  · rcases eq_or_ne j i with rfl | hji
    · exact howned o ho hj
    · rcases hpath with hsame | hmine
      · rw [hothers j hji]
        exact h.owned o j (hsame ▸ ho) hj
      · rw [hmine o ho] at hj
        exact absurd (Option.some.inj hj).symm hji
  · rcases eq_or_ne j i with rfl | hji
    · exact horphan o ho hnone
    · rcases hpath with hsame | hmine
      · rw [hothers j hji]
        exact h.orphan o (hsame ▸ ho) hnone j
      · rw [hmine o ho] at hnone
        cases hnone
  · rcases eq_or_ne j i with rfl | hji
    · exact (hattempt a ha).1
    · rw [hothers j hji] at ha
      exact le_trans (h.counted j a ha) (hcounter _)
  · rcases eq_or_ne j i with rfl | hji
    · exact (hattempt a ha).2.1
    · rw [hothers j hji] at ha
      rw [hstaged j a hji ha]
      exact h.ready j a ha
  · rcases eq_or_ne j i with rfl | hji
    · rw [hothers k hne.symm] at hb
      exact hdiffer k a b hne.symm ha hb hpid
    · rw [hothers j hji] at ha
      rcases eq_or_ne k i with rfl | hki
      · exact (hdiffer j b a hji hb ha hpid.symm).symm
      · rw [hothers k hki] at hb
        exact h.apart j k a b ha hb hne hpid

/-- A server in an attempt that is not published is not responsible for what is at the path. -/
theorem not_owned (ha : (w.server i).phase = .binding a)
    (hstage : a.stage.isPublishing = false) (ho : w.path = some o) : o.owner ≠ some i := by
  intro hi
  have hresp := h.owned o i ho hi
  simp only [Server.Responsible, ha] at hresp
  rw [hresp] at hstage
  cases hstage

/-- An operation of an attempt before the rename, and the end of one that failed. -/
theorem own_attempt (ha : (w.server i).phase = .binding a)
    (hstage : a.stage.isPublishing = false) (entry : Option (Socket n)) {phase : Phase n}
    (hphase : phase = a.abandoned ∨ ∃ stage, phase = a.at stage ∧ stage.isPublishing = false ∧ stage.Ready entry i) :
    Inv pid ((w.setStaged (pid i) a.number entry).setPhase i phase) := by
  refine h.of_one i (fun j hj => World.setPhase_server_ne phase hj) (fun p => le_rfl)
    (fun j b hj hb => World.setStaged_staged_ne entry (h.apart i j a b ha hb hj.symm)) (.inl rfl)
    (fun o ho hi => absurd hi (h.not_owned ha hstage ho)) (fun o ho hnone => ?_) (fun c hc => ?_)
  · have hun := h.orphan o ho hnone i
    rw [ha] at hun
    rw [World.setPhase_server]
    rcases hphase with rfl | ⟨stage, rfl, hnot, -⟩
    · rw [Attempt.abandoned, hun.1]
      trivial
    · exact ⟨hun.1, hnot⟩
  · rw [World.setPhase_server] at hc
    rcases hphase with rfl | ⟨stage, rfl, -, hready⟩
    · dsimp only [Attempt.abandoned] at hc
      split at hc <;> cases hc
    · obtain rfl := Phase.binding.inj hc
      refine ⟨h.counted i a ha, ?_, .inl ⟨a, ha, rfl⟩⟩
      rw [World.setPhase_staged, World.setStaged_staged]
      exact hready

theorem with_serial (serial : ℕ) : Inv pid { w with serial } :=
  ⟨h.owned, h.orphan, h.counted, h.ready, h.apart⟩

/-- **An operation of `bindSocket`.** -/
theorem bindStep (ha : (w.server i).phase = .binding a) (hstep : BindStep pid w i a w') : Inv pid w' := by
  have hready := h.ready i a ha
  cases hstep with
  | givesUp entry hnot => exact h.own_attempt ha hnot entry (.inl rfl)
  | goes entry serial stage hnot hstage hleft hnext =>
    exact (h.own_attempt ha hnot entry (.inr ⟨stage, rfl, hstage, hnext hready⟩)).with_serial serial
  | renames entry listener ino hs hentry =>
    -- the path is the server's own socket now
    rw [hs] at hready
    obtain ⟨hsame, howner, rfl⟩ := hready
    cases hentry.symm.trans hsame
    refine h.of_one i (fun j hj => World.setPhase_server_ne _ hj) (fun p => le_rfl)
      (fun j b hj hb => World.setStaged_staged_ne none (h.apart i j a b ha hb hj.symm))
      (.inr fun o ho => ?_) (fun o ho _ => ?_) (fun o ho hnone => ?_) (fun c hc => ?_)
    · rw [← Option.some.inj ho]
      exact howner
    · rw [← Option.some.inj ho]
      simp [Server.Responsible, Attempt.at]
    · rw [← Option.some.inj ho, howner] at hnone
      cases hnone
    · simp only [World.setPhase_server] at hc
      obtain rfl := Phase.binding.inj hc
      exact ⟨h.counted i a ha, trivial, .inl ⟨a, ha, rfl⟩⟩
  | serves listener ino hs =>
    refine h.of_one i (fun j hj => update_of_ne hj _ _) (fun p => le_rfl) (fun j b _ _ => rfl)
      (.inl rfl) (fun o ho hi => ?_) (fun o ho hnone => ?_) (fun c hc => ?_)
    · have hresp := h.owned o i ho hi
      simp only [Server.Responsible, ha, hs] at hresp
      obtain ⟨rfl, rfl⟩ := Stage.publishing.inj hresp
      simp [Server.Responsible]
    · have hun := h.orphan o ho hnone i
      rw [ha] at hun
      exact absurd hun.2 (by rw [hs]; simp [Stage.isPublishing])
    · simp at hc

/-- A step that changes nothing but where the server is, outside an attempt. -/
theorem change_phase {s : Server n} (howned : ∀ o, w.path = some o → (w.server i).Responsible o → s.Responsible o)
    (hun : (w.server i).phase.Unpublished → s.phase.Unpublished) (hnot : ∀ a, s.phase ≠ .binding a) :
    Inv pid { w with server := Function.update w.server i s } := by
  refine h.of_one i (fun j hj => update_of_ne hj _ _) (fun p => le_rfl) (fun j b _ _ => rfl)
    (.inl rfl) (fun o ho hi => ?_) (fun o ho hnone => ?_) (fun c hc => ?_)
  · simp only [update_self]
    exact howned o ho (h.owned o i ho hi)
  · simp only [update_self]
    exact hun (h.orphan o ho hnone i)
  · simp only [update_self] at hc
    exact absurd hc (hnot c)

/-- A new attempt takes a number no other one has. -/
theorem beginBind (republish : Bool) (hresp : ∀ o, w.path = some o →
      ¬(w.server i).Responsible o) (hun : ∀ o, w.path = some o → republish = false) :
    Inv pid (beginBind pid w i republish) := by
  refine h.of_one i (fun j hj => World.setPhase_server_ne _ hj) (fun p => ?_) (fun j b _ _ => rfl)
    (.inl rfl) (fun o ho hi => absurd (h.owned o i ho hi) (hresp o ho)) (fun o ho _ => ?_) (fun c hc => ?_)
  · by_cases hp : p = pid i
    · subst hp
      simp [DeviceRegistry.beginBind]
    · simp [DeviceRegistry.beginBind, update_of_ne hp]
  · simp only [DeviceRegistry.beginBind, World.setPhase_server]
    exact ⟨hun o ho, rfl⟩
  · simp only [DeviceRegistry.beginBind, World.setPhase_server] at hc
    obtain rfl := Phase.binding.inj hc
    refine ⟨by simp [DeviceRegistry.beginBind], trivial, .inr (Nat.lt_succ_self _)⟩

/-- **A server's next operation.** -/
theorem turn (i : Fin n) (fault : Bool) (ino : ℕ) : Inv pid (turn pid w i fault ino) := by
  unfold DeviceRegistry.turn
  cases hp : (w.server i).phase with
  | idle => exact h
  | checking =>
    have hnone : ∀ o, ¬(w.server i).Responsible o := fun o hr => by
      simp only [Server.Responsible, hp] at hr
    dsimp only
    split
    · exact h.change_phase (fun o _ hr => absurd hr (hnone o)) (fun _ => trivial) (fun a => by simp)
    · exact h.beginBind false (fun o _ => hnone o) (fun _ _ => rfl)
  | binding a => exact h.bindStep hp (bindSocket_step pid w i a fault ino)
  | running =>
    dsimp only
    split
    · exact h
    · rename_i hmiss
      have hpath : ∀ o, w.path ≠ some o := fun o ho => hmiss (by rw [ho]; simp)
      exact h.beginBind true (fun o ho => absurd ho (hpath o)) (fun o ho => absurd ho (hpath o))
  | stopping owned =>
    have hun : (w.server i).phase.Unpublished → False := fun hu => by rw [hp] at hu; exact hu
    cases owned with
    | false =>
      dsimp only
      split
      · exact h.change_phase (fun o _ _ => trivial) (fun hu => (hun hu).elim) (fun a => by simp)
      · -- the path is not this server's socket
        rename_i hother
        refine h.change_phase (fun o ho hr => ?_) (fun _ => trivial) (fun a => by simp)
        simp only [Server.Responsible, hp] at hr
        exact absurd hr.symm (by simpa [ho] using hother)
    | true =>
      refine h.of_one i (fun j hj => update_of_ne hj _ _) (fun p => le_rfl)
        (fun j b _ _ => rfl) (.inr fun o ho => ?_) (fun o ho => ?_) (fun o ho => ?_) (fun c hc => ?_)
      · cases ho
      · cases ho
      · cases ho
      · simp only [World.retire, update_self] at hc
        cases hc

/-- **Every event keeps the invariant.** -/
theorem step (e : Event n) : Inv pid (step pid w e) := by
  cases e with
  | start i =>
    rw [DeviceRegistry.step]
    split
    · rename_i hp
      refine h.change_phase (fun o _ hr => ?_) (fun _ => trivial) (fun a => by simp)
      simp only [Server.Responsible, hp] at hr
    · exact h
  | stop i =>
    rw [DeviceRegistry.step]
    split
    · rename_i hp
      refine h.change_phase (fun o _ hr => ?_) (fun hu => ?_) (fun a => by simp)
      · simp only [Server.Responsible, hp] at hr
        exact hr.2
      · rw [hp] at hu
        exact hu.elim
    · exact h
  | turn i fault ino => exact h.turn i fault ino
  | exec p =>
    rw [DeviceRegistry.step]
    split
    · rename_i hidle
      refine ⟨h.owned, h.orphan, fun i a ha => ?_, h.ready, h.apart⟩
      have hne : pid i ≠ p := fun heq => by
        rw [hidle i heq] at ha
        cases ha
      simp only [update_of_ne hne]
      exact h.counted i a ha
    · exact h

end

theorem always (R : Execution (DeviceRegistry.step pid)) (h : Initial (R.state 0)) (m : ℕ) : Inv pid (R.state m) := by
  refine R.always_from h.inv (fun m _ hm => ?_) m (Nat.zero_le m)
  rw [R.next]
  exact hm.step _

end Inv

end VGpuManager.DeviceRegistry

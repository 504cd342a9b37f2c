import VGpuManager.Foundation.Text

/-!
# Publishing the endpoints of a remote server

The watcher of `pkg/kubeletplugin/remote_publish.go` probes the server's agent every five seconds,
stores the answer and republishes the slices when the stored values changed. A republish that
fails is not repeated: the next probe compares with the values that are already stored.
-/

namespace VGpuManager.KubeletPlugin

open Foundation

/-- What `refreshServerInfo` learns: no answer, or the endpoints and the version if it parses. -/
inductive ServerProbe (V : Type) where
  | failed
  | answer (version : Option V) (server agent : Text)

/-- `PublishSpec`: what is written on the devices; empty endpoints mean unreachable. -/
@[ext]
structure PublishSpec (V : Type) where
  version : Option V := none
  endpoint : Text := []
  agentEndpoint : Text := []
deriving DecidableEq, Repr

variable {V : Type}

/-- The values a probe asks to publish; without a version the last one is kept. -/
def PublishSpec.learn (s : PublishSpec V) : ServerProbe V → PublishSpec V
  | .failed => ⟨s.version, [], []⟩
  | .answer version server agent => ⟨version.or s.version, server, agent⟩

theorem learn_learn (s : PublishSpec V) (p : ServerProbe V) : (s.learn p).learn p = s.learn p := by
  cases p with
  | failed => rfl
  | answer version => cases version <;> rfl

variable [DecidableEq V]

/-- `refreshServerInfo`: the values stored, and whether one of them changed. -/
def refreshServerInfo (s : PublishSpec V) (p : ServerProbe V) : PublishSpec V × Bool :=
  (s.learn p, decide (s.learn p ≠ s))

/-- The stored values and those of the last publish that succeeded. -/
structure ServerWatch (V : Type) where
  spec : PublishSpec V
  published : PublishSpec V

/-- One cycle of `watchServerInfo`; `ok` is the outcome of the republish, should it be called. -/
def ServerWatch.cycle (w : ServerWatch V) (p : ServerProbe V) (ok : Bool) : ServerWatch V :=
  let (spec, changed) := refreshServerInfo w.spec p
  ⟨spec, if changed && ok then spec else w.published⟩

/-- The watcher after `n` cycles. -/
def ServerWatch.run (w : ServerWatch V) (probes : ℕ → ServerProbe V) (oks : ℕ → Bool) : ℕ → ServerWatch V
  | 0 => w
  | n + 1 => (w.run probes oks n).cycle (probes n) (oks n)

/-- The endpoints a probe result stands for, none for one that failed. -/
def ServerProbe.endpoints : ServerProbe V → Text × Text
  | .failed => ([], [])
  | .answer _ server agent => (server, agent)

def ServerProbe.version : ServerProbe V → Option V
  | .failed => none
  | .answer version _ _ => version

/-- The published endpoints are those of the probe. -/
def ServerWatch.Carries (w : ServerWatch V) (p : ServerProbe V) : Prop :=
  (w.published.endpoint, w.published.agentEndpoint) = p.endpoints

section Republishes

variable (w : ServerWatch V) (probes : ℕ → ServerProbe V) (oks : ℕ → Bool)

/-- The last version that was answered before a cycle. -/
def ServerWatch.knownVersion : ℕ → Option V
  | 0 => w.spec.version
  | n + 1 => (probes n).version.or (knownVersion n)

/-- The endpoints of the probe before. -/
def ServerWatch.knownEndpoints : ℕ → Text × Text
  | 0 => (w.spec.endpoint, w.spec.agentEndpoint)
  | n + 1 => (probes n).endpoints

/-- The probe of a cycle has other endpoints than the one before or another version than the last one that was
answered, and the republish succeeds. -/
def ServerWatch.Republishes (n : ℕ) : Prop :=
  ((probes n).endpoints ≠ w.knownEndpoints probes n ∨
    (probes n).version.isSome ∧ (probes n).version ≠ w.knownVersion probes n) ∧ oks n = true

/-- Of the probes before `n` that brought news, the last one whose republish succeeded had the endpoints of `p`;
or there was none, and they were published from the start. -/
def ServerWatch.LastRepublished (n : ℕ) (p : ServerProbe V) : Prop :=
  (∃ m < n, w.Republishes probes oks m ∧ (probes m).endpoints = p.endpoints ∧
    ∀ k < n, m < k → ¬ w.Republishes probes oks k) ∨ (∀ k < n, ¬ w.Republishes probes oks k) ∧ w.Carries p

end Republishes

section Runs

variable {w : ServerWatch V} {probes : ℕ → ServerProbe V} {oks : ℕ → Bool} {p : ServerProbe V} {N : ℕ}

theorem run_spec (n : ℕ) : (w.run probes oks n).spec.version = w.knownVersion probes n ∧
    ((w.run probes oks n).spec.endpoint, (w.run probes oks n).spec.agentEndpoint) = w.knownEndpoints probes n := by
  induction n with
  | zero => exact ⟨rfl, rfl⟩
  | succ n ih =>
    simp only [ServerWatch.run, ServerWatch.cycle, refreshServerInfo, ServerWatch.knownVersion,
      ServerWatch.knownEndpoints, ← ih.1]
    cases probes n <;> simp [PublishSpec.learn, ServerProbe.version, ServerProbe.endpoints]

theorem changed_iff (n : ℕ) : ((refreshServerInfo (w.run probes oks n).spec (probes n)).2 && oks n) = true ↔
    w.Republishes probes oks n := by
  obtain ⟨hversion, hends⟩ := @run_spec _ _ w probes oks n
  rw [Bool.and_eq_true, ServerWatch.Republishes, ← hversion, ← hends]
  refine and_congr_left fun _ => ?_
  generalize (w.run probes oks n).spec = spec
  simp only [refreshServerInfo, decide_eq_true_eq, Ne, PublishSpec.ext_iff]
  cases probes n with
  | failed => grind [PublishSpec.learn, ServerProbe.version, ServerProbe.endpoints]
  | answer version => cases version <;> grind [PublishSpec.learn, ServerProbe.version, ServerProbe.endpoints]

/-- A republish puts the endpoints of its probe in the place of those before. -/
theorem carries_succ (n : ℕ) : (w.run probes oks (n + 1)).Carries p ↔
    w.Republishes probes oks n ∧ (probes n).endpoints = p.endpoints ∨
      ¬ w.Republishes probes oks n ∧ (w.run probes oks n).Carries p := by
  have hlearn : ((((w.run probes oks n).spec.learn (probes n)).endpoint,
      ((w.run probes oks n).spec.learn (probes n)).agentEndpoint) : Text × Text) = (probes n).endpoints := by
    cases probes n <;> rfl
  rw [← changed_iff, ← hlearn]
  by_cases h : ((refreshServerInfo (w.run probes oks n).spec (probes n)).2 && oks n) = true
  · simp only [ServerWatch.run, ServerWatch.cycle, ServerWatch.Carries, h, if_true]
    simp [refreshServerInfo]
  · simp [ServerWatch.run, ServerWatch.cycle, ServerWatch.Carries, h]

/-- What is published is what the last republish has taken over. -/
theorem carries_iff (n : ℕ) : (w.run probes oks n).Carries p ↔ w.LastRepublished probes oks n p := by
  induction n with
  | zero => simp [ServerWatch.LastRepublished, ServerWatch.run]
  | succ n ih =>
    rw [carries_succ, ih]
    unfold ServerWatch.LastRepublished
    by_cases hrep : w.Republishes probes oks n
    · grind
    · grind

/-- Once the probe result is settled, one cycle decides what stays published. -/
theorem run_settled (hprobe : ∀ n ≥ N, probes n = p) (k : ℕ) :
    w.run probes oks (N + 1 + k) = w.run probes oks (N + 1) := by
  induction k with
  | zero => rfl
  | succ k ih =>
    rw [← Nat.add_assoc, ServerWatch.run, ih, ServerWatch.run, hprobe N le_rfl, hprobe (N + 1 + k) (by omega)]
    simp [ServerWatch.cycle, refreshServerInfo, learn_learn]

/-- The endpoints of a settled probe come to be published exactly if the last probe that brought news and was
republished had them, or there was none and they were published from the start. After the first probe with
the settled result nothing is republished, however well it would go. -/
theorem settled_endpoints_published_iff (hprobe : ∀ n ≥ N, probes n = p) :
    (∃ M, ∀ n ≥ M, (w.run probes oks n).Carries p) ↔ w.LastRepublished probes oks (N + 1) p := by
  have hsettled := @run_settled V _ w _ oks _ _ hprobe
  rw [← carries_iff]
  constructor
  · intro ⟨M, hM⟩
    rw [← hsettled M]
    exact hM _ (by omega)
  · intro h
    refine ⟨N + 1, fun n hn => ?_⟩
    obtain ⟨k, rfl⟩ := Nat.exists_eq_add_of_le hn
    rwa [hsettled k]

end Runs

theorem settled_endpoints_published_first :
    ∃ M, ∀ n ≥ M, ((⟨{}, {}⟩ : ServerWatch Unit).run (fun _ => .answer none ['s'] ['a']) (fun _ => true) n).Carries
      (.answer none ['s'] ['a']) :=
  (settled_endpoints_published_iff (N := 0) fun _ _ => rfl).mpr
    (.inl ⟨0, by decide, ⟨.inl (by decide), rfl⟩, rfl, by omega⟩)

/-- The republish of the first cycle fails; all later ones would succeed and none is called. -/
theorem failed_republish_not_repeated :
    ¬ ∃ M, ∀ n ≥ M, ((⟨{}, {}⟩ : ServerWatch Unit).run (fun _ => .answer none ['s'] ['a']) (fun n => n ≠ 0) n).Carries
      (.answer none ['s'] ['a']) := by
  intro ⟨M, hM⟩
  have h := hM (1 + 1 + M) (by omega)
  rw [run_settled (fun _ _ => rfl) M] at h
  exact absurd h (by unfold ServerWatch.Carries; decide)

end VGpuManager.KubeletPlugin

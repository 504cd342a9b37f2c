import VGpuManager.Reschedule.Unmarked

/-!
# Deleted pods come back

A pod that is owed is brought back by fairness: `Reconcile` goes on, what is in the queue is taken,
the worker goes on, and once the old pod is gone it creates the new one. The copy
that the worker takes has to carry the mark of its deletion. The client library does not put it
there, and then only another client brings the pod back (`deleted_pod_comes_back`). A pod that stays
past its time is given up as well: `unmarked_or_overdue_pod_lost` has an execution for each.
-/

namespace VGpuManager.Reschedule

open Foundation

variable {cfg : ControllerConfig} {k : PodKey}

/-! ## What lasts until its next action -/

/-- Without a crash, `Reconcile`, the worker and the items of the queue stay where they are until
it is their turn. -/
structure Lasts (s : World) (e : Event) (t : World) : Prop where
  up : t.up = true
  reconciler : s.reconciler ≠ .idle → (∀ a, e ≠ .proceed a) → t.reconciler = s.reconciler
  worker : s.worker ≠ .idle → (∀ a, e ≠ .work a) → t.worker = s.worker
  queue : ∀ i ∈ s.queue, ¬ (e = .take i ∧ s.CanTake i) → i ∈ t.queue

theorem Lasts.of_controller {s t : World} (e : Event) (hup : t.up = true)
    (hreconciler : t.reconciler = s.reconciler) (hworker : t.worker = s.worker)
    (hqueue : t.queue = s.queue) : Lasts s e t :=
  ⟨hup, fun _ _ => hreconciler, fun _ _ => hworker, fun _ hi _ => hqueue ▸ hi⟩

theorem Lasts.outside {s : World} {e : Event} (hup : s.up = true) (he : e.Outside) : Lasts s e (s.step cfg e) := by
  obtain ⟨api, now, heq⟩ := s.step_outside cfg he
  rw [heq]
  exact .of_controller e hup rfl rfl rfl

theorem step_lasts {s : World} (hup : s.up = true) (e : Event) (he : e ≠ .crash) : Lasts s e (s.step cfg e) := by
  have hsame : Lasts s e s := .of_controller e hup rfl rfl rfl
  cases e with
  | reconcile k' a =>
    simp only [World.step]
    split
    · rename_i hidle
      rcases s.reconcile_eq cfg k' a with heq | ⟨p, heq⟩ <;> rw [heq]
      · exact hsame
      · exact ⟨hup, fun hne => absurd hidle.2 hne, fun _ _ => rfl, fun _ hi _ => hi⟩
    · exact hsame
  | proceed a =>
    have hacts := s.proceed_acts cfg a
    simp only [World.step, hup, if_true]
    exact ⟨hacts.up.trans hup, fun _ hne => absurd rfl (hne a), fun _ _ => hacts.worker,
      fun i hi _ => hacts.queue i hi⟩
  | take i =>
    simp only [World.step, World.take]
    split
    · rename_i htake
      refine ⟨hup, fun _ _ => rfl, fun hne => absurd htake.2.1 hne, fun j hj hother => ?_⟩
      have hij : j ≠ i := fun hij => hother ⟨by rw [hij], hij ▸ htake⟩
      exact (List.mem_erase_of_ne hij).mpr hj
    · exact hsame
  | work a =>
    have hacts := s.work_acts a
    simp only [World.step, hup, if_true]
    exact ⟨hacts.up.trans hup, fun _ _ => hacts.reconciler, fun _ hne => absurd rfl (hne a),
      fun i hi _ => hacts.queue i hi⟩
  | crash => exact absurd rfl he
  | start listed =>
    simp only [World.step, hup, if_true]
    exact hsame
  | tick | create | update | mark | remove => exact .outside hup trivial

/-! ## Fair executions -/

/-- The step is no crash and no failed call. -/
def Event.Calm : Event → Prop
  | .crash => False
  | .proceed a | .work a => a.outcome = .done
  | _ => True

instance : ∀ e : Event, Decidable e.Calm
  | .crash => isFalse id
  | .proceed _ | .work _ => inferInstanceAs (Decidable (_ = _))
  | .reconcile _ _ | .take _ | .start _ | .tick _ | .create _ | .update _ | .mark _ _ | .remove _ =>
    isTrue trivial

theorem Event.Calm.ne_crash {e : Event} (h : e.Calm) : e ≠ .crash := by
  rintro rfl
  exact h

/-- What is assumed of an execution: actions that are due are taken some time, unless the process
crashes before; items are taken from the queue some time; the process is started again; pods do not
stay marked for ever; and from some time on there is no crash and no call fails. -/
structure Fair (R : Execution (World.step cfg)) : Prop where
  proceeds : ∀ n, (R.state n).reconciler ≠ .idle → ∃ m, n ≤ m ∧ ((∃ a, R.event m = .proceed a) ∨ R.event m = .crash)
  works : ∀ n, (R.state n).worker ≠ .idle → ∃ m, n ≤ m ∧ ((∃ a, R.event m = .work a) ∨ R.event m = .crash)
  takes : ∀ n, ∀ i ∈ (R.state n).queue,
    ∃ m, n ≤ m ∧ ((R.event m = .take i ∧ (R.state m).CanTake i) ∨ R.event m = .crash)
  starts : ∀ n, ∃ m, n ≤ m ∧ (R.state m).up = true
  goes : ∀ n k q d, (R.state n).api.get k = some q → q.deletion = some d →
    ∃ m, n ≤ m ∧ ∀ q d, (R.state m).api.get k = some q → q.deletion ≠ some d
  settles : ∃ N, ∀ n, N ≤ n → (R.event n).Calm

/-- The pod is owed for ever, though the old one is gone, the process is up and nothing fails. -/
structure Stalled (k : PodKey) (R : Execution (World.step cfg)) (n : ℕ) : Prop where
  owed : ∀ m, n ≤ m → Owed k (R.state m)
  gone : ∀ m, n ≤ m → (R.state m).api.get k = none
  up : ∀ m, n ≤ m → (R.state m).up = true
  careful : ∀ m, n ≤ m → Careful k (R.state m) (R.event m)
  calm : ∀ m, n ≤ m → (R.event m).Calm

variable {m : ℕ}

namespace Stalled

variable {R : Execution (World.step cfg)} {n : ℕ} (h : Stalled k R n) (hfair : Fair R)

include h

theorem lasts (hm : n ≤ m) : Lasts (R.state m) (R.event m) (R.state (m + 1)) := by
  rw [R.next m]
  exact step_lasts (h.up m hm) _ (h.calm m hm).ne_crash

variable {Q : World → Prop} {c : ApiPod}

/-- There is no crash, so what is due comes, and brings the execution from `P` to `Q`. -/
theorem moves (acts : World → Event → Prop) {P : World → Prop}
    (hmoves : ∀ m, n ≤ m → P (R.state m) → acts (R.state m) (R.event m) → Q (R.state (m + 1)))
    (hstays : ∀ m, n ≤ m → P (R.state m) → ¬ acts (R.state m) (R.event m) → P (R.state (m + 1))) (hm : n ≤ m)
    (hP : P (R.state m)) (hdue : ∃ m', m ≤ m' ∧ (acts (R.state m') (R.event m') ∨ R.event m' = .crash)) :
    ∃ m', n ≤ m' ∧ Q (R.state m') := by
  have hcomes : ∃ m', m ≤ m' ∧ acts (R.state m') (R.event m') := by
    obtain ⟨m', hm', hacts | hcrash⟩ := hdue
    · exact ⟨m', hm', hacts⟩
    · exact absurd hcrash (h.calm m' (hm.trans hm')).ne_crash
  obtain ⟨m', hm', hQ⟩ := R.eventually_of_helpful acts hP hcomes
    (fun m' hm' => hmoves m' (hm.trans hm')) (fun m' hm' => hstays m' (hm.trans hm'))
  exact ⟨m', hm.trans hm', hQ⟩

include hfair

/-- The worker's next action brings it from `phase` to `Q`. -/
theorem worker_moves {phase : WorkerPhase} (hidle : phase ≠ .idle)
    (hmoves : ∀ m a, n ≤ m → (R.state m).worker = phase → R.event m = .work a → a.outcome = .done →
      Q ((R.state m).work a)) (hm : n ≤ m) (hphase : (R.state m).worker = phase) : ∃ m', n ≤ m' ∧ Q (R.state m') := by
  refine h.moves (P := fun s => s.worker = phase) (fun _ e => ∃ a, e = .work a) (fun m hm hw => ?_)
    (fun m hm hw hnot => ?_) hm hphase (hfair.works m (hphase ▸ hidle))
  · intro ⟨a, ha⟩
    have hstep : R.state (m + 1) = (R.state m).work a := by simp [R.next m, ha, World.step, h.up m hm]
    exact hstep ▸ hmoves m a hm hw ha (by simpa [ha, Event.Calm] using h.calm m hm)
  · exact ((h.lasts hm).worker (hw ▸ hidle) fun a ha => hnot ⟨a, ha⟩).trans hw

/-- The next action of `Reconcile` brings it from `phase` to `Q`. -/
theorem reconciler_moves {phase : ReconcilePhase} (hidle : phase ≠ .idle)
    (hmoves : ∀ m a, n ≤ m → (R.state m).reconciler = phase → a.outcome = .done → Q ((R.state m).proceed cfg a))
    (hm : n ≤ m) (hphase : (R.state m).reconciler = phase) : ∃ m', n ≤ m' ∧ Q (R.state m') := by
  refine h.moves (P := fun s => s.reconciler = phase) (fun _ e => ∃ a, e = .proceed a) (fun m hm hr => ?_)
    (fun m hm hr hnot => ?_) hm hphase (hfair.proceeds m (hphase ▸ hidle))
  · intro ⟨a, ha⟩
    have hstep : R.state (m + 1) = (R.state m).proceed cfg a := by simp [R.next m, ha, World.step, h.up m hm]
    exact hstep ▸ hmoves m a hm hr (by simpa [ha, Event.Calm] using h.calm m hm)
  · exact ((h.lasts hm).reconciler (hr ▸ hidle) fun a ha => hnot ⟨a, ha⟩).trans hr

/-- A worker that knows the pod to be gone creates it. -/
theorem not_missing (hm : n ≤ m) (hk : c.key = k) : (R.state m).worker ≠ .missing c := by
  intro hw
  obtain ⟨m', hm', hexists⟩ : ∃ m', n ≤ m' ∧ Exists k (R.state m') := by
    refine h.worker_moves hfair (by simp) (fun m' a hm' hw' _ hdone => ?_) hm hw
    refine ⟨recovered c a.uid, Option.mem_def.mpr ?_, rfl⟩
    simp only [World.work, hw', World.create, hdone, hk, h.gone m' hm', PodStore.get_put, recovered_key, if_true]
  exact (h.owed m' hm').absent hexists

/-- A worker that has the pod finds the old one gone. -/
theorem not_taken (hm : n ≤ m) (hk : c.key = k) : (R.state m).worker ≠ .taken c := by
  intro hw
  obtain ⟨m', hm', hmissing⟩ : ∃ m', n ≤ m' ∧ (R.state m').worker = .missing c := by
    refine h.worker_moves hfair (by simp) (Q := fun s => s.worker = .missing c) (fun m' a hm' hw' ha hdone => ?_) hm hw
    have hcareful := h.careful m' hm'
    rw [ha] at hcareful
    obtain ⟨⟨d, hd, hage⟩, -⟩ := hcareful c (by rw [hw']; rfl) hk
    have hyoung : ¬ day < (R.state m').now - d.timestamp := by omega
    simp only [World.work, hw', World.inspect, Option.mem_def.mp hd, hyoung, if_false, hdone, hk, h.gone m' hm']
  exact h.not_missing hfair hm' hk hmissing

/-- What is in the queue is taken. -/
theorem not_queued (hm : n ≤ m) {i : Item} (hk : i.copy.key = k) : i ∉ (R.state m).queue := by
  intro hi
  obtain ⟨m', hm', htaken⟩ : ∃ m', n ≤ m' ∧ (R.state m').worker = .taken i.copy := by
    refine h.moves (P := fun s => i ∈ s.queue) (Q := fun s => s.worker = .taken i.copy)
      (fun s e => e = .take i ∧ s.CanTake i) (fun m _ _ ⟨he, htake⟩ => ?_)
      (fun m hm hi hnot => (h.lasts hm).queue i hi hnot) hm hi (hfair.takes m i hi)
    rw [R.next m, he]
    simp only [World.step, World.take, if_pos htake]
  exact h.not_taken hfair hm' hk htaken

theorem not_noted (hm : n ≤ m) (hk : c.key = k) : (R.state m).reconciler ≠ .noted c := by
  intro hr
  obtain ⟨m', hm', i, hi, hik⟩ : ∃ m', n ≤ m' ∧ ∃ i ∈ (R.state m').queue, i.copy.key = k := by
    refine h.reconciler_moves hfair (by simp) (Q := fun s => ∃ i ∈ s.queue, i.copy.key = k)
      (fun m' a _ hr' _ => ?_) hm hr
    simp only [World.proceed, hr']
    exact ⟨_, List.mem_append_right _ (.head _), hk⟩
  exact h.not_queued hfair hm' hik hi

theorem not_deleted (hm : n ≤ m) (hk : c.key = k) : (R.state m).reconciler ≠ .deleted c := by
  intro hr
  obtain ⟨m', hm', hnoted⟩ : ∃ m', n ≤ m' ∧ (R.state m').reconciler = .noted c := by
    refine h.reconciler_moves hfair (by simp) (Q := fun s => s.reconciler = .noted c)
      (fun m' a _ hr' hdone => ?_) hm hr
    simp only [World.proceed, hr', hdone]
  exact h.not_noted hfair hm' hk hnoted

/-- So this does not happen. -/
theorem false : False := by
  rcases (h.owed n le_rfl).tracked (h.up n le_rfl) with ⟨c, hk, hd | hn | hw | hw⟩ | ⟨i, hi, hk⟩
  · exact h.not_deleted hfair le_rfl hk hd
  · exact h.not_noted hfair le_rfl hk hn
  · exact h.not_taken hfair le_rfl hk hw
  · exact h.not_missing hfair le_rfl hk hw
  · exact h.not_queued hfair le_rfl hk hi

end Stalled

/-- In every fair execution, once `Reconcile` has deleted a bare pod and every step from then on is
careful, a pod with its namespace and name that is not marked for deletion exists again. -/
theorem Careful.comes_back (R : Execution (World.step cfg)) (hfair : Fair R) {n : ℕ}
    (hdeletes : Deletes k (R.state n) (R.event n)) (hcareful : ∀ m, n ≤ m → Careful k (R.state m) (R.event m)) :
    ∃ m, n < m ∧ Exists k (R.state m) := by
  by_contra hnever
  push Not at hnever
  have howed : ∀ m, n + 1 ≤ m → Owed k (R.state m) := by
    refine R.always_from ?_ fun m hm h => ?_
    · have habsent := hnever (n + 1) (Nat.lt_succ_self n)
      rw [R.next n] at habsent ⊢
      exact hdeletes.owed (hcareful n le_rfl) habsent
    · have habsent := hnever (m + 1) (Nat.lt_succ_of_le (Nat.le_of_succ_le hm))
      rw [R.next m] at habsent ⊢
      exact h.step (hcareful m (Nat.le_of_succ_le hm)) habsent
  obtain ⟨N, hN⟩ := hfair.settles
  obtain ⟨m₁, hm₁, hup⟩ := hfair.starts (max N (n + 1))
  have hup' : ∀ m, m₁ ≤ m → (R.state m).up = true := by
    refine R.always_from (I := fun s => s.up = true) hup fun m hm h => ?_
    rw [R.next m]
    exact (step_lasts h _ (hN m (by omega)).ne_crash).up
  -- the old pod goes, and nothing takes its place
  obtain ⟨m₂, hm₂, hgone⟩ : ∃ m, m₁ ≤ m ∧ (R.state m).api.get k = none := by
    cases hget : (R.state m₁).api.get k with
    | none => exact ⟨m₁, le_rfl, hget⟩
    | some q =>
      obtain ⟨d, hd⟩ := (howed m₁ (by omega)).marked hget
      obtain ⟨m, hm, hgoes⟩ := hfair.goes m₁ k q d hget hd
      refine ⟨m, hm, Option.eq_none_iff_forall_ne_some.mpr fun q' hq' => ?_⟩
      obtain ⟨d', hd'⟩ := (howed m (by omega)).marked hq'
      exact hgoes q' d' hq' hd'
  have hgone' : ∀ m, m₂ ≤ m → (R.state m).api.get k = none := by
    refine R.always_from (I := fun s => s.api.get k = none) hgone fun m hm h => ?_
    have habsent := hnever (m + 1) (by omega)
    rw [R.next m] at habsent ⊢
    exact gone_or_exists _ h habsent
  exact Stalled.false ⟨fun m hm => howed m (by omega), hgone', fun m hm => hup' m (by omega),
    fun m hm => hcareful m (by omega), fun m hm => hN m (by omega)⟩ hfair

/-- **Deleted pods.** In every fair execution a pod that `Reconcile` has deleted exists again if
another client creates it or every step from then on is careful. If deletions leave the caller's
copy alone and the controller starts without marked copies, the first is the only way. -/
theorem deleted_pod_comes_back (R : Execution (World.step cfg)) (hfair : Fair R) {n : ℕ}
    (hdeletes : Deletes k (R.state n) (R.event n)) :
    ((∃ m, n ≤ m ∧ Recreates k (R.state m) (R.event m)) ∨ (∀ m, n ≤ m → Careful k (R.state m) (R.event m)) →
      ∃ m, n < m ∧ Exists k (R.state m)) ∧
    (cfg.stamps = false → Unmarked (R.state n) → (∃ m, n < m ∧ Exists k (R.state m)) →
      ∃ m, n ≤ m ∧ Recreates k (R.state m) (R.event m)) := by
  refine ⟨?_, ?_⟩
  · rintro (⟨m, hm, hrecreates⟩ | hcareful)
    · refine ⟨m + 1, Nat.lt_succ_of_le hm, ?_⟩
      rw [R.next]
      exact hrecreates.exists
    · exact Careful.comes_back R hfair hdeletes hcareful
  · intro hstamps hunmarked ⟨m, hm, hexists⟩
    exact recreated_of_exists R hstamps hdeletes hunmarked hm hexists

/-! ## Executions that come to rest -/

/-- Nothing is left to do. -/
@[mk_iff]
structure Quiet (s : World) : Prop where
  reconciler : s.reconciler = .idle
  worker : s.worker = .idle
  queue : s.queue = []
  api : ∀ p ∈ s.api.pods, p.deletion = none

instance (s : World) : Decidable (Quiet s) := decidable_of_iff _ (quiet_iff s).symm

/-- An execution without crashes and failures that comes to rest is fair: whatever was due has been
done by then. -/
theorem fair_of_quiet (R : Execution (World.step cfg)) {N : ℕ} (hup : (R.state 0).up = true)
    (hcalm : ∀ n, (R.event n).Calm) (hquiet : ∀ n, N ≤ n → Quiet (R.state n)) : Fair R := by
  have hups (n : ℕ) : (R.state n).up = true := by
    refine R.always_from (I := fun s => s.up = true) hup (fun m _ h => ?_) n (Nat.zero_le n)
    rw [R.next m]
    exact (step_lasts h _ (hcalm m).ne_crash).up
  have hlasts (n : ℕ) : Lasts (R.state n) (R.event n) (R.state (n + 1)) := by
    rw [R.next n]
    exact step_lasts (hups n) _ (hcalm n).ne_crash
  refine ⟨fun n hne => ?_, fun n hne => ?_, fun n i hi => ?_, fun n => ⟨n, le_rfl, hups n⟩,
    fun n k q d _ _ => ?_, ⟨0, fun n _ => hcalm n⟩⟩
  · obtain ⟨m, hm, hproceed⟩ := R.comes_of_ends (P := fun s => s.reconciler ≠ .idle)
      (fun _ e => ∃ a, e = .proceed a) hne
      (fun m _ hr hnot => ((hlasts m).reconciler hr fun a ha => hnot ⟨a, ha⟩) ▸ hr)
      (fun m hm hr => hr (hquiet m hm).reconciler)
    exact ⟨m, hm, .inl hproceed⟩
  · obtain ⟨m, hm, hwork⟩ := R.comes_of_ends (P := fun s => s.worker ≠ .idle)
      (fun _ e => ∃ a, e = .work a) hne
      (fun m _ hw hnot => ((hlasts m).worker hw fun a ha => hnot ⟨a, ha⟩) ▸ hw)
      (fun m hm hw => hw (hquiet m hm).worker)
    exact ⟨m, hm, .inl hwork⟩
  · obtain ⟨m, hm, htake⟩ := R.comes_of_ends (P := fun s => i ∈ s.queue) (N := N)
      (fun s e => e = .take i ∧ s.CanTake i) hi (fun m _ hi hnot => (hlasts m).queue i hi hnot)
      (fun m hm hi => by simp [(hquiet m hm).queue] at hi)
    exact ⟨m, hm, .inl htake⟩
  · refine ⟨max n N, le_max_left _ _, fun q d hq hd => ?_⟩
    rw [(hquiet _ (le_max_right _ _)).api q (PodStore.mem_of_get hq)] at hd
    exact nomatch hd

/-- Once the events are over only the clock goes on. -/
theorem idling (cfg : ControllerConfig) (start : World) (es : List Event) {n : ℕ} (hn : es.length ≤ n) : ∃ t,
    (Execution.ofList (World.step cfg) start es (.tick 1)).state n =
      { run (World.step cfg) start es with now := t } := by
  refine Execution.always_from _ (I := fun s => ∃ t, s = { run (World.step cfg) start es with now := t })
    ?_ (fun m hm => ?_) n hn
  · rw [Execution.ofList_state _ _ _ _ _ le_rfl, List.take_length]
    exact ⟨_, rfl⟩
  · intro ⟨t, ht⟩
    rw [Execution.next, Execution.ofList_event_idle _ _ _ hm, ht]
    exact ⟨_, rfl⟩

theorem fair_ofList {start : World} {es : List Event} (hup : start.up = true)
    (hcalm : Along (World.step cfg) (fun _ e => e.Calm) start es) (hquiet : Quiet (run (World.step cfg) start es)) :
    Fair (Execution.ofList (World.step cfg) start es (.tick 1)) := by
  refine fair_of_quiet (N := es.length) _ hup
    (Execution.ofList_along (fun _ e => Event.Calm e) hcalm fun _ _ => trivial) fun n hn => ?_
  obtain ⟨t, ht⟩ := idling cfg start es hn
  rw [ht]
  exact ⟨hquiet.reconciler, hquiet.worker, hquiet.queue, hquiet.api⟩

/-- A bare pod that was refused by the kubelet. -/
def refusedPod : ApiPod where
  name := "job".toList
  uid := "u1".toList
  containers := [{ name := "main".toList, vgpuNumber := 1 }]
  nodeName := "node".toList
  phase := .failed
  statusReason := "UnexpectedAdmissionError".toList
  deletion := none
  marked := rfl

/-- A call that succeeds; a deletion takes a minute. -/
def granted : Answer := ⟨.done, ⟨60000000000, some 0⟩, false, "u2".toList, 0⟩

/-- A client that marks the caller's copy, and the one that is used. -/
def marking : ControllerConfig := ⟨"node".toList, true⟩
def notMarking : ControllerConfig := ⟨"node".toList, false⟩

/-- `Reconcile` has noted the pod and is about to delete it. -/
def aboutToDelete (cfg : ControllerConfig) : World :=
  run (World.step cfg) ⟨PodStore.empty.put refusedPod, .empty, [], .idle, .idle, true, 0⟩
    [.reconcile refusedPod.key granted, .proceed granted]

/-- The pod is deleted and queued; the worker takes it and acts twice. -/
def handedOver (copy : ApiPod) (before after : List Event) : List Event :=
  [.proceed granted, .proceed granted, .proceed granted] ++ before ++
    [.take ⟨copy, queueDelay⟩, .work granted, .work granted] ++ after

abbrev recovery (cfg : ControllerConfig) (es : List Event) : Execution (World.step cfg) :=
  .ofList (World.step cfg) (aboutToDelete cfg) es (.tick 1)

/-- The copy is marked, and the old pod is gone when the worker looks. -/
def promptRecovery : List Event :=
  handedOver (refusedPod.mark granted.deletion) [.tick 20000000, .remove refusedPod.key] [.work granted]

/-- The copy is not marked, and another client creates the pod again. -/
def recreatedRecovery : List Event :=
  handedOver refusedPod [.tick 20000000, .remove refusedPod.key] [.create refusedPod]

theorem promptRecovery_comes_back : (Fair (recovery marking promptRecovery) ∧
      ∃ m, 0 < m ∧ Exists refusedPod.key ((recovery marking promptRecovery).state m)) ∧
    Fair (recovery notMarking recreatedRecovery) ∧
      ∃ m, 0 < m ∧ Exists refusedPod.key ((recovery notMarking recreatedRecovery).state m) := by
  have hprompt : Fair (recovery marking promptRecovery) :=
    fair_ofList (by decide +kernel) (by decide +kernel) (by decide +kernel)
  have hrecreated : Fair (recovery notMarking recreatedRecovery) :=
    fair_ofList (by decide +kernel) (by decide +kernel) (by decide +kernel)
  refine ⟨⟨hprompt, (deleted_pod_comes_back _ hprompt (by decide +kernel)).1 (.inr fun m _ => ?_)⟩,
    hrecreated, (deleted_pod_comes_back _ hrecreated (by decide +kernel)).1 (.inl ⟨8, by decide, ?_⟩)⟩
  · refine Execution.ofList_along (Careful refusedPod.key) ?_ (fun _ _ => ?_) m
    · decide +kernel
    · trivial
  · decide +kernel

theorem never_exists {start : World} {es : List Event}
    (halong : Along (World.step cfg) (fun s e => ¬ Exists k (s.step cfg e)) start es)
    (hend : ¬ Exists k (run (World.step cfg) start es)) (hm : 0 < m) :
    ¬ Exists k ((Execution.ofList (World.step cfg) start es (.tick 1)).state m) := by
  obtain ⟨n, rfl⟩ := Nat.exists_eq_succ_of_ne_zero hm.ne'
  rw [Nat.succ_eq_add_one, Execution.next]
  refine Execution.ofList_along (fun s e => ¬ Exists k (World.step cfg s e)) halong (fun n hn => ?_) n
  obtain ⟨t, ht⟩ := idling cfg start es hn
  rw [ht]
  exact hend

/-- The copy is not marked. -/
def unmarkedRecovery : List Event :=
  handedOver refusedPod [.tick 20000000, .remove refusedPod.key] []

/-- The copy is marked, but the old pod is still there ten seconds after its time. -/
def overdueRecovery : List Event :=
  handedOver (refusedPod.mark granted.deletion) [.tick 70000000000] [.remove refusedPod.key]

/-- Without the condition the pod is deleted, the execution is fair, no call fails, and the pod never
exists again. -/
theorem unmarked_or_overdue_pod_lost : (Fair (recovery notMarking unmarkedRecovery) ∧
      Deletes refusedPod.key ((recovery notMarking unmarkedRecovery).state 0)
        ((recovery notMarking unmarkedRecovery).event 0) ∧
      ∀ m, 0 < m → ¬ Exists refusedPod.key ((recovery notMarking unmarkedRecovery).state m)) ∧
    Fair (recovery marking overdueRecovery) ∧ Deletes refusedPod.key ((recovery marking overdueRecovery).state 0)
        ((recovery marking overdueRecovery).event 0) ∧
      ∀ m, 0 < m → ¬ Exists refusedPod.key ((recovery marking overdueRecovery).state m) :=
  ⟨⟨fair_ofList (by decide +kernel) (by decide +kernel) (by decide +kernel), by decide +kernel,
    fun _ hm => never_exists (by decide +kernel) (by decide +kernel) hm⟩,
    fair_ofList (by decide +kernel) (by decide +kernel) (by decide +kernel), by decide +kernel,
    fun _ hm => never_exists (by decide +kernel) (by decide +kernel) hm⟩

end VGpuManager.Reschedule

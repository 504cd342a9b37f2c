import VGpuManager.Reschedule.Recovery

/-!
# Pods that are owed

While a pod that `Reconcile` has deleted has not come back, it is owed (`Owed`): the checkpoint has
it, and, if the process is up, `Reconcile`, the queue or the worker has it, too. `Careful` is what a
step must not do to lose it; `Owed.step` is the invariant.
-/

namespace VGpuManager.Reschedule

open Foundation List

variable {cfg : ControllerConfig} {k : PodKey}

section

variable (k) (s : World) (e : Event)

/-- A pod with the key exists and is not marked for deletion. -/
def Exists : Prop := ∃ q ∈ s.api.get k, q.deletion = none
  deriving Decidable

/-- The pod that `Reconcile` deletes next. -/
def ReconcilePhase.toDelete : ReconcilePhase → Option ApiPod
  | .stored p => some p
  | _ => none

/-- The copy that the worker looks at next. -/
def WorkerPhase.toInspect : WorkerPhase → Option ApiPod
  | .taken c => some c
  | _ => none

/-- The copy about which the worker has made up its mind: it is about to create the pod, or to drop
it from the checkpoint. -/
def WorkerPhase.decided : WorkerPhase → Option ApiPod
  | .missing c | .finished c => some c
  | _ => none

/-- The step deletes the pod with the key. -/
def Deletes : Prop :=
  match e with
  | .proceed a =>
    s.up = true ∧ a.outcome ≠ .failed ∧ ∃ p ∈ s.reconciler.toDelete, p.key = k ∧ ∃ q ∈ s.api.get k, q.uid = p.uid
  | _ => False

/-- What the worker may be asked to look at: a copy that carries its deletion time, of less than a
day ago, while the old pod, if it is still there, is not past its time. -/
def Recoverable (copy : ApiPod) : Prop :=
  (∃ d ∈ copy.deletion, s.now - d.timestamp ≤ day) ∧ ∀ q ∈ s.api.get k, ∀ d ∈ q.deletion, s.now < d.deleteTime
  deriving Decidable

/-- The condition on a step: the worker looks at recoverable copies only; a deletion that took effect
is reported, and finds the pod in the checkpoint and the worker undecided about it; and a start
reads the checkpoint. -/
def Careful : Prop :=
  match e with
  | .work _ => ∀ c ∈ s.worker.toInspect, c.key = k → Recoverable k s c
  | .proceed a =>
    Deletes k s (.proceed a) → a.outcome = .done ∧ (s.checkpoint.get k).isSome ∧ ∀ c ∈ s.worker.decided, c.key ≠ k
  | .start listed => listed = true
  | _ => True

end

instance (s : World) : ∀ e, Decidable (Deletes k s e)
  | .proceed _ => inferInstanceAs (Decidable (_ ∧ _))
  | .reconcile _ _ | .take _ | .work _ | .crash | .start _ | .tick _ | .create _ | .update _
  | .mark _ _ | .remove _ => isFalse id

instance (s : World) : ∀ e, Decidable (Careful k s e)
  | .work _ => inferInstanceAs (Decidable (∀ c ∈ s.worker.toInspect, _))
  | .proceed _ => inferInstanceAs (Decidable (_ → _))
  | .start listed => inferInstanceAs (Decidable (listed = true))
  | .reconcile _ _ | .take _ | .crash | .tick _ | .create _ | .update _ | .mark _ _ | .remove _ =>
    isTrue trivial

theorem unmarked_of_isRecoverable {p : ApiPod} (h : isRecoverable cfg p = true) : p.deletion = none := by
  cases hd : p.deletion with
  | none => rfl
  | some d => simp [isRecoverable, p.marked, hd] at h

theorem ReconcilePhase.mem_toDelete {r : ReconcilePhase} {p : ApiPod} (h : p ∈ r.toDelete) : r = .stored p := by
  cases r with
  | stored q => rw [Option.some.inj h]
  | _ => exact nomatch h

/-- The pod is deleted, has not come back, and is not lost. -/
structure Owed (k : PodKey) (s : World) : Prop where
  stored : (s.checkpoint.get k).isSome
  absent : ¬ Exists k s
  reconciler : ∀ c, s.reconciler = .fetched c ∨ s.reconciler = .stored c ∨ s.reconciler = .failed c → c.key ≠ k
  finished : ∀ c, s.worker = .finished c → c.key ≠ k
  missing : ∀ c, s.worker = .missing c → c.key = k → s.api.get k = none
  tracked : s.up = true → (∃ c, c.key = k ∧ (s.reconciler = .deleted c ∨ s.reconciler = .noted c ∨
    s.worker = .taken c ∨ s.worker = .missing c)) ∨ ∃ i ∈ s.queue, i.copy.key = k

/-! ## What one action changes -/

variable {q copy : ApiPod} {s t : World} {e : Event}

theorem Owed.marked (h : Owed k s) (hq : s.api.get k = some q) : ∃ d, q.deletion = some d := by
  cases hd : q.deletion with
  | none => exact absurd ⟨q, hq, hd⟩ h.absent
  | some d => exact ⟨d, rfl⟩

theorem World.deleteApi_get {a : Answer} (hne : q.key ≠ k) : (s.deleteApi q a).get k = s.api.get k := by
  unfold World.deleteApi
  split
  · rw [PodStore.get_remove, if_neg (Ne.symm hne)]
  · split
    · rfl
    · rw [PodStore.get_put, if_neg (by simpa using Ne.symm hne)]

/-- `Reconcile` acts: the worker stays where it is, and the queue loses nothing. -/
theorem Owed.of_reconciler (h : Owed k s) (hstored : (t.checkpoint.get k).isSome)
    (hapi : t.api.get k = s.api.get k) (hworker : t.worker = s.worker) (hup : t.up = s.up)
    (hqueue : ∀ i ∈ s.queue, i ∈ t.queue)
    (hphase : ∀ c, t.reconciler = .fetched c ∨ t.reconciler = .stored c ∨ t.reconciler = .failed c →
      c.key ≠ k) (htrack : ∀ c, c.key = k → s.reconciler = .deleted c ∨ s.reconciler = .noted c →
      t.reconciler = .noted c ∨ ∃ i ∈ t.queue, i.copy.key = k) : Owed k t where
  stored := hstored
  absent := fun ⟨q, hq, hd⟩ => h.absent ⟨q, hapi ▸ hq, hd⟩
  reconciler := hphase
  finished := fun c hc => h.finished c (hworker ▸ hc)
  missing := fun c hc hk => hapi.trans (h.missing c (hworker ▸ hc) hk)
  tracked := fun ht => by
    rcases h.tracked (hup ▸ ht) with ⟨c, hk, hc⟩ | ⟨i, hi, hk⟩
    · rcases or_assoc.mpr hc with hr | hw
      · exact (htrack c hk hr).imp_left fun hn => ⟨c, hk, .inr (.inl hn)⟩
      · exact .inl ⟨c, hk, .inr (.inr (hworker ▸ hw))⟩
    · exact .inr ⟨i, hqueue i hi, hk⟩

/-- The worker acts: `Reconcile` stays where it is, and the queue loses nothing. -/
theorem Owed.of_worker (h : Owed k s) (hstored : (t.checkpoint.get k).isSome)
    (habsent : ¬ Exists k t) (hreconciler : t.reconciler = s.reconciler) (hup : t.up = s.up)
    (hqueue : ∀ i ∈ s.queue, i ∈ t.queue) (hfinished : ∀ c, t.worker = .finished c → c.key ≠ k)
    (hmissing : ∀ c, t.worker = .missing c → c.key = k → t.api.get k = none)
    (htrack : ∀ c, c.key = k → s.worker = .taken c ∨ s.worker = .missing c →
      t.worker = .missing c ∨ ∃ i ∈ t.queue, i.copy.key = k) : Owed k t where
  stored := hstored
  absent := habsent
  reconciler := fun c hc => h.reconciler c (hreconciler ▸ hc)
  finished := hfinished
  missing := hmissing
  tracked := fun ht => by
    rcases h.tracked (hup ▸ ht) with ⟨c, hk, hd | hn | hw⟩ | ⟨i, hi, hk⟩
    · exact .inl ⟨c, hk, .inl (hreconciler.trans hd)⟩
    · exact .inl ⟨c, hk, .inr (.inl (hreconciler.trans hn))⟩
    · exact (htrack c hk hw).imp_left fun hm => ⟨c, hk, .inr (.inr (.inr hm))⟩
    · exact .inr ⟨i, hqueue i hi, hk⟩

theorem get_put_isSome {t : PodStore} (h : (t.get k).isSome) (p : ApiPod) : ((t.put p).get k).isSome := by
  rw [PodStore.get_put]
  split
  · rfl
  · exact h

theorem get_remove_isSome {t : PodStore} (h : (t.get k).isSome) {k' : PodKey} (hne : k' ≠ k) :
    ((t.remove k').get k).isSome := by
  rwa [PodStore.get_remove, if_neg (Ne.symm hne)]

section

variable (h : Owed k s)

include h

/-- `Reconcile` goes on. -/
theorem Owed.proceed (a : Answer) : Owed k (s.proceed cfg a) := by
  unfold World.proceed
  split
  · exact h
  · -- another pod is noted, or not
    rename_i p hp
    have hne : p.key ≠ k := h.reconciler p (.inl hp)
    split
    · exact h.of_reconciler (get_put_isSome h.stored p) rfl rfl rfl (fun _ hi => hi)
        (by rintro c (hc | hc | hc) <;> cases hc; exact hne) (by simp [hp])
    · exact h.of_reconciler (get_put_isSome h.stored p) rfl rfl rfl (fun _ hi => hi) (by simp) (by simp [hp])
    · exact h.of_reconciler h.stored rfl rfl rfl (fun _ hi => hi) (by simp) (by simp [hp])
  · -- another pod is deleted, or not
    rename_i p hp
    have hne : p.key ≠ k := h.reconciler p (.inr (.inl hp))
    split
    · rename_i q hdone hq
      obtain ⟨hget, -⟩ := Option.filter_eq_some_iff.mp hq
      exact h.of_reconciler h.stored (World.deleteApi_get (PodStore.get_key hget ▸ hne)) rfl rfl
        (fun _ hi => hi) (by simp) (by simp [hp])
    · rename_i q hlate hq
      obtain ⟨hget, -⟩ := Option.filter_eq_some_iff.mp hq
      exact h.of_reconciler h.stored (World.deleteApi_get (PodStore.get_key hget ▸ hne)) rfl rfl
        (fun _ hi => hi) (by rintro c (hc | hc | hc) <;> cases hc; exact hne) (by simp [hp])
    · exact h.of_reconciler h.stored rfl rfl rfl (fun _ hi => hi)
        (by rintro c (hc | hc | hc) <;> cases hc; exact hne) (by simp [hp])
  · -- the pod is noted again
    rename_i p hp
    have hnoted (c : ApiPod) (hc : s.reconciler = .deleted c ∨ s.reconciler = .noted c) : c = p := by
      simpa [hp, eq_comm] using hc
    split
    · exact h.of_reconciler h.stored rfl rfl rfl (fun _ hi => hi) (by simp) (fun c _ hc => .inl (by rw [hnoted c hc]))
    · exact h.of_reconciler (get_put_isSome h.stored p) rfl rfl rfl (fun _ hi => hi) (by simp)
        (fun c _ hc => .inl (by rw [hnoted c hc]))
  · rename_i p hp
    refine h.of_reconciler h.stored rfl rfl rfl (fun i hi => mem_append_left _ hi) (by simp)
      (fun c hk hc => .inr ?_)
    obtain rfl : c = p := by simpa [hp, eq_comm] using hc
    exact ⟨_, mem_append_right _ (.head _), hk⟩
  · rename_i p hp
    have hne : p.key ≠ k := h.reconciler p (.inr (.inr hp))
    split
    · exact h.of_reconciler h.stored rfl rfl rfl (fun _ hi => hi) (by simp) (by simp [hp])
    · exact h.of_reconciler (get_remove_isSome h.stored hne) rfl rfl rfl (fun _ hi => hi) (by simp) (by simp [hp])

/-- The worker puts its item back. -/
theorem Owed.requeue (after : Int) (hcopy : ∀ c, s.worker = .taken c ∨ s.worker = .missing c → c = copy) :
    Owed k (s.requeue copy after) :=
  h.of_worker h.stored h.absent rfl rfl (fun i hi => mem_append_left _ hi)
    (by simp [World.requeue]) (by simp [World.requeue]) fun c hk hc =>
      .inr ⟨_, mem_append_right _ (.head _), by rw [← hcopy c hc]; exact hk⟩

/-- The worker is done with a pod of another key. -/
theorem Owed.finish (hne : copy.key ≠ k) (hcopy : ∀ c, s.worker = .taken c ∨ s.worker = .missing c → c = copy) :
    Owed k { s with worker := .finished copy } :=
  h.of_worker h.stored h.absent rfl rfl (fun _ hi => hi)
    (fun c hc => by obtain rfl := WorkerPhase.finished.inj hc; exact hne) (by simp)
    fun c hk hc => absurd hk (hcopy c hc ▸ hne)

theorem Owed.inspect (hw : s.worker = .taken copy)
    (hcareful : copy.key = k → Recoverable k s copy) (a : Answer) : Owed k (s.inspect copy a) := by
  have hcopy (c : ApiPod) (hc : s.worker = .taken c ∨ s.worker = .missing c) : c = copy := by
    simpa [hw, eq_comm] using hc
  -- dropping the copy is for other keys only
  have hfinish (hnot : copy.key = k → ¬ Recoverable k s copy) : Owed k { s with worker := .finished copy } :=
    h.finish (fun hk => hnot hk (hcareful hk)) hcopy
  unfold World.inspect
  split
  · rename_i hd
    exact hfinish fun _ hr => by obtain ⟨⟨d, hd', -⟩, -⟩ := hr; rw [hd] at hd'; exact nomatch hd'
  · rename_i d hd
    split
    · rename_i hold
      refine hfinish fun _ hr => ?_
      obtain ⟨⟨d', hd', hage⟩, -⟩ := hr
      obtain rfl : d = d' := Option.some.inj (hd.symm.trans hd')
      omega
    · split
      · rename_i hget
        refine h.of_worker h.stored h.absent rfl rfl (fun _ hi => hi) (by simp) (fun c hc hk => ?_)
          fun c _ hc => .inl (by rw [hcopy c hc])
        obtain rfl := WorkerPhase.missing.inj hc
        exact hk ▸ hget
      · rename_i q hdone hget
        split
        · rename_i hq
          refine h.finish (fun hk => ?_) hcopy
          obtain ⟨e, he⟩ := h.marked (hk ▸ hget)
          rw [hq] at he
          exact nomatch he
        · rename_i e he
          split
          · exact h.requeue _ hcopy
          · rename_i hdue
            exact hfinish fun hk hr => hdue (hr.2 q (hk ▸ hget) e he)
      · exact h.requeue _ hcopy

theorem Owed.create (hw : s.worker = .missing copy)
    (a : Answer) (habsent : ¬ Exists k (s.create copy a)) : Owed k (s.create copy a) := by
  have hcopy (c : ApiPod) (hc : s.worker = .taken c ∨ s.worker = .missing c) : c = copy := by
    simpa [hw, eq_comm] using hc
  unfold World.create at habsent ⊢
  split
  · rename_i q hdone hget
    refine h.finish (fun hk => ?_) hcopy
    rw [hk, h.missing copy hw hk] at hget
    exact nomatch hget
  · rename_i hdone hget
    rw [hdone, hget] at habsent
    have hne : copy.key ≠ k := by
      rintro rfl
      exact habsent ⟨recovered copy a.uid, by simp [PodStore.get_put], rfl⟩
    refine h.of_worker h.stored habsent rfl rfl (fun _ hi => hi) ?_ (by simp)
      fun c hk hc => absurd hk (hcopy c hc ▸ hne)
    intro c hc
    obtain rfl := WorkerPhase.finished.inj hc
    exact hne
  · rename_i hlate hget
    rw [hlate, hget] at habsent
    have hne : copy.key ≠ k := by
      rintro rfl
      exact habsent ⟨recovered copy a.uid, by simp [World.requeue, PodStore.get_put], rfl⟩
    exact h.of_worker h.stored habsent rfl rfl (fun i hi => mem_append_left _ hi)
      (by simp [World.requeue]) (by simp [World.requeue])
      fun c hk hc => absurd hk (hcopy c hc ▸ hne)
  · exact h.requeue _ hcopy

theorem Owed.forget (hw : s.worker = .finished copy) (a : Answer) : Owed k (s.forget copy a) := by
  have hne : copy.key ≠ k := h.finished copy hw
  unfold World.forget
  split
  · exact h.of_worker (get_remove_isSome h.stored hne) h.absent rfl rfl (fun _ hi => hi) (by simp)
      (by simp) (by simp [hw])
  · exact h.of_worker (get_remove_isSome h.stored hne) h.absent rfl rfl
      (fun i hi => mem_append_left _ hi) (by simp [World.requeue]) (by simp [World.requeue])
      (by simp [hw])
  · exact h.requeue _ (by simp [hw])

theorem Owed.work (a : Answer) (hcareful : ∀ c, s.worker = .taken c → c.key = k → Recoverable k s c)
    (habsent : ¬ Exists k (s.work a)) : Owed k (s.work a) := by
  unfold World.work at habsent ⊢
  split
  · exact h
  · exact h.inspect ‹_› (hcareful _ ‹_›) a
  · rename_i copy hw
    rw [hw] at habsent
    exact h.create hw a habsent
  · exact h.forget ‹_› a

theorem Owed.take (i : Item) : Owed k (s.take i) := by
  unfold World.take
  split
  · rename_i htake
    obtain ⟨hup, hidle, hmem, -⟩ := htake
    refine ⟨h.stored, h.absent, h.reconciler, by simp, by simp, fun _ => ?_⟩
    rcases h.tracked hup with ⟨c, hk, hd | hn | hw⟩ | ⟨j, hj, hk⟩
    · exact .inl ⟨c, hk, .inl hd⟩
    · exact .inl ⟨c, hk, .inr (.inl hn)⟩
    · simp [hidle] at hw
    · by_cases hij : j = i
      · exact .inl ⟨i.copy, hij ▸ hk, .inr (.inr (.inl rfl))⟩
      · exact .inr ⟨j, (mem_erase_of_ne hij).mpr hj, hk⟩
  · exact h

end

/-- What an action of `Reconcile` can do: delete a pod, and add to the queue. -/
structure ReconcilerActs (s : World) (a : Answer) (t : World) : Prop where
  worker : t.worker = s.worker
  up : t.up = s.up
  queue : ∀ i ∈ s.queue, i ∈ t.queue
  api : t.api = s.api ∨ ∃ q, s.api.get q.key = some q ∧ t.api = s.deleteApi q a

theorem World.proceed_acts (cfg : ControllerConfig) (s : World) (a : Answer) :
    ReconcilerActs s a (s.proceed cfg a) := by
  unfold World.proceed
  split
  · exact ⟨rfl, rfl, fun _ h => h, .inl rfl⟩
  · split <;> exact ⟨rfl, rfl, fun _ h => h, .inl rfl⟩
  · split
    · rename_i q hdone hq
      have hget := (Option.filter_eq_some_iff.mp hq).1
      exact ⟨rfl, rfl, fun _ h => h, .inr ⟨q, PodStore.get_key hget ▸ hget, rfl⟩⟩
    · rename_i q hlate hq
      have hget := (Option.filter_eq_some_iff.mp hq).1
      exact ⟨rfl, rfl, fun _ h => h, .inr ⟨q, PodStore.get_key hget ▸ hget, rfl⟩⟩
    · exact ⟨rfl, rfl, fun _ h => h, .inl rfl⟩
  · split <;> exact ⟨rfl, rfl, fun _ h => h, .inl rfl⟩
  · exact ⟨rfl, rfl, fun _ h => mem_append_left _ h, .inl rfl⟩
  · split <;> exact ⟨rfl, rfl, fun _ h => h, .inl rfl⟩

/-- What an action of the worker can do: create a pod, and add to the queue. -/
structure WorkerActs (s : World) (a : Answer) (t : World) : Prop where
  reconciler : t.reconciler = s.reconciler
  up : t.up = s.up
  queue : ∀ i ∈ s.queue, i ∈ t.queue
  api : t.api = s.api ∨ ∃ c, t.api = s.api.put (recovered c a.uid)

theorem WorkerActs.still {a : Answer} {w : WorkerPhase} {c : PodStore} :
    WorkerActs s a { s with worker := w, checkpoint := c } :=
  ⟨rfl, rfl, fun _ h => h, .inl rfl⟩

theorem WorkerActs.requeue {a : Answer} (h : WorkerActs s a t) (c : ApiPod) (after : Int) :
    WorkerActs s a (t.requeue c after) :=
  ⟨h.reconciler, h.up, fun i hi => mem_append_left _ (h.queue i hi), h.api⟩

section

variable (s) (c : ApiPod) (a : Answer)

theorem World.inspect_acts : WorkerActs s a (s.inspect c a) := by
  unfold World.inspect
  split
  · exact .still
  · split
    · exact .still
    · split
      · exact .still
      · split
        · exact .still
        · split
          · exact WorkerActs.still.requeue _ _
          · exact .still
      · exact WorkerActs.still.requeue _ _

theorem World.create_acts : WorkerActs s a (s.create c a) := by
  have hcreated : WorkerActs s a { s with api := s.api.put (recovered c a.uid) } :=
    ⟨rfl, rfl, fun _ h => h, .inr ⟨c, rfl⟩⟩
  unfold World.create
  split
  · exact .still
  · exact ⟨rfl, rfl, fun _ h => h, .inr ⟨c, rfl⟩⟩
  · exact hcreated.requeue _ _
  · exact WorkerActs.still.requeue _ _

theorem World.forget_acts : WorkerActs s a (s.forget c a) := by
  unfold World.forget
  split
  · exact .still
  · exact WorkerActs.still.requeue _ _
  · exact WorkerActs.still.requeue _ _

theorem World.work_acts : WorkerActs s a (s.work a) := by
  unfold World.work
  split
  · exact .still
  · exact s.inspect_acts _ a
  · exact s.create_acts _ a
  · exact s.forget_acts _ a

end

theorem World.reconcile_eq (cfg : ControllerConfig) (s : World) (k' : PodKey) (a : Answer) :
    s.reconcile cfg k' a = s ∨ ∃ p, s.reconcile cfg k' a = { s with reconciler := .fetched p } := by
  unfold World.reconcile
  split
  · split
    · exact .inr ⟨_, rfl⟩
    · exact .inl rfl
  · exact .inl rfl

/-- What a step can do to the pods of the API server: nothing; one is removed; one that is there is
written, and a mark stays; another client creates one; or the worker does. -/
inductive ApiStep (s : World) : Event → PodStore → Prop where
  | same (e : Event) : ApiStep s e s.api
  | removed (e : Event) (k : PodKey) : ApiStep s e (s.api.remove k)
  | written (e : Event) {p q : ApiPod} (hq : s.api.get p.key = some q)
      (hmark : p.deletion = none → q.deletion = none) : ApiStep s e (s.api.put p)
  | created {p : ApiPod} (hunmarked : p.deletion = none) (hgone : s.api.get p.key = none) :
      ApiStep s (.create p) (s.api.put p)
  | recovered (a : Answer) (c : ApiPod) : ApiStep s (.work a) (s.api.put (recovered c a.uid))

theorem ApiStep.mark (e : Event) (hq : s.api.get q.key = some q) (d : Deletion) : ApiStep s e (s.api.put (q.mark d)) :=
  .written e hq (by simp [ApiPod.mark])

theorem ApiStep.deleteApi (e : Event) (hq : s.api.get q.key = some q) (a : Answer) : ApiStep s e (s.deleteApi q a) := by
  unfold World.deleteApi
  split
  · exact .removed e q.key
  · split
    · exact .same e
    · exact .mark e hq a.deletion

theorem World.step_api (cfg : ControllerConfig) (s : World) (e : Event) : ApiStep s e (s.step cfg e).api := by
  cases e with
  | reconcile k' a =>
    simp only [World.step]
    split
    · rcases s.reconcile_eq cfg k' a with heq | ⟨p, heq⟩ <;> rw [heq] <;> exact .same _
    · exact .same _
  | proceed a =>
    simp only [World.step]
    split
    · rcases (s.proceed_acts cfg a).api with hapi | ⟨q, hq, hapi⟩ <;> rw [hapi]
      · exact .same _
      · exact .deleteApi _ hq a
    · exact .same _
  | take i =>
    simp only [World.step, World.take]
    split <;> exact .same _
  | work a =>
    simp only [World.step]
    split
    · rcases (s.work_acts a).api with hapi | ⟨c, hapi⟩ <;> rw [hapi]
      · exact .same _
      · exact .recovered a c
    · exact .same _
  | crash => exact .same _
  | start listed =>
    simp only [World.step]
    split <;> exact .same _
  | tick elapsed => exact .same _
  | create p =>
    simp only [World.step]
    split
    · rename_i hp
      exact .created hp.1 hp.2
    · exact .same _
  | update p =>
    simp only [World.step]
    split
    · rename_i hsame
      obtain ⟨q, hq, hqd⟩ := Option.map_eq_some_iff.mp hsame
      exact .written _ hq hqd.trans
    · exact .same _
  | mark k' d =>
    simp only [World.step]
    split
    · rename_i q hq
      split
      · exact .mark _ (PodStore.get_key hq ▸ hq) d
      · exact .same _
    · exact .same _
  | remove k' => exact .removed _ k'

/-- Writing another pod does not bring this one back. -/
theorem get_put_none {t : PodStore} {p : ApiPod} (hgone : t.get k = none)
    (hother : p.key = k → False) : (t.put p).get k = none := by
  rw [PodStore.get_put, if_neg fun hk => hother hk.symm]
  exact hgone

/-- A pod that is gone comes back only by being created. -/
theorem gone_or_exists (e : Event) (hgone : s.api.get k = none)
    (habsent : ¬ Exists k (s.step cfg e)) : (s.step cfg e).api.get k = none := by
  have hstep := s.step_api cfg e
  have hmarked : ∀ q ∈ (s.step cfg e).api.get k, q.deletion ≠ none :=
    fun q hq hd => habsent ⟨q, hq, hd⟩
  generalize (s.step cfg e).api = t at hstep hmarked ⊢
  have hput (p : ApiPod) (hp : p.key = k) : p ∈ (s.api.put p).get k := by
    rw [PodStore.get_put, if_pos hp.symm]
    rfl
  cases hstep with
  | same => exact hgone
  | removed _ k' =>
    rw [PodStore.get_remove]
    split
    · rfl
    · exact hgone
  | @written _ p q hq =>
    refine get_put_none hgone fun hk => ?_
    rw [hk, hgone] at hq
    cases hq
  | @created p hunmarked => exact get_put_none hgone fun hk => hmarked p (hput p hk) hunmarked
  | recovered a c => exact get_put_none hgone fun hk => hmarked _ (hput _ hk) rfl

/-- The clock and what others do to pods. -/
def Event.Outside : Event → Prop
  | .tick _ | .create _ | .update _ | .mark _ _ | .remove _ => True
  | _ => False

/-- They leave the controller alone. -/
theorem World.step_outside (cfg : ControllerConfig) (s : World) (he : e.Outside) :
    ∃ api now, s.step cfg e = { s with api := api, now := now } := by
  cases e with
  | tick elapsed => exact ⟨_, _, rfl⟩
  | create _ | update _ =>
    simp only [World.step]
    split <;> exact ⟨_, _, rfl⟩
  | mark k' d =>
    simp only [World.step]
    split
    · split <;> exact ⟨_, _, rfl⟩
    · exact ⟨_, _, rfl⟩
  | remove k' => exact ⟨_, _, rfl⟩
  | reconcile | proceed | take | work | crash | start => exact he.elim

theorem Owed.outside (h : Owed k s) (he : e.Outside) (habsent : ¬ Exists k (s.step cfg e)) : Owed k (s.step cfg e) := by
  have hgone (hg : s.api.get k = none) := gone_or_exists e hg habsent
  obtain ⟨api, now, heq⟩ := s.step_outside cfg he
  rw [heq] at habsent hgone ⊢
  exact ⟨h.stored, habsent, h.reconciler, h.finished, fun c hc hk => hgone (h.missing c hc hk), h.tracked⟩

/-- **One step.** A step that is careful does not lose the pod. -/
theorem Owed.step (h : Owed k s) (hcareful : Careful k s e)
    (habsent : ¬ Exists k (s.step cfg e)) : Owed k (s.step cfg e) := by
  cases e with
  | reconcile k' a =>
    simp only [World.step]
    split
    · rename_i hidle
      unfold World.reconcile
      split
      · rename_i p hdone hget
        split
        · rename_i hrec
          refine h.of_reconciler h.stored rfl rfl rfl (fun _ hi => hi) ?_ (by simp [hidle.2])
          -- only pods that are not marked are fetched
          rintro c (hc | hc | hc) hk <;> cases hc
          have hkey : k' = k := (PodStore.get_key hget).symm.trans hk
          exact h.absent ⟨p, hkey ▸ hget, unmarked_of_isRecoverable hrec⟩
        · exact h
      · exact h
    · exact h
  | proceed a =>
    simp only [World.step]
    split
    · exact h.proceed a
    · exact h
  | take i => exact h.take i
  | work a =>
    simp only [World.step] at habsent ⊢
    split
    · rename_i hup
      rw [if_pos hup] at habsent
      exact h.work a (fun c hc => hcareful c (by rw [hc]; rfl)) habsent
    · exact h
  | crash => exact ⟨h.stored, h.absent, by simp [World.step], by simp [World.step], by simp [World.step],
      by simp [World.step]⟩
  | start listed =>
    obtain rfl : listed = true := hcareful
    simp only [World.step]
    split
    · exact h
    · refine ⟨h.stored, h.absent, h.reconciler, h.finished, h.missing, fun _ => .inr ?_⟩
      obtain ⟨p, hp⟩ := Option.isSome_iff_exists.mp h.stored
      exact ⟨⟨p, s.now⟩, mem_map_of_mem (PodStore.mem_of_get hp), PodStore.get_key hp⟩
  | tick | create | update | mark | remove => exact h.outside trivial habsent

/-- The deletion leaves the pod owed. -/
theorem Deletes.owed (h : Deletes k s e) (hcareful : Careful k s e)
    (habsent : ¬ Exists k (s.step cfg e)) : Owed k (s.step cfg e) := by
  cases e with
  | proceed a =>
    obtain ⟨hdone, hstored, hundecided⟩ := hcareful h
    obtain ⟨hup, -, p, hp, rfl, q, hq, huid⟩ := h
    have hp := ReconcilePhase.mem_toDelete hp
    have hstep : s.step cfg (.proceed a) = { s with
        api := s.deleteApi q a
        reconciler := .deleted (if cfg.stamps then p.mark (q.deletion.getD a.deletion) else p) } := by
      have hown : (s.api.get p.key).filter (fun q => q.uid == p.uid) = some q := by
        simp [Option.mem_def.mp hq, huid]
      simp only [World.step, hup, if_true, World.proceed, hp, hdone, hown]
    rw [hstep] at habsent ⊢
    have hother {c : ApiPod} (hc : s.worker = .finished c ∨ s.worker = .missing c) : c.key ≠ p.key :=
      hundecided c (by rcases hc with hc | hc <;> rw [hc] <;> rfl)
    refine ⟨hstored, habsent, by simp, fun c hc => hother (.inl hc), fun c hc hk => absurd hk (hother (.inr hc)),
      fun _ => .inl ⟨_, ?_, .inl rfl⟩⟩
    split <;> rfl
  | _ => exact h.elim

end VGpuManager.Reschedule

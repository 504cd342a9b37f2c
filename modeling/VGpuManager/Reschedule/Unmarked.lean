import VGpuManager.Reschedule.Owed

/-!
# Copies without a deletion time

The client library deletes a pod without touching the copy that the caller holds. What `Reconcile`
then notes and queues carries no deletion time, and the worker takes it for a pod that needs no
recovery (`Unmarked.step`). So a deleted pod exists again only if another client creates it
(`recreated_of_exists`).
-/

namespace VGpuManager.Reschedule

open Foundation List

variable {cfg : ControllerConfig} {k : PodKey}

/-- Another client creates a pod with the key. -/
def Recreates (k : PodKey) (s : World) (e : Event) : Prop :=
  match e with
  | .create p => p.key = k ∧ p.deletion = none ∧ s.api.get k = none
  | _ => False

instance (s : World) : ∀ e, Decidable (Recreates k s e)
  | .create _ => inferInstanceAs (Decidable (_ ∧ _))
  | .reconcile _ _ | .proceed _ | .take _ | .work _ | .crash | .start _ | .tick _ | .update _
  | .mark _ _ | .remove _ => isFalse id

theorem Recreates.exists {s : World} {e : Event} (h : Recreates k s e) : Exists k (s.step cfg e) := by
  cases e with
  | create p =>
    obtain ⟨rfl, hunmarked, hgone⟩ := h
    refine ⟨p, ?_, hunmarked⟩
    simp [World.step, hunmarked, hgone, PodStore.get_put]
  | _ => exact h.elim

/-- The copy that `Reconcile` holds. -/
def ReconcilePhase.copy : ReconcilePhase → Option ApiPod
  | .idle => none
  | .fetched p | .stored p | .deleted p | .noted p | .failed p => some p

/-- No copy of the controller carries a deletion time, and the worker is not about to create a pod. -/
structure Unmarked (s : World) : Prop where
  checkpoint : ∀ p ∈ s.checkpoint.pods, p.deletion = none
  queue : ∀ i ∈ s.queue, i.copy.deletion = none
  reconciler : ∀ c ∈ s.reconciler.copy, c.deletion = none
  taken : ∀ c ∈ s.worker.toInspect, c.deletion = none
  finished : ∀ c, s.worker = .finished c → c.deletion = none
  missing : ∀ c, s.worker ≠ .missing c

namespace Unmarked

theorem put {t : PodStore} (h : ∀ p ∈ t.pods, p.deletion = none) {p : ApiPod}
    (hp : p.deletion = none) : ∀ q ∈ (t.put p).pods, q.deletion = none := by
  intro q hq
  rcases mem_cons.mp hq with rfl | hq
  · exact hp
  · exact h q (mem_filter.mp hq).1

theorem remove {t : PodStore} (h : ∀ p ∈ t.pods, p.deletion = none) (k : PodKey) :
    ∀ q ∈ (t.remove k).pods, q.deletion = none :=
  fun q hq => h q (mem_filter.mp hq).1

variable {s : World}

section

variable (h : Unmarked s)

include h

/-- The worker lets go of its copy. -/
theorem idle : Unmarked { s with worker := .idle } where
  checkpoint := h.checkpoint
  queue := h.queue
  reconciler := h.reconciler
  taken := by simp [WorkerPhase.toInspect]
  finished := by simp
  missing := by simp

/-- `Reconcile` passes over pods that are being deleted. -/
theorem reconcile (k' : PodKey) (a : Answer) : Unmarked (s.reconcile cfg k' a) := by
  unfold World.reconcile
  split
  · rename_i p _ _
    split
    · rename_i hrecoverable
      exact { h with reconciler := fun c hc => Option.some.inj hc ▸ unmarked_of_isRecoverable hrecoverable }
    · exact h
  · exact h

/-- The copy stays as it was read. -/
theorem proceed (hstamps : cfg.stamps = false) (a : Answer) : Unmarked (s.proceed cfg a) := by
  have hnone : ∀ c ∈ (none : Option ApiPod), c.deletion = none := by simp
  have hsome {p : ApiPod} (hp : p.deletion = none) : ∀ c ∈ some p, c.deletion = none :=
    fun c hc => Option.some.inj hc ▸ hp
  unfold World.proceed
  split
  · exact h
  · rename_i p hphase
    have hp := h.reconciler p (by rw [hphase]; rfl)
    split
    · exact { h with checkpoint := put h.checkpoint hp, reconciler := hsome hp }
    · exact { h with checkpoint := put h.checkpoint hp, reconciler := hnone }
    · exact { h with reconciler := hnone }
  · rename_i p hphase
    have hp := h.reconciler p (by rw [hphase]; rfl)
    rw [hstamps]
    split <;> exact { h with reconciler := hsome hp }
  · rename_i p hphase
    have hp := h.reconciler p (by rw [hphase]; rfl)
    split
    · exact { h with reconciler := hsome hp }
    · exact { h with checkpoint := put h.checkpoint hp, reconciler := hsome hp }
  · rename_i p hphase
    have hp := h.reconciler p (by rw [hphase]; rfl)
    refine { h with reconciler := hnone, queue := fun i hi => ?_ }
    rcases mem_append.mp hi with hi | hi
    · exact h.queue i hi
    · rw [mem_singleton.mp hi]; exact hp
  · split
    · exact { h with reconciler := hnone }
    · exact { h with checkpoint := remove h.checkpoint _, reconciler := hnone }

/-- An item that goes back to the queue. -/
theorem requeue {copy : ApiPod} (hcopy : copy.deletion = none) (after : Int) : Unmarked (s.requeue copy after) := by
  refine { h.idle with queue := fun i hi => ?_ }
  rcases mem_append.mp hi with hi | hi
  · exact h.queue i hi
  · rw [mem_singleton.mp hi]; exact hcopy

/-- The worker drops a copy without a deletion time. -/
theorem work (a : Answer) : Unmarked (s.work a) ∧ (s.work a).api = s.api := by
  unfold World.work
  split
  · exact ⟨h, rfl⟩
  · rename_i copy hphase
    have hcopy : copy.deletion = none := h.taken copy (by rw [hphase]; rfl)
    rw [World.inspect, hcopy]
    refine ⟨{ h with taken := ?_, finished := ?_, missing := ?_ }, rfl⟩
    · simp [WorkerPhase.toInspect]
    · exact fun c hc => WorkerPhase.finished.inj hc ▸ hcopy
    · simp
  · rename_i copy hphase
    exact absurd hphase (h.missing copy)
  · rename_i copy hphase
    have hcopy : copy.deletion = none := h.finished copy hphase
    have hremoved : Unmarked { s with checkpoint := s.checkpoint.remove copy.key } :=
      { h with checkpoint := remove h.checkpoint _ }
    unfold World.forget
    split
    · exact ⟨hremoved.idle, rfl⟩
    · exact ⟨hremoved.requeue hcopy _, rfl⟩
    · exact ⟨h.requeue hcopy _, rfl⟩

theorem take (i : Item) : Unmarked (s.take i) := by
  unfold World.take
  split
  · rename_i hcan
    have hcopy := h.queue i hcan.2.2.1
    refine { h with
      queue := fun j hj => h.queue j (mem_of_mem_erase hj)
      taken := fun c hc => Option.some.inj hc ▸ hcopy
      finished := by simp
      missing := by simp }
  · exact h

theorem outside {e : Event} (he : e.Outside) : Unmarked (s.step cfg e) := by
  obtain ⟨api, now, heq⟩ := s.step_outside cfg he
  rw [heq]
  exact { h with }

/-- **No step marks a copy** when deletions leave the caller's copy alone. -/
theorem step (hstamps : cfg.stamps = false) (e : Event) : Unmarked (s.step cfg e) := by
  cases e with
  | reconcile k' a => simp only [World.step]; split; exacts [h.reconcile k' a, h]
  | proceed a => simp only [World.step]; split; exacts [h.proceed hstamps a, h]
  | take i => exact h.take i
  | work a => simp only [World.step]; split; exacts [(h.work a).1, h]
  | crash =>
    refine { h.idle with queue := ?_, reconciler := ?_ }
    · simp [World.step]
    · simp [World.step, ReconcilePhase.copy]
  | start listed =>
    simp only [World.step]
    split
    · exact h
    · refine { h with queue := fun i hi => ?_ }
      split at hi
      · obtain ⟨p, hp, rfl⟩ := mem_map.mp hi
        exact h.checkpoint p hp
      · cases hi
  | tick | create | update | mark | remove => exact h.outside trivial

/-- A pod that is marked or gone stays so, unless another client creates one. -/
theorem absent {e : Event} (habsent : ¬ Exists k s) (hnot : ¬ Recreates k s e) : ¬ Exists k (s.step cfg e) := by
  have hmarked : ∀ q ∈ s.api.get k, q.deletion ≠ none := fun q hq hd => habsent ⟨q, hq, hd⟩
  rintro ⟨r, hr, hunmarked⟩
  have hput {p : ApiPod} (hr : r ∈ (s.api.put p).get k) : p.key = k ∧ p.deletion = none := by
    rw [Option.mem_def, PodStore.get_put] at hr
    split at hr
    · rename_i hk
      cases hr
      exact ⟨hk.symm, hunmarked⟩
    · exact absurd hunmarked (hmarked r hr)
  have hstep := s.step_api cfg e
  generalize hapi : (s.step cfg e).api = t at hstep hr
  cases hstep with
  | same => exact hmarked r hr hunmarked
  | removed _ k' =>
    rw [Option.mem_def, PodStore.get_remove] at hr
    split at hr
    · cases hr
    · exact hmarked r hr hunmarked
  | written _ hq hmark =>
    obtain ⟨hk, hd⟩ := hput hr
    exact hmarked _ (hk ▸ hq) (hmark hd)
  | created hd hgone => exact hnot ⟨(hput hr).1, hd, (hput hr).1 ▸ hgone⟩
  | recovered a c =>
    -- the worker has no copy that it would create a pod from
    have hsame : (s.step cfg (.work a)).api = s.api := by
      simp only [World.step]
      split
      · exact (h.work a).2
      · rfl
    rw [← hapi, hsame] at hr
    exact hmarked r hr hunmarked

end

end Unmarked

/-- Right after its deletion the pod is marked or gone. -/
theorem Deletes.absent {s : World} {e : Event} (h : Deletes k s e) : ¬ Exists k (s.step cfg e) := by
  cases e with
  | proceed a =>
    obtain ⟨hup, hanswer, p, hp, rfl, q, hq, huid⟩ := h
    have hphase := ReconcilePhase.mem_toDelete hp
    have hown : (s.api.get p.key).filter (fun q => q.uid == p.uid) = some q := by
      simp [Option.mem_def.mp hq, huid]
    have hapi : (s.step cfg (.proceed a)).api = s.deleteApi q a := by
      simp only [World.step, hup, if_true, World.proceed, hphase, hown]
      cases houtcome : a.outcome with
      | done | late => rfl
      | failed => exact absurd houtcome hanswer
    rintro ⟨r, hr, hunmarked⟩
    rw [Option.mem_def, hapi, World.deleteApi, ← PodStore.get_key hq] at hr
    split at hr
    · simp [PodStore.get_remove] at hr
    · split at hr
      · rename_i hmarked
        rw [PodStore.get_key hq, Option.mem_def.mp hq] at hr
        rw [Option.some.inj hr, hunmarked] at hmarked
        cases hmarked
      · rw [PodStore.get_put, if_pos (ApiPod.mark_key q _).symm] at hr
        rw [← Option.some.inj hr] at hunmarked
        cases hunmarked
  | _ => exact h.elim

/-- **Nobody else, no pod.** If deletions leave the caller's copy alone, a pod that `Reconcile` has
deleted exists again only if another client creates it. -/
theorem recreated_of_exists (R : Execution (World.step cfg)) (hstamps : cfg.stamps = false) {n : ℕ}
    (hdeletes : Deletes k (R.state n) (R.event n)) (hunmarked : Unmarked (R.state n)) {m : ℕ}
    (hm : n < m) (hexists : Exists k (R.state m)) : ∃ p, n ≤ p ∧ Recreates k (R.state p) (R.event p) := by
  by_contra hnever
  push Not at hnever
  have hlost : ∀ p, n + 1 ≤ p → Unmarked (R.state p) ∧ ¬ Exists k (R.state p) := by
    refine R.always_from (I := fun s => Unmarked s ∧ ¬ Exists k s) ?_ fun p hp ih => ?_
    · rw [R.next]
      exact ⟨hunmarked.step hstamps _, hdeletes.absent⟩
    · rw [R.next]
      exact ⟨ih.1.step hstamps _, ih.1.absent ih.2 (hnever p (Nat.le_of_succ_le hp))⟩
  exact (hlost m hm).2 hexists

end VGpuManager.Reschedule

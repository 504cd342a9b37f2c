import VGpuManager.DevicePlugin.Allocate
import VGpuManager.Foundation.Liveness
import VGpuManager.Scheduler.Preempt

/-!
# Recovering bare pods (`reschedule.go`, `recovery.go`, `checkpoint.go`)

A pod that no controller owns is rescheduled in two parts. `Reconcile` notes the pod in a checkpoint
file, deletes it, and hands it to a queue; a worker takes pods from the queue and creates them anew
once the old one is gone. The two run side by side, other clients act on the same pods, and the
process may crash between any two of its actions, which leaves it the file only.

The actions of `Reconcile` and of the worker are single steps here, each with the answer it gets.
-/

namespace VGpuManager.Reschedule

open Foundation List

/-! ## Pods and stores -/

/-- `DeletionTimestamp`, in nanoseconds, and `DeletionGracePeriodSeconds`. -/
structure Deletion where
  timestamp : Int
  graceSeconds : Option Int
  deriving DecidableEq, Repr

/-- When the pod should be gone. -/
def Deletion.deleteTime (d : Deletion) : Int := d.timestamp + d.graceSeconds.getD 0 * 1000000000

/-- A pod with the mark that its deletion leaves. -/
structure ApiPod extends Pod where
  deletion : Option Deletion
  marked : deleting = deletion.isSome
  deriving DecidableEq

/-- Namespace and name. -/
abbrev PodKey := Text × Text

def ApiPod.key (p : ApiPod) : PodKey := (p.namespaceName, p.name)

/-- The pod, marked for deletion. -/
def ApiPod.mark (p : ApiPod) (d : Deletion) : ApiPod :=
  { p with deleting := true, deletion := some d, marked := rfl }

@[simp] theorem ApiPod.mark_key (p : ApiPod) (d : Deletion) : (p.mark d).key = p.key := rfl

/-- Pods by their keys. -/
structure PodStore where
  pods : List ApiPod
  nodup : (pods.map ApiPod.key).Nodup

namespace PodStore

def empty : PodStore := ⟨[], List.nodup_nil⟩

variable (t : PodStore)

def get (k : PodKey) : Option ApiPod := t.pods.find? fun p => p.key = k

def remove (k : PodKey) : PodStore where
  pods := t.pods.filter fun p => p.key ≠ k
  nodup := t.nodup.sublist (List.filter_sublist.map _)

def put (p : ApiPod) : PodStore where
  pods := p :: (t.remove p.key).pods
  nodup := by
    refine List.nodup_cons.mpr ⟨fun hmem => ?_, (t.remove p.key).nodup⟩
    obtain ⟨q, hq, hkey⟩ := List.mem_map.mp hmem
    simpa [hkey] using (List.mem_filter.mp hq).2

theorem get_key {t : PodStore} {k : PodKey} {p : ApiPod} (h : t.get k = some p) : p.key = k := by
  simpa using find?_some h

theorem mem_of_get {t : PodStore} {k : PodKey} {p : ApiPod} (h : t.get k = some p) : p ∈ t.pods :=
  mem_of_find?_eq_some h

@[simp] theorem get_empty (k : PodKey) : empty.get k = none := rfl

theorem get_remove (k k' : PodKey) : (t.remove k).get k' = if k' = k then none else t.get k' := by
  unfold get remove
  rw [find?_filter]
  split
  · rename_i hk
    rw [find?_eq_none]
    intro p _
    simp [hk]
  · rename_i hk
    congr 1
    funext p
    by_cases hp : p.key = k'
    · simp [hp, hk]
    · simp [hp]

theorem get_put (p : ApiPod) (k : PodKey) : (t.put p).get k = if k = p.key then some p else t.get k := by
  have hcons : (t.put p).get k = if p.key = k then some p else (t.remove p.key).get k := by
    unfold get put
    rw [find?_cons]
    by_cases hk : p.key = k <;> simp [hk]
  rw [hcons, get_remove]
  by_cases hk : k = p.key
  · simp [hk]
  · simp [hk, Ne.symm hk]

end PodStore

/-! ## The controller -/

/-- Where `Reconcile` is: it has read the pod; noted it; deleted it; noted it again; or failed to
delete it. -/
inductive ReconcilePhase where
  | idle
  | fetched (copy : ApiPod)
  | stored (copy : ApiPod)
  | deleted (copy : ApiPod)
  | noted (copy : ApiPod)
  | failed (copy : ApiPod)
  deriving DecidableEq

/-- Where the worker is: it has taken the pod from the queue; found that the old one is gone; or is
done with it. -/
inductive WorkerPhase where
  | idle
  | taken (copy : ApiPod)
  | missing (copy : ApiPod)
  | finished (copy : ApiPod)
  deriving DecidableEq

/-- A pod in the queue, and when it may be taken. -/
structure Item where
  copy : ApiPod
  readyAt : Int
  deriving DecidableEq

/-- The API server's pods, the checkpoint file, and the process with its queue. -/
structure World where
  api : PodStore
  checkpoint : PodStore
  queue : List Item
  reconciler : ReconcilePhase
  worker : WorkerPhase
  up : Bool
  now : Int

/-- What a call comes to: it succeeds, it fails, or it does its work and still reports an error. -/
inductive Outcome where
  | done | failed | late
  deriving DecidableEq, Repr

/-- The answer to a call. `deletion`: the mark that a deletion sets, or `gone` if the pod is gone at
once; `uid`: that of a new pod; `delay`: how long the rate limiter holds a failed item back. -/
structure Answer where
  outcome : Outcome
  deletion : Deletion
  gone : Bool
  uid : Text
  delay : Nat
  deriving Repr

/-- What the controller is set up with. `stamps`: whether a deletion also marks the copy that the
caller holds; the client library leaves it alone. -/
structure ControllerConfig where
  nodeName : Text
  stamps : Bool

/-- A bare vGPU pod of this node that `Reconcile` deletes. -/
def isRecoverable (cfg : ControllerConfig) (p : ApiPod) : Bool :=
  !p.deleting && isVGPUResourcePod p.toPod && p.nodeName == cfg.nodeName &&
    (p.phase == .failed || p.phase == .pending) && isShouldDeletePod p.toPod &&
    !p.critical && p.ownerReferences.isEmpty

/-- `CleanupMetadata` and what else is reset in the pod that is created anew. -/
def recovered (p : ApiPod) (uid : Text) : ApiPod where
  toPod := { p.toPod with
    uid := uid
    labels := { p.labels with assignedPhase := none }
    annotations := { p.annotations with
      preAllocated := none, realAllocated := none, predicateNode := none, predicateTime := none }
    deleting := false
    nodeName := []
    phase := .pending
    podScheduled := none
    statusReason := []
    containerStatuses := [] }
  deletion := none
  marked := rfl

@[simp] theorem recovered_key (p : ApiPod) (uid : Text) : (recovered p uid).key = p.key := rfl

def day : Int := 24 * 60 * 60 * 1000000000

/-- `maxRequeueAfter`. -/
def maxRequeueAfter : Int := 5 * 1000000000

/-- `AddPodToRecoveryQueue` waits 20 ms. -/
def queueDelay : Int := 20000000

namespace World

variable (s : World)

/-- The pods of the API server after a deletion of `q`. A pod that is marked already keeps its mark. -/
def deleteApi (q : ApiPod) (a : Answer) : PodStore :=
  if a.gone then s.api.remove q.key
  else if q.deletion.isSome then s.api
  else s.api.put (q.mark a.deletion)

/-- `Reconcile` begins with `Get`. -/
def reconcile (cfg : ControllerConfig) (s : World) (k : PodKey) (a : Answer) : World :=
  match a.outcome, s.api.get k with
  | .done, some p => if isRecoverable cfg p then { s with reconciler := .fetched p } else s
  | _, _ => s

/-- The next action of `Reconcile`. -/
def proceed (cfg : ControllerConfig) (s : World) (a : Answer) : World :=
  match s.reconciler with
  | .idle => s
  | .fetched p =>
    match a.outcome with
    | .done => { s with checkpoint := s.checkpoint.put p, reconciler := .stored p }
    | .late => { s with checkpoint := s.checkpoint.put p, reconciler := .idle }
    | .failed => { s with reconciler := .idle }
  | .stored p =>
    -- the precondition on the UID fails if the pod is another one
    match a.outcome, (s.api.get p.key).filter fun q => q.uid == p.uid with
    | .done, some q =>
      { s with
        api := s.deleteApi q a
        reconciler := .deleted (if cfg.stamps then p.mark (q.deletion.getD a.deletion) else p) }
    | .late, some q => { s with api := s.deleteApi q a, reconciler := .failed p }
    | _, _ => { s with reconciler := .failed p }
  | .deleted p =>
    -- the error is dropped
    match a.outcome with
    | .failed => { s with reconciler := .noted p }
    | _ => { s with checkpoint := s.checkpoint.put p, reconciler := .noted p }
  | .noted p => { s with queue := s.queue ++ [⟨p, s.now + queueDelay⟩], reconciler := .idle }
  | .failed p =>
    match a.outcome with
    | .failed => { s with reconciler := .idle }
    | _ => { s with checkpoint := s.checkpoint.remove p.key, reconciler := .idle }

variable (copy : ApiPod)

/-- The item goes back to the queue. -/
def requeue (after : Int) : World :=
  { s with queue := s.queue ++ [⟨copy, s.now + after⟩], worker := .idle }

variable (a : Answer)

/-- `recoveryWorker` up to the answer of `Get`. -/
def inspect : World :=
  match copy.deletion with
  | none => { s with worker := .finished copy }
  | some d =>
    if day < s.now - d.timestamp then { s with worker := .finished copy }
    else
      match a.outcome, s.api.get copy.key with
      | .done, none => { s with worker := .missing copy }
      | .done, some q =>
        match q.deletion with
        | none => { s with worker := .finished copy }
        | some e =>
          -- `RequeueAfter: 0` is no requeue
          if s.now < e.deleteTime then
            s.requeue copy (min maxRequeueAfter (e.deleteTime - s.now))
          else { s with worker := .finished copy }
      | _, _ => s.requeue copy a.delay

/-- `recoveryWorker`: the pod is created, unless it exists. -/
def create : World :=
  match a.outcome, s.api.get copy.key with
  | .done, some _ => { s with worker := .finished copy }
  | .done, none => { s with api := s.api.put (recovered copy a.uid), worker := .finished copy }
  | .late, none => { s with api := s.api.put (recovered copy a.uid) }.requeue copy a.delay
  | _, _ => s.requeue copy a.delay

/-- `processNextItem`, once the worker is done: the pod leaves the checkpoint. -/
def forget : World :=
  match a.outcome with
  | .done => { s with checkpoint := s.checkpoint.remove copy.key, worker := .idle }
  | .late => { s with checkpoint := s.checkpoint.remove copy.key }.requeue copy a.delay
  | .failed => s.requeue copy a.delay

/-- The next action of the worker. -/
def work : World :=
  match s.worker with
  | .idle => s
  | .taken copy => s.inspect copy a
  | .missing copy => s.create copy a
  | .finished copy => s.forget copy a

/-- The worker is free and the item's time has come. -/
def CanTake (i : Item) : Prop :=
  s.up = true ∧ s.worker = .idle ∧ i ∈ s.queue ∧ i.readyAt ≤ s.now
  deriving Decidable

def take (i : Item) : World :=
  if s.CanTake i then { s with queue := s.queue.erase i, worker := .taken i.copy } else s

end World

/-! ## Executions -/

/-- What happens: the actions of the controller, crashes and starts (`listed`: the checkpoint could
be read), and what others do to pods: create one, change it, mark it for deletion, remove it. -/
inductive Event where
  | reconcile (k : PodKey) (a : Answer)
  | proceed (a : Answer)
  | take (i : Item)
  | work (a : Answer)
  | crash
  | start (listed : Bool)
  | tick (elapsed : Nat)
  | create (p : ApiPod)
  | update (p : ApiPod)
  | mark (k : PodKey) (d : Deletion)
  | remove (k : PodKey)

def World.step (cfg : ControllerConfig) (s : World) : Event → World
  | .reconcile k a => if s.up ∧ s.reconciler = .idle then s.reconcile cfg k a else s
  | .proceed a => if s.up then s.proceed cfg a else s
  | .take i => s.take i
  | .work a => if s.up then s.work a else s
  | .crash => { s with queue := [], reconciler := .idle, worker := .idle, up := false }
  | .start listed =>
    if s.up then s
    else
      { s with
        queue := if listed then s.checkpoint.pods.map fun p => ⟨p, s.now⟩ else []
        up := true }
  | .tick elapsed => { s with now := s.now + elapsed }
  | .create p => if p.deletion = none ∧ s.api.get p.key = none then { s with api := s.api.put p } else s
  | .update p =>
    -- the mark stays
    if (s.api.get p.key).map ApiPod.deletion = some p.deletion then { s with api := s.api.put p } else s
  | .mark k d =>
    match s.api.get k with
    | some q => if q.deletion = none then { s with api := s.api.put (q.mark d) } else s
    | none => s
  | .remove k => { s with api := s.api.remove k }

end VGpuManager.Reschedule

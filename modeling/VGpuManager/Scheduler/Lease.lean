import VGpuManager.Foundation.Runs
import VGpuManager.Foundation.Text

/-!
# Which replica leads (`cmd/device-scheduler/lease.go`)

A replica of the scheduler does not take part in the election itself. It watches the lease that another process
holds, and takes itself for the leader as long as the lease has not expired and the identity of its holder begins
with the prefix it was started with, the name of its pod.
-/

namespace VGpuManager

open Foundation

/-! ## 1. The detector -/

/-- What a detector reads of a `Lease`; times are in nanoseconds. -/
structure Lease where
  ns : Text
  name : Text
  holderIdentity : Option Text
  renewTime : Option Int
  leaseDurationSeconds : Option Int
  deriving DecidableEq

/-- The functions `main` passes to the detector; each patches the role label of the pod. -/
inductive RoleCallback where
  | start
  | leader
  | release
  deriving DecidableEq

structure LeaseDetector where
  ns : Text
  leaseName : Text
  identityPrefix : Text
  jitter : Int := 0
  current : Option Lease := none
  isLeader : Bool := false
  started : Bool := false
  /-- The callbacks so far. -/
  calls : List RoleCallback := []
  deriving DecidableEq

/-- The answers of `evaluate` with what their reasons tell. -/
inductive LeaseVerdict where
  | missing
  | holderMismatch (holder : Text)
  | incomplete
  | expired (renewTime deadline : Int)
  | leads (holder : Text) (deadline : Int)
  deriving DecidableEq

def LeaseVerdict.isLeader : LeaseVerdict → Bool
  | .leads _ _ => true
  | _ => false

/-- What the informer hands to a handler. -/
inductive WatchObject where
  | lease (l : Lease)
  /-- `DeletedFinalStateUnknown`, with what it holds if that is a lease. -/
  | tombstone (l : Option Lease)
  | other
  deriving DecidableEq

inductive WatchEvent where
  /-- The informer has its first list. -/
  | synced
  | update (now : Int) (obj : WatchObject)
  | delete (obj : WatchObject)
  deriving DecidableEq

namespace LeaseDetector

variable (ld : LeaseDetector)

def evaluate (now : Int) : Option Lease → LeaseVerdict
  | none => .missing
  | some lease =>
    let holder := lease.holderIdentity.getD []
    if ¬ ld.identityPrefix <+: holder then .holderMismatch holder
    else
      match lease.renewTime, lease.leaseDurationSeconds with
      | some renewTime, some seconds =>
        let deadline := renewTime + seconds * 1000000000 + ld.jitter
        if deadline < now then .expired renewTime deadline else .leads holder deadline
      | _, _ => .incomplete

/-- `IsLeader`, asked at the time `now`. -/
def reportsLeader (now : Int) : Bool := (ld.evaluate now ld.current).isLeader

def startCallbackOnce : LeaseDetector :=
  if ld.started then ld else { ld with started := true, calls := ld.calls ++ [.start] }

def convertTargetLease : WatchObject → Option Lease
  | .lease l | .tombstone (some l) => if l.ns ≠ ld.ns ∨ l.name ≠ ld.leaseName then none else some l
  | .tombstone none | .other => none

/-- The callback of a change of leadership. -/
def transition (wasLeader isLeader : Bool) : List RoleCallback :=
  if wasLeader && !isLeader then [.release] else if !wasLeader && isLeader then [.leader] else []

def onUpdate (now : Int) (obj : WatchObject) : LeaseDetector :=
  let ld := ld.startCallbackOnce
  match ld.convertTargetLease obj with
  | none => ld
  | some lease =>
    let newIsLeader := (ld.evaluate now (some lease)).isLeader
    { ld with
      current := some lease, isLeader := newIsLeader
      calls := ld.calls ++ transition ld.isLeader newIsLeader }

def onDelete (obj : WatchObject) : LeaseDetector :=
  match ld.convertTargetLease obj with
  | none => ld
  | some _ => { ld with current := none, isLeader := false, calls := ld.calls ++ transition ld.isLeader false }

def step : WatchEvent → LeaseDetector
  | .synced => ld.startCallbackOnce
  | .update now obj => ld.onUpdate now obj
  | .delete obj => ld.onDelete obj

end LeaseDetector

/-- What `main` reads for a replica that watches a lease. -/
structure WatchOptions where
  leaderElectResourceName : Text
  leaderElectResourceNamespace : Text
  leaderIdentityPrefix : Text
  podName : Text
  podNamespace : Text

/-- The detector `main` starts; `none` where it exits. -/
def newLeaseDetector (opt : WatchOptions) : Option LeaseDetector :=
  let leaseName := trimSpace opt.leaderElectResourceName
  let leaseNamespace := trimSpace opt.leaderElectResourceNamespace
  let identityPrefix := trimSpace opt.leaderIdentityPrefix
  if leaseName = [] ∨ leaseNamespace = [] ∨ opt.podName = [] ∨ opt.podNamespace = [] ∨ identityPrefix = [] then none
  else some { ns := leaseNamespace, leaseName, identityPrefix }

/-! ## 2. One leader -/

namespace LeaseDetector

/-- The two detectors were set up alike. -/
structure SameSetup (ld ld' : LeaseDetector) : Prop where
  ns : ld'.ns = ld.ns
  leaseName : ld'.leaseName = ld.leaseName
  identityPrefix : ld'.identityPrefix = ld.identityPrefix
  jitter : ld'.jitter = ld.jitter

variable (ld : LeaseDetector)

theorem startCallbackOnce_fixed : SameSetup ld ld.startCallbackOnce := by
  unfold startCallbackOnce
  split <;> exact ⟨rfl, rfl, rfl, rfl⟩

theorem step_fixed (e : WatchEvent) : SameSetup ld (ld.step e) := by
  cases e with
  | synced => exact ld.startCallbackOnce_fixed
  | update now obj =>
    obtain ⟨hns, hname, hprefix, hjitter⟩ := ld.startCallbackOnce_fixed
    simp only [step, onUpdate]
    split <;> exact ⟨hns, hname, hprefix, hjitter⟩
  | delete obj =>
    simp only [step, onDelete]
    split <;> exact ⟨rfl, rfl, rfl, rfl⟩

theorem run_fixed (es : List WatchEvent) : SameSetup ld (run step ld es) := by
  refine List.foldlRecOn es step ⟨rfl, rfl, rfl, rfl⟩ fun s h e _ => ?_
  obtain ⟨hns, hname, hprefix, hjitter⟩ := s.step_fixed e
  exact ⟨hns.trans h.ns, hname.trans h.leaseName, hprefix.trans h.identityPrefix, hjitter.trans h.jitter⟩

/-- The holder's identity begins with a leader's prefix. -/
theorem holder_of_reportsLeader {ld : LeaseDetector} {now : Int} (h : ld.reportsLeader now = true) :
    ∃ lease, ld.current = some lease ∧ ld.identityPrefix <+: lease.holderIdentity.getD [] := by
  unfold reportsLeader at h
  cases hcur : ld.current with
  | none =>
    rw [hcur] at h
    cases h
  | some lease =>
    refine ⟨lease, rfl, ?_⟩
    by_contra hnot
    rw [hcur, evaluate, if_pos hnot] at h
    cases h

/-- A lease of an hour, renewed at time 0. -/
def hourLease (ld : LeaseDetector) (holder : Text) : Lease := ⟨ld.ns, ld.leaseName, some holder, some 0, some 3600⟩

/-- A detector whose prefix the holder's identity begins with leads once it has seen the lease. -/
theorem leads_hourLease {ld lx : LeaseDetector} {holder : Text} (hjitter : ld.jitter = 0) (hns : lx.ns = ld.ns)
    (hname : lx.leaseName = ld.leaseName) (hholder : ld.identityPrefix <+: holder) :
    (ld.step (.update 0 (.lease (lx.hourLease holder)))).current = some (lx.hourLease holder) ∧
      (ld.step (.update 0 (.lease (lx.hourLease holder)))).reportsLeader 0 = true := by
  obtain ⟨hns', hname', hprefix, hj⟩ := ld.startCallbackOnce_fixed
  have hseen : ld.startCallbackOnce.convertTargetLease (.lease (lx.hourLease holder)) = some (lx.hourLease holder) :=
    if_neg (by simp [hourLease, hns', hname', hns, hname])
  simp only [step, onUpdate, hseen, reportsLeader, evaluate, hprefix, hj, hjitter, true_and]
  simp [hourLease, hholder, LeaseVerdict.isLeader]

/-- In no history and at no time at which both have the same content of the lease do both report that they lead. -/
def NeverBoth (ld ld' : LeaseDetector) : Prop :=
  ∀ (es es' : List WatchEvent) (now : Int), (run step ld es).current = (run step ld' es').current →
    ¬ ((run step ld es).reportsLeader now = true ∧ (run step ld' es').reportsLeader now = true)

end LeaseDetector

/-- **At most one replica leads** exactly if neither of the two prefixes begins with the other. -/
theorem one_leader_iff {opt opt' : WatchOptions} {ld ld' : LeaseDetector} (h : newLeaseDetector opt = some ld)
    (h' : newLeaseDetector opt' = some ld') (hns : ld'.ns = ld.ns) (hname : ld'.leaseName = ld.leaseName) :
    ld.NeverBoth ld' ↔ ¬ ld.identityPrefix <+: ld'.identityPrefix ∧ ¬ ld'.identityPrefix <+: ld.identityPrefix := by
  have hjitter : ∀ {o : WatchOptions} {d : LeaseDetector}, newLeaseDetector o = some d → d.jitter = 0 := by
    intro o d hd
    obtain ⟨-, hd⟩ := Option.ite_none_left_eq_some.mp hd
    rw [← Option.some.inj hd]
  constructor
  · -- a lease held under the longer of two such prefixes makes both lead
    intro hone
    have hboth : ∀ holder, ld.identityPrefix <+: holder → ¬ ld'.identityPrefix <+: holder := by
      intro holder hp hp'
      obtain ⟨hcur, hlead⟩ := LeaseDetector.leads_hourLease (hjitter h) rfl rfl hp
      obtain ⟨hcur', hlead'⟩ := LeaseDetector.leads_hourLease (hjitter h') hns.symm hname.symm hp'
      let e : WatchEvent := .update 0 (.lease (ld.hourLease holder))
      exact hone [e] [e] 0 (hcur.trans hcur'.symm) ⟨hlead, hlead'⟩
    exact ⟨fun hp => hboth _ hp List.prefix_rfl, hboth _ List.prefix_rfl⟩
  · intro hne es es' now hsame hlead
    obtain ⟨lease, hcur, hp⟩ := LeaseDetector.holder_of_reportsLeader hlead.1
    obtain ⟨lease', hcur', hp'⟩ := LeaseDetector.holder_of_reportsLeader hlead.2
    rw [← hsame, hcur, Option.some.injEq] at hcur'
    subst hcur'
    rw [(ld.run_fixed es).identityPrefix] at hp
    rw [(ld'.run_fixed es').identityPrefix] at hp'
    exact (List.prefix_or_prefix_of_prefix hp hp').elim hne.1 hne.2

/-- A replica of the scheduler in the pod `name`. -/
def replicaOptions (name : Text) : WatchOptions :=
  ⟨"vgpu-scheduler".toList, "kube-system".toList, name, name, "kube-system".toList⟩

def replica (name : Text) : LeaseDetector where
  ns := "kube-system".toList
  leaseName := "vgpu-scheduler".toList
  identityPrefix := name

theorem one_leader_pair : (∀ name ∈ ["scheduler-0".toList, "scheduler-1".toList],
    newLeaseDetector (replicaOptions name) = some (replica name)) ∧
      (replica "scheduler-0".toList).NeverBoth (replica "scheduler-1".toList) := by
  have h : ∀ name ∈ ["scheduler-0".toList, "scheduler-1".toList],
      newLeaseDetector (replicaOptions name) = some (replica name) := by decide +kernel
  have hlease : ∀ a b, (replica a).ns = (replica b).ns ∧ (replica a).leaseName = (replica b).leaseName :=
    fun _ _ => ⟨rfl, rfl⟩
  exact ⟨h, (one_leader_iff (h _ (.head _)) (h _ (.tail _ (.head _)))
    (hlease _ _).1 (hlease _ _).2).mpr (by decide +kernel)⟩

/-- **Two leaders.** The eleventh replica holds the lease, and the second one takes itself for the holder. -/
theorem two_leaders : ∃ lease, ∀ name ∈ ["scheduler-1".toList, "scheduler-10".toList],
    newLeaseDetector (replicaOptions name) = some (replica name) ∧
      ((replica name).step (.update 0 (.lease lease))).current = some lease ∧
      ((replica name).step (.update 0 (.lease lease))).reportsLeader 1000000000 = true :=
  ⟨(replica []).hourLease "scheduler-10_7f6e".toList, by decide +kernel⟩

end VGpuManager

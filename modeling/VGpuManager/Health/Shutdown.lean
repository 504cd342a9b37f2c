import Mathlib.Algebra.Ring.Nat
import Mathlib.Data.List.AList
import VGpuManager.Foundation.Channel
import VGpuManager.Foundation.Text

/-!
# Health checks and shutdown (`manager/health.go`, `manager/device.go`, `kubeletplugin/device_health.go`)

The device plugin's `DeviceManager` and the kubelet plugin's `nvmlDeviceHealthMonitor` each have a
goroutine that waits for NVML events and reports the devices concerned on a buffered channel, and
another one that takes the reports. Both leave on the same stop signal, and `Stop` waits for them.

The reporting goroutine looks at the signal only between two waits. `markUnhealthy` reports the devices
one by one and waits for room each time, and so does the monitor with an Xid.
-/

namespace VGpuManager.Health

open Foundation

/-! ## `DeviceManager` -/

/-- `fullGPUInstanceID`. -/
def fullGpuInstanceId : UInt32 := 0xFFFFFFFF

structure MigPart where
  parentUuid : Text
  gi : UInt32
  ci : UInt32
  deriving DecidableEq, Repr

/-- An entry of `m.devices`, with its position. -/
structure Device where
  index : Nat
  gpuUuid : Option Text
  mig : Option MigPart
  deriving DecidableEq, Repr

/-- `devicePlacementMap`, by parent UUID, GPU instance and compute instance. -/
abbrev PlacementMap := AList fun _ : Text × UInt32 × UInt32 => Device

namespace PlacementMap

variable (p : PlacementMap)

/-- One round of the loop that fills the map. -/
def addDevice (d : Device) : PlacementMap :=
  match d.gpuUuid, d.mig with
  | some uuid, _ => p.insert (uuid, fullGpuInstanceId, fullGpuInstanceId) d
  | none, some mig => p.insert (mig.parentUuid, mig.gi, mig.ci) d
  | none, none => p

/-- `get`: the device at the placement, or else the whole GPU. -/
def get (parentUuid : Text) (gi ci : UInt32) : Option Device :=
  match p.lookup (parentUuid, gi, ci) with
  | some d => some d
  | none => p.lookup (parentUuid, fullGpuInstanceId, fullGpuInstanceId)

/-- `devices`: every device under a parent GPU. -/
def devices (parentUuid : Text) : List Device :=
  (p.entries.filter fun e => e.1.1 = parentUuid).map fun e => e.2

def parents : List Text := (p.keys.map Prod.fst).dedup

end PlacementMap

/-- `disabledXIDs`; `0` stands for all of them. -/
abbrev DisabledXids := AList fun _ : UInt64 => Bool

def DisabledXids.isAllDisabled (h : DisabledXids) : Bool := (h.lookup 0).getD false

def DisabledXids.isDisabled (h : DisabledXids) (xid : UInt64) : Bool :=
  if h.lookup 0 = some false then false
  else match h.lookup xid with
    | some disabled => disabled
    | none => h.isAllDisabled

/-- The manager: its devices, the capacity of its channel, the Xids it ignores, and whether it has an
NVML library. -/
structure Manager where
  devices : List Device
  capacity : Nat
  xids : DisabledXids
  nvml : Bool

def newDeviceManager (devices : List Device) (xids : DisabledXids) : Manager :=
  ⟨devices, devices.length, xids, true⟩

def Manager.placements (m : Manager) : PlacementMap := m.devices.foldl PlacementMap.addDevice ∅

/-- What comes of registering for the events of a GPU. -/
inductive Registration where
  | registered
  | tooOld
  | noHandle
  | noSupportedEvents
  | failed
  deriving DecidableEq, Repr

/-- What `eventSet.Wait` returns. The UUID of the event's device may not be readable;
`migInstance` is the profile and the start of the GPU instance of the event, if they can be read. -/
inductive Waited where
  | timeout
  | gpuLost
  | error
  | event (xidCritical : Bool) (data : UInt64) (uuid : Option Text) (gi ci : UInt32)
      (migInstance : Option (Int × Int))
  deriving DecidableEq, Repr

/-- What NVML answers when the goroutine asks next, and the orders in which Go goes through maps. -/
structure Answers where
  nvmlInit : Bool
  eventSetCreate : Bool
  registration : Registration
  waited : Waited
  parentOrder : List Text → List Text
  deviceOrder : List Device → List Device

/-- The elements in the given order, if it is one. -/
def inOrder {α : Type} [DecidableEq α] (order : List α → List α) (l : List α) : List α :=
  if (order l).Perm l then order l else l

/-- Where `checkHealth` is. `marking`: it is in `markUnhealthy` with these devices to go; `parents` are
those it has still to register then, if it has not got to its loop. -/
inductive Checker where
  | starting
  | registering (parents : List Text)
  | marking (devices : List Device) (parents : Option (List Text))
  | looking
  | waiting
  | ended
  deriving DecidableEq, Repr

namespace Manager

variable (m : Manager)

/-- What the loop does with what `Wait` has returned. -/
def received : Waited → Checker
  | .timeout => .looking
  | .gpuLost => .marking m.devices none
  | .error => .looking
  | .event xidCritical data uuid gi ci _ =>
    if !xidCritical then .looking
    else if m.xids.isDisabled data then .looking
    else match uuid with
      | none => .marking m.devices none
      | some uuid =>
        match m.placements.get uuid gi ci with
        | none => .looking
        | some d => .marking [d] none

/-- `checkHealth`, up to the next call, send or look at the signal. -/
def checkHealth : Checker → Bool → Answers → Checker
  | .starting, _, a =>
    if m.xids.isAllDisabled then .ended
    else if !a.nvmlInit then .ended
    else if !a.eventSetCreate then .ended
    else .registering (inOrder a.parentOrder m.placements.parents)
  | .registering [], _, _ => .looking
  | .registering (parent :: parents), _, a =>
    match a.registration with
    | .registered | .tooOld => .registering parents
    | .noHandle | .noSupportedEvents | .failed =>
      .marking (inOrder a.deviceOrder (m.placements.devices parent)) (some parents)
  | .marking (_ :: devices) parents, _, _ => .marking devices parents
  | .marking [] (some parents), _, _ => .registering parents
  | .marking [] none, _, _ => .looking
  | .looking, stopped, _ => if stopped then .ended else .waiting
  | .waiting, _, a => m.received a.waited
  | .ended, _, _ => .ended

def checkHealthAct : Checker → Act Device
  | .marking (d :: _) _ => .send d
  | .ended => .done
  | _ => .go

def checker : Producer Checker Answers Device := ⟨checkHealthAct, m.checkHealth⟩

/-- The goroutines of `Start`; reports of an earlier run may still be in the channel. -/
def started (pending : List Device) : Pipe Checker Device :=
  ⟨pending, false, if m.nvml then .starting else .ended, .waiting⟩

abbrev step : Pipe Checker Device → Turn Answers → Pipe Checker Device := Pipe.step m.checker m.capacity

end Manager

/-- `Stop` has closed the channel and both goroutines have ended. -/
def StopReturned (s : Pipe Checker Device) : Prop :=
  s.stopped = true ∧ s.producer = .ended ∧ s.consumer = .left
  deriving Decidable

/-- The devices `markUnhealthy` has still to send. -/
def Checker.due : Checker → Nat
  | .marking devices _ => devices.length
  | _ => 0

/-- What `checkHealth` does at most until it has seen the signal. -/
def Manager.rank (m : Manager) : Checker → Nat
  | .starting => (m.placements.parents.map fun p => (m.placements.devices p).length + 2).sum + 3
  | .registering parents => (parents.map fun p => (m.placements.devices p).length + 2).sum + 2
  | .marking devices none => devices.length + 2
  | .marking devices (some parents) =>
    devices.length + (parents.map fun p => (m.placements.devices p).length + 2).sum + 3
  | .looking => 1
  | .waiting => m.devices.length + 4
  | .ended => 0

theorem inOrder_perm {α : Type} [DecidableEq α] (order : List α → List α) (l : List α) : (inOrder order l).Perm l := by
  unfold inOrder
  split
  · next h => exact h
  · exact List.Perm.refl l

theorem Manager.rank_received (m : Manager) (waited : Waited) : m.rank (m.received waited) < m.devices.length + 4 := by
  unfold Manager.received
  repeat' split
  all_goals simp [Manager.rank]

theorem Manager.checker_bounded (m : Manager) : m.checker.Bounded Checker.due m.rank where
  sends_of_due p hp := by
    match p, hp with
    | .marking (d :: _) _, _ => exact ⟨d, rfl⟩
  due_next p x stopped a hact := by
    match p, hact with
    | .marking (d :: devices) parents, _ => rfl
  rank_next p a hne := by
    show m.rank (m.checkHealth p true a) < m.rank p
    match p with
    | .starting =>
      have hsum := ((inOrder_perm a.parentOrder m.placements.parents).map
        fun p => (m.placements.devices p).length + 2).sum_eq
      simp only [Manager.checkHealth]
      repeat' split
      all_goals simp only [Manager.rank]; omega
    | .registering [] => simp [Manager.checkHealth, Manager.rank]
    | .registering (parent :: parents) =>
      have hlen := (inOrder_perm a.deviceOrder (m.placements.devices parent)).length_eq
      simp only [Manager.checkHealth]
      split <;> simp only [Manager.rank, List.map_cons, List.sum_cons] <;> omega
    | .marking (d :: devices) none => simp [Manager.checkHealth, Manager.rank]
    | .marking (d :: devices) (some parents) =>
      simp only [Manager.checkHealth, Manager.rank, List.length_cons]
      omega
    | .marking [] (some parents) => simp [Manager.checkHealth, Manager.rank]
    | .marking [] none => simp [Manager.checkHealth, Manager.rank]
    | .looking => simp [Manager.checkHealth, Manager.rank]
    | .waiting => exact m.rank_received a.waited
    | .ended => exact absurd rfl hne

theorem checkHealthAct_eq_done {p : Checker} : Manager.checkHealthAct p = .done ↔ p = .ended := by
  match p with
  | .starting | .registering _ | .marking [] _ | .marking (_ :: _) _ | .looking | .waiting | .ended =>
    simp [Manager.checkHealthAct]

/-! ## `nvmlDeviceHealthMonitor` -/

/-- An `AllocatableDevice`, as far as events are resolved to it. -/
inductive Announced where
  | vgpu (uuid : Text)
  | gpu (uuid : Text)
  | migDynamic (parentPciBusId : Text) (profileId placementStart : Int)
  | migStatic (parentUuid : Text) (giId ciId : Int)
  | vfio
  deriving DecidableEq, Repr

def Announced.isMigDynamic : Announced → Bool
  | .migDynamic .. => true
  | _ => false

/-- A named device. -/
abbrev Advertised := Text × Announced

inductive HealthEventType where
  | xid
  | gpuLost
  | unmonitored
  deriving DecidableEq, Repr

/-- `DeviceHealthEvent`. -/
structure HealthEvent where
  devices : List Advertised
  eventType : HealthEventType
  eventData : UInt64
  deriving DecidableEq, Repr

/-- The monitor: `gpuInfosByUUID` (the PCI bus ID), the allocatable devices by PCI bus ID, the gate
`DynamicMIG`, and the capacity of the channel. -/
structure Monitor where
  gpus : AList fun _ : Text => Text
  allocatables : AList fun _ : Text => List Advertised
  dynamicMig : Bool
  capacity : Nat

namespace Monitor

variable (m : Monitor)

/-- `newNvmlDeviceHealthMonitor`: there is room for one event per device. -/
def new (gpus : AList fun _ : Text => Text) (allocatables : AList fun _ : Text => List Advertised)
    (dynamicMig : Bool) : Monitor :=
  ⟨gpus, allocatables, dynamicMig, (allocatables.entries.flatMap fun e => e.2).length⟩

/-- `GetAllDevices`. -/
def allDevices : List Advertised := m.allocatables.entries.flatMap fun e => e.2

/-- `resolveDevicesByEventAddress`; `none` is an error. -/
def resolveDevicesByEventAddress (parentUuid : Text) (gi ci : UInt32)
    (migInstance : Option (Int × Int)) : Option (List Advertised) := do
  let busId ← m.gpus.lookup parentUuid
  let devices ← m.allocatables.lookup busId
  if gi = fullGpuInstanceId ∧ ci = fullGpuInstanceId then
    match devices.find? fun d => d.2 = .gpu parentUuid ∨ d.2 = .vgpu parentUuid with
    | none => some []
    | some parent => some (devices.filter (fun d => d.2.isMigDynamic) ++ [parent])
  else if gi ≠ fullGpuInstanceId ∧ ci ≠ fullGpuInstanceId then
    if m.dynamicMig then
      let (profileId, placementStart) ← migInstance
      some (devices.find? fun d => d.2 = .migDynamic busId profileId placementStart).toList
    else
      some (devices.find? fun d => d.2 = .migStatic parentUuid gi.toNat ci.toNat).toList
  else some []

end Monitor

/-- Where `run` is. `offering`: in `sendBatchedHealthEvent`, which drops what finds no room. -/
inductive Runner where
  | looking
  | waiting
  | offering (event : HealthEvent)
  | sending (event : HealthEvent)
  | ended
  deriving DecidableEq, Repr

namespace Monitor

variable (m : Monitor)

/-- `sendHealthEventForAllDevices`: without devices nothing is sent. -/
def reportAll : Runner := if m.allDevices = [] then .looking else .offering ⟨m.allDevices, .gpuLost, 0⟩

def received : Waited → Runner
  | .timeout => .looking
  | .gpuLost => m.reportAll
  | .error => .looking
  | .event xidCritical data uuid gi ci migInstance =>
    if !xidCritical then .looking
    else match uuid with
      | none => m.reportAll
      | some uuid =>
        match m.resolveDevicesByEventAddress uuid gi ci migInstance with
        | none => .looking
        | some [] => .looking
        | some (d :: devices) => .sending ⟨d :: devices, .xid, data⟩

/-- `run`, up to the next call, send or look at the context. -/
def run : Runner → Bool → Waited → Runner
  | .looking, stopped, _ => if stopped then .ended else .waiting
  | .waiting, _, waited => m.received waited
  | .offering _, _, _ => .looking
  | .sending _, _, _ => .looking
  | .ended, _, _ => .ended

def runAct : Runner → Act HealthEvent
  | .offering event => .offer event
  | .sending event => .send event
  | .ended => .done
  | _ => .go

def runner : Producer Runner Waited HealthEvent := ⟨runAct, m.run⟩

/-- After `Start`; `RegisterEvents` may have put events into the channel. -/
def started (pending : List HealthEvent) : Pipe Runner HealthEvent := ⟨pending, false, .looking, .waiting⟩

abbrev step : Pipe Runner HealthEvent → Turn Waited → Pipe Runner HealthEvent :=
  Pipe.step m.runner m.capacity

end Monitor

/-- The context is cancelled and `run`, for which `Stop` waits, has ended. -/
def MonitorStopReturned (s : Pipe Runner HealthEvent) : Prop := s.stopped = true ∧ s.producer = .ended
  deriving Decidable

def Runner.due : Runner → Nat
  | .sending _ => 1
  | _ => 0

def Runner.rank : Runner → Nat
  | .looking => 1
  | .waiting => 3
  | .offering _ => 2
  | .sending _ => 2
  | .ended => 0

theorem Monitor.runner_bounded (m : Monitor) : m.runner.Bounded Runner.due Runner.rank where
  sends_of_due p hp := by
    match p, hp with
    | .sending event, _ => exact ⟨event, rfl⟩
  due_next p x stopped waited hact := by
    match p, hact with
    | .sending event, _ => rfl
  rank_next p waited hne := by
    show (m.run p true waited).rank < p.rank
    match p with
    | .looking => simp [Monitor.run, Runner.rank]
    | .waiting =>
      simp only [Monitor.run, Monitor.received, Monitor.reportAll]
      repeat' split
      all_goals simp [Runner.rank]
    | .offering _ => simp [Monitor.run, Runner.rank]
    | .sending _ => simp [Monitor.run, Runner.rank]
    | .ended => exact absurd rfl hne

theorem runAct_eq_done {p : Runner} : Monitor.runAct p = .done ↔ p = .ended := by
  cases p <;> simp [Monitor.runAct]

/-! ## Shutdown -/

/-- For every interleaving: `Stop` returns if and only if, after the goroutine that takes the reports
has left, there is room for those that are still sent. -/
theorem stop_returns_iff (m : Manager) (pending : List Device) (R : Execution m.step)
    (hpending : pending.length ≤ m.capacity) (hstart : R.state 0 = m.started pending) (hfair : Pipe.Fair R)
    (hstopped : ∃ n, (R.state n).stopped = true) (m' : Monitor) (pending' : List HealthEvent)
    (R' : Execution m'.step) (hpending' : pending'.length ≤ m'.capacity)
    (hstart' : R'.state 0 = Monitor.started pending') (hfair' : Pipe.Fair R')
    (hstopped' : ∃ n, (R'.state n).stopped = true) :
    ((∃ n, StopReturned (R.state n)) ↔ ∀ n, Pipe.Fits m.capacity Checker.due (R.state n)) ∧
      ((∃ n, MonitorStopReturned (R'.state n)) ↔ ∀ n, Pipe.Fits m'.capacity Runner.due (R'.state n)) := by
  refine ⟨⟨?_, fun hfits => ?_⟩, ?_, fun hfits => ?_⟩
  · intro ⟨n, _, hended, _⟩
    exact Pipe.fits_of_ends m.checker_bounded (by rw [hstart]; exact hpending) ⟨n, checkHealthAct_eq_done.mpr hended⟩
  · obtain ⟨n, hn, hdone, hleft⟩ := Pipe.ends_of_fits m.checker_bounded hfair hstopped hfits
    exact ⟨n, hn, checkHealthAct_eq_done.mp hdone, hleft⟩
  · intro ⟨n, _, hended⟩
    exact Pipe.fits_of_ends m'.runner_bounded (by rw [hstart']; exact hpending') ⟨n, runAct_eq_done.mpr hended⟩
  · obtain ⟨n, hn, hdone, -⟩ := Pipe.ends_of_fits m'.runner_bounded hfair' hstopped' hfits
    exact ⟨n, hn, runAct_eq_done.mp hdone⟩

/-! A node with one GPU, on which an Xid is followed by the loss of the GPU. -/

def gpuUuid : Text := "GPU-0".toList

def oneGpu : Manager := newDeviceManager [⟨0, some gpuUuid, none⟩] ∅

def xidEvent : Waited := .event true 79 (some gpuUuid) fullGpuInstanceId fullGpuInstanceId none

def answer (waited : Waited) : Turn Answers := .producer ⟨true, true, .registered, waited, id, id⟩

/-- `checkHealth` registers the GPU and reports an Xid on it. -/
def xidReported : List (Turn Answers) :=
  [answer .timeout, answer .timeout, answer .timeout, answer .timeout, answer xidEvent, answer .timeout,
    answer .timeout, answer .timeout]

def oneGpuMonitor : Monitor :=
  .new (.singleton gpuUuid "0000:01:00.0".toList)
    (.singleton "0000:01:00.0".toList [("gpu-0".toList, .gpu gpuUuid)]) false

def orderlyManagerRun : Execution oneGpu.step :=
  .ofEvents oneGpu.step (oneGpu.started [])
    (Pipe.schedule (xidReported ++ [.consumer false, .stop]) ⟨true, true, .registered, .timeout, id, id⟩)

def orderlyMonitorRun : Execution oneGpuMonitor.step :=
  .ofEvents oneGpuMonitor.step (Monitor.started [])
    (Pipe.schedule [.producer .timeout, .producer xidEvent, .producer .timeout, .stop] .timeout)

theorem orderly_runs_return : ((∃ n, StopReturned (orderlyManagerRun.state n)) ∧
      ∀ n, Pipe.Fits oneGpu.capacity Checker.due (orderlyManagerRun.state n)) ∧
    ((∃ n, MonitorStopReturned (orderlyMonitorRun.state n)) ∧
      ∀ n, Pipe.Fits oneGpuMonitor.capacity Runner.due (orderlyMonitorRun.state n)) := by
  have hmanager : ∃ n, StopReturned (orderlyManagerRun.state n) := ⟨20, by decide +kernel⟩
  have hmonitor : ∃ n, MonitorStopReturned (orderlyMonitorRun.state n) := ⟨20, by decide +kernel⟩
  have hiff := stop_returns_iff oneGpu [] orderlyManagerRun (by decide) rfl (Pipe.schedule_fair _ _ _)
    ⟨20, by decide +kernel⟩ oneGpuMonitor [] orderlyMonitorRun (by decide) rfl (Pipe.schedule_fair _ _ _)
    ⟨20, by decide +kernel⟩
  exact ⟨⟨hmanager, hiff.1.mp hmanager⟩, hmonitor, hiff.2.mp hmonitor⟩

def blockedManagerRun : Execution oneGpu.step :=
  .ofEvents oneGpu.step (oneGpu.started []) (Pipe.schedule (xidReported ++ [answer .gpuLost, .stop, .consumer true])
      ⟨true, true, .registered, .timeout, id, id⟩)

def blockedMonitorRun : Execution oneGpuMonitor.step :=
  .ofEvents oneGpuMonitor.step (Monitor.started [])
    (Pipe.schedule [.producer .timeout, .producer xidEvent, .producer .timeout, .producer .timeout,
      .producer xidEvent, .stop, .consumer true] .timeout)

/-- The Xid is still in the channel when the GPU is lost, or another Xid comes; the signal is given, and
who takes the reports leaves. There is no room, so that the report is waited for for ever. -/
theorem stop_blocks : (Pipe.Fair blockedManagerRun ∧ (∃ n, (blockedManagerRun.state n).stopped = true) ∧
      ∀ n, ¬ StopReturned (blockedManagerRun.state n)) ∧
    (Pipe.Fair blockedMonitorRun ∧ (∃ n, (blockedMonitorRun.state n).stopped = true) ∧
      ∀ n, ¬ MonitorStopReturned (blockedMonitorRun.state n)) := by
  have hmanager : Pipe.Overfull oneGpu.capacity Checker.due (blockedManagerRun.state 11) := by
    refine ⟨?_, ?_, ?_⟩ <;> decide +kernel
  have hmonitor : Pipe.Overfull oneGpuMonitor.capacity Runner.due (blockedMonitorRun.state 7) := by
    refine ⟨?_, ?_, ?_⟩ <;> decide +kernel
  refine ⟨⟨Pipe.schedule_fair _ _ _, ⟨11, by decide +kernel⟩, fun n hn => ?_⟩,
    ⟨Pipe.schedule_fair _ _ _, ⟨7, by decide +kernel⟩, fun n hn => ?_⟩⟩
  · exact Pipe.never_ends oneGpu.checker_bounded hmanager n (checkHealthAct_eq_done.mpr hn.2.1)
  · exact Pipe.never_ends oneGpuMonitor.runner_bounded hmonitor n (runAct_eq_done.mpr hn.2)

end VGpuManager.Health

import VGpuManager.Foundation.Runs
import VGpuManager.Foundation.Text

/-!
# The prepared claims of the remote inject driver (`remote/nri.go`, `inject_driver.go`)

The driver remembers which claims are prepared on its node: the NRI hook injects only into
containers of such claims, and the kubelet does not prepare a claim again that it holds prepared.
The set is in memory and, by identity only, in a checkpoint file. After a restart the file is read, each
claim is fetched and its devices are resolved anew, and what was restored is saved. Calls of the kubelet
are served before that.
-/

namespace VGpuManager.Remote

open Foundation Function

/-! ## Published devices -/

/-- The version library: the version that a text stands for, and `Compare(…) < 0`. -/
structure Semver where
  parse : Text → Option Text
  less : Text → Text → Bool

/-- A device of a ResourceSlice with the attributes that are read; an absent one is empty. -/
structure PublishedDevice where
  name : Text
  accessMode : Text
  uuid : Text
  serverEndpoint : Text
  agentEndpoint : Text
  cudaDriverVersion : Text
  serverCudaVersion : Text

structure DeviceInfo where
  uuid : Text
  endpoint : Text
  agentEndpoint : Text
  cudaVersion : Text
  serverCudaVersion : Option Text
  deriving DecidableEq, Repr

inductive DeviceError where
  | noAgentEndpoint (device : Text)
  | noUuid (device : Text)
  | badCudaDriverVersion (device value : Text)
  | noCudaDriverVersion (device : Text)
  | badServerCudaVersion (device value : Text)
  deriving DecidableEq, Repr

variable (semver : Semver)

/-- `EffectiveCUDACeiling` of two known versions. -/
def effectiveCudaCeiling (driver server : Text) : Text :=
  if semver.less server driver then server else driver

/-- `ParseDevice`; `none` is a device that is not remote. -/
def parseDevice (dev : PublishedDevice) : Except DeviceError (Option DeviceInfo) :=
  if dev.accessMode ≠ "remote".toList then .ok none
  else if dev.agentEndpoint = [] then .error (.noAgentEndpoint dev.name)
  else if dev.uuid = [] then .error (.noUuid dev.name)
  else if dev.cudaDriverVersion = [] then .error (.noCudaDriverVersion dev.name)
  else
    match semver.parse dev.cudaDriverVersion with
    | none => .error (.badCudaDriverVersion dev.name dev.cudaDriverVersion)
    | some driver =>
      if dev.serverCudaVersion = [] then
        .ok (some ⟨dev.uuid, dev.serverEndpoint, dev.agentEndpoint, driver, none⟩)
      else
        match semver.parse dev.serverCudaVersion with
        | none => .error (.badServerCudaVersion dev.name dev.serverCudaVersion)
        | some server =>
          .ok (some ⟨dev.uuid, dev.serverEndpoint, dev.agentEndpoint,
            effectiveCudaCeiling semver driver server, some server⟩)

/-! ## Claims -/

/-- A request of the claim: `exactly` one kind of device, or the first available of some. -/
structure DeviceRequest where
  name : Text
  exactly : Bool
  firstAvailable : List Text
  deriving DecidableEq, Repr

structure AllocationResult where
  request : Text
  driver : Text
  pool : Text
  device : Text
  deriving DecidableEq, Repr

structure Claim where
  «namespace» : Text
  name : Text
  uid : Text
  requests : List DeviceRequest
  allocation : Option (List AllocationResult)
  deriving DecidableEq, Repr

structure ResultDevice where
  index : Nat
  result : AllocationResult
  info : DeviceInfo
  mainRequest : Text
  deriving DecidableEq, Repr

def draDriverName : Text := "manager.nvidia.com".toList

/-- The first request the name belongs to, by itself or as `request/subrequest`. -/
def findRequest (requests : List DeviceRequest) (requestName : Text) : Option DeviceRequest :=
  requests.find? fun req => req.exactly && req.name == requestName ||
    req.firstAvailable.any fun sub => req.name ++ '/' :: sub == requestName

/-- `MainRequestName`, empty if there is none. -/
def mainRequestName (claim : Claim) (requestName : Text) : Text :=
  match findRequest claim.requests requestName with
  | some req => req.name
  | none => []

inductive ResolveError where
  | poolNotFound (pool : Text)
  | deviceNotFound (pool device : Text)
  | device (e : DeviceError)
  | notRemote (pool device : Text)
  | unknownRequest (request : Text)
  deriving DecidableEq, Repr

/-- `slicesDeviceMap`: the last device of that name in the slices. -/
def slicesDevice (slices : List (List PublishedDevice)) (name : Text) : Option PublishedDevice :=
  slices.flatten.reverse.find? fun dev => dev.name == name

/-- One turn of the loop in `resolveRemoteDevices`; the result of another driver is passed over. -/
def resolveResult (pools : Text → List (List PublishedDevice))
    (claim : Claim) (i : Nat) (result : AllocationResult) : Except ResolveError (Option ResultDevice) :=
  if result.driver ≠ draDriverName then .ok none
  else if pools result.pool = [] then .error (.poolNotFound result.pool)
  else
    match slicesDevice (pools result.pool) result.device with
    | none => .error (.deviceNotFound result.pool result.device)
    | some dev =>
      match parseDevice semver dev with
      | .error e => .error (.device e)
      | .ok none => .error (.notRemote result.pool result.device)
      | .ok (some info) =>
        if mainRequestName claim result.request = [] then .error (.unknownRequest result.request)
        else .ok (some ⟨i, result, info, mainRequestName claim result.request⟩)

/-- `resolveRemoteDevices` on the results from index `i` on. -/
def resolveRemoteDevices (semver : Semver) (pools : Text → List (List PublishedDevice)) (claim : Claim) :
    Nat → List AllocationResult → Except ResolveError (List ResultDevice)
  | _, [] => .ok []
  | i, result :: results =>
    match resolveResult semver pools claim i result with
    | .error e => .error e
    | .ok found =>
      match resolveRemoteDevices semver pools claim (i + 1) results with
      | .error e => .error e
      | .ok rest => .ok (found.toList ++ rest)

/-! ## The driver -/

/-- What `NodePrepare` records of a claim. -/
structure PreparedClaim where
  claim : Claim
  devices : List ResultDevice

structure PreparedRef where
  «namespace» : Text
  name : Text
  deriving DecidableEq, Repr

def PreparedClaim.ref (pc : PreparedClaim) : PreparedRef := ⟨pc.claim.namespace, pc.claim.name⟩

/-- The claims of the API server by namespace and name, and the slices of the pools. -/
structure Api where
  claims : Text → Text → Option Claim
  pools : Text → List (List PublishedDevice)
  claims_at : ∀ ns name c, claims ns name = some c → c.namespace = ns ∧ c.name = name

/-- The prepared claims by UID, the checkpoint file, and whether the process has restored the claims. -/
structure InjectDriver where
  prepared : Text → Option PreparedClaim
  checkpoint : Option (Text → Option PreparedRef)
  restored : Bool

variable (d : InjectDriver)

/-- `savePreparedLocked`; a write that fails leaves the file as it is. -/
def InjectDriver.savePrepared (written : Bool) : InjectDriver :=
  if written then { d with checkpoint := some fun uid => (d.prepared uid).map PreparedClaim.ref } else d

def InjectDriver.recordPrepared (claim : Claim) (devices : List ResultDevice) (written : Bool) : InjectDriver :=
  InjectDriver.savePrepared
    { d with prepared := Function.update d.prepared claim.uid (some ⟨claim, devices⟩) } written

/-- `updatePreparedClaim`. -/
def InjectDriver.updatePreparedClaim (claim : Claim) : InjectDriver :=
  { d with
    prepared := Function.update d.prepared claim.uid
      ((d.prepared claim.uid).map fun pc => { pc with claim := claim }) }

def InjectDriver.forgetPrepared (uid : Text) (written : Bool) : InjectDriver :=
  InjectDriver.savePrepared { d with prepared := Function.update d.prepared uid none } written

variable (api : Api)

/-- The devices of an allocated claim, if there are some of this driver and all of them are found. -/
def resolveClaim (claim : Claim) : Option (List ResultDevice) :=
  match claim.allocation with
  | none => none
  | some results =>
    match resolveRemoteDevices semver api.pools claim 0 results with
    | .error _ | .ok [] => none
    | .ok devices => some devices

/-- What a restart restores of a claim in the file. `answers`: the claims whose `Get` succeeds or
finds nothing, the others fail. -/
def restoreClaim (answers : Text → Text → Bool) (uid : Text) (ref : PreparedRef) : Option PreparedClaim :=
  if answers ref.namespace ref.name then
    ((api.claims ref.namespace ref.name).filter fun claim => claim.uid == uid).bind fun claim =>
      (resolveClaim semver api claim).map fun devices => ⟨claim, devices⟩
  else none

/-- `restorePrepared`, over what was recorded since the start; each claim is restored by itself. -/
def InjectDriver.restorePrepared (readable : Bool) (answers : Text → Text → Bool) (written : Bool) : InjectDriver :=
  match readable, d.checkpoint with
  | true, some refs =>
    InjectDriver.savePrepared { d with
      prepared := fun uid => ((refs uid).bind (restoreClaim semver api answers uid)).or (d.prepared uid)
      restored := true } written
  | _, _ => { d with restored := true }

/-- `prepareClaim` up to the recording; what follows it does not touch the set. -/
def InjectDriver.prepareClaim (claim : Claim) (written : Bool) : InjectDriver :=
  match resolveClaim semver api claim with
  | none => d
  | some devices => d.recordPrepared claim devices written

/-! ## Runs -/

structure World where
  api : Api
  driver : InjectDriver

/-- `prepare`: `NodePrepare` of the claim as it was read. `unprepare`: `NodeUnprepare`, `released`
if nothing failed before the claim is forgotten. `refresh`: the NRI hook has fetched the claim again.
`start`: the process starts again and serves calls; `restore`: it comes to `restorePrepared`. The last three
are changes at the API server. -/
inductive Event where
  | prepare (claim : Claim) (written : Bool)
  | unprepare (uid : Text) (released written : Bool)
  | refresh (uid : Text)
  | start
  | restore (readable : Bool) (answers : Text → Text → Bool) (written : Bool)
  | putClaim (claim : Claim)
  | deleteClaim (ns name : Text)
  | publish (pool : Text) (slices : List (List PublishedDevice))

def Api.put (claim : Claim) : Api where
  claims ns name := if ns = claim.namespace ∧ name = claim.name then some claim else api.claims ns name
  pools := api.pools
  claims_at ns name c h := by
    split at h
    · next hk => exact Option.some.inj h ▸ ⟨hk.1.symm, hk.2.symm⟩
    · exact api.claims_at ns name c h

def Api.delete (ns name : Text) : Api where
  claims ns' name' := if ns' = ns ∧ name' = name then none else api.claims ns' name'
  pools := api.pools
  claims_at ns' name' c h := by
    split at h
    · cases h
    · exact api.claims_at ns' name' c h

/-- The claim as the API server has it now, if it is the same object. -/
def World.current (w : World) (uid : Text) : Option Claim :=
  (w.driver.prepared uid).bind fun pc =>
    (w.api.claims pc.claim.namespace pc.claim.name).filter fun c => c.uid == uid

def World.step (w : World) : Event → World
  | .prepare claim written =>
    { w with driver := w.driver.prepareClaim semver w.api claim written }
  | .unprepare uid released written =>
    { w with driver := if released then w.driver.forgetPrepared uid written else w.driver }
  | .refresh uid =>
    { w with driver :=
        match w.current uid with
        | some claim => w.driver.updatePreparedClaim claim
        | none => w.driver }
  | .start => { w with driver := { w.driver with prepared := fun _ => none, restored := false } }
  | .restore readable answers written =>
    { w with driver :=
        if w.driver.restored then w.driver else w.driver.restorePrepared semver w.api readable answers written }
  | .putClaim claim => { w with api := w.api.put claim }
  | .deleteClaim ns name => { w with api := w.api.delete ns name }
  | .publish pool slices => { w with api := { w.api with pools := Function.update w.api.pools pool slices } }

/-- The checkpoint file is read and written without failure. -/
def Event.FilesWork : Event → Prop
  | .prepare _ written | .unprepare _ _ written => written = true
  | .restore readable _ written => readable = true ∧ written = true
  | _ => True

/-- The call comes to saving the set. -/
def Event.Saves (w : World) : Event → Prop
  | .prepare claim _ => (resolveClaim semver w.api claim).isSome
  | .unprepare _ released _ => released = true
  | _ => False

/-- The event neither records the claim nor forgets it. -/
def Spares (uid : Text) (w : World) : Event → Prop
  | .prepare claim _ => (resolveClaim semver w.api claim).isSome → claim.uid ≠ uid
  | .unprepare uid' released _ => released = true → uid' ≠ uid
  | _ => True

/-- While the claim is not in the set, from a start to the restore, nothing is saved; and the restore finds
it: it is fetched, is the same object, is allocated, and its devices are resolved. -/
def Restores (uid : Text) (ref : PreparedRef) (w : World) (e : Event) : Prop :=
  w.driver.prepared uid = none → ¬ e.Saves semver w ∧
    ∀ readable answers written, e = .restore readable answers written →
      (restoreClaim semver w.api answers uid ref).isSome

/-! ## The set and the file -/

section Set

variable {semver} {uid : Text} {ref : PreparedRef} {w : World} {e : Event}

/-- The file has the claim under its namespace and name, and so has the set, unless it is still to be
restored. -/
def Recorded (uid : Text) (ref : PreparedRef) (d : InjectDriver) : Prop :=
  (∃ refs, d.checkpoint = some refs ∧ refs uid = some ref) ∧
    ((d.prepared uid).map PreparedClaim.ref = some ref ∨ d.prepared uid = none ∧ d.restored = false)

/-- The claim is neither in the set nor in the file. -/
def Lost (uid : Text) (d : InjectDriver) : Prop :=
  d.prepared uid = none ∧ ∀ refs, d.checkpoint = some refs → refs uid = none

/-- The two have the claim under the same identity. -/
structure SameFor (uid : Text) (d d' : InjectDriver) : Prop where
  set : (d'.prepared uid).map PreparedClaim.ref = (d.prepared uid).map PreparedClaim.ref
  file : d'.checkpoint = d.checkpoint
  restored : d'.restored = d.restored

variable {d}

theorem recorded_of_saved (h : (d.prepared uid).map PreparedClaim.ref = some ref) :
    Recorded uid ref (d.savePrepared true) :=
  ⟨⟨_, rfl, h⟩, .inl h⟩

/-- Saving a set without the claim does not bring it back. -/
theorem lost_of_saved {written : Bool} (hnone : d.prepared uid = none)
    (h : written = true ∨ ∀ refs, d.checkpoint = some refs → refs uid = none) : Lost uid (d.savePrepared written) := by
  cases written with
  | false => exact ⟨hnone, h.resolve_left (by decide)⟩
  | true =>
    refine ⟨hnone, fun refs hrefs => ?_⟩
    simp [← Option.some.inj hrefs, hnone]

theorem restoreClaim_ref {answers : Text → Text → Bool} {pc : PreparedClaim}
    (h : restoreClaim semver w.api answers uid ref = some pc) : pc.ref = ref := by
  unfold restoreClaim at h
  split at h
  · obtain ⟨claim, hclaim, h⟩ := Option.bind_eq_some_iff.mp h
    obtain ⟨devices, -, rfl⟩ := Option.map_eq_some_iff.mp h
    obtain ⟨hns, hname⟩ := w.api.claims_at _ _ _ (Option.filter_eq_some_iff.mp hclaim).1
    rw [PreparedClaim.ref, hns, hname]
  · cases h

/-- What the NRI hook has fetched is the same object. -/
theorem current_eq {claim : Claim} (h : w.current uid = some claim) : claim.uid = uid ∧
      ∃ pc, w.driver.prepared uid = some pc ∧ pc.ref = ⟨claim.namespace, claim.name⟩ := by
  obtain ⟨pc, hpc, hclaim⟩ := Option.bind_eq_some_iff.mp h
  obtain ⟨hclaim, huid⟩ := Option.filter_eq_some_iff.mp hclaim
  obtain ⟨hns, hname⟩ := w.api.claims_at _ _ _ hclaim
  exact ⟨by simpa using huid, pc, hpc, by rw [PreparedClaim.ref, hns, hname]⟩

/-- Fetching claims again changes no identity. -/
theorem refresh_same (uid' : Text) : SameFor uid w.driver (w.step semver (.refresh uid')).driver := by
  simp only [World.step]
  split
  · next claim hclaim =>
    obtain ⟨rfl, pc, hpc, href⟩ := current_eq hclaim
    refine ⟨?_, rfl, rfl⟩
    by_cases hu : uid = claim.uid
    · subst hu
      simp [InjectDriver.updatePreparedClaim, hpc, PreparedClaim.ref] at href ⊢
      simp [href]
    · simp [InjectDriver.updatePreparedClaim, update_of_ne hu]
  · exact ⟨rfl, rfl, rfl⟩

/-- What an event does with a claim that it spares: the set is saved as it is for the claim, or nothing, or
the process starts, or the set is restored. -/
theorem step_cases (hspares : Spares semver uid w e) :
    (e.Saves semver w ∧ ∃ prepared written, prepared uid = w.driver.prepared uid ∧ (e.FilesWork → written = true) ∧
      (w.step semver e).driver = InjectDriver.savePrepared { w.driver with prepared := prepared } written) ∨
    (¬ e.Saves semver w ∧ SameFor uid w.driver (w.step semver e).driver) ∨ e = .start ∨
    ∃ readable answers written, e = .restore readable answers written ∧ w.driver.restored = false := by
  have hsame : SameFor uid w.driver w.driver := ⟨rfl, rfl, rfl⟩
  cases e with
  | prepare claim written =>
    simp only [Event.Saves, Spares, World.step, InjectDriver.prepareClaim] at hspares ⊢
    cases hdevices : resolveClaim semver w.api claim with
    | none => exact .inr (.inl ⟨nofun, hsame⟩)
    | some devices =>
      have hne : claim.uid ≠ uid := hspares (by rw [hdevices]; rfl)
      exact .inl ⟨rfl, _, written, update_of_ne hne.symm _ _, id, rfl⟩
  | unprepare uid' released written =>
    cases released with
    | false => exact .inr (.inl ⟨nofun, hsame⟩)
    | true => exact .inl ⟨rfl, _, written, update_of_ne (hspares rfl).symm _ _, id, rfl⟩
  | refresh uid' => exact .inr (.inl ⟨id, refresh_same uid'⟩)
  | start => exact .inr (.inr (.inl rfl))
  | restore readable answers written =>
    cases hrestored : w.driver.restored with
    | false => exact .inr (.inr (.inr ⟨_, _, _, rfl, rfl⟩))
    | true => exact .inr (.inl ⟨id, by simpa only [World.step, hrestored, if_true] using hsame⟩)
  | putClaim _ | deleteClaim _ _ | publish _ _ => exact .inr (.inl ⟨id, hsame⟩)

/-- A claim that is recorded stays so, unless a restart loses it. -/
theorem recorded_step (h : Recorded uid ref w.driver) (hspares : Spares semver uid w e) (hfiles : e.FilesWork)
    (hrestores : Restores semver uid ref w e) : Recorded uid ref (w.step semver e).driver := by
  rcases step_cases hspares with ⟨hsaves, prepared, written, hset, hwritten, heq⟩ |
    ⟨-, hsame⟩ | rfl | ⟨_, _, _, rfl, hr⟩
  · rw [heq, hwritten hfiles]
    refine recorded_of_saved ?_
    dsimp only
    rw [hset]
    exact h.2.resolve_right fun hnone => (hrestores hnone.1).1 hsaves
  · refine ⟨hsame.file ▸ h.1, h.2.imp hsame.set.trans fun hnone => ⟨?_, hsame.restored.trans hnone.2⟩⟩
    have hset := hsame.set
    rwa [hnone.1, Option.map_none, Option.map_eq_none_iff] at hset
  · exact ⟨h.1, .inr ⟨rfl, rfl⟩⟩
  · obtain ⟨rfl, rfl⟩ := hfiles
    obtain ⟨⟨refs, hfile, hrefs⟩, hset⟩ := h
    simp only [World.step, InjectDriver.restorePrepared, hfile, hr, Bool.false_eq_true, if_false]
    refine recorded_of_saved ?_
    dsimp only
    rw [hrefs, Option.bind_some]
    cases hfound : restoreClaim semver w.api _ uid ref with
    | some pc => rw [Option.some_or, Option.map_some, restoreClaim_ref hfound]
    | none =>
      rw [Option.none_or]
      refine hset.resolve_right fun hnone => ?_
      have hsome := (hrestores hnone.1).2 _ _ _ rfl
      rw [hfound] at hsome
      cases hsome

/-- A restart that does not find the claim, or saves before it has restored it, drops it from the file, too. -/
theorem lost_of_not_restores (h : Recorded uid ref w.driver) (hspares : Spares semver uid w e) (hfiles : e.FilesWork)
    (hnot : ¬ Restores semver uid ref w e) : Lost uid (w.step semver e).driver := by
  obtain ⟨hnone, hno⟩ := Classical.not_imp.mp hnot
  by_cases hsaves : e.Saves semver w
  · rcases step_cases hspares with ⟨-, prepared, written, hset, hwritten, heq⟩ | ⟨hnot, -⟩ | rfl | ⟨_, _, _, rfl, -⟩
    · rw [heq]
      exact lost_of_saved (hset.trans hnone) (.inl (hwritten hfiles))
    · exact absurd hsaves hnot
    · exact hsaves.elim
    · exact hsaves.elim
  · simp only [hsaves, not_false_eq_true, true_and, not_forall] at hno
    obtain ⟨readable, answers, written, rfl, hmissed⟩ := hno
    obtain ⟨rfl, rfl⟩ := hfiles
    obtain ⟨⟨refs, hfile, hrefs⟩, hset⟩ := h
    have hr := (hset.resolve_left (by simp [hnone])).2
    simp only [World.step, InjectDriver.restorePrepared, hfile, hr, Bool.false_eq_true, if_false]
    refine lost_of_saved ?_ (.inl rfl)
    simpa [hrefs, hnone] using hmissed

/-- A claim that is lost comes back only by being prepared again. -/
theorem lost_step (h : Lost uid w.driver) (hspares : Spares semver uid w e) : Lost uid (w.step semver e).driver := by
  rcases step_cases hspares with ⟨-, prepared, written, hset, -, heq⟩ | ⟨-, hsame⟩ | rfl | ⟨_, _, _, rfl, hr⟩
  · rw [heq]
    exact lost_of_saved (hset.trans h.1) (.inr h.2)
  · have hset := hsame.set
    rw [h.1, Option.map_none, Option.map_eq_none_iff] at hset
    exact ⟨hset, hsame.file ▸ h.2⟩
  · exact ⟨rfl, h.2⟩
  · simp only [World.step, InjectDriver.restorePrepared, hr, Bool.false_eq_true, if_false]
    split
    · next refs hfile => exact lost_of_saved (by simp [h.2 refs hfile, h.1]) (.inr h.2)
    · exact h

end Set

/-- From a claim that is recorded: once the claims are restored it is in the set after a run exactly if no
restart of the run has lost it. -/
theorem recorded_run_iff {uid : Text} {ref : PreparedRef} (es : List Event) {w : World}
    (hspares : Along (World.step semver) (Spares semver uid) w es) (hfiles : ∀ e ∈ es, e.FilesWork)
    (hend : (run (World.step semver) w es).driver.restored = true) (h : Recorded uid ref w.driver) :
    ((run (World.step semver) w es).driver.prepared uid).isSome ↔
      Along (World.step semver) (Restores semver uid ref) w es := by
  induction es generalizing w with
  | nil =>
    have hset := h.2.resolve_right fun hnone => absurd (hnone.2.symm.trans hend) (by decide)
    obtain ⟨pc, hpc, -⟩ := Option.map_eq_some_iff.mp hset
    exact iff_of_true (by rw [run, List.foldl_nil, hpc]; rfl) trivial
  | cons e es ih =>
    obtain ⟨hfe, hfes⟩ := List.forall_mem_cons.mp hfiles
    by_cases hr : Restores semver uid ref w e
    · have := ih hspares.2 hfes hend (recorded_step h hspares.1 hfe hr)
      exact ⟨fun hs => ⟨hr, this.mp hs⟩, fun ha => this.mpr ha.2⟩
    · refine ⟨fun hs => ?_, fun ha => absurd ha.1 hr⟩
      -- once lost, always lost
      have hkeep (w : World) (e : Event) : Lost uid w.driver → Spares semver uid w e →
          Lost uid (w.step semver e).driver := lost_step
      have hlost := run_invariant hkeep es (lost_of_not_restores h hspares.1 hfe hr) hspares.2
      have hnone : (run (World.step semver) w (e :: es)).driver.prepared uid = none := hlost.1
      rw [hnone] at hs
      exact absurd hs (by decide)

/-- **What restarts keep.** After any run, a claim is prepared; then come calls that neither record nor forget
it, restarts and changes at the API server, with any reads failing. Once restored, the set has the claim
exactly if every restart in between has kept it: no call saved the set before the claims were restored, `Get`
answered with an allocated object of the same UID, and all its devices were resolved. -/
theorem prepared_iff_restored (semver : Semver) (start : World) (before after : List Event) {claim : Claim}
    (hprepares : (resolveClaim semver (run (World.step semver) start before).api claim).isSome)
    (hspares : Along (World.step semver) (Spares semver claim.uid)
      (run (World.step semver) start (before ++ [.prepare claim true])) after) (hfiles : ∀ e ∈ after, e.FilesWork)
    (hend : (run (World.step semver) start (before ++ .prepare claim true :: after)).driver.restored = true) :
    ((run (World.step semver) start (before ++ .prepare claim true :: after)).driver.prepared claim.uid).isSome ↔
      Along (World.step semver) (Restores semver claim.uid ⟨claim.namespace, claim.name⟩)
        (run (World.step semver) start (before ++ [.prepare claim true])) after := by
  rw [List.append_cons, run_append] at hend ⊢
  refine recorded_run_iff semver after hspares hfiles hend ?_
  obtain ⟨devices, hdevices⟩ := Option.isSome_iff_exists.mp hprepares
  rw [run_append]
  show Recorded _ _ (World.step semver _ (.prepare claim true)).driver
  simp only [World.step, InjectDriver.prepareClaim, hdevices]
  refine recorded_of_saved ?_
  dsimp only
  rw [update_self]
  rfl

/-! ### A restart while the API server does not answer -/

def oneVersion : Semver := ⟨some, fun _ _ => false⟩

def oneDevice : PublishedDevice where
  name := "gpu-0".toList
  accessMode := "remote".toList
  uuid := "GPU-0".toList
  serverEndpoint := []
  agentEndpoint := "http://10.0.0.1".toList
  cudaDriverVersion := "12.4.0".toList
  serverCudaVersion := []

def oneClaim : Claim where
  «namespace» := "ns".toList
  name := "claim".toList
  uid := "u".toList
  requests := [⟨"r".toList, true, []⟩]
  allocation := some [⟨"r".toList, draDriverName, "pool".toList, "gpu-0".toList⟩]

/-- A node with no claims, one published device and one claim object. -/
def oneWorld : World where
  api := Api.put ⟨fun _ _ => none, fun _ => [[oneDevice]], nofun⟩ oneClaim
  driver := ⟨fun _ => none, none, true⟩

/-- After a restart without answers, one whose reads all succeed does not bring the claim back, though its
object is unchanged. Nor does a restart in which another claim is unprepared before the restore. -/
theorem unanswered_restart_loses_claim :
    let lost (es : List Event) :=
      let w : World := run (World.step oneVersion) oneWorld
        (.prepare oneClaim true :: es ++ [.restore true (fun _ _ => true) true])
      w.api.claims "ns".toList "claim".toList = some oneClaim ∧ w.driver.prepared "u".toList = none
    lost [.start, .restore true (fun _ _ => false) true, .start] ∧ lost [.start, .unprepare "v".toList true true] :=
  ⟨⟨rfl, rfl⟩, rfl, rfl⟩

/-- Two restarts that keep the claim: one after another claim was unprepared, one with an attempt at that
which fails before the restore. -/
theorem answered_restarts_keep_claim :
    let after : List Event := [.unprepare "v".toList true true, .start, .restore true (fun _ _ => true) true, .start,
      .unprepare "v".toList false true, .restore true (fun _ _ => true) true]
    ((run (World.step oneVersion) oneWorld ([] ++ .prepare oneClaim true :: after)).driver.prepared
      "u".toList).isSome := by
  intro after
  refine (@prepared_iff_restored oneVersion oneWorld [] after oneClaim rfl ?_ ?_ rfl).mpr ?_
  · exact ⟨fun _ => by decide, trivial, trivial, trivial, nofun, trivial, trivial⟩
  · simp [after, Event.FilesWork]
  · refine ⟨nofun, fun _ => ⟨id, nofun⟩, fun _ => ⟨id, ?_⟩, nofun, fun _ => ⟨nofun, nofun⟩, fun _ => ⟨id, ?_⟩, trivial⟩
    all_goals
      rintro _ _ _ ⟨⟩
      rfl

end VGpuManager.Remote

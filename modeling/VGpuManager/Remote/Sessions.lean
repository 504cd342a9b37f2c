import Mathlib.Data.List.AList
import VGpuManager.Foundation.Runs
import VGpuManager.Foundation.Text

/-!
# The sessions of the remote agent (`remoteagent/session.go`, `agent.go`)

A session is a directory named by its token, complete once it has a marker with its owner and the
owner's resource version. The store keeps an index of the sessions of each owner. `Materialize`
makes a session in one critical section; `Sweep`, `Release` and `gcSessions` choose sessions in one
critical section and remove them in others, one per session.
-/

namespace VGpuManager.RemoteAgent

open Foundation List Function

/-! ## The store -/

inductive OwnerKind where
  | claim | pod | other
  deriving DecidableEq, Repr

/-- `SessionOwner`: an object of the API server, which has a UID, at a resource version. -/
structure SessionOwner where
  kind : OwnerKind
  uid : Text
  «namespace» : Text
  name : Text
  version : Nat
  uid_ne : uid ≠ []

/-- The marker file: UID, version and kind of the owner. A torn one may have any of them. -/
structure Marker where
  uid : Text
  version : Nat
  kind : OwnerKind
  deriving DecidableEq, Repr

def SessionOwner.marker (o : SessionOwner) : Marker := ⟨o.uid, o.version, o.kind⟩

/-- A directory under the session base, without the files that are the library's. -/
structure SessionDir where
  marker : Option Marker
  deriving DecidableEq, Repr

structure SessionRef where
  ownerUid : Text
  version : Nat
  deriving DecidableEq, Repr

def Marker.ref (m : Marker) : SessionRef := ⟨m.uid, m.version⟩

/-- The directories by token, and the index both ways. -/
structure SessionStore where
  disk : AList fun _ : Text => SessionDir
  refOf : Text → Option SessionRef
  byOwner : Text → List Text

def isTokenChar (c : Char) : Bool := c.isAlphanum || c == '.' || c == '_' || c == '-'

/-- `validateToken`: a letter or digit, then at most 127 of these, dots, underscores and dashes. -/
def validateToken : Text → Bool
  | [] => false
  | c :: rest => c.isAlphanum && rest.all isTokenChar && decide (rest.length ≤ 127)

/-- The path of the link to the watcher's directory. -/
def watcherName : Text := "watcher".toList

namespace SessionStore

variable (s : SessionStore) (token : Text)

def indexLocked (ref : SessionRef) : SessionStore :=
  { s with
    refOf := Function.update s.refOf token (some ref)
    byOwner := Function.update s.byOwner ref.ownerUid ((s.byOwner ref.ownerUid).insert token) }

def unindexLocked : SessionStore :=
  match s.refOf token with
  | none => s
  | some ref =>
    { s with
      refOf := Function.update s.refOf token none
      byOwner := Function.update s.byOwner ref.ownerUid ((s.byOwner ref.ownerUid).erase token) }

/-- The directory as it is after the operation. -/
def setDir : Option SessionDir → SessionStore
  | some dir => { s with disk := s.disk.insert token dir }
  | none => { s with disk := s.disk.erase token }

/-- The owner the marker names, if it can be read. -/
def readMarker (readable : Bool) : Option Marker :=
  if readable then (s.disk.lookup token).bind SessionDir.marker else none

end SessionStore

/-! ## Materialize and Remove -/

/-- What a session is made of: its owner, and how many devices it has. -/
structure SessionSpec where
  owner : SessionOwner
  claims : Nat

def maxDeviceCount : Nat := 16

inductive MaterializeError where
  | invalidToken
  | noDevices
  | tooManyDevices (n : Nat)
  | noCudaVersion
  | belongsTo (owner : Marker)
  | write

/-- Whether a sequence of file operations succeeds, or what it leaves behind. -/
inductive FileResult where
  | done
  | failed (left : Option SessionDir)

variable (s : SessionStore)

/-- `Materialize`. `hasCuda`: the node's devices have a CUDA version. -/
def SessionStore.materialize (token : Text) (spec : SessionSpec)
    (hasCuda readable : Bool) (files : FileResult) : Except MaterializeError Unit × SessionStore :=
  if validateToken token = false then (.error .invalidToken, s)
  else if spec.claims = 0 then (.error .noDevices, s)
  else if maxDeviceCount < spec.claims then (.error (.tooManyDevices spec.claims), s)
  else if hasCuda = false then (.error .noCudaVersion, s)
  else
    match s.readMarker token readable with
    | some m =>
      if m.uid = spec.owner.uid then (.ok (), s.indexLocked token m.ref)
      else (.error (.belongsTo m), s)
    | none =>
      match files with
      | .failed left => (.error .write, s.setDir token left)
      | .done =>
        (.ok (), (s.setDir token (some ⟨some spec.owner.marker⟩)).indexLocked token spec.owner.marker.ref)

/-- `Remove`, with whether it reports success. -/
def SessionStore.remove (token : Text) (files : FileResult) : Bool × SessionStore :=
  if validateToken token = false then (false, s)
  else
    match files with
    | .failed left => (false, s.setDir token left)
    | .done => (true, (s.setDir token none).unindexLocked token)

structure Entry where
  token : Text
  owner : Option Marker

/-- `List`. A marker that cannot be read is logged and taken as missing. -/
def SessionStore.list (readable : Text → Bool) : List Entry :=
  (s.disk.keys.filter fun token => token ≠ watcherName && validateToken token).map fun token =>
    ⟨token, s.readMarker token (readable token)⟩

/-- The UID is empty if there is no marker. -/
def Entry.ownerUid (e : Entry) : Text := (e.owner.map Marker.uid).getD []

/-- The first section of `Sweep`: the sessions of the owner that are not to be kept and are not newer
than the view. A token that is not in the map has version 0. -/
def SessionStore.stale (owner : Text) (keep : List Text) (view : Nat) : List Text :=
  (s.byOwner owner).filter fun token =>
    !keep.contains token && decide (((s.refOf token).map SessionRef.version).getD 0 ≤ view)

/-- The loop of `Prepare` over the listed sessions. -/
def SessionStore.reindex (entries : List Entry) : SessionStore :=
  entries.foldl (fun s e =>
    match e.owner with
    | some m => if m.uid = [] then s else s.indexLocked e.token m.ref
    | none => s) s

/-- `Prepare` of a new process. -/
def SessionStore.prepare (readable : Text → Bool) : SessionStore :=
  SessionStore.reindex { s with refOf := fun _ => none, byOwner := fun _ => [] } (s.list readable)

/-! ## Threads -/

/-- Why a session is removed. -/
inductive Cause where
  | sweep (owner : Text) (view : Nat)
  | incomplete
  | release (owner : Text)
  deriving DecidableEq, Repr

/-- What a thread has still to do: `Remove` of a session, `Release`'s look at the owner of one, or
the look of `gcSessions` at an owner. Each is one critical section. -/
inductive Instr where
  | remove (cause : Cause) (token : Text)
  | check (owner token : Text)
  | validate (owner : Text)
  deriving DecidableEq, Repr

/-- The order in which a map or set is walked. -/
structure Walk where
  order : List Text → List Text
  perm : ∀ l, (order l).Perm l

def maxInt64 : Nat := 2 ^ 63 - 1

/-- What the agent finds about an owner: its sessions and version, that it is gone (or of a kind the
agent does not serve), or nothing. -/
inductive View where
  | seen (keep : List Text) (version : Nat)
  | gone
  | failed

/-- The arguments of the sweep that follows. -/
def View.sweep : View → Option (List Text × Nat)
  | .seen keep version => some (keep, version)
  | .gone => some ([], maxInt64)
  | .failed => none

/-- The store, the threads' work, and for each session that is complete the owner and the newest
version of the owner for which `Materialize` has reported success. -/
structure World where
  store : SessionStore
  completed : Text → Option (Text × Nat)
  threads : Nat → List Instr

/-- The sections: `Materialize`; the first section of a `Sweep`, of a `Release` and of `gcSessions`
in a thread that has nothing to do; the next section of a thread; a new process. -/
inductive Event where
  | materialize (token : Text) (spec : SessionSpec) (hasCuda readable : Bool) (files : FileResult)
  | sweep (thread : Nat) (owner : Text) (keep : List Text) (view : Nat) (walk : Walk)
  | release (thread : Nat) (owner : Text) (tokens : List Text)
  | gc (thread : Nat) (readable : Text → Bool) (walk : Walk)
  | act (thread : Nat) (view : View) (walk : Walk) (files : FileResult)
  | restart (readable : Text → Bool)

/-- The version for which the session is complete after a `Materialize` for the owner: the newest
one if the session was `found` complete, the owner's if it is made anew. -/
def newest (owner : SessionOwner) (found : Bool) : Option (Text × Nat) → Nat
  | some (uid, version) => if found ∧ uid = owner.uid then max version owner.version else owner.version
  | none => owner.version

def sweepInstrs (owner : Text) (keep : List Text) (view : Nat) (walk : Walk) : List Instr :=
  (walk.order (s.stale owner keep view)).map (.remove (.sweep owner view))

/-- `gcSessions` after `List`: the sessions without an owner are removed, then every owner is looked
at once. -/
def gcInstrs (entries : List Entry) (walk : Walk) : List Instr :=
  (entries.filter fun e => e.ownerUid = []).map (fun e => Instr.remove .incomplete e.token) ++
    (walk.order ((entries.map Entry.ownerUid).filter fun uid => uid ≠ []).dedup).map .validate

namespace World

variable (w : World)

/-- A thread begins what it has to do. -/
def begin (thread : Nat) (work : List Instr) : World :=
  if w.threads thread = [] then { w with threads := Function.update w.threads thread work } else w

def afterMaterialize (token : Text) (owner : SessionOwner) (found : Bool) :
    Except MaterializeError Unit × SessionStore → World
  | (.ok (), store) =>
    { w with
      store
      completed := Function.update w.completed token (some (owner.uid, newest owner found (w.completed token))) }
  | (.error .write, store) =>
    { w with store, completed := Function.update w.completed token none }
  | (.error _, store) => { w with store }

/-- `Remove` has run. A session that is not as it was is not complete any more. `Release` gives up
at the first failure. -/
def afterRemove (thread : Nat) (cause : Cause) (token : Text) (rest : List Instr) : Bool × SessionStore → World
  | (ok, store) =>
    { store
      completed := if store.disk.lookup token = w.store.disk.lookup token then w.completed
        else Function.update w.completed token none
      threads := Function.update w.threads thread (match ok, cause with
        | false, .release _ => []
        | _, _ => rest) }

/-- The next section of a thread. -/
def act (thread : Nat) (view : View) (walk : Walk) (files : FileResult) : World :=
  match w.threads thread with
  | [] => w
  | .remove cause token :: rest => w.afterRemove thread cause token rest (w.store.remove token files)
  | .check owner token :: rest =>
    let work :=
      if validateToken token = false then []
      else if (w.store.refOf token).map SessionRef.ownerUid = some owner then
        .remove (.release owner) token :: rest
      else rest
    { w with threads := Function.update w.threads thread work }
  | .validate owner :: rest =>
    let work :=
      match view.sweep with
      | some (keep, version) => sweepInstrs w.store owner keep version walk ++ rest
      | none => rest
    { w with threads := Function.update w.threads thread work }

def step : Event → World
  | .materialize token spec hasCuda readable files =>
    w.afterMaterialize token spec.owner (w.store.readMarker token readable).isSome
      (w.store.materialize token spec hasCuda readable files)
  | .sweep thread owner keep view walk =>
    w.begin thread (sweepInstrs w.store owner keep view walk)
  | .release thread owner tokens =>
    w.begin thread ((if tokens = [] then w.store.byOwner owner else tokens).map (.check owner))
  | .gc thread readable walk => w.begin thread (gcInstrs (w.store.list readable) walk)
  | .act thread view walk files => w.act thread view walk files
  | .restart readable => { w with store := w.store.prepare readable, threads := fun _ => [] }

/-- An agent that starts with these directories on its disk. -/
def boot (disk : AList fun _ : Text => SessionDir) (readable : Text → Bool) : World where
  store := SessionStore.prepare ⟨disk, fun _ => none, fun _ => []⟩ readable
  completed token := ((disk.lookup token).bind SessionDir.marker).bind fun m =>
    if m.uid = [] then none else some (m.uid, m.version)
  threads _ := []

end World

/-- The session has to be spared: one that is complete for a version newer than the view of the
sweep, one that is complete when incomplete ones are collected, one of another owner than the one
whose sessions are released. -/
def Cause.MustSpare : Cause → Text × Nat → Prop
  | .sweep _ view, (_, version) => view < version
  | .incomplete, _ => True
  | .release owner, (uid, _) => uid ≠ owner

/-- No `Remove` is called on a session that has to be spared. -/
def Spares (w : World) : Event → Prop
  | .act thread _ _ _ =>
    ∀ cause token rest, w.threads thread = .remove cause token :: rest → ∀ c ∈ w.completed token, ¬ cause.MustSpare c
  | _ => True

/-- The condition: when `Materialize` reports success, no thread has already chosen the session for a
removal that would have to spare it, and if the session was complete before, its marker is not older
than the version of the owner now; and `gcSessions` can read every marker there is. -/
def Orderly (w : World) : Event → Prop
  | .materialize token spec hasCuda readable files =>
    (w.store.materialize token spec hasCuda readable files).1.isOk →
      (∀ thread cause, Instr.remove cause token ∈ w.threads thread →
        ¬ cause.MustSpare (spec.owner.uid, spec.owner.version)) ∧
      ∀ m, w.store.readMarker token readable = some m → spec.owner.version ≤ m.version
  | .gc _ readable _ =>
    ∀ token dir, w.store.disk.lookup token = some dir → dir.marker.isSome → readable token
  | _ => True

/-! ## The store's operations -/

section Store

variable {s} {t token : Text} {ref : SessionRef} {c : Text × Nat}

@[simp] theorem indexLocked_disk : (s.indexLocked token ref).disk = s.disk := rfl

@[simp] theorem unindexLocked_disk : (s.unindexLocked token).disk = s.disk := by
  unfold SessionStore.unindexLocked
  split <;> rfl

variable (dir : Option SessionDir)

@[simp] theorem setDir_refOf : (s.setDir token dir).refOf = s.refOf := by
  cases dir <;> rfl

@[simp] theorem setDir_byOwner : (s.setDir token dir).byOwner = s.byOwner := by
  cases dir <;> rfl

theorem lookup_setDir : (s.setDir token dir).disk.lookup token = dir := by
  cases dir with
  | some dir => exact AList.lookup_insert _
  | none => exact AList.lookup_erase _ _

theorem lookup_setDir_ne (h : t ≠ token) : (s.setDir token dir).disk.lookup t = s.disk.lookup t := by
  cases dir with
  | some dir => exact AList.lookup_insert_ne h
  | none => exact AList.lookup_erase_ne h

theorem readMarker_some {readable : Bool} {m : Marker} (h : s.readMarker token readable = some m) :
    (s.disk.lookup token).bind SessionDir.marker = some m := by
  unfold SessionStore.readMarker at h
  split_ifs at h
  exact h

/-- The index agrees with what the session is complete for, or has no entry for it at all. -/
def Indexed (s : SessionStore) (t : Text) (c : Text × Nat) : Prop :=
  (∃ r, s.refOf t = some r ∧ r.ownerUid = c.1 ∧ c.2 ≤ r.version) ∨ s.refOf t = none ∧ ∀ u, t ∉ s.byOwner u

theorem Indexed.of_eq {s' : SessionStore} (h : Indexed s t c) (href : s'.refOf = s.refOf)
    (hby : s'.byOwner = s.byOwner) : Indexed s' t c := by
  rw [Indexed, href, hby]
  exact h

theorem indexed_self (huid : ref.ownerUid = c.1) (hversion : c.2 ≤ ref.version) :
    Indexed (s.indexLocked token ref) token c :=
  .inl ⟨ref, update_self .., huid, hversion⟩

theorem Indexed.index (h : Indexed s t c) (hne : t ≠ token) : Indexed (s.indexLocked token ref) t c := by
  have hrefOf : (s.indexLocked token ref).refOf t = s.refOf t := update_of_ne hne _ _
  rcases h with ⟨r, hr, huid, hversion⟩ | ⟨hnone, hby⟩
  · exact .inl ⟨r, hrefOf.trans hr, huid, hversion⟩
  · refine .inr ⟨hrefOf.trans hnone, fun u => ?_⟩
    by_cases hu : u = ref.ownerUid
    · subst hu
      simpa [SessionStore.indexLocked, hne] using hby ref.ownerUid
    · simpa [SessionStore.indexLocked, update_of_ne hu] using hby u

theorem Indexed.unindex (h : Indexed s t c) (hne : t ≠ token) : Indexed (s.unindexLocked token) t c := by
  unfold SessionStore.unindexLocked
  split
  · exact h
  · next ref _ =>
    rcases h with ⟨r, hr, huid, hversion⟩ | ⟨hnone, hby⟩
    · exact .inl ⟨r, (update_of_ne hne _ _).trans hr, huid, hversion⟩
    · refine .inr ⟨(update_of_ne hne _ _).trans hnone, fun u hu => ?_⟩
      by_cases huo : u = ref.ownerUid
      · subst huo
        exact hby _ (mem_of_mem_erase (by simpa using hu))
      · exact hby u (by simpa [update_of_ne huo] using hu)

/-- What `Materialize` does: it refuses, finds the session complete, fails, or makes it. -/
theorem materialize_cases (s : SessionStore) (token : Text) (spec : SessionSpec)
    (hasCuda readable : Bool) (files : FileResult) :
    (∃ e, e ≠ MaterializeError.write ∧ s.materialize token spec hasCuda readable files = (.error e, s)) ∨
      (∃ m, s.readMarker token readable = some m ∧ m.uid = spec.owner.uid ∧
        s.materialize token spec hasCuda readable files = (.ok (), s.indexLocked token m.ref)) ∨
      s.readMarker token readable = none ∧ ((∃ left, s.materialize token spec hasCuda readable files =
            (.error .write, s.setDir token left)) ∨ s.materialize token spec hasCuda readable files =
            (.ok (), (s.setDir token (some ⟨some spec.owner.marker⟩)).indexLocked token spec.owner.marker.ref)) := by
  unfold SessionStore.materialize
  repeat' split
  all_goals first
    | exact .inl ⟨_, by simp, rfl⟩
    | exact .inr (.inl ⟨_, ‹_›, ‹_›, rfl⟩)
    | exact .inr (.inr ⟨‹_›, .inl ⟨_, rfl⟩⟩)
    | exact .inr (.inr ⟨‹_›, .inr rfl⟩)

/-- What `Remove` does: nothing, or something to the one directory; on success the session is no
longer in the index. -/
theorem remove_cases (s : SessionStore) (token : Text) (files : FileResult) : s.remove token files = (false, s) ∨
      (∃ left, s.remove token files = (false, s.setDir token left)) ∨
      s.remove token files = (true, (s.setDir token none).unindexLocked token) := by
  unfold SessionStore.remove
  repeat' split
  · exact .inl rfl
  · exact .inr (.inl ⟨_, rfl⟩)
  · exact .inr (.inr rfl)

end Store

/-! ## The invariant -/

/-- The work holds no removal that has to spare its session. -/
def Sparing (completed : Text → Option (Text × Nat)) (work : List Instr) : Prop :=
  ∀ cause t, Instr.remove cause t ∈ work → ∀ c ∈ completed t, ¬ cause.MustSpare c

/-- Every complete session has a marker and an index entry that are not older than what it is complete
for, and no thread has chosen it for a removal that has to spare it. -/
structure Inv (w : World) : Prop where
  uid_ne : ∀ t c, w.completed t = some c → c.1 ≠ []
  marked : ∀ t c, w.completed t = some c →
    ∃ m, (w.store.disk.lookup t).bind SessionDir.marker = some m ∧ m.uid = c.1 ∧ c.2 ≤ m.version
  indexed : ∀ t c, w.completed t = some c → Indexed w.store t c
  chosen : ∀ thread, Sparing w.completed (w.threads thread)

section Invariant

variable {w : World} {t token : Text} {c : Text × Nat}

variable {completed : Text → Option (Text × Nat)} {work : List Instr}

theorem sparing_nil : Sparing completed [] :=
  fun _ _ hi => absurd hi not_mem_nil

theorem Sparing.append {l l' : List Instr}
    (h : Sparing completed l) (h' : Sparing completed l') : Sparing completed (l ++ l') :=
  fun cause t hi => (mem_append.mp hi).elim (h cause t) (h' cause t)

theorem Sparing.tail {i : Instr} {l : List Instr} (h : Sparing completed (i :: l)) : Sparing completed l :=
  fun cause t hi => h cause t (.tail _ hi)

/-- Fewer complete sessions leave the work sparing. -/
theorem Sparing.of_le {completed' : Text → Option (Text × Nat)} {l : List Instr}
    (h : Sparing completed l) (hle : ∀ t c, completed' t = some c → completed t = some c) : Sparing completed' l :=
  fun cause t hi c hc => h cause t hi c (hle t c hc)

/-- What a sweep chooses is complete for no newer version than its view. -/
theorem Inv.sweepInstrs (h : Inv w) (owner : Text) (keep : List Text) (view : Nat) (walk : Walk) :
    Sparing w.completed (sweepInstrs w.store owner keep view walk) := by
  intro cause t hi c hc
  obtain ⟨t', ht', heq⟩ := mem_map.mp hi
  obtain ⟨rfl, rfl⟩ : Cause.sweep owner view = cause ∧ t' = t := by simpa using heq
  obtain ⟨hmem, hversion⟩ := mem_filter.mp ((walk.perm _).mem_iff.mp ht')
  refine Nat.not_lt.mpr ?_
  rcases h.indexed t' c hc with ⟨r, hr, -, hle⟩ | ⟨-, hno⟩
  · simp only [hr, Option.map_some, Option.getD_some, Bool.and_eq_true, decide_eq_true_eq] at hversion
    exact le_trans hle hversion.2
  · exact absurd hmem (hno owner)

/-- What `gcSessions` finds incomplete is, if every marker can be read. -/
theorem Inv.gcInstrs (h : Inv w) {readable : Text → Bool} (walk : Walk)
    (hreadable : ∀ token dir, w.store.disk.lookup token = some dir → dir.marker.isSome →
      readable token) : Sparing w.completed (gcInstrs (w.store.list readable) walk) := by
  intro cause t hi c hc
  rcases mem_append.mp hi with hi | hi
  · obtain ⟨e, he, heq⟩ := mem_map.mp hi
    obtain ⟨he, huid⟩ := mem_filter.mp he
    obtain ⟨token, -, rfl⟩ := mem_map.mp he
    obtain ⟨-, rfl⟩ : Cause.incomplete = cause ∧ token = t := by simpa using heq
    -- the session has a marker, so it has been read, and the UID in it is not empty
    obtain ⟨m, hm, hmuid, -⟩ := h.marked token c hc
    obtain ⟨dir, hdir, hmarker⟩ := Option.bind_eq_some_iff.mp hm
    have hread : w.store.readMarker token (readable token) = some m := by
      rw [SessionStore.readMarker, if_pos (hreadable token dir hdir (by rw [hmarker]; rfl)), hm]
    have hempty : m.uid = [] := by simpa [Entry.ownerUid, hread] using huid
    exact absurd (hmuid.symm.trans hempty) (h.uid_ne token c hc)
  · obtain ⟨u, -, heq⟩ := mem_map.mp hi
    cases heq

theorem Inv.setThread (h : Inv w) (thread : Nat) (hwork : Sparing w.completed work) :
    Inv { w with threads := Function.update w.threads thread work } :=
  ⟨h.uid_ne, h.marked, h.indexed, (forall_update_iff w.threads fun _ => Sparing w.completed).mpr
    ⟨hwork, fun thread _ => h.chosen thread⟩⟩

theorem Inv.begin (h : Inv w) (thread : Nat) (hwork : Sparing w.completed work) : Inv (w.begin thread work) := by
  unfold World.begin
  split
  · exact h.setThread thread hwork
  · exact h

theorem update_cases {new : Option (Text × Nat)} (hc : Function.update completed token new t = some c) :
    t = token ∧ new = some c ∨ t ≠ token ∧ completed t = some c := by
  by_cases ht : t = token
  · rw [ht, update_self] at hc
    exact .inl ⟨ht, hc⟩
  · rw [update_of_ne ht] at hc
    exact .inr ⟨ht, hc⟩

/-- One session has changed. If it is complete, its marker and index entry are of its owner and not
older than the version it is complete for, and no thread is about to remove it wrongly. -/
theorem Inv.changed (h : Inv w) {store : SessionStore} {new : Option (Text × Nat)}
    (hdisk : ∀ t, t ≠ token → store.disk.lookup t = w.store.disk.lookup t)
    (hindexed : ∀ t c, t ≠ token → Indexed w.store t c → Indexed store t c) (hnew : ∀ c, new = some c → c.1 ≠ [] ∧
      (∃ m, (store.disk.lookup token).bind SessionDir.marker = some m ∧ m.uid = c.1 ∧ c.2 ≤ m.version) ∧
      Indexed store token c ∧ ∀ thread cause, Instr.remove cause token ∈ w.threads thread → ¬ cause.MustSpare c) :
    Inv { w with store, completed := Function.update w.completed token new } := by
  refine ⟨fun t c hc => ?_, fun t c hc => ?_, fun t c hc => ?_, fun thread cause t hi c hc => ?_⟩ <;>
    obtain ⟨rfl, hat⟩ | ⟨ht, hc⟩ := update_cases hc
  · exact (hnew c hat).1
  · exact h.uid_ne t c hc
  · exact (hnew c hat).2.1
  · rw [hdisk t ht]
    exact h.marked t c hc
  · exact (hnew c hat).2.2.1
  · exact hindexed t c ht (h.indexed t c hc)
  · exact (hnew c hat).2.2.2 thread cause hi
  · exact h.chosen thread cause t hi c hc

theorem mustSpare_max {cause : Cause} {uid : Text} {v v' : Nat} (h : cause.MustSpare (uid, max v v')) :
    cause.MustSpare (uid, v) ∨ cause.MustSpare (uid, v') := by
  cases cause with
  | sweep owner view => exact lt_max_iff.mp h
  | incomplete => exact .inl trivial
  | release owner => exact .inl h

theorem Inv.materialize (h : Inv w) {spec : SessionSpec} {hasCuda readable : Bool} {files : FileResult}
    (ho : Orderly w (.materialize token spec hasCuda readable files)) :
    Inv (w.step (.materialize token spec hasCuda readable files)) := by
  simp only [World.step]
  simp only [Orderly] at ho
  obtain ⟨e, he, heq⟩ | ⟨m, hfound, huid, heq⟩ | ⟨hfound, ⟨left, heq⟩ | heq⟩ :=
    materialize_cases w.store token spec hasCuda readable files
  · rw [heq]
    cases e with
    | write => exact absurd rfl he
    | _ => exact h
  · -- the session was complete: its marker stays
    rw [heq] at ho ⊢
    obtain ⟨hchosen, hversion⟩ := ho rfl
    have hm := readMarker_some hfound
    have hle := hversion m hfound
    have hnewest : newest spec.owner true (w.completed token) ≤ m.version ∧
        ∀ thread cause, Instr.remove cause token ∈ w.threads thread →
          ¬ cause.MustSpare (spec.owner.uid, newest spec.owner true (w.completed token)) := by
      cases hc : w.completed token with
      | none => exact ⟨hle, hchosen⟩
      | some c =>
        obtain ⟨m', hm', huid', hle'⟩ := h.marked token c hc
        obtain rfl : m = m' := Option.some.inj (hm.symm.trans hm')
        have hsame : c = (spec.owner.uid, c.2) := Prod.ext (huid'.symm.trans huid) rfl
        rw [hsame]
        simp only [newest, and_self, if_true]
        refine ⟨max_le hle' hle, fun thread cause hi hspare => ?_⟩
        rcases mustSpare_max hspare with hspare | hspare
        · exact h.chosen thread cause token hi c hc (hsame ▸ hspare)
        · exact hchosen thread cause hi hspare
    rw [hfound]
    refine h.changed (fun _ _ => rfl) (fun t c ht hi => hi.index ht) fun c hc => ?_
    cases hc
    exact ⟨spec.owner.uid_ne, ⟨m, hm, huid, hnewest.1⟩, indexed_self huid hnewest.1, hnewest.2⟩
  · -- the directory is left without a marker, or with a torn one
    rw [heq]
    refine h.changed (fun t ht => lookup_setDir_ne left ht) (fun t c _ hi => ?_) nofun
    exact hi.of_eq (setDir_refOf left) (setDir_byOwner left)
  · rw [heq] at ho ⊢
    obtain ⟨hchosen, -⟩ := ho rfl
    have hnew : newest spec.owner (w.store.readMarker token readable).isSome (w.completed token) =
        spec.owner.version := by
      rw [hfound]
      cases w.completed token <;> simp [newest]
    rw [World.afterMaterialize, hnew]
    refine h.changed (fun t ht => lookup_setDir_ne _ ht) (fun t c ht hi => ?_) fun c hc => ?_
    · exact (hi.of_eq (setDir_refOf _) (setDir_byOwner _)).index ht
    · cases hc
      refine ⟨spec.owner.uid_ne, ⟨spec.owner.marker, ?_, rfl, le_rfl⟩, indexed_self rfl le_rfl, hchosen⟩
      rw [indexLocked_disk, lookup_setDir]
      rfl

/-- `Remove` of a session that need not be spared, or whose removal fails. -/
theorem Inv.remove (h : Inv w) {thread : Nat} {cause : Cause} {rest : List Instr} (files : FileResult)
    (hrest : Sparing w.completed rest) : Inv (w.afterRemove thread cause token rest (w.store.remove token files)) := by
  have hwork : ∀ ok : Bool, Sparing w.completed (match ok, cause with
        | false, .release _ => []
        | _, _ => rest) := by
    intro ok
    split
    · exact sparing_nil
    · exact hrest
  -- either the directory is as it was, or it is not complete any more
  have hkey : ∀ (ok : Bool) (store : SessionStore), (∀ t, t ≠ token → store.disk.lookup t = w.store.disk.lookup t) →
      (∀ t c, t ≠ token → Indexed w.store t c → Indexed store t c) →
      (store.disk.lookup token = w.store.disk.lookup token →
        ∀ c, w.completed token = some c → Indexed store token c) →
      Inv (w.afterRemove thread cause token rest (ok, store)) := by
    intro ok store hdisk hindexed hsame
    unfold World.afterRemove
    by_cases heq : store.disk.lookup token = w.store.disk.lookup token
    · simp only [if_pos heq]
      have hkept : Inv { w with store, completed := update w.completed token (w.completed token) } :=
        h.changed hdisk hindexed fun c hc => ⟨h.uid_ne token c hc, heq ▸ h.marked token c hc,
          hsame heq c hc, fun thread cause hi => h.chosen thread cause token hi c hc⟩
      rw [update_eq_self] at hkept
      exact hkept.setThread thread (hwork ok)
    · simp only [if_neg heq]
      have hdropped : Inv { w with store, completed := update w.completed token none } :=
        h.changed hdisk hindexed nofun
      exact hdropped.setThread thread ((hwork ok).of_le fun t c hc => (update_cases hc).elim nofun And.right)
  obtain heq | ⟨left, heq⟩ | heq := remove_cases w.store token files
  · rw [heq]
    exact hkey _ _ (fun _ _ => rfl) (fun _ _ _ hi => hi) fun _ c hc => h.indexed token c hc
  · rw [heq]
    refine hkey _ _ (fun t ht => lookup_setDir_ne left ht) (fun t c _ hi => ?_) fun _ c hc => ?_
    · exact hi.of_eq (setDir_refOf left) (setDir_byOwner left)
    · exact (h.indexed token c hc).of_eq (setDir_refOf left) (setDir_byOwner left)
  · rw [heq]
    refine hkey _ _ (fun t ht => ?_) (fun t c ht hi => ?_) fun hlookup c hc => ?_
    · rw [unindexLocked_disk, lookup_setDir_ne none ht]
    · exact (hi.of_eq (setDir_refOf _) (setDir_byOwner _)).unindex ht
    · -- the directory is gone, so there was none
      rw [unindexLocked_disk, lookup_setDir] at hlookup
      obtain ⟨m, hm, -⟩ := h.marked token c hc
      rw [← hlookup] at hm
      cases hm

/-- The next section of a thread. -/
theorem Inv.act (h : Inv w) (thread : Nat) (view : View) (walk : Walk) (files : FileResult) :
    Inv (w.act thread view walk files) := by
  have hchosen := h.chosen thread
  unfold World.act
  split
  · exact h
  · next cause token rest hth =>
    rw [hth] at hchosen
    exact h.remove files hchosen.tail
  · next owner token rest hth =>
    rw [hth] at hchosen
    refine h.setThread thread ?_
    split
    · exact sparing_nil
    · split
      · next howner =>
        intro cause t hi c hc
        rcases mem_cons.mp hi with heq | hi
        · obtain ⟨rfl, rfl⟩ : cause = Cause.release owner ∧ t = token := by simpa using heq
          -- the index names the owner the session is complete for
          obtain ⟨r, hr, huid⟩ := Option.map_eq_some_iff.mp howner
          rcases h.indexed t c hc with ⟨r', hr', huid', -⟩ | ⟨hnone, -⟩
          · cases hr.symm.trans hr'
            exact not_not_intro (huid'.symm.trans huid)
          · rw [hnone] at hr
            cases hr
        · exact hchosen.tail cause t hi c hc
      · exact hchosen.tail
  · next owner rest hth =>
    rw [hth] at hchosen
    refine h.setThread thread ?_
    split
    · exact (h.sweepInstrs _ _ _ walk).append hchosen.tail
    · exact hchosen.tail

theorem reindex_disk (entries : List Entry) (s : SessionStore) : (s.reindex entries).disk = s.disk := by
  induction entries generalizing s with
  | nil => rfl
  | cons e entries ih =>
    refine (ih _).trans ?_
    dsimp only
    split
    · split <;> rfl
    · rfl

theorem Indexed.reindex (entries : List Entry) {s : SessionStore} (h : Indexed s t c)
    (hm : ∀ e ∈ entries, ∀ m, e.token = t → e.owner = some m → m.uid = c.1 ∧ c.2 ≤ m.version) :
    Indexed (s.reindex entries) t c := by
  induction entries generalizing s with
  | nil => exact h
  | cons e entries ih =>
    obtain ⟨hme, hmes⟩ := forall_mem_cons.mp hm
    refine ih ?_ hmes
    dsimp only
    split
    · next m hmarker =>
      split
      · exact h
      · by_cases ht : e.token = t
        · obtain ⟨huid, hversion⟩ := hme m ht hmarker
          rw [ht]
          exact indexed_self huid hversion
        · exact h.index (Ne.symm ht)
    · exact h

/-- A new process finds the complete sessions by their markers. -/
theorem Inv.restart (h : Inv w) (readable : Text → Bool) :
    Inv { w with store := w.store.prepare readable, threads := fun _ => [] } := by
  have hdisk : (w.store.prepare readable).disk = w.store.disk := reindex_disk _ _
  refine ⟨h.uid_ne, fun t c hc => ?_, fun t c hc => ?_, fun _ => sparing_nil⟩
  · show ∃ m, ((w.store.prepare readable).disk.lookup t).bind SessionDir.marker = some m ∧ _
    rw [hdisk]
    exact h.marked t c hc
  · refine Indexed.reindex _ (.inr ⟨rfl, fun _ => not_mem_nil⟩) fun e he m ht hmarker => ?_
    obtain ⟨token, -, rfl⟩ := mem_map.mp he
    obtain ⟨m', hm', huid, hversion⟩ := h.marked t c hc
    obtain rfl : token = t := ht
    cases (readMarker_some hmarker).symm.trans hm'
    exact ⟨huid, hversion⟩

theorem inv_boot (disk : AList fun _ : Text => SessionDir) (readable : Text → Bool) :
    Inv (World.boot disk readable) := by
  have hmarker : ∀ t c, (World.boot disk readable).completed t = some c →
      ∃ m, (disk.lookup t).bind SessionDir.marker = some m ∧ m.uid ≠ [] ∧ c = (m.uid, m.version) := by
    intro t c hc
    obtain ⟨m, hm, hc⟩ := Option.bind_eq_some_iff.mp hc
    split at hc
    · cases hc
    · next hne => exact ⟨m, hm, hne, (Option.some.inj hc).symm⟩
  refine Inv.restart (w := { World.boot disk readable with
    store := ⟨disk, fun _ => none, fun _ => []⟩ }) ?_ readable
  refine ⟨fun t c hc => ?_, fun t c hc => ?_, fun t c hc => .inr ⟨rfl, fun _ => not_mem_nil⟩,
    fun _ => sparing_nil⟩
  · obtain ⟨m, -, hne, rfl⟩ := hmarker t c hc
    exact hne
  · obtain ⟨m, hm, -, rfl⟩ := hmarker t c hc
    exact ⟨m, hm, rfl, le_rfl⟩

theorem Inv.step (h : Inv w) {e : Event} (ho : Orderly w e) : Inv (w.step e) := by
  cases e with
  | materialize token spec hasCuda readable files => exact h.materialize ho
  | sweep thread owner keep view walk => exact h.begin thread (h.sweepInstrs owner keep view walk)
  | release thread owner tokens =>
    refine h.begin thread fun cause t hi => ?_
    obtain ⟨token, -, heq⟩ := mem_map.mp hi
    cases heq
  | gc thread readable walk => exact h.begin thread (h.gcInstrs walk ho)
  | act thread view walk files => exact h.act thread view walk files
  | restart readable => exact h.restart readable

end Invariant

/-- **Sessions that ought to stay are not removed.** In every interleaving of the sections, whatever
is on the disk at the start and whichever file operations fail, if every step is orderly then no
`Remove` is called on a session that is complete for a newer version than the view of the sweep, that
is complete when incomplete ones are collected, or that is another owner's than the one whose
sessions are released. -/
theorem removal_spares_newer (disk : AList fun _ : Text => SessionDir) (readable : Text → Bool)
    (es : List Event) (horderly : Along World.step Orderly (World.boot disk readable) es) :
    Along World.step Spares (World.boot disk readable) es := by
  refine along_of_invariant (I := Inv) (fun w e h ho => h.step ho) (fun w e h _ => ?_) es
    (inv_boot disk readable) horderly
  cases e with
  | act thread view walk files =>
    intro cause token rest hth c hc
    exact h.chosen thread cause token (by rw [hth]; exact (.head _)) c hc
  | _ => trivial

def ownerA (version : Nat) : SessionOwner :=
  ⟨.claim, "a".toList, "ns".toList, "a".toList, version, by simp⟩

def ownerB (version : Nat) : SessionOwner :=
  ⟨.claim, "b".toList, "ns".toList, "b".toList, version, by simp⟩

def inOrder : Walk := ⟨id, fun _ => .refl _⟩

/-- `Materialize` of session `t` on a node in order. -/
def make (owner : SessionOwner) : Event := .materialize "t".toList ⟨owner, 1⟩ true true .done

/-- The next section of a thread, in which nothing fails. -/
def goOn (thread : Nat) : Event := .act thread .failed inOrder .done

/-- A session is made and collected for, a sweep with an older view leaves it, one with a newer view
removes it. -/
def orderlyRun : List Event :=
  [make (ownerA 5), .gc 0 (fun _ => true) inOrder, goOn 0, .sweep 1 "a".toList [] 4 inOrder, goOn 1,
    .sweep 2 "a".toList [] 7 inOrder, goOn 2]

theorem orderlyRun_spares : Along World.step Spares (World.boot ∅ fun _ => true) orderlyRun ∧
      (run World.step (World.boot ∅ fun _ => true) orderlyRun).store.disk.lookup "t".toList = none := by
  refine ⟨removal_spares_newer _ _ orderlyRun
    ⟨fun _ => ⟨fun thread cause hi => absurd hi not_mem_nil, fun m hm => ?_⟩,
      fun _ _ _ _ => rfl, trivial, trivial, trivial, trivial, trivial, trivial⟩, by decide +kernel⟩
  cases hm

/-- **A complete session stays marked.** In every such interleaving the disk has a marker of its owner, of a
version not older than it is complete for, and the index has it so, or not at all. -/
theorem complete_session_marked (disk : AList fun _ : Text => SessionDir) (readable : Text → Bool)
    (es : List Event) (horderly : Along World.step Orderly (World.boot disk readable) es) :
    let w := run World.step (World.boot disk readable) es
    ∀ t c, w.completed t = some c → (∃ m, (w.store.disk.lookup t).bind SessionDir.marker = some m ∧
      m.uid = c.1 ∧ c.2 ≤ m.version) ∧ Indexed w.store t c := by
  intro w t c hc
  have h : Inv w := run_invariant (fun w e h ho => h.step ho) es (inv_boot disk readable) horderly
  exact ⟨h.marked t c hc, h.indexed t c hc⟩

/-- The session is found complete while a sweep that may have it is under way. -/
def foundAgain : List Event :=
  [make (ownerA 5), .gc 0 (fun _ => true) inOrder, .sweep 1 "a".toList [] 7 inOrder, make (ownerA 5), goOn 0]

theorem complete_session_marked_found :
    let w := run World.step (World.boot ∅ fun _ => true) foundAgain
    (∃ m, (w.store.disk.lookup "t".toList).bind SessionDir.marker = some m ∧ m.uid = "a".toList ∧ 5 ≤ m.version) ∧
      Indexed w.store "t".toList ("a".toList, 5) := by
  refine complete_session_marked ∅ (fun _ => true) foundAgain
    ⟨fun _ => ⟨fun _ _ hi => absurd hi not_mem_nil, fun _ hm => by cases hm⟩, fun _ _ _ _ => rfl, trivial,
      fun _ => ⟨fun thread cause hi => ?_, fun m hm => ?_⟩, trivial, trivial⟩
      "t".toList ("a".toList, 5) (by decide +kernel)
  · have hi : Instr.remove cause "t".toList ∈ Function.update (Function.update (fun _ : Nat => []) 0
        [.validate "a".toList]) 1 [.remove (.sweep "a".toList 7) "t".toList] thread := hi
    simp only [Function.update_apply] at hi
    split_ifs at hi
    · cases mem_singleton.mp hi
      exact Nat.not_lt.mpr (by decide)
    · cases mem_singleton.mp hi
    · cases hi
  · cases hm
    exact le_rfl

/-! ### Sessions that are removed -/

/-- The first attempt fails before the marker is written; the session is listed as incomplete, then
made. -/
def collected : List Event :=
  [.materialize "t".toList ⟨ownerA 5, 1⟩ true true (.failed (some ⟨none⟩)),
    .gc 0 (fun _ => true) inOrder, make (ownerA 5), goOn 0]

/-- The session is stale in a view of version 7; before it is removed, it is released and made again
for version 9. -/
def sweptNewer : List Event :=
  [make (ownerA 5), .sweep 0 "a".toList [] 7 inOrder, .release 1 "a".toList ["t".toList], goOn 1,
    goOn 1, make (ownerA 9), goOn 0]

/-- The session is found complete for version 9 of its owner; its marker says version 5. -/
def sweptFound : List Event :=
  [make (ownerA 5), make (ownerA 9), .sweep 0 "a".toList [] 7 inOrder, goOn 0]

/-- The session belongs to `a` when the release looks, and to `b` when it removes. -/
def releasedOther : List Event :=
  [make (ownerA 5), .release 0 "a".toList ["t".toList], goOn 0, .sweep 1 "a".toList [] maxInt64 inOrder,
    goOn 1, make (ownerB 8), goOn 0]

theorem complete_session_removed : ¬ Along World.step Spares (World.boot ∅ fun _ => true) collected ∧
      ¬ Along World.step Spares (World.boot ∅ fun _ => true) sweptNewer ∧
      ¬ Along World.step Spares (World.boot ∅ fun _ => true) sweptFound ∧
      ¬ Along World.step Spares (World.boot ∅ fun _ => true) releasedOther := by
  refine ⟨fun h => ?_, fun h => ?_, fun h => ?_, fun h => ?_⟩
  · exact h.2.2.2.1 .incomplete "t".toList _ rfl ("a".toList, 5) rfl trivial
  · exact h.2.2.2.2.2.2.1 (.sweep "a".toList 7) "t".toList _ rfl ("a".toList, 9) rfl (show 7 < 9 by decide)
  · exact h.2.2.2.1 (.sweep "a".toList 7) "t".toList _ rfl ("a".toList, 9) rfl (show 7 < 9 by decide)
  · exact h.2.2.2.2.2.2.1 (.release "a".toList) "t".toList _ rfl ("b".toList, 8) rfl
      (show "b".toList ≠ "a".toList by decide)

end VGpuManager.RemoteAgent

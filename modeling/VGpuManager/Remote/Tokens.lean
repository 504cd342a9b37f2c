import Mathlib.Data.List.AList
import VGpuManager.Foundation.Runs
import VGpuManager.Foundation.Text

/-!
# Session tokens on a claim (`remote/inject_driver.go`, `remote/partition.go`)

The nodes that prepare a claim record a session token per partition in its annotations, and the
node that unprepares it for the last time anywhere takes them off. Both read the claim, decide, and
patch it on condition that it is still at the version they read; on a conflict they read it again.

A node releases the tokens only if it finds no live consumer: it looks at the pods the claim is
reserved for, one after the other, and passes over the pods on its own node.
-/

namespace VGpuManager.RemoteTokens

open Foundation List Function

variable {α : Type}

/-! ## Claims -/

structure PodRef where
  name : Text
  uid : Text
  deriving DecidableEq, Repr

/-- An entry of `ReservedFor`: a pod, or a consumer of another kind. -/
inductive Consumer where
  | pod (ref : PodRef)
  | other
  deriving DecidableEq, Repr

/-- What is read of a pod; `terminated` is the phase `Succeeded` or `Failed`. -/
structure Pod where
  uid : Text
  nodeName : Option Text
  terminated : Bool
  deriving DecidableEq, Repr

abbrev Annotations := AList fun _ : Text => Text

/-- A ResourceClaim with an allocation of type `α`. -/
structure ClaimObject (α : Type) where
  uid : Text
  version : Nat
  deleting : Bool
  allocation : Option α
  annotations : Annotations
  reservedFor : List Consumer

def sessionAnnotationPrefix : Text := "manager.nvidia.com/session-".toList

def allocationAnnotationKey : Text := "manager.nvidia.com/allocation-id".toList

def isSessionKey (k : Text) : Bool := sessionAnnotationPrefix.isPrefixOf k

/-- The two digests the program takes, of an allocation and of a partition key. -/
structure Digests (α : Type) where
  allocation : α → Text
  partition : Text → Text

section

variable (D : Digests α) (c : ClaimObject α)

/-- `SessionAnnotationKey`. -/
def sessionAnnotationKey (partitionKey : Text) : Text :=
  sessionAnnotationPrefix ++ D.partition partitionKey

/-- `AllocationID`, empty without an allocation. -/
def allocationId : Text := (c.allocation.map D.allocation).getD []

/-- The value under the key, empty if there is none. -/
def annotationOf (k : Text) : Text := (c.annotations.lookup k).getD []

/-- `ClaimSessionTokens`. -/
def claimSessionTokens (annotations : Annotations) : List Text :=
  (annotations.entries.filter fun e => isSessionKey e.1 && e.2 ≠ []).map fun e => e.2

/-- `ClaimSessions`: the tokens recorded for the present allocation. -/
def claimSessions : List Text :=
  if c.allocation.isSome ∧ annotationOf c allocationAnnotationKey = allocationId D c then
    claimSessionTokens c.annotations
  else []

/-! ## Patches -/

/-- The annotations of a merge patch; `none` removes one. -/
abbrev Patch := List (Text × Option Text)

def patchAnnotations (m : Annotations) (e : Text × Option Text) : Annotations :=
  match e.2 with
  | some v => m.insert e.1 v
  | none => m.erase e.1

def applyPatch (m : Annotations) (p : Patch) : Annotations := p.foldl patchAnnotations m

def ClaimObject.patched (p : Patch) : ClaimObject α :=
  { c with annotations := applyPatch c.annotations p }

def reusable : Bool :=
  annotationOf c allocationAnnotationKey = allocationId D c

/-- The partition has a token that can be used again. -/
def reuses (partitionKey : Text) : Bool :=
  reusable D c && annotationOf c (sessionAnnotationKey D partitionKey) ≠ []

/-- The changes `sessionTokenPatch` makes before it adds the allocation: the tokens of an earlier
allocation are dropped, then the new ones are set. -/
def tokenChanges (partitions : List Text) (mint : Text → Text) : Patch :=
  (if reusable D c then [] else (c.annotations.keys.filter isSessionKey).map fun k => (k, none)) ++
    (partitions.filter fun p => !reuses D c p).map fun p =>
      (sessionAnnotationKey D p, some (mint p))

/-- `sessionTokenPatch`: the tokens of the partitions, and the patch that records them. `mint` are
the tokens that `NewSessionToken` gives. -/
def sessionTokenPatch (partitions : List Text) (mint : Text → Text) : List Text × Patch :=
  (partitions.map fun p =>
      if reuses D c p then annotationOf c (sessionAnnotationKey D p) else mint p,
    if tokenChanges D c partitions mint = [] then []
    else tokenChanges D c partitions mint ++ [(allocationAnnotationKey, some (allocationId D c))])

/-- The patch of `cleanTokens`. -/
def cleanTokensPatch : Patch :=
  (c.annotations.keys.filter fun k => isSessionKey k || k == allocationAnnotationKey).map fun k => (k, none)

end

/-! ## Calls -/

/-- A call of `assignTokens` or `releaseClaim`, between two requests. `assigning`: the claim is read.
`patching`: the patch is on its way. `conflicted`: the patch was refused. `releasing`: the claim is to be read.
`checking`: these consumers are still to be looked at. `cleaning`: the patch is on its way. -/
inductive Worker (α : Type) where
  | idle
  | assigning (pod : PodRef) (copy : ClaimObject α) (partitions : List Text)
  | patching (pod : PodRef) (copy : ClaimObject α) (partitions : List Text) (tokens : List Text) (patch : Patch)
  | conflicted (pod : PodRef) (copy : ClaimObject α) (partitions : List Text)
  | releasing (uid : Text)
  | checking (uid : Text) (copy : ClaimObject α) (refs : List Consumer)
  | cleaning (uid : Text) (copy : ClaimObject α) (patch : Patch)

/-- The pod for which tokens are assigned. -/
def Worker.pod : Worker α → Option PodRef
  | .assigning pod _ _ | .patching pod _ _ _ _ | .conflicted pod _ _ => some pod
  | _ => none

/-- The claim and the pods as the API server has them, and the call under way on each node: the plugin serves one
at a time (`kubeletplugin.Serialize`). For the present allocation, and for pods that have been reserved and live since
and whose node has not unprepared the claim: `begun`, the nodes and pods of the calls that were begun; `tracked`, the
nodes that are at such a call; `handed`, the tokens that were handed out when such calls were complete. -/
structure World (α : Type) where
  revision : Nat
  claim : Option (ClaimObject α)
  pods : Text → Option Pod
  workers : Text → Worker α
  begun : List (Text × PodRef)
  tracked : Text → Bool
  handed : List ((Text × PodRef) × Text)

section

variable (pods : Text → Option Pod)

/-- The pod exists and has not terminated. -/
def live (ref : PodRef) : Bool :=
  (pods ref.name).any fun q => q.uid == ref.uid && !q.terminated

/-- `claimHasLiveConsumers` on one consumer: it is live, unless it is a pod that is gone, has
terminated or is on this node. -/
def keepsClaim (node : Text) : Consumer → Bool
  | .other => true
  | .pod ref =>
    (pods ref.name).any fun q => q.uid == ref.uid && q.nodeName != some node && !q.terminated

/-- The pod is bound to the node. -/
def BoundTo (ref : PodRef) (node : Text) : Prop :=
  ∃ q, pods ref.name = some q ∧ q.uid = ref.uid ∧ q.nodeName = some node

end

/-- `pod`: the pod of that name changes, appears or goes. `update`: another client changes
allocation, reservations or deletion mark of the claim. `delete`, `create`: the object goes and comes.
`prepare`: `NodePrepare` for a pod has read the claim and resolved these partitions. `decide`, `patch`,
`refresh`: the steps of `assignTokens`. `unprepare`, `get`, `look`, `clean`: those of `releaseClaim`.
`abort`: a call fails or is lost. A patch that is not `answered` takes effect and fails. -/
inductive Event (α : Type) where
  | pod (name : Text) (pod : Option Pod)
  | update (allocation : Option α) (reservedFor : List Consumer) (deleting : Bool)
  | delete
  | create (uid : Text) (annotations : Annotations)
  | prepare (node : Text) (pod : PodRef) (partitions : List Text)
  | decide (node : Text) (mint : Text → Text)
  | patch (node : Text) (answered : Bool)
  | refresh (node : Text)
  | unprepare (node : Text) (uid : Text)
  | get (node : Text)
  | look (node : Text)
  | clean (node : Text) (answered : Bool)
  | abort (node : Text)

namespace World

variable (w : World α)

/-- The pod is live and the claim is reserved for it. -/
def uses (ref : PodRef) : Bool :=
  live w.pods ref && w.claim.any fun c => Consumer.pod ref ∈ c.reservedFor

def set (node : Text) (worker : Worker α) : World α :=
  { w with workers := Function.update w.workers node worker }

/-- The claim is written: it gets the next version. -/
def write (c : ClaimObject α) : World α :=
  { w with revision := w.revision + 1, claim := some { c with version := w.revision + 1 } }

/-- The guarantee goes on for these nodes and pods only. -/
def keep (stays : Text × PodRef → Bool) : World α :=
  { w with
    begun := w.begun.filter stays
    tracked := fun node => w.tracked node && (w.workers node).pod.all fun pod => stays (node, pod)
    handed := w.handed.filter fun h => stays h.1 }

/-- A call of `NodePrepare` is complete. -/
def complete (node : Text) (pod : PodRef) (tokens : List Text) : World α :=
  { w.set node .idle with
    handed := (if w.tracked node then tokens.map fun t => ((node, pod), t) else []) ++ w.handed }

/-- Another client changes the claim. No call has been begun for an allocation that is another one. -/
def update [DecidableEq α] (c : ClaimObject α) (allocation : Option α) (reservedFor : List Consumer)
    (deleting : Bool) : World α :=
  (w.keep fun b => decide (allocation = c.allocation) && decide (Consumer.pod b.2 ∈ reservedFor)).write
    { c with allocation, reservedFor, deleting }

/-- The kubelet has the claim unprepared: the last of the node's pods that use it has stopped, whatever the API
server still says of them. -/
def unprepared (node uid : Text) : World α :=
  if w.claim.any fun c => c.uid == uid then w.keep fun b => b.1 != node else w

/-- A patch reaches the API server; it is refused unless the claim is at the version it names. -/
def applied (copy : ClaimObject α) (patch : Patch) : Option (World α) :=
  match w.claim with
  | some c => if copy.version = c.version then some (w.write (c.patched patch)) else none
  | none => none

def step [DecidableEq α] (D : Digests α) : Event α → World α
  | .pod name pod =>
    let pods := Function.update w.pods name pod
    { w.keep (fun b => live pods b.2) with pods }
  | .update allocation reservedFor deleting =>
    match w.claim with
    | some c => w.update c allocation reservedFor deleting
    | none => w
  | .delete => { w.keep (fun _ => false) with claim := none }
  | .create uid annotations =>
    match w.claim with
    | some _ => w
    | none => w.write ⟨uid, 0, false, none, annotations, []⟩
  | .prepare node pod partitions =>
    match w.workers node, w.claim with
    | .idle, some c =>
      if c.allocation.isSome then
        { w.set node (.assigning pod c partitions) with
          begun := (if w.uses pod then [(node, pod)] else []) ++ w.begun
          tracked := Function.update w.tracked node (w.uses pod) }
      else w
    | _, _ => w
  | .decide node mint =>
    match w.workers node with
    | .assigning pod copy partitions =>
      let (tokens, patch) := sessionTokenPatch D copy partitions mint
      if patch = [] then w.complete node pod tokens
      else w.set node (.patching pod copy partitions tokens patch)
    | _ => w
  | .patch node answered =>
    match w.workers node with
    | .patching pod copy partitions tokens patch =>
      match w.claim, w.applied copy patch with
      | _, some w' => if answered then w'.complete node pod tokens else w'.set node .idle
      | some _, none => w.set node (.conflicted pod copy partitions)
      | none, none => w.set node .idle
    | _ => w
  | .refresh node =>
    match w.workers node with
    | .conflicted pod copy partitions =>
      match w.claim with
      | some c =>
        if c.uid = copy.uid then w.set node (.assigning pod c partitions) else w.set node .idle
      | none => w.set node .idle
    | _ => w
  | .unprepare node uid =>
    match w.workers node with
    | .idle => (w.unprepared node uid).set node (.releasing uid)
    | _ => w
  | .get node =>
    match w.workers node with
    | .releasing uid =>
      match w.claim with
      | some c =>
        if c.uid ≠ uid ∨ c.deleting then w.set node .idle
        else w.set node (.checking uid c c.reservedFor)
      | none => w.set node .idle
    | _ => w
  | .look node =>
    match w.workers node with
    | .checking uid copy (ref :: refs) =>
      if keepsClaim w.pods node ref then w.set node .idle
      else w.set node (.checking uid copy refs)
    | .checking uid copy [] =>
      if cleanTokensPatch copy = [] then w.set node .idle
      else w.set node (.cleaning uid copy (cleanTokensPatch copy))
    | _ => w
  | .clean node answered =>
    match w.workers node with
    | .cleaning uid copy patch =>
      match w.claim, w.applied copy patch with
      | _, some w' => w'.set node .idle
      | some _, none => if answered then w.set node (.releasing uid) else w.set node .idle
      | none, none => w.set node .idle
    | _ => w
  | .abort node => w.set node .idle

end World

/-! ## What a patch does to the tokens -/

section Patch

variable {m : Annotations} {k : Text} {v : Option Text} {p : Patch}

theorem lookup_patchAnnotations (e : Text × Option Text) : (patchAnnotations m e).lookup e.1 = e.2 := by
  unfold patchAnnotations
  split
  · next v hv => rw [AList.lookup_insert, hv]
  · next hv => rw [AList.lookup_erase, hv]

theorem lookup_patchAnnotation_ne {e : Text × Option Text} (h : k ≠ e.1) :
    (patchAnnotations m e).lookup k = m.lookup k := by
  unfold patchAnnotations
  split
  · exact AList.lookup_insert_ne h
  · exact AList.lookup_erase_ne h

theorem lookup_applyPatch_of_not_mem (h : k ∉ p.map Prod.fst) : (applyPatch m p).lookup k = m.lookup k := by
  induction p generalizing m with
  | nil => rfl
  | cons e p ih =>
    rw [map_cons, mem_cons, not_or] at h
    exact (ih h.2).trans (lookup_patchAnnotation_ne h.1)

theorem lookup_applyPatch_of_mem (hnodup : (p.map Prod.fst).Nodup) (h : (k, v) ∈ p) :
    (applyPatch m p).lookup k = v := by
  induction p generalizing m with
  | nil => cases h
  | cons e p ih =>
    rw [map_cons, nodup_cons] at hnodup
    rcases mem_cons.mp h with rfl | h
    · exact (lookup_applyPatch_of_not_mem hnodup.1).trans (lookup_patchAnnotations _)
    · exact ih hnodup.2 h

theorem applyPatch_append (q : Patch) : applyPatch m (p ++ q) = applyPatch (applyPatch m p) q :=
  foldl_append

theorem lookup_applyPatch_last (k : Text) (v : Option Text) : (applyPatch m (p ++ [(k, v)])).lookup k = v := by
  rw [applyPatch_append]
  exact lookup_patchAnnotations (k, v)

theorem lookup_applyPatch_last_ne {k' : Text} (h : k ≠ k') :
    (applyPatch m (p ++ [(k', v)])).lookup k = (applyPatch m p).lookup k := by
  rw [applyPatch_append]
  exact lookup_patchAnnotation_ne h

theorem isSessionKey_sessionAnnotationKey (D : Digests α) (partitionKey : Text) :
    isSessionKey (sessionAnnotationKey D partitionKey) = true :=
  isPrefixOf_iff_prefix.mpr (prefix_append _ _)

theorem ne_allocationAnnotationKey (h : isSessionKey k = true) : k ≠ allocationAnnotationKey := by
  rintro rfl
  exact absurd h (by decide)

variable {D : Digests α} {c : ClaimObject α} {T : Text} {partitions : List Text} {mint : Text → Text}

theorem mem_claimSessions : T ∈ claimSessions D c ↔
    (c.allocation.isSome ∧ annotationOf c allocationAnnotationKey = allocationId D c) ∧ T ≠ [] ∧
      ∃ k, isSessionKey k = true ∧ c.annotations.lookup k = some T := by
  unfold claimSessions claimSessionTokens
  split
  · next h =>
    simp only [h, and_self, true_and, mem_map, mem_filter, Bool.and_eq_true,
      decide_eq_true_eq, ne_eq]
    constructor
    · rintro ⟨e, ⟨hmem, hkey, hne⟩, rfl⟩
      exact ⟨hne, e.1, hkey, AList.mem_lookup_iff.mpr hmem⟩
    · intro ⟨hne, k, hkey, hlookup⟩
      exact ⟨⟨k, T⟩, ⟨AList.mem_lookup_iff.mp hlookup, hkey, hne⟩, rfl⟩
  · next h => exact ⟨fun hm => absurd hm not_mem_nil, fun hm => absurd hm.1 h⟩

/-- A token that is recorded is still recorded after the patch of another node. -/
theorem sessionTokenPatch_keeps (hT : T ∈ claimSessions D c) :
    T ∈ claimSessions D (c.patched (sessionTokenPatch D c partitions mint).2) := by
  obtain ⟨⟨halloc, hid⟩, hne, k, hkey, hlookup⟩ := mem_claimSessions.mp hT
  have hreusable : reusable D c = true := by simpa [reusable] using hid
  simp only [sessionTokenPatch]
  split
  · exact hT
  · -- the token's key is neither dropped nor set
    have hk : k ∉ (tokenChanges D c partitions mint).map Prod.fst := by
      simp only [tokenChanges, hreusable, if_true, nil_append, map_map, mem_map,
        mem_filter, not_exists, not_and, comp_apply]
      rintro p ⟨-, hp⟩ rfl
      simp [reuses, hreusable, annotationOf, hlookup, hne] at hp
    refine mem_claimSessions.mpr ⟨⟨halloc, ?_⟩, hne, k, hkey, ?_⟩
    · rw [annotationOf, ClaimObject.patched, lookup_applyPatch_last]
      rfl
    · rw [ClaimObject.patched, lookup_applyPatch_last_ne (ne_allocationAnnotationKey hkey),
        lookup_applyPatch_of_not_mem hk, hlookup]

/-- The tokens the partitions get are recorded after the patch. -/
theorem sessionTokenPatch_records (halloc : c.allocation.isSome)
    (hkeys : (partitions.map (sessionAnnotationKey D)).Nodup) (hmint : ∀ p, mint p ≠ [])
    (hT : T ∈ (sessionTokenPatch D c partitions mint).1) :
    T ∈ claimSessions D (c.patched (sessionTokenPatch D c partitions mint).2) := by
  obtain ⟨p, hp, rfl⟩ := mem_map.mp hT
  have hset : ((partitions.filter fun p => !reuses D c p).map fun p =>
      (sessionAnnotationKey D p, some (mint p))).map Prod.fst =
        (partitions.filter fun p => !reuses D c p).map (sessionAnnotationKey D) := by
    rw [map_map]
    rfl
  have hnodup := hkeys.sublist ((filter_sublist (p := fun p => !reuses D c p)).map _)
  split
  · next hreuse =>
    -- a token that is used again was recorded before
    refine sessionTokenPatch_keeps (mem_claimSessions.mpr ?_)
    simp only [reuses, Bool.and_eq_true, reusable, decide_eq_true_eq] at hreuse
    refine ⟨⟨halloc, hreuse.1⟩, hreuse.2, _, isSessionKey_sessionAnnotationKey D p, ?_⟩
    unfold annotationOf at hreuse ⊢
    cases h : c.annotations.lookup (sessionAnnotationKey D p) with
    | none => exact absurd (by rw [h]; rfl) hreuse.2
    | some v => rfl
  · next hreuse =>
    have hmem : (sessionAnnotationKey D p, some (mint p)) ∈ (partitions.filter fun p => !reuses D c p).map fun p =>
          (sessionAnnotationKey D p, some (mint p)) :=
      mem_map.mpr ⟨p, mem_filter.mpr ⟨hp, by simpa using hreuse⟩, rfl⟩
    have hchanges : tokenChanges D c partitions mint ≠ [] := by
      exact append_ne_nil_of_right_ne_nil _ (ne_nil_of_mem hmem)
    simp only [sessionTokenPatch, if_neg hchanges]
    refine mem_claimSessions.mpr ⟨⟨halloc, ?_⟩, hmint p, _, isSessionKey_sessionAnnotationKey D p, ?_⟩
    · rw [annotationOf, ClaimObject.patched, lookup_applyPatch_last]
      rfl
    · rw [ClaimObject.patched, lookup_applyPatch_last_ne
        (ne_allocationAnnotationKey (isSessionKey_sessionAnnotationKey D p)), tokenChanges,
        applyPatch_append]
      exact lookup_applyPatch_of_mem (by rw [hset]; exact hnodup) hmem

end Patch

/-! ## What Kubernetes guarantees -/

/-- A pod stays on the node it is bound to, and a pod for which the claim is reserved does not come
to life. A kubelet prepares claims for the pods of its node. The partitions of a call have different
annotations, and a token is not empty. -/
def Proper (D : Digests α) (w : World α) : Event α → Prop
  | .pod name pod =>
    (∀ ref, w.uses ref = true → ∀ node, BoundTo w.pods ref node → live (Function.update w.pods name pod) ref = true →
        BoundTo (Function.update w.pods name pod) ref node) ∧
    ∀ c, w.claim = some c → ∀ ref, Consumer.pod ref ∈ c.reservedFor →
      live (Function.update w.pods name pod) ref = true → live w.pods ref = true
  | .prepare node pod partitions =>
    (w.uses pod = true → BoundTo w.pods pod node) ∧ (partitions.map (sessionAnnotationKey D)).Nodup
  | .decide _ mint => ∀ p, mint p ≠ []
  | _ => True

/-! ## The invariant -/

def Worker.copy : Worker α → Option (ClaimObject α)
  | .assigning _ copy _ | .patching _ copy _ _ _ | .conflicted _ copy _ | .checking _ copy _ | .cleaning _ copy _ =>
    some copy
  | .idle | .releasing _ => none

/-- The call is one of `releaseClaim`. -/
def Worker.releases : Worker α → Prop
  | .releasing _ | .checking _ _ _ | .cleaning _ _ _ => True
  | _ => False

section Invariant

variable (D : Digests α) (w : World α) (node : Text)

/-- A tracked call has a copy of the claim whose tokens are still recorded. -/
def Tracks (pod : PodRef) (copy : ClaimObject α) : Prop :=
  w.tracked node = true → (node, pod) ∈ w.begun ∧ copy.allocation.isSome ∧
    ∀ c, w.claim = some c → claimSessions D copy ⊆ claimSessions D c

/-- The node has nothing begun for the claim with that UID. -/
def Released (uid : Text) : Prop := ∀ c, w.claim = some c → c.uid = uid → ∀ ref, (node, ref) ∉ w.begun

/-- What holds of a call under way. A node that releases the claim has nothing begun for it; if its copy is the
present claim, the pods in use it has passed over are pods of its own. -/
def WorkerOk : Worker α → Prop
  | .idle => True
  | .assigning pod copy partitions =>
    (partitions.map (sessionAnnotationKey D)).Nodup ∧ Tracks D w node pod copy
  | .patching pod copy partitions tokens patch =>
    (partitions.map (sessionAnnotationKey D)).Nodup ∧ Tracks D w node pod copy ∧
      ∃ mint, (∀ p, mint p ≠ []) ∧ (tokens, patch) = sessionTokenPatch D copy partitions mint
  | .conflicted pod _ partitions =>
    (partitions.map (sessionAnnotationKey D)).Nodup ∧ (w.tracked node = true → (node, pod) ∈ w.begun)
  | .releasing uid => Released w node uid
  | .checking uid copy refs =>
    Released w node uid ∧ copy.uid = uid ∧ ∀ c, w.claim = some c → copy.version = c.version →
      ∀ ref, w.uses ref = true → Consumer.pod ref ∈ refs ∨ BoundTo w.pods ref node
  | .cleaning uid copy _ =>
    Released w node uid ∧ copy.uid = uid ∧ ∀ c, w.claim = some c → copy.version = c.version →
      ∀ ref, w.uses ref = true → BoundTo w.pods ref node

structure Inv : Prop where
  current : ∀ c, w.claim = some c → c.version ≤ w.revision
  copies : ∀ node copy, (w.workers node).copy = some copy → copy.version ≤ w.revision ∧
    ∀ c, w.claim = some c → copy.version = c.version → copy = c
  begun : ∀ b ∈ w.begun, w.uses b.2 = true ∧ BoundTo w.pods b.2 b.1 ∧ ∀ c, w.claim = some c → c.allocation.isSome
  handed : ∀ h ∈ w.handed, h.1 ∈ w.begun ∧ ∀ c, w.claim = some c → h.2 ∈ claimSessions D c
  workers : ∀ node, WorkerOk D w node (w.workers node)

/-- The world moves on without the calls: the claim stays and no pod comes into use, or the claim is
newer than every copy; and as long as a call is begun, the claim stays the same object and no token is taken off. -/
structure Move (w' : World α) : Prop where
  workers : w'.workers = w.workers
  revision : w.revision ≤ w'.revision
  claim : w'.claim = w.claim ∧ (∀ ref, w'.uses ref = true → w.uses ref = true) ∨
    ∀ c', w'.claim = some c' → w.revision < c'.version
  begun : ∀ b ∈ w'.begun, b ∈ w.begun
  tracked : ∀ node, w'.tracked node = true → w.tracked node = true ∧
    ∀ pod, (w.workers node).pod = some pod → (node, pod) ∈ w.begun → (node, pod) ∈ w'.begun
  bound : ∀ ref, w'.uses ref = true → w.uses ref = true → ∀ node, BoundTo w.pods ref node → BoundTo w'.pods ref node
  sessions : ∀ b ∈ w'.begun, ∀ c', w'.claim = some c' →
    ∃ c, w.claim = some c ∧ c.uid = c'.uid ∧ claimSessions D c ⊆ claimSessions D c'

variable {D w node} {w' : World α} {copy c : ClaimObject α} {uid : Text} {pod : PodRef} {partitions : List Text}
  {patch : Patch}

theorem uses_iff {ref : PodRef} : w.uses ref = true ↔
    live w.pods ref = true ∧ ∃ c, w.claim = some c ∧ Consumer.pod ref ∈ c.reservedFor := by
  unfold World.uses
  rw [Bool.and_eq_true, Option.any_eq_true]
  simp

/-- What holds of a call goes on to hold if its pod stays begun while it is tracked, nothing is begun on a node that
releases, the claim and its tokens stay, and what is still the present claim is in use as before. -/
theorem WorkerOk.mono {x : Worker α} (h : WorkerOk D w node x)
    (htracked : w'.tracked node = true → ∀ pod, x.pod = some pod → w.tracked node = true ∧
      ((node, pod) ∈ w.begun → (node, pod) ∈ w'.begun)) (hsessions : ∀ b ∈ w'.begun, ∀ c', w'.claim = some c' →
      ∃ c, w.claim = some c ∧ c.uid = c'.uid ∧ claimSessions D c ⊆ claimSessions D c')
    (hreleases : x.releases → ∀ ref, (node, ref) ∈ w'.begun → (node, ref) ∈ w.begun)
    (hsame : ∀ copy c', x.copy = some copy → w'.claim = some c' → copy.version = c'.version → w.claim = some c' ∧
      ∀ ref, w'.uses ref = true → w.uses ref = true ∧ ∀ node, BoundTo w.pods ref node → BoundTo w'.pods ref node) :
    WorkerOk D w' node x := by
  have htracks {pod copy} (hpod : x.pod = some pod) (h : Tracks D w node pod copy) : Tracks D w' node pod copy := by
    intro ht
    obtain ⟨ht, hbegun⟩ := htracked ht pod hpod
    obtain ⟨hmem, halloc, hsub⟩ := h ht
    refine ⟨hbegun hmem, halloc, fun c' hc' => ?_⟩
    obtain ⟨c, hc, -, hcc'⟩ := hsessions _ (hbegun hmem) c' hc'
    exact fun x hx => hcc' (hsub c hc hx)
  have hreleased {uid} (hx : x.releases) (h : Released w node uid) : Released w' node uid := by
    intro c' hc' huid ref hmem
    obtain ⟨c, hc, hsame, -⟩ := hsessions _ hmem c' hc'
    exact h c hc (hsame.trans huid) ref (hreleases hx ref hmem)
  cases x with
  | idle => trivial
  | assigning pod copy partitions => exact ⟨h.1, htracks rfl h.2⟩
  | patching pod copy partitions tokens patch => exact ⟨h.1, htracks rfl h.2.1, h.2.2⟩
  | conflicted pod copy partitions =>
    refine ⟨h.1, fun ht => ?_⟩
    obtain ⟨ht, hbegun⟩ := htracked ht pod rfl
    exact hbegun (h.2 ht)
  | releasing uid => exact hreleased trivial h
  | checking uid copy refs =>
    refine ⟨hreleased trivial h.1, h.2.1, fun c' hc' hversion ref href => ?_⟩
    obtain ⟨hc, huses⟩ := hsame copy c' rfl hc' hversion
    exact (h.2.2 c' hc hversion ref (huses ref href).1).imp id ((huses ref href).2 node)
  | cleaning uid copy patch =>
    refine ⟨hreleased trivial h.1, h.2.1, fun c' hc' hversion ref href => ?_⟩
    obtain ⟨hc, huses⟩ := hsame copy c' rfl hc' hversion
    exact (huses ref href).2 node (h.2.2 c' hc hversion ref (huses ref href).1)

/-- A copy that is the present claim after a move was so before, and no pod has come into use. -/
theorem Move.same (hm : Move D w w') {c' : ClaimObject α} (hcopy : copy.version ≤ w.revision)
    (hc' : w'.claim = some c') (hversion : copy.version = c'.version) :
    w.claim = some c' ∧ ∀ ref, w'.uses ref = true → w.uses ref = true := by
  rcases hm.claim with ⟨heq, huses⟩ | hnew
  · exact ⟨heq ▸ hc', huses⟩
  · exact absurd (hnew c' hc') (by omega)

theorem WorkerOk.move (hi : Inv D w) (hm : Move D w w') (node : Text) : WorkerOk D w' node (w'.workers node) := by
  rw [hm.workers]
  refine (hi.workers node).mono (fun ht pod hpod => ?_) hm.sessions (fun _ ref hmem => hm.begun _ hmem)
    fun copy c' hcopy hc' hversion => ?_
  · obtain ⟨ht, hbegun⟩ := hm.tracked node ht
    exact ⟨ht, hbegun pod hpod⟩
  · obtain ⟨hc, huses⟩ := hm.same (hi.copies node copy hcopy).1 hc' hversion
    exact ⟨hc, fun ref href => ⟨huses ref href, hm.bound ref href (huses ref href)⟩⟩

theorem Inv.move (h : Inv D w) (hm : Move D w w') (hcurrent : ∀ c, w'.claim = some c → c.version ≤ w'.revision)
    (hbegun : ∀ b ∈ w'.begun, w'.uses b.2 = true ∧ ∀ c, w'.claim = some c → c.allocation.isSome)
    (hhanded : ∀ x ∈ w'.handed, x ∈ w.handed ∧ (x.1 ∈ w.begun → x.1 ∈ w'.begun)) : Inv D w' where
  current := hcurrent
  copies node copy hcopy := by
    rw [hm.workers] at hcopy
    obtain ⟨hle, hsame⟩ := h.copies node copy hcopy
    refine ⟨le_trans hle hm.revision, fun c' hc' hversion => ?_⟩
    exact hsame c' (hm.same hle hc' hversion).1 hversion
  begun b hb := by
    obtain ⟨hold, hbound, -⟩ := h.begun b (hm.begun b hb)
    exact ⟨(hbegun b hb).1, hm.bound b.2 (hbegun b hb).1 hold b.1 hbound, (hbegun b hb).2⟩
  handed x hx := by
    obtain ⟨hx, hkept⟩ := hhanded x hx
    obtain ⟨hmem, hrec⟩ := h.handed x hx
    refine ⟨hkept hmem, fun c' hc' => ?_⟩
    obtain ⟨c, hc, -, hsub⟩ := hm.sessions _ (hkept hmem) c' hc'
    exact hsub (hrec c hc)
  workers := WorkerOk.move h hm

/-- One call goes on: the new state of it has to be right, and its copy the old one or the present
claim. -/
theorem Inv.set (h : Inv D w) {x : Worker α} (hok : WorkerOk D w node x)
    (hcopy : ∀ copy, x.copy = some copy → (w.workers node).copy = some copy ∨ w.claim = some copy) :
    Inv D (w.set node x) where
  current := h.current
  copies := by
    refine (forall_update_iff w.workers fun _ y => ∀ copy, y.copy = some copy →
      copy.version ≤ w.revision ∧ ∀ c, w.claim = some c → copy.version = c.version → copy = c).mpr
      ⟨fun copy hx => ?_, fun other _ => h.copies other⟩
    rcases hcopy copy hx with hold | hnow
    · exact h.copies node copy hold
    · exact ⟨h.current copy hnow, fun c hc _ => Option.some.inj (hnow.symm.trans hc)⟩
  begun := h.begun
  handed := h.handed
  workers := (forall_update_iff w.workers (WorkerOk D w)).mpr ⟨hok, fun other _ => h.workers other⟩

theorem Inv.idle (h : Inv D w) (node : Text) : Inv D (w.set node .idle) :=
  h.set trivial nofun

/-- A call of `NodePrepare` is complete; a tracked one has tokens that are recorded. -/
theorem Inv.complete (h : Inv D w) {tokens : List Text} (htokens : w.tracked node = true → (node, pod) ∈ w.begun ∧
      ∀ c, w.claim = some c → tokens ⊆ claimSessions D c) : Inv D (w.complete node pod tokens) := by
  refine { h.idle node with handed := fun x hx => ?_, workers := fun other => (h.idle node).workers other }
  rcases mem_append.mp hx with hx | hx
  · split at hx
    · next htracked =>
      obtain ⟨T, hT, rfl⟩ := mem_map.mp hx
      exact ⟨(htokens htracked).1, fun c hc => (htokens htracked).2 c hc hT⟩
    · cases hx
  · exact h.handed x hx

/-! ### The events of other clients -/

/-- Pods go out of use, or their node has unprepared the claim, while the claim stays as it is. -/
theorem inv_keep (h : Inv D w) (stays : Text × PodRef → Bool) (pods : Text → Option Pod)
    (huses : ∀ ref, { w with pods }.uses ref = true → w.uses ref = true)
    (hbound : ∀ ref, { w with pods }.uses ref = true → ∀ node, BoundTo w.pods ref node → BoundTo pods ref node)
    (hstays : ∀ b ∈ w.begun, stays b = true → { w with pods }.uses b.2 = true) : Inv D { w.keep stays with pods } := by
  have hmove : Move D w { w.keep stays with pods } :=
    { workers := rfl
      revision := le_rfl
      claim := .inl ⟨rfl, huses⟩
      begun := fun _ hb => (mem_filter.mp hb).1
      tracked := fun node hi => by
        obtain ⟨htracked, hall⟩ := Bool.and_eq_true_iff.mp hi
        refine ⟨htracked, fun pod hpod hmem => mem_filter.mpr ⟨hmem, ?_⟩⟩
        rw [hpod] at hall
        exact hall
      bound := fun ref href _ node hb => hbound ref href node hb
      sessions := fun b hb c hc => ⟨c, hc, rfl, fun _ hT => hT⟩ }
  refine h.move hmove h.current (fun b hb => ?_) fun x hx => ?_
  · obtain ⟨hb, hstay⟩ := mem_filter.mp hb
    exact ⟨hstays b hb hstay, (h.begun b hb).2.2⟩
  · obtain ⟨hx, hstay⟩ := mem_filter.mp hx
    exact ⟨hx, fun hmem => mem_filter.mpr ⟨hmem, hstay⟩⟩

theorem inv_pod (h : Inv D w) {name : Text} {pod : Option Pod} (hproper : Proper D w (.pod name pod)) :
    Inv D { w.keep (fun b => live (Function.update w.pods name pod) b.2) with
      pods := Function.update w.pods name pod } := by
  obtain ⟨hbound, hdead⟩ := hproper
  have huses (ref) (href : { w with pods := Function.update w.pods name pod }.uses ref = true) :
      w.uses ref = true := by
    obtain ⟨hlive, c, hc, hres⟩ := uses_iff.mp href
    exact uses_iff.mpr ⟨hdead c hc ref hres hlive, c, hc, hres⟩
  refine inv_keep h _ _ huses (fun ref href node hb => ?_) fun b hb hlive => ?_
  · exact hbound ref (huses ref href) node hb (uses_iff.mp href).1
  · exact uses_iff.mpr ⟨hlive, (uses_iff.mp (h.begun b hb).1).2⟩

/-- The node unprepares the claim: it has nothing begun any more. -/
theorem inv_unprepare (h : Inv D w) (node uid : Text) : Inv D ((w.unprepared node uid).set node (.releasing uid)) := by
  have hkept : Inv D (w.unprepared node uid) := by
    unfold World.unprepared
    split
    · exact inv_keep h _ w.pods (fun _ href => href) (fun _ _ _ hb => hb) fun b hb _ => (h.begun b hb).1
    · exact h
  refine hkept.set (fun c hc huid ref hmem => ?_) nofun
  unfold World.unprepared at hc hmem
  split at hc
  · next hthis =>
    rw [if_pos hthis] at hmem
    simpa using (mem_filter.mp hmem).2
  · next hother =>
    rw [hc, Option.any_some, huid] at hother
    simp at hother

section

variable (h : Inv D w)

include h

theorem inv_delete : Inv D { w.keep (fun _ => false) with claim := none } := by
  have hnone {β : Type} {l : List β} {x : β} : x ∉ l.filter fun _ => false := by
    rw [filter_false]
    exact not_mem_nil
  refine h.move ?_ (nofun) (fun b hb => absurd hb hnone) (fun x hx => absurd hx hnone)
  exact {
    workers := rfl
    revision := le_rfl
    claim := .inr nofun
    begun := fun b hb => absurd hb hnone
    tracked := fun node hi => by
      obtain ⟨htracked, hall⟩ := Bool.and_eq_true_iff.mp hi
      refine ⟨htracked, fun pod hpod _ => ?_⟩
      rw [hpod] at hall
      cases hall
    bound := fun _ _ _ _ hb => hb
    sessions := fun b hb => absurd hb hnone }

/-- The claim is written by someone who keeps, for what is begun, the object, the reservation, the allocation and the
tokens. -/
theorem inv_write {c' : ClaimObject α}
    (hkept : ∀ c, w.claim = some c → ∀ b ∈ w.begun, Consumer.pod b.2 ∈ c.reservedFor → c.allocation.isSome →
      Consumer.pod b.2 ∈ c'.reservedFor ∧ c'.allocation.isSome ∧ c.uid = c'.uid ∧
        claimSessions D c ⊆ claimSessions D c') : Inv D (w.write c') := by
  have hclaim (c) (hc : (w.write c').claim = some c) : c = { c' with version := w.revision + 1 } :=
    (Option.some.inj hc).symm
  have hbegun (b) (hb : b ∈ w.begun) : live w.pods b.2 = true ∧ ∃ c, w.claim = some c ∧
      Consumer.pod b.2 ∈ c'.reservedFor ∧ c'.allocation.isSome ∧ c.uid = c'.uid ∧
        claimSessions D c ⊆ claimSessions D c' := by
    obtain ⟨huses, -, halloc⟩ := h.begun b hb
    obtain ⟨hlive, c, hc, hres⟩ := uses_iff.mp huses
    exact ⟨hlive, c, hc, hkept c hc b hb hres (halloc c hc)⟩
  refine h.move ?_ (fun c hc => ?_) (fun b hb => ?_) (fun x hx => ⟨hx, id⟩)
  · exact {
      workers := rfl
      revision := Nat.le_succ _
      claim := .inr fun c hc => by
        rw [hclaim c hc]
        exact Nat.lt_succ_self _
      begun := fun b hb => hb
      tracked := fun node hi => ⟨hi, fun _ _ hm => hm⟩
      bound := fun _ _ _ _ hb => hb
      sessions := fun b hb c hc => by
        obtain ⟨-, c₀, hc₀, -, -, huid, hsub⟩ := hbegun b hb
        rw [hclaim c hc]
        exact ⟨c₀, hc₀, huid, hsub⟩ }
  · rw [hclaim c hc]
    exact le_rfl
  · obtain ⟨hlive, -, -, hres, halloc, -⟩ := hbegun b hb
    refine ⟨uses_iff.mpr ⟨hlive, _, rfl, hres⟩, fun c hc => ?_⟩
    rw [hclaim c hc]
    exact halloc

theorem inv_create (hnone : w.claim = none) : Inv D (w.write c) :=
  inv_write h fun c' hc' => by rw [hnone] at hc'; cases hc'

/-- A patch changes annotations only. -/
theorem inv_patched (hclaim : w.claim = some copy)
    (hsub : ∀ b ∈ w.begun, claimSessions D copy ⊆ claimSessions D (copy.patched patch)) :
    Inv D (w.write (copy.patched patch)) := by
  refine inv_write h fun c hc b hb hres halloc => ?_
  cases hclaim.symm.trans hc
  exact ⟨hres, halloc, rfl, hsub b hb⟩

theorem inv_update [DecidableEq α] {allocation : Option α} {reservedFor : List Consumer} {deleting : Bool}
    (hclaim : w.claim = some c) : Inv D (w.update c allocation reservedFor deleting) := by
  have hkept := inv_keep h (fun b => decide (allocation = c.allocation) &&
    decide (Consumer.pod b.2 ∈ reservedFor)) w.pods (fun _ href => href) (fun _ _ _ hb => hb)
    fun b hb _ => (h.begun b hb).1
  refine inv_write hkept fun c' hc' b hb _ halloc => ?_
  cases hclaim.symm.trans hc'
  have hstays := (mem_filter.mp hb).2
  rw [Bool.and_eq_true, decide_eq_true_iff, decide_eq_true_iff] at hstays
  obtain ⟨rfl, hres⟩ := hstays
  exact ⟨hres, halloc, rfl, fun _ hT => hT⟩

/-! ### The calls -/

theorem Inv.at {x : Worker α} (hw : w.workers node = x) : WorkerOk D w node x :=
  hw ▸ h.workers node

/-- A call is begun on a node that is not at one. -/
theorem inv_begin (hidle : w.workers node = .idle) (hclaim : w.claim = some c) (halloc : c.allocation.isSome)
    (hbound : w.uses pod = true → BoundTo w.pods pod node) :
    Inv D { w with
      begun := (if w.uses pod then [(node, pod)] else []) ++ w.begun
      tracked := Function.update w.tracked node (w.uses pod) } := by
  have hnew (b : Text × PodRef) (hb : b ∈ (if w.uses pod then [(node, pod)] else []) ++ w.begun) :
      b = (node, pod) ∧ w.uses pod = true ∨ b ∈ w.begun := by
    rcases mem_append.mp hb with hb | hb
    · split at hb
      · next huses => exact .inl ⟨mem_singleton.mp hb, huses⟩
      · cases hb
    · exact .inr hb
  refine { h with
    begun := fun b hb => ?_
    handed := fun x hx => ⟨mem_append_right _ (h.handed x hx).1, (h.handed x hx).2⟩
    workers := fun other => ?_ }
  · rcases hnew b hb with ⟨rfl, huses⟩ | hb
    · refine ⟨huses, hbound huses, fun c' hc' => ?_⟩
      cases hclaim.symm.trans hc'
      exact halloc
    · exact h.begun b hb
  · -- the calls of the other nodes
    rcases eq_or_ne other node with rfl | hne
    · show WorkerOk D _ other (w.workers other)
      rw [hidle]
      trivial
    refine (h.workers other).mono (fun htracked pod' _ => ⟨?_, mem_append_right _⟩)
      (fun _ _ c' hc' => ⟨c', hc', rfl, fun _ hT => hT⟩)
      (fun _ ref hb => ?_) fun copy c' _ hc' _ => ⟨hc', fun ref href => ⟨href, fun _ hb => hb⟩⟩
    · exact (update_of_ne hne _ _).symm.trans htracked
    · rcases hnew _ hb with ⟨heq, -⟩ | hb
      · exact absurd (Prod.mk.inj heq).1 hne
      · exact hb

/-- `NodePrepare` begins: the claim is allocated and the pod is on the node. -/
theorem inv_prepare (hidle : w.workers node = .idle) (hclaim : w.claim = some c)
    (halloc : c.allocation.isSome) (hbound : w.uses pod = true → BoundTo w.pods pod node)
    (hkeys : (partitions.map (sessionAnnotationKey D)).Nodup) :
    Inv D { w.set node (.assigning pod c partitions) with
      begun := (if w.uses pod then [(node, pod)] else []) ++ w.begun
      tracked := Function.update w.tracked node (w.uses pod) } := by
  refine (inv_begin h hidle hclaim halloc hbound).set
    ⟨hkeys, fun htracked => ?_⟩
    fun copy hcopy => .inr (hclaim.trans hcopy)
  have htracked : update w.tracked node (w.uses pod) node = true := htracked
  rw [update_self] at htracked
  refine ⟨?_, halloc, fun c' hc' => ?_⟩
  · show (node, pod) ∈ (if w.uses pod then [(node, pod)] else []) ++ w.begun
    rw [if_pos htracked]
    exact .head _
  · cases hclaim.symm.trans hc'
    exact fun _ hT => hT

theorem inv_decide {mint : Text → Text} (hmint : ∀ p, mint p ≠ [])
    (hw : w.workers node = .assigning pod copy partitions) :
    Inv D (if (sessionTokenPatch D copy partitions mint).2 = [] then
        w.complete node pod (sessionTokenPatch D copy partitions mint).1
      else w.set node (.patching pod copy partitions (sessionTokenPatch D copy partitions mint).1
        (sessionTokenPatch D copy partitions mint).2)) := by
  obtain ⟨hkeys, htracks⟩ := h.at hw
  split
  · next hpatch =>
    -- every token is used again: it is recorded in the copy, so it is in the claim
    refine h.complete fun htracked => ?_
    obtain ⟨hbegun, halloc, hsub⟩ := htracks htracked
    refine ⟨hbegun, fun c hc T hT => hsub c hc ?_⟩
    have hrec := sessionTokenPatch_records halloc hkeys hmint hT
    rwa [hpatch] at hrec
  · exact h.set ⟨hkeys, htracks, mint, hmint, rfl⟩ fun copy' hcopy => .inl (by rw [hw]; exact hcopy)

/-- A patch that is applied finds the claim as it was read. -/
theorem applied_eq (hcopy : (w.workers node).copy = some copy) (happlied : w.applied copy patch = some w') :
    w.claim = some copy ∧ w' = w.write (copy.patched patch) := by
  unfold World.applied at happlied
  split at happlied
  · next c hc =>
    split at happlied
    · next hversion =>
      obtain rfl := (h.copies node copy hcopy).2 c hc hversion
      exact ⟨hc, (Option.some.inj happlied).symm⟩
    · cases happlied
  · cases happlied

theorem inv_patch {tokens : List Text} (answered : Bool)
    (hw : w.workers node = .patching pod copy partitions tokens patch) (happlied : w.applied copy patch = some w') :
    Inv D (if answered then w'.complete node pod tokens else w'.set node .idle) := by
  obtain ⟨hclaim, rfl⟩ := applied_eq h (by rw [hw]; rfl) happlied
  obtain ⟨hkeys, htracks, mint, hmint, hpatch⟩ := h.at hw
  cases hpatch
  have hwritten : Inv D (w.write (copy.patched (sessionTokenPatch D copy partitions mint).2)) :=
    inv_patched h hclaim fun _ _ T hT => sessionTokenPatch_keeps hT
  split
  · refine hwritten.complete fun htracked => ?_
    obtain ⟨hbegun, halloc, -⟩ := htracks htracked
    refine ⟨hbegun, fun c hc T hT => ?_⟩
    rw [← Option.some.inj hc]
    exact sessionTokenPatch_records halloc hkeys hmint hT
  · exact hwritten.idle node

theorem inv_refresh (hw : w.workers node = .conflicted pod copy partitions)
    (hclaim : w.claim = some c) : Inv D (w.set node (.assigning pod c partitions)) := by
  obtain ⟨hkeys, hbegun⟩ := h.at hw
  refine h.set ⟨hkeys, fun htracked => ⟨hbegun htracked, ?_, fun c' hc' => ?_⟩⟩
    fun copy' hcopy => .inr (hclaim.trans hcopy)
  · exact (h.begun _ (hbegun htracked)).2.2 c hclaim
  · cases hclaim.symm.trans hc'
    exact fun _ hT => hT

end

/-- `claimHasLiveConsumers` goes past a consumer only if it is not live or is on the node. -/
theorem keepsClaim_eq_false {ref : PodRef} (hlive : live w.pods ref = true)
    (hpast : keepsClaim w.pods node (.pod ref) = false) : BoundTo w.pods ref node := by
  unfold live at hlive
  rw [keepsClaim] at hpast
  cases hq : w.pods ref.name with
  | none => rw [hq] at hlive; cases hlive
  | some q =>
    rw [hq, Option.any_some] at hlive hpast
    rw [Bool.and_eq_true, beq_iff_eq] at hlive
    refine ⟨q, hq, hlive.1, ?_⟩
    simpa [hlive.1, hlive.2] using hpast

theorem inv_get (h : Inv D w) (hw : w.workers node = .releasing uid) (hclaim : w.claim = some c) (huid : c.uid = uid) :
    Inv D (w.set node (.checking uid c c.reservedFor)) := by
  have hnone : Released w node uid := h.at hw
  refine h.set ⟨hnone, huid, fun c' hc' _ ref href => .inl ?_⟩ fun copy' hcopy => .inr (hclaim.trans hcopy)
  obtain ⟨-, c', hc', hmem⟩ := uses_iff.mp href
  cases hclaim.symm.trans hc'
  exact hmem

theorem inv_look (h : Inv D w) {x : Consumer} {refs : List Consumer}
    (hw : w.workers node = .checking uid copy (x :: refs)) (hpast : keepsClaim w.pods node x = false) :
    Inv D (w.set node (.checking uid copy refs)) := by
  obtain ⟨hnone, huid, hleft⟩ := h.at hw
  refine h.set ⟨hnone, huid, fun c hc hversion ref href => ?_⟩ fun copy' hcopy => .inl (by rw [hw]; exact hcopy)
  rcases hleft c hc hversion ref href with hmem | hbound
  · rcases mem_cons.mp hmem with rfl | hmem
    · exact .inr (keepsClaim_eq_false (uses_iff.mp href).1 hpast)
    · exact .inl hmem
  · exact .inr hbound

theorem inv_looked (h : Inv D w) (hw : w.workers node = .checking uid copy []) :
    Inv D (w.set node (.cleaning uid copy patch)) := by
  obtain ⟨hnone, huid, hleft⟩ := h.at hw
  refine h.set ⟨hnone, huid, fun c hc hversion ref href => ?_⟩ fun copy' hcopy => .inl (by rw [hw]; exact hcopy)
  exact (hleft c hc hversion ref href).resolve_left not_mem_nil

/-- The tokens are taken off only when no call is begun: every pod in use is on the node that
releases, and that node has nothing begun. -/
theorem inv_clean (h : Inv D w) (hw : w.workers node = .cleaning uid copy patch)
    (happlied : w.applied copy patch = some w') : Inv D (w'.set node .idle) := by
  obtain ⟨hclaim, rfl⟩ := applied_eq h (by rw [hw]; rfl) happlied
  obtain ⟨hnone, huid, hbound⟩ := h.at hw
  have hbegun (b) (hb : b ∈ w.begun) : False := by
    obtain ⟨huses, ⟨q, hq, -, hnode⟩, -⟩ := h.begun b hb
    obtain ⟨q', hq', -, hnode'⟩ := hbound copy hclaim rfl b.2 huses
    cases hq.symm.trans hq'
    have heq : b.1 = node := Option.some.inj (hnode.symm.trans hnode')
    exact hnone copy hclaim huid b.2 (heq ▸ hb)
  exact (inv_patched h hclaim fun b hb => (hbegun b hb).elim).idle node

/-! ## Every run -/

section Run

variable [DecidableEq α]

theorem inv_step (h : Inv D w) {e : Event α} (hproper : Proper D w e) : Inv D (w.step D e) := by
  cases e with
  | pod name pod => exact inv_pod h hproper
  | update allocation reservedFor deleting =>
    simp only [World.step]
    split
    · next c hc => exact inv_update h hc
    · exact h
  | delete => exact inv_delete h
  | create uid annotations =>
    simp only [World.step]
    split
    · exact h
    · next hnone => exact inv_create h hnone
  | prepare node pod partitions =>
    simp only [World.step]
    split
    · next c hidle hc =>
      split
      · next halloc => exact inv_prepare h hidle hc halloc hproper.1 hproper.2
      · exact h
    · exact h
  | decide node mint =>
    simp only [World.step]
    split
    · next pod copy partitions hw => exact inv_decide h hproper hw
    · exact h
  | patch node answered =>
    simp only [World.step]
    split
    · next pod copy partitions tokens patch hw =>
      split
      · next w' happlied => exact inv_patch h answered hw happlied
      · obtain ⟨hkeys, htracks, -⟩ := h.at hw
        exact h.set ⟨hkeys, fun htracked => (htracks htracked).1⟩ fun _ hcopy => .inl (by rw [hw]; exact hcopy)
      · exact h.idle node
    · exact h
  | refresh node =>
    simp only [World.step]
    split
    · next pod copy partitions hw =>
      split
      · next c hc =>
        split
        · exact inv_refresh h hw hc
        · exact h.idle node
      · exact h.idle node
    · exact h
  | unprepare node uid =>
    simp only [World.step]
    split
    · exact inv_unprepare h node uid
    · exact h
  | get node =>
    simp only [World.step]
    split
    · next uid hw =>
      split
      · next c hc =>
        split
        · exact h.idle node
        · next hthis => exact inv_get h hw hc (not_not.mp fun hne => hthis (.inl hne))
      · exact h.idle node
    · exact h
  | look node =>
    simp only [World.step]
    split
    · next uid copy x refs hw =>
      split
      · exact h.idle node
      · next hpast => exact inv_look h hw (by simpa using hpast)
    · next uid copy hw =>
      split
      · exact h.idle node
      · exact inv_looked h hw
    · exact h
  | clean node answered =>
    simp only [World.step]
    split
    · next uid copy patch hw =>
      split
      · next w' happlied => exact inv_clean h hw happlied
      · split
        · exact h.set (h.at hw).1 nofun
        · exact h.idle node
      · exact h.idle node
    · exact h
  | abort node => exact h.idle node

end Run

end Invariant

/-- The claim as it stands and the pods there are; no call is under way and none has been made. -/
def World.initial (claim : Option (ClaimObject α)) (pods : Text → Option Pod) : World α where
  revision := (claim.map ClaimObject.version).getD 0
  claim := claim
  pods := pods
  workers := fun _ => .idle
  begun := []
  tracked := fun _ => false
  handed := []

/-- The world after these events. -/
def World.after [DecidableEq α] (D : Digests α) (w : World α) (es : List (Event α)) : World α :=
  run (fun w e => World.step w D e) w es

/-- Every event of the run is proper when it comes. -/
def ProperRun [DecidableEq α] (D : Digests α) (w : World α) (es : List (Event α)) : Prop :=
  Along (fun w e => World.step w D e) (Proper D) w es

theorem Inv.initial (D : Digests α) (claim : Option (ClaimObject α)) (pods : Text → Option Pod) :
    Inv D (World.initial claim pods) where
  current c hc := by
    subst hc
    exact le_rfl
  copies _ _ hcopy := by cases hcopy
  begun _ hb := by cases hb
  handed _ hx := by cases hx
  workers _ := trivial

theorem Inv.after [DecidableEq α] {D : Digests α} {w : World α} (h : Inv D w) {es : List (Event α)}
    (hproper : ProperRun D w es) : Inv D (w.after D es) :=
  run_invariant (I := Inv D) (fun _ _ h hp => inv_step h hp) es h hproper

/-- A token handed out by a completed call for a pod is recorded for the present allocation, as long as the pod
has stayed reserved and live, its node has not unprepared the claim and the allocation is the one of the call. -/
theorem handed_token_recorded [DecidableEq α] (D : Digests α) (claim : Option (ClaimObject α))
    (pods : Text → Option Pod) (es : List (Event α)) (hproper : ProperRun D (.initial claim pods) es)
    (node : Text) (ref : PodRef) (T : Text) (hT : ((node, ref), T) ∈ ((World.initial claim pods).after D es).handed) :
    ∃ c, ((World.initial claim pods).after D es).claim = some c ∧ T ∈ claimSessions D c := by
  have hinv := (Inv.initial D claim pods).after hproper
  obtain ⟨hbegun, hrec⟩ := hinv.handed _ hT
  obtain ⟨-, c, hc, -⟩ := uses_iff.mp (hinv.begun _ hbegun).1
  exact ⟨c, hc, hrec c hc⟩

/-! Two nodes prepare a claim at the same time for a pod each; then one of them unprepares it, while the API server
still has its pod as running. -/

def podOn (node : String) (uid : String) : Pod := ⟨uid.toList, some node.toList, false⟩

def podA : PodRef := ⟨"a".toList, "1".toList⟩

def podB : PodRef := ⟨"b".toList, "2".toList⟩

def plainDigests : Digests Unit := ⟨fun _ => "x".toList, id⟩

def sharedClaim : ClaimObject Unit :=
  ⟨"claim".toList, 7, false, some (), ∅, [.pod podA, .pod podB]⟩

def twoPods : Text → Option Pod :=
  Function.update (Function.update (fun _ => none) podA.name (podOn "m" "1")) podB.name (podOn "n" "2")

def concurrentCalls : List (Event Unit) :=
  [.prepare "m".toList podA ["p".toList], .prepare "n".toList podB ["q".toList],
    .decide "m".toList (fun _ => "t".toList), .decide "n".toList (fun _ => "u".toList),
    .patch "m".toList true, .patch "n".toList true, .refresh "n".toList,
    .decide "n".toList (fun _ => "v".toList), .patch "n".toList true,
    .unprepare "n".toList "claim".toList, .get "n".toList, .look "n".toList]

theorem concurrentCalls_proper : ProperRun plainDigests (.initial (some sharedClaim) twoPods) concurrentCalls := by
  have hmint (t : Char) (p : Text) : (fun _ => [t]) p ≠ [] := cons_ne_nil t []
  exact ⟨⟨fun _ => ⟨_, rfl, rfl, rfl⟩, by decide⟩, ⟨fun _ => ⟨_, rfl, rfl, rfl⟩, by decide⟩, hmint 't', hmint 'u',
    trivial, trivial, trivial, hmint 'v', trivial, trivial, trivial, trivial, trivial⟩

theorem concurrentCalls_record :
    let w := (World.initial (some sharedClaim) twoPods).after plainDigests concurrentCalls
    (("m".toList, podA), "t".toList) ∈ w.handed ∧ w.uses podB = true ∧
      ∃ c, w.claim = some c ∧ "t".toList ∈ claimSessions plainDigests c := by
  have hT : (("m".toList, podA), "t".toList) ∈
      ((World.initial (some sharedClaim) twoPods).after plainDigests concurrentCalls).handed := by decide +kernel
  exact ⟨hT, by decide +kernel, handed_token_recorded plainDigests _ _ _ concurrentCalls_proper _ _ _ hT⟩

/-! The last node unprepares the claim: it passes over its own pod. -/

def soleClaim : ClaimObject Unit := { sharedClaim with reservedFor := [.pod podA] }

def solePrepare : List (Event Unit) :=
  [.prepare "m".toList podA ["p".toList], .decide "m".toList (fun _ => "t".toList), .patch "m".toList true]

def soleRelease : List (Event Unit) :=
  [.unprepare "m".toList soleClaim.uid, .get "m".toList, .look "m".toList, .look "m".toList]

def soleClean : List (Event Unit) := soleRelease ++ [.clean "m".toList true]

/-- The token is handed out, and the pod stays reserved and live and the allocation the same up to the patch of
`cleanTokens` and after it; yet the token is gone. -/
theorem own_unprepare_drops :
    let w := (World.initial (some soleClaim) twoPods).after plainDigests solePrepare
    (("m".toList, podA), "t".toList) ∈ w.handed ∧
      (∀ k ≤ 5, let w' := w.after plainDigests (soleClean.take k)
        w'.uses podA = true ∧ w'.claim.map ClaimObject.allocation = some (some ())) ∧
      (w.after plainDigests soleClean).claim.map (claimSessions plainDigests) = some [] := by
  decide +kernel

/-- **A release spares the users of other nodes.** When its patch is applied, the claim is as the call has read it,
and every live pod it is reserved for is bound to the releasing node, however the pods and the claim changed. -/
theorem clean_spares_other_nodes [DecidableEq α] (D : Digests α) (claim : Option (ClaimObject α))
    (pods : Text → Option Pod) (es : List (Event α)) (hproper : ProperRun D (.initial claim pods) es) :
    let w := (World.initial claim pods).after D es
    ∀ node uid copy patch w', w.workers node = .cleaning uid copy patch → w.applied copy patch = some w' →
      w.claim = some copy ∧ ∀ ref, w.uses ref = true → BoundTo w.pods ref node := by
  intro w node uid copy patch w' hw happlied
  have hinv := (Inv.initial D claim pods).after hproper
  obtain ⟨hclaim, -⟩ := applied_eq hinv (by rw [hw]; rfl) happlied
  exact ⟨hclaim, (hinv.at hw).2.2 copy hclaim rfl⟩

theorem soleClaim_spares :
    let w := (World.initial (some soleClaim) twoPods).after plainDigests (solePrepare ++ soleRelease)
    w.uses podA = true ∧ BoundTo w.pods podA "m".toList :=
  ⟨by decide +kernel, (clean_spares_other_nodes plainDigests (some soleClaim) twoPods (solePrepare ++ soleRelease)
    ⟨⟨fun _ => ⟨_, rfl, rfl, rfl⟩, by decide⟩, fun _ => cons_ne_nil 't' [], trivial, trivial, trivial, trivial, trivial,
      trivial⟩
    "m".toList _ _ _ _ rfl rfl).2 podA (by decide +kernel)⟩

end VGpuManager.RemoteTokens

import VGpuManager.Foundation.FileTree

/-!
# The directory of a remote session (`checkpoint_provider.c`, `session.c`)

The connection id of a remote client names the directory its quota is read from and its process is
registered in: `checkpoint_restore` appends the id to the session base. `valid_session_id` looks at
the characters only ('allow only a safe charset and reject anything that could traverse'), and a
dot is one of them.
-/

namespace VGpuManager.Library

open Foundation

/-! ## 1. The code -/

/-- `SESSION_ID_MAX`. -/
def sessionIdMax : Nat := 64

/-- `PATH_MAX`. -/
def pathMax : Nat := 4096

/-- One character of an id. -/
def sessionIdChar (c : Char) : Bool :=
  ('a' ≤ c && c ≤ 'z') || ('A' ≤ c && c ≤ 'Z') || ('0' ≤ c && c ≤ '9') || c == '_' || c == '.' || c == '-'

/-- `valid_session_id`; `none` is the null pointer. -/
def validSessionId : Option Text → Bool
  | none => false
  | some id => if id = [] ∨ sessionIdMax ≤ id.length then false else id.all sessionIdChar

/-- The session root `checkpoint_restore` builds, unless it refuses the connection. -/
def checkpointRestore (base : Text) (connectionId : Option Text) : Option Text :=
  if validSessionId connectionId = false then none
  else
    let root := base ++ '/' :: connectionId.getD []
    if pathMax ≤ root.length then none else some root

/-- `session_path_id`. -/
inductive SessionPathId where
  | configDir
  | config
  | pids
  | lockDir
  | vmemDir
  | vmemFile
  | smDir
  | smFile
  | smLock
  | smUtil
deriving DecidableEq, Repr

namespace SessionPathId

def all : List SessionPathId :=
  [configDir, config, pids, lockDir, vmemDir, vmemFile, smDir, smFile, smLock, smUtil]

/-- `SPECS`: the names appended to the session root or, for the file all sessions share, to the
base. -/
def suffix : SessionPathId → List Text
  | .configDir => ["config".toList]
  | .config => ["config".toList, "vgpu.config".toList]
  | .pids => ["pids.config".toList]
  | .lockDir => [".vgpu_lock".toList]
  | .vmemDir => [".vmem_node".toList]
  | .vmemFile => [".vmem_node".toList, "vmem_node.config".toList]
  | .smDir => [".sm_node".toList]
  | .smFile => [".sm_node".toList, "sm_node.config".toList]
  | .smLock => [".sm_node".toList, "sm_node.lock".toList]
  | .smUtil => ["watcher".toList, "sm_util.config".toList]

def fromBase (k : SessionPathId) : Bool := k = .smUtil

end SessionPathId

/-- `parent_dir`: the path without its last component. -/
def parentDir (root : Text) : Option Text :=
  if '/' ∉ root then none
  else
    let slash := root.length - 1 - root.reverse.idxOf '/'
    if slash = 0 then none else some (root.take slash)

/-- `"%s%s"` of a directory and a suffix. -/
def withSuffix (dir : Text) (suffix : List Text) : Text := dir ++ suffix.flatMap ('/' :: ·)

/-- `session_init`: the paths of a session, or nothing where the local ones are used instead. -/
def sessionInit (root : Text) : Option (SessionPathId → Text) :=
  if root.head? ≠ some '/' then none
  else
    match parentDir root with
    | none => none
    | some base =>
      let path k := withSuffix (if k.fromBase then base else root) k.suffix
      if SessionPathId.all.all fun k => (path k).length < pathMax then some path else none

/-! ## 2. The session directory -/

theorem slash_not_mem_of_valid {id : Text} (h : validSessionId (some id) = true) : '/' ∉ id := by
  intro hmem
  simp only [validSessionId] at h
  split at h
  · simp at h
  · exact absurd (List.all_eq_true.mp h '/' hmem) (by decide)

/-- What an accepted connection's root is made of. -/
theorem checkpointRestore_cases {base id root : Text} (h : checkpointRestore base (some id) = some root) :
    validSessionId (some id) = true ∧ root = base ++ '/' :: id := by
  simp only [checkpointRestore] at h
  split at h
  · simp at h
  · rename_i hvalid
    split at h
    · simp at h
    · exact ⟨by simpa using hvalid, (Option.some.inj h).symm⟩

theorem pathComponents_withSuffix {suffix : List Text} (hsuffix : ∀ c ∈ suffix, '/' ∉ c) (dir : Text) :
    pathComponents (withSuffix dir suffix) = pathComponents dir ++ suffix := by
  induction suffix generalizing dir with
  | nil => simp [withSuffix]
  | cons c suffix ih =>
    have h := ih (fun x hx => hsuffix x (by simp [hx])) (dir ++ '/' :: c)
    rw [pathComponents_append (hsuffix c (by simp))] at h
    simpa [withSuffix] using h

theorem SessionPathId.suffix_plain (k : SessionPathId) : ∀ c ∈ k.suffix, '/' ∉ c ∧ Ordinary c := by
  cases k <;> decide

theorem sessionInit_own {root : Text} {path : SessionPathId → Text} (h : sessionInit root = some path)
    {k : SessionPathId} (hk : k.fromBase = false) : pathComponents (path k) = pathComponents root ++ k.suffix := by
  simp only [sessionInit] at h
  split at h
  · simp at h
  · split at h
    · simp at h
    · split at h
      · cases h
        simp only [hk, Bool.false_eq_true, if_false]
        exact pathComponents_withSuffix (fun c hc => (k.suffix_plain c hc).1) root
      · simp at h

theorem ordinary_of_valid {id : Text} (h : validSessionId (some id) = true) : Ordinary id ↔ id ≠ dot ∧ id ≠ dotdot := by
  have hne : id ≠ [] := by
    rintro rfl
    exact absurd h (by decide)
  simp [Ordinary, hne]

/-- **The directory of a session.** It is the base's child of that name just when the id is neither
`.` nor `..` and the name no symbolic link's; and the session's own files are in it, as long as
there is no link further down. -/
theorem session_directory_iff {t : FileTree} {start B p : Location} {base id root : Text}
    (hstart : t.IsDir start) (hroot : checkpointRestore base (some id) = some root)
    (hbase : Denotes t start (pathComponents base) B) (hp : Denotes t start (pathComponents root) p) :
    (p = B ++ [id] ↔ id ≠ dot ∧ id ≠ dotdot ∧ ∀ target, t.entry (B ++ [id]) ≠ some (.link target)) ∧
      ∀ path, sessionInit root = some path → ∀ k, k.fromBase = false →
        (∀ loc target, p <+: loc → loc ≠ p → t.entry loc ≠ some (.link target)) →
        ∀ dir, Denotes t start (pathComponents (path k)).dropLast dir → p <+: dir := by
  obtain ⟨hvalid, rfl⟩ := checkpointRestore_cases hroot
  rw [pathComponents_append (slash_not_mem_of_valid hvalid)] at hp
  refine ⟨?_, fun path hpath k hk hlinks dir hdir => ?_⟩
  · obtain ⟨B', hB, hchild⟩ := Denotes.append_iff.mp hp
    obtain rfl := hbase.unique hB
    rw [hchild.child_iff (hbase.isDir hstart), ordinary_of_valid hvalid, and_assoc]
  · have hne : k.suffix ≠ [] := by cases k <;> simp [SessionPathId.suffix]
    rw [sessionInit_own hpath hk, pathComponents_append (slash_not_mem_of_valid hvalid),
      List.dropLast_append_of_ne_nil hne] at hdir
    obtain ⟨p', hp', hrest⟩ := Denotes.append_iff.mp hdir
    obtain rfl := hp.unique hp'
    have hplain : ∀ c ∈ k.suffix.dropLast, Ordinary c := fun c hc =>
      (k.suffix_plain c (List.dropLast_subset _ hc)).2
    rw [hrest.plain hplain hlinks]
    exact List.prefix_append _ _

/-- A base with one session and the entry that leads to the shared watcher directory. -/
def sharedBase : FileTree :=
  (((FileTree.empty.put [] "shared".toList .dir (FileTree.isDir_root _) (by decide)).put
    [] "base".toList .dir (FileTree.isDir_root _) (by decide)).put
    ["base".toList] "watcher".toList (.link "/shared".toList) (by decide) (by decide)).put
    ["base".toList] "s.1".toList .dir (by decide) (by decide)

theorem named_session_is_child : ∃ p, Denotes sharedBase [] (pathComponents "/base/s.1".toList) p ∧
      p = ["base".toList] ++ ["s.1".toList] := by
  have hroot : checkpointRestore "/base".toList (some "s.1".toList) = some "/base/s.1".toList := by
    decide +kernel
  have hbase : Denotes sharedBase [] (pathComponents "/base".toList) ["base".toList] :=
    FileTree.denotes_of_lookup (by decide +kernel)
  have hp : Denotes sharedBase [] (pathComponents "/base/s.1".toList) ["base".toList, "s.1".toList] :=
    FileTree.denotes_of_lookup (by decide +kernel)
  have hentry : sharedBase.entry (["base".toList] ++ ["s.1".toList]) = some .dir := by decide +kernel
  refine ⟨_, hp, (session_directory_iff (.inl rfl) hroot hbase hp).1.mpr ?_⟩
  exact ⟨by decide, by decide, fun target h => absurd (hentry.symm.trans h) (by simp)⟩

/-- Three accepted ids that lead elsewhere: to the base, to its parent, to the shared directory. -/
theorem accepted_ids_leave_base : checkpointRestore "/base".toList (some dot) = some "/base/.".toList ∧
      sharedBase.lookup (pathComponents "/base/.".toList) = some ["base".toList] ∧
      checkpointRestore "/base".toList (some dotdot) = some "/base/..".toList ∧
      sharedBase.lookup (pathComponents "/base/..".toList) = some [] ∧
      checkpointRestore "/base".toList (some "watcher".toList) = some "/base/watcher".toList ∧
      sharedBase.lookup (pathComponents "/base/watcher".toList) = some ["shared".toList] := by
  decide +kernel

end VGpuManager.Library

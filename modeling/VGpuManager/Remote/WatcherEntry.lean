import VGpuManager.Foundation.FileTree
import VGpuManager.Foundation.Loops
import VGpuManager.Foundation.Programs
import VGpuManager.Remote.Sessions

/-!
# Sessions on disk and the shared watcher entry (`remoteagent/session.go`)

The directories of the sessions stand in the session base, each under its token. Beside them
`linkWatcherDir` puts a symbolic link, `watcher`, to the directory of the node-wide utilisation
cache. `validateToken` accepts that name.
-/

namespace VGpuManager.RemoteAgent.Disk

open Foundation List

/-! ## 1. The code -/

def configName : Text := "config".toList

def sessionOwnerMarker : Text := ".claim-uid".toList

/-- The directories of a session. -/
def sessionDirs : List Text :=
  [configName, ".vgpu_lock".toList, ".vmem_node".toList, ".sm_node".toList]

/-- An absolute path from its components. -/
def pathText (path : List Text) : Text := path.flatMap ('/' :: ·)

variable (t : FileTree) (base : List Text)

/-- `linkWatcherDir`. The base is a cleaned absolute path; `managerDir` is unset for library
callers. -/
def linkWatcherDir (managerDir : Option (List Text)) : Option FileTree :=
  let target := pathText (managerDir.getD base.dropLast ++ [watcherName])
  match t.lookup base with
  | none => none
  | some dir =>
    let link := dir ++ [watcherName]
    let symlink (t : FileTree) : Option FileTree :=
      -- the directory the link is to lead to in the default layout
      match t.mkdirAll (base.dropLast ++ [watcherName]) with
      | none => none
      | some t =>
        if h : t.IsDir dir ∧ t.entry link = none then
          some (t.put dir watcherName (.link target) h.1 (by simp [link, h.2]))
        -- `os.IsExist`
        else some t
    match t.entry link with
    | some (.link current) => if current = target then some t else symlink (t.removeAll link)
    | some .dir => if t.readDir link ≠ [] then some t else symlink (t.removeAll link)
    | _ => symlink t

/-- The owner's UID in a marker: its first line. -/
def markerUid (content : Text) : Text := trimSpace (((trimSpace content).splitOn '\n').headD [])

/-- The file operations of `Materialize` for an owner, with the texts of the marker and of the
quota. -/
def materialize (token uid marker quota : Text) : Prog Unit FileTree Unit := do
  Prog.require (validateToken token) ()
  match (← get).readFile (base ++ [token]) sessionOwnerMarker with
  | some content => Prog.require (markerUid content = uid) ()
  | none =>
    sessionDirs.forM fun sub => Prog.attempt () fun t => t.mkdirAll (base ++ [token, sub])
    -- never truncated: the library appends to it
    Prog.attempt () fun t => t.writeFile (base ++ [token]) "pids.config".toList fun old => old.getD []
    Prog.attempt () fun t => t.writeFile (base ++ [token, configName]) "vgpu.config".toList fun _ => quota
    Prog.attempt () fun t => t.writeFile (base ++ [token]) sessionOwnerMarker fun _ => marker

/-- `Remove`: `os.RemoveAll` of the session's path. -/
def remove (token : Text) : Option FileTree :=
  if validateToken token = false then none
  else
    match t.lookup base with
    | none => some t
    | some dir => some (t.removeAll (dir ++ [token]))

/-- `List`: the tokens of the sessions. -/
def list : List Text :=
  match t.lookup base with
  | none => []
  | some dir =>
    (t.readDir dir).filter fun name =>
      t.entry (dir ++ [name]) = some .dir && name ≠ watcherName && validateToken name

/-! ## 2. Where the paths of a session lead -/

theorem ordinary_of_validateToken {token : Text} (h : validateToken token = true) : Ordinary token := by
  refine ⟨?_, ?_, ?_⟩ <;> rintro rfl <;> exact absurd h (by decide)

variable {t}

theorem mem_list {base : List Text} {dir : Location} (hbase : t.lookup base = some dir)
    {token : Text} : token ∈ list t base ↔
      t.entry (dir ++ [token]) = some .dir ∧ token ≠ watcherName ∧ validateToken token = true := by
  simp only [list, hbase, mem_filter, FileTree.mem_readDir]
  constructor
  · intro ⟨_, h⟩
    simpa [and_assoc] using h
  · intro ⟨hdir, hne, hvalid⟩
    exact ⟨by simp [hdir], by simp [hdir, hne, hvalid]⟩

section Token

variable {base} {dir : Location} {token : Text} {t₀ : FileTree}

/-- The base is where it was, the only link below it is the shared one, and what has changed since
`t₀` is below the token's directory. -/
structure Below (base : List Text) (dir : Location) (token : Text) (t₀ t : FileTree) : Prop where
  base : t.lookup base = some dir
  links : ∀ loc target, dir <+: loc → t.entry loc = some (.link target) → loc = dir ++ [watcherName]
  frame : ∀ loc, t.entry loc ≠ t₀.entry loc → dir ++ [token] <+: loc

theorem not_prefix_of_ne (hne : token ≠ watcherName) : ¬ dir ++ [token] <+: dir ++ [watcherName] := by
  intro h
  have heq := h.eq_of_length (by simp)
  exact hne (by simpa using heq)

variable {names : List Text} {t' : FileTree}

/-- A path of the session leads straight down from the base. -/
theorem Below.locate (h : Below base dir token t₀ t) (hne : token ≠ watcherName)
    (hnames : ∀ c ∈ token :: names, Ordinary c) {loc : Location}
    (hloc : Denotes t [] (base ++ token :: names) loc) : loc = dir ++ token :: names := by
  obtain ⟨dir', hdir, hdown⟩ := Denotes.append_iff.mp hloc
  obtain rfl := (FileTree.denotes_of_lookup h.base).unique hdir
  rw [← singleton_append] at hdown
  obtain ⟨own, hown, hrest⟩ := Denotes.append_iff.mp hdown
  have hisdir := (FileTree.denotes_of_lookup h.base).isDir (.inl rfl)
  obtain rfl : own = dir ++ [token] := by
    refine (hown.child_iff hisdir).mpr ⟨hnames token (by simp), fun target hlink => ?_⟩
    have := h.links _ _ (prefix_append dir [token]) hlink
    exact hne (by simpa using this)
  have hbelow : ∀ loc target, dir ++ [token] <+: loc → loc ≠ dir ++ [token] → t.entry loc ≠ some (.link target) := by
    intro loc target hpre _ hlink
    obtain rfl := h.links loc target ((prefix_append dir [token]).trans hpre) hlink
    exact not_prefix_of_ne hne hpre
  rw [hrest.plain (fun c hc => hnames c (by simp [hc])) hbelow]
  simp

/-- An entry put into the token's directory, or that directory itself. -/
theorem Below.put (h : Below base dir token t₀ t) {parent : Location} {name : Text}
    {node : FileNode} {hdir : t.IsDir parent} {hfree : t.entry (parent ++ [name]) ≠ some .dir}
    (hwhere : dir ++ [token] <+: parent ++ [name])
    (hplain : ∀ target, t.entry (parent ++ [name]) ≠ some (.link target)) (hnode : ∀ target, node ≠ .link target) :
    Below base dir token t₀ (t.put parent name node hdir hfree) where
  base := FileTree.lookup_put hplain h.base
  links := by
    intro loc target hpre hlink
    by_cases heq : loc = parent ++ [name]
    · rw [heq, FileTree.put_entry_self] at hlink
      exact absurd (Option.some.inj hlink) (hnode target)
    · rw [FileTree.put_entry_of_ne heq] at hlink
      exact h.links loc target hpre hlink
  frame := by
    intro loc hchanged
    by_cases heq : loc = parent ++ [name]
    · exact heq ▸ hwhere
    · rw [FileTree.put_entry_of_ne heq] at hchanged
      exact h.frame loc hchanged

section

variable (h : Below base dir token t₀ t) (hne : token ≠ watcherName)

include h hne

/-- What is below the base and starts with the token is below the token's directory. -/
theorem Below.own {xs : List Text} {c : Text} (hnames : ∀ x ∈ xs ++ [c], Ordinary x) (hfirst : [token] <+: xs ++ [c])
    {parent : Location} (hden : Denotes t [] (base ++ xs) parent) : parent ++ [c] = dir ++ (xs ++ [c]) := by
  cases xs with
  | nil =>
    rw [append_nil] at hden
    rw [(FileTree.denotes_of_lookup h.base).unique hden]
    rfl
  | cons x xs =>
    obtain ⟨rest, hrest⟩ := hfirst
    obtain rfl : token = x := by simpa using (cons.inj hrest).1
    have hall : ∀ y ∈ token :: xs, Ordinary y := fun y hy => hnames y (mem_append_left _ hy)
    rw [h.locate hne hall hden, append_assoc]

theorem Below.mkdirAll (hnames : ∀ c ∈ token :: names, Ordinary c)
    (hmk : t.mkdirAll (base ++ token :: names) = some t') : Below base dir token t₀ t' := by
  refine FileTree.mkdirAll_invariant (fun t xs c parent hdir hfree hpre h hden hnew hnone => ?_) hmk h
  refine h.put ?_ (by simp [hnone]) (by simp)
  have hbase : base <+: xs := by
    rcases prefix_or_prefix_of_prefix hpre (prefix_append base _) with hin | hover
    · -- the directories of the base are there
      obtain ⟨rest, hrest⟩ := hin
      have hthere := FileTree.denotes_of_lookup h.base
      rw [← hrest] at hthere
      obtain ⟨p, hp, -⟩ := Denotes.append_iff.mp hthere
      exact absurd ⟨p, hp⟩ hnew
    · rcases prefix_concat_iff.mp hover with heq | hxs
      · exact absurd ⟨dir, heq ▸ FileTree.denotes_of_lookup h.base⟩ hnew
      · exact hxs
  obtain ⟨ys, rfl⟩ := hbase
  rw [append_assoc, prefix_append_right_inj] at hpre
  have hfirst : [token] <+: ys ++ [c] := by
    refine prefix_of_prefix_length_le (prefix_append [token] names) hpre (by simp)
  rw [h.own hne (fun x hx => hnames x (hpre.subset hx)) hfirst hden]
  exact (prefix_append_right_inj dir).mpr hfirst

theorem Below.writeFile {name : Text} {update : Option Text → Text}
    (hnames : ∀ c ∈ token :: names ++ [name], Ordinary c)
    (hwrite : t.writeFile (base ++ token :: names) name update = some t') : Below base dir token t₀ t' := by
  obtain ⟨parent, hdir, hfree, content, hden, hplain, rfl⟩ := FileTree.writeFile_cases hwrite
  refine h.put ?_ hplain (by simp)
  rw [h.own hne hnames (by simp) hden]
  simp

/-- The token's directory is there once its path leads somewhere. -/
theorem Below.own_dir (htoken : Ordinary token) {loc : Location} (hden : Denotes t [] (base ++ [token]) loc) :
    t.entry (dir ++ [token]) = some .dir := by
  have hloc := h.locate hne (by simpa using htoken) hden
  have hisdir := hden.isDir (.inl rfl)
  rw [hloc] at hisdir
  exact hisdir.resolve_left (by simp)

end

theorem ordinary_names : ∀ c ∈ sessionOwnerMarker :: "pids.config".toList :: "vgpu.config".toList ::
    sessionDirs, Ordinary c := by
  decide

/-- For a token other than the shared name `Materialize` writes below the token's directory, completed or
not, and once completed that directory is there. -/
theorem Below.materialize (hne : token ≠ watcherName) (uid marker quota : Text) :
    Ensures (Below base dir token t₀) (Disk.materialize base token uid marker quota)
      (fun _ t => Below base dir token t₀ t ∧ t.entry (dir ++ [token]) = some .dir) (Below base dir token t₀) := by
  refine .require_bind (fun _ h => h) fun hvalid => .get_bind fun t h => ?_
  have htoken := ordinary_of_validateToken hvalid
  have hown : ∀ sub ∈ sessionDirs, ∀ c ∈ [token, sub], Ordinary c := fun sub hsub => by
    simpa using ⟨htoken, ordinary_names sub (by simp [hsub])⟩
  split
  · -- the session was complete
    rename_i content hread
    obtain ⟨loc, hden, -⟩ := FileTree.readFile_cases hread
    refine .ite (fun _ => .pure fun s hs => ?_) fun _ => .throw fun s hs => hs ▸ h
    exact hs ▸ ⟨h, h.own_dir hne htoken hden⟩
  refine Ensures.weaken (P := Below base dir token t₀) ?_ (fun s hs => hs ▸ h) (fun _ _ hs => hs) fun _ hs => hs
  refine .bind (Preserves.forM fun sub hsub => .attempt fun _ _ hb => hb.mkdirAll hne (hown sub hsub)) fun _ => ?_
  have hfile (name : Text) (hname : Ordinary name) : ∀ c ∈ [token] ++ [name], Ordinary c := by
    simpa using ⟨htoken, hname⟩
  refine .bind (Preserves.attempt fun _ _ hb => hb.writeFile hne (hfile _ (ordinary_names _ (by simp)))) fun _ => ?_
  refine .bind (Preserves.attempt fun _ _ hb => hb.writeFile hne fun c hc => ?_) fun _ => ?_
  · simp only [cons_append, nil_append, mem_cons, not_mem_nil, or_false] at hc
    rcases hc with rfl | rfl | rfl
    · exact htoken
    · exact ordinary_names _ (by simp [Disk.sessionDirs])
    · exact ordinary_names _ (by simp)
  refine .attempt (fun _ hb => hb) fun t t' hb hmat =>
    ⟨hb.writeFile hne (hfile _ (ordinary_names _ (by simp))) hmat, ?_⟩
  obtain ⟨parent, hdir, hfree, text, hden, -, rfl⟩ := FileTree.writeFile_cases hmat
  have hthere := hb.own_dir hne htoken hden
  rw [FileTree.put_entry_of_ne, hthere]
  intro heq
  exact hfree (heq ▸ hthere)

end Token

/-! ## 3. The shared entry -/

/-- **A token is kept apart from the shared entry just when it is not its name.** The links below
the session base are the one `linkWatcherDir` made. Then `Materialize`, completed or not, changes nothing
outside the token's own directory, a session it completes is listed, and `Remove` leaves the shared entry. -/
theorem token_apart_iff {base : List Text} {dir : Location} {target token : Text}
    (hbase : t.lookup base = some dir) (hshared : t.entry (dir ++ [watcherName]) = some (.link target))
    (hlinks : ∀ loc target, dir <+: loc → t.entry loc = some (.link target) →
      loc = dir ++ [watcherName]) (hvalid : validateToken token = true) (uid marker quota : Text) :
    ((let call := (materialize base token uid marker quota).run.run t
      (∀ loc, call.2.entry loc ≠ t.entry loc → dir ++ [token] <+: loc) ∧
        (call.1 = .ok () → call.2.entry (dir ++ [token]) = some .dir ∧ token ∈ list call.2 base)) ∧
      ∀ t', remove t base token = some t' → (∀ loc, t'.entry loc ≠ t.entry loc → dir ++ [token] <+: loc) ∧
          t'.entry (dir ++ [watcherName]) = some (.link target)) ↔
      token ≠ watcherName := by
  have hremove : remove t base token = some (t.removeAll (dir ++ [token])) := by
    simp [remove, hvalid, hbase]
  constructor
  · rintro ⟨-, h⟩ rfl
    have := (h _ hremove).2
    simp [FileTree.removeAll] at this
  · intro hne
    refine ⟨?_, fun t' hrem => ?_⟩
    · have hstart : Below base dir token t t := ⟨hbase, hlinks, fun loc h => absurd rfl h⟩
      have hmat : Ensures (Below base dir token t) _ _ _ := Below.materialize hne uid marker quota
      refine ⟨(Ensures.exec (hmat.weaken (fun _ h => h) (fun _ _ h => h.1) fun _ h => h) hstart).frame, fun hok => ?_⟩
      have hdone := hmat t hstart
      rw [hok] at hdone
      exact ⟨hdone.2, (mem_list hdone.1.base).mpr ⟨hdone.2, hne, hvalid⟩⟩
    · cases hremove.symm.trans hrem
      refine ⟨fun loc hchanged => ?_, ?_⟩
      · by_contra hout
        exact hchanged (if_neg hout)
      · exact (if_neg (not_prefix_of_ne hne)).trans hshared

/-- A session base `/base` after `linkWatcherDir`. -/
def preparedBase : FileTree :=
  (linkWatcherDir (FileTree.empty.put [] "base".toList .dir (FileTree.isDir_root _) (by decide)) ["base".toList]
    none).getD .empty

theorem other_token_apart :
    let call := (materialize ["base".toList] "s.1".toList "u".toList "u".toList []).run.run preparedBase
    call.1 = .ok () ∧ "s.1".toList ∈ list call.2 ["base".toList] ∧
      ∀ loc, call.2.entry loc ≠ preparedBase.entry loc → ["base".toList, "s.1".toList] <+: loc := by
  have hok : ((materialize ["base".toList] "s.1".toList "u".toList "u".toList []).run.run preparedBase).1 = .ok () := by
    decide +kernel
  have hshared : preparedBase.entry (["base".toList] ++ [watcherName]) =
      some (.link "/watcher".toList) := by decide +kernel
  have hdirs : ∀ loc ∈ preparedBase.support,
      loc = ["base".toList] ++ [watcherName] ∨ preparedBase.entry loc = some .dir := by decide +kernel
  have hlinks : ∀ loc target, ["base".toList] <+: loc →
      preparedBase.entry loc = some (.link target) → loc = ["base".toList] ++ [watcherName] := by
    intro loc target _ hlink
    refine (hdirs loc (preparedBase.finite loc (by simp [hlink]))).resolve_right fun hdir => ?_
    exact absurd (hdir.symm.trans hlink) (by simp)
  have hvalid : validateToken "s.1".toList = true := by decide +kernel
  have hbase : preparedBase.lookup ["base".toList] = some ["base".toList] := by decide +kernel
  obtain ⟨⟨hframe, hlisted⟩, -⟩ :=
    (token_apart_iff hbase hshared hlinks hvalid "u".toList "u".toList []).mpr (by decide)
  exact ⟨hok, (hlisted hok).2, hframe⟩

/-- The token `watcher` is accepted: its marker lands in the shared directory, no session is listed
for it, and `Remove` takes the shared entry away. -/
theorem watcher_token_shared : validateToken watcherName = true ∧
      preparedBase.entry ["base".toList, watcherName] = some (.link "/watcher".toList) ∧
      (let call := (materialize ["base".toList] watcherName "u".toList "u".toList []).run.run preparedBase
      call.1 = .ok () ∧ call.2.entry [watcherName, sessionOwnerMarker] = some (.file "u".toList) ∧
        list call.2 ["base".toList] = []) ∧
      (remove preparedBase ["base".toList] watcherName).map
          (fun t => t.entry ["base".toList, watcherName]) = some none := by
  decide +kernel

end VGpuManager.RemoteAgent.Disk

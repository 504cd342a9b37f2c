import VGpuManager.Foundation.Text
import Mathlib.Data.List.Dedup

/-!
# Files, directories and symbolic links

A tree of named entries. A location is the list of names that leads to an entry from the root; a
path is a text of components between slashes, which the system resolves one by one: `.` stays,
`..` goes up, a name goes down and a symbolic link goes where it points to.
-/

namespace VGpuManager.Foundation

open List

/-! ## 1. Trees -/

abbrev Location := List Text

inductive FileNode where
  | dir
  | file (content : Text)
  | link (target : Text)
deriving DecidableEq, Repr

/-- The entries below the root. There are finitely many, and what has an entry in it is a
directory. -/
structure FileTree where
  entry : Location → Option FileNode
  support : List Location
  finite : ∀ loc, entry loc ≠ none → loc ∈ support
  parents : ∀ loc name, entry (loc ++ [name]) ≠ none → loc = [] ∨ entry loc = some .dir

namespace FileTree

/-- Nothing but the root. -/
def empty : FileTree where
  entry _ := none
  support := []
  finite := by simp
  parents := by simp

def IsDir (t : FileTree) (loc : Location) : Prop := loc = [] ∨ t.entry loc = some .dir
  deriving Decidable

theorem isDir_root (t : FileTree) : t.IsDir [] := .inl rfl

theorem isDir_dropLast {t : FileTree} {loc : Location} (h : t.IsDir loc) : t.IsDir loc.dropLast := by
  rcases h with rfl | h
  · exact .inl rfl
  · rcases eq_nil_or_concat loc with rfl | ⟨parent, name, rfl⟩
    · exact .inl rfl
    · rw [concat_eq_append, dropLast_concat]
      exact t.parents parent name (by rw [← concat_eq_append, h]; simp)

end FileTree

/-! ## 2. Resolution -/

def dot : Text := ['.']

def dotdot : Text := ['.', '.']

/-- A component that names an entry. -/
def Ordinary (c : Text) : Prop := c ≠ [] ∧ c ≠ dot ∧ c ≠ dotdot
  deriving Decidable

def pathComponents (path : Text) : List Text := path.splitOn '/'

/-- Where the components of a link's target start from. -/
def linkStart (loc : Location) (target : Text) : Location :=
  if target.head? = some '/' then [] else loc

/-- From a directory the components lead to the directory `p`. -/
inductive Denotes (t : FileTree) : Location → List Text → Location → Prop where
  | done (loc) : Denotes t loc [] loc
  | stay {loc c rest p} (hc : c = [] ∨ c = dot) (h : Denotes t loc rest p) : Denotes t loc (c :: rest) p
  | up {loc rest p} (h : Denotes t loc.dropLast rest p) : Denotes t loc (dotdot :: rest) p
  | enter {loc c rest p} (hc : Ordinary c) (hdir : t.entry (loc ++ [c]) = some .dir)
      (h : Denotes t (loc ++ [c]) rest p) : Denotes t loc (c :: rest) p
  | follow {loc c rest p target} (hc : Ordinary c) (hlink : t.entry (loc ++ [c]) = some (.link target))
      (h : Denotes t (linkStart loc target) (pathComponents target ++ rest) p) :
      Denotes t loc (c :: rest) p

/-- How far the components lead without following a link. -/
inductive Reached where
  | here (loc : Location)
  | missing
  | link (loc : Location) (target : Text) (rest : List Text)

def advance (t : FileTree) : Location → List Text → Reached
  | loc, [] => .here loc
  | loc, c :: rest =>
    if c = [] ∨ c = dot then advance t loc rest
    else if c = dotdot then advance t loc.dropLast rest
    else
      match t.entry (loc ++ [c]) with
      | some .dir => advance t (loc ++ [c]) rest
      | some (.link target) => .link loc target rest
      | _ => .missing

/-- The directory, with a bound on the links that are followed. -/
def resolve (t : FileTree) : Nat → Location → List Text → Option Location
  | links, loc, comps =>
    match advance t loc comps with
    | .here p => some p
    | .missing => none
    | .link at' target rest =>
      match links with
      | 0 => none
      | links + 1 => resolve t links (linkStart at' target) (pathComponents target ++ rest)

section Denotes

variable {t : FileTree} {loc p dir : Location} {comps : List Text} {name : Text}

theorem advance_sound : (∀ p, advance t loc comps = .here p → Denotes t loc comps p) ∧
      ∀ at' target rest, advance t loc comps = .link at' target rest →
        ∀ p, Denotes t (linkStart at' target) (pathComponents target ++ rest) p → Denotes t loc comps p := by
  induction comps generalizing loc with
  | nil =>
    refine ⟨fun p h => ?_, fun at' target rest h => ?_⟩
    · obtain rfl : loc = p := Reached.here.inj h
      exact .done loc
    · simp [advance] at h
  | cons c rest ih =>
    by_cases hstay : c = [] ∨ c = dot
    · rw [advance, if_pos hstay]
      exact ⟨fun p h => .stay hstay (ih.1 p h), fun at' target r h p hp => .stay hstay (ih.2 at' target r h p hp)⟩
    rw [advance, if_neg hstay]
    by_cases hup : c = dotdot
    · rw [if_pos hup, hup]
      exact ⟨fun p h => .up (ih.1 p h), fun at' target r h p hp => .up (ih.2 at' target r h p hp)⟩
    rw [if_neg hup]
    have hc : Ordinary c := ⟨fun h => hstay (.inl h), fun h => hstay (.inr h), hup⟩
    cases hentry : t.entry (loc ++ [c]) with
    | none => exact ⟨fun p h => by simp at h, fun at' target r h => by simp at h⟩
    | some node =>
      cases node with
      | dir =>
        exact ⟨fun p h => .enter hc hentry (ih.1 p h),
          fun at' target r h p hp => .enter hc hentry (ih.2 at' target r h p hp)⟩
      | file content => exact ⟨fun p h => by simp at h, fun at' target r h => by simp at h⟩
      | link target =>
        refine ⟨fun p h => by simp at h, fun at' target' r h p hp => ?_⟩
        obtain ⟨rfl, rfl, rfl⟩ := Reached.link.inj h
        exact .follow hc hentry hp

/-- What `resolve` finds is what the components denote. -/
theorem denotes_of_resolve {links : Nat} (h : resolve t links loc comps = some p) : Denotes t loc comps p := by
  induction links generalizing loc comps with
  | zero =>
    unfold resolve at h
    split at h
    · exact Option.some.inj h ▸ advance_sound.1 _ ‹_›
    · simp at h
    · simp at h
  | succ links ih =>
    unfold resolve at h
    split at h
    · exact Option.some.inj h ▸ advance_sound.1 _ ‹_›
    · simp at h
    · exact advance_sound.2 _ _ _ ‹_› p (ih h)

theorem not_ordinary_stay {c : Text} (h : c = [] ∨ c = dot) : ¬ Ordinary c := by
  intro ⟨h₁, h₂, _⟩
  exact h.elim h₁ h₂

theorem dotdot_not_stay : ¬ (dotdot = [] ∨ dotdot = dot) := by decide

/-- **Components denote at most one directory.** -/
theorem Denotes.unique {q : Location} (hp : Denotes t loc comps p) (hq : Denotes t loc comps q) : p = q := by
  induction hp with
  | done loc =>
    cases hq
    rfl
  | stay hc _ ih =>
    cases hq with
    | stay _ h => exact ih h
    | up h => exact absurd hc dotdot_not_stay
    | enter hc' _ _ | follow hc' _ _ => exact absurd hc' (not_ordinary_stay hc)
  | up _ ih =>
    cases hq with
    | stay hc' h => exact absurd hc' dotdot_not_stay
    | up h => exact ih h
    | enter hc' _ _ | follow hc' _ _ => exact absurd rfl hc'.2.2
  | enter hc hdir _ ih =>
    cases hq with
    | stay hc' _ => exact absurd hc (not_ordinary_stay hc')
    | up _ => exact absurd rfl hc.2.2
    | enter _ _ h => exact ih h
    | follow _ hlink _ => exact absurd (hdir.symm.trans hlink) (by simp)
  | follow hc hlink _ ih =>
    cases hq with
    | stay hc' _ => exact absurd hc (not_ordinary_stay hc')
    | up _ => exact absurd rfl hc.2.2
    | enter _ hdir _ => exact absurd (hdir.symm.trans hlink) (by simp)
    | follow _ hlink' h =>
      obtain rfl : _ = _ := FileNode.link.inj (Option.some.inj (hlink.symm.trans hlink'))
      exact ih h

/-- **A path resolves piece by piece.** -/
theorem Denotes.append_iff {xs ys : List Text} :
    Denotes t loc (xs ++ ys) p ↔ ∃ q, Denotes t loc xs q ∧ Denotes t q ys p := by
  constructor
  · intro h
    generalize hcomps : xs ++ ys = comps at h
    induction h generalizing xs with
    | done loc =>
      obtain ⟨rfl, rfl⟩ := append_eq_nil_iff.mp hcomps
      exact ⟨loc, .done loc, .done loc⟩
    | @stay loc c rest p hc h ih =>
      rcases append_eq_cons_iff.mp hcomps with ⟨rfl, rfl⟩ | ⟨xs', rfl, rfl⟩
      · exact ⟨loc, .done loc, .stay hc h⟩
      · obtain ⟨q, hq, hqp⟩ := ih rfl
        exact ⟨q, .stay hc hq, hqp⟩
    | @up loc rest p h ih =>
      rcases append_eq_cons_iff.mp hcomps with ⟨rfl, rfl⟩ | ⟨xs', rfl, rfl⟩
      · exact ⟨loc, .done loc, .up h⟩
      · obtain ⟨q, hq, hqp⟩ := ih rfl
        exact ⟨q, .up hq, hqp⟩
    | @enter loc c rest p hc hdir h ih =>
      rcases append_eq_cons_iff.mp hcomps with ⟨rfl, rfl⟩ | ⟨xs', rfl, rfl⟩
      · exact ⟨loc, .done loc, .enter hc hdir h⟩
      · obtain ⟨q, hq, hqp⟩ := ih rfl
        exact ⟨q, .enter hc hdir hq, hqp⟩
    | @follow loc c rest p target hc hlink h ih =>
      rcases append_eq_cons_iff.mp hcomps with ⟨rfl, rfl⟩ | ⟨xs', rfl, rfl⟩
      · exact ⟨loc, .done loc, .follow hc hlink h⟩
      · obtain ⟨q, hq, hqp⟩ := ih (append_assoc _ _ _)
        exact ⟨q, .follow hc hlink hq, hqp⟩
  · intro ⟨q, hq, hqp⟩
    induction hq with
    | done loc => exact hqp
    | stay hc _ ih => exact .stay hc (ih hqp)
    | up _ ih => exact .up (ih hqp)
    | enter hc hdir _ ih => exact .enter hc hdir (ih hqp)
    | follow hc hlink _ ih =>
      have h := ih hqp
      rw [append_assoc] at h
      exact .follow hc hlink h

theorem isDir_linkStart (h : t.IsDir loc) (target : Text) : t.IsDir (linkStart loc target) := by
  unfold linkStart
  split
  · exact .inl rfl
  · exact h

/-- What is denoted is a directory. -/
theorem Denotes.isDir (h : Denotes t loc comps p) (hloc : t.IsDir loc) : t.IsDir p := by
  induction h with
  | done loc => exact hloc
  | stay _ _ ih => exact ih hloc
  | up _ ih => exact ih (FileTree.isDir_dropLast hloc)
  | enter _ hdir _ ih => exact ih (.inr hdir)
  | follow _ _ _ ih => exact ih (isDir_linkStart hloc _)

/-- One more component leads to the entry of that name just when it is a name and its entry no
link. -/
theorem Denotes.child_iff (h : Denotes t dir [name] p) (hdir : t.IsDir dir) :
    p = dir ++ [name] ↔ Ordinary name ∧ ∀ target, t.entry (dir ++ [name]) ≠ some (.link target) := by
  cases h with
  | stay hc h =>
    cases h
    refine ⟨fun h => ?_, fun h => absurd h.1 (not_ordinary_stay hc)⟩
    have := congrArg length h
    simp at this
  | up h =>
    cases h
    refine ⟨fun h => ?_, fun h => absurd rfl h.1.2.2⟩
    have := congrArg length h
    simp only [length_dropLast, length_append, length_cons] at this
    omega
  | enter hc hd h =>
    cases h
    exact ⟨fun _ => ⟨hc, fun target => by simp [hd]⟩, fun _ => rfl⟩
  | follow hc hlink h =>
    refine ⟨?_, fun h => absurd hlink (h.2 _)⟩
    -- the entry is a link, what is denoted a directory
    rintro rfl
    rcases h.isDir (isDir_linkStart hdir _) with hp | hp
    · simp at hp
    · exact absurd (hlink.symm.trans hp) (by simp)

theorem pathComponents_append {base : Text} (hname : '/' ∉ name) :
    pathComponents (base ++ '/' :: name) = pathComponents base ++ [name] := by
  rw [pathComponents, splitOn_append, splitOn_of_not_mem hname]
  rfl

/-- Names with no link on their way lead straight down. -/
theorem Denotes.plain (hcomps : ∀ c ∈ comps, Ordinary c)
    (hlinks : ∀ loc target, dir <+: loc → loc ≠ dir → t.entry loc ≠ some (.link target))
    (h : Denotes t dir comps p) : p = dir ++ comps := by
  induction comps generalizing dir with
  | nil =>
    cases h
    simp
  | cons c comps ih =>
    have hc : Ordinary c := hcomps c (by simp)
    cases h with
    | stay hstay _ => exact absurd hc (not_ordinary_stay hstay)
    | up _ => exact absurd rfl hc.2.2
    | enter _ _ h =>
      have hbelow : ∀ loc target, dir ++ [c] <+: loc → loc ≠ dir ++ [c] → t.entry loc ≠ some (.link target) := by
        intro loc target hpre _
        refine hlinks loc target ((prefix_append dir [c]).trans hpre) ?_
        intro heq
        have := (heq ▸ hpre).length_le
        simp only [length_append, length_cons] at this
        omega
      rw [ih (fun x hx => hcomps x (by simp [hx])) hbelow h]
      simp
    | follow _ hlink _ => exact absurd hlink (hlinks _ _ (prefix_append dir [c]) (by simp))

end Denotes

/-! ## 3. Operations -/

namespace FileTree

section

variable (t : FileTree) (parent : List Text) (name : Text)

/-- A new entry, or another content of a file. -/
def put (dir : Location) (name : Text) (node : FileNode) (hdir : t.IsDir dir)
    (hfree : t.entry (dir ++ [name]) ≠ some .dir) : FileTree where
  entry := Function.update t.entry (dir ++ [name]) (some node)
  support := (dir ++ [name]) :: t.support
  finite := by
    intro loc h
    by_cases heq : loc = dir ++ [name]
    · simp [heq]
    · rw [Function.update_of_ne heq] at h
      exact List.mem_cons_of_mem _ (t.finite loc h)
  parents := by
    intro loc n h
    have hsame : ∀ l, l ≠ dir ++ [name] → Function.update t.entry (dir ++ [name]) (some node) l =
        t.entry l := fun l hl => Function.update_of_ne hl _ _
    by_cases heq : loc ++ [n] = dir ++ [name]
    · obtain ⟨rfl, -⟩ := List.append_inj' heq rfl
      rw [hsame loc (by simp)]
      exact hdir
    · rw [hsame _ heq] at h
      rcases t.parents loc n h with hroot | hparent
      · exact .inl hroot
      · refine .inr ?_
        rw [hsame loc fun hl => hfree (hl ▸ hparent)]
        exact hparent

/-- The entry and everything below it gone. -/
def removeAll (loc : Location) : FileTree where
  entry l := if loc <+: l then none else t.entry l
  support := t.support
  finite := by
    intro l h
    by_cases hgone : loc <+: l
    · simp [hgone] at h
    · rw [if_neg hgone] at h
      exact t.finite l h
  parents := by
    intro l n h
    by_cases hgone : loc <+: l ++ [n]
    · simp [hgone] at h
    · rw [if_neg hgone] at h
      rw [if_neg fun hl => hgone (hl.trans (List.prefix_append l [n]))]
      exact t.parents l n h

/-- The names in a directory. -/
def readDir (dir : Location) : List Text :=
  (t.support.filterMap fun loc =>
    match loc.getLast? with
    | some name => if loc.dropLast = dir ∧ t.entry loc ≠ none then some name else none
    | none => none).dedup

/-- The limit of the system on the links of one path. -/
def maxLinks : Nat := 40

/-- The directory of a path given by its components. -/
def lookup (path : List Text) : Option Location := resolve t maxLinks [] path

def mkdir : Option FileTree :=
  match t.lookup parent with
  | none => none
  | some dir =>
    if h : t.IsDir dir ∧ Ordinary name ∧ t.entry (dir ++ [name]) = none then
      some (t.put dir name .dir h.1 (by simp [h.2.2]))
    else none

/-- All directories of a path that are missing, the components given in reverse. -/
def mkdirAllRev (t : FileTree) : List Text → Option FileTree
  | [] => some t
  | name :: parent =>
    if (t.lookup (name :: parent).reverse).isSome then some t
    else
      match t.mkdirAllRev parent with
      | none => none
      | some t => t.mkdir parent.reverse name

def mkdirAll (path : List Text) : Option FileTree := t.mkdirAllRev path.reverse

/-- Create a file or give it another content; `update` says which from the old one. -/
def writeFile (update : Option Text → Text) : Option FileTree :=
  match t.lookup parent with
  | none => none
  | some dir =>
    if h : t.IsDir dir ∧ Ordinary name then
      match hentry : t.entry (dir ++ [name]) with
      | none => some (t.put dir name (.file (update none)) h.1 (by simp [hentry]))
      | some (.file content) =>
        some (t.put dir name (.file (update (some content))) h.1 (by simp [hentry]))
      | some .dir => none
      | some (.link _) => none
    else none

def readFile : Option Text :=
  match t.lookup parent with
  | none => none
  | some dir =>
    match t.entry (dir ++ [name]) with
    | some (.file content) => some content
    | _ => none

end

section Laws

variable {t t' : FileTree} {loc p dir : Location} {comps : List Text} {name : Text} {node : FileNode}
  {hdir : t.IsDir dir}
  {hfree : t.entry (dir ++ [name]) ≠ some .dir}

@[simp] theorem put_entry_self : (t.put dir name node hdir hfree).entry (dir ++ [name]) = some node :=
  Function.update_self _ _ _

theorem put_entry_of_ne (h : loc ≠ dir ++ [name]) : (t.put dir name node hdir hfree).entry loc = t.entry loc :=
  Function.update_of_ne h _ _

theorem mem_readDir : name ∈ t.readDir dir ↔ t.entry (dir ++ [name]) ≠ none := by
  simp only [readDir, mem_dedup, mem_filterMap]
  constructor
  · intro ⟨loc, _, h⟩
    rcases eq_nil_or_concat loc with rfl | ⟨parent, last, rfl⟩
    · simp at h
    · simp only [concat_eq_append, getLast?_concat, dropLast_concat] at h
      split at h
      · rename_i hok
        obtain rfl : last = name := Option.some.inj h
        exact hok.1 ▸ hok.2
      · simp at h
  · intro h
    exact ⟨dir ++ [name], t.finite _ h, by simp [h]⟩

variable {path parent : List Text}

section

variable (hplain : ∀ target, t.entry (dir ++ [name]) ≠ some (.link target))

include hplain

theorem advance_put (h : advance t loc comps ≠ .missing) :
    advance (t.put dir name node hdir hfree) loc comps = advance t loc comps := by
  induction comps generalizing loc with
  | nil => rfl
  | cons c rest ih =>
    rw [advance] at h ⊢
    rw [advance]
    by_cases hstay : c = [] ∨ c = dot
    · rw [if_pos hstay] at h ⊢
      rw [if_pos hstay, ih h]
    rw [if_neg hstay] at h ⊢
    rw [if_neg hstay]
    by_cases hup : c = dotdot
    · rw [if_pos hup] at h ⊢
      rw [if_pos hup, ih h]
    rw [if_neg hup] at h ⊢
    rw [if_neg hup]
    -- a directory or a link on the way is not the entry that was put
    have hsame : ∀ found, t.entry (loc ++ [c]) = some found → found = .dir ∨ (∃ target, found = .link target) →
        (t.put dir name node hdir hfree).entry (loc ++ [c]) = some found := by
      intro found hfound hkind
      rw [put_entry_of_ne, hfound]
      intro heq
      rw [heq] at hfound
      rcases hkind with rfl | ⟨target, rfl⟩
      · exact hfree hfound
      · exact hplain target hfound
    cases hentry : t.entry (loc ++ [c]) with
    | none => simp [hentry] at h
    | some found =>
      cases found with
      | dir =>
        simp only [hentry, hsame _ hentry (.inl rfl)] at h ⊢
        exact ih h
      | file content => simp [hentry] at h
      | link target => simp only [hsame _ hentry (.inr ⟨target, rfl⟩)]

/-- What a path leads to is not changed by an entry that was neither a directory nor a link. -/
theorem resolve_put {links : Nat} (h : resolve t links loc comps = some p) :
    resolve (t.put dir name node hdir hfree) links loc comps = some p := by
  induction links generalizing loc comps with
  | zero =>
    rw [resolve] at h ⊢
    have hne : advance t loc comps ≠ .missing := fun hm => by simp [hm] at h
    rwa [advance_put hplain hne]
  | succ links ih =>
    rw [resolve] at h ⊢
    have hne : advance t loc comps ≠ .missing := fun hm => by simp [hm] at h
    rw [advance_put hplain hne]
    split at h
    · exact h
    · simp at h
    · exact ih h

theorem lookup_put (h : t.lookup path = some p) : (t.put dir name node hdir hfree).lookup path = some p :=
  resolve_put hplain h

end

theorem denotes_of_lookup (h : t.lookup path = some p) : Denotes t [] path p :=
  denotes_of_resolve h

theorem not_denotes_of_none {xs : List Text} {c : Text} (hden : Denotes t [] xs dir)
    (hc : Ordinary c) (hnone : t.entry (dir ++ [c]) = none) : ¬ ∃ p, Denotes t [] (xs ++ [c]) p := by
  intro ⟨p, hp⟩
  obtain ⟨q, hq, hqp⟩ := Denotes.append_iff.mp hp
  obtain rfl := hden.unique hq
  cases hqp with
  | stay hstay _ => exact not_ordinary_stay hstay hc
  | up _ => exact hc.2.2 rfl
  | enter _ hdir _ => exact absurd (hnone.symm.trans hdir) (by simp)
  | follow _ hlink _ => exact absurd (hnone.symm.trans hlink) (by simp)

theorem mkdir_cases (h : t.mkdir parent name = some t') :
    ∃ dir hdir hfree, Denotes t [] parent dir ∧ Ordinary name ∧ t.entry (dir ++ [name]) = none ∧
      t' = t.put dir name .dir hdir hfree := by
  unfold mkdir at h
  split at h
  · simp at h
  · rename_i dir hlookup
    split at h
    · rename_i hok
      exact ⟨dir, hok.1, _, denotes_of_lookup hlookup, hok.2.1, hok.2.2, (Option.some.inj h).symm⟩
    · simp at h

/-- **Rule for `mkdirAll`.** What the creation of one missing directory of the path keeps is kept. -/
theorem mkdirAll_invariant {P : FileTree → Prop}
    (hstep : ∀ (t : FileTree) xs c dir hdir hfree, xs ++ [c] <+: path → P t → Denotes t [] xs dir →
      ¬ (∃ p, Denotes t [] (xs ++ [c]) p) → t.entry (dir ++ [c]) = none →
      P (t.put dir c .dir hdir hfree)) (h : t.mkdirAll path = some t') (ht : P t) : P t' := by
  have hrev : ∀ (rev : List Text) (u : FileTree), rev.reverse <+: path → t.mkdirAllRev rev = some u → P u := by
    intro rev
    induction rev with
    | nil =>
      intro u _ hu
      obtain rfl : t = u := Option.some.inj hu
      exact ht
    | cons c rev ih =>
      intro u hpre hu
      rw [mkdirAllRev] at hu
      split at hu
      · obtain rfl : t = u := Option.some.inj hu
        exact ht
      · rw [reverse_cons] at hpre
        split at hu
        · simp at hu
        · rename_i t₁ h₁
          obtain ⟨dir, hdir, hfree, hden, hc, hnone, rfl⟩ := mkdir_cases hu
          have hp := ih t₁ ((prefix_append _ [c]).trans hpre) h₁
          exact hstep t₁ _ c dir hdir hfree hpre hp hden (not_denotes_of_none hden hc hnone) hnone
  exact hrev path.reverse t' (by simp) h

theorem writeFile_cases {update : Option Text → Text} (h : t.writeFile parent name update = some t') :
    ∃ dir hdir hfree content, Denotes t [] parent dir ∧ (∀ target, t.entry (dir ++ [name]) ≠ some (.link target)) ∧
      t' = t.put dir name (.file content) hdir hfree := by
  unfold writeFile at h
  split at h
  · simp at h
  · rename_i dir hlookup
    split at h
    · rename_i hok
      split at h
      · rename_i hentry
        exact ⟨dir, hok.1, _, _, denotes_of_lookup hlookup, by simp [hentry], (Option.some.inj h).symm⟩
      · rename_i content hentry
        exact ⟨dir, hok.1, _, _, denotes_of_lookup hlookup, by simp [hentry], (Option.some.inj h).symm⟩
      · simp at h
      · simp at h
    · simp at h

theorem readFile_cases {content : Text} (h : t.readFile parent name = some content) :
    ∃ dir, Denotes t [] parent dir ∧ t.entry (dir ++ [name]) = some (.file content) := by
  unfold readFile at h
  split at h
  · simp at h
  · rename_i dir hlookup
    split at h
    · rename_i c hentry
      cases h
      exact ⟨dir, denotes_of_lookup hlookup, hentry⟩
    · simp at h

end Laws

end FileTree

end VGpuManager.Foundation

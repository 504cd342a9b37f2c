import Mathlib.Data.List.Perm.Subperm
import Mathlib.Data.List.Infix
import Mathlib.Data.List.Nodup

/-!
# Union-find over parent pointers

Parent pointers are a list: entry `x` is the parent of `x`, and an index that is its own parent
is a root. `find` climbs with path halving, `link` hangs one root under another.
-/

namespace VGpuManager.Foundation.UnionFind

open List

/-- Parent pointers of a forest over `0 … n-1`. -/
abbrev Parents := List Nat

def parent (p : Parents) (x : Nat) : Nat := p.getD x x

/-- Climb to the root; every visited node is re-hung under its grandparent. -/
def find : Nat → Parents → Nat → Nat × Parents
  | 0, p, x => (x, p)
  | fuel + 1, p, x =>
    if parent p x = x then (x, p)
    else find fuel (p.set x (parent p (parent p x))) (parent p (parent p x))

/-- `n` nodes, each its own root. -/
def init (n : Nat) : Parents := List.range n

/-- The root of a node. -/
def rootOf (p : Parents) (x : Nat) : Nat := (find p.length p x).1

/-- Merge the classes of `i` and `j`; the root of `i` stays. -/
def unite (p : Parents) (i j : Nat) : Parents :=
  let (ri, p) := find p.length p i
  let (rj, p) := find p.length p j
  if ri = rj then p else p.set rj ri

/-- Merge the classes of `i` and `j`; the root of `j` stays. -/
def uniteUnder (p : Parents) (i j : Nat) : Parents :=
  let (ri, p) := find p.length p i
  let (rj, p) := find p.length p j
  if ri = rj then p else p.set ri rj

/-- Merge along a list of edges. -/
def uniteAll (p : Parents) (es : List (Nat × Nat)) : Parents :=
  es.foldl (fun p e => unite p e.1 e.2) p

/-! ## 1. Roots and heights -/

/-- `x` reaches the root `r` in `k` steps. -/
inductive Root (p : Parents) : Nat → Nat → Nat → Prop
  | here {r : Nat} : parent p r = r → Root p 0 r r
  | up {k x r : Nat} : parent p x ≠ x → Root p k (parent p x) r → Root p (k + 1) x r

variable {p q : Parents} {k l x y r s i j : Nat}

theorem Root.unique (h : Root p k x r) : ∀ {l s : Nat}, Root p l x s → k = l ∧ r = s := by
  induction h with
  | here hr =>
    intro l s h'
    cases h' with
    | here _ => exact ⟨rfl, rfl⟩
    | up hne _ => exact absurd hr hne
  | up hne _ ih =>
    intro l s h'
    cases h' with
    | here hr => exact absurd hr hne
    | up _ h'' =>
      obtain ⟨hk, hs⟩ := ih h''
      exact ⟨by omega, hs⟩

theorem Root.parent_root (h : Root p k x r) : parent p r = r := by
  induction h with
  | here hr => exact hr
  | up _ _ ih => exact ih

/-- Pointers stay inside the list and every node reaches a root. -/
structure Forest (p : Parents) : Prop where
  closed : ∀ x < p.length, parent p x < p.length
  reach : ∀ x, ∃ k r, Root p k x r

theorem parent_of_le (h : p.length ≤ x) : parent p x = x := by
  simp [parent, getD_eq_getElem?_getD, h]

theorem lt_length_of_parent_ne (h : parent p x ≠ x) : x < p.length := by
  by_contra hle
  exact h (parent_of_le (by omega))

theorem parent_set_self (h : x < p.length) : parent (p.set x y) x = y := by
  simp [parent, getD_eq_getElem?_getD, h]

theorem parent_set_ne (h : y ≠ x) : parent (p.set x s) y = parent p y := by
  simp [parent, getD_eq_getElem?_getD, getElem?_set_ne (Ne.symm h)]

/-- The proper nodes of a climb are distinct, so a climb is no longer than the list. -/
theorem Root.path (h : Root p k x r) : ∃ l : List Nat, l.length = k ∧ l.Nodup ∧
    ∀ y ∈ l, y < p.length ∧ ∃ j ≤ k, Root p j y r := by
  induction h with
  | here _ => exact ⟨[], rfl, nodup_nil, by simp⟩
  | @up k x r hne hroot ih =>
    obtain ⟨l, hlen, hnd, hmem⟩ := ih
    refine ⟨x :: l, by simp [hlen], nodup_cons.mpr ⟨fun hx => ?_, hnd⟩, ?_⟩
    · obtain ⟨-, j, hj, hrj⟩ := hmem x hx
      have := (hrj.unique (Root.up hne hroot)).1
      omega
    · intro y hy
      rcases mem_cons.mp hy with rfl | hy
      · exact ⟨lt_length_of_parent_ne hne, k + 1, le_rfl, Root.up hne hroot⟩
      · obtain ⟨hlt, j, hj, hrj⟩ := hmem y hy
        exact ⟨hlt, j, by omega, hrj⟩

theorem Root.height_le (h : Root p k x r) : k ≤ p.length := by
  obtain ⟨l, hlen, hnd, hmem⟩ := h.path
  have hsub : l ⊆ range p.length := fun y hy => mem_range.mpr (hmem y hy).1
  have := (subperm_of_subset hnd hsub).length_le
  simpa [hlen] using this

/-! ## 2. Path halving -/

/-- Re-hanging a node under its grandparent keeps every root and lengthens no climb. -/
theorem Root.halve (hx : parent p x ≠ x) (hr : Root p l x s) (h : Root p k y r) :
    ∃ k' ≤ k, Root (p.set x (parent p (parent p x))) k' y r := by
  have hlt := lt_length_of_parent_ne hx
  induction h with
  | @here r hroot =>
    have hne : r ≠ x := fun heq => hx (heq ▸ hroot)
    exact ⟨0, le_rfl, .here (by rw [parent_set_ne hne, hroot])⟩
  | @up k y r hne hroot ih =>
    obtain ⟨k', hk', hup⟩ := ih
    by_cases hyx : y = x
    · subst hyx
      -- the parent of `y` is a root of the old forest, or its own parent is `y`'s new one
      by_cases hgp : parent p (parent p y) = parent p y
      · refine ⟨k' + 1, by omega, .up ?_ ?_⟩ <;>
          rw [parent_set_self hlt, hgp]
        · exact hne
        · simpa [hgp] using hup
      · have hcyc : parent p (parent p y) ≠ y := by
          intro heq
          have h₁ : Root p (k + 1) y r := .up hne hroot
          cases hroot with
          | here hr => exact hgp hr
          | up _ h' =>
            rw [heq] at h'
            have := (h'.unique h₁).1
            omega
        have hpar : parent (p.set y (parent p (parent p y))) (parent p y) = parent p (parent p y) := parent_set_ne hne
        cases hup with
        | here hr => exact absurd (hpar ▸ hr) hgp
        | @up k₂ _ _ _ h' =>
          rw [hpar] at h'
          refine ⟨k₂ + 1, by omega, .up ?_ ?_⟩ <;> rw [parent_set_self hlt]
          · exact hcyc
          · exact h'
    · refine ⟨k' + 1, by omega, .up ?_ ?_⟩ <;> rw [parent_set_ne hyx]
      · exact hne
      · exact hup

/-- Pointers of the same nodes with the same roots everywhere. -/
structure SameRoots (p q : Parents) : Prop where
  length : q.length = p.length
  closed : ∀ x < q.length, parent q x < q.length
  root : ∀ y m t, Root p m y t → ∃ m', Root q m' y t

theorem SameRoots.refl (hf : Forest p) : SameRoots p p :=
  ⟨rfl, hf.closed, fun _ m _ h => ⟨m, h⟩⟩

theorem SameRoots.forest (h : SameRoots p q) (hf : Forest p) : Forest q := by
  refine ⟨h.closed, fun x => ?_⟩
  obtain ⟨k, r, hx⟩ := hf.reach x
  obtain ⟨k', hx'⟩ := h.root x k r hx
  exact ⟨k', r, hx'⟩

theorem SameRoots.trans {t : Parents} (h : SameRoots p q) (h' : SameRoots q t) : SameRoots p t := by
  refine ⟨h'.length.trans h.length, h'.closed, fun y m t hy => ?_⟩
  obtain ⟨m', hy'⟩ := h.root y m t hy
  exact h'.root y m' t hy'

theorem closed_set (hf : Forest p) (hy : y < p.length) :
    ∀ z < (p.set x y).length, parent (p.set x y) z < (p.set x y).length := by
  intro z hz
  rw [length_set] at hz ⊢
  by_cases hzx : z = x
  · subst hzx; rwa [parent_set_self hz]
  · rw [parent_set_ne hzx]; exact hf.closed z hz

/-- **`find` answers the root**, and the halved pointers have the same roots. -/
theorem find_root : ∀ {fuel : Nat} {p : Parents} {k x r : Nat}, Forest p → Root p k x r →
    k ≤ fuel → (find fuel p x).1 = r ∧ SameRoots p (find fuel p x).2
  | 0, p, k, x, r, hf, h, hk => by
    have hzero : k = 0 := by omega
    subst hzero
    cases h with
    | here _ => exact ⟨rfl, .refl hf⟩
  | fuel + 1, p, k, x, r, hf, h, hk => by
    cases h with
    | here hr => rw [find, if_pos hr]; exact ⟨rfl, .refl hf⟩
    | @up k _ _ hne hroot =>
      have hx : Root p (k + 1) x r := .up hne hroot
      have hlt := lt_length_of_parent_ne hne
      have halved : SameRoots p (p.set x (parent p (parent p x))) := by
        refine ⟨length_set, closed_set hf (hf.closed _ (hf.closed _ hlt)), ?_⟩
        intro y m t hy
        obtain ⟨m', -, hy'⟩ := hx.halve hne hy
        exact ⟨m', hy'⟩
      -- the grandparent is at most as high as the parent
      have hgp : ∃ m ≤ k, Root p m (parent p (parent p x)) r := by
        cases hroot with
        | here hr => exact ⟨0, le_rfl, by rw [hr]; exact .here hr⟩
        | up _ h' => exact ⟨_, Nat.le_succ _, h'⟩
      obtain ⟨m, hm, hgp⟩ := hgp
      obtain ⟨m', hm', hgp'⟩ := hx.halve hne hgp
      obtain ⟨hans, hsame⟩ := find_root (halved.forest hf) hgp' (show m' ≤ fuel by omega)
      simp only [find, if_neg hne]
      exact ⟨hans, halved.trans hsame⟩

/-! ## 3. Uniting classes -/

/-- The class of `s` gets the label `r`. -/
def relabel (lab : Nat → Nat) (s r : Nat) (x : Nat) : Nat := if lab x = s then r else lab x

variable {lab : Nat → Nat} {es : List (Nat × Nat)}

theorem relabel_of_eq (h : lab x = s) : relabel lab s r x = r := if_pos h

theorem relabel_self (lab : Nat → Nat) (r : Nat) (x : Nat) : relabel lab r r x = lab x := by
  unfold relabel
  split
  · rename_i h; exact h.symm
  · rfl

theorem relabel_of_ne (h : lab x ≠ s) : relabel lab s r x = lab x := if_neg h

theorem Root.link (hr : parent p r = r) (hs : parent p s = s) (hne : r ≠ s) (hlt : s < p.length)
    {t : Nat} (h : Root p k y t) : ∃ k', Root (p.set s r) k' y (if t = s then r else t) := by
  induction h with
  | @here t ht =>
    by_cases hts : t = s
    · subst hts
      rw [if_pos rfl]
      refine ⟨1, .up ?_ ?_⟩ <;> rw [parent_set_self hlt]
      · exact hne
      · exact .here (by rw [parent_set_ne hne, hr])
    · rw [if_neg hts]
      exact ⟨0, .here (by rw [parent_set_ne hts, ht])⟩
  | @up k y t hy _ ih =>
    obtain ⟨k', ih⟩ := ih
    have hys : y ≠ s := fun heq => hy (heq ▸ hs)
    refine ⟨k' + 1, .up ?_ ?_⟩ <;> rw [parent_set_ne hys]
    · exact hy
    · exact ih

/-- The root of `j` goes under that of `i`, in pointers `q` that the climbs have halved. -/
def merge (p q : Parents) (i j : Nat) : Parents :=
  if rootOf p i = rootOf p j then q else q.set (rootOf p j) (rootOf p i)

section Forest

variable (hf : Forest p)

include hf

theorem rootOf_eq (h : Root p k x r) : rootOf p x = r :=
  (find_root hf h h.height_le).1

theorem root_rootOf (x : Nat) : ∃ k, Root p k x (rootOf p x) := by
  obtain ⟨k, r, h⟩ := hf.reach x
  exact ⟨k, by rwa [rootOf_eq hf h]⟩

theorem SameRoots.rootOf (h : SameRoots p q) (x : Nat) : rootOf q x = rootOf p x := by
  obtain ⟨k, hx⟩ := root_rootOf hf x
  obtain ⟨k', hx'⟩ := h.root x k _ hx
  exact rootOf_eq (h.forest hf) hx'

theorem find_sameRoots (x : Nat) : SameRoots p (find p.length p x).2 := by
  obtain ⟨k, r, hx⟩ := hf.reach x
  exact (find_root hf hx hx.height_le).2

theorem Root.lt (h : Root p k x r) (hx : x < p.length) : r < p.length := by
  induction h with
  | here _ => exact hx
  | up _ _ ih => exact ih (hf.closed _ hx)

theorem rootOf_lt (hx : x < p.length) : rootOf p x < p.length := by
  obtain ⟨k, h⟩ := root_rootOf hf x
  exact h.lt hf hx

theorem parent_rootOf (x : Nat) : parent p (rootOf p x) = rootOf p x := by
  obtain ⟨k, h⟩ := root_rootOf hf x
  exact h.parent_root

/-- Two climbs, the second on the pointers that the first one left. -/
theorem find_twice (i j : Nat) : (find (find p.length p i).2.length (find p.length p i).2 j).1 = rootOf p j ∧
      SameRoots p (find (find p.length p i).2.length (find p.length p i).2 j).2 := by
  have h₁ := find_sameRoots hf i
  have hf₁ := h₁.forest hf
  exact ⟨h₁.rootOf hf j, h₁.trans (find_sameRoots hf₁ j)⟩

/-- Hanging one root under another relabels exactly its class. -/
theorem link_spec (hr : parent p r = r) (hs : parent p s = s) (hne : r ≠ s)
    (hrlt : r < p.length) (hslt : s < p.length) :
    Forest (p.set s r) ∧ ∀ x, rootOf (p.set s r) x = relabel (rootOf p) s r x := by
  have hlink : ∀ x, ∃ k, Root (p.set s r) k x (relabel (rootOf p) s r x) := by
    intro x
    obtain ⟨k, hk⟩ := root_rootOf hf x
    exact hk.link hr hs hne hslt
  have hf' : Forest (p.set s r) := by
    refine ⟨closed_set hf hrlt, fun x => ?_⟩
    obtain ⟨k, hk⟩ := hlink x
    exact ⟨k, _, hk⟩
  refine ⟨hf', fun x => ?_⟩
  obtain ⟨k, hk⟩ := hlink x
  exact rootOf_eq hf' hk

variable (hi : i < p.length) (hj : j < p.length)

include hi hj

/-- Merging keeps the forest and relabels exactly the class of `j`. -/
theorem merge_spec (hsame : SameRoots p q) : Forest (merge p q i j) ∧ (merge p q i j).length = p.length ∧
      ∀ x, rootOf (merge p q i j) x = relabel (rootOf p) (rootOf p j) (rootOf p i) x := by
  have hroot := hsame.rootOf hf
  have hfq := hsame.forest hf
  unfold merge
  split
  · rename_i heq
    exact ⟨hfq, hsame.length, fun x => by rw [hroot, heq, relabel_self]⟩
  · rename_i hne
    have hself : ∀ x, parent q (rootOf p x) = rootOf p x := fun x => hroot x ▸ parent_rootOf hfq x
    have hlt : ∀ {x}, x < p.length → rootOf p x < q.length := fun hx => by
      rw [hsame.length]; exact rootOf_lt hf hx
    obtain ⟨hf', hrel⟩ := link_spec hfq (hself i) (hself j) hne (hlt hi) (hlt hj)
    refine ⟨hf', by rw [length_set, hsame.length], fun x => ?_⟩
    rw [hrel, show rootOf q = rootOf p from funext hroot]

end Forest

/-! ## 4. Edges and components -/

/-- The nodes of an edge list, joined directly. -/
def Joined (es : List (Nat × Nat)) (x y : Nat) : Prop := (x, y) ∈ es

/-- The nodes the edges connect, in any number of steps and either direction. -/
def Connected (es : List (Nat × Nat)) : Nat → Nat → Prop := Relation.EqvGen (Joined es)

theorem Connected.mono {fs : List (Nat × Nat)} (hsub : es ⊆ fs) (h : Connected es x y) : Connected fs x y :=
  Relation.EqvGen.mono (fun _ _ hxy => hsub hxy) _ _ h

/-- A node that is connected to another one is on an edge. -/
theorem Connected.on_edges (on : Nat → Prop) (hon : ∀ e ∈ es, on e.1 ∧ on e.2)
    (h : Connected es x y) : x = y ∨ (on x ∧ on y) := by
  induction h with
  | refl x => exact .inl rfl
  | rel x y hxy => exact .inr (hon (x, y) hxy)
  | symm x y _ ih => exact ih.imp Eq.symm And.symm
  | trans x y z _ _ ih₁ ih₂ =>
    rcases ih₁ with rfl | h₁
    · exact ih₂
    · rcases ih₂ with rfl | h₂
      · exact .inr h₁
      · exact .inr ⟨h₁.1, h₂.2⟩

theorem Connected.nil (h : Connected [] x y) : x = y :=
  (h.on_edges (fun _ => False) (by simp)).resolve_right And.left

/-- One more edge: relabelling the class of its second end is what connectivity asks for. -/
theorem connected_snoc (h : ∀ x y, lab x = lab y ↔ Connected es x y) (x y : Nat) :
    relabel lab (lab j) (lab i) x = relabel lab (lab j) (lab i) y ↔ Connected (es ++ [(i, j)]) x y := by
  have old : ∀ {u v}, lab u = lab v → Connected (es ++ [(i, j)]) u v := fun huv =>
    ((h _ _).mp huv).mono (subset_append_left _ _)
  have hij : Connected (es ++ [(i, j)]) i j := .rel _ _ (by simp [Joined])
  unfold relabel
  constructor
  · intro heq
    split at heq <;> split at heq
    · rename_i hx hy; exact old (hx.trans hy.symm)
    · rename_i hx hy; exact .trans _ _ _ (old hx) (.trans _ _ _ hij.symm (old heq))
    · rename_i hx hy; exact .trans _ _ _ (old heq) (.trans _ _ _ hij (old hy.symm))
    · exact old heq
  · intro hc
    induction hc with
    | rel u v huv =>
      rcases mem_append.mp huv with huv | huv
      · rw [(h u v).mpr (.rel _ _ huv)]
      · simp only [mem_singleton, Prod.mk.injEq] at huv
        obtain ⟨rfl, rfl⟩ := huv
        simp
    | refl _ => rfl
    | symm _ _ _ ih => exact ih.symm
    | trans _ _ _ _ _ ih₁ ih₂ => exact ih₁.trans ih₂

/-- An edge may be read from either end. -/
theorem connected_snoc_swap (h : Connected (es ++ [(i, j)]) x y) : Connected (es ++ [(j, i)]) x y := by
  refine (Relation.EqvGen.is_equivalence _).eqvGen_iff.mp (Relation.EqvGen.mono (fun u v huv => ?_) _ _ h)
  rcases mem_append.mp huv with huv | huv
  · exact .rel _ _ (mem_append_left _ huv)
  · simp only [mem_singleton, Prod.mk.injEq] at huv
    obtain ⟨rfl, rfl⟩ := huv
    exact .symm _ _ (.rel _ _ (mem_append_right _ (.head _)))

theorem parent_init (n x : Nat) : parent (init n) x = x := by
  rcases lt_or_ge x n with h | h
  · simp [parent, init, getD_eq_getElem?_getD, h]
  · exact parent_of_le (by simpa [init] using h)

theorem forest_init (n : Nat) : Forest (init n) :=
  ⟨fun x hx => by rwa [parent_init], fun x => ⟨0, x, .here (parent_init n x)⟩⟩

theorem rootOf_init (n x : Nat) : rootOf (init n) x = x :=
  rootOf_eq (forest_init n) (.here (parent_init n x))

/-- Without edges every node is by itself. -/
theorem roots_init (n x y : Nat) : rootOf (init n) x = rootOf (init n) y ↔ Connected [] x y := by
  rw [rootOf_init, rootOf_init]
  exact ⟨fun h => h ▸ .refl _, Connected.nil⟩

/-- A forest over `0 … n-1` whose classes are what the edges connect. -/
structure Classes (n : Nat) (es : List (Nat × Nat)) (p : Parents) : Prop where
  forest : Forest p
  length : p.length = n
  roots : ∀ x y, rootOf p x = rootOf p y ↔ Connected es x y

theorem classes_init (n : Nat) : Classes n [] (init n) := ⟨forest_init n, length_range, roots_init n⟩

section Classes

variable {n : Nat} {ds : List (Nat × Nat)}

theorem Classes.merge (h : Classes n ds p) (hsame : SameRoots p q) (hi : i < n) (hj : j < n) :
    Classes n (ds ++ [(i, j)]) (merge p q i j) := by
  obtain ⟨hf, hlen, hroot⟩ := merge_spec h.forest (h.length ▸ hi) (h.length ▸ hj) hsame
  refine ⟨hf, hlen.trans h.length, fun x y => ?_⟩
  rw [hroot, hroot]
  exact connected_snoc h.roots x y

theorem Classes.unite (h : Classes n ds p) (hi : i < n) (hj : j < n) : Classes n (ds ++ [(i, j)]) (unite p i j) := by
  obtain ⟨hrj, hsame⟩ := find_twice h.forest i j
  have hmerged := h.merge hsame hi hj
  rw [UnionFind.merge, ← hrj] at hmerged
  exact hmerged

theorem Classes.uniteUnder (h : Classes n ds p) (hi : i < n) (hj : j < n) :
    Classes n (ds ++ [(i, j)]) (uniteUnder p i j) := by
  obtain ⟨hrj, hsame⟩ := find_twice h.forest i j
  have hstep : UnionFind.uniteUnder p i j =
      UnionFind.merge p (find (find p.length p i).2.length (find p.length p i).2 j).2 j i := by
    have hri : (find p.length p i).1 = rootOf p i := rfl
    unfold UnionFind.uniteUnder UnionFind.merge
    dsimp only
    rw [hrj, hri]
    by_cases heq : rootOf p i = rootOf p j
    · rw [if_pos heq, if_pos heq.symm]
    · rw [if_neg heq, if_neg (Ne.symm heq)]
  have hmerged := h.merge hsame hj hi
  rw [hstep]
  exact { hmerged with roots := fun x y => (hmerged.roots x y).trans ⟨connected_snoc_swap, connected_snoc_swap⟩ }

theorem Classes.uniteAll (h : Classes n ds p) (hes : ∀ e ∈ es, e.1 < n ∧ e.2 < n) :
    Classes n (ds ++ es) (uniteAll p es) := by
  induction es generalizing ds p with
  | nil => simpa [UnionFind.uniteAll] using h
  | cons e es ih =>
    obtain ⟨hi, hj⟩ := hes e (.head _)
    have hrest := ih (h.unite hi hj) fun e he => hes e (.tail _ he)
    rwa [append_assoc] at hrest

end Classes

/-! ## 5. Sizes of classes -/

section Sizes

variable {n m t : Nat}

/-- How many of the first `n` nodes have the label. -/
def classSize (n : Nat) (lab : Nat → Nat) (r : Nat) : Nat := (List.range n).countP fun x => lab x = r

theorem classSize_init (hx : x < n) : classSize n (rootOf (init n)) x = 1 := by
  have hcount : (range n).count x = 1 := count_eq_one_of_mem nodup_range (mem_range.mpr hx)
  rw [← hcount, count, classSize]
  exact countP_congr fun y _ => by rw [rootOf_init, decide_eq_true_eq, beq_iff_eq]

/-- A class that is relabelled joins the other one. -/
theorem classSize_relabel (n : Nat) (lab : Nat → Nat) (hne : r ≠ s) :
    classSize n (relabel lab s r) r = classSize n lab r + classSize n lab s := by
  unfold classSize
  induction range n with
  | nil => rfl
  | cons x l ih =>
    simp only [countP_cons, ih, decide_eq_true_eq]
    by_cases hs : lab x = s
    · rw [if_pos (relabel_of_eq hs), if_neg fun hr => hne (hr.symm.trans hs), if_pos hs]
      omega
    · rw [relabel_of_ne hs, if_neg hs]
      omega

theorem classSize_relabel_ne (n : Nat) (lab : Nat → Nat) (hr : t ≠ r) (hs : t ≠ s) :
    classSize n (relabel lab s r) t = classSize n lab t := by
  refine countP_congr fun x _ => ?_
  rw [decide_eq_true_eq, decide_eq_true_eq]
  by_cases hx : lab x = s
  · rw [relabel_of_eq hx, hx]
    exact ⟨fun h => absurd h.symm hr, fun h => absurd h.symm hs⟩
  · rw [relabel_of_ne hx]

/-- The largest class of the first `n` nodes has `m` of them. -/
structure Largest (n : Nat) (lab : Nat → Nat) (m : Nat) : Prop where
  bound : ∀ x < n, classSize n lab (lab x) ≤ m
  reached : 0 < n → ∃ x < n, classSize n lab (lab x) = m

/-- The label of a node after its class is relabelled, and the size of its class. -/
theorem classSize_relabel_cases (n : Nat) (lab : Nat → Nat) (hne : r ≠ s) (x : Nat) : (relabel lab s r x = r ∧
        classSize n (relabel lab s r) (relabel lab s r x) = classSize n lab r + classSize n lab s) ∨
      (relabel lab s r x = lab x ∧ lab x ≠ r ∧
        classSize n (relabel lab s r) (relabel lab s r x) = classSize n lab (lab x)) := by
  by_cases hx : lab x = s
  · exact .inl ⟨relabel_of_eq hx, by rw [relabel_of_eq hx, classSize_relabel n lab hne]⟩
  · by_cases hr : lab x = r
    · exact .inl ⟨by rw [relabel_of_ne hx, hr], by rw [relabel_of_ne hx, hr, classSize_relabel n lab hne]⟩
    · exact .inr ⟨relabel_of_ne hx, hr, by rw [relabel_of_ne hx, classSize_relabel_ne n lab hr hx]⟩

/-- **The largest class after a merge** is the merged one or the largest so far. -/
theorem Largest.relabel (h : Largest n lab m) (hne : lab i ≠ lab j) (hi : i < n) :
    Largest n (relabel lab (lab j) (lab i)) (max m (classSize n lab (lab i) + classSize n lab (lab j))) where
  bound x hx := by
    have hold := h.bound x hx
    rcases classSize_relabel_cases n lab hne x with ⟨-, hsize⟩ | ⟨-, -, hsize⟩ <;> omega
  reached hn := by
    by_cases hle : m ≤ classSize n lab (lab i) + classSize n lab (lab j)
    · refine ⟨i, hi, ?_⟩
      rw [relabel_of_ne hne, classSize_relabel n lab hne]
      omega
    · -- the class that was largest is neither of the two
      obtain ⟨x, hx, hsize⟩ := h.reached hn
      have hr : lab x ≠ lab i := fun heq => by rw [heq] at hsize; omega
      have hs : lab x ≠ lab j := fun heq => by rw [heq] at hsize; omega
      refine ⟨x, hx, ?_⟩
      rw [relabel_of_ne hs, classSize_relabel_ne n lab hr hs]
      omega

end Sizes

end VGpuManager.Foundation.UnionFind

import Mathlib.Data.Set.Card
import Mathlib.Order.Lattice.Nat
import VGpuManager.Links

/-!
# Tiers are components of the link matrix

`computeTieredComponents` runs one union-find over all tiers, tightest first, and reads the roots and the
largest size off after each tier. This file compares what it reads off with the link matrix of the node.
-/

namespace VGpuManager

open Foundation UnionFind List

/-! ## 1. The link matrix -/

variable (devices : DeviceList)

/-- The strongest link from one GPU of the list to another; `0` without a link. -/
def DeviceList.strongest (i j : Nat) : Nat :=
  match devices[i]? with
  | some (some d) => (d.linksTo j).foldl max 0
  | _ => 0

/-- Links are published from both of their ends. -/
def DeviceList.Symmetric : Prop :=
  ∀ i < devices.length, ∀ j < devices.length, DeviceList.strongest devices i j = DeviceList.strongest devices j i

instance (devices : DeviceList) : Decidable devices.Symmetric :=
  inferInstanceAs (Decidable (∀ i < devices.length, ∀ j < devices.length, _))

/-- Two GPUs with a direct link that counts at the tier. -/
structure LinkedAt (devices : DeviceList) (tier : LinkTier) (i j : Nat) : Prop where
  left : i < devices.length
  right : j < devices.length
  strong : tier.threshold ≤ DeviceList.strongest devices i j

/-- Two GPUs connected through links that count at the tier. -/
def ReachableAt (tier : LinkTier) : Nat → Nat → Prop :=
  Relation.ReflTransGen (LinkedAt devices tier)

/-- The GPUs connected with one of them. -/
def componentAt (tier : LinkTier) (i : Nat) : Set Nat :=
  {j | j < devices.length ∧ ReachableAt devices tier i j}

/-- The size of the largest component. -/
noncomputable def largestAt (tier : LinkTier) : Nat :=
  (Finset.range devices.length).sup fun i => (componentAt devices tier i).ncard

/-- `rootOf`. -/
def TieredComponents.rootOf (tc : TieredComponents) (tier : LinkTier) (index : Int) : Int :=
  if index < 0 ∨ tc.n ≤ index then -1 else (tc.roots tier).getD index.toNat 0

variable {P : Platform} {devices} {tier : LinkTier} {i j : Nat}

theorem mem_tieredEdges {e : TieredEdge} : e ∈ tieredEdges P devices ↔
    e.i < e.j ∧ e.j < devices.length ∧ e.t = DeviceList.strongest devices e.i e.j ∧ e.t ≠ 0 := by
  unfold tieredEdges
  simp only [mem_flatMap, Prod.exists, mem_zipIdx_iff_getElem?]
  constructor
  · intro ⟨d, i, hget, he⟩
    cases d with
    | none => cases he
    | some d =>
      simp only [mem_filterMap, Prod.exists, Option.ite_none_left_eq_some, not_or, Int.not_le] at he
      obtain ⟨j, ls, hwalk, ⟨hij, hj, hbest⟩, heq⟩ := he
      cases heq
      have hlinks : d.linksTo ((j.toNat : Nat) : Int) = ls := by
        rw [Int.toNat_of_nonneg (by omega), LinkDevice.linksTo, Dict.getD, (Dict.mem_walk P).mp hwalk]
        rfl
      have hstrong : DeviceList.strongest devices i j.toNat = ls.foldl max 0 := by
        simp only [DeviceList.strongest, hget, hlinks]
      exact ⟨show i < j.toNat by omega, show j.toNat < devices.length by omega, hstrong.symm, hbest⟩
  · intro ⟨hij, hj, ht, hne⟩
    cases hget : devices[e.i]? with
    | none => simp [DeviceList.strongest, hget, ht] at hne
    | some d =>
      cases d with
      | none => simp [DeviceList.strongest, hget, ht] at hne
      | some d =>
        simp only [DeviceList.strongest, hget, LinkDevice.linksTo, Dict.getD] at ht
        cases hlinks : d.links.lookup (e.j : Int) with
        | none => simp [hlinks, ht] at hne
        | some ls =>
          rw [hlinks, Option.getD_some] at ht
          refine ⟨some d, e.i, hget, mem_filterMap.mpr ⟨(e.j, ls), (Dict.mem_walk P).mpr hlinks, ?_⟩⟩
          dsimp only
          rw [if_neg (by omega), ← ht, Int.toNat_natCast]

/-! ## 2. Union-find with sizes -/

namespace SizedForest

variable {f : SizedForest} {n : Nat} {q : Parents} {ds : List (Nat × Nat)}

/-- What is kept of the classes is right: the size at each root, and the largest one. -/
structure Sized (n : Nat) (f : SizedForest) : Prop where
  forest : Forest f.parents
  nodes : f.parents.length = n
  sizes : f.size.length = n
  size : ∀ x < n, f.size.getD (rootOf f.parents x) 0 = classSize n (rootOf f.parents) (rootOf f.parents x)
  largest : Largest n (rootOf f.parents) f.maxSize

/-- The root of `j` is hung under that of `i`. -/
def linkRoots (f : SizedForest) (q : Parents) (i j : Nat) : SizedForest :=
  let ri := rootOf f.parents i
  let rj := rootOf f.parents j
  let s := f.size.getD ri 0 + f.size.getD rj 0
  { parents := q.set rj ri, size := f.size.set ri s, maxSize := max f.maxSize s }

/-- What a union does: it climbs twice, and hangs one of two different roots under the other. -/
theorem union_cases (hf : Forest f.parents) (a b : Nat) : ∃ q, SameRoots f.parents q ∧
    ((rootOf f.parents a = rootOf f.parents b ∧ f.union a b = { f with parents := q }) ∨
      (rootOf f.parents a ≠ rootOf f.parents b ∧
        (f.union a b = f.linkRoots q a b ∨ f.union a b = f.linkRoots q b a))) := by
  obtain ⟨hrb, hsame⟩ := find_twice hf a b
  refine ⟨_, hsame, ?_⟩
  unfold union
  simp only [hrb]
  by_cases heq : rootOf f.parents a = rootOf f.parents b
  · exact .inl ⟨heq, if_pos heq⟩
  · refine .inr ⟨heq, ?_⟩
    have hra : (find f.parents.length f.parents a).1 = rootOf f.parents a := rfl
    rw [hra, if_neg heq]
    by_cases hsize : f.size.getD (rootOf f.parents a) 0 < f.size.getD (rootOf f.parents b) 0
    · exact .inr (by rw [if_pos hsize]; rfl)
    · exact .inl (by rw [if_neg hsize]; rfl)

theorem Sized.linkRoots (h : f.Sized n) (hq : SameRoots f.parents q) (hi : i < n) (hj : j < n)
    (hne : rootOf f.parents i ≠ rootOf f.parents j) : (f.linkRoots q i j).Sized n ∧
      rootOf (f.linkRoots q i j).parents = relabel (rootOf f.parents) (rootOf f.parents j) (rootOf f.parents i) := by
  have hroot := hq.rootOf h.forest
  have hself : ∀ x, parent q (rootOf f.parents x) = rootOf f.parents x := fun x =>
    hroot x ▸ parent_rootOf (hq.forest h.forest) x
  have hlt : ∀ {x}, x < n → rootOf f.parents x < q.length := fun hx => by
    rw [hq.length]
    exact rootOf_lt h.forest (by rw [h.nodes]; exact hx)
  obtain ⟨hforest, hrel⟩ := link_spec (hq.forest h.forest) (hself i) (hself j) hne (hlt hi) (hlt hj)
  have hrel' : rootOf (f.linkRoots q i j).parents =
      relabel (rootOf f.parents) (rootOf f.parents j) (rootOf f.parents i) := by
    funext x
    rw [← show rootOf q = rootOf f.parents from funext hroot]
    rw [hroot i, hroot j]
    exact hrel x
  refine ⟨⟨hforest, ?_, ?_, fun x hx => ?_, ?_⟩, hrel'⟩
  · exact (length_set).trans (hq.length.trans h.nodes)
  · exact (length_set).trans h.sizes
  · -- the merged class is at the root of `i`, the others are where they were
    rw [hrel']
    have hri : rootOf f.parents i < f.size.length := by rw [h.sizes, ← h.nodes, ← hq.length]; exact hlt hi
    rcases classSize_relabel_cases n (rootOf f.parents) hne x with ⟨hx', hsize⟩ | ⟨hx', hother, hsize⟩
    · rw [hsize, hx', ← h.size i hi, ← h.size j hj]
      simp [SizedForest.linkRoots, getD_eq_getElem?_getD, hri]
    · rw [hsize, hx', ← h.size x hx]
      simp [SizedForest.linkRoots, getD_eq_getElem?_getD, getElem?_set_ne hother.symm]
  · rw [hrel']
    have hmax : (f.linkRoots q i j).maxSize = max f.maxSize (classSize n (rootOf f.parents)
        (rootOf f.parents i) + classSize n (rootOf f.parents) (rootOf f.parents j)) := by
      rw [← h.size i hi, ← h.size j hj]
      rfl
    rw [hmax]
    exact h.largest.relabel hne hi

/-- The forest that the edges build: its sizes are right, and its classes are what the edges connect. -/
structure Built (n : Nat) (ds : List (Nat × Nat)) (f : SizedForest) : Prop where
  sized : f.Sized n
  roots : ∀ x y, rootOf f.parents x = rootOf f.parents y ↔ Connected ds x y

theorem Built.union (h : Built n ds f) {a b : Nat} (ha : a < n) (hb : b < n) :
    Built n (ds ++ [(a, b)]) (f.union a b) := by
  obtain ⟨q, hq, hcases⟩ := union_cases h.sized.forest a b
  have hroot : rootOf q = rootOf f.parents := funext (hq.rootOf h.sized.forest)
  rcases hcases with ⟨heq, hunion⟩ | ⟨hne, hunion | hunion⟩ <;> rw [hunion]
  · refine ⟨⟨hq.forest h.sized.forest, hq.length.trans h.sized.nodes, h.sized.sizes, ?_, ?_⟩, ?_⟩
    · exact hroot ▸ h.sized.size
    · exact hroot ▸ h.sized.largest
    · intro x y
      have hsnoc := connected_snoc (i := a) (j := b) h.roots x y
      rw [heq, relabel_self, relabel_self] at hsnoc
      exact hroot ▸ hsnoc
  · obtain ⟨hsized, hrel⟩ := h.sized.linkRoots hq ha hb hne
    refine ⟨hsized, fun x y => ?_⟩
    rw [hrel]
    exact connected_snoc h.roots x y
  · obtain ⟨hsized, hrel⟩ := h.sized.linkRoots hq hb ha hne.symm
    refine ⟨hsized, fun x y => ?_⟩
    rw [hrel]
    exact (connected_snoc h.roots x y).trans ⟨connected_snoc_swap, connected_snoc_swap⟩

/-- Edges that the later ones repeat add nothing. -/
theorem Built.narrow {es : List (Nat × Nat)} (h : Built n (ds ++ es) f) (hsub : ds ⊆ es) : Built n es f :=
  ⟨h.sized, fun x y => (h.roots x y).trans ⟨fun hc => hc.mono (append_subset.mpr ⟨hsub, List.Subset.refl es⟩),
      fun hc => hc.mono (subset_append_right ds es)⟩⟩

/-- Each node by itself. -/
theorem built_start (n : Nat) : Built n [] ⟨UnionFind.init n, List.replicate n 1, 1⟩ := by
  refine ⟨⟨forest_init n, length_range, length_replicate, fun x hx => ?_, ?_⟩, roots_init n⟩
  · rw [rootOf_init, classSize_init hx]
    simp [getD_eq_getElem?_getD, hx]
  · refine ⟨fun x hx => ?_, fun hn => ⟨0, hn, ?_⟩⟩
    · rw [rootOf_init, classSize_init hx]
    · rw [rootOf_init, classSize_init hn]

end SizedForest

/-! ## 3. One tier after the other -/

section Ladder

open SizedForest

variable {edges : List TieredEdge} {n : Nat} {ds : List (Nat × Nat)} {f : SizedForest}

/-- The pairs that a tier joins. -/
def tierPairs (edges : List TieredEdge) (tier : LinkTier) : List (Nat × Nat) :=
  (edges.filter fun e => tier.threshold ≤ e.t).map fun e => (e.i, e.j)

theorem tierPairs_subset {looser : LinkTier} (h : tier.rank ≤ looser.rank) :
    tierPairs edges tier ⊆ tierPairs edges looser := by
  refine map_subset _ fun e he => ?_
  obtain ⟨hmem, ht⟩ := mem_filter.mp he
  refine mem_filter.mpr ⟨hmem, ?_⟩
  simp only [decide_eq_true_eq] at ht ⊢
  exact (LinkTier.threshold_le h).trans ht

theorem built_unions (hedges : ∀ e ∈ edges, e.i < n ∧ e.j < n) (h : Built n ds f) :
    Built n (ds ++ edges.map fun e => (e.i, e.j)) (edges.foldl (fun f e => f.union e.i e.j) f) := by
  induction edges generalizing ds f with
  | nil => simpa using h
  | cons e edges ih =>
    obtain ⟨hi, hj⟩ := hedges e (.head _)
    have hrest := ih (fun e he => hedges e (.tail _ he)) (h.union hi hj)
    rwa [append_assoc] at hrest

theorem Built.addTier (tier : LinkTier) (hedges : ∀ e ∈ edges, e.i < n ∧ e.j < n) (h : Built n ds f)
    (hsub : ds ⊆ tierPairs edges tier) : Built n (tierPairs edges tier) (addTier edges f tier) :=
  (built_unions (fun e he => hedges e (mem_filter.mp he).1) h).narrow hsub

/-- **What is read off at a tier** comes from a forest that the pairs of this tier alone would build. -/
theorem tier_built (P : Platform) (devices : DeviceList) (tier : LinkTier) : ∃ f,
    Built devices.length (tierPairs (tieredEdges P devices) tier) f ∧ (computeTieredComponents P devices).roots tier =
        (List.range devices.length).map (UnionFind.rootOf f.parents) ∧
      (computeTieredComponents P devices).maxSize tier = if devices.length = 0 then 0 else f.maxSize := by
  have hedges : ∀ e ∈ tieredEdges P devices, e.i < devices.length ∧ e.j < devices.length := fun e he => by
    obtain ⟨hij, hj, -⟩ := mem_tieredEdges.mp he
    exact ⟨hij.trans hj, hj⟩
  have hnv := Built.addTier .nvlink hedges (built_start devices.length) (nil_subset _)
  have hsw := Built.addTier .switch hedges hnv (tierPairs_subset (by decide))
  have hnuma := Built.addTier .numa hedges hsw (tierPairs_subset (by decide))
  cases tier with
  | nvlink => exact ⟨_, hnv, rfl, rfl⟩
  | switch => exact ⟨_, hsw, rfl, rfl⟩
  | numa => exact ⟨_, hnuma, rfl, rfl⟩
  | any => exact ⟨_, Built.addTier .any hedges hnuma (tierPairs_subset (by decide)), rfl, rfl⟩

end Ladder

/-! ## 4. Roots and reachability -/

theorem mem_tierPairs : (i, j) ∈ tierPairs (tieredEdges P devices) tier ↔ i < j ∧ LinkedAt devices tier i j := by
  have hpos : 0 < tier.threshold := by cases tier <;> decide
  simp only [tierPairs, mem_map, mem_filter, decide_eq_true_eq]
  constructor
  · intro ⟨e, ⟨he, ht⟩, heq⟩
    obtain ⟨hij, hj, hstrong, -⟩ := mem_tieredEdges.mp he
    cases heq
    exact ⟨hij, hij.trans hj, hj, hstrong ▸ ht⟩
  · intro ⟨hij, hlinked⟩
    exact ⟨⟨i, j, DeviceList.strongest devices i j⟩,
      ⟨mem_tieredEdges.mpr ⟨hij, hlinked.right, rfl, (hpos.trans_le hlinked.strong).ne'⟩, hlinked.strong⟩, rfl⟩

theorem LinkedAt.symm (hsymm : devices.Symmetric) (h : LinkedAt devices tier i j) : LinkedAt devices tier j i :=
  ⟨h.right, h.left, hsymm i h.left j h.right ▸ h.strong⟩

/-- Each pair is joined from its smaller index, which a symmetric matrix makes no difference. -/
theorem connected_iff_reachable (hsymm : devices.Symmetric) :
    Connected (tierPairs (tieredEdges P devices) tier) i j ↔ ReachableAt devices tier i j := by
  have : Std.Symm (LinkedAt devices tier) := ⟨fun _ _ => LinkedAt.symm hsymm⟩
  constructor
  · intro h
    induction h with
    | rel x y hxy => exact .single (mem_tierPairs.mp hxy).2
    | refl x => exact .refl
    | symm x y _ ih => exact Relation.ReflTransGen.stdSymm.symm _ _ ih
    | trans x y z _ _ ih₁ ih₂ => exact Relation.ReflTransGen.trans ih₁ ih₂
  · intro h
    induction h with
    | refl => exact .refl _
    | @tail x y _ hxy ih =>
      refine .trans _ _ _ ih ?_
      rcases Nat.lt_trichotomy x y with hlt | rfl | hgt
      · exact .rel _ _ (mem_tierPairs.mpr ⟨hlt, hxy⟩)
      · exact .refl _
      · exact .symm _ _ (.rel _ _ (mem_tierPairs.mpr ⟨hgt, hxy.symm hsymm⟩))

variable {lab : Nat → Nat}

theorem rootOf_label (hroots : (computeTieredComponents P devices).roots tier =
      (List.range devices.length).map lab) (hi : i < devices.length) :
    (computeTieredComponents P devices).rootOf tier i = lab i := by
  have hn : (computeTieredComponents P devices).n = devices.length := rfl
  rw [TieredComponents.rootOf, if_neg (by omega), hroots, Int.toNat_natCast]
  simp [getD_eq_getElem?_getD, hi]

/-- **Roots are components**: the label of a GPU at a tier, with what it says of other GPUs. -/
theorem tier_labels (P : Platform) (hsymm : devices.Symmetric) (tier : LinkTier) : ∃ lab : Nat → Nat,
    (∀ i < devices.length, (computeTieredComponents P devices).rootOf tier i = lab i) ∧
      (∀ i j, lab i = lab j ↔ ReachableAt devices tier i j) ∧ ∃ m, Largest devices.length lab m ∧
        (computeTieredComponents P devices).maxSize tier = if devices.length = 0 then 0 else m := by
  obtain ⟨f, hbuilt, hroots, hmax⟩ := tier_built P devices tier
  refine ⟨UnionFind.rootOf f.parents, fun i hi => rootOf_label hroots hi, fun i j => ?_, f.maxSize,
    hbuilt.sized.largest, hmax⟩
  rw [hbuilt.roots, connected_iff_reachable hsymm]

theorem ncard_componentAt (hlab : ∀ i j, lab i = lab j ↔ ReachableAt devices tier i j)
    (i : Nat) : (componentAt devices tier i).ncard = classSize devices.length lab (lab i) := by
  have hset : componentAt devices tier i =
      ((Finset.range devices.length).filter fun j => lab j = lab i : Finset Nat) := by
    ext j
    simp only [componentAt, Set.mem_ofPred_eq, Finset.coe_filter, Finset.mem_range, ← hlab, eq_comm]
  rw [hset, Set.ncard_coe_finset, classSize, countP_eq_length_filter]
  rfl

theorem largestAt_eq (hlab : ∀ i j, lab i = lab j ↔ ReachableAt devices tier i j) {m : Nat}
    (hm : Largest devices.length lab m) : largestAt devices tier = if devices.length = 0 then 0 else m := by
  unfold largestAt
  simp only [ncard_componentAt hlab]
  split
  · next h => rw [h, Finset.range_zero, Finset.sup_empty]; rfl
  · next h =>
    obtain ⟨x, hx, hsize⟩ := hm.reached (Nat.pos_of_ne_zero h)
    refine Nat.le_antisymm (Finset.sup_le fun i hi => hm.bound i (Finset.mem_range.mp hi)) ?_
    rw [← hsize]
    exact Finset.le_sup (f := fun i => classSize devices.length lab (lab i)) (Finset.mem_range.mpr hx)

/-- A link that counts at a tier counts at every looser one. -/
theorem ReachableAt.mono {looser : LinkTier} (h : tier.rank ≤ looser.rank) (hreach : ReachableAt devices tier i j) :
    ReachableAt devices looser i j :=
  Relation.ReflTransGen.mono
    (fun _ _ hl => LinkedAt.mk hl.left hl.right ((LinkTier.threshold_le h).trans hl.strong)) _ _ hreach

/-- **The tiers are exact**: at each tier two GPUs have one root exactly if links of the tier connect them, the
largest size is that of the largest component, and components lie inside those of looser tiers. -/
theorem tiers_exact (P : Platform) (hsymm : devices.Symmetric) : (∀ tier, ∀ i < devices.length, ∀ j < devices.length,
      (computeTieredComponents P devices).rootOf tier i = (computeTieredComponents P devices).rootOf tier j ↔
        ReachableAt devices tier i j) ∧
      (∀ tier, (computeTieredComponents P devices).maxSize tier = largestAt devices tier) ∧
      ∀ tier looser : LinkTier, tier.rank ≤ looser.rank → ∀ i < devices.length, ∀ j < devices.length,
        (computeTieredComponents P devices).rootOf tier i = (computeTieredComponents P devices).rootOf tier j →
        (computeTieredComponents P devices).rootOf looser i = (computeTieredComponents P devices).rootOf looser j := by
  have hroots : ∀ tier, ∀ i < devices.length, ∀ j < devices.length,
      (computeTieredComponents P devices).rootOf tier i = (computeTieredComponents P devices).rootOf tier j ↔
        ReachableAt devices tier i j := by
    intro tier i hi j hj
    obtain ⟨lab, hroot, hlab, -⟩ := tier_labels P hsymm tier
    rw [hroot i hi, hroot j hj, Int.natCast_inj, hlab]
  refine ⟨hroots, fun tier => ?_, fun tier looser hrank i hi j hj hsame => ?_⟩
  · obtain ⟨lab, -, hlab, m, hm, hmax⟩ := tier_labels P hsymm tier
    rw [hmax, largestAt_eq hlab hm]
  · exact (hroots looser i hi j hj).mpr (((hroots tier i hi j hj).mp hsame).mono hrank)

/-- Two GPUs of an NVLink fabric, a third one behind the same PCIe switch, and one without links. -/
def switchedIsland : DeviceList :=
  [some (.ofLinks 0 "a".toList [(1, 4), (1, 7), (2, 4)]), some (.ofLinks 1 "b".toList [(0, 4), (0, 7)]),
    some (.ofLinks 2 "c".toList [(0, 4)]), some (.ofLinks 3 "d".toList [])]

theorem switchedIsland_tiers : switchedIsland.Symmetric ∧
    ((computeTieredComponents (.exact .int64) switchedIsland).maxSize .nvlink = largestAt switchedIsland .nvlink ∧
      (computeTieredComponents (.exact .int64) switchedIsland).maxSize .nvlink = 2 ∧
      ReachableAt switchedIsland .switch 1 2 ∧ ¬ ReachableAt switchedIsland .nvlink 1 2) := by
  have hsymm : switchedIsland.Symmetric := by decide
  obtain ⟨hroots, hmax, -⟩ := tiers_exact (.exact .int64) hsymm
  exact ⟨hsymm, hmax .nvlink, by decide, (hroots .switch 1 (by decide) 2 (by decide)).mp (by decide),
    fun h => absurd ((hroots .nvlink 1 (by decide) 2 (by decide)).mpr h) (by decide)⟩

end VGpuManager

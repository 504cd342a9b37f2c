import VGpuManager.Usage

/-!
# What a pod reserves on one GPU

`reducePodFootprint` walks maps in an order the language leaves open and sums into them. Read
at one GPU and one resource the result is the lifecycle formula: the sidecars' sum plus the
larger of the regular containers' sum and the largest init container.
-/

namespace VGpuManager

open Foundation List

/-! ## 1. Maps -/

section Dict

variable {K V : Type} [DecidableEq K] {m : Dict K V}

/-- The entries of one key in a walk: the stored value, or nothing. -/
theorem Dict.filter_walk (P : Platform) (m : Dict K V) (k : K) :
    (Dict.walk P m).filter (fun e => e.1 = k) = (m.lookup k).toList.map fun v => (k, v) := by
  have hnodup := Dict.nodup_walk P m
  have hmem : ∀ v, (k, v) ∈ Dict.walk P m ↔ m.lookup k = some v := fun v => Dict.mem_walk P
  generalize Dict.walk P m = l at hnodup hmem
  cases hk : m.lookup k with
  | none =>
    simp only [Option.toList_none, map_nil, filter_eq_nil_iff, decide_eq_true_eq]
    rintro ⟨k', v⟩ he rfl
    simpa [hk] using (hmem v).mp he
  | some v =>
    have hin : (k, v) ∈ l := (hmem v).mpr hk
    have hone : ∀ e ∈ l, e.1 = k ↔ e = (k, v) := fun e he =>
      ⟨inj_on_of_nodup_map hnodup he hin, fun h => h ▸ rfl⟩
    classical
    rw [filter_congr fun e he => decide_eq_decide.mpr (hone e he), filter_eq,
      count_eq_one_of_mem (List.Nodup.of_map _ hnodup) hin]
    rfl

theorem Dict.getD_insert (k k' : K) (v zero : V) :
    Dict.getD (m.insert k v) k' zero = if k = k' then v else Dict.getD m k' zero := by
  by_cases h : k = k'
  · subst h
    simp [Dict.getD]
  · simp [Dict.getD, h, AList.lookup_insert_ne (Ne.symm h)]

end Dict

/-! ## 2. Sums and maxima per GPU -/

section Sums

variable {A : IntArith} {P : Platform} {m : Footprints} {u : Text} {r : Resource}

/-- The amount stored for a GPU. -/
def Footprints.amountAt (m : Footprints) (u : Text) : Amount := (Dict.getD m u {}).amount

/-- Every footprint is stored under its own UUID. -/
def Footprints.Keyed (m : Footprints) : Prop := ∀ k f, m.lookup k = some f → f.uuid = k

@[simp] theorem amountAt_empty : Footprints.amountAt ∅ u = {} := by
  simp [Footprints.amountAt, Dict.getD]

theorem keyed_empty : Footprints.Keyed ∅ := by
  intro k f h
  simp at h

theorem Footprints.Keyed.insert (h : m.Keyed) {f : PodDeviceFootprint} : Footprints.Keyed (m.insert f.uuid f) := by
  intro k g hg
  rcases lookup_insert_cases hg with ⟨rfl, rfl⟩ | ⟨-, hg⟩
  · rfl
  · exact h k g hg

/-- One resource of the occupancies of a GPU. -/
def demandsAt (u : Text) (r : Resource) (l : List (Text × Amount)) : List Int :=
  (NodeInfo.amountsOf u l).map fun a => a.get r

section Loops

variable {σ β V : Type} {s : σ}

/-- A loop that adds amounts to a map, read at one GPU. -/
theorem get_foldl_adds (read : σ → Amount) {f : σ → β → σ} {key : β → Text} {amount : β → Amount}
    (hf : ∀ s x, read (f s x) = if key x = u then (read s).add A (amount x) else read s) (xs : List β) (s : σ) :
    (read (xs.foldl f s)).get r = A.fill ((read s).get r) (demandsAt u r (xs.map fun x => (key x, amount x))) := by
  have hread := foldl_part read (p := fun x => key x = u) (g := fun a x => a.add A (amount x))
    (by simpa using hf) xs s
  rw [hread, demandsAt, ← NodeInfo.get_foldl_add, NodeInfo.amountsOf, filter_map, map_map, foldl_map]
  rfl

/-- A loop that takes the maximum with the entries of another map, at a resource that is not negative. -/
theorem get_foldl_sup (read : σ → Amount) {d : Dict Text V} {amount : V → Amount} {zero : V} (hzero : amount zero = {})
    {f : σ → Text × V → σ} {p : Text × V → Bool}
    (hp : (Dict.walk P d).filter p = (Dict.walk P d).filter fun e => e.1 = u)
    (hf : ∀ s e, read (f s e) = if p e then (read s).sup (amount e.2) else read s) (hnn : 0 ≤ (read s).get r) :
    (read ((Dict.walk P d).foldl f s)).get r = max ((read s).get r) ((amount (Dict.getD d u zero)).get r) := by
  rw [foldl_part read (g := fun a e => a.sup (amount e.2)) hf, hp, Dict.filter_walk, Dict.getD]
  cases d.lookup u with
  | none =>
    rw [Option.getD_none, hzero, Amount.get_zero]
    exact (max_eq_left hnn).symm
  | some v => exact Amount.get_sup _ _ _

variable (read : σ → Int) {f : σ → β → σ} {usage : β → List (Text × Amount)}

/-- One container after the other, added up. -/
theorem foldl_fill (hf : ∀ s x, read (f s x) = A.fill (read s) (demandsAt u r (usage x))) (xs : List β) (s : σ) :
    read (xs.foldl f s) = A.fill (read s) (demandsAt u r (xs.flatMap usage)) := by
  induction xs generalizing s with
  | nil => rfl
  | cons x xs ih =>
    rw [foldl_cons, ih, hf, flatMap_cons, demandsAt, demandsAt, demandsAt, NodeInfo.amountsOf_append,
      map_append, IntArith.fill, IntArith.fill, IntArith.fill, foldl_append]

/-- One container after the other, each by itself. -/
theorem foldl_peaks (hf : ∀ s x, 0 ≤ read s → read (f s x) = max (read s) (A.fill 0 (demandsAt u r (usage x))))
    (xs : List β) (hnn : 0 ≤ read s) :
    read (xs.foldl f s) = (xs.map fun x => A.fill 0 (demandsAt u r (usage x))).foldl max (read s) := by
  induction xs generalizing s with
  | nil => rfl
  | cons x xs ih =>
    have hmax := hf s x hnn
    rw [foldl_cons, ih (by rw [hmax]; omega), hmax, map_cons, foldl_cons]

end Loops

theorem amountAt_insert (k : Text) (f : PodDeviceFootprint) :
    Footprints.amountAt (m.insert k f) u = if k = u then f.amount else m.amountAt u := by
  rw [Footprints.amountAt, Dict.getD_insert]
  split <;> rfl

/-- One container's claims, summed into a map. -/
def sumContainer (A : IntArith) (m : Footprints) (c : ContainerDeviceClaim) : Footprints :=
  c.deviceClaims.foldl (sumClaimFootprint A) m

/-- One container's own sums, folded into the maximum. -/
def maxContainer (P : Platform) (m : Footprints) (c : ContainerDeviceClaim) : Footprints :=
  (Dict.walk P (sumContainer P.int ∅ c)).foldl (fun m e => maxFootprintInto m e.2) m

variable (c : ContainerDeviceClaim)

theorem get_sumContainer (m : Footprints) :
    ((sumContainer A m c).amountAt u).get r = A.fill ((m.amountAt u).get r) (demandsAt u r c.usage) := by
  refine get_foldl_adds (fun m => m.amountAt u) (fun m claim => ?_) c.deviceClaims m
  rw [sumClaimFootprint, amountAt_insert]
  by_cases h : claim.uuid = u
  · subst h; rfl
  · simp [h]

theorem keyed_sumClaims : ∀ (claims : List DeviceClaim) {m : Footprints}, m.Keyed →
    Footprints.Keyed (claims.foldl (sumClaimFootprint A) m)
  | [], _, h => h
  | claim :: claims, m, h => by
    rw [foldl_cons]
    exact keyed_sumClaims claims (Footprints.Keyed.insert h
      (f := ⟨claim.id, claim.uuid, (Dict.getD m claim.uuid {}).amount.add A claim.amount⟩))

theorem get_maxContainer (hnn : 0 ≤ (m.amountAt u).get r) :
    ((maxContainer P m c).amountAt u).get r = max ((m.amountAt u).get r) (P.int.fill 0 (demandsAt u r c.usage)) := by
  have hown := get_sumContainer (A := P.int) (u := u) (r := r) c ∅
  rw [amountAt_empty, Amount.get_zero] at hown
  rw [← hown]
  refine get_foldl_sup (fun m : Footprints => m.amountAt u) (show PodDeviceFootprint.amount {} = {} from rfl)
    (p := fun e => e.2.uuid = u) (filter_congr fun e he => ?_) (fun m e => ?_) hnn
  · rw [keyed_sumClaims _ keyed_empty e.1 e.2 ((Dict.mem_walk P).mp he)]
  · unfold maxFootprintInto
    split <;> rename_i hl <;> rw [amountAt_insert] <;> by_cases h : e.2.uuid = u <;>
      simp [h, Footprints.amountAt, Dict.getD] <;> subst h <;> simp [hl]

theorem get_sumContainers (cs : PodDeviceClaim) : (Footprints.amountAt (cs.foldl (sumContainer A) ∅) u).get r =
      A.fill 0 (demandsAt u r (cs.flatMap ContainerDeviceClaim.usage)) := by
  rw [foldl_fill (fun m => (m.amountAt u).get r) (fun m c => get_sumContainer c m), amountAt_empty,
    Amount.get_zero]

end Sums

/-! ## 3. The three groups -/

section

variable (pod : Pod) (c : ContainerDeviceClaim) (claims : PodDeviceClaim)

/-- The occupancies of all claims of a pod, in order. -/
def usageAll : List (Text × Amount) :=
  claims.flatMap ContainerDeviceClaim.usage

@[simp] theorem usageAll_cons :
    usageAll (c :: claims) = c.usage ++ usageAll claims := rfl

/-- The group a container's claims go to. -/
def isInitClaim : Bool :=
  decide (c.name ∈ sequentialInitNames pod)

def isSidecarClaim : Bool :=
  !isInitClaim pod c && decide (c.name ∈ sidecarNames pod)

def isRegularClaim : Bool :=
  !isInitClaim pod c && !decide (c.name ∈ sidecarNames pod)

end

section

variable {l : List (Text × Amount)} {u : Text} {r : Resource}

theorem mem_amountsOf {a : Amount} : a ∈ NodeInfo.amountsOf u l ↔ (u, a) ∈ l := by
  simp [NodeInfo.amountsOf, Prod.exists]

theorem mem_demandsAt {v : Int} : v ∈ demandsAt u r l ↔ ∃ a, (u, a) ∈ l ∧ a.get r = v := by
  simp only [demandsAt, mem_map, mem_amountsOf]

theorem sum_demandsAt_flatMap {α : Type} (f : α → List (Text × Amount)) (l : List α) :
    (demandsAt u r (l.flatMap f)).sum = (l.map fun a => (demandsAt u r (f a)).sum).sum := by
  simp [demandsAt, NodeInfo.amountsOf, flatMap, sum_flatten, Function.comp_def]

end

section

variable (A : IntArith) (pod : Pod) (claims : PodDeviceClaim) (u : Text) (r : Resource)

/-- What each container of a list takes of a GPU by itself. -/
def peaksAt (claims : PodDeviceClaim) : List Int :=
  claims.map fun c => A.fill 0 (demandsAt u r c.usage)

/-- Each group sees its own containers only. -/
theorem FootprintGroups.addContainer_parts (P : Platform) (g : FootprintGroups) (c : ContainerDeviceClaim) :
    (g.addContainer P pod c).sidecarSum =
        (if isSidecarClaim pod c then sumContainer P.int g.sidecarSum c else g.sidecarSum) ∧
      (g.addContainer P pod c).regularSum =
        (if isRegularClaim pod c then sumContainer P.int g.regularSum c else g.regularSum) ∧
      (g.addContainer P pod c).initMax = if isInitClaim pod c then maxContainer P g.initMax c else g.initMax := by
  unfold FootprintGroups.addContainer isSidecarClaim isRegularClaim isInitClaim
  by_cases hi : c.name ∈ sequentialInitNames pod
  · simp [hi, maxContainer, sumContainer]
  · by_cases hs : c.name ∈ sidecarNames pod <;> simp [hi, hs, sumContainer]

/-- **The lifecycle formula** at one GPU and resource: the sidecars' sum plus the larger of the
regular containers' sum and the largest init container. -/
def reservedAt : Int :=
  A.add (A.fill 0 (demandsAt u r (usageAll (claims.filter (isSidecarClaim pod)))))
    (max (A.fill 0 (demandsAt u r (usageAll (claims.filter (isRegularClaim pod)))))
      ((peaksAt A u r (claims.filter (isInitClaim pod))).foldl max 0))

theorem combine_amount {P : Platform} :
    ((claims.foldl (FootprintGroups.addContainer P pod) {}).combine P.int u).amount.get r =
      reservedAt P.int pod claims u r := by
  have hside := foldl_part FootprintGroups.sidecarSum (fun g c => (g.addContainer_parts pod P c).1) claims {}
  have hreg := foldl_part FootprintGroups.regularSum (fun g c => (g.addContainer_parts pod P c).2.1) claims {}
  have hinit := foldl_part FootprintGroups.initMax (fun g c => (g.addContainer_parts pod P c).2.2) claims {}
  have hmax := foldl_peaks (fun m : Footprints => (m.amountAt u).get r)
    (fun m c => get_maxContainer (P := P) c) (claims.filter (isInitClaim pod)) (s := ∅) (by simp)
  simp only [amountAt_empty, Amount.get_zero] at hmax
  rw [FootprintGroups.combine, Amount.get_add, Amount.get_sup, hside, hreg, hinit]
  exact congrArg₂ P.int.add (get_sumContainers _) (congrArg₂ max (get_sumContainers _) hmax)

end

/-! ## 4. What the accounting adds -/

variable {P : Platform} (claims : PodDeviceClaim) {pod : Pod}

theorem lookup_insertMissing {V : Type} (f : Text → V) (u : Text) : ∀ (keys : List Text) (m : Dict Text V),
    (keys.foldl (fun m k => if k ∈ m then m else m.insert k (f k)) m).lookup u =
      (m.lookup u <|> if u ∈ keys then some (f u) else none)
  | [], m => by simp
  | k :: keys, m => by
    rw [foldl_cons, lookup_insertMissing f u keys]
    by_cases hk : k ∈ m
    · rw [if_pos hk]
      by_cases hu : u = k
      · subst hu
        obtain ⟨x, hx⟩ := Option.isSome_iff_exists.mp (AList.lookup_isSome.mpr hk)
        simp [hx]
      · simp [hu]
    · rw [if_neg hk]
      by_cases hu : u = k
      · subst hu
        simp [AList.lookup_eq_none.mpr hk]
      · simp [AList.lookup_insert_ne hu, hu]

theorem mem_keys_walk {V : Type} {m : Dict Text V} {u : Text} : u ∈ (Dict.walk P m).map Prod.fst ↔ u ∈ m := by
  rw [← AList.lookup_isSome, Option.isSome_iff_exists]
  constructor
  · intro h
    obtain ⟨e, he, rfl⟩ := mem_map.mp h
    exact ⟨e.2, (Dict.mem_walk P).mp he⟩
  · intro ⟨v, hv⟩
    exact mem_map.mpr ⟨(u, v), (Dict.mem_walk P).mpr hv, rfl⟩

/-- Three maps taken together key by key. -/
theorem lookup_combined {V W : Type} (m₁ m₂ m₃ : Dict Text V) (f : Text → W) (u : Text) :
    (((Dict.walk P m₁ ++ Dict.walk P m₂ ++ Dict.walk P m₃).map Prod.fst).foldl
      (fun m k => if k ∈ m then m else m.insert k (f k)) (∅ : Dict Text W)).lookup u =
      if u ∈ m₁ ∨ u ∈ m₂ ∨ u ∈ m₃ then some (f u) else none := by
  rw [lookup_insertMissing, AList.lookup_empty]
  simp only [map_append, mem_append, mem_keys_walk, or_assoc]
  rfl

/-- Read at a key that none of the maps has, the new map has nothing. -/
theorem getD_combined {V W β : Type} {m₁ m₂ m₃ : Dict Text V} {f : Text → W} {zero : W} (read : W → β) {u : Text}
    (hzero : u ∉ m₁ → u ∉ m₂ → u ∉ m₃ → read (f u) = read zero) :
    read (Dict.getD (((Dict.walk P m₁ ++ Dict.walk P m₂ ++ Dict.walk P m₃).map Prod.fst).foldl
      (fun m k => if k ∈ m then m else m.insert k (f k)) (∅ : Dict Text W)) u zero) = read (f u) := by
  rw [Dict.getD, lookup_combined]
  split
  · rfl
  · rename_i hnot
    obtain ⟨h₁, h₂, h₃⟩ := not_or.mp hnot |>.imp_right not_or.mp
    exact (hzero h₁ h₂ h₃).symm

theorem lookup_reducePodFootprint (hseq : sequentialInitNames pod ≠ [])
    (claims : PodDeviceClaim) (u : Text) {f : PodDeviceFootprint}
    (h : (reducePodFootprint P pod claims).lookup u = some f) :
    f = (claims.foldl (FootprintGroups.addContainer P pod) {}).combine P.int u := by
  rw [reducePodFootprint, if_neg hseq, lookup_combined] at h
  split at h
  · exact (Option.some.inj h).symm
  · cases h

section Congr

variable {pod' : Pod} (h : pod'.initContainers = pod.initContainers)

include h

theorem names_congr : sequentialInitNames pod' = sequentialInitNames pod ∧ sidecarNames pod' = sidecarNames pod := by
  rw [sequentialInitNames, sidecarNames, h]
  exact ⟨rfl, rfl⟩

theorem podHasVGPUInitContainer_congr : podHasVGPUInitContainer pod' = podHasVGPUInitContainer pod := by
  rw [podHasVGPUInitContainer, h, podHasVGPUInitContainer]

/-- The footprint goes by the init containers of the pod and its claims. -/
theorem reducePodFootprint_congr (claims : PodDeviceClaim) :
    reducePodFootprint P pod' claims = reducePodFootprint P pod claims := by
  obtain ⟨hseq, hside⟩ := names_congr h
  have hadd : FootprintGroups.addContainer P pod' = FootprintGroups.addContainer P pod := by
    funext g c
    simp only [FootprintGroups.addContainer, hseq, hside]
  rw [reducePodFootprint, reducePodFootprint, hseq, hadd]

end Congr

theorem mem_sidecarNames {x : Text} : x ∈ sidecarNames pod ↔
    ∃ y ∈ pod.initContainers, y.restartable = true ∧ y.name = x := by
  simp [sidecarNames, and_assoc]

theorem mem_sequentialInitNames {x : Text} : x ∈ sequentialInitNames pod ↔
    ∃ y ∈ pod.initContainers, y.restartable = false ∧ y.name = x := by
  simp [sequentialInitNames, and_assoc]

/-- With names given once, a container's name tells its group. -/
theorem names_groups (h : ((pod.initContainers ++ pod.containers).map Container.name).Nodup) :
    (∀ x ∈ pod.initContainers, (x.name ∈ sequentialInitNames pod ↔ x.restartable = false) ∧
      (x.name ∈ sidecarNames pod ↔ x.restartable = true)) ∧
    ∀ x ∈ pod.containers, x.name ∉ sequentialInitNames pod ∧ x.name ∉ sidecarNames pod := by
  rw [map_append, nodup_append] at h
  refine ⟨fun x hx => ?_, fun x hx => ?_⟩
  · -- the init container of this name is the only one
    have honly (b : Bool) : (∃ y ∈ pod.initContainers, y.restartable = b ∧ y.name = x.name) ↔ x.restartable = b := by
      refine ⟨?_, fun hr => ⟨x, hx, hr, rfl⟩⟩
      intro ⟨y, hy, hr, hyx⟩
      rwa [← inj_on_of_nodup_map h.1 hy hx hyx]
    exact ⟨mem_sequentialInitNames.trans (honly false), mem_sidecarNames.trans (honly true)⟩
  · -- a regular container has no namesake among the init containers
    have hnone (b : Bool) : ¬ ∃ y ∈ pod.initContainers, y.restartable = b ∧ y.name = x.name := by
      intro ⟨y, hy, _, hyx⟩
      exact h.2.2 _ (mem_map_of_mem hy) _ (mem_map_of_mem hx) hyx
    exact ⟨mem_sequentialInitNames.not.mpr (hnone false), mem_sidecarNames.not.mpr (hnone true)⟩

theorem sequentialInitNames_ne_nil (h : podHasVGPUInitContainer pod = true) : sequentialInitNames pod ≠ [] := by
  obtain ⟨c, hc, hreq⟩ := any_eq_true.mp h
  simp only [Bool.and_eq_true, Bool.not_eq_true'] at hreq
  exact ne_nil_of_mem (mem_map.mpr ⟨c, mem_filter.mpr ⟨hc, by simp [hreq.2]⟩, rfl⟩)

/-- With a sequential init container the accounting adds to a GPU what the footprint holds for it. -/
theorem amountsOf_podUsage (hinit : podHasVGPUInitContainer pod = true) (u : Text) :
    NodeInfo.amountsOf u (podUsage P pod) = ((reducePodFootprint P pod
      (getPodDeviceClaim P.int pod)).lookup u).toList.map PodDeviceFootprint.amount := by
  have hlookup := @lookup_reducePodFootprint P pod (sequentialInitNames_ne_nil hinit) (getPodDeviceClaim P.int pod)
  have hform : podUsage P pod = (Dict.walk P (reducePodFootprint P pod
      (getPodDeviceClaim P.int pod))).map fun e => (e.2.uuid, e.2.amount) := by
    simp [podUsage, hinit]
  generalize reducePodFootprint P pod (getPodDeviceClaim P.int pod) = m at hlookup hform
  have hkey : (Dict.walk P m).filter (fun e => e.2.uuid = u) = (Dict.walk P m).filter fun e => e.1 = u := by
    refine filter_congr fun e he => ?_
    rw [hlookup e.1 ((Dict.mem_walk P).mp he)]
    rfl
  rw [hform, NodeInfo.amountsOf, filter_map, map_map]
  simp only [Function.comp_def, hkey, Dict.filter_walk, map_map]

/-- **Per GPU the accounting of a pod with a sequential init container adds at most once**, and
then the lifecycle formula. -/
theorem podUsage_amounts (pod : Pod) (hinit : podHasVGPUInitContainer pod = true) (u : Text) :
    NodeInfo.amountsOf u (podUsage P pod) = [] ∨ ∃ a, NodeInfo.amountsOf u (podUsage P pod) = [a] ∧
        ∀ r, a.get r = reservedAt P.int pod (getPodDeviceClaim P.int pod) u r := by
  rw [amountsOf_podUsage hinit]
  cases hm : (reducePodFootprint P pod (getPodDeviceClaim P.int pod)).lookup u with
  | none => exact .inl rfl
  | some f =>
    refine .inr ⟨f.amount, rfl, fun r => ?_⟩
    rw [lookup_reducePodFootprint (sequentialInitNames_ne_nil hinit) _ u hm, combine_amount]

/-! ## 5. The footprint at one GPU -/

/-- What the footprint of a pod holds of one resource of a GPU; nothing for a GPU without claims. -/
def footprintAt (P : Platform) (pod : Pod) (claims : PodDeviceClaim) (u : Text) (r : Resource) : Int :=
  ((reducePodFootprint P pod claims).amountAt u).get r

/-- Without a sequential init container: the plain sum. -/
theorem footprintAt_plain (h : sequentialInitNames pod = []) (claims : PodDeviceClaim) (u : Text) (r : Resource) :
    footprintAt P pod claims u r = P.int.fill 0 (demandsAt u r (usageAll claims)) := by
  rw [footprintAt, reducePodFootprint, if_pos h]
  exact get_sumContainers claims

/-- With one: the lifecycle formula, also for a GPU the pod has no claim on. -/
theorem footprintAt_reserved (h : sequentialInitNames pod ≠ []) (claims : PodDeviceClaim)
    (u : Text) (r : Resource) : footprintAt P pod claims u r = reservedAt P.int pod claims u r := by
  rw [footprintAt, ← combine_amount, Footprints.amountAt, reducePodFootprint, if_neg h]
  generalize claims.foldl (FootprintGroups.addContainer P pod) {} = g
  refine getD_combined (fun f : PodDeviceFootprint => f.amount.get r) fun hreg hside hmax => ?_
  simp only [FootprintGroups.combine, Dict.getD, AList.lookup_eq_none.mpr hreg, AList.lookup_eq_none.mpr hside,
    AList.lookup_eq_none.mpr hmax, Option.getD_none, Amount.get_add, Amount.get_sup, Amount.get_zero]
  exact P.int.fits_zero

/-- **The init-aware accounting adds the footprint** to a counter of the GPU. -/
theorem fill_podUsage (hinit : podHasVGPUInitContainer pod = true) (u : Text) (r : Resource)
    {used : Int} (hused : P.int.Fits used) : P.int.fill used (demandsAt u r (podUsage P pod)) =
      P.int.add used (footprintAt P pod (getPodDeviceClaim P.int pod) u r) := by
  rw [demandsAt, amountsOf_podUsage hinit, footprintAt, Footprints.amountAt, Dict.getD]
  cases (reducePodFootprint P pod (getPodDeviceClaim P.int pod)).lookup u with
  | none =>
    show used = P.int.wrap (used + Amount.get {} r)
    rw [Amount.get_zero, Int.add_zero]
    exact hused.symm
  | some f => rfl

end VGpuManager

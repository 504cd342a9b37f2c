import Mathlib.Data.List.Dedup
import VGpuManager.Allocator.Allocate

/-!
# Rail signatures

A signature joins the sorted rails of a set of devices, and a later split reads it back. A rail that
holds the joining character is read as several.
-/

namespace VGpuManager

open Foundation List

namespace NodeInfo

/-- No rail of a registered device holds the character signatures are joined with. -/
def PlainRails (n : NodeInfo) : Prop :=
  ∀ uuid ∈ n.deviceIndexMap.keys, ∀ rail, n.gpuRail.lookup uuid = some rail → ',' ∉ rail

/-- Signatures made on one node stand for their sets of rails on another: matching one finds exactly the
devices on one of its rails, and no other set of rails has it. -/
structure SignatureExact (n m : NodeInfo) : Prop where
  finds : ∀ uuids ⊆ n.deviceIndexMap.keys, ∀ signature, n.railSignatureOfUUIDs uuids = some signature → ∀ uuid,
    uuid ∈ m.uuidsMatchingRailSignature signature ↔
      uuid ∈ m.deviceIndexMap.keys ∧ ∃ key, m.railKeyOf uuid = some key ∧ key ∈ uuids.filterMap n.railKeyOf
  apart : ∀ uuids ⊆ n.deviceIndexMap.keys, ∀ others ⊆ m.deviceIndexMap.keys,
    n.railSignatureOfUUIDs uuids = m.railSignatureOfUUIDs others →
      ∀ key, key ∈ uuids.filterMap n.railKeyOf ↔ key ∈ others.filterMap m.railKeyOf

variable {n m : NodeInfo} {uuid key signature : Text} {uuids : List Text}

theorem PlainRails.plain (hn : n.PlainRails) (hin : uuid ∈ n.deviceIndexMap.keys)
    (h : n.railKeyOf uuid = some key) : key ≠ [] ∧ ',' ∉ key := by
  rw [railKeyOf] at h
  split at h
  next rail hrail =>
    cases h
    simpa using hn uuid hin rail hrail
  next =>
    obtain ⟨i, _, rfl⟩ := Option.map_eq_some_iff.mp h
    simpa using not_mem_fmtInt rfl (by decide)

/-- Split again, a signature gives the rails it was made of. -/
theorem PlainRails.mem_split (hn : n.PlainRails) (hin : uuids ⊆ n.deviceIndexMap.keys)
    (h : n.railSignatureOfUUIDs uuids = some signature) :
    key ∈ signature.splitOn ',' ↔ key ∈ uuids.filterMap n.railKeyOf := by
  simp only [railSignatureOfUUIDs, Option.ite_none_left_eq_some, Option.some.injEq] at h
  obtain ⟨hne, rfl⟩ := h
  rw [splitOn_join, sortTexts, mem_sortBy, mem_dedup]
  · intro p hp
    rw [sortTexts, mem_sortBy, mem_dedup] at hp
    obtain ⟨u, hu, hkey⟩ := mem_filterMap.mp hp
    exact (hn.plain (hin hu) hkey).2
  · exact fun h => hne ((sortBy_perm _ _).symm.trans (.of_eq h)).eq_nil

theorem PlainRails.signatureExact (hn : n.PlainRails) (hm : m.PlainRails) : n.SignatureExact m := by
  constructor
  · intro uuids hin signature h uuid
    have hne : signature ≠ [] := by
      rintro rfl
      obtain ⟨u, hu, hkey⟩ := mem_filterMap.mp ((hn.mem_split hin h).mp (mem_singleton_self []))
      exact (hn.plain (hin hu) hkey).1 rfl
    simp only [NodeInfo.uuidsMatchingRailSignature, if_neg hne, sortTexts, mem_sortBy, mem_filter,
      Option.any_eq_true, decide_eq_true_eq, hn.mem_split hin h]
  · intro uuids hin others hin' h key
    cases hs : n.railSignatureOfUUIDs uuids with
    | none =>
      have hnone {n : NodeInfo} {uuids} (h : n.railSignatureOfUUIDs uuids = none) :
          uuids.filterMap n.railKeyOf = [] := by
        simpa [NodeInfo.railSignatureOfUUIDs, dedup_eq_nil] using h
      rw [hnone hs, hnone (h.symm.trans hs)]
    | some signature => rw [← hn.mem_split hin hs, hm.mem_split hin' (h.symm.trans hs)]

/-- A device whose rail holds the comma is not found by its own signature. -/
theorem SignatureExact.plainRails (h : n.SignatureExact n) : n.PlainRails := by
  intro uuid hin rail hrail hcomma
  have hkey : n.railKeyOf uuid = some ("rail:".toList ++ rail) := by rw [railKeyOf, hrail]
  have hsort : sortTexts ["rail:".toList ++ rail] = ["rail:".toList ++ rail] := (sortBy_perm _ _).eq_singleton
  have hsig : n.railSignatureOfUUIDs [uuid] = some ("rail:".toList ++ rail) := by
    simp only [railSignatureOfUUIDs, filterMap_cons, hkey, filterMap_nil, (nodup_singleton _).dedup, hsort]
    simp [join]
  have hfound := (h.finds [uuid] (by simpa using hin) _ hsig uuid).mpr ⟨hin, _, hkey, by simp [hkey]⟩
  rw [uuidsMatchingRailSignature, if_neg (by simp), sortTexts, mem_sortBy, mem_filter, hkey] at hfound
  exact (mem_splitOn (of_decide_eq_true hfound.2)).1 (mem_append_right _ hcomma)

end NodeInfo

/-- Signatures stand for sets of rails on all of some nodes exactly if no registered device of theirs has a
rail with a comma. -/
theorem rail_signature_exact_iff (nodes : List NodeInfo) :
    (∀ n ∈ nodes, ∀ m ∈ nodes, n.SignatureExact m) ↔ ∀ n ∈ nodes, n.PlainRails :=
  ⟨fun h n hn => (h n hn n hn).plainRails, fun h n hn m hm => (h n hn).signatureExact (h m hm)⟩

/-- A node with the rails `a`, `b` and `a,rail:b`. -/
def commaRails : NodeInfo where
  name := []
  deviceMap := .empty
  deviceIndexMap := ((AList.singleton ['z'] 2).insert ['y'] 1).insert ['x'] 0
  gpuRail := ((AList.singleton ['z'] "a,rail:b".toList).insert ['y'] ['b']).insert ['x'] ['a']
  deviceList := []
  memoryFactor := 1
  gpuTopology := true
  numaTopology := false

/-- The third card's signature reads as the rails of the two others: it finds them and not itself. -/
theorem comma_rail_finds_others :
    commaRails.railSignatureOfUUIDs [['z']] = commaRails.railSignatureOfUUIDs [['x'], ['y']] ∧
      commaRails.uuidsMatchingRailSignature "rail:a,rail:b".toList = [['x'], ['y']] ∧
      commaRails.railSignatureOfUUIDs [['z']] = some "rail:a,rail:b".toList := by
  decide

end VGpuManager

import VGpuManager.Foundation.Text

/-!
# Whose cgroup a process is in

`cgroup_path_match` of `library/include/cgroup_match.h` compares the cgroup of a process with the
library's own.
-/

namespace VGpuManager.Library

open Foundation List

/-- `cgroup_match_t`. -/
inductive CgroupMatch where
  | foreign | ours | needsNsMode
deriving DecidableEq, Repr

/-- `cgroup_path_escapes_root`: the scan for `/..` goes on behind the three characters it found. -/
def cgroupPathEscapesRoot : Text → Bool
  | [] => false
  | '/' :: '.' :: '.' :: [] => true
  | '/' :: '.' :: '.' :: after :: path => after = '/' || cgroupPathEscapesRoot (after :: path)
  | _ :: path => cgroupPathEscapesRoot path

/-- `cgroup_path_match`; a null pointer is `none`. -/
def cgroupPathMatch : Option Text → Option Text → CgroupMatch
  | some self, some pid =>
    if self = [] ∨ pid.head? ≠ some '/' then .foreign
    else if self = pid then .ours
    else if cgroupPathEscapesRoot pid then .foreign
    else if self = ['/'] then .ours
    else if self <+: pid ∧ (pid[self.length]? = none ∨ pid[self.length]? = some '/') then .ours
    else .needsNsMode
  | _, _ => .foreign

/-- The components of an absolute path; the root has none. -/
def components (path : Text) : List Text := if path = ['/'] then [] else (path.splitOn '/').tail

theorem escapes_iff (path : Text) : cgroupPathEscapesRoot path ↔ ['.', '.'] ∈ (path.splitOn '/').tail := by
  fun_induction cgroupPathEscapesRoot path with
  | case1 => simp
  | case2 => decide
  | case3 after path ih =>
    obtain ⟨p, ps, hp⟩ := exists_splitOn '/' path
    by_cases h : after = '/' <;> simp_all [splitOn_cons]
  | case4 c path hend hnext ih =>
    obtain ⟨p, ps, hp⟩ := exists_splitOn '/' path
    rcases eq_or_ne c '/' with rfl | hc
    · -- the first component is not `..`, or an earlier pattern had matched
      have hpath := @List.intercalate_splitOn _ path _ _ '/'
      rw [hp] at ih hpath
      have hdots : ['.', '.'] ≠ p := by
        rintro rfl
        cases ps with
        | nil => exact hend rfl hpath.symm
        | cons q ps => exact hnext '/' _ rfl hpath.symm
      simpa [splitOn_cons, hp, hdots] using ih
    · simpa [splitOn_cons, hp, hc] using ih

/-- A path lies below another one if that one's components come first. -/
theorem components_prefix_iff {a b : Text} (ha : a ≠ []) : components ('/' :: a) <+: components ('/' :: b) ↔
    a <+: b ∧ (b[a.length]? = none ∨ b[a.length]? = some '/') := by
  have hsplit {t : Text} (ht : t ≠ []) : components ('/' :: t) = t.splitOn '/' := by
    simp [components, ht, splitOn_cons]
  constructor
  · intro h
    have hb : b ≠ [] := by
      rintro rfl
      obtain ⟨p, ps, hp⟩ := exists_splitOn '/' a
      simp [components, ha, splitOn_cons, hp] at h
    rw [hsplit ha, hsplit hb] at h
    obtain ⟨ps, hps⟩ := h
    have hjoin := congrArg (join '/') hps
    rw [join, join, intercalate_splitOn] at hjoin
    rcases eq_or_ne ps [] with rfl | hne
    · rw [append_nil, intercalate_splitOn] at hjoin
      simp [hjoin]
    · have hrest : (join '/' ps).splitOn '/' = ps :=
        splitOn_join (fun p hp => (mem_splitOn (hps ▸ mem_append_right _ hp)).1) hne
      rw [← hrest, ← splitOn_append, intercalate_splitOn] at hjoin
      simp [← hjoin]
  · rintro ⟨⟨r, rfl⟩, hnext⟩
    rw [hsplit ha, hsplit (by simp [ha])]
    rcases r with _ | ⟨c, r⟩
    · simp
    · obtain rfl : c = '/' := by simpa using hnext
      exact ⟨_, (splitOn_append a r).symm⟩

/-- On absolute paths the answer is a matter of components. -/
theorem cgroupPathMatch_components (self pid : Text) :
    (cgroupPathMatch (some ('/' :: self)) (some ('/' :: pid)) = .ours ↔
      self = pid ∨ ['.', '.'] ∉ components ('/' :: pid) ∧ components ('/' :: self) <+: components ('/' :: pid)) ∧
    (cgroupPathMatch (some ('/' :: self)) (some ('/' :: pid)) = .foreign ↔
      self ≠ pid ∧ ['.', '.'] ∈ components ('/' :: pid)) ∧
    (cgroupPathMatch (some ('/' :: self)) (some ('/' :: pid)) = .needsNsMode ↔
      self ≠ pid ∧ ['.', '.'] ∉ components ('/' :: pid) ∧ ¬ components ('/' :: self) <+: components ('/' :: pid)) := by
  have hescape : cgroupPathEscapesRoot ('/' :: pid) ↔ ['.', '.'] ∈ components ('/' :: pid) := by
    rcases eq_or_ne pid [] with rfl | hne
    · decide
    · simp [escapes_iff, components, hne]
  rcases eq_or_ne self [] with rfl | hne
  · rcases eq_or_ne [] pid with rfl | hpid <;> grind [cgroupPathMatch, components]
  · rw [components_prefix_iff hne]
    grind [cgroupPathMatch]

end VGpuManager.Library

import Mathlib.Data.Nat.Digits.Defs
import VGpuManager.Foundation.Sorting
import VGpuManager.Foundation.Text
import VGpuManager.Library.UsedMemory

/-!
# The list of registered pids and its file

`pids.config` holds one pid a line, sorted. It is rewritten in place: the whole new list in one
`pwrite`, then an `ftruncate` to its length (`write_pids` of `checkpoint_provider.c`,
`write_to_disk` of the registry). A reader that could not get the shared lock reads all the same
(`get_container_pids_by_filepath`), and between the two steps it finds the new list followed by
what is left of a longer old one.
-/

namespace VGpuManager.Library

open Foundation List

/-! ## 1. Writing -/

/-- `"%d\n"`. -/
def pidLine (pid : Int32) : Text := fmtInt pid.toInt ++ ['\n']

/-- The text of a list, as `write_pids` and `persistPids` put it together. -/
def pidsText (pids : List Int32) : Text := pids.flatMap pidLine

variable (file : Text)

/-- `pwrite(fd, data, len, 0)`. -/
def pwrite (data : Text) : Text := data ++ file.drop data.length

/-- `ftruncate(fd, len)` of a file that is at least as long. -/
def ftruncate (len : Nat) : Text := file.take len

/-- The file before the writer's steps, between them and after them. -/
def writePids (pids : List Int32) : List Text :=
  let written := pwrite file (pidsText pids)
  [file, written, ftruncate written (pidsText pids).length]

/-! ## 2. Reading -/

/-- `MAX_PID_STR_LEN`. -/
def maxPidStrLen : Nat := 32

/-- The pieces `fgets` returns one after the other: up to a newline or to the size of its buffer.
`room` is what is left of the buffer, `line` what is in it. -/
def fgetsLines : Nat → Text → Text → List Text
  | _, line, [] => if line = [] then [] else [line]
  | room, line, c :: file =>
    if c = '\n' ∨ room ≤ 1 then (line ++ [c]) :: fgetsLines (maxPidStrLen - 1) [] file
    else fgetsLines (room - 1) (line ++ [c]) file

/-- `isspace` in the C locale. -/
def cIsSpace (c : Char) : Bool := c ∈ [' ', '\t', '\n', '\x0b', '\x0c', '\r']

/-- The optional sign of a number. -/
def takeSign : Text → Bool × Text
  | '-' :: t => (true, t)
  | '+' :: t => (false, t)
  | t => (false, t)

/-- `strtol(line, &endptr, 10)` on 64 bits: the value and the text at `endptr`, or nothing when
there is no number. -/
def strtol (line : Text) : Option (Int × Text) :=
  let (negative, t) := takeSign (line.dropWhile cIsSpace)
  let digits := t.takeWhile Char.isDigit
  if digits = [] then none
  else
    let value : Int := Nat.ofDigitChars 10 digits 0
    some (if negative then max (-value) (-9223372036854775808) else min value 9223372036854775807,
      t.dropWhile Char.isDigit)

/-- `*endptr` is a newline or the end of the string. -/
def lineEnds : Text → Bool
  | [] => true
  | c :: _ => c == '\n' || c == '\x00'

/-- The pid of a line, if it is one. -/
def linePid (line : Text) : Option Int32 :=
  match strtol line with
  | none => none
  | some (pid, rest) =>
    if lineEnds rest = false then none
    else if pid ≤ 0 ∨ 2147483647 < pid then none
    else some (Int32.ofInt pid)

/-- All pids of a file. -/
def filePids : List Int32 := (fgetsLines (maxPidStrLen - 1) [] file).filterMap linePid

/-- `get_container_pids_by_filepath` on a file that could be opened. -/
def getContainerPidsByFilepath (maxSize : Nat) (sortPids : Bool) : List Int32 :=
  let pids := (filePids file).take maxSize
  if sortPids then sortBy (fun a b => decide (a.toInt < b.toInt)) pids else pids

/-- How the lookups of `cuda_hook.c` load the list: 'the server has already sorted the PID list'. -/
def loadContainerPids : List Int32 := getContainerPidsByFilepath file maxPids false

/-! ## 3. Whole lines -/

/-- A list as the writers write it: pids, sorted. -/
structure PidList (pids : List Int32) : Prop where
  pos : ∀ p ∈ pids, 0 < p.toInt
  sorted : (pids.map Int32.toInt).Pairwise (· ≤ ·)

/-- A line that fits the buffer is one piece. -/
theorem fgetsLines_line {w : Text} (hw : '\n' ∉ w) : ∀ {room : Nat} (line file : Text),
    w.length < room → fgetsLines room line (w ++ '\n' :: file) =
      (line ++ w ++ ['\n']) :: fgetsLines (maxPidStrLen - 1) [] file := by
  induction w with
  | nil => intro room line file _; simp [fgetsLines]
  | cons c w ih =>
    intro room line file hroom
    simp only [length_cons] at hroom
    have hc : c ≠ '\n' := fun h => hw (by simp [h])
    rw [cons_append, fgetsLines, if_neg (by simp [hc]; omega), ih (fun h => hw (by simp [h])) _ _ (by omega)]
    simp

theorem digits_of_pos {n : Int} (hn : 0 < n) : fmtInt n = Nat.toDigits 10 n.toNat := by
  obtain ⟨k, rfl⟩ := Int.eq_ofNat_of_zero_le hn.le
  rfl

theorem length_fmtInt_pid {p : Int32} (hp : 0 < p.toInt) : (fmtInt p.toInt).length ≤ 10 := by
  rw [digits_of_pos hp]
  refine Nat.toDigits_length 10 _ 10 (by decide) ?_
  have := p.toInt_lt
  omega

/-- A run of digits with a newline reads as its value. -/
theorem strtol_digits {ds : Text} (hds : ∀ c ∈ ds, c.isDigit) (hne : ds ≠ []) : strtol (ds ++ ['\n']) =
      some (min (Nat.ofDigitChars 10 ds 0 : Int) 9223372036854775807, ['\n']) := by
  obtain ⟨c, rest, rfl⟩ := exists_cons_of_ne_nil hne
  have hc : c.isDigit := hds c (by simp)
  have hspace : cIsSpace c = false := by
    refine Bool.eq_false_iff.mpr fun hs => ?_
    simp only [cIsSpace, mem_cons, not_mem_nil, or_false, decide_eq_true_eq] at hs
    rcases hs with rfl | rfl | rfl | rfl | rfl | rfl <;> exact absurd hc (by decide)
  have hsign : takeSign (c :: rest ++ ['\n']) = (false, c :: rest ++ ['\n']) := by
    rw [cons_append]
    unfold takeSign
    split
    case h_3 => rfl
    -- a sign is no digit
    all_goals
      rename_i heq
      cases heq
      exact absurd hc (by decide)
  have htake : (c :: rest ++ ['\n']).takeWhile Char.isDigit = c :: rest := by
    rw [takeWhile_append_of_pos hds]
    simp
  have hdrop : (c :: rest ++ ['\n']).dropWhile Char.isDigit = ['\n'] := by
    rw [dropWhile_append_of_pos hds]
    rfl
  have hskip : (c :: rest ++ ['\n']).dropWhile cIsSpace = c :: rest ++ ['\n'] := by
    rw [cons_append, dropWhile_cons_of_neg (by simp [hspace])]
  simp only [strtol, hskip, hsign, htake, hdrop]
  simp

/-- The number behind a run of digits, if it is one a pid can have. -/
def digitsPid (ds : Text) : Option Int32 :=
  let value : Int := Nat.ofDigitChars 10 ds 0
  if value ≤ 0 ∨ 2147483647 < value then none else some (Int32.ofInt value)

theorem linePid_digits {ds : Text} (hds : ∀ c ∈ ds, c.isDigit) :
    linePid (ds ++ ['\n']) = if ds = [] then none else digitsPid ds := by
  by_cases hne : ds = []
  · subst hne
    decide
  · have hends : ¬ lineEnds ['\n'] = false := by decide
    simp only [if_neg hne, linePid, strtol_digits hds hne, digitsPid, if_neg hends]
    generalize (Nat.ofDigitChars 10 ds 0 : Int) = n
    by_cases hbig : n ≤ 0 ∨ 2147483647 < n
    · rw [if_pos hbig, if_pos (by omega)]
    · rw [if_neg hbig, if_neg (by omega), min_eq_left (by omega)]

theorem linePid_pidLine {p : Int32} (hp : 0 < p.toInt) : linePid (pidLine p) = some p := by
  have hlt := p.toInt_lt
  have hvalue : ((Nat.ofDigitChars 10 (Nat.toDigits 10 p.toInt.toNat) 0 : Nat) : Int) = p.toInt := by
    rw [Nat.ofDigitChars_ten_toDigits]
    omega
  rw [pidLine, digits_of_pos hp, linePid_digits fun c hc => isDigit_toDigits hc, if_neg Nat.toDigits_ne_nil]
  simp only [digitsPid, hvalue]
  rw [if_neg (by omega), Int32.ofInt_toInt]

variable {pids old new : List Int32} {pid : UInt32}

/-- Whole lines come first and are read whole. -/
theorem filePids_append (hpos : ∀ p ∈ pids, 0 < p.toInt) (file : Text) :
    filePids (pidsText pids ++ file) = pids ++ filePids file := by
  induction pids with
  | nil => rfl
  | cons p pids ih =>
    have hp : 0 < p.toInt := hpos p (by simp)
    have hlines : fgetsLines (maxPidStrLen - 1) [] (pidsText (p :: pids) ++ file) =
        pidLine p :: fgetsLines (maxPidStrLen - 1) [] (pidsText pids ++ file) := by
      have hnl : '\n' ∉ fmtInt p.toInt := not_mem_fmtInt (by decide) (by decide)
      have hroom : (fmtInt p.toInt).length < maxPidStrLen - 1 :=
        lt_of_le_of_lt (length_fmtInt_pid hp) (by decide)
      have h := fgetsLines_line hnl [] (pidsText pids ++ file) hroom
      simpa [pidsText, pidLine] using h
    have ih := ih fun q hq => hpos q (by simp [hq])
    rw [filePids, hlines, filterMap_cons_some (linePid_pidLine hp), cons_append, ← ih]
    rfl

theorem filePids_pidsText (hpos : ∀ p ∈ pids, 0 < p.toInt) : filePids (pidsText pids) = pids := by
  have h := filePids_append hpos []
  simpa [filePids, fgetsLines] using h

/-! ## 4. What is left of the old list -/

/-- If the text of the list, cut off before `n`, begins inside a number: the number its last digits make, if a pid can
have it, and the pids of the lines after it. -/
def cutAt : List Int32 → Nat → Option (Int32 × List Int32)
  | [], _ => none
  | p :: old, n =>
    if n = 0 then none
    else if n < (fmtInt p.toInt).length then (digitsPid ((fmtInt p.toInt).drop n)).map fun cut => (cut, old)
    else cutAt old (n - ((fmtInt p.toInt).length + 1))

theorem pidsText_cons (p : Int32) (pids : List Int32) :
    pidsText (p :: pids) = fmtInt p.toInt ++ '\n' :: pidsText pids := by
  simp [pidsText, pidLine]

/-- A list whose first number is cut. -/
theorem filePids_drop_line {p : Int32} (hp : 0 < p.toInt)
    (hpos : ∀ q ∈ pids, 0 < q.toInt) {n : Nat} (hn : n ≤ (fmtInt p.toInt).length) :
    filePids ((pidsText (p :: pids)).drop n) = (if (fmtInt p.toInt).drop n = [] then none
      else digitsPid ((fmtInt p.toInt).drop n)).toList ++ pids := by
  have hds : ∀ c ∈ (fmtInt p.toInt).drop n, c.isDigit := by
    intro c hc
    rw [digits_of_pos hp] at hc
    exact isDigit_toDigits (mem_of_mem_drop hc)
  have hnl : '\n' ∉ (fmtInt p.toInt).drop n := fun h => absurd (hds _ h) (by decide)
  have hroom : ((fmtInt p.toInt).drop n).length < maxPidStrLen - 1 := by
    have := length_fmtInt_pid hp
    have : maxPidStrLen - 1 = 31 := rfl
    rw [length_drop]
    omega
  have hlines := fgetsLines_line hnl [] (pidsText pids) hroom
  have hwhole : (fgetsLines (maxPidStrLen - 1) [] (pidsText pids)).filterMap linePid = pids :=
    filePids_pidsText hpos
  rw [← linePid_digits hds, pidsText_cons, drop_append_of_le_length hn, filePids, hlines, nil_append]
  cases hcut : linePid ((fmtInt p.toInt).drop n ++ ['\n']) with
  | none => rw [filterMap_cons_none hcut, hwhole]; rfl
  | some q => rw [filterMap_cons_some hcut, hwhole]; rfl

/-- A tail of the text reads as a tail of the list, after the digits of a cut number. -/
theorem filePids_drop (hpos : ∀ p ∈ old, 0 < p.toInt) (n : Nat) : match cutAt old n with
    | some (cut, rest) => filePids ((pidsText old).drop n) = cut :: rest ∧ ∃ p, p :: rest <:+ old
    | none => filePids ((pidsText old).drop n) <:+ old := by
  induction old generalizing n with
  | nil => exact ⟨[], by simp [pidsText, filePids, fgetsLines]⟩
  | cons p old ih =>
    have hp : 0 < p.toInt := hpos p (by simp)
    have hold : ∀ q ∈ old, 0 < q.toInt := fun q hq => hpos q (by simp [hq])
    by_cases hzero : n = 0
    · subst hzero
      rw [cutAt, if_pos rfl, drop_zero, filePids_pidsText hpos]
    rw [cutAt, if_neg hzero]
    by_cases hin : n < (fmtInt p.toInt).length
    · rw [if_pos hin, filePids_drop_line hp hold hin.le,
        if_neg (fun h => absurd (drop_eq_nil_iff.mp h) (not_le.mpr hin))]
      cases digitsPid ((fmtInt p.toInt).drop n) with
      | none => exact suffix_cons p old
      | some cut => exact ⟨rfl, p, suffix_refl _⟩
    rw [if_neg hin]
    by_cases hend : n = (fmtInt p.toInt).length
    · -- the newline alone is left of the first line
      have hnone : cutAt old (n - ((fmtInt p.toInt).length + 1)) = none := by
        rw [hend, Nat.sub_eq_zero_of_le (Nat.le_succ _)]
        cases old <;> rfl
      rw [hnone, filePids_drop_line hp hold hend.le, if_pos (drop_eq_nil_of_le hend.ge)]
      exact suffix_cons p old
    · have hdrop : (pidsText (p :: old)).drop n = (pidsText old).drop (n - ((fmtInt p.toInt).length + 1)) := by
        have hsucc : n - (fmtInt p.toInt).length = n - ((fmtInt p.toInt).length + 1) + 1 := by omega
        rw [pidsText_cons, drop_append, drop_eq_nil_of_le (by omega), nil_append, hsucc, drop_succ_cons]
      rw [hdrop]
      have ih := ih hold (n - ((fmtInt p.toInt).length + 1))
      revert ih
      cases cutAt old (n - ((fmtInt p.toInt).length + 1)) with
      | none => exact fun ih => ih.trans (suffix_cons p old)
      | some cut =>
        intro ih
        obtain ⟨hread, q, hsuffix⟩ := ih
        exact ⟨hread, q, hsuffix.trans (suffix_cons p old)⟩

/-! ## 5. The lookup -/

/-- The key `bsearch` looks for and the list it looks in. -/
def searchKey (pid : UInt32) : Int := pid.toInt32.toInt

def searchList (pids : List Int32) : List Int := pids.map Int32.toInt

theorem mem_searchList : searchKey pid ∈ searchList pids ↔ pid.toInt32 ∈ pids := by
  refine ⟨fun h => ?_, fun h => mem_map_of_mem h⟩
  obtain ⟨a, ha, he⟩ := mem_map.mp h
  rwa [← Int32.toInt_inj.mp he]

theorem PidList.pid_ne_zero (h : PidList pids) (hpid : pid.toInt32 ∈ pids) : pid ≠ 0 := by
  rintro rfl
  exact absurd (h.pos _ hpid) (by decide)

theorem PidList.sorted_of_sublist {sub : List Int32} (h : PidList pids) (hsub : sub.Sublist pids) :
    (searchList sub).Pairwise (· ≤ ·) :=
  h.sorted.sublist (hsub.map _)

/-- A tail of the old list does not lead the halving astray: the pid is in it, or it is above the pid. -/
theorem not_ledAstray_of_suffix {pre rest : List Int32} (hold : PidList old) (hsuffix : rest <:+ old)
    (hpid : pid.toInt32 ∈ old) {q : Nat} (hq : pre.length ≤ q) :
    ¬ BinarySearch.LedAstray (searchKey pid) (searchList (pre ++ rest)) q := by
  intro hastray
  obtain ⟨⟨x, hx, hlt⟩, hgone⟩ := hastray
  obtain ⟨before, rfl⟩ := hsuffix
  have hsorted := hold.sorted
  rw [map_append, pairwise_append] at hsorted
  obtain ⟨-, hrest, hacross⟩ := hsorted
  have hlen : (pre.map Int32.toInt).length = pre.length := length_map _
  rw [searchList, map_append] at hx hgone
  rw [getElem?_append_right (by omega), hlen] at hx
  rw [drop_append, drop_eq_nil_of_le (by omega), nil_append, hlen] at hgone
  have hkey := mem_searchList.mpr hpid
  rw [searchList, map_append] at hkey
  rcases mem_append.mp hkey with hbefore | htail
  · exact absurd (hacross _ hbefore x (mem_of_getElem? hx)) (not_le.mpr hlt)
  · obtain ⟨b, hb⟩ := mem_iff_getElem?.mp htail
    by_cases hbq : b ≤ q - pre.length
    · exact absurd (BinarySearch.getElem?_le hrest hbq hb hx) (not_le.mpr hlt)
    · refine hgone (BinarySearch.mem_drop_of_getElem? hb (by omega))

/-- The two searches, on the new list with a tail that is sorted after its first entry. -/
theorem checkDevicePid_iff {tail : List Int32} (hnew : PidList new) (hpid : pid.toInt32 ∈ new)
    (htail : (searchList (tail.drop 1)).Pairwise (· ≤ ·)) :
    checkDevicePidInOrderedContainerPids pid (new ++ tail) = true ↔ (new ++ tail).length ≤ pidLinearSearchThreshold ∨
        ∀ q ∈ BinarySearch.probes (searchKey pid) (searchList (new ++ tail)), new.length ≤ q →
          ¬ BinarySearch.LedAstray (searchKey pid) (searchList (new ++ tail)) q := by
  have hloaded : pid.toInt32 ∈ new ++ tail := mem_append_left _ hpid
  have hne : ¬ (pid = 0 ∨ new ++ tail = []) := not_or.mpr ⟨hnew.pid_ne_zero hpid, ne_nil_of_mem hloaded⟩
  rw [checkDevicePidInOrderedContainerPids, if_neg hne]
  by_cases hshort : (new ++ tail).length ≤ pidLinearSearchThreshold
  · simp only [hshort, if_true, true_or, iff_true, pidLinearSearch, any_eq_true, beq_iff_eq]
    exact ⟨pid.toInt32, hloaded, by simp⟩
  rw [if_neg hshort, or_iff_right hshort]
  have hsplit : searchList (new ++ tail) = searchList new ++ searchList tail := map_append
  have hlen : (searchList new).length = new.length := length_map _
  have hfirst : (searchList (new ++ tail)).take new.length = searchList new := by rw [hsplit, ← hlen, take_left]
  have hlast : (searchList (new ++ tail)).drop (new.length + 1) = searchList (tail.drop 1) := by
    rw [hsplit, ← hlen, drop_append, drop_eq_nil_of_le (Nat.le_succ _), nil_append, Nat.add_sub_cancel_left,
      searchList, ← map_drop]
    rfl
  exact BinarySearch.contains_iff_probes (hfirst ▸ hnew.sorted) (hlast ▸ htail) (hfirst ▸ mem_searchList.mpr hpid)

/-- Of the places behind the new list, the cut line alone can lead astray. -/
theorem places_iff {cut : Int32} {rest : List Int32} (hold : PidList old) (hsuffix : rest <:+ old)
    (hpid : pid.toInt32 ∈ old) :
    (∀ q ∈ BinarySearch.probes (searchKey pid) (searchList (new ++ cut :: rest)), new.length ≤ q →
      ¬ BinarySearch.LedAstray (searchKey pid) (searchList (new ++ cut :: rest)) q) ↔
    ¬ ((∀ q ∈ BinarySearch.wayTo new.length (new.length + 1 + rest.length) 0 (new.length + 1 + rest.length),
        BinarySearch.TurnsTo new.length (searchKey pid) (searchList (new ++ cut :: rest)) q) ∧
      cut.toInt < searchKey pid ∧ pid.toInt32 ∉ rest) := by
  have hlen : (searchList (new ++ cut :: rest)).length = new.length + 1 + rest.length := by
    rw [searchList, length_map, length_append, length_cons]
    omega
  have hcomes := @BinarySearch.mem_loopProbes_iff _ _ new.length (searchList (new ++ cut :: rest)) (searchKey pid)
    (new.length + 1 + rest.length) 0 (new.length + 1 + rest.length) le_rfl hlen.ge (Nat.zero_le _) (by omega)
  have hastray : BinarySearch.LedAstray (searchKey pid) (searchList (new ++ cut :: rest)) new.length ↔
      cut.toInt < searchKey pid ∧ pid.toInt32 ∉ rest := by
    have hat : (searchList (new ++ cut :: rest))[new.length]? = some cut.toInt := by simp [searchList]
    have hafter : (searchList (new ++ cut :: rest)).drop (new.length + 1) = searchList rest := by
      simp [searchList, drop_append]
    rw [BinarySearch.LedAstray, hat, hafter, mem_searchList]
    simp
  rw [← hcomes, ← hastray, BinarySearch.probes, hlen]
  refine ⟨fun h hbad => h _ hbad.1 le_rfl hbad.2, fun h q hq hle hled => ?_⟩
  rcases Nat.eq_or_lt_of_le hle with rfl | hlt
  · exact h ⟨hq, hled⟩
  · rw [show new ++ cut :: rest = (new ++ [cut]) ++ rest by simp] at hled
    exact not_ledAstray_of_suffix hold hsuffix hpid (by rw [length_append]; exact hlt) hled

/-- **How a pid of both lists is hidden**: the new text ends inside a line of the old one, whose last digits make a
number below the pid; the line of the pid is not among those after it; the lines are too many to be scanned, and at all
places the halving looks at before it comes to the cut line it turns towards that. -/
def Hidden (old new : List Int32) (pid : UInt32) : Prop :=
  ∃ cut rest, cutAt old (pidsText new).length = some (cut, rest) ∧ cut.toInt < searchKey pid ∧
    pid.toInt32 ∉ rest ∧ pidLinearSearchThreshold < new.length + 1 + rest.length ∧
    ∀ q ∈ BinarySearch.wayTo new.length (new.length + 1 + rest.length) 0 (new.length + 1 + rest.length),
      BinarySearch.TurnsTo new.length (searchKey pid) (searchList (new ++ cut :: rest)) q

end VGpuManager.Library

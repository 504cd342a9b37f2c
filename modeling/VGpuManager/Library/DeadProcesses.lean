import VGpuManager.Foundation.Text
import VGpuManager.Library.MemoryLimit

/-!
# The entries of dead processes (`loader.c`: `rm_vmem_node_by_non_existent_device_pid`, `util.c`)

The ledger keeps an entry for each process that holds virtual memory on a device. The cleanup asks `kill` whether a
process still exists and reads its state from `/proc/<pid>/stat`. That file holds the name of the process between
brackets, as the process chose it, and `fscanf` ends the name at its first white space.
-/

namespace VGpuManager.Library

open List Foundation

/-- `isspace`. -/
def isBlank (c : Char) : Bool := c.toNat = 32 || (9 ≤ c.toNat && c.toNat ≤ 13)

/-- A process as the kernel shows it. -/
structure Process where
  comm : Text
  state : Char
  /-- The fields of `/proc/<pid>/stat` after the state. -/
  fields : Text
  /-- `/proc/<pid>/stat` can be opened and read. -/
  readable : Bool
  comm_le : comm.length ≤ 64
  state_visible : isBlank state = false

namespace Process

def isZombieState (state : Char) : Bool := state = 'Z' || state = 'z'

/-- `/proc/<pid>/stat`. -/
def stat (p : Process) (pid : Int) : Text :=
  fmtInt pid ++ ' ' :: '(' :: (p.comm ++ ')' :: ' ' :: p.state :: p.fields)

end Process

inductive KillError where
  | esrch
  | eperm
  deriving Repr, DecidableEq

/-- The processes by their ids, and whether we may send them signals. -/
structure Processes where
  proc : Int → Option Process
  permits : Int → Bool
  pid_pos : ∀ pid, (proc pid).isSome → 0 < pid

/-! ## `fscanf` -/

def dropSign : Text → Text
  | '+' :: t => t
  | '-' :: t => t
  | t => t

/-- `%d`: what follows the number. -/
def scanInt (t : Text) : Option Text :=
  let digits := dropSign (t.dropWhile isBlank)
  if digits.takeWhile Char.isDigit = [] then none else some (digits.dropWhile Char.isDigit)

/-- `%s` with a field width: what follows the word. -/
def scanWord (width : Nat) (t : Text) : Option Text :=
  let word := ((t.dropWhile isBlank).takeWhile fun c => !isBlank c).take width
  if word = [] then none else some ((t.dropWhile isBlank).drop word.length)

/-- `%c` after a blank. -/
def scanChar (t : Text) : Option Char := (t.dropWhile isBlank).head?

namespace Processes

variable (S : Processes) (pid : Int)

/-- `kill(pid, 0)`. -/
def kill : Option KillError :=
  match S.proc pid with
  | none => some .esrch
  | some _ => if S.permits pid then none else some .eperm

/-- `pid_exist`. -/
def pidExist : Int :=
  if pid ≤ 0 then -1
  else match S.kill pid with
    | none => 0
    | some .esrch => -1
    | some .eperm => 0

/-- `is_zombie_proc`: 1 for a zombie, 0 for another process, -1 for an error. -/
def isZombieProc : Int :=
  if pid ≤ 0 then -1
  else match (S.proc pid).filter (·.readable) with
    | none => -1
    | some p => match ((scanInt (p.stat pid)).bind (scanWord 1023)).bind scanChar with
      | none => -1
      | some state => if Process.isZombieState state then 1 else 0

/-- The process exists and is no zombie. -/
def alive : Bool := ((S.proc pid).map fun p => !Process.isZombieState p.state).getD false

end Processes

/-! ## The state that is read -/

/-- The character taken for the state: with white space in the name the first visible one after it, which is the
bracket if the name has no more. -/
def Process.shownState (p : Process) : Char :=
  if p.comm.all (fun c => !isBlank c) then p.state
  else ((p.comm.dropWhile fun c => !isBlank c).dropWhile isBlank).headD ')'

theorem isBlank_of_isDigit {c : Char} (h : c.isDigit) : isBlank c = false := by
  rw [Char.isDigit, Bool.and_eq_true, decide_eq_true_eq, decide_eq_true_eq] at h
  have hrange : 48 ≤ c.toNat ∧ c.toNat ≤ 57 := h
  simp only [isBlank, Bool.or_eq_false_iff, decide_eq_false_iff_not, Bool.and_eq_false_iff]
  omega

theorem dropSign_of_isDigit {c : Char} (h : c.isDigit) (t : Text) : dropSign (c :: t) = c :: t := by
  unfold dropSign
  split
  · rename_i heq
    exact absurd h (by rw [(cons.inj heq).1]; decide)
  · rename_i heq
    exact absurd h (by rw [(cons.inj heq).1]; decide)
  · rfl

theorem scanInt_fmtInt {pid : Int} (hpid : 0 < pid) (t : Text) :
    scanInt (fmtInt pid ++ ' ' :: t) = some (' ' :: t) := by
  obtain ⟨n, rfl⟩ := Int.eq_ofNat_of_zero_le hpid.le
  have hdigit : ∀ c ∈ fmtInt n, c.isDigit = true := fun c hc => isDigit_toDigits hc
  obtain ⟨c, ds, hds⟩ := exists_cons_of_ne_nil (fmtInt_ne_nil (n : Int))
  have hc : c.isDigit = true := hdigit c (hds ▸ .head _)
  have hstart : dropSign ((fmtInt n ++ ' ' :: t).dropWhile isBlank) = fmtInt n ++ ' ' :: t := by
    rw [hds, cons_append, dropWhile_cons, if_neg (by simp [isBlank_of_isDigit hc]), dropSign_of_isDigit hc]
  have htake : (fmtInt n ++ ' ' :: t).takeWhile Char.isDigit = fmtInt n := by
    rw [takeWhile_append_of_pos hdigit]
    simp
  have hdrop : (fmtInt n ++ ' ' :: t).dropWhile Char.isDigit = ' ' :: t := by
    rw [dropWhile_append_of_pos hdigit]
    rfl
  rw [scanInt, hstart, htake, hdrop, if_neg (fmtInt_ne_nil _)]

/-- The word ends at the first white space, if it is not too long. -/
theorem scanWord_eq {width : Nat} {c : Char} {t : Text} (hc : isBlank c = false)
    (hwidth : ((c :: t).takeWhile fun c => !isBlank c).length ≤ width) :
    scanWord width (' ' :: c :: t) = some (t.dropWhile fun c => !isBlank c) := by
  have hstart : (' ' :: c :: t).dropWhile isBlank = c :: t := by
    rw [dropWhile_cons, if_pos (by decide), dropWhile_cons, if_neg (by simp [hc])]
  have hword : (c :: t).takeWhile (fun c => !isBlank c) = c :: t.takeWhile fun c => !isBlank c := by
    rw [takeWhile_cons, if_pos (by simp [hc])]
  rw [scanWord, hstart, take_of_length_le hwidth, hword, if_neg (cons_ne_nil _ _), length_cons, drop_succ_cons]
  have hrest := @drop_left _ (t.takeWhile fun c => !isBlank c) (t.dropWhile fun c => !isBlank c)
  rw [takeWhile_append_dropWhile] at hrest
  rw [hrest]

/-- The name and its brackets fit into the buffer. -/
theorem comm_length_le (p : Process) :
    (('(' :: (p.comm ++ ')' :: ' ' :: p.state :: p.fields)).takeWhile fun c => !isBlank c).length ≤ 1023 := by
  have hword : (p.comm ++ ')' :: ' ' :: p.state :: p.fields).takeWhile (fun c => !isBlank c) =
      (p.comm ++ [')']).takeWhile fun c => !isBlank c := by
    rw [show p.comm ++ ')' :: ' ' :: p.state :: p.fields = (p.comm ++ [')']) ++ ' ' :: p.state :: p.fields by simp,
      takeWhile_append]
    split
    · next h => rw [( takeWhile_prefix _).eq_of_length h, takeWhile_cons, if_neg (by decide), append_nil]
    · rfl
  have hle : ((p.comm ++ [')']).takeWhile fun c => !isBlank c).length ≤ 65 := by
    refine ( takeWhile_prefix _).length_le.trans ?_
    rw [length_append]
    exact Nat.succ_le_succ p.comm_le
  rw [takeWhile_cons, if_pos (by decide), hword, length_cons]
  omega

/-- **What is read of a stat file.** -/
theorem scan_stat (p : Process) {pid : Int} (hpid : 0 < pid) :
    ((scanInt (p.stat pid)).bind (scanWord 1023)).bind scanChar = some p.shownState := by
  have hempty : ((p.comm.dropWhile fun c => !isBlank c).isEmpty = true) ↔ p.comm.all (fun c => !isBlank c) = true := by
    rw [List.isEmpty_iff, dropWhile_eq_nil_iff, all_eq_true]
  rw [Process.stat, scanInt_fmtInt hpid, Option.bind_some, scanWord_eq rfl (comm_length_le p), Option.bind_some,
    dropWhile_append, scanChar, Process.shownState]
  by_cases hall : p.comm.all (fun c => !isBlank c) = true
  · rw [if_pos (hempty.mpr hall), if_pos hall]
    rw [dropWhile_cons, if_pos (by decide), dropWhile_cons, if_neg (by decide), dropWhile_cons, if_pos (by decide),
      dropWhile_cons, if_neg (by simp [p.state_visible])]
    rfl
  · rw [if_neg (mt hempty.mp hall), if_neg hall, dropWhile_append]
    cases (p.comm.dropWhile fun c => !isBlank c).dropWhile isBlank with
    | nil => rfl
    | cons c t => rfl

namespace Process

variable (p : Process)

/-- The cleanup is right about the process: the character taken for the state says what the state says, and a file
that cannot be read is that of a zombie. -/
def Judged : Prop :=
  if p.readable then isZombieState p.shownState = isZombieState p.state else isZombieState p.state = true

instance : Decidable p.Judged := by unfold Judged; infer_instance

end Process

namespace Processes

variable (S : Processes) {pid : Int}

theorem isZombieProc_eq {p : Process} (hproc : S.proc pid = some p) : S.isZombieProc pid =
    if p.readable then (if Process.isZombieState p.shownState then 1 else 0) else -1 := by
  have hpos : 0 < pid := S.pid_pos pid (by rw [hproc]; rfl)
  rw [isZombieProc, if_neg (not_le.mpr hpos), hproc]
  cases hread : p.readable with
  | false => simp [Option.filter, hread]
  | true => simp [Option.filter, hread, scan_stat p hpos]

theorem pidExist_eq_zero : S.pidExist pid = 0 ↔ (S.proc pid).isSome = true := by
  by_cases hpos : pid ≤ 0
  · have hnone : (S.proc pid).isSome = false :=
      Bool.eq_false_iff.mpr fun h => absurd (S.pid_pos pid h) (not_lt.mpr hpos)
    simp [pidExist, hpos, hnone]
  · rw [pidExist, if_neg hpos, kill]
    cases S.proc pid with
    | none => simp
    | some p => cases S.permits pid <;> simp

end Processes

/-! ## The slots of the shared file -/

/-- A slot nobody uses. -/
def zeroSlot : ProcessUsed := ⟨0, 0⟩

/-- `processes` and `processes_size` of a device: the first `size` slots are in use. -/
structure ProcessSlots where
  slots : List ProcessUsed
  size : Nat
  deriving Repr, DecidableEq

/-- The last entry moves into the hole, and its slot is zeroed. -/
def ProcessSlots.drop (d : ProcessSlots) (i : Nat) : ProcessSlots where
  slots := (d.slots.set i (d.slots.getD (d.size - 1) zeroSlot)).set (d.size - 1) zeroSlot
  size := d.size - 1

/-- The loop over the slots, from the last entry down. -/
def ProcessSlots.sweep (kickOut : Int → Bool) : Nat → ProcessSlots → ProcessSlots
  | 0, d => d
  | i + 1, d => sweep kickOut i (if kickOut (d.slots.getD i zeroSlot).pid then d.drop i else d)

section

variable (S : Processes)

/-- An entry goes with its process. -/
def kickOut (pid cur : Int) : Bool := cur = pid || S.pidExist cur != 0 || S.isZombieProc cur != 0

/-- `rm_vmem_node_by_non_existent_device_pid`. -/
def rmVmemNodeByNonExistentDevicePid (pid : Int) (d : ProcessSlots) : ProcessSlots := d.sweep (kickOut S pid) d.size

/-- The cleanup keeps the living processes, but for the given one, exactly if it is right about the process. -/
theorem kickOut_iff_judged {pid cur : Int} (hcur : cur ≠ pid) :
    ((!kickOut S pid cur) = S.alive cur) ↔ ∀ p, S.proc cur = some p → p.Judged := by
  cases hproc : S.proc cur with
  | none =>
    have hexist : S.pidExist cur ≠ 0 := by simp [S.pidExist_eq_zero, hproc]
    simp [kickOut, hexist, Processes.alive, hproc]
  | some p =>
    have hexist : S.pidExist cur = 0 := by simp [S.pidExist_eq_zero, hproc]
    rw [kickOut, hexist, S.isZombieProc_eq hproc, Processes.alive, hproc]
    cases hread : p.readable <;> cases hshown : Process.isZombieState p.shownState <;>
      cases hstate : Process.isZombieState p.state <;> simp [hcur, Process.Judged, hread, hshown, hstate]

end

/-- In the slots, `swapRemove` leaves a zero behind the entries. -/
theorem ProcessSlots.drop_eq {ps : List ProcessUsed} {i : Nat} (hi : i < ps.length) (tail : List ProcessUsed) :
    (ProcessSlots.mk (ps ++ tail) ps.length).drop i =
      ⟨swapRemove ps i ++ zeroSlot :: tail, (swapRemove ps i).length⟩ ∧ (swapRemove ps i).length + 1 = ps.length := by
  obtain rfl | ⟨front, last, rfl⟩ := eq_nil_or_concat ps
  · exact absurd hi (Nat.not_lt_zero i)
  rw [length_concat] at hi
  rcases Nat.lt_succ_iff_lt_or_eq.mp hi with hlt | rfl
  · simp [drop, swapRemove, hlt]
  · simp [drop, swapRemove]

theorem ProcessSlots.sweep_eq (gone : Int → Bool) : ∀ (k : Nat) (ps tail : List ProcessUsed), k ≤ ps.length →
    let qs := rmNonExistent gone k ps
    (ProcessSlots.mk (ps ++ tail) ps.length).sweep gone k =
      ⟨qs ++ (replicate (ps.length - qs.length) zeroSlot ++ tail), qs.length⟩ ∧ qs.length ≤ ps.length
  | 0, ps, tail, _ => by simp [sweep, rmNonExistent]
  | k + 1, ps, tail, hk => by
    have hget : (ps ++ tail).getD k zeroSlot = ps[k] := by simp [getElem?_append_left hk, getElem?_eq_getElem hk]
    simp only [sweep, rmNonExistent, hget, getElem?_eq_getElem hk, Option.map_some, Option.getD_some]
    split
    · obtain ⟨hdrop, hlen⟩ := drop_eq hk tail
      rw [hdrop]
      obtain ⟨heq, hle⟩ := sweep_eq gone k (swapRemove ps k) (zeroSlot :: tail) (by omega)
      refine ⟨?_, by omega⟩
      rw [heq, ← hlen, Nat.succ_sub hle, replicate_succ', append_assoc, singleton_append]
    · exact sweep_eq gone k ps tail (by omega)

/-- What the cleanup leaves are the entries of the other living processes, each as often as before; the slots that
become free are zero, those behind them are untouched. -/
def LeavesLiving (S : Processes) (pid : Int) (slots : List ProcessUsed) (size : Nat) : Prop :=
  let kept := (slots.take size).filter fun p => p.pid ≠ pid ∧ S.alive p.pid = true
  let left := rmVmemNodeByNonExistentDevicePid S pid ⟨slots, size⟩
  (left.slots.take left.size).Perm kept ∧ left.size = kept.length ∧
    (∀ i, left.size ≤ i → i < size → left.slots[i]? = some zeroSlot) ∧ left.slots.drop size = slots.drop size

section

variable (S : Processes) {slots : List ProcessUsed} {size : Nat} (pid : Int)

/-- The slots after the cleanup: the entries that are not kicked out, zeros, and what was behind the entries. -/
theorem rmVmemNode_slots (hsize : size ≤ slots.length) : ∃ qs : List ProcessUsed,
    qs.Perm ((slots.take size).filter fun p => !kickOut S pid p.pid) ∧ qs.length ≤ size ∧
      rmVmemNodeByNonExistentDevicePid S pid ⟨slots, size⟩ =
        ⟨qs ++ (replicate (size - qs.length) zeroSlot ++ slots.drop size), qs.length⟩ := by
  have hlen : (slots.take size).length = size := length_take_of_le hsize
  obtain ⟨hleft, hle⟩ := ProcessSlots.sweep_eq (kickOut S pid) size _ (slots.drop size) hlen.ge
  rw [hlen] at hle hleft
  refine ⟨rmNonExistent (kickOut S pid) size (slots.take size), ?_, hle, ?_⟩
  · simpa only [checkCleanupVmemNodesByDevice, hlen, if_true] using checkCleanup_perm _ (slots.take size)
  · rw [← hleft, take_append_drop]
    rfl

/-- Two filters that leave the same entries agree on every entry. -/
theorem filter_perm_filter_iff {α : Type} [DecidableEq α] {f g : α → Bool} {l : List α} :
    (l.filter f).Perm (l.filter g) ↔ ∀ x ∈ l, f x = g x := by
  refine ⟨fun h x hx => ?_, fun h => by rw [filter_congr h]⟩
  have hmem : x ∈ l.filter f ↔ x ∈ l.filter g := h.mem_iff
  exact Bool.eq_iff_iff.mpr (by simpa only [mem_filter, hx, true_and] using hmem)

/-- **When `rm_vmem_node_by_non_existent_device_pid` leaves the living processes**: exactly if it is right about every
other listed process that exists. -/
theorem rmVmemNode_leaves_iff (hsize : size ≤ slots.length) : LeavesLiving S pid slots size ↔
    ∀ e ∈ slots.take size, e.pid ≠ pid → ∀ p, S.proc e.pid = some p → p.Judged := by
  obtain ⟨qs, hperm, hle, hleft⟩ := rmVmemNode_slots S pid hsize
  have hkept : qs.Perm ((slots.take size).filter fun p => p.pid ≠ pid ∧ S.alive p.pid = true) ↔
      ∀ e ∈ slots.take size, e.pid ≠ pid → ∀ p, S.proc e.pid = some p → p.Judged := by
    rw [hperm.congr_left, filter_perm_filter_iff]
    refine forall₂_congr fun e _ => ?_
    by_cases hpid : e.pid = pid
    · simp [hpid, kickOut]
    · simpa [hpid] using kickOut_iff_judged S hpid
  rw [← hkept, LeavesLiving, hleft]
  refine ⟨fun h => by simpa using h.1, fun h => ⟨by simpa using h, h.length_eq, fun i hlow hhigh => ?_, ?_⟩⟩
  · dsimp only at hlow ⊢
    rw [getElem?_append_right hlow, getElem?_append_left (by simp; omega), getElem?_replicate_of_lt (by omega)]
  · rw [← append_assoc]
    exact drop_left' (by simp; omega)

end

/-- A system with one process, whose id is 8. -/
def oneProcess (p : Process) : Processes where
  proc pid := if pid = 8 then some p else none
  permits _ := true
  pid_pos pid h := by
    split at h
    · next hpid => rw [hpid]; decide
    · exact absurd h (by decide)

/-- A sleeping process. -/
def sleeping (comm : Text) (readable : Bool) (h : comm.length ≤ 64) : Process := ⟨comm, 'S', [], readable, h, rfl⟩

/-- Of two entries, the one of the given process goes; the other process has a blank in its name. -/
theorem rmVmemNode_leaves_iff_two :
    let myJob := sleeping ['m', 'y', ' ', 'j', 'o', 'b'] true (by decide)
    LeavesLiving (oneProcess myJob) 7 [⟨7, 10⟩, ⟨8, 20⟩, zeroSlot] 2 :=
  (@rmVmemNode_leaves_iff _ [⟨7, 10⟩, ⟨8, 20⟩, zeroSlot] 2 7 (by decide)).mpr (by
    intro e he hpid p hp
    simp only [take_succ_cons, take_zero, mem_cons, not_mem_nil, or_false] at he
    rcases he with rfl | rfl
    · exact absurd rfl hpid
    · cases hp
      decide)

/-- **A living process loses its entry** if a word of its name starts with a Z, or if its stat file cannot be read. -/
theorem living_process_kicked_out :
    let named := oneProcess (sleeping ['x', ' ', 'Z'] true (by decide))
    let hidden := oneProcess (sleeping ['x'] false (by decide))
    named.alive 8 = true ∧ hidden.alive 8 = true ∧
      (rmVmemNodeByNonExistentDevicePid named 7 ⟨[⟨8, 20⟩], 1⟩).size = 0 ∧
      (rmVmemNodeByNonExistentDevicePid hidden 7 ⟨[⟨8, 20⟩], 1⟩).size = 0 := by
  decide

end VGpuManager.Library

import VGpuManager.Foundation.Arith
import Mathlib.Data.List.DropRight
import Mathlib.Data.List.Infix

/-!
# Text as the program handles it

Texts are lists of characters. Splitting on a separator and joining with it are the list
functions; what is added here is the decimal form of an integer and its parser, which accepts
a sign, refuses everything that is not a digit and everything the integer type cannot hold.
-/

namespace VGpuManager.Foundation

open List

abbrev Text := List Char

instance : Coe String Text := ⟨String.toList⟩

-- named once for all membership tests on texts
instance Text.lawfulBEq : LawfulBEq Text := inferInstance

/-- The pieces of a text with a separator between two of them. -/
def join (sep : Char) (pieces : List Text) : Text := [sep].intercalate pieces

variable (t : Text)

/-- The text without its blanks. -/
def removeBlanks : Text := t.filter (· ≠ ' ')

/-- Decimal form, with a minus sign for a negative number. -/
def fmtInt : Int → Text
  | .ofNat n => Nat.toDigits 10 n
  | .negSucc n => '-' :: Nat.toDigits 10 (n + 1)

/-- A non-empty run of decimal digits. -/
def parseDigits : Option Nat :=
  if t ≠ [] ∧ t.all Char.isDigit then some (Nat.ofDigitChars 10 t 0) else none

/-- A signed decimal number without regard to its size. -/
def parseSigned : Text → Option Int
  | '-' :: t => (parseDigits t).map fun n => -(n : Int)
  | '+' :: t => (parseDigits t).map Int.ofNat
  | t => (parseDigits t).map Int.ofNat

/-- A signed decimal number of the integer type. -/
def parseInt (A : IntArith) (t : Text) : Option Int :=
  (parseSigned t).filter fun x => A.Fits x

/-! ## Go's string functions -/

/-- White space as Unicode has it. -/
def isSpace (c : Char) : Bool :=
  c.toNat ∈ [0x09, 0x0A, 0x0B, 0x0C, 0x0D, 0x20, 0x85, 0xA0, 0x1680, 0x2028, 0x2029, 0x202F,
    0x205F, 0x3000] || (0x2000 ≤ c.toNat && c.toNat ≤ 0x200A)

def trimSpace : Text := (t.dropWhile isSpace).rdropWhile isSpace

/-- `unicode.ToLower` as far as it gives ASCII letters: İ and the Kelvin sign have one as well. What becomes
another character is left as it is; no comparison with an ASCII word can tell. -/
def lowerRune (c : Char) : Char :=
  if c.toNat = 0x130 then 'i' else if c.toNat = 0x212A then 'k' else c.toLower

/-- `strings.ToLower`, for texts that are compared with ASCII words. -/
def toLower : Text := t.map lowerRune

/-- `part` occurs somewhere in `t`. -/
def contains (part : Text) : Bool := decide (part <:+: t)

/-- The text before and after the first separator, if there is one. -/
def cut (sep : Char) (t : Text) : Option (Text × Text) :=
  if sep ∈ t then some (t.take (t.idxOf sep), t.drop (t.idxOf sep + 1)) else none

/-! ## Formatting -/

variable {c sep : Char} {t}

theorem isDigit_toDigits {n : Nat} (h : c ∈ Nat.toDigits 10 n) : c.isDigit :=
  Nat.isDigit_of_mem_toDigits (by decide) (by decide) h

theorem not_mem_fmtInt {x : Int} (hd : c.isDigit = false) (hm : c ≠ '-') : c ∉ fmtInt x := by
  intro h
  cases x with
  | ofNat n => simp [isDigit_toDigits h] at hd
  | negSucc n =>
    rcases mem_cons.mp h with rfl | h
    · exact hm rfl
    · simp [isDigit_toDigits h] at hd

theorem fmtInt_ne_nil (x : Int) : fmtInt x ≠ [] := by
  cases x with
  | ofNat n => exact Nat.toDigits_ne_nil
  | negSucc n => simp [fmtInt]

theorem parseDigits_toDigits (n : Nat) : parseDigits (Nat.toDigits 10 n) = some n := by
  have hall : (Nat.toDigits 10 n).all Char.isDigit = true :=
    all_eq_true.mpr fun c hc => isDigit_toDigits hc
  have hval : Nat.ofDigitChars 10 (Nat.toDigits 10 n) 0 = n := Nat.ofDigitChars_ten_toDigits
  simp [parseDigits, Nat.toDigits_ne_nil, hall, hval]

theorem parseSigned_of_digit (h : ∀ c ∈ t, c.isDigit) : parseSigned t = (parseDigits t).map Int.ofNat := by
  cases t with
  | nil => rfl
  | cons c t =>
    have hc : c.isDigit := h c (by simp)
    unfold parseSigned
    split
    case h_3 => rfl
    -- a sign is no digit
    all_goals
      rename_i heq
      injection heq with h₁ _
      subst h₁
      exact absurd hc (by decide)

theorem parseSigned_fmtInt (x : Int) : parseSigned (fmtInt x) = some x := by
  cases x with
  | ofNat n =>
    rw [fmtInt, parseSigned_of_digit fun c hc => isDigit_toDigits hc, parseDigits_toDigits]
    rfl
  | negSucc n =>
    rw [fmtInt, parseSigned, parseDigits_toDigits]
    rfl

/-- **An integer of the type is read back from its decimal form.** -/
theorem parseInt_fmtInt {A : IntArith} {x : Int} (h : A.Fits x) : parseInt A (fmtInt x) = some x := by
  simp [parseInt, parseSigned_fmtInt, h]

/-! ## Blanks and separators -/

theorem removeBlanks_of_not_mem (h : ' ' ∉ t) : removeBlanks t = t :=
  filter_eq_self.mpr fun c hc => by
    simp only [decide_eq_true_eq, ne_eq]
    rintro rfl
    exact h hc

@[simp] theorem removeBlanks_removeBlanks : removeBlanks (removeBlanks t) = removeBlanks t := by
  simp [removeBlanks, filter_filter]

theorem removeBlanks_append (s t : Text) : removeBlanks (s ++ t) = removeBlanks s ++ removeBlanks t :=
  filter_append s t

theorem mem_removeBlanks : c ∈ removeBlanks t ↔ c ∈ t ∧ c ≠ ' ' := by
  simp [removeBlanks]

theorem removeBlanks_eq_self : removeBlanks t = t ↔ ' ' ∉ t := by
  refine ⟨fun h hmem => ?_, removeBlanks_of_not_mem⟩
  rw [← h, mem_removeBlanks] at hmem
  exact hmem.2 rfl

theorem mem_join : ∀ {ps : List Text}, c ∈ join sep ps → c = sep ∨ ∃ p ∈ ps, c ∈ p
  | [], h => by simp [join] at h
  | [p], h => .inr ⟨p, by simp, by simpa [join] using h⟩
  | p :: q :: ps, h => by
    have h' : c ∈ p ++ sep :: join sep (q :: ps) := by
      simpa [join, intercalate_cons_cons] using h
    rcases mem_append.mp h' with hp | hr
    · exact .inr ⟨p, by simp, hp⟩
    · rcases mem_cons.mp hr with rfl | hr
      · exact .inl rfl
      · rcases mem_join hr with h | ⟨r, hr, hc⟩
        · exact .inl h
        · exact .inr ⟨r, by simp [hr], hc⟩

theorem removeBlanks_join (hsep : sep ≠ ' ') : ∀ ps : List Text,
    removeBlanks (join sep ps) = join sep (ps.map removeBlanks)
  | [] => rfl
  | [p] => by simp [join]
  | p :: q :: ps => by
    have ih := removeBlanks_join hsep (q :: ps)
    have hblank : removeBlanks [sep] = [sep] := removeBlanks_of_not_mem (by simpa using hsep.symm)
    simp only [join, map_cons, intercalate_cons_cons] at ih ⊢
    rw [removeBlanks_append, removeBlanks_append, hblank, ih]

theorem splitOn_cons (c : Char) (t : Text) : (c :: t).splitOn sep =
    if c = sep then [] :: t.splitOn sep else (t.splitOn sep).modifyHead (c :: ·) := by
  simp [splitOn_eq_splitOnP, splitOnP_cons_eq_if_modifyHead]

theorem exists_splitOn (sep : Char) (t : Text) : ∃ p ps, t.splitOn sep = p :: ps :=
  exists_cons_of_ne_nil (by rw [splitOn_eq_splitOnP]; exact splitOnP_ne_nil _ t)

theorem splitOn_append (s t : Text) : (s ++ sep :: t).splitOn sep = s.splitOn sep ++ t.splitOn sep := by
  simp only [splitOn_eq_splitOnP]
  exact splitOnP_append_cons _ _ (beq_self_eq_true sep)

/-- A piece of a split holds no separator, and only characters of the text. -/
theorem mem_splitOn {p : Text} (h : p ∈ t.splitOn sep) : sep ∉ p ∧ p ⊆ t := by
  induction t generalizing p with
  | nil => simp_all
  | cons c t ih =>
    obtain ⟨q, qs, hq⟩ := exists_splitOn sep t
    rw [splitOn_cons, hq] at h
    rw [hq] at ih
    split_ifs at h with hc
    · rcases mem_cons.mp h with rfl | h
      · simp
      · exact (ih h).imp_right (subset_cons_of_subset c)
    · rcases mem_cons.mp h with rfl | h
      · -- the piece the character is put in front of
        obtain ⟨h₁, h₂⟩ := ih (.head _)
        exact ⟨by simp [Ne.symm hc, h₁], cons_subset_cons c h₂⟩
      · exact (ih (.tail _ h)).imp_right (subset_cons_of_subset c)

theorem splitOn_join {ps : List Text} (h : ∀ p ∈ ps, sep ∉ p) (hne : ps ≠ []) : List.splitOn sep (join sep ps) = ps :=
  splitOn_intercalate sep h hne

theorem splitOn_of_not_mem (h : sep ∉ t) : t.splitOn sep = [t] := by
  simpa [join] using @splitOn_join sep [t] (by simpa using h) (by simp)

end VGpuManager.Foundation

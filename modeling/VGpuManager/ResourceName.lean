import VGpuManager.Foundation.Text

/-!
# Names for Kubernetes (`pkg/util/util.go`: `GenerateK8sSafeResourceName`)

A name is made of any strings: joined, cut to length as bytes, lowered and cleared as characters. What
keeps the names apart is the hash of the join at the end.
-/

namespace VGpuManager.ResourceName

open Foundation

/-! ## Bytes and characters -/

/-- How many bytes follow the first one of a character, and from where to where the next one reaches. -/
def lead (b : Nat) : Option (Nat × Nat × Nat) :=
  if b < 0xC2 ∨ 0xF4 < b then none
  else if b < 0xE0 then some (1, 0x80, 0xBF)
  else if b < 0xF0 then some (2, if b = 0xE0 then 0xA0 else 0x80, if b = 0xED then 0x9F else 0xBF)
  else some (3, if b = 0xF0 then 0x90 else 0x80, if b = 0xF4 then 0x8F else 0xBF)

/-- `utf8.DecodeRune`: the character and the number of bytes it takes after the first; a byte that begins no
character is a `RuneError` of its own. -/
def decodeRune (b : UInt8) (rest : List UInt8) : Char × Nat :=
  match lead b.toNat with
  | none => (Char.ofNat (if b.toNat < 0x80 then b.toNat else 0xFFFD), 0)
  | some (n, low, high) =>
    let tail := (rest.take n).map UInt8.toNat
    if tail.length = n ∧ (∀ x ∈ tail.head?, low ≤ x ∧ x ≤ high) ∧ ∀ x ∈ tail, 0x80 ≤ x ∧ x ≤ 0xBF then
      (Char.ofNat (tail.foldl (fun r x => r * 64 + x % 64) (b.toNat % 2 ^ (6 - n))), n)
    else (Char.ofNat 0xFFFD, 0)

/-- The characters of a string; the first bytes still belong to the one before. -/
def runes : Nat → List UInt8 → Text
  | _, [] => []
  | k + 1, _ :: rest => runes k rest
  | 0, b :: rest => (decodeRune b rest).1 :: runes (decodeRune b rest).2 rest

/-- The bytes of an ASCII text. -/
def bytes (t : Text) : List UInt8 := t.map fun c => UInt8.ofNat c.toNat

/-- `unicode.ToLower`, of which only the ASCII part is fixed. -/
structure CaseTable where
  toLower : Char → Char
  ascii : ∀ c, c.toNat < 0x80 → toLower c = c.toLower

/-! ## The name -/

def alnum (c : Char) : Bool := ('a' ≤ c && c ≤ 'z') || ('0' ≤ c && c ≤ '9')

variable (U : CaseTable) (sha256 : List UInt8 → Vector UInt8 32)

/-- `MakeDNS1123Compatible`. -/
def makeDNS1123Compatible (name : List UInt8) : Text :=
  let name := (runes 0 name).map U.toLower
  let name := name.filter fun c => c = '-' || alnum c
  let name := name.dropWhile fun c => !alnum c
  (name.take 63).rdropWhile fun c => !alnum c

/-- `GenerateShortHash`: the first digits of the hash in hexadecimal. -/
def generateShortHash (input : List UInt8) (length : Nat) : Text :=
  ((sha256 input).toList.flatMap fun b => [(b.toNat / 16).digitChar, (b.toNat % 16).digitChar]).take length

/-- `strings.Join(str, "-")`. -/
def joined (str : List (List UInt8)) : List UInt8 := (bytes ['-']).intercalate str

/-- `GenerateK8sSafeResourceName`. -/
def generateK8sSafeResourceName (str : List (List UInt8)) : Text :=
  if joined str = [] then []
  else
    let hashSuffix := generateShortHash sha256 (joined str) 8
    let nameWithHash := joined str ++ bytes ('-' :: hashSuffix)
    let nameWithHash :=
      if 63 < nameWithHash.length then nameWithHash.take (63 - hashSuffix.length - 1) ++ bytes ('-' :: hashSuffix)
      else nameWithHash
    makeDNS1123Compatible U nameWithHash

/-- A label of RFC 1123. -/
structure IsDNS1123Label (name : Text) : Prop where
  short : name.length ≤ 63
  chars : ∀ c ∈ name, c = '-' ∨ alnum c
  first : ∃ c ∈ name.head?, alnum c
  last : ∃ c ∈ name.getLast?, alnum c

/-! ## The suffix stays -/

theorem byte_toNat {c : Char} (hc : c.toNat < 0x80) : (UInt8.ofNat c.toNat).toNat = c.toNat :=
  Nat.mod_eq_of_lt (hc.trans (by decide))

variable {t : Text} (ht : ∀ c ∈ t, c.toNat < 0x80)

include ht

theorem runes_ascii : runes 0 (bytes t) = t := by
  induction t with
  | nil => rfl
  | cons c t ih =>
    obtain ⟨hc, ht⟩ := List.forall_mem_cons.1 ht
    have hlead : lead c.toNat = none := if_pos (.inl (by omega))
    have hdec : decodeRune (UInt8.ofNat c.toNat) (bytes t) = (c, 0) := by
      simp [decodeRune, byte_toNat hc, hlead, hc]
    simp only [bytes, List.map_cons, runes] at hdec ⊢
    rw [hdec]
    exact congrArg (c :: ·) (ih ht)

/-- A character does not reach into ASCII. -/
theorem decodeRune_le (b : UInt8) (xs : List UInt8) : (decodeRune b (xs ++ bytes t)).2 ≤ xs.length := by
  unfold decodeRune
  split
  · exact Nat.zero_le _
  · next n low high _ =>
    dsimp only
    split
    · next h =>
      obtain ⟨hlen, -, hall⟩ := h
      by_contra hlt
      rw [List.length_map, List.length_take, List.length_append] at hlen
      obtain ⟨m, rfl⟩ : ∃ m, n = xs.length + (m + 1) := ⟨n - xs.length - 1, by omega⟩
      match t with
      | [] => simp [bytes] at hlen
      | c :: t =>
        -- the first byte of `t` would have to be one of the tail
        have hc := ht c (.head _)
        have := hall _ (List.mem_map.2 ⟨UInt8.ofNat c.toNat, by simp [bytes, List.take_append], byte_toNat hc⟩)
        omega
    · exact Nat.zero_le _

theorem runes_append : ∀ (xs : List UInt8) (k : Nat), k ≤ xs.length →
    ∃ zs : Text, zs.length ≤ xs.length ∧ runes k (xs ++ bytes t) = zs ++ t
  | [], 0, _ => ⟨[], le_rfl, runes_ascii ht⟩
  | _ :: xs, k + 1, hk => by
    obtain ⟨zs, hlen, heq⟩ := runes_append xs k (Nat.le_of_succ_le_succ hk)
    exact ⟨zs, Nat.le_succ_of_le hlen, heq⟩
  | b :: xs, 0, _ => by
    obtain ⟨zs, hlen, heq⟩ := runes_append xs _ (decodeRune_le ht b xs)
    refine ⟨(decodeRune b (xs ++ bytes t)).1 :: zs, Nat.succ_le_succ hlen, ?_⟩
    rw [List.cons_append, runes, heq, List.cons_append]

omit ht

theorem digitChar_plain : ∀ n < 16, n.digitChar.toNat < 0x80 ∧ n.digitChar.toLower = n.digitChar ∧
    alnum n.digitChar := by
  decide

/-- The hash is of eight characters, and no step of the cleaning changes one of them. -/
theorem generateShortHash_spec (input : List UInt8) : (generateShortHash sha256 input 8).length = 8 ∧
    ∀ c ∈ generateShortHash sha256 input 8, c.toNat < 0x80 ∧ c.toLower = c ∧ alnum c := by
  refine ⟨by simp [generateShortHash], fun c hc => ?_⟩
  obtain ⟨b, -, hb⟩ := List.mem_flatMap.1 (List.mem_of_mem_take hc)
  have := b.toNat_lt
  obtain rfl | rfl : c = _ ∨ c = _ := by simpa using hb
  · exact digitChar_plain _ (by omega)
  · exact digitChar_plain _ (by omega)

/-- What ends in a hash and is short enough becomes a label that ends in it. -/
theorem makeDNS1123Compatible_spec (p : List UInt8) {hash : Text} (hne : hash ≠ [])
    (hplain : ∀ c ∈ hash, c.toNat < 0x80 ∧ c.toLower = c ∧ alnum c) (hlen : p.length + hash.length < 63) :
    hash <:+ makeDNS1123Compatible U (p ++ bytes ('-' :: hash)) ∧
      IsDNS1123Label (makeDNS1123Compatible U (p ++ bytes ('-' :: hash))) := by
  have hascii : ∀ c ∈ '-' :: hash, c.toNat < 0x80 := List.forall_mem_cons.2 ⟨by decide, fun c hc => (hplain c hc).1⟩
  obtain ⟨zs, hzs, hrunes⟩ := runes_append hascii p 0 (Nat.zero_le _)
  have hlower : ('-' :: hash).map U.toLower = '-' :: hash := by
    refine (List.map_congr_left fun c hc => ?_).trans (List.map_id _)
    rw [U.ascii c (hascii c hc)]
    obtain _ | ⟨_, hc⟩ := hc
    exacts [rfl, (hplain c hc).2.1]
  have hkeep : ('-' :: hash).filter (fun c => c = '-' || alnum c) = '-' :: hash :=
    List.filter_eq_self.2 (List.forall_mem_cons.2 ⟨rfl, fun c hc => by simp [hplain c hc]⟩)
  set q : Char → Bool := fun c => !alnum c with hq
  set name := (((zs ++ '-' :: hash).map U.toLower).filter fun c => c = '-' || alnum c).dropWhile q with hname
  -- the hash begins and ends with what may stand there, so neither end is cut into it
  have hsuf : hash <:+ name := by
    rw [hname, List.map_append, List.filter_append, hlower, hkeep, List.append_cons, List.dropWhile_append]
    split
    · obtain ⟨c, t, rfl⟩ := List.exists_cons_of_ne_nil hne
      simp [hq, hplain c (.head _)]
    · exact List.suffix_append _ _
  have hshort : name.length ≤ 63 := by
    refine (List.dropWhile_suffix q).length_le.trans ((List.length_filter_le _ _).trans ?_)
    simp only [List.length_map, List.length_append, List.length_cons]
    omega
  have hlast (hn : name ≠ []) : alnum (name.getLast hn) := by
    rw [← hsuf.getLast hne]
    exact (hplain _ (List.getLast_mem hne)).2.2
  have heq : makeDNS1123Compatible U (p ++ bytes ('-' :: hash)) = name := by
    simp only [makeDNS1123Compatible, hrunes]
    rw [List.take_of_length_le hshort, List.rdropWhile_eq_self_iff]
    exact fun hn => by simp [hlast hn]
  have hn := hsuf.ne_nil hne
  rw [heq]
  refine ⟨hsuf, hshort, fun c hc => ?_, ⟨name.head hn, List.head_mem_head? hn, ?_⟩,
    ⟨name.getLast hn, List.getLast_mem_getLast? hn, hlast hn⟩⟩
  · simpa using (List.mem_filter.1 ((List.dropWhile_suffix q).mem hc)).2
  · simpa only [q, Bool.not_eq_false'] using List.head_dropWhile_not q hn

theorem generateK8sSafeResourceName_spec {str : List (List UInt8)} (hne : joined str ≠ []) :
    generateShortHash sha256 (joined str) 8 <:+ generateK8sSafeResourceName U sha256 str ∧
      IsDNS1123Label (generateK8sSafeResourceName U sha256 str) := by
  obtain ⟨hlen, hplain⟩ := generateShortHash_spec sha256 (joined str)
  have hspec (p : List UInt8) (hp : p.length ≤ 54) :=
    makeDNS1123Compatible_spec U p (List.ne_nil_of_length_pos (by omega)) hplain (by omega)
  simp only [generateK8sSafeResourceName, if_neg hne]
  split
  · next h =>
    rw [List.take_append_of_le_length (by simp [bytes, hlen] at h; omega)]
    exact hspec _ (by simp [hlen])
  · next h => exact hspec _ (by simp [bytes, hlen] at h; omega)

/-- Every name is a label that ends in the hash of its join, so names of different hashes differ. -/
theorem generateK8sSafeResourceName_label (str : List (List UInt8)) (hne : joined str ≠ []) :
    IsDNS1123Label (generateK8sSafeResourceName U sha256 str) ∧ (generateShortHash sha256 (joined str) 8).length = 8 ∧
      generateShortHash sha256 (joined str) 8 <:+ generateK8sSafeResourceName U sha256 str ∧
      ∀ str', joined str' ≠ [] → generateShortHash sha256 (joined str) 8 ≠ generateShortHash sha256 (joined str') 8 →
        generateK8sSafeResourceName U sha256 str ≠ generateK8sSafeResourceName U sha256 str' := by
  obtain ⟨hsuf, hlabel⟩ := generateK8sSafeResourceName_spec U sha256 hne
  have hlen := (generateShortHash_spec sha256 (joined str)).1
  refine ⟨hlabel, hlen, hsuf, fun str' hne' hdiff heq => hdiff ?_⟩
  have hlen' := (generateShortHash_spec sha256 (joined str')).1
  have hsuf' := (generateK8sSafeResourceName_spec U sha256 hne').1
  exact (List.suffix_of_suffix_length_le hsuf (heq ▸ hsuf') (by omega)).eq_of_length (by omega)

/-- The lower case of "Ä" and of ASCII letters. -/
def umlautTable : CaseTable where
  toLower := fun c => if c = 'Ä' then 'ä' else c.toLower
  ascii := fun c hc => if_neg fun h => absurd (h ▸ hc) (by decide)

/-- SHA-256 of "Ä" and of "A". -/
def umlautDigest (input : List UInt8) : Vector UInt8 32 :=
  if input = [0xC3, 0x84] then
    ⟨#[0x2f, 0xe5, 0xca, 0x1c, 0x1a, 0x3d, 0x50, 0xbd, 0x92, 0xf1, 0xd3, 0xcf, 0x6d, 0xa3, 0x4c, 0xed, 0xda, 0xbe, 0x02,
      0x02, 0x2b, 0x2a, 0x01, 0x83, 0xab, 0x0b, 0x80, 0x5a, 0xda, 0x6f, 0x78, 0x7a], rfl⟩
  else
    ⟨#[0x55, 0x9a, 0xea, 0xd0, 0x82, 0x64, 0xd5, 0x79, 0x5d, 0x39, 0x09, 0x71, 0x8c, 0xdd, 0x05, 0xab, 0xd4, 0x95, 0x72,
      0xe8, 0x4f, 0xe5, 0x55, 0x90, 0xee, 0xf3, 0x1a, 0x88, 0xa0, 0x8f, 0xdf, 0xfd], rfl⟩

theorem generateK8sSafeResourceName_label_umlaut :
    generateK8sSafeResourceName umlautTable umlautDigest [[0xC3, 0x84]] = "2fe5ca1c".toList ∧
      IsDNS1123Label (generateK8sSafeResourceName umlautTable umlautDigest [[0xC3, 0x84]]) ∧
      generateK8sSafeResourceName umlautTable umlautDigest [[0xC3, 0x84]] ≠
        generateK8sSafeResourceName umlautTable umlautDigest [[0x41]] := by
  obtain ⟨hlabel, -, -, hdiff⟩ := generateK8sSafeResourceName_label umlautTable umlautDigest [[0xC3, 0x84]] (by decide)
  exact ⟨by decide +kernel, hlabel, hdiff [[0x41]] (by decide) (by decide)⟩

end VGpuManager.ResourceName

import VGpuManager.Claims
import VGpuManager.Foundation.Loops

/-!
# The decoders as they run on their receivers

The three `UnmarshalText` methods of `pkg/device/types.go` write their result through a pointer,
return an error halfway and index and slice what they split. Here they are methods over a receiver
that may be nil, with indexing and slicing that panic out of range; `Claims` holds what they
compute.
-/

namespace VGpuManager

open Foundation List

/-! ## 1. Methods on a receiver -/

/-- How a method ends without success. -/
inductive Failure where
  | receiverNil
  | decode (e : DecodeError)
  | panic
deriving DecidableEq, Repr

/-- A method on a pointer receiver, over what the pointer leads to; `none` is the nil pointer. -/
abbrev Method (α : Type) : Type → Type := ExceptT Failure (StateM (Option α))

variable {α β γ : Type}

/-- The result of the call and what the receiver holds after it. -/
def Method.call (m : Method α β) (receiver : Option α) : Except Failure β × Option α :=
  m.run receiver

/-- `strings.Index` of a single character: its first position, or -1. -/
def stringsIndex (text : Text) (c : Char) : Int := if c ∈ text then text.idxOf c else -1

/-- `text[i:j]`. -/
def slice (text : Text) (i j : Int) : Except Failure Text :=
  if 0 ≤ i ∧ i ≤ j ∧ j ≤ text.length then .ok ((text.take j.toNat).drop i.toNat)
  else .error .panic

/-- `split[i]`. -/
def element (split : List Text) (i : Nat) : Except Failure Text :=
  match split[i]? with
  | some t => .ok t
  | none => .error .panic

variable (A : IntArith)

/-- `strconv.Atoi` and `strconv.ParseInt(_, 10, 64)`. -/
def atoi (t : Text) : Except Failure Int := (decodeInt A t).mapError .decode

/-- A method called on a new variable; the variable afterwards. -/
def onNew (zero : α) (m : Method α Unit) : Except Failure α :=
  match m.call (some zero) with
  | (.error f, _) => .error f
  | (.ok _, some v) => .ok v
  | (.ok _, none) => .error .panic

def DeviceClaim.unmarshalTextInto (text : Text) : Method DeviceClaim Unit := do
  if (← get).isNone then throw .receiverNil
  let text := removeBlanks text
  if text.length = 0 then throw (.decode .inputTextEmpty)
  let split := text.splitOn '_'
  if split.length ≠ 4 then throw (.decode .textFormat)
  let id ← atoi A (← element split 0)
  let cores ← atoi A (← element split 2)
  let memory ← atoi A (← element split 3)
  modify (Option.map fun dc => { dc with id := id })
  let uuid ← element split 1
  modify (Option.map fun dc => { dc with uuid := uuid })
  modify (Option.map fun dc => { dc with cores := cores })
  modify (Option.map fun dc => { dc with memory := memory })

def ContainerDeviceClaim.unmarshalTextInto (text : Text) : Method ContainerDeviceClaim Unit := do
  if (← get).isNone then throw .receiverNil
  let text := removeBlanks text
  if text.length = 0 then throw (.decode .inputTextEmpty)
  let startIndex := stringsIndex text '['
  if startIndex < 0 ∨ startIndex = text.length - 1 then throw (.decode .decodingFormat)
  let endIndex := stringsIndex text ']'
  if endIndex < 0 ∨ endIndex ≠ text.length - 1 then throw (.decode .decodingFormat)
  let split := (← slice text (startIndex + 1) endIndex).splitOn ','
  let dcs ← (split.filter (· ≠ [])).mapM (m := Except Failure) fun subText =>
    onNew ⟨0, [], 0, 0⟩ (DeviceClaim.unmarshalTextInto A subText)
  let name ← slice text 0 startIndex
  modify (Option.map fun cdc => { cdc with name := name })
  modify (Option.map fun cdc => { cdc with deviceClaims := dcs })

def PodDeviceClaim.unmarshalTextInto (text : Text) : Method PodDeviceClaim Unit := do
  if (← get).isNone then throw .receiverNil
  let text := removeBlanks text
  if text.length = 0 then throw (.decode .inputTextEmpty)
  let split := text.splitOn ';'
  let cdcs ← (split.filter (· ≠ [])).mapM (m := Except Failure) fun subText =>
    onNew ⟨[], []⟩ (ContainerDeviceClaim.unmarshalTextInto A subText)
  modify (Option.map fun _ => cdcs)

/-! ## 2. What the methods do -/

variable {A}

namespace Method

@[simp] theorem call_bind (m : Method α β) (f : β → Method α γ) (receiver : Option α) :
    (m >>= f).call receiver = match m.call receiver with
      | (.ok b, r) => (f b).call r
      | (.error e, r) => (.error e, r) := by
  show (ExceptT.run m >>= ExceptT.bindCont f).run receiver = _
  simp only [StateT.run_bind]
  show (match m.call receiver with | (x, r) => (ExceptT.bindCont f x).run r) = _
  rcases m.call receiver with ⟨_ | _, r⟩ <;> rfl

@[simp] theorem call_get (receiver : Option α) :
    (get : Method α (Option α)).call receiver = (.ok receiver, receiver) := rfl

@[simp] theorem call_throw (e : Failure) (receiver : Option α) :
    (throw e : Method α β).call receiver = (.error e, receiver) := rfl

@[simp] theorem call_pure (b : β) (receiver : Option α) :
    (pure b : Method α β).call receiver = (.ok b, receiver) := rfl

@[simp] theorem call_modify (f : Option α → Option α) (receiver : Option α) :
    (modify f : Method α Unit).call receiver = (.ok (), f receiver) := rfl

@[simp] theorem call_liftM (x : Except Failure β) (receiver : Option α) :
    (liftM x : Method α β).call receiver = (x, receiver) := by
  cases x <;> rfl

end Method

/-- What a method leaves behind: the decoded value, or the receiver as it was. -/
def settle (receiver : Option α) (result : Except DecodeError α) : Except Failure Unit × Option α :=
  match receiver, result with
  | none, _ => (.error .receiverNil, none)
  | some _, .ok v => (.ok (), some v)
  | some v, .error e => (.error (.decode e), some v)

variable {result : Except DecodeError α} {t text : Text} {d : DeviceClaim} {p : PodDeviceClaim}

theorem onNew_settle {zero : α} {m : Method α Unit}
    (h : m.call (some zero) = settle (some zero) result) : onNew zero m = result.mapError .decode := by
  cases result <;> simp [onNew, h, settle, Except.mapError]

theorem DeviceClaim.unmarshalTextInto_call (text : Text) (receiver : Option DeviceClaim) :
    (DeviceClaim.unmarshalTextInto A text).call receiver = settle receiver (DeviceClaim.unmarshalText A text) := by
  cases receiver with
  | none => rfl
  | some dc =>
    by_cases hnil : removeBlanks text = []
    · simp [unmarshalTextInto, unmarshalText, hnil, settle]
    by_cases hlen : ((removeBlanks text).splitOn '_').length = 4
    · obtain ⟨id, uuid, cores, memory, hsplit⟩ := length_eq_four.mp hlen
      -- the numbers are read in the same order on both sides, the first bad one ends both
      rcases hid : decodeInt A id <;> rcases hcores : decodeInt A cores <;>
        rcases hmemory : decodeInt A memory <;>
        simp [unmarshalTextInto, unmarshalText, hnil, hsplit, settle, element, atoi,
          Except.mapError, hid, hcores, hmemory] <;> rfl
    · have hformat : DeviceClaim.unmarshalText A text = .error .textFormat := by
        simp only [unmarshalText, if_neg hnil]
        split
        case h_1 hsplit => exact absurd (by simp [hsplit]) hlen
        case h_2 => rfl
      simp [unmarshalTextInto, hnil, hlen, hformat, settle]

theorem stringsIndex_of_mem {c : Char} (h : c ∈ t) : stringsIndex t c = t.idxOf c :=
  if_pos h

/-- The test on the opening bracket: it is missing, or nothing follows it. -/
theorem stringsIndex_open_iff {c : Char} :
    (stringsIndex t c < 0 ∨ stringsIndex t c = t.length - 1) ↔ t.length ≤ t.idxOf c + 1 := by
  by_cases hmem : c ∈ t
  · have hlt := idxOf_lt_length_of_mem hmem
    rw [stringsIndex_of_mem hmem]
    omega
  · rw [stringsIndex, if_neg hmem, idxOf_eq_length_iff.mpr hmem]
    omega

/-- The test on the closing bracket: it is missing, or something follows it. -/
theorem stringsIndex_close_iff {c : Char} :
    (stringsIndex t c < 0 ∨ stringsIndex t c ≠ t.length - 1) ↔ t.idxOf c + 1 ≠ t.length := by
  by_cases hmem : c ∈ t
  · rw [stringsIndex_of_mem hmem]
    omega
  · rw [stringsIndex, if_neg hmem, idxOf_eq_length_iff.mpr hmem]
    omega

theorem mapM_mapError {f : β → Except DecodeError γ} : ∀ l : List β,
    l.mapM (fun b => (f b).mapError Failure.decode) = (l.mapM f).mapError Failure.decode
  | [] => rfl
  | b :: l => by
    rw [mapM_cons, mapM_cons, mapM_mapError l]
    rcases f b with e | c
    · rfl
    · rcases l.mapM f <;> rfl

theorem ContainerDeviceClaim.unmarshalTextInto_call (text : Text) (receiver : Option ContainerDeviceClaim) :
    (ContainerDeviceClaim.unmarshalTextInto A text).call receiver =
      settle receiver (ContainerDeviceClaim.unmarshalText A text) := by
  cases receiver with
  | none => rfl
  | some cdc =>
    simp only [unmarshalTextInto, unmarshalText]
    generalize removeBlanks text = t
    have hnew : ∀ subText, onNew ⟨0, [], 0, 0⟩ (DeviceClaim.unmarshalTextInto A subText) =
        (DeviceClaim.unmarshalText A subText).mapError .decode := fun subText =>
      onNew_settle (DeviceClaim.unmarshalTextInto_call subText _)
    by_cases hnil : t = []
    · simp [hnil, settle]
    simp only [stringsIndex_open_iff, stringsIndex_close_iff]
    by_cases hopen : t.length ≤ t.idxOf '[' + 1
    · simp [hnil, hopen, settle]
    by_cases hclose : t.idxOf ']' + 1 ≠ t.length
    · simp [hnil, hopen, hclose, settle]
    have hmem : '[' ∈ t := idxOf_lt_length_iff.mp (by omega)
    have hmem' : ']' ∈ t := idxOf_lt_length_iff.mp (by omega)
    -- the opening bracket is not the last character, the closing one is: both slices are in range
    have hinner : slice t (stringsIndex t '[' + 1) (stringsIndex t ']') =
        .ok ((t.take (t.idxOf ']')).drop (t.idxOf '[' + 1)) := by
      rw [slice, stringsIndex_of_mem hmem, stringsIndex_of_mem hmem', if_pos (by omega)]
      congr 2
    have hname : slice t 0 (stringsIndex t '[') = .ok (t.take (t.idxOf '[')) := by
      rw [slice, stringsIndex_of_mem hmem, if_pos (by omega)]
      simp
    generalize hsplit : ((t.take (t.idxOf ']')).drop (t.idxOf '[' + 1)).splitOn ',' = split
    simp only [hnil, hopen, hclose, hinner, hname, hnew, hsplit, mapM_mapError,
      length_eq_zero_iff, if_false, Method.call_bind, Method.call_get, Option.isNone_some,
      Bool.false_eq_true, Method.call_liftM]
    rcases (split.filter (· ≠ [])).mapM (DeviceClaim.unmarshalText A) with e | dcs <;> rfl

theorem PodDeviceClaim.unmarshalTextInto_call (text : Text) (receiver : Option PodDeviceClaim) :
    (PodDeviceClaim.unmarshalTextInto A text).call receiver =
      settle receiver (PodDeviceClaim.unmarshalText A text) := by
  cases receiver with
  | none => rfl
  | some pdc =>
    have hnew : ∀ subText, onNew ⟨[], []⟩ (ContainerDeviceClaim.unmarshalTextInto A subText) =
        (ContainerDeviceClaim.unmarshalText A subText).mapError .decode := fun subText =>
      onNew_settle (ContainerDeviceClaim.unmarshalTextInto_call subText _)
    simp only [unmarshalTextInto, unmarshalText]
    generalize removeBlanks text = t
    by_cases hnil : t = []
    · simp [hnil, settle]
    simp only [length_eq_zero_iff, hnil, hnew, mapM_mapError]
    rcases ((t.splitOn ';').filter (· ≠ [])).mapM (ContainerDeviceClaim.unmarshalText A) with e | cdcs <;> rfl

/-! ## 3. What is accepted can be carried -/

theorem fits_of_decodeInt {x : Int} (h : decodeInt A t = .ok x) : A.Fits x := by
  unfold decodeInt at h
  split at h
  case h_1 y hy =>
    obtain rfl : y = x := by simpa using h
    rw [parseInt, Option.filter_eq_some_iff] at hy
    simpa using hy.2
  case h_2 => simp at h

/-- A claim read from a piece without the outer separators. -/
theorem DeviceClaim.carried_of_unmarshalText (hfree : ∀ x ∈ [',', ';', ']'], x ∉ text)
    (h : DeviceClaim.unmarshalText A text = .ok d) : d.Carried A := by
  simp only [unmarshalText] at h
  split at h
  · simp at h
  split at h
  case h_2 => simp at h
  case h_1 id uuid cores memory hsplit =>
    obtain ⟨i, hi, h⟩ := bind_ok h
    obtain ⟨c, hc, h⟩ := bind_ok h
    obtain ⟨m, hm, h⟩ := bind_ok h
    obtain rfl : (⟨i, uuid, c, m⟩ : DeviceClaim) = d := by simpa [pure, Except.pure] using h
    have huuid : uuid ∈ (removeBlanks text).splitOn '_' := by simp [hsplit]
    obtain ⟨hsep, hsub⟩ := mem_splitOn huuid
    refine ⟨fits_of_decodeInt hi, fits_of_decodeInt hc, fits_of_decodeInt hm, fun x hx hmem => ?_⟩
    obtain ⟨htext, hblank⟩ := mem_removeBlanks.mp (hsub hmem)
    simp only [List.mem_cons, List.not_mem_nil, or_false] at hx hfree
    rcases hx with rfl | rfl | rfl | rfl | rfl
    · exact hblank rfl
    · exact hsep hmem
    all_goals exact hfree _ (by decide) htext

theorem idxOf_take_not_mem {c : Char} {n : Nat} (hn : n ≤ t.idxOf c) : c ∉ t.take n := by
  intro h
  have := idxOf_lt_length_of_mem h
  have hle : (t.take n).idxOf c = t.idxOf c := by
    conv_rhs => rw [← take_append_drop n t, idxOf_append_of_mem h]
  simp at this
  omega

variable {c : ContainerDeviceClaim}

theorem ContainerDeviceClaim.carried_of_unmarshalText (hfree : ';' ∉ text)
    (h : ContainerDeviceClaim.unmarshalText A text = .ok c) : c.Carried A := by
  simp only [unmarshalText] at h
  split at h
  · simp at h
  split at h
  · simp at h
  split at h
  · simp at h
  rename_i hopen hclose
  obtain ⟨dcs, hdcs, h⟩ := bind_ok h
  obtain rfl : (⟨(removeBlanks text).take ((removeBlanks text).idxOf '['), dcs⟩ :
      ContainerDeviceClaim) = c := by simpa [pure, Except.pure] using h
  have hsemi : ';' ∉ removeBlanks text := fun hmem => hfree (mem_removeBlanks.mp hmem).1
  have hblank : ' ' ∉ removeBlanks text := fun hmem => (mem_removeBlanks.mp hmem).2 rfl
  refine ⟨fun x hx hmem => ?_, fun d hd => ?_⟩
  · simp only [mem_cons, not_mem_nil, or_false] at hx
    rcases hx with rfl | rfl | rfl | rfl
    · exact hblank (mem_of_mem_take hmem)
    · exact hsemi (mem_of_mem_take hmem)
    · exact idxOf_take_not_mem le_rfl hmem
    · exact idxOf_take_not_mem (by omega) hmem
  · obtain ⟨piece, hpiece, hdec⟩ := ((mem_mapM_ok hdcs).2 d).mp hd
    obtain ⟨hcomma, hsub⟩ := mem_splitOn (mem_filter.mp hpiece).1
    refine DeviceClaim.carried_of_unmarshalText (fun x hx hmem => ?_) hdec
    have hin := mem_of_mem_drop (hsub hmem)
    simp only [mem_cons, not_mem_nil, or_false] at hx
    rcases hx with rfl | rfl | rfl
    · exact hcomma hmem
    · exact hsemi (mem_of_mem_take hin)
    · exact idxOf_take_not_mem le_rfl hin

/-- **What the decoder accepts is carried by its text form.** -/
theorem PodDeviceClaim.carried_of_unmarshalText (h : PodDeviceClaim.unmarshalText A text = .ok p) :
    ∀ c ∈ p, ContainerDeviceClaim.Carried A c := by
  simp only [unmarshalText] at h
  split at h
  · simp at h
  intro c hc
  obtain ⟨piece, hpiece, hdec⟩ := ((mem_mapM_ok h).2 c).mp hc
  exact ContainerDeviceClaim.carried_of_unmarshalText (mem_splitOn (mem_filter.mp hpiece).1).1 hdec

/-! ## 4. Blanks -/

/-- The claim with the blanks of its UUID dropped. -/
def DeviceClaim.withoutBlanks (d : DeviceClaim) : DeviceClaim := { d with uuid := removeBlanks d.uuid }

def ContainerDeviceClaim.withoutBlanks (c : ContainerDeviceClaim) : ContainerDeviceClaim :=
  ⟨removeBlanks c.name, c.deviceClaims.map DeviceClaim.withoutBlanks⟩

/-- The characters the codec splits and joins at. -/
def splitters : List Char := ['_', ',', ';', '[', ']']

theorem forall_mem_splitters {p : Char → Prop} : (∀ x ∈ splitters, p x) ↔ p '_' ∧ p ',' ∧ p ';' ∧ p '[' ∧ p ']' := by
  simp [splitters]

/-- Values of the Go types whose names and UUIDs hold none of the characters split at. -/
structure DeviceClaim.Separable (A : IntArith) (d : DeviceClaim) : Prop where
  id_fits : A.Fits d.id
  cores_fits : A.Fits d.cores
  memory_fits : A.Fits d.memory
  uuid_free : ∀ x ∈ splitters, x ∉ d.uuid

structure ContainerDeviceClaim.Separable (A : IntArith) (c : ContainerDeviceClaim) : Prop where
  name_free : ∀ x ∈ splitters, x ∉ c.name
  claims : ∀ d ∈ c.deviceClaims, d.Separable A

/-- No name and no UUID holds a blank. -/
def PodDeviceClaim.BlankFree (p : PodDeviceClaim) : Prop :=
  ∀ c ∈ p, ' ' ∉ c.name ∧ ∀ d ∈ c.deviceClaims, ' ' ∉ d.uuid

theorem removeBlanks_fmtInt (x : Int) : removeBlanks (fmtInt x) = fmtInt x :=
  removeBlanks_of_not_mem (not_mem_fmtInt (by decide) (by decide))

theorem DeviceClaim.removeBlanks_marshalText (d : DeviceClaim) :
    removeBlanks d.marshalText = d.withoutBlanks.marshalText := by
  simp [DeviceClaim.marshalText, DeviceClaim.withoutBlanks, removeBlanks_join, removeBlanks_fmtInt]

theorem ContainerDeviceClaim.removeBlanks_marshalText (c : ContainerDeviceClaim) :
    removeBlanks c.marshalText = c.withoutBlanks.marshalText := by
  have hinner : removeBlanks c.inner = c.withoutBlanks.inner := by
    rw [inner, removeBlanks_join (by decide), map_map]
    simp [inner, withoutBlanks, map_map, Function.comp_def, DeviceClaim.removeBlanks_marshalText]
  show removeBlanks (c.name ++ (['['] ++ (c.inner ++ [']']))) = _
  rw [removeBlanks_append, removeBlanks_append, removeBlanks_append, hinner]
  rfl

theorem PodDeviceClaim.removeBlanks_marshalText (p : PodDeviceClaim) : removeBlanks (PodDeviceClaim.marshalText p) =
      PodDeviceClaim.marshalText (p.map ContainerDeviceClaim.withoutBlanks) := by
  rw [marshalText, removeBlanks_join (by decide), map_map, marshalText, map_map]
  congr 1
  exact map_congr_left fun c _ => c.removeBlanks_marshalText

theorem DeviceClaim.Separable.withoutBlanks (h : d.Separable A) : d.withoutBlanks.Carried A := by
  refine ⟨h.id_fits, h.cores_fits, h.memory_fits, fun x hx hmem => ?_⟩
  obtain ⟨hmem, hblank⟩ := mem_removeBlanks.mp hmem
  simp only [mem_cons, not_mem_nil, or_false] at hx
  rcases hx with rfl | hx
  · exact hblank rfl
  · exact h.uuid_free x (by rcases hx with rfl | rfl | rfl | rfl <;> decide) hmem

theorem ContainerDeviceClaim.Separable.withoutBlanks (h : c.Separable A) : c.withoutBlanks.Carried A := by
  refine ⟨fun x hx hmem => ?_, fun d hd => ?_⟩
  · obtain ⟨hmem, hblank⟩ := mem_removeBlanks.mp hmem
    simp only [mem_cons, not_mem_nil, or_false] at hx
    rcases hx with rfl | hx
    · exact hblank rfl
    · exact h.name_free x (by rcases hx with rfl | rfl | rfl <;> decide) hmem
  · obtain ⟨d, hmem, rfl⟩ := mem_map.mp hd
    exact (h.claims d hmem).withoutBlanks

/-- **The decoder drops the blanks inside the names and UUIDs it reads back.** -/
theorem PodDeviceClaim.unmarshalText_withoutBlanks (hne : p ≠ []) (h : ∀ c ∈ p, ContainerDeviceClaim.Separable A c) :
    PodDeviceClaim.unmarshalText A p.marshalText = .ok (p.map ContainerDeviceClaim.withoutBlanks) := by
  have hdrop : PodDeviceClaim.unmarshalText A p.marshalText =
      PodDeviceClaim.unmarshalText A (removeBlanks p.marshalText) := by
    simp only [unmarshalText, removeBlanks_removeBlanks]
  rw [hdrop, removeBlanks_marshalText]
  exact unmarshalText_of_carried (by simpa using hne) (forall_mem_map.mpr fun c hc => (h c hc).withoutBlanks)

theorem DeviceClaim.withoutBlanks_eq_self : d.withoutBlanks = d ↔ ' ' ∉ d.uuid := by
  cases d
  simp [withoutBlanks, removeBlanks_eq_self]

theorem map_eq_self {f : α → α} {l : List α} : l.map f = l ↔ ∀ x ∈ l, f x = x := by
  conv_lhs => rhs; rw [← map_id l]
  exact map_inj_left

theorem ContainerDeviceClaim.withoutBlanks_eq_self :
    c.withoutBlanks = c ↔ ' ' ∉ c.name ∧ ∀ d ∈ c.deviceClaims, ' ' ∉ d.uuid := by
  cases c
  simp [withoutBlanks, removeBlanks_eq_self, map_eq_self, DeviceClaim.withoutBlanks_eq_self]

theorem PodDeviceClaim.blankFree_iff : p.map ContainerDeviceClaim.withoutBlanks = p ↔ PodDeviceClaim.BlankFree p := by
  rw [map_eq_self]
  exact forall₂_congr fun c _ => ContainerDeviceClaim.withoutBlanks_eq_self

/-! ## 5. The codec on its receivers -/

theorem settle_eq_ok {v w : α} : settle (some v) result = (.ok (), some w) ↔ result = .ok w := by
  cases result <;> simp [settle]

/-- **The codec.** A non-empty claim free of the characters split at is read back just when it is
free of blanks too; what any text was accepted as is read back from its re-encoding; and no call
panics, and none that fails touches its receiver. -/
theorem PodDeviceClaim.codec_exact {q : PodDeviceClaim} (v : PodDeviceClaim)
    (hne : p ≠ []) (hp : ∀ c ∈ p, ContainerDeviceClaim.Separable .int64 c)
    (haccepted : (PodDeviceClaim.unmarshalTextInto .int64 text).call (some v) = (.ok (), some q))
    (hq : q ≠ []) (other : Text) (receiver : Option PodDeviceClaim) :
    ((PodDeviceClaim.unmarshalTextInto .int64 (PodDeviceClaim.marshalText p)).call (some v) =
        (.ok (), some p) ↔ PodDeviceClaim.BlankFree p) ∧
      (PodDeviceClaim.unmarshalTextInto .int64 (PodDeviceClaim.marshalText q)).call (some v) = (.ok (), some q) ∧
      ((PodDeviceClaim.unmarshalTextInto .int64 other).call receiver).1 ≠ .error .panic ∧
      (((PodDeviceClaim.unmarshalTextInto .int64 other).call receiver).1 ≠ .ok () →
        ((PodDeviceClaim.unmarshalTextInto .int64 other).call receiver).2 = receiver) := by
  simp only [PodDeviceClaim.unmarshalTextInto_call, settle_eq_ok] at haccepted ⊢
  refine ⟨?_, ?_, ?_⟩
  · rw [PodDeviceClaim.unmarshalText_withoutBlanks hne hp, Except.ok.injEq]
    exact PodDeviceClaim.blankFree_iff
  · exact PodDeviceClaim.unmarshalText_of_carried hq (PodDeviceClaim.carried_of_unmarshalText haccepted)
  · cases receiver <;> cases PodDeviceClaim.unmarshalText .int64 other <;> simp [settle]

/-- A pod of two containers, and a text with signs, leading zeros and stray separators. -/
theorem PodDeviceClaim.codec_exact_sample :
    let p : PodDeviceClaim := [⟨"main".toList, [⟨0, "GPU-1".toList, 50, 1024⟩]⟩, ⟨"side".toList, []⟩]
    let q : PodDeviceClaim := [⟨"a,b".toList, [⟨7, "[u".toList, -1, 3⟩]⟩]
    let text : Text := ";a,b[+007_[u_-1_3,,];".toList
    (PodDeviceClaim.unmarshalTextInto .int64 (PodDeviceClaim.marshalText p)).call (some []) = (.ok (), some p) ∧
      (PodDeviceClaim.unmarshalTextInto .int64 (PodDeviceClaim.marshalText q)).call (some []) = (.ok (), some q) ∧
      PodDeviceClaim.unmarshalText .int64 text = .ok q := by
  have hp : ∀ c ∈ ([⟨"main".toList, [⟨0, "GPU-1".toList, 50, 1024⟩]⟩, ⟨"side".toList, []⟩] :
      PodDeviceClaim), ContainerDeviceClaim.Separable .int64 c := by
    simp only [mem_cons, not_mem_nil, or_false, forall_eq_or_imp, forall_eq]
    refine ⟨⟨forall_mem_splitters.mpr (by decide), ?_⟩, forall_mem_splitters.mpr (by decide), by simp⟩
    simp only [mem_cons, not_mem_nil, or_false, forall_eq]
    exact ⟨by decide, by decide, by decide, forall_mem_splitters.mpr (by decide)⟩
  have haccepted : (PodDeviceClaim.unmarshalTextInto .int64 ";a,b[+007_[u_-1_3,,];".toList).call
      (some []) = (.ok (), some [⟨"a,b".toList, [⟨7, "[u".toList, -1, 3⟩]⟩]) := by decide +kernel
  have h := PodDeviceClaim.codec_exact [] (by simp) hp haccepted (by simp) [] none
  refine ⟨h.1.mpr ?_, h.2.1, by decide +kernel⟩
  unfold PodDeviceClaim.BlankFree
  decide

/-- A blank inside a container's name is lost. -/
theorem PodDeviceClaim.blank_lost :
    let p : PodDeviceClaim := [⟨"a b".toList, []⟩]
    (∀ c ∈ p, ∀ x ∈ splitters, x ∉ c.name) ∧
      (PodDeviceClaim.unmarshalTextInto .int64 (PodDeviceClaim.marshalText p)).call (some []) =
        (.ok (), some [⟨"ab".toList, []⟩]) := by
  simp only [forall_mem_splitters]
  decide +kernel

end VGpuManager

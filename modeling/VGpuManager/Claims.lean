import VGpuManager.Foundation.Text

/-!
# Device claims and their text form

A scheduled pod carries its devices in two annotations, as one line of text:
`name[id_uuid_cores_memory,…];name[…]`. This file holds the claim records with the encoder and
the decoder of `pkg/device/types.go`.
-/

namespace VGpuManager

open Foundation List

/-- One vGPU on one physical device. -/
structure DeviceClaim where
  id : Int
  uuid : Text
  cores : Int
  memory : Int
deriving DecidableEq, Repr

/-- The devices of one container. -/
structure ContainerDeviceClaim where
  name : Text
  deviceClaims : List DeviceClaim
deriving DecidableEq, Repr

abbrev PodDeviceClaim := List ContainerDeviceClaim

/-- Why a text was refused. -/
inductive DecodeError where
  | inputTextEmpty
  | decodingFormat
  | textFormat
  | number
deriving DecidableEq, Repr

/-! ## 1. Encoding -/

def DeviceClaim.marshalText (c : DeviceClaim) : Text :=
  join '_' [fmtInt c.id, c.uuid, fmtInt c.cores, fmtInt c.memory]

def ContainerDeviceClaim.marshalText (c : ContainerDeviceClaim) : Text :=
  c.name ++ '[' :: (join ',' (c.deviceClaims.map DeviceClaim.marshalText) ++ [']'])

def PodDeviceClaim.marshalText (p : PodDeviceClaim) : Text :=
  join ';' (p.map ContainerDeviceClaim.marshalText)

/-! ## 2. Decoding -/

variable (A : IntArith)

/-- A number of the text, or the parser's error. -/
def decodeInt (t : Text) : Except DecodeError Int :=
  match parseInt A t with
  | some x => .ok x
  | none => .error .number

def DeviceClaim.unmarshalText (text : Text) : Except DecodeError DeviceClaim :=
  let text := removeBlanks text
  if text = [] then .error .inputTextEmpty
  else match text.splitOn '_' with
  | [id, uuid, cores, memory] => do
      let id ← decodeInt A id
      let cores ← decodeInt A cores
      let memory ← decodeInt A memory
      return { id, uuid, cores, memory }
  | _ => .error .textFormat

def ContainerDeviceClaim.unmarshalText (text : Text) : Except DecodeError ContainerDeviceClaim :=
  let text := removeBlanks text
  let startIndex := text.idxOf '['
  let endIndex := text.idxOf ']'
  if text = [] then .error .inputTextEmpty
  -- the opening bracket is missing or the last character
  else if text.length ≤ startIndex + 1 then .error .decodingFormat
  -- the first closing bracket is missing or not the last character
  else if endIndex + 1 ≠ text.length then .error .decodingFormat
  else do
    let split := ((text.take endIndex).drop (startIndex + 1)).splitOn ','
    let dcs ← (split.filter (· ≠ [])).mapM (DeviceClaim.unmarshalText A)
    return { name := text.take startIndex, deviceClaims := dcs }

def PodDeviceClaim.unmarshalText (text : Text) : Except DecodeError PodDeviceClaim :=
  let text := removeBlanks text
  if text = [] then .error .inputTextEmpty
  else ((text.splitOn ';').filter (· ≠ [])).mapM (ContainerDeviceClaim.unmarshalText A)

/-! ## 3. The round trip -/

/-- The characters the text form uses between its parts, the blank included. -/
def separators : List Char := [' ', '_', ',', ';', '[', ']']

def SeparatorFree (t : Text) : Prop := ∀ c ∈ separators, c ∉ t

instance (t : Text) : Decidable (SeparatorFree t) :=
  -- over the list: there are too many characters to try
  List.decidableBAll (fun c => c ∉ t) separators

/-- A claim the text form can carry. -/
structure DeviceClaim.Encodable (A : IntArith) (c : DeviceClaim) : Prop where
  id_fits : A.Fits c.id
  cores_fits : A.Fits c.cores
  memory_fits : A.Fits c.memory
  uuid_free : SeparatorFree c.uuid

structure ContainerDeviceClaim.Encodable (A : IntArith) (c : ContainerDeviceClaim) : Prop where
  name_free : SeparatorFree c.name
  claims : ∀ d ∈ c.deviceClaims, d.Encodable A

/-- What the decoder leaves of a claim it accepts: the separators of the outer texts and the one
between the parts are gone, an opening bracket may still stand in a UUID. -/
structure DeviceClaim.Carried (A : IntArith) (c : DeviceClaim) : Prop where
  id_fits : A.Fits c.id
  cores_fits : A.Fits c.cores
  memory_fits : A.Fits c.memory
  uuid_free : ∀ x ∈ [' ', '_', ',', ';', ']'], x ∉ c.uuid

structure ContainerDeviceClaim.Carried (A : IntArith) (c : ContainerDeviceClaim) : Prop where
  name_free : ∀ x ∈ [' ', ';', '[', ']'], x ∉ c.name
  claims : ∀ d ∈ c.deviceClaims, d.Carried A

variable {A}

variable {d : DeviceClaim} {c : ContainerDeviceClaim} {p : PodDeviceClaim}

theorem DeviceClaim.Encodable.carried (h : d.Encodable A) : d.Carried A where
  id_fits := h.id_fits
  cores_fits := h.cores_fits
  memory_fits := h.memory_fits
  uuid_free := fun x hx => h.uuid_free x (by
    simp only [mem_cons, not_mem_nil, or_false] at hx
    rcases hx with rfl | rfl | rfl | rfl | rfl <;> decide)

theorem ContainerDeviceClaim.Encodable.carried (h : c.Encodable A) : c.Carried A where
  name_free := fun x hx => h.name_free x (by
    simp only [mem_cons, not_mem_nil, or_false] at hx
    rcases hx with rfl | rfl | rfl | rfl <;> decide)
  claims := fun d hd => (h.claims d hd).carried

theorem mapM_map_ok {α β ε : Type} {f : β → Except ε α} {g : α → β} :
    ∀ {l : List α}, (∀ x ∈ l, f (g x) = .ok x) → (l.map g).mapM f = .ok l
  | [], _ => rfl
  | x :: l, h => by
    rw [map_cons, mapM_cons, h x (by simp), mapM_map_ok fun y hy => h y (by simp [hy])]
    rfl

theorem decodeInt_fmtInt {x : Int} (h : A.Fits x) : decodeInt A (fmtInt x) = .ok x := by
  simp [decodeInt, parseInt_fmtInt h]

/-- A character of a claim's text stands in the UUID, in a number or between two parts. -/
theorem DeviceClaim.not_mem_marshalText {x : Char} (h : x ∉ d.uuid)
    (hd : x.isDigit = false) (hm : x ≠ '-') (hu : x ≠ '_') : x ∉ d.marshalText := by
  have hnum : ∀ n : Int, x ∉ fmtInt n := fun n => not_mem_fmtInt hd hm
  intro hmem
  rcases mem_join hmem with heq | ⟨p, hp, hxp⟩
  · exact hu heq
  · simp only [mem_cons, not_mem_nil, or_false] at hp
    rcases hp with rfl | rfl | rfl | rfl
    · exact hnum _ hxp
    · exact h hxp
    · exact hnum _ hxp
    · exact hnum _ hxp

theorem DeviceClaim.marshalText_ne_nil (d : DeviceClaim) : d.marshalText ≠ [] := by
  simp [DeviceClaim.marshalText, join, intercalate_cons_cons, fmtInt_ne_nil]

theorem DeviceClaim.unmarshalText_marshalText (h : d.Carried A) :
    DeviceClaim.unmarshalText A d.marshalText = .ok d := by
  have hb : removeBlanks d.marshalText = d.marshalText :=
    removeBlanks_of_not_mem (not_mem_marshalText (h.uuid_free ' ' (by decide)) (by decide) (by decide) (by decide))
  have hnum : ∀ x : Int, '_' ∉ fmtInt x := fun x => not_mem_fmtInt (by decide) (by decide)
  have hsplit : d.marshalText.splitOn '_' = [fmtInt d.id, d.uuid, fmtInt d.cores, fmtInt d.memory] := by
    refine splitOn_join ?_ (by simp)
    simp only [mem_cons, not_mem_nil, or_false]
    rintro p (rfl | rfl | rfl | rfl)
    · exact hnum _
    · exact h.uuid_free '_' (by decide)
    · exact hnum _
    · exact hnum _
  simp only [DeviceClaim.unmarshalText, hb, if_neg d.marshalText_ne_nil, hsplit]
  simp [decodeInt_fmtInt h.id_fits, decodeInt_fmtInt h.cores_fits, decodeInt_fmtInt h.memory_fits,
    bind, Except.bind, pure, Except.pure]

/-- The text between the brackets. -/
def ContainerDeviceClaim.inner (c : ContainerDeviceClaim) : Text :=
  join ',' (c.deviceClaims.map DeviceClaim.marshalText)

theorem ContainerDeviceClaim.not_mem_inner (h : c.Carried A) {x : Char} (hx : x ∈ [' ', ';', ']']) : x ∉ c.inner := by
  intro hmem
  rcases mem_join hmem with heq | ⟨p, hp, hxp⟩
  · subst heq
    exact absurd hx (by decide)
  · obtain ⟨d, hd, rfl⟩ := List.mem_map.mp hp
    simp only [List.mem_cons, List.not_mem_nil, or_false] at hx
    have hfree : x ∉ d.uuid := (h.claims d hd).uuid_free x (by rcases hx with rfl | rfl | rfl <;> decide)
    revert hxp
    rcases hx with rfl | rfl | rfl <;>
      exact DeviceClaim.not_mem_marshalText hfree (by decide) (by decide) (by decide)

/-- Neither a blank nor the separator between containers occurs in a container's text. -/
theorem ContainerDeviceClaim.not_mem_marshalText (h : c.Carried A)
    {x : Char} (hx : x ∈ [' ', ';']) : x ∉ c.marshalText := by
  have hname : x ∉ c.name := h.name_free x (by rcases mem_pair.mp hx with rfl | rfl <;> decide)
  have hin : x ∉ c.inner :=
    ContainerDeviceClaim.not_mem_inner h (by rcases mem_pair.mp hx with rfl | rfl <;> decide)
  have hbrackets : x ≠ '[' ∧ x ≠ ']' := by
    rcases mem_pair.mp hx with rfl | rfl <;> decide
  rw [ContainerDeviceClaim.inner] at hin
  simp [ContainerDeviceClaim.marshalText, hname, hin, hbrackets.1, hbrackets.2]

/-- Split of the bracketed text: the pieces are the claims' texts, and an empty list of claims
leaves nothing after the empty piece is skipped. -/
theorem splitOn_inner (h : c.Carried A) :
    (c.inner.splitOn ',').filter (· ≠ []) = c.deviceClaims.map DeviceClaim.marshalText := by
  by_cases hnil : c.deviceClaims = []
  · simp [ContainerDeviceClaim.inner, hnil, join]
  · rw [ContainerDeviceClaim.inner, splitOn_join _ (by simpa using hnil)]
    · exact filter_eq_self.mpr (forall_mem_map.mpr fun d _ => by simpa using d.marshalText_ne_nil)
    · exact forall_mem_map.mpr fun d hd => DeviceClaim.not_mem_marshalText
        ((h.claims d hd).uuid_free ',' (by decide)) (by decide) (by decide) (by decide)

theorem ContainerDeviceClaim.unmarshalText_marshalText (h : c.Carried A) :
    ContainerDeviceClaim.unmarshalText A c.marshalText = .ok c := by
  have hb : removeBlanks c.marshalText = c.marshalText :=
    removeBlanks_of_not_mem (ContainerDeviceClaim.not_mem_marshalText h (by decide))
  have hform : c.marshalText = c.name ++ '[' :: (c.inner ++ [']']) := rfl
  have hopen : c.marshalText.idxOf '[' = c.name.length := by
    rw [hform, idxOf_append_of_notMem (h.name_free '[' (by decide))]
    simp
  have hinner : ']' ∉ c.inner := not_mem_inner h (by decide)
  have hclose : c.marshalText.idxOf ']' = c.name.length + 1 + c.inner.length := by
    rw [hform, idxOf_append_of_notMem (h.name_free ']' (by decide)),
      idxOf_cons_ne _ (by decide), idxOf_append_of_notMem hinner]
    simp
    omega
  have hlen : c.marshalText.length = c.name.length + 1 + c.inner.length + 1 := by
    simp [hform]
    omega
  have hname : c.marshalText.take c.name.length = c.name := by
    rw [hform]; simp
  have hmid : (c.marshalText.take (c.name.length + 1 + c.inner.length)).drop (c.name.length + 1) = c.inner := by
    have hassoc : c.marshalText = (c.name ++ ['[']) ++ c.inner ++ [']'] := by simp [hform]
    rw [hassoc, take_left' (by simp; omega), drop_left' (by simp)]
  have hne : c.marshalText ≠ [] := by simp [hform]
  simp only [ContainerDeviceClaim.unmarshalText, hb, hopen, hclose, hmid, hname, splitOn_inner h,
    mapM_map_ok fun d hd => DeviceClaim.unmarshalText_marshalText (h.claims d hd)]
  rw [if_neg hne, if_neg (by omega), if_neg (by omega)]
  rfl

theorem ContainerDeviceClaim.marshalText_ne_nil (c : ContainerDeviceClaim) : c.marshalText ≠ [] := by
  simp [ContainerDeviceClaim.marshalText]

theorem PodDeviceClaim.marshalText_ne_nil (hne : p ≠ []) : p.marshalText ≠ [] := by
  match p, hne with
  | [c], _ => simpa [PodDeviceClaim.marshalText, join] using c.marshalText_ne_nil
  | c :: d :: p, _ =>
    simp [PodDeviceClaim.marshalText, join, intercalate_cons_cons]

theorem PodDeviceClaim.unmarshalText_of_carried (hne : p ≠ []) (h : ∀ c ∈ p, ContainerDeviceClaim.Carried A c) :
    PodDeviceClaim.unmarshalText A p.marshalText = .ok p := by
  have hb : removeBlanks p.marshalText = p.marshalText := by
    refine removeBlanks_of_not_mem fun hmem => ?_
    rcases mem_join hmem with heq | ⟨t, ht, hc⟩
    · exact absurd heq (by decide)
    · obtain ⟨c, hcp, rfl⟩ := mem_map.mp ht
      exact ContainerDeviceClaim.not_mem_marshalText (h c hcp) (by decide) hc
  have hsplit : p.marshalText.splitOn ';' = p.map ContainerDeviceClaim.marshalText := by
    exact splitOn_join (forall_mem_map.mpr fun c hcp =>
      ContainerDeviceClaim.not_mem_marshalText (h c hcp) (by decide)) (by simpa using hne)
  have hfilter : (p.map ContainerDeviceClaim.marshalText).filter (· ≠ []) =
      p.map ContainerDeviceClaim.marshalText := by
    exact filter_eq_self.mpr (forall_mem_map.mpr fun c _ => by simpa using c.marshalText_ne_nil)
  simp only [PodDeviceClaim.unmarshalText, hb, hsplit, hfilter, if_neg (PodDeviceClaim.marshalText_ne_nil hne)]
  exact mapM_map_ok fun c hc => ContainerDeviceClaim.unmarshalText_marshalText (h c hc)

/-- **Round trip of the annotation text.** -/
theorem PodDeviceClaim.unmarshalText_marshalText (hne : p ≠ []) (h : ∀ c ∈ p, ContainerDeviceClaim.Encodable A c) :
    PodDeviceClaim.unmarshalText A p.marshalText = .ok p :=
  PodDeviceClaim.unmarshalText_of_carried hne fun c hc => (h c hc).carried

end VGpuManager

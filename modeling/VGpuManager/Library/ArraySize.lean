import Mathlib.Algebra.Order.Ring.Nat

/-!
# The size of a CUDA array (`library/include/array_size.h`)

What an array is charged with before the driver creates it: a product of up to five factors in `size_t`,
which is refused where it would wrap.
-/

namespace VGpuManager.Library.ArraySize

open List

/-- `CUarray_format`; `other` stands for the formats the tables do not know. -/
inductive ArrayFormat where
  | unsignedInt8 | signedInt8 | unsignedInt16 | signedInt16 | half | unsignedInt32 | signedInt32 | float
  | unormInt8X1 | unormInt8X2 | unormInt8X4 | snormInt8X1 | snormInt8X2 | snormInt8X4
  | unormInt16X1 | unormInt16X2 | unormInt16X4 | snormInt16X1 | snormInt16X2 | snormInt16X4 | unormInt101010_2
  | bc1Unorm | bc1UnormSrgb | bc2Unorm | bc2UnormSrgb | bc3Unorm | bc3UnormSrgb | bc4Unorm | bc4Snorm
  | bc5Unorm | bc5Snorm | bc6hUf16 | bc6hSf16 | bc7Unorm | bc7UnormSrgb
  | other (format : Int32)

/-- `vgpu_array_block_bytes`: the bytes of a 4x4 block, 0 where there are none. -/
def vgpuArrayBlockBytes : ArrayFormat → UInt64
  | .bc1Unorm | .bc1UnormSrgb | .bc4Unorm | .bc4Snorm => 8
  | .bc2Unorm | .bc2UnormSrgb | .bc3Unorm | .bc3UnormSrgb | .bc5Unorm | .bc5Snorm | .bc6hUf16 | .bc6hSf16
  | .bc7Unorm | .bc7UnormSrgb => 16
  | _ => 0

/-- `vgpu_array_format_channels`: the channels the format itself fixes. -/
def vgpuArrayFormatChannels : ArrayFormat → UInt32
  | .unormInt8X2 | .unormInt16X2 | .snormInt8X2 | .snormInt16X2 => 2
  | .unormInt8X4 | .unormInt16X4 | .snormInt8X4 | .snormInt16X4 | .unormInt101010_2 => 4
  | _ => 1

/-- `vgpu_array_format_bytes`: the bytes of a channel. -/
def vgpuArrayFormatBytes : ArrayFormat → UInt64
  | .unsignedInt8 | .signedInt8 | .unormInt8X1 | .unormInt8X2 | .unormInt8X4 | .snormInt8X1 | .snormInt8X2
  | .snormInt8X4 | .unormInt101010_2 => 1
  | .unsignedInt16 | .signedInt16 | .half | .unormInt16X1 | .unormInt16X2 | .unormInt16X4 | .snormInt16X1
  | .snormInt16X2 | .snormInt16X4 => 2
  | .unsignedInt32 | .signedInt32 | .float => 4
  | _ => 8

def sizeMax : UInt64 := 0xFFFFFFFFFFFFFFFF

/-- `vgpu_array_mul`. -/
def vgpuArrayMul (acc factor : UInt64) : Option UInt64 :=
  if factor = 0 ∨ acc > sizeMax / factor then none else some (acc * factor)

/-- `vgpu_array_size_from`, with the products in the order the code takes them. -/
def vgpuArraySizeFrom (width height depth : UInt64) (format : ArrayFormat) (numChannels : UInt32) : Option UInt64 :=
  if numChannels ≠ 1 ∧ numChannels ≠ 2 ∧ numChannels ≠ 4 then none
  else if width = 0 then none
  else
    let height := if height = 0 then 1 else height
    let depth := if depth = 0 then 1 else depth
    if vgpuArrayBlockBytes format ≠ 0 then
      let blocksW := width / 4 + if width % 4 ≠ 0 then 1 else 0
      let blocksH := height / 4 + if height % 4 ≠ 0 then 1 else 0
      [blocksW, blocksH, depth].foldlM vgpuArrayMul (vgpuArrayBlockBytes format)
    else
      let implied := vgpuArrayFormatChannels format
      let numChannels := if implied > numChannels then implied else numChannels
      [numChannels.toUInt64, width, height, depth].foldlM vgpuArrayMul (vgpuArrayFormatBytes format)

/-- The size over the natural numbers; an extent of zero is one that is not there. -/
def arraySize (width height depth : Nat) (format : ArrayFormat) (channels : Nat) : Nat :=
  if vgpuArrayBlockBytes format ≠ 0 then
    (vgpuArrayBlockBytes format).toNat * ((width + 3) / 4) * ((max 1 height + 3) / 4) * max 1 depth
  else (vgpuArrayFormatBytes format).toNat * channels * width * max 1 height * max 1 depth

/-- The channels an element has: those of the descriptor, or more if the format fixes more. -/
def channelsOf (format : ArrayFormat) (n : UInt32) : Nat := max n.toNat (vgpuArrayFormatChannels format).toNat

/-! ## Checked products -/

section Products

variable {acc f x : UInt64} {fs : List UInt64}

theorem vgpuArrayMul_iff (hf : 0 < f.toNat) : vgpuArrayMul acc f = some x ↔ acc.toNat * f.toNat = x.toNat := by
  have hne : f ≠ 0 := fun h => by simp [h] at hf
  have hguard : (f = 0 ∨ acc > sizeMax / f) ↔ ¬ acc.toNat * f.toNat < 2 ^ 64 := by
    rw [or_iff_right hne, gt_iff_lt, UInt64.lt_iff_toNat_lt, UInt64.toNat_div, Nat.div_lt_iff_lt_mul hf, not_lt]
    exact Iff.rfl
  unfold vgpuArrayMul
  by_cases h : acc.toNat * f.toNat < 2 ^ 64
  · rw [if_neg (by rwa [hguard, not_not]), Option.some_inj, ← UInt64.toNat_inj, UInt64.toNat_mul, Nat.mod_eq_of_lt h]
  · rw [if_pos (hguard.2 h)]
    exact iff_of_false nofun fun heq => h (heq ▸ x.toNat_lt)

theorem le_product (hfs : ∀ f ∈ fs, 0 < f.toNat) (n : Nat) : n ≤ fs.foldl (fun n f => n * f.toNat) n := by
  induction fs generalizing n with
  | nil => exact le_rfl
  | cons f fs ih =>
    obtain ⟨hf, hfs⟩ := forall_mem_cons.1 hfs
    exact (Nat.le_mul_of_pos_right n hf).trans (ih hfs _)

theorem foldlM_vgpuArrayMul (hfs : ∀ f ∈ fs, 0 < f.toNat) :
    fs.foldlM vgpuArrayMul acc = some x ↔ fs.foldl (fun n f => n * f.toNat) acc.toNat = x.toNat := by
  induction fs generalizing acc with
  | nil => exact Option.some_inj.trans UInt64.toNat_inj.symm
  | cons f fs ih =>
    obtain ⟨hf, hfs⟩ := forall_mem_cons.1 hfs
    rw [foldlM_cons, foldl_cons, Option.bind_eq_bind, Option.bind_eq_some_iff]
    constructor
    · intro ⟨y, hy, hx⟩
      rw [(vgpuArrayMul_iff hf).1 hy]
      exact (ih hfs).1 hx
    · -- no factor makes the product smaller, so what fits in the end fits now
      intro hx
      have hlt : acc.toNat * f.toNat < 2 ^ 64 := ((le_product hfs _).trans hx.le).trans_lt x.toNat_lt
      have hy : acc.toNat * f.toNat = (acc * f).toNat := by rw [UInt64.toNat_mul, Nat.mod_eq_of_lt hlt]
      exact ⟨acc * f, (vgpuArrayMul_iff hf).2 hy, (ih hfs).2 (hy ▸ hx)⟩

end Products

/-! ## The size -/

theorem extent_toNat (x : UInt64) : (if x = 0 then 1 else x).toNat = max 1 x.toNat := by
  have hzero : x = 0 ↔ x.toNat = 0 := by simp [← UInt64.toNat_inj]
  simp only [hzero]
  split <;> simp <;> omega

theorem blocks_toNat (x : UInt64) : (x / 4 + if x % 4 ≠ 0 then 1 else 0).toNat = (x.toNat + 3) / 4 := by
  have hx := x.toNat_lt
  have hmod : x % 4 ≠ 0 ↔ x.toNat % 4 ≠ 0 := by simp [← UInt64.toNat_inj]
  simp only [hmod, UInt64.toNat_add, UInt64.toNat_div]
  split <;> simp <;> omega

theorem channels_toNat (format : ArrayFormat) (n : UInt32) : (if vgpuArrayFormatChannels format > n then
    vgpuArrayFormatChannels format else n).toUInt64.toNat = channelsOf format n := by
  simp only [UInt32.toNat_toUInt64, gt_iff_lt, UInt32.lt_iff_toNat_lt, channelsOf]
  split <;> omega

variable {w h d w' h' d' size : UInt64} {format : ArrayFormat} {n : UInt32}

theorem vgpuArraySizeFrom_iff (hn : n = 1 ∨ n = 2 ∨ n = 4) (hw : 0 < w.toNat) :
    vgpuArraySizeFrom w h d format n = some size ↔
      arraySize w.toNat h.toNat d.toNat format (channelsOf format n) = size.toNat := by
  have hchannels : 0 < channelsOf format n := by
    obtain rfl | rfl | rfl := hn <;> simp [channelsOf]
  have hne : w ≠ 0 := fun h => by simp [h] at hw
  rw [vgpuArraySizeFrom, if_neg (by tauto), if_neg hne]
  dsimp only
  split
  · next hb =>
    rw [foldlM_vgpuArrayMul (by simp only [forall_mem_cons, blocks_toNat, extent_toNat]; simp; omega)]
    simp only [foldl_cons, foldl_nil, blocks_toNat, extent_toNat, arraySize, if_pos hb]
  · next hb =>
    rw [foldlM_vgpuArrayMul (by simp only [forall_mem_cons, channels_toNat, extent_toNat]; simp; omega)]
    simp only [foldl_cons, foldl_nil, channels_toNat, extent_toNat, arraySize, if_neg hb]

theorem arraySize_mono (hw : w ≤ w') (hh : h ≤ h') (hd : d ≤ d') (channels : Nat) :
    arraySize w.toNat h.toNat d.toNat format channels ≤ arraySize w'.toNat h'.toNat d'.toNat format channels := by
  rw [UInt64.le_iff_toNat_le] at hw hh hd
  unfold arraySize
  split <;> gcongr

/-- **A size is reported exactly when it fits**, it is the size, and larger extents have no smaller one. -/
theorem vgpuArraySizeFrom_exact (w h d : UInt64) (format : ArrayFormat) (n : UInt32)
    (hn : n = 1 ∨ n = 2 ∨ n = 4) (hw : 0 < w.toNat) : ((vgpuArraySizeFrom w h d format n).isSome ↔
      arraySize w.toNat h.toNat d.toNat format (channelsOf format n) ≤ sizeMax.toNat) ∧
    ∀ size, vgpuArraySizeFrom w h d format n = some size →
      size.toNat = arraySize w.toNat h.toNat d.toNat format (channelsOf format n) ∧
      ∀ w' h' d' size', w ≤ w' → h ≤ h' → d ≤ d' → vgpuArraySizeFrom w' h' d' format n = some size' → size ≤ size' := by
  refine ⟨?_, fun size hsize => ?_⟩
  · rw [Option.isSome_iff_exists]
    simp only [vgpuArraySizeFrom_iff hn hw]
    constructor
    · intro ⟨size, hsize⟩
      exact hsize ▸ Nat.le_of_lt_succ size.toNat_lt
    · intro hfits
      exact ⟨.ofNat _, (Nat.mod_eq_of_lt (Nat.lt_succ_of_le hfits)).symm⟩
  · have hsize := (vgpuArraySizeFrom_iff hn hw).1 hsize
    refine ⟨hsize.symm, fun w' h' d' size' hww hhh hdd hsize' => ?_⟩
    have hw' : 0 < w'.toNat := hw.trans_le (UInt64.le_iff_toNat_le.1 hww)
    rw [UInt64.le_iff_toNat_le, ← hsize, ← (vgpuArraySizeFrom_iff hn hw').1 hsize']
    exact arraySize_mono hww hhh hdd _

theorem vgpuArraySizeFrom_exact_blocks : vgpuArraySizeFrom 5 0 2 .bc1Unorm 1 = some 32 ∧
    (32 : UInt64).toNat = arraySize 5 0 2 .bc1Unorm (channelsOf .bc1Unorm 1) :=
  have h : vgpuArraySizeFrom 5 0 2 .bc1Unorm 1 = some 32 := by decide +kernel
  ⟨h, ((vgpuArraySizeFrom_exact 5 0 2 .bc1Unorm 1 (.inl rfl) (by decide)).2 32 h).1⟩

/-- An element of a format that fixes four channels is charged with four, whatever the descriptor says. -/
theorem vgpuArraySizeFrom_fixed : vgpuArraySizeFrom 1 1 1 .unormInt8X4 1 = some 4 ∧
    arraySize 1 1 1 .unormInt8X4 1 = 1 := by
  decide +kernel

end VGpuManager.Library.ArraySize

import Mathlib.Algebra.Order.BigOperators.Group.List
import Mathlib.Algebra.Ring.Int.Defs

/-!
# Integer arithmetic as a parameter

A program that counts in machine integers and its unbounded reading differ only in what an
overflowing operation returns. `IntArith` makes that the parameter: one function `wrap` that
brings every result back into the range of the type, with the four facts a capacity argument
needs from it: the type holds the small numbers, what is in range stays, a value between two
values of the type is one, and a difference that comes out positive did not wrap.
-/

namespace VGpuManager.Foundation

open List

/-- Integer arithmetic whose results are brought back into range by `wrap`. -/
structure IntArith where
  wrap : Int → Int
  wrap_small : ∀ {x}, 0 ≤ x → x ≤ 127 → wrap x = x
  wrap_wrap : ∀ x, wrap (wrap x) = wrap x
  wrap_between : ∀ {a b x}, wrap a = a → wrap b = b → a ≤ x → x ≤ b → wrap x = x
  wrap_sub_of_pos : ∀ {a b}, wrap a = a → wrap b = b → b ≤ a → 0 < wrap (a - b) → wrap (a - b) = a - b

namespace IntArith

/-- Mathematical integers. -/
def unbounded : IntArith where
  wrap := id
  wrap_small := fun _ _ => rfl
  wrap_wrap := fun _ => rfl
  wrap_between := fun _ _ _ _ => rfl
  wrap_sub_of_pos := fun _ _ _ _ => rfl

/-- Two's complement on 64 bits. -/
def int64 : IntArith where
  wrap x := (x + 9223372036854775808) % 18446744073709551616 - 9223372036854775808
  wrap_small := by intro x h₁ h₂; omega
  wrap_wrap := by intro x; omega
  wrap_between := by intro a b x ha hb h₁ h₂; omega
  wrap_sub_of_pos := by intro a b ha hb h₁ h₂; omega

variable (A : IntArith) (x y : Int)

/-- The value is one the type can hold. -/
def Fits : Prop := A.wrap x = x
  deriving Decidable

def add : Int := A.wrap (x + y)

def sub : Int := A.wrap (x - y)

def mul : Int := A.wrap (x * y)

/-- The sum of a list, one addition at a time. -/
def sum (xs : List Int) : Int := xs.foldl A.add 0

@[simp] theorem unbounded_wrap : unbounded.wrap x = x := rfl

@[simp] theorem unbounded_add : unbounded.add x y = x + y := rfl

@[simp] theorem unbounded_sub : unbounded.sub x y = x - y := rfl

@[simp] theorem unbounded_mul : unbounded.mul x y = x * y := rfl

@[simp] theorem unbounded_fits : unbounded.Fits x := rfl

theorem fits_small {x : Int} (h₁ : 0 ≤ x) (h₂ : x ≤ 127) : A.Fits x := A.wrap_small h₁ h₂

@[simp] theorem fits_zero : A.Fits 0 := A.fits_small (by decide) (by decide)

@[simp] theorem fits_add : A.Fits (A.add x y) := A.wrap_wrap _

@[simp] theorem fits_mul : A.Fits (A.mul x y) := A.wrap_wrap _

variable {A}

theorem Fits.between {a b x : Int} (ha : A.Fits a) (hb : A.Fits b) (h₁ : a ≤ x) (h₂ : x ≤ b) : A.Fits x :=
  A.wrap_between ha hb h₁ h₂

theorem Fits.add_eq {x y : Int} (h : A.Fits (x + y)) : A.add x y = x + y := h

theorem fits_foldl_add {x : Int} (hx : A.Fits x) : ∀ ys : List Int, A.Fits (ys.foldl A.add x)
  | [] => hx
  | y :: ys => fits_foldl_add (A.fits_add x y) ys

/-- As long as the true sum stays below a value of the type, no addition of the run wraps. -/
theorem foldl_add_eq {hi : Int} (hhi : A.Fits hi) : ∀ (xs : List Int) (x : Int), A.Fits x →
    (∀ v ∈ xs, 0 ≤ v) → x + xs.sum ≤ hi → xs.foldl A.add x = x + xs.sum
  | [], x, _, _, _ => by simp
  | v :: xs, x, hx, hnn, hle => by
    have hv : 0 ≤ v := hnn v (by simp)
    have hrest : 0 ≤ xs.sum := sum_nonneg fun w hw => hnn w (by simp [hw])
    simp only [sum_cons] at hle
    have hfit : A.Fits (x + v) := hx.between hhi (by omega) (by omega)
    rw [foldl_cons, hfit.add_eq, foldl_add_eq hhi xs (x + v) hfit (fun w hw => hnn w (by simp [hw])) (by omega),
      sum_cons]
    omega

theorem sum_eq {hi : Int} (hhi : A.Fits hi) {xs : List Int} (hnn : ∀ v ∈ xs, 0 ≤ v)
    (hle : xs.sum ≤ hi) : A.sum xs = xs.sum := by
  have h := foldl_add_eq hhi xs 0 A.fits_zero hnn (by omega)
  simpa [sum] using h

/-! ## Modular arithmetic -/

/-- The wrapping may be put off until the end of a computation. -/
def Modular (A : IntArith) : Prop := ∀ x y, A.wrap (A.wrap x + y) = A.wrap (x + y)

theorem int64_modular : int64.Modular := by
  intro x y
  simp only [int64]
  omega

/-- So may the wrapping of what is subtracted. -/
theorem Modular.wrap_sub (h : A.Modular) (x y : Int) : A.wrap (x - A.wrap y) = A.wrap (x - y) := by
  have hswap := h y (x - y - A.wrap y)
  rw [show A.wrap y + (x - y - A.wrap y) = x - y by omega,
    show y + (x - y - A.wrap y) = x - A.wrap y by omega] at hswap
  exact hswap.symm

theorem Modular.wrap_sub_sum {α : Type} (h : A.Modular) (f : α → Int) (l : List α) (x : Int) :
    A.wrap (x - (l.map fun a => A.wrap (f a)).sum) = A.wrap (x - (l.map f).sum) := by
  induction l generalizing x with
  | nil => rfl
  | cons a l ih =>
    simp only [map_cons, sum_cons]
    rw [← Int.sub_sub, ih, sub_right_comm, h.wrap_sub, sub_right_comm, Int.sub_sub]

/-- A run of additions wraps its true sum. -/
theorem Modular.foldl_add (h : A.Modular) {x : Int} (hx : A.Fits x) (ys : List Int) :
    ys.foldl A.add x = A.wrap (x + ys.sum) := by
  induction ys generalizing x with
  | nil => simpa using hx.symm
  | cons y ys ih =>
    rw [foldl_cons, ih (A.fits_add x y), sum_cons, add, h, Int.add_assoc]

/-- The order of the additions does not matter. -/
theorem Modular.foldl_add_perm (h : A.Modular) {ys zs : List Int} (hp : ys.Perm zs) (x : Int) :
    ys.foldl A.add x = zs.foldl A.add x := by
  refine hp.foldl_eq' (fun y _ z _ w => ?_) x
  rw [add, add, add, add, h, h, Int.add_right_comm]

end IntArith

end VGpuManager.Foundation

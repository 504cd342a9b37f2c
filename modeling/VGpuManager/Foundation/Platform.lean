import Mathlib.Data.Rat.Floor
import VGpuManager.Foundation.Text

/-!
# What the program takes from its platform

Things the results below never depend on, gathered as one parameter: how integers wrap,
how floating point numbers compute and compare, in which order a hash map is walked, which
letter is whose capital, and how a duration is read. A theorem over every `Platform` holds whatever these do.
-/

namespace VGpuManager.Foundation

structure Platform where
  int : IntArith
  /-- Floating point numbers with the operations and comparisons the program uses. -/
  F : Type
  ofInt : Int → F
  add : F → F → F
  sub : F → F → F
  mul : F → F → F
  div : F → F → F
  ceil : F → F
  lt : F → F → Bool
  eq : F → F → Bool
  /-- The order in which a map with these entries is walked. -/
  mapOrder : {α : Type} → List α → List α
  mapOrder_perm : ∀ {α : Type} (l : List α), (mapOrder l).Perm l
  /-- `unicode.ToUpper`. -/
  upper : Char → Char
  /-- A duration text in nanoseconds, `none` when it is malformed. -/
  parseDuration : Text → Option Int

namespace Platform

variable (P : Platform)

/-- The larger of two floating point numbers. -/
def fmax (x y : P.F) : P.F := if P.lt x y then y else x

theorem mem_mapOrder {α : Type} {l : List α} {a : α} : a ∈ P.mapOrder l ↔ a ∈ l :=
  (P.mapOrder_perm l).mem_iff

/-- An order in which maps are walked. The program draws a new one for every walk, so that two runs have two. -/
structure MapOrder where
  order : {α : Type} → List α → List α
  perm : ∀ {α : Type} (l : List α), (order l).Perm l

/-- The platform with another order of the walks. -/
abbrev walking (o : MapOrder) : Platform := { P with mapOrder := o.order, mapOrder_perm := o.perm }

/-- A platform that computes: exact fractions, maps walked in insertion order, no duration texts.
Fixed inputs are evaluated on it. -/
def exact (A : IntArith) : Platform where
  int := A
  F := ℚ
  ofInt x := x
  add x y := x + y
  sub x y := x - y
  mul x y := x * y
  div x y := x / y
  ceil x := ⌈x⌉
  lt x y := decide (x < y)
  eq x y := decide (x = y)
  mapOrder l := l
  mapOrder_perm := .refl
  upper := Char.toUpper
  parseDuration _ := none

end Platform

/-- The value of a computation that succeeds. -/
def okValue {ε α : Type} (x : Except ε α) (h : x.toOption.isSome = true) : α := x.toOption.get h

theorem eq_okValue {ε α : Type} {x : Except ε α} (h : x.toOption.isSome = true) : x = .ok (okValue x h) := by
  cases x with
  | error e => simp [Except.toOption] at h
  | ok a => rfl

theorem map_eq_ok {ε α β : Type} {x : Except ε α} {f : α → β} {b : β} : x.map f = .ok b ↔ ∃ a, x = .ok a ∧ f a = b := by
  cases x <;> simp [Except.map]

end VGpuManager.Foundation

import Mathlib.Algebra.Order.Ring.Rat
import Mathlib.Algebra.Order.Field.Basic
import Mathlib.Tactic.Positivity
import NexusC2.Misc.Float

/-!
# More of Python's arithmetic

The operations of `float` and `math` that kinematics uses, as a class over `PyFloatOps`. A power
and a rounding may raise `OverflowError` (`none`), `tan` may raise `ValueError` (`none`).
-/

namespace NexusC2

/-- The operations of `float` and `math` kinematics uses. -/
class PyMathOps (F : Type) extends PyFloatOps F where
  /-- `float("inf")`. -/
  inf : F
  neg : F → F
  abs : F → F
  tan : F → Option F
  hypot : F → F → F
  /-- `x ** 2`. -/
  square : F → Option F
  /-- `x ** 0.5` of a value that is not negative. -/
  root : F → F
  /-- `round(x, n)`. -/
  round : F → Nat → Option F
  /-- `timedelta(microseconds=n).total_seconds()`. -/
  seconds : Int → F

/-- The texts of `float` and the conversions of `int`. -/
class PyTextOps (F : Type) extends PyMathOps F where
  /-- `f"{x:.2f}"`. -/
  fmt2 : F → String
  /-- `int(x)`; `none` where `x` is not finite. -/
  trunc : F → Option Int
  /-- `int(s)` of a string; `none` is `ValueError`. -/
  intOfStr : String → Option Int

/-- The same, with the documented laws of the spelling. -/
class PyNumbers (F : Type) extends PyTextOps F, PyFloat F

namespace PyMathOps

/-- `min(a, b)`: the second only when it is less. -/
def min {F : Type} [PyFloatOps F] (a b : F) : F := if PyFloatOps.lt b a then b else a

end PyMathOps

/-- `max(0.0, min(1.0, x))`. -/
def clamp01 {F : Type} [PyFloatOps F] (x : F) : F :=
  PyFloatOps.max (0.0 : F) (PyMathOps.min (1.0 : F) x)

/-- The value is one of the ends of the interval from 0 to 1, or lies between them. -/
def InUnit {F : Type} [PyFloatOps F] (x : F) : Prop :=
  x = (0.0 : F) ∨ x = (1.0 : F) ∨
    (PyFloatOps.lt (0.0 : F) x = true ∧ PyFloatOps.lt x (1.0 : F) = true)

/-- Whatever is clamped, NaN and the infinities as well. -/
theorem inUnit_clamp01 {F : Type} [PyFloatOps F] (x : F) : InUnit (clamp01 x) := by
  unfold clamp01 PyFloatOps.max PyMathOps.min
  by_cases hle : PyFloatOps.lt x (1.0 : F) = true
  · rw [if_pos hle]
    split
    · exact Or.inr (Or.inr ⟨‹_›, hle⟩)
    · exact Or.inl rfl
  · rw [if_neg hle]
    split
    · exact Or.inr (Or.inl rfl)
    · exact Or.inl rfl

namespace Whole

/-- A function of numbers; anything else stays what it is. -/
def onNum (f : Int → Int) : Whole → Whole
  | num n => num (f n)
  | x => x

instance : PyMathOps Whole where
  inf := inf false
  neg
    | num n => num (-n)
    | inf neg => inf (!neg)
    | nan => nan
  abs
    | num n => num n.natAbs
    | inf _ => inf false
    | nan => nan
  tan x := some (onNum id x)
  hypot := lift fun a b => ((a * a + b * b).toNat.sqrt : Nat)
  square x := some (onNum (fun n => n * n) x)
  root x := onNum (fun n => (n.toNat.sqrt : Nat)) x
  round x _ := some x
  seconds n := num (n / 1000000)

instance : PyTextOps Whole where
  fmt2 := PyFloatOps.fmt0
  trunc
    | .num n => some n
    | _ => none
  intOfStr s := some (ofIntText s.toList)

instance : PyNumbers Whole where
  repr_literal := PyFloat.repr_literal
  ofStr_repr := PyFloat.ofStr_repr
  ofStr_nonfinite := PyFloat.ofStr_nonfinite

end Whole

/-- Numbers that are not rounded; of a function of angles, the first term. -/
abbrev exactMath : PyMathOps Rat where
  add := (· + ·)
  sub := (· - ·)
  mul := (· * ·)
  div := (· / ·)
  ofScientific := Rat.ofScientific
  lt a b := decide (a < b)
  le a b := decide (a ≤ b)
  eq a b := decide (a = b)
  isFinite _ := true
  radians x := x * 314159 / 18000000
  sin x := some x
  cos _ := some 1
  asin x := some x
  sqrt x := if x < 0 then none else some (x.floor.toNat.sqrt : Int)
  ofInt n := some n
  ofStr s := if s ≠ "" ∧ s.toList.all Char.isDigit then some (ofIntText s.toList) else none
  repr x := String.ofList (intText x.floor)
  fmt0 x := String.ofList (intText x.floor)
  inf := 10 ^ 308
  neg x := -x
  abs x := if x < 0 then -x else x
  tan x := some x
  hypot a b := ((a * a + b * b).floor.toNat.sqrt : Int)
  square x := some (x * x)
  root x := (x.floor.toNat.sqrt : Int)
  round x _ := some x
  seconds n := n / 1000000

/-- The same, with texts of digits. -/
abbrev exactText : PyTextOps Rat where
  toPyMathOps := exactMath
  fmt2 x := String.ofList (intText x.floor)
  trunc x := some (if x < 0 then x.ceil else x.floor)
  intOfStr s := if s ≠ "" ∧ s.toList.all Char.isDigit then some (ofIntText s.toList) else none

theorem exactText_rounded : letI := exactText; PyFloatRounded Rat := by
  let := exactText
  have hle : ∀ a b : Rat, PyFloatOps.le a b = true ↔ a ≤ b := fun a b => decide_eq_true_iff
  have hlt : ∀ a b : Rat, PyFloatOps.lt a b = true ↔ a < b := fun a b => decide_eq_true_iff
  have hdecimal : ∀ m e : Nat,
      (OfScientific.ofScientific m true e : Rat) = (m : Rat) / (10 : Rat) ^ e := by
    intro m e
    change Rat.ofScientific m true e = _
    rw [Rat.ofScientific_true_def, Rat.mkRat_eq_div]
    push_cast
    rfl
  exact
    { le_total := fun a b _ _ => by
        rw [hle, hle]
        exact le_total a b
      le_trans := fun a b c _ _ _ hab hbc => by
        rw [hle] at hab hbc ⊢
        exact hab.trans hbc
      lt_iff := fun a b _ _ => by
        rw [← Bool.not_eq_true, hle, hlt, not_le]
      le_of_lt := fun a b h => by
        rw [hlt] at h
        rw [hle]
        exact h.le
      finite_between := fun _ _ _ _ _ _ _ => rfl
      finite_zero := rfl
      finite_one := rfl
      le_decimal := fun m e n k h => by
        rw [hle, hdecimal, hdecimal, div_le_div_iff₀ (by positivity) (by positivity)]
        exact_mod_cast h
      le_add := fun x y _ _ h => by
        have hzero : (0.0 : Rat) = 0 := by
          change (OfScientific.ofScientific 0 true 1 : Rat) = 0
          rw [hdecimal]
          simp
        rw [hle, hzero] at h
        rw [hle]
        exact le_add_of_nonneg_right h }

end NexusC2

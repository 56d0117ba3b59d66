import Mathlib.Analysis.SpecialFunctions.Trigonometric.Inverse
import NexusC2.Misc.FloatMath

/-!
# Exact real arithmetic

The real numbers as floats that are never rounded. Cosine and sine are any two functions on the unit
circle, so that a law holds for the real ones and for those that a comment or a claim calls constant
over a short move. The texts of numbers and `round` are left open.
-/

namespace NexusC2

/-- What exact arithmetic leaves open. -/
class RealMath where
  cos : ℝ → ℝ
  sin : ℝ → ℝ
  cos_sq_add_sin_sq (x : ℝ) : cos x ^ 2 + sin x ^ 2 = 1
  ofStr : String → Option ℝ
  repr : ℝ → String
  fmt0 : ℝ → String
  round : ℝ → Nat → Option ℝ

/-- The cosine and sine of analysis, without texts. -/
noncomputable abbrev analysis : RealMath where
  cos := Real.cos
  sin := Real.sin
  cos_sq_add_sin_sq x := Real.cos_sq_add_sin_sq x
  ofStr _ := none
  repr _ := ""
  fmt0 _ := ""
  round x _ := some x

/-- The decimals of the code that are whole numbers. -/
theorem RealMath.decimals : (0.0 : ℝ) = 0 ∧ (1.0 : ℝ) = 1 ∧ (2.0 : ℝ) = 2 ∧ (4.0 : ℝ) = 4 := by
  norm_num

variable [RealMath]

noncomputable instance : PyMathOps ℝ where
  add := (· + ·)
  sub := (· - ·)
  mul := (· * ·)
  div := (· / ·)
  ofScientific m s e := (OfScientific.ofScientific m s e : ℝ)
  lt a b := decide (a < b)
  le a b := decide (a ≤ b)
  eq a b := decide (a = b)
  isFinite _ := true
  radians x := x * (Real.pi / 180)
  sin x := some (RealMath.sin x)
  cos x := some (RealMath.cos x)
  asin x := if -1 ≤ x ∧ x ≤ 1 then some (Real.arcsin x) else none
  sqrt x := if 0 ≤ x then some (Real.sqrt x) else none
  ofInt n := some n
  ofStr := RealMath.ofStr
  repr := RealMath.repr
  fmt0 := RealMath.fmt0
  inf := 10 ^ 308
  neg x := -x
  abs x := |x|
  tan x := some (RealMath.sin x / RealMath.cos x)
  hypot a b := Real.sqrt (a ^ 2 + b ^ 2)
  square x := some (x ^ 2)
  root x := Real.sqrt x
  round := RealMath.round
  seconds n := n / 1000000

namespace RealMath

-- the reals are added and multiplied as Mathlib does it, and not through `PyFloatOps`
scoped instance (priority := 2000) : Add ℝ := Real.instAdd
scoped instance (priority := 2000) : Sub ℝ := Real.instSub
scoped instance (priority := 2000) : Mul ℝ := Real.instMul
noncomputable scoped instance (priority := 2000) : Div ℝ := DivInvMonoid.toDiv
noncomputable scoped instance (priority := 2000) : OfScientific ℝ := NNRatCast.toOfScientific

@[simp] theorem lt_iff {a b : ℝ} : PyFloatOps.lt a b = true ↔ a < b := decide_eq_true_iff

@[simp] theorem le_iff {a b : ℝ} : PyFloatOps.le a b = true ↔ a ≤ b := decide_eq_true_iff

@[simp] theorem eq_iff {a b : ℝ} : PyFloatOps.eq a b = true ↔ a = b := decide_eq_true_iff

theorem lt_eq_false {a b : ℝ} : PyFloatOps.lt a b = false ↔ b ≤ a := by
  rw [← Bool.not_eq_true, lt_iff, not_lt]

theorem le_eq_false {a b : ℝ} : PyFloatOps.le a b = false ↔ b < a := by
  rw [← Bool.not_eq_true, le_iff, not_le]

theorem max_eq (a b : ℝ) : PyFloatOps.max a b = Max.max a b := by
  unfold PyFloatOps.max
  by_cases h : a < b
  · rw [if_pos (lt_iff.mpr h), max_eq_right h.le]
  · rw [if_neg fun hlt => h (lt_iff.mp hlt), max_eq_left (not_lt.mp h)]

theorem min_eq (a b : ℝ) : PyMathOps.min a b = Min.min a b := by
  unfold PyMathOps.min
  by_cases h : b < a
  · rw [if_pos (lt_iff.mpr h), min_eq_right h.le]
  · rw [if_neg fun hlt => h (lt_iff.mp hlt), min_eq_left (not_lt.mp h)]

end RealMath

end NexusC2

import Mathlib.Analysis.SpecialFunctions.Complex.Arg
import NexusC2.Misc.RealMath

/-!
# Angles in Python's arithmetic

The operations of `float` and `math` that bearings use, as a class over `PyMathOps`.
-/

namespace NexusC2

/-- The operations of `float` and `math` bearings use. -/
class PyAngleOps (F : Type) extends PyMathOps F where
  degrees : F → F
  atan2 : F → F → F
  /-- `x % y` of a `y` that is not zero. -/
  mod : F → F → F

noncomputable instance [RealMath] : PyAngleOps ℝ where
  degrees x := x * ((180 : ℕ) / Real.pi)
  atan2 y x := Complex.arg ⟨x, y⟩
  mod x y := x - y * (⌊x / y⌋ : ℤ)

namespace Whole

instance : PyAngleOps Whole where
  degrees := onNum fun n => n * 18000000 / 314159
  atan2 := lift fun y x => if y = 0 then (if x < 0 then 3 else 0) else y.sign
  mod := lift fun a b => a.emod b

end Whole

end NexusC2

import Mathlib.Data.Rat.Defs
import Mathlib.Algebra.Order.Ring.Rat
import NexusC2.Misc.Float

/-!
# Rational floats with NaN and the infinities

Floats whose finite values are exact rationals. Every comparison with NaN is false, and NaN and the
infinities go through arithmetic as IEEE 754 has it. The functions of `math` on finite values, and the
texts, are left open.
-/

namespace NexusC2

/-- A rational number, an infinity or NaN. -/
inductive ExtRat where
  | nan
  | inf (neg : Bool)
  | num (q : ℚ)
  deriving DecidableEq

/-- What is left open: `none` is the `ValueError` of `math`. -/
class RatMath where
  radians : ℚ → ℚ
  sin : ℚ → ℚ
  cos : ℚ → ℚ
  asin : ℚ → Option ℚ
  sqrt : ℚ → Option ℚ
  ofStr : String → Option ExtRat
  repr : ExtRat → String
  fmt0 : ExtRat → String

/-- Nothing of `math` and no texts. -/
abbrev noMath : RatMath where
  radians q := q
  sin q := q
  cos q := q
  asin q := some q
  sqrt q := some q
  ofStr _ := none
  repr _ := ""
  fmt0 _ := ""

namespace ExtRat

def neg : ExtRat → ExtRat
  | nan => nan
  | inf s => inf (!s)
  | num q => num (-q)

def add : ExtRat → ExtRat → ExtRat
  | num a, num b => num (a + b)
  | num _, inf s | inf s, num _ => inf s
  | inf s, inf t => if s = t then inf s else nan
  | nan, _ | _, nan => nan

def mul : ExtRat → ExtRat → ExtRat
  | num a, num b => num (a * b)
  | num a, inf s | inf s, num a => if a = 0 then nan else inf (s != decide (a < 0))
  | inf s, inf t => inf (s != t)
  | nan, _ | _, nan => nan

/-- Division of what is not zero: the code raises before it divides by it. -/
def div : ExtRat → ExtRat → ExtRat
  | num a, num b => num (a / b)
  | num _, inf _ => num 0
  | inf s, num b => inf (s != decide (b < 0))
  | inf _, inf _ => nan
  | nan, _ | _, nan => nan

def lt : ExtRat → ExtRat → Bool
  | num a, num b => a < b
  | inf s, num _ => s
  | num _, inf s => !s
  | inf s, inf t => s && !t
  | nan, _ | _, nan => false

def eq : ExtRat → ExtRat → Bool
  | num a, num b => a = b
  | inf s, inf t => s = t
  | _, _ => false

def le (a b : ExtRat) : Bool := lt a b || eq a b

def isFinite : ExtRat → Bool
  | num _ => true
  | _ => false

/-- A function of `math` that is defined on every finite value. -/
def onFinite (f : ℚ → Option ℚ) : ExtRat → Option ExtRat
  | num q => (f q).map num
  | nan => some nan
  | inf _ => none

variable [RatMath]

instance : PyFloatOps ExtRat where
  add := add
  sub a b := add a (neg b)
  mul := mul
  div := div
  ofScientific m s e := num (OfScientific.ofScientific m s e : ℚ)
  lt := lt
  le := le
  eq := eq
  isFinite := isFinite
  radians
    | num q => num (RatMath.radians q)
    | x => x
  sin := onFinite fun q => some (RatMath.sin q)
  cos := onFinite fun q => some (RatMath.cos q)
  asin := onFinite RatMath.asin
  sqrt
    | inf false => some (inf false)
    | x => onFinite RatMath.sqrt x
  ofInt n := some (num n)
  ofStr := RatMath.ofStr
  repr := RatMath.repr
  fmt0 := RatMath.fmt0

theorem lt_nan_left (a : ExtRat) : PyFloatOps.lt nan a = false := by
  cases a <;> rfl

theorem lt_nan_right (a : ExtRat) : PyFloatOps.lt a nan = false := by
  cases a <;> rfl

/-- Of two values that are not NaN, one is at most the other or greater. -/
theorem lt_of_not_le {a b : ExtRat} (ha : a ≠ nan) (hb : b ≠ nan)
    (h : PyFloatOps.le a b = false) : PyFloatOps.lt b a = true := by
  cases a with
  | nan => exact absurd rfl ha
  | inf s =>
    cases b with
    | nan => exact absurd rfl hb
    | inf t => cases s <;> cases t <;> first | rfl | cases h
    | num q => cases s <;> first | rfl | cases h
  | num p =>
    cases b with
    | nan => exact absurd rfl hb
    | inf t => cases t <;> first | rfl | cases h
    | num q =>
      simp only [PyFloatOps.le, PyFloatOps.lt, le, lt, eq, Bool.or_eq_false_iff,
        decide_eq_false_iff_not, not_lt, decide_eq_true_eq] at h ⊢
      exact lt_of_le_of_ne h.1 (Ne.symm h.2)

theorem le_of_not_lt {a b : ExtRat} (ha : a ≠ nan) (hb : b ≠ nan)
    (h : PyFloatOps.lt a b = false) : PyFloatOps.le b a = true := by
  by_contra hle
  have hlt := lt_of_not_le hb ha (Bool.not_eq_true _ ▸ hle)
  rw [h] at hlt
  cases hlt

theorem ne_nan_of_le {a b : ExtRat} (h : PyFloatOps.le a b = true) : a ≠ nan ∧ b ≠ nan := by
  constructor
  · rintro rfl
    cases b <;> cases h
  · rintro rfl
    cases a <;> cases h

theorem ne_nan_of_lt {a b : ExtRat} (h : PyFloatOps.lt a b = true) : a ≠ nan ∧ b ≠ nan := by
  constructor
  · rintro rfl
    rw [lt_nan_left] at h
    cases h
  · rintro rfl
    rw [lt_nan_right] at h
    cases h

/-- A sum is NaN where a part is, or where two infinities cancel. -/
theorem add_eq_nan {a b : ExtRat} :
    a + b = nan ↔ a = nan ∨ b = nan ∨ ∃ s, a = inf s ∧ b = inf (!s) := by
  change add a b = nan ↔ _
  cases a with
  | nan => simp [add]
  | num p => cases b <;> simp [add]
  | inf s =>
    cases b with
    | nan => simp [add]
    | num q => simp [add]
    | inf t => cases s <;> cases t <;> simp [add]

theorem isFinite_iff {a : ExtRat} : PyFloatOps.isFinite a = true ↔ ∃ q, a = num q := by
  cases a <;> simp [PyFloatOps.isFinite, isFinite]

end ExtRat

/-! ## Rationals alone -/

section

variable [RatMath]

/-- The finite values alone. -/
instance : PyFloatOps ℚ where
  add := (· + ·)
  sub := (· - ·)
  mul := (· * ·)
  div := (· / ·)
  ofScientific m s e := (OfScientific.ofScientific m s e : ℚ)
  lt a b := decide (a < b)
  le a b := decide (a ≤ b)
  eq a b := decide (a = b)
  isFinite _ := true
  radians := RatMath.radians
  sin q := some (RatMath.sin q)
  cos q := some (RatMath.cos q)
  asin := RatMath.asin
  sqrt := RatMath.sqrt
  ofInt n := some n
  ofStr text := match RatMath.ofStr text with
    | some (.num q) => some q
    | _ => none
  repr q := RatMath.repr (.num q)
  fmt0 q := RatMath.fmt0 (.num q)

end

end NexusC2

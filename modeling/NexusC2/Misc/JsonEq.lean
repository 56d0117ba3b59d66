import NexusC2.Misc.Json

/-!
# `==` of JSON values

What Python's `==` says of two values that JSON gives: `True` is `1`, a number is compared by its
value whatever its type, and two dicts are equal when they have the same fields in any order.
-/

namespace NexusC2

/-- `x == n` of a float and an integer, which Python compares without rounding. -/
class PyMixedEq (F : Type) extends PyFloatOps F where
  eqInt : F → Int → Bool

instance : PyMixedEq Whole where
  eqInt
    | .num m, n => m = n
    | _, _ => false

namespace Json

variable {F : Type}

/-- A value that is a number. -/
def number? : Json F → Option (Int ⊕ F)
  | .bool b => some (.inl (if b then 1 else 0))
  | .int n => some (.inl n)
  | .float x => some (.inr x)
  | _ => none

variable [PyMixedEq F]

/-- `==` of two numbers. -/
def eqNumber : Int ⊕ F → Int ⊕ F → Bool
  | .inl m, .inl n => m = n
  | .inl m, .inr y => PyMixedEq.eqInt y m
  | .inr x, .inl n => PyMixedEq.eqInt x n
  | .inr x, .inr y => PyFloatOps.eq x y

mutual

/-- `v == w`. -/
def pyEq : Json F → Json F → Bool
  | .null, .null => true
  | .str s, .str t => s = t
  | .arr vs, .arr ws => pyEqItems vs ws
  | .obj fs, .obj gs => fs.length = gs.length && pyEqFields fs gs
  | v, w =>
    match number? v, number? w with
    | some m, some n => eqNumber m n
    | _, _ => false

def pyEqItems : List (Json F) → List (Json F) → Bool
  | [], [] => true
  | v :: vs, w :: ws => pyEq v w && pyEqItems vs ws
  | _, _ => false

def pyEqFields : List (String × Json F) → Fields F → Bool
  | [], _ => true
  | (k, v) :: fs, gs =>
    (match Assoc.get gs k with
      | some w => pyEq v w
      | none => false) && pyEqFields fs gs

end

/-- A string is equal to itself only. -/
theorem pyEq_str (s t : String) : pyEq (.str s : Json F) (.str t) = decide (s = t) := by
  simp only [pyEq]

end Json

end NexusC2

import NexusC2.Misc.FloatMath
import NexusC2.Misc.LastMaximal

/-!
# Comparing floats

How `<` and `<=` compare any two floats, the infinities and NaN too, where an order of the finite
values alone would not do. Two decimals of at most fifteen digits are read as floats in their order.
-/

namespace NexusC2

/-- The documented laws of `<` and `<=`. -/
class PyFloatCompare (F : Type) [PyFloatOps F] : Prop where
  lt_irrefl (a : F) : ¬ PyFloatOps.lt a a = true
  lt_trans (a b c : F) : PyFloatOps.lt a b = true → PyFloatOps.lt b c = true →
    PyFloatOps.lt a c = true
  lt_of_lt_of_le (a b c : F) : PyFloatOps.lt a b = true → PyFloatOps.le b c = true →
    PyFloatOps.lt a c = true
  lt_of_le_of_lt (a b c : F) : PyFloatOps.le a b = true → PyFloatOps.lt b c = true →
    PyFloatOps.lt a c = true
  le_of_lt (a b : F) : PyFloatOps.lt a b = true → PyFloatOps.le a b = true
  ne_of_lt (a b : F) : PyFloatOps.lt a b = true → PyFloatOps.eq b a = false
  /-- NaN alone is not equal to itself, and is compared with nothing. -/
  number_of_lt (a b : F) : PyFloatOps.lt a b = true →
    PyFloatOps.eq a a = true ∧ PyFloatOps.eq b b = true
  le_or_lt (a b : F) : PyFloatOps.eq a a = true → PyFloatOps.eq b b = true →
    PyFloatOps.le a b = true ∨ PyFloatOps.lt b a = true
  lt_decimal (m e n k : Nat) : m < 10 ^ 15 → n < 10 ^ 15 → e ≤ 300 → k ≤ 300 →
    m * 10 ^ k < n * 10 ^ e →
    PyFloatOps.lt (OfScientific.ofScientific m true e : F)
      (OfScientific.ofScientific n true k) = true

namespace PyFloatCompare

variable {F : Type} [PyFloatOps F] [PyFloatCompare F] {a b x : F} {xs : List F}

/-- What is at least the greater of two values is not at most the other. -/
theorem not_le_of_le (h : PyFloatOps.lt a b = true) (hle : PyFloatOps.le b x = true) :
    ¬ PyFloatOps.le x a = true := by
  intro hxa
  have hax : PyFloatOps.lt a x = true := lt_of_lt_of_le a b x h hle
  exact lt_irrefl x (lt_of_le_of_lt x a x hxa hax)

/-- What is at least a value is at least a lesser one. -/
theorem le_of_le (h : PyFloatOps.lt a b = true) (hle : PyFloatOps.le b x = true) :
    PyFloatOps.le a x = true :=
  le_of_lt a x (lt_of_lt_of_le a b x h hle)

/-- A decimal is a number. -/
theorem number_decimal (m e : Nat) (hm : m < 10 ^ 14) (he : e ≤ 300) :
    PyFloatOps.eq (OfScientific.ofScientific m true e : F)
      (OfScientific.ofScientific m true e) = true := by
  have hnext : m * 10 ^ e < (m + 1) * 10 ^ e := Nat.mul_lt_mul_of_pos_right (by omega) (by positivity)
  exact (number_of_lt _ _ (lt_decimal m e (m + 1) e (by omega) (by omega) he he hnext)).1

/-- The greatest value of a loop of `max` that starts at a number: it is a number too. -/
theorem number_foldl_max (hx : PyFloatOps.eq x x = true) (xs : List F) :
    PyFloatOps.eq (xs.foldl PyFloatOps.max x) (xs.foldl PyFloatOps.max x) = true := by
  induction xs generalizing x with
  | nil => exact hx
  | cons y xs ih =>
    rw [List.foldl_cons]
    apply ih
    unfold PyFloatOps.max
    split
    · exact (number_of_lt x y ‹_›).2
    · exact hx

/-- The greatest value of a loop of `max`: no value is greater, and it is one of them. -/
theorem foldl_max (x : F) (xs : List F) :
    xs.foldl PyFloatOps.max x ∈ x :: xs ∧
      ∀ y ∈ x :: xs, ¬ PyFloatOps.lt (xs.foldl PyFloatOps.max x) y = true :=
  ⟨foldl_betterOf_mem (r := fun a b => PyFloatOps.lt a b = true),
    foldl_betterOf_unbeaten (r := fun a b => PyFloatOps.lt a b = true) lt_irrefl lt_trans⟩

end PyFloatCompare

theorem exactMath_compare : letI := exactMath; PyFloatCompare Rat := by
  let := exactMath
  have hle : ∀ a b : Rat, PyFloatOps.le a b = true ↔ a ≤ b := fun a b => decide_eq_true_iff
  have hlt : ∀ a b : Rat, PyFloatOps.lt a b = true ↔ a < b := fun a b => decide_eq_true_iff
  exact
    { lt_irrefl := fun a h => by
        rw [hlt] at h
        exact lt_irrefl a h
      lt_trans := fun a b c hab hbc => by
        rw [hlt] at hab hbc ⊢
        exact hab.trans hbc
      lt_of_lt_of_le := fun a b c hab hbc => by
        rw [hlt] at hab ⊢
        rw [hle] at hbc
        exact hab.trans_le hbc
      lt_of_le_of_lt := fun a b c hab hbc => by
        rw [hlt] at hbc ⊢
        rw [hle] at hab
        exact hab.trans_lt hbc
      le_of_lt := fun a b h => by
        rw [hlt] at h
        rw [hle]
        exact h.le
      ne_of_lt := fun a b h => by
        rw [hlt] at h
        exact decide_eq_false h.ne'
      number_of_lt := fun a b _ => ⟨decide_eq_true rfl, decide_eq_true rfl⟩
      le_or_lt := fun a b _ _ => by
        rw [hle, hlt]
        exact le_or_gt a b
      lt_decimal := fun m e n k _ _ _ _ h => by
        have hdecimal : ∀ m e : Nat,
            (OfScientific.ofScientific m true e : Rat) = (m : Rat) / (10 : Rat) ^ e := by
          intro m e
          change Rat.ofScientific m true e = _
          rw [Rat.ofScientific_true_def, Rat.mkRat_eq_div]
          push_cast
          rfl
        rw [hlt, hdecimal, hdecimal, div_lt_div_iff₀ (by positivity) (by positivity)]
        exact_mod_cast h }

end NexusC2

import Mathlib.Data.List.Basic
import Mathlib.Tactic.Basic

/-!
# Entries of a log that others answer for

A log is covered when in every prefix of it there are at most as many entries of one kind as of
another: no withdrawal without an earlier deposit, no answer without an earlier question. A log
grows by one entry at a time, and what must be known for the longer log is the count at its end.
-/

namespace NexusC2

variable {α : Type}

/-- In every prefix there are at most as many `p` as `q`. -/
def Covered (p q : α → Bool) (log : List α) : Prop :=
  ∀ init, init <+: log → init.countP p ≤ init.countP q

namespace Covered

variable {p q : α → Bool} {log : List α} {x : α}

theorem nil : Covered p q [] := by
  intro init h
  rw [List.prefix_nil.mp h]
  exact Nat.le_refl _

theorem snoc (h : Covered p q log) (hx : (log ++ [x]).countP p ≤ (log ++ [x]).countP q) :
    Covered p q (log ++ [x]) := by
  intro init hinit
  rcases List.prefix_concat_iff.mp hinit with rfl | hinit
  · exact hx
  · exact h init hinit

/-- An entry that is no `p` can always follow. -/
theorem snoc_of_neg (h : Covered p q log) (hx : p x = false) : Covered p q (log ++ [x]) := by
  apply h.snoc
  have hlog := h log List.prefix_rfl
  simp only [List.countP_append, List.countP_singleton, hx, Bool.false_eq_true, if_false]
  omega

end Covered

end NexusC2

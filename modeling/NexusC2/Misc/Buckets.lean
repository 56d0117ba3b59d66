import Mathlib.Data.List.Basic
import Mathlib.Data.List.Induction
import Mathlib.Tactic.Basic

/-!
# Buckets of an ordered list

A list whose keys never fall is given back by its buckets, taken in the order of the keys.
-/

namespace NexusC2

variable {α : Type} {f : α → Nat} {l : List α}

/-- The elements below a key come before those of the key. -/
theorem filter_lt_append_filter_eq {m : Nat} (hsorted : l.Pairwise fun a b => f a ≤ f b)
    (hle : ∀ a ∈ l, f a ≤ m) :
    (l.filter fun a => f a < m) ++ (l.filter fun a => f a = m) = l := by
  induction l with
  | nil => rfl
  | cons a l ih =>
    rw [List.pairwise_cons] at hsorted
    have hrest := ih hsorted.2 fun b hb => hle b (List.mem_cons_of_mem a hb)
    by_cases hlt : f a < m
    · have hne : ¬ f a = m := by omega
      simp [hlt, hne, hrest]
    · -- every later key is the key as well
      have heq : f a = m := by
        have := hle a List.mem_cons_self
        omega
      have hlater : ∀ b ∈ l, f b = m := by
        intro b hb
        have hab := hsorted.1 b hb
        have hbm := hle b (List.mem_cons_of_mem a hb)
        omega
      have hnone : (l.filter fun b => f b < m) = [] := by
        apply List.filter_eq_nil_iff.mpr
        intro b hb
        simp [hlater b hb]
      have hall : (l.filter fun b => f b = m) = l := by
        apply List.filter_eq_self.mpr
        intro b hb
        simp [hlater b hb]
      simp [heq, hnone, hall]

/-- The buckets of a list in order, one after the other, are the list. -/
theorem flatMap_buckets {m : Nat} (hsorted : l.Pairwise fun a b => f a ≤ f b)
    (hlt : ∀ a ∈ l, f a < m) :
    ((List.range m).flatMap fun i => l.filter fun a => f a = i) = l := by
  induction m generalizing l with
  | zero =>
    cases l with
    | nil => rfl
    | cons a l => exact absurd (hlt a List.mem_cons_self) (Nat.not_lt_zero _)
  | succ m ih =>
    have hbelow := ih (hsorted.filter fun a => f a < m) (by simp)
    have hbuckets : ((List.range m).flatMap fun i => l.filter fun a => f a = i) =
        (List.range m).flatMap fun i => (l.filter fun a => f a < m).filter fun a => f a = i := by
      apply List.flatMap_congr
      intro i hi
      rw [List.mem_range] at hi
      rw [List.filter_filter]
      apply List.filter_congr
      intro a _
      have hiff : f a = i ↔ f a = i ∧ f a < m := by omega
      rw [← Bool.decide_and, decide_eq_decide]
      exact hiff
    rw [List.range_succ, List.flatMap_append, List.flatMap_singleton, hbuckets, hbelow]
    exact filter_lt_append_filter_eq hsorted fun a ha => Nat.lt_succ_iff.mp (hlt a ha)

end NexusC2

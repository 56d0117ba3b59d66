import Mathlib.Data.List.Sort
import Mathlib.Data.String.Basic
import Mathlib.Tactic.Basic

/-!
# Words, sorted and joined

Sorting is a canonical form of a list up to its order, and joining words with a separator that is
in none of them loses nothing.
-/

namespace NexusC2

/-- Words without the separator are read back from their joined text. -/
theorem intercalate_inj {separator : Char} {ws ws' : List String}
    (h : ∀ w ∈ ws, w ≠ "" ∧ separator ∉ w.toList) (h' : ∀ w ∈ ws', w ≠ "" ∧ separator ∉ w.toList)
    (heq : (String.singleton separator).intercalate ws =
      (String.singleton separator).intercalate ws') : ws = ws' := by
  -- a list with a word has a text
  have hnil : ∀ {ws : List String}, (∀ w ∈ ws, w ≠ "" ∧ separator ∉ w.toList) →
      (String.singleton separator).intercalate ws = "" → ws = [] := by
    intro ws h hempty
    cases ws with
    | nil => rfl
    | cons w ws =>
      have hw := (h w List.mem_cons_self).1
      cases ws with
      | nil => exact absurd (by simpa using hempty) hw
      | cons w' ws =>
        have htext := congrArg String.toList hempty
        simp at htext
  have hsplit : ∀ {ws : List String}, (∀ w ∈ ws, w ≠ "" ∧ separator ∉ w.toList) → ws ≠ [] →
      ((String.singleton separator).intercalate ws).toList.splitOn separator =
        ws.map String.toList := by
    intro ws h hne
    rw [String.toList_intercalate, String.toList_singleton]
    apply List.splitOn_intercalate
    · intro cs hcs
      obtain ⟨w, hw, rfl⟩ := List.mem_map.mp hcs
      exact (h w hw).2
    · simpa using hne
  by_cases hws : ws = []
  · subst hws
    exact (hnil h' (heq.symm.trans String.intercalate_nil)).symm
  · have hws' : ws' ≠ [] := by
      rintro rfl
      exact hws (hnil h (heq.trans String.intercalate_nil))
    have hwords := hsplit h hws
    rw [heq, hsplit h' hws'] at hwords
    exact (List.map_injective_iff.mpr (fun _ _ => String.toList_inj.mp) hwords).symm

/-- Sorting is a canonical form of lists up to their order. -/
theorem insertionSort_eq_iff_perm {α : Type} [LinearOrder α] {l l' : List α} :
    l.insertionSort (· ≤ ·) = l'.insertionSort (· ≤ ·) ↔ l.Perm l' := by
  constructor
  · intro heq
    have hperm := List.perm_insertionSort (· ≤ ·) l
    rw [heq] at hperm
    exact hperm.symm.trans (List.perm_insertionSort (· ≤ ·) l')
  · intro hperm
    apply List.Perm.eq_of_sortedLE List.sortedLE_insertionSort List.sortedLE_insertionSort
    exact ((List.perm_insertionSort _ l).trans hperm).trans (List.perm_insertionSort _ l').symm

end NexusC2

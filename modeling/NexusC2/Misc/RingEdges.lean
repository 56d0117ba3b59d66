import Mathlib.Algebra.Group.Nat.Even
import Mathlib.Data.List.Rotate
import Mathlib.Data.List.Zip
import Mathlib.Data.Nat.Bits

/-!
# Lists read as rings

The edges of a list whose end is joined to its start, and the ways of writing one ring: from another
start, the other way round, or with the start written once more at the end. Edges are counted, and
what is said of a count is its parity.
-/

namespace NexusC2

variable {α : Type}

/-- The edges of a ring: each vertex with the next one, and the last with the first. -/
def ringEdges (ring : List α) : List (α × α) := ring.zip (ring.rotate 1)

/-- The ways of writing a ring. -/
inductive Rewritten (ring : List α) : List α → Prop
  | same : Rewritten ring ring
  | rotate (n : Nat) {written : List α} : Rewritten ring written → Rewritten ring (written.rotate n)
  | reverse {written : List α} : Rewritten ring written → Rewritten ring written.reverse
  | close {written : List α} :
      Rewritten ring written → Rewritten ring (written ++ written.head?.toList)

/-! ## Edges of a ring written another way -/

theorem ringEdges_rotate (ring : List α) (n : Nat) :
    ringEdges (ring.rotate n) = (ringEdges ring).rotate n := by
  unfold ringEdges
  rw [List.rotate_rotate, Nat.add_comm, ← List.rotate_rotate]
  exact (List.zipWith_rotate_distrib Prod.mk ring (ring.rotate 1) n (List.length_rotate ..).symm).symm

/-- The other way round every edge is turned. -/
theorem ringEdges_reverse (ring : List α) :
    (ringEdges ring.reverse).Perm ((ringEdges ring).map Prod.swap) := by
  have hback : (ring.rotate 1).reverse.rotate 1 = ring.reverse := by
    cases ring with
    | nil => rfl
    | cons x xs => simp
  have hedges : ringEdges ring.reverse = ((ring.rotate 1).zip ring).reverse.rotate 1 :=
    calc ringEdges ring.reverse
        = ((ring.rotate 1).reverse.rotate 1).zip (ring.reverse.rotate 1) := by rw [hback, ringEdges]
      _ = ((ring.rotate 1).reverse.zip ring.reverse).rotate 1 :=
          (List.zipWith_rotate_distrib Prod.mk _ _ 1 (by simp)).symm
      _ = ((ring.rotate 1).zip ring).reverse.rotate 1 := by
          unfold List.zip
          rw [List.reverse_zipWith (List.length_rotate ..)]
  rw [hedges, ringEdges, List.zip_swap]
  exact (List.rotate_perm _ 1).trans (List.reverse_perm _)

/-- A closing vertex adds an edge that leads nowhere. -/
theorem ringEdges_close (x : α) (xs : List α) :
    ringEdges (x :: xs ++ [x]) = ringEdges (x :: xs) ++ [(x, x)] := by
  have hone : (x :: xs ++ [x]).rotate 1 = xs ++ [x] ++ [x] := by simp
  have hring : (x :: xs).rotate 1 = xs ++ [x] := by simp
  unfold ringEdges
  rw [hone, hring, List.zip_append (by simp)]
  rfl

/-- A walk along the list that starts at its last vertex goes along the edges of the ring. -/
theorem zip_perm_ringEdges {ring : List α} {last : α} (h : ring.getLast? = some last) :
    ((last :: ring).zip ring).Perm (ringEdges ring) := by
  obtain ⟨xs, rfl⟩ := List.getLast?_eq_some_iff.mp h
  have hrotate : xs ++ [last] = (last :: xs).rotate 1 := by simp
  have hwalk : (last :: (xs ++ [last])).zip (xs ++ [last]) = ringEdges (last :: xs) := by
    have hsplit : (last :: xs ++ [last]).zip (xs ++ [last] ++ []) =
        (last :: xs).zip (xs ++ [last]) ++ [last].zip [] := List.zip_append (by simp)
    rw [ringEdges, ← hrotate]
    simpa using hsplit
  rw [hwalk]
  calc (ringEdges (last :: xs)).Perm ((ringEdges (last :: xs)).rotate 1) :=
        (List.rotate_perm _ 1).symm
    _ = ringEdges (xs ++ [last]) := by rw [hrotate, ringEdges_rotate]

namespace Rewritten

variable {ring written : List α}

/-- A ring has, however it is written, its own edges or these turned, and edges that lead nowhere. -/
theorem mem_ringEdges (h : Rewritten ring written) {e : α × α} :
    e ∈ ringEdges written → e ∈ ringEdges ring ∨ e.swap ∈ ringEdges ring ∨ e.1 = e.2 := by
  induction h generalizing e with
  | same => exact Or.inl
  | rotate n _ ih =>
    intro he
    rw [ringEdges_rotate, List.mem_rotate] at he
    exact ih he
  | @reverse written _ ih =>
    intro he
    obtain ⟨e', he', rfl⟩ := List.mem_map.mp ((ringEdges_reverse written).mem_iff.mp he)
    rcases ih he' with hin | hturned | hloop
    · exact Or.inr (Or.inl hin)
    · exact Or.inl hturned
    · exact Or.inr (Or.inr hloop.symm)
  | @close written _ ih =>
    intro he
    cases written with
    | nil => cases he
    | cons x xs =>
      change e ∈ ringEdges (x :: xs ++ [x]) at he
      rw [ringEdges_close] at he
      rcases List.mem_append.mp he with he | he
      · exact ih he
      · obtain rfl := List.mem_singleton.mp he
        exact Or.inr (Or.inr rfl)

/-- What is counted on edges that lead somewhere is counted one way round or the other. -/
theorem countP_ringEdges (h : Rewritten ring written) {f : α × α → Bool}
    (hloop : ∀ x, f (x, x) = false) :
    (ringEdges written).countP f = (ringEdges ring).countP f ∨
      (ringEdges written).countP f = (ringEdges ring).countP (f ∘ Prod.swap) := by
  induction h generalizing f with
  | same => exact Or.inl rfl
  | rotate n _ ih =>
    rw [ringEdges_rotate, (List.rotate_perm _ n).countP_eq]
    exact ih hloop
  | @reverse written _ ih =>
    rw [(ringEdges_reverse written).countP_eq, List.countP_map]
    rcases @ih (f ∘ Prod.swap) hloop with hsame | hturned
    · exact Or.inr hsame
    · refine Or.inl (hturned.trans ?_)
      rw [Function.comp_assoc, Prod.swap_swap_eq, Function.comp_id]
  | @close written _ ih =>
    cases written with
    | nil => exact ih hloop
    | cons x xs =>
      change (ringEdges (x :: xs ++ [x])).countP f = _ ∨ (ringEdges (x :: xs ++ [x])).countP f = _
      rw [ringEdges_close, List.countP_append, List.countP_singleton, hloop]
      exact ih hloop

theorem length_le (h : Rewritten ring written) : ring.length ≤ written.length := by
  induction h with
  | same => exact le_rfl
  | rotate n _ ih => rwa [List.length_rotate]
  | reverse _ ih => rwa [List.length_reverse]
  | close _ ih =>
    rw [List.length_append]
    exact ih.trans (Nat.le_add_right ..)

end Rewritten

/-! ## Parity of a count -/

/-- The parity of counting either of two things but not both. -/
theorem bodd_countP_xor (f g : α → Bool) (l : List α) :
    (l.countP fun a => f a ^^ g a).bodd = ((l.countP f).bodd ^^ (l.countP g).bodd) := by
  induction l with
  | nil => simp
  | cons a l ih =>
    simp only [List.countP_cons, Nat.bodd_add, ih]
    cases f a <;> cases g a <;> simp

end NexusC2

import Mathlib.Data.List.Induction
import Mathlib.Tactic.Basic

/-!
# The last of the greatest

A running best that gives way to whatever is not less than it is, at the end, the last one among
the greatest of the list. The order need only be total and transitive on the elements that occur.
One that gives way only to what beats it is the first one that nothing beats.
-/

namespace NexusC2

variable {α : Type} (r : α → α → Prop)

/-- No element is greater than `x`, and none after it is as great. -/
def LastMaximal (l : List α) (x : α) : Prop :=
  (∀ y ∈ l, r y x) ∧ ∃ init rest, l = init ++ x :: rest ∧ ∀ y ∈ rest, ¬ r x y

/-- The best of two, the second one when it is not less. -/
def betterOf [DecidableRel r] (x y : α) : α := if r x y then y else x

variable {r} {l : List α} {x y : α}

/-- The running best is one of the elements, whatever the order. -/
theorem foldl_betterOf_mem [DecidableRel r] : l.foldl (betterOf r) x ∈ x :: l := by
  induction l generalizing x with
  | nil => simp
  | cons y l ih =>
    rw [List.foldl_cons, betterOf]
    split
    · exact List.mem_cons_of_mem x ih
    · rcases List.mem_cons.mp (ih (x := x)) with heq | hmem
      · simp [heq]
      · simp [hmem]

theorem LastMaximal.mem (h : LastMaximal r l x) : x ∈ l := by
  obtain ⟨-, init, rest, rfl, -⟩ := h
  simp

theorem LastMaximal.singleton (hx : r x x) : LastMaximal r [x] x :=
  ⟨fun y hy => (by rw [List.mem_singleton.mp hy]; exact hx), [], [], rfl, by simp⟩

/-- A new element that is not less takes over. -/
theorem LastMaximal.snoc_greater (h : LastMaximal r l x) (hy : r y y)
    (htrans : ∀ z ∈ l, r z x → r z y) : LastMaximal r (l ++ [y]) y := by
  refine ⟨fun z hz => ?_, l, [], rfl, by simp⟩
  rcases List.mem_append.mp hz with hz | hz
  · exact htrans z hz (h.1 z hz)
  · rw [List.mem_singleton.mp hz]
    exact hy

/-- A new element that is less changes nothing. -/
theorem LastMaximal.snoc_less (h : LastMaximal r l x) (hyx : r y x) (hxy : ¬ r x y) :
    LastMaximal r (l ++ [y]) x := by
  obtain ⟨hmax, init, rest, rfl, hrest⟩ := h
  refine ⟨fun z hz => ?_, init, rest ++ [y], by simp, fun z hz => ?_⟩
  · rcases List.mem_append.mp hz with hz | hz
    · exact hmax z hz
    · rw [List.mem_singleton.mp hz]
      exact hyx
  · rcases List.mem_append.mp hz with hz | hz
    · exact hrest z hz
    · rw [List.mem_singleton.mp hz]
      exact hxy

/-- The running best over the list is its last maximal element. -/
theorem lastMaximal_foldl [DecidableRel r] {p : α → Prop}
    (htotal : ∀ a b, p a → p b → r a b ∨ r b a)
    (htrans : ∀ a b c, p a → p b → p c → r a b → r b c → r a c) (hx : p x)
    (hl : ∀ y ∈ l, p y) : LastMaximal r (x :: l) (l.foldl (betterOf r) x) := by
  have hrefl : ∀ a, p a → r a a := fun a ha => (htotal a a ha ha).elim id id
  induction l using List.reverseRecOn with
  | nil => exact .singleton (hrefl x hx)
  | append_singleton l y ih =>
    have hy : p y := hl y (by simp)
    have hall : ∀ z ∈ x :: l, p z :=
      List.forall_mem_cons.mpr ⟨hx, fun z hz => hl z (by simp [hz])⟩
    have hbest := ih fun z hz => hl z (by simp [hz])
    have hp : p (l.foldl (betterOf r) x) := hall _ hbest.mem
    rw [List.foldl_append, List.foldl_cons, List.foldl_nil, ← List.cons_append]
    by_cases hle : r (l.foldl (betterOf r) x) y
    · rw [betterOf, if_pos hle]
      exact hbest.snoc_greater (hrefl y hy) fun z hz hzx => htrans z _ y (hall z hz) hp hy hzx hle
    · rw [betterOf, if_neg hle]
      exact hbest.snoc_less ((htotal y _ hy hp).resolve_right hle) hle

/-- Whatever else is known of a transitive order, no element beats the running best. -/
theorem foldl_betterOf_unbeaten [DecidableRel r] (hirrefl : ∀ a, ¬ r a a)
    (htrans : ∀ a b c, r a b → r b c → r a c) : ∀ y ∈ x :: l, ¬ r (l.foldl (betterOf r) x) y := by
  induction l using List.reverseRecOn with
  | nil => simpa using hirrefl x
  | append_singleton l z ih =>
    intro y hy
    rw [← List.cons_append] at hy
    rw [List.foldl_append, List.foldl_cons, List.foldl_nil]
    by_cases hz : r (l.foldl (betterOf r) x) z
    · rw [betterOf, if_pos hz]
      rcases List.mem_append.mp hy with hy | hy
      · exact fun hbeats => ih y hy (htrans _ _ _ hz hbeats)
      · rw [List.mem_singleton.mp hy]
        exact hirrefl z
    · rw [betterOf, if_neg hz]
      rcases List.mem_append.mp hy with hy | hy
      · exact ih y hy
      · rw [List.mem_singleton.mp hy]
        exact hz

/-! ## The first that nothing beats -/

/-- Nothing beats `x`, and `x` beats whatever stands before it. -/
def FirstUnbeaten (r : α → α → Prop) (l : List α) (x : α) : Prop :=
  ∃ init rest, l = init ++ x :: rest ∧ (∀ y ∈ init, r y x) ∧ ∀ y ∈ rest, ¬ r x y

theorem FirstUnbeaten.mem (h : FirstUnbeaten r l x) : x ∈ l := by
  obtain ⟨init, rest, rfl, -, -⟩ := h
  simp

/-- Of two places that nothing beats, neither is before the other. -/
theorem FirstUnbeaten.unique (hx : FirstUnbeaten r l x) (hy : FirstUnbeaten r l y) : x = y := by
  obtain ⟨init, rest, rfl, hinit, hrest⟩ := hx
  obtain ⟨init', rest', heq, hinit', hrest'⟩ := hy
  rcases List.append_eq_append_iff.mp heq with ⟨mid, rfl, htail⟩ | ⟨mid, rfl, htail⟩
  · cases mid with
    | nil => exact (List.cons.inj htail).1
    | cons z mid =>
      obtain ⟨rfl, rfl⟩ := List.cons.inj htail
      exact absurd (hinit' x (by simp)) (hrest y (by simp))
  · cases mid with
    | nil => exact (List.cons.inj htail).1.symm
    | cons z mid =>
      obtain ⟨rfl, rfl⟩ := List.cons.inj htail
      exact absurd (hinit y (by simp)) (hrest' x (by simp))

/-- The running best over the list is the first that nothing beats. -/
theorem firstUnbeaten_foldl [DecidableRel r] {p : α → Prop}
    (htrans : ∀ a b c, p a → p b → p c → r a b → r b c → r a c)
    (hneg : ∀ a b c, p a → p b → p c → ¬ r a b → ¬ r b c → ¬ r a c) (hx : p x)
    (hl : ∀ y ∈ l, p y) : FirstUnbeaten r (x :: l) (l.foldl (betterOf r) x) := by
  induction l using List.reverseRecOn with
  | nil => exact ⟨[], [], rfl, by simp, by simp⟩
  | append_singleton l y ih =>
    have hy : p y := hl y (by simp)
    have hall : ∀ z ∈ x :: l, p z :=
      List.forall_mem_cons.mpr ⟨hx, fun z hz => hl z (by simp [hz])⟩
    have hbest := ih fun z hz => hl z (by simp [hz])
    have hp : p (l.foldl (betterOf r) x) := hall _ hbest.mem
    obtain ⟨init, rest, heq, hinit, hrest⟩ := hbest
    have hmem : ∀ z ∈ init ++ rest, p z := by
      intro z hz
      refine hall z (heq ▸ ?_)
      rcases List.mem_append.mp hz with hz | hz <;> simp [hz]
    rw [List.foldl_append, List.foldl_cons, List.foldl_nil, ← List.cons_append]
    by_cases hbeats : r (l.foldl (betterOf r) x) y
    · rw [betterOf, if_pos hbeats]
      refine ⟨x :: l, [], by simp, fun z hz => ?_, by simp⟩
      rw [heq] at hz
      rcases List.mem_append.mp hz with hz | hz
      · exact htrans z _ y (hmem z (by simp [hz])) hp hy (hinit z hz) hbeats
      rcases List.mem_cons.mp hz with rfl | hz
      · exact hbeats
      · by_contra hzy
        exact hneg _ z y hp (hmem z (by simp [hz])) hy (hrest z hz) hzy hbeats
    · rw [betterOf, if_neg hbeats]
      refine ⟨init, rest ++ [y], by simp [heq], hinit, fun z hz => ?_⟩
      rcases List.mem_append.mp hz with hz | hz
      · exact hrest z hz
      · rw [List.mem_singleton.mp hz]
        exact hbeats

end NexusC2

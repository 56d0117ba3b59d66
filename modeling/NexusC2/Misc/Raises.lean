import NexusC2.Misc.Handler

/-!
# How a handler raises

`Raises p m s t`: from `s` the handler `m` raises an exception of the kind `p` and leaves `t`. A
handler that raises in the rest of a `do` has returned from what stands before it, so a raise is
traced to its place by taking the handler apart bind by bind; a handler that raises nothing of the
kind (`Quiet`) drops out on the way.
-/

namespace NexusC2

variable {ε σ α β : Type}

/-- A computation that raises nothing of the kind. -/
def QuietExcept (p : ε → Prop) (r : Except ε α) : Prop := ∀ e, r = .error e → ¬ p e

namespace QuietExcept

variable {p : ε → Prop}

theorem ok {a : α} : QuietExcept p (.ok a) := fun _ h => by cases h

theorem error {e : ε} (h : ¬ p e) : QuietExcept p (.error e : Except ε α) := by
  intro e' he
  cases he
  exact h

theorem bind {r : Except ε α} {f : α → Except ε β} (hr : QuietExcept p r)
    (hf : ∀ a, QuietExcept p (f a)) : QuietExcept p (r >>= f) := by
  cases r with
  | error e => exact error (hr e rfl)
  | ok a => exact hf a

end QuietExcept

namespace Handler

/-- `m` raises an exception of the kind and leaves `t`. -/
def Raises (p : ε → Prop) (m : Handler ε σ α) (s t : σ) : Prop := ∃ e, p e ∧ m s = (.error e, t)

/-- `m` raises nothing of the kind. -/
def Quiet (p : ε → Prop) (m : Handler ε σ α) : Prop := ∀ s t, ¬ Raises p m s t

variable {p : ε → Prop}

theorem raises_bind {m : Handler ε σ α} {f : α → Handler ε σ β} {s t : σ} :
    Raises p (m >>= f) s t ↔
      Raises p m s t ∨ ∃ a s', m s = (.ok a, s') ∧ Raises p (f a) s' t := by
  unfold Raises
  cases hm : m s with
  | mk r s' =>
    cases r with
    | error e => simp [bind_error hm]
    | ok a => simp [bind_ok hm]

/-- What follows a part that returned raises. -/
theorem raises_bind_of_ok {m : Handler ε σ α} {f : α → Handler ε σ β} {s s' t : σ} {a : α}
    (h : m s = (.ok a, s')) : Raises p (m >>= f) s t ↔ Raises p (f a) s' t := by
  unfold Raises
  rw [bind_ok h]

/-- A part that raises is the last. -/
theorem raises_bind_of_error {m : Handler ε σ α} {f : α → Handler ε σ β} {s s' t : σ} {e : ε}
    (h : m s = (.error e, s')) : Raises p (m >>= f) s t ↔ p e ∧ t = s' := by
  unfold Raises
  rw [bind_error h]
  constructor
  · rintro ⟨e', hp, heq⟩
    cases heq
    exact ⟨hp, rfl⟩
  · rintro ⟨hp, rfl⟩
    exact ⟨e, hp, rfl⟩

@[simp] theorem raises_get_bind {f : σ → Handler ε σ β} {s t : σ} :
    Raises p (get >>= f) s t ↔ Raises p (f s) s t := Iff.rfl

@[simp] theorem raises_modify_bind {g : σ → σ} {f : Unit → Handler ε σ β} {s t : σ} :
    Raises p (modify g >>= f) s t ↔ Raises p (f ()) (g s) t := Iff.rfl

theorem raises_raise {e : ε} {s t : σ} :
    Raises p (raise e : Handler ε σ α) s t ↔ p e ∧ t = s := by
  constructor
  · rintro ⟨e', hp, h⟩
    cases h
    exact ⟨hp, rfl⟩
  · rintro ⟨hp, rfl⟩
    exact ⟨e, hp, rfl⟩

theorem raises_ofExcept {r : Except ε α} {s t : σ} :
    Raises p (ofExcept r) s t ↔ (∃ e, r = .error e ∧ p e) ∧ t = s := by
  constructor
  · rintro ⟨e, hp, h⟩
    cases h
    exact ⟨⟨e, rfl, hp⟩, rfl⟩
  · rintro ⟨⟨e, rfl, hp⟩, rfl⟩
    exact ⟨e, hp, rfl⟩

/-- A raise in terms of the outcome and the state left. -/
theorem raises_iff {m : Handler ε σ α} {s t : σ} :
    Raises p m s t ↔ (∃ e, (m s).1 = .error e ∧ p e) ∧ t = (m s).2 := by
  constructor
  · rintro ⟨e, hp, h⟩
    rw [h]
    exact ⟨⟨e, rfl, hp⟩, rfl⟩
  · rintro ⟨⟨e, he, hp⟩, rfl⟩
    exact ⟨e, hp, Prod.ext he rfl⟩

/-- Nothing that follows raises, so the first part does. -/
theorem raises_bind_quiet {m : Handler ε σ α} {f : α → Handler ε σ β} {s t : σ}
    (hf : ∀ a, Quiet p (f a)) : Raises p (m >>= f) s t ↔ Raises p m s t := by
  rw [raises_bind]
  exact or_iff_left fun ⟨a, s', _, h⟩ => hf a s' t h

namespace Quiet

theorem pure {a : α} : Quiet p (Pure.pure a : Handler ε σ α) := by
  rintro s t ⟨e, -, h⟩
  cases h

theorem raise {e : ε} (h : ¬ p e) : Quiet p (Handler.raise e : Handler ε σ α) :=
  fun _ _ hraise => h (raises_raise.mp hraise).1

theorem modify {g : σ → σ} : Quiet p (Handler.modify g : Handler ε σ Unit) := by
  rintro s t ⟨e, -, h⟩
  cases h

theorem get : Quiet p (Handler.get : Handler ε σ σ) := by
  rintro s t ⟨e, -, h⟩
  cases h

theorem ofExcept {r : Except ε α} (h : QuietExcept p r) :
    Quiet p (Handler.ofExcept r : Handler ε σ α) := by
  intro s t hraise
  obtain ⟨⟨e, he, hp⟩, -⟩ := raises_ofExcept.mp hraise
  exact h e he hp

theorem bind {m : Handler ε σ α} {f : α → Handler ε σ β} (hm : Quiet p m)
    (hf : ∀ a, Quiet p (f a)) : Quiet p (m >>= f) :=
  fun s t h => hm s t ((raises_bind_quiet hf).mp h)

end Quiet

end Handler

end NexusC2

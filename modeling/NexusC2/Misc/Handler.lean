import Mathlib.Data.List.Forall2
import Mathlib.Data.List.ProdSigma
import Mathlib.Tactic.Basic

/-!
# Handlers that may raise and keep their effects

A request handler of a stateful server runs against a mutable state and may raise. Raising
undoes nothing: whatever was written before stays written. `Handler ε σ α` is that meaning, a
function from the state to an outcome and the state left behind. `Triple P m Q E` is a Hoare
triple with one postcondition for a normal return and one for a raise; the rules below take a
triple apart along the shape of a handler.
-/

namespace NexusC2

/-- What returns after a step that may raise: the step returned, and then the rest did. -/
theorem except_bind_eq_ok {ε α β : Type} {x : Except ε α} {f : α → Except ε β} {b : β} :
    (x >>= f) = .ok b ↔ ∃ a, x = .ok a ∧ f a = .ok b := by
  cases x with
  | error e => exact ⟨fun h => (by cases h), fun ⟨_, h, _⟩ => (by cases h)⟩
  | ok a => exact ⟨fun h => ⟨a, rfl, h⟩, fun ⟨_, hx, h⟩ => (by cases hx; exact h)⟩

theorem except_bind_returns_iff {ε α β : Type} {x : Except ε α} {f : α → Except ε β} :
    (∃ b, (x >>= f) = .ok b) ↔ ∃ a, x = .ok a ∧ ∃ b, f a = .ok b := by
  constructor
  · rintro ⟨b, hb⟩
    obtain ⟨a, ha, hb⟩ := except_bind_eq_ok.mp hb
    exact ⟨a, ha, b, hb⟩
  · rintro ⟨a, ha, b, hb⟩
    exact ⟨b, except_bind_eq_ok.mpr ⟨a, ha, hb⟩⟩

theorem except_map_eq_ok {ε α β : Type} {f : α → β} {x : Except ε α} {b : β} :
    x.map f = .ok b ↔ ∃ a, x = .ok a ∧ f a = b := by
  cases x with
  | error e => exact ⟨fun h => (by cases h), fun ⟨_, h, _⟩ => (by cases h)⟩
  | ok a => exact ⟨fun h => ⟨a, rfl, Except.ok.inj h⟩, fun ⟨_, hx, h⟩ => (by cases hx; cases h; rfl)⟩

/-- One of two steps before the rest. -/
theorem except_ite_bind_eq_ok {ε α β : Type} {c : Prop} [Decidable c] {x y : Except ε α}
    {f : α → Except ε β} {b : β} (h : (if c then x >>= f else y >>= f) = .ok b) :
    ∃ a, (if c then x else y) = .ok a ∧ f a = .ok b := by
  split at h
  · rw [if_pos ‹_›]
    exact except_bind_eq_ok.mp h
  · rw [if_neg ‹_›]
    exact except_bind_eq_ok.mp h

theorem except_mapM_eq_ok {ε α β : Type} {f : α → Except ε β} {xs : List α} {ys : List β} :
    xs.mapM f = .ok ys ↔ List.Forall₂ (fun x y => f x = .ok y) xs ys := by
  induction xs generalizing ys with
  | nil =>
    constructor
    · intro h
      cases h
      exact .nil
    · intro h
      cases h
      rfl
  | cons x xs ih =>
    rw [List.mapM_cons, except_bind_eq_ok]
    constructor
    · rintro ⟨y, hy, h⟩
      obtain ⟨rest, hrest, h⟩ := except_bind_eq_ok.mp h
      cases h
      exact .cons hy (ih.mp hrest)
    · intro h
      cases h with
      | cons hy hrest => exact ⟨_, hy, except_bind_eq_ok.mpr ⟨_, ih.mpr hrest, rfl⟩⟩

/-- A loop returns when each of its steps does. -/
theorem except_mapM_returns_iff {ε α β : Type} {f : α → Except ε β} {xs : List α} :
    (∃ ys, xs.mapM f = .ok ys) ↔ ∀ x ∈ xs, ∃ y, f x = .ok y := by
  constructor
  · rintro ⟨ys, h⟩ x hx
    induction except_mapM_eq_ok.mp h with
    | nil => cases hx
    | cons hy hrest ih =>
      rcases List.mem_cons.mp hx with rfl | hx
      · exact ⟨_, hy⟩
      · exact ih (except_mapM_eq_ok.mpr hrest) hx
  · intro h
    induction xs with
    | nil => exact ⟨[], rfl⟩
    | cons x xs ih =>
      obtain ⟨y, hy⟩ := h x List.mem_cons_self
      obtain ⟨ys, hys⟩ := ih fun x hx => h x (List.mem_cons_of_mem _ hx)
      exact ⟨y :: ys, except_mapM_eq_ok.mpr (.cons hy (except_mapM_eq_ok.mp hys))⟩

/-- What is known of each step of a loop, of a loop that returned. -/
theorem except_mapM_forall₂_iff {ε α β : Type} {f : α → Except ε β} {xs : List α} {ys : List β}
    {r : α → β → Prop} {p : α → Prop} (h : xs.mapM f = .ok ys)
    (hstep : ∀ x ∈ xs, ∀ y, f x = .ok y → (r x y ↔ p x)) :
    List.Forall₂ r xs ys ↔ ∀ x ∈ xs, p x := by
  rw [except_mapM_eq_ok] at h
  induction h with
  | nil => simp
  | cons hy _ ih =>
    rw [List.forall₂_cons, List.forall_mem_cons, hstep _ List.mem_cons_self _ hy,
      ih fun x hx => hstep x (List.mem_cons_of_mem _ hx)]

/-- What a loop returned came of one of its steps. -/
theorem except_mapM_mem {ε α β : Type} {f : α → Except ε β} {xs : List α} {ys : List β} {y : β}
    (h : xs.mapM f = .ok ys) (hy : y ∈ ys) : ∃ x ∈ xs, f x = .ok y := by
  rw [except_mapM_eq_ok] at h
  induction h with
  | nil => cases hy
  | cons hstep _ ih =>
    rcases List.mem_cons.mp hy with rfl | hy
    · exact ⟨_, List.mem_cons_self, hstep⟩
    · obtain ⟨x, hx, hstep'⟩ := ih hy
      exact ⟨x, List.mem_cons_of_mem _ hx, hstep'⟩

/-- What one of its steps returned is in what a loop returned. -/
theorem except_mapM_of_mem {ε α β : Type} {f : α → Except ε β} {xs : List α} {ys : List β} {x : α}
    (h : xs.mapM f = .ok ys) (hx : x ∈ xs) : ∃ y ∈ ys, f x = .ok y := by
  rw [except_mapM_eq_ok] at h
  induction h with
  | nil => cases hx
  | cons hstep _ ih =>
    rcases List.mem_cons.mp hx with rfl | hx
    · exact ⟨_, List.mem_cons_self, hstep⟩
    · obtain ⟨y, hy, hstep'⟩ := ih hx
      exact ⟨y, List.mem_cons_of_mem _ hy, hstep'⟩

/-- A loop raises what the first of its steps raises that does. -/
theorem except_mapM_eq_error {ε α β : Type} {f : α → Except ε β} {xs : List α} {e : ε} :
    xs.mapM f = .error e ↔ ∃ before x after, xs = before ++ x :: after ∧
      (∀ y ∈ before, ∃ b, f y = .ok b) ∧ f x = .error e := by
  induction xs with
  | nil =>
    constructor
    · intro h
      cases h
    · rintro ⟨before, x, after, hnil, -⟩
      simp at hnil
  | cons x xs ih =>
    rw [List.mapM_cons]
    cases hx : f x with
    | error e' =>
      constructor
      · intro h
        cases h
        exact ⟨[], x, xs, rfl, by simp, hx⟩
      · rintro ⟨before, y, after, heq, hbefore, hy⟩
        cases before with
        | nil =>
          cases heq
          rw [hx] at hy
          cases hy
          rfl
        | cons z before =>
          cases heq
          obtain ⟨b, hb⟩ := hbefore _ List.mem_cons_self
          rw [hx] at hb
          cases hb
    | ok b =>
      have hrest : (Except.ok b >>= fun y => do
          let ys ← xs.mapM f
          pure (y :: ys)) = Except.error e ↔ xs.mapM f = .error e := by
        cases xs.mapM f with
        | error e' => exact Iff.rfl
        | ok ys => exact ⟨fun h => (by cases h), fun h => (by cases h)⟩
      rw [hrest, ih]
      constructor
      · rintro ⟨before, y, after, rfl, hbefore, hy⟩
        refine ⟨x :: before, y, after, rfl, ?_, hy⟩
        intro z hz
        rcases List.mem_cons.mp hz with rfl | hz
        · exact ⟨b, hx⟩
        · exact hbefore z hz
      · rintro ⟨before, y, after, heq, hbefore, hy⟩
        cases before with
        | nil =>
          cases heq
          rw [hx] at hy
          cases hy
        | cons z before =>
          cases heq
          exact ⟨before, y, after, rfl, fun z hz => hbefore z (List.mem_cons_of_mem _ hz), hy⟩

/-- A loop that takes one element after the other is a fold over what its steps return. -/
theorem except_loop_eq {ε α γ σ : Type} {f : α → Except ε γ} {step : σ → γ → σ}
    {loop : σ → List α → Except ε σ} (hnil : ∀ s, loop s [] = .ok s)
    (hcons : ∀ s x xs, loop s (x :: xs) = f x >>= fun c => loop (step s c) xs) (s : σ)
    (xs : List α) : loop s xs = (xs.mapM f).map fun cs => cs.foldl step s := by
  induction xs generalizing s with
  | nil => exact hnil s
  | cons x xs ih =>
    rw [hcons, List.mapM_cons]
    cases f x with
    | error e => rfl
    | ok c =>
      change loop (step s c) xs = _
      rw [ih]
      cases xs.mapM f <;> rfl

/-- A loop in a loop is a fold over the pairs. -/
theorem except_loop_product {ε α β γ σ : Type} {f : α × β → Except ε γ} {step : σ → γ → σ}
    (row : α → σ → Except ε σ) {rows : σ → List α → Except ε σ} {bs : List β}
    (hrow : ∀ a s, row a s = ((bs.map (Prod.mk a)).mapM f).map fun cs => cs.foldl step s)
    (hnil : ∀ s, rows s [] = .ok s)
    (hcons : ∀ s a as, rows s (a :: as) = row a s >>= fun s => rows s as) (s : σ) (as : List α) :
    rows s as = ((as ×ˢ bs).mapM f).map fun cs => cs.foldl step s := by
  induction as generalizing s with
  | nil => exact hnil s
  | cons a as ih =>
    rw [hcons, hrow, List.product_cons, List.mapM_append]
    cases (bs.map (Prod.mk a)).mapM f with
    | error e => rfl
    | ok cs =>
      change rows (cs.foldl step s) as = _
      rw [ih]
      cases (as ×ˢ bs).mapM f with
      | error e => rfl
      | ok ds => exact congrArg Except.ok List.foldl_append.symm

/-- What a test that may raise says of an element. -/
def holds {ε : Type} : Except ε Bool → Bool
  | .ok b => b
  | .error _ => false

theorem holds_eq_true {ε : Type} {r : Except ε Bool} : holds r = true ↔ r = .ok true := by
  cases r with
  | error e => exact ⟨fun h => (by cases h), fun h => (by cases h)⟩
  | ok b => exact ⟨fun h => congrArg Except.ok h, fun h => Except.ok.inj h⟩

/-- A selection returns when each of its tests does, with the elements that pass. -/
theorem except_filterM_eq_ok {ε α : Type} {p : α → Except ε Bool} {xs ys : List α} :
    xs.filterM p = .ok ys ↔
      (∀ x ∈ xs, ∃ b, p x = .ok b) ∧ ys = xs.filter fun x => holds (p x) := by
  have haux : ∀ (xs acc zs : List α), xs.filterAuxM p acc = .ok zs ↔
      (∀ x ∈ xs, ∃ b, p x = .ok b) ∧ zs = (xs.filter fun x => holds (p x)).reverse ++ acc := by
    intro xs
    induction xs with
    | nil =>
      intro acc zs
      refine ⟨fun h => ⟨by simp, (Except.ok.inj h).symm⟩, fun ⟨_, h⟩ => ?_⟩
      rw [h]
      rfl
    | cons x xs ih =>
      intro acc zs
      have hstep : (x :: xs).filterAuxM p acc =
          p x >>= fun b => xs.filterAuxM p (cond b (x :: acc) acc) := rfl
      rw [hstep, except_bind_eq_ok, List.forall_mem_cons]
      constructor
      · rintro ⟨b, hb, hrest⟩
        obtain ⟨hall, rfl⟩ := (ih _ _).mp hrest
        refine ⟨⟨⟨b, hb⟩, hall⟩, ?_⟩
        cases b <;> simp [hb, holds]
      · rintro ⟨⟨⟨b, hb⟩, hall⟩, rfl⟩
        refine ⟨b, hb, (ih _ _).mpr ⟨hall, ?_⟩⟩
        cases b <;> simp [hb, holds]
  have hwhole : xs.filterM p = xs.filterAuxM p [] >>= fun zs => pure zs.reverse := rfl
  rw [hwhole, except_bind_eq_ok]
  constructor
  · rintro ⟨zs, hzs, hys⟩
    obtain ⟨hall, rfl⟩ := (haux _ _ _).mp hzs
    cases hys
    exact ⟨hall, by simp⟩
  · rintro ⟨hall, rfl⟩
    exact ⟨_, (haux _ _ _).mpr ⟨hall, rfl⟩, by simp [pure, Except.pure]⟩

theorem except_isOk_iff {ε α : Type} {x : Except ε α} : x.isOk = true ↔ ∃ a, x = .ok a := by
  cases x with
  | error e => exact ⟨fun h => (by cases h), fun ⟨_, h⟩ => (by cases h)⟩
  | ok a => exact ⟨fun _ => ⟨a, rfl⟩, fun _ => rfl⟩

/-- A computation on a state `σ` that returns an `α` or raises an `ε`. -/
def Handler (ε σ α : Type) : Type := σ → Except ε α × σ

namespace Handler

variable {ε σ α β : Type}

/-- Sequencing: a raise skips the rest and keeps the state. -/
def andThen (m : Handler ε σ α) (f : α → Handler ε σ β) : Handler ε σ β := fun s =>
  match m s with
  | (.ok a, s') => f a s'
  | (.error e, s') => (.error e, s')

instance : Monad (Handler ε σ) where
  pure a := fun s => (.ok a, s)
  bind := andThen

/-- The current state. -/
def get : Handler ε σ σ := fun s => (.ok s, s)

/-- Write the state. -/
def modify (f : σ → σ) : Handler ε σ Unit := fun s => (.ok (), f s)

/-- `raise e`. -/
def raise (e : ε) : Handler ε σ α := fun s => (.error e, s)

/-- The outcome of a pure computation that may raise. -/
def ofExcept (r : Except ε α) : Handler ε σ α := fun s => (r, s)

/-- `try: m except e: h e`. -/
def tryCatch (m : Handler ε σ α) (h : ε → Handler ε σ α) : Handler ε σ α := fun s =>
  match m s with
  | (.ok a, s') => (.ok a, s')
  | (.error e, s') => h e s'

/-- A computation on a part of the state. -/
def zoom {τ : Type} (part : σ → τ) (update : σ → τ → σ) (m : Handler ε τ α) : Handler ε σ α :=
  fun s =>
    let (r, t) := m (part s)
    (r, update s t)

/-- `for x in xs: f(x)`. -/
def forEach {γ : Type} (f : γ → Handler ε σ Unit) : List γ → Handler ε σ Unit
  | [] => pure ()
  | x :: xs => do
    f x
    forEach f xs

/-- `[f(x) for x in xs]`. -/
def mapEach {γ : Type} (f : γ → Handler ε σ α) : List γ → Handler ε σ (List α)
  | [] => pure []
  | x :: xs => do
    let a ← f x
    let as ← mapEach f xs
    pure (a :: as)

theorem bind_apply (m : Handler ε σ α) (f : α → Handler ε σ β) (s : σ) :
    (m >>= f) s = match m s with
      | (.ok a, s') => f a s'
      | (.error e, s') => (.error e, s') := rfl

theorem bind_ok {m : Handler ε σ α} {f : α → Handler ε σ β} {s s' : σ} {a : α}
    (h : m s = (.ok a, s')) : (m >>= f) s = f a s' := by
  rw [bind_apply, h]

theorem bind_error {m : Handler ε σ α} {f : α → Handler ε σ β} {s s' : σ} {e : ε}
    (h : m s = (.error e, s')) : (m >>= f) s = (.error e, s') := by
  rw [bind_apply, h]

/-- What returns after another part: that returned, and then the rest did. -/
theorem bind_eq_ok {m : Handler ε σ α} {f : α → Handler ε σ β} {s s' : σ} {b : β} :
    (m >>= f) s = (.ok b, s') ↔ ∃ a t, m s = (.ok a, t) ∧ f a t = (.ok b, s') := by
  rw [bind_apply]
  constructor
  · intro h
    split at h
    · exact ⟨_, _, by assumption, h⟩
    · cases h
  · rintro ⟨a, t, hm, hf⟩
    rw [hm]
    exact hf

theorem bind_assoc {γ : Type} (m : Handler ε σ α) (f : α → Handler ε σ β)
    (g : β → Handler ε σ γ) : (m >>= f) >>= g = m >>= fun a => f a >>= g := by
  funext s
  cases hm : m s with
  | mk r s' =>
    cases r with
    | ok a => rw [bind_ok hm, bind_apply, bind_ok hm, bind_apply]
    | error e => rw [bind_error hm, bind_apply, bind_error hm]

@[simp] theorem get_bind (f : σ → Handler ε σ β) (s : σ) : (get >>= f) s = f s s := rfl

@[simp] theorem modify_bind (g : σ → σ) (f : Unit → Handler ε σ β) (s : σ) :
    (modify g >>= f) s = f () (g s) := rfl

@[simp] theorem ofExcept_ok_bind (a : α) (f : α → Handler ε σ β) (s : σ) :
    ((ofExcept (.ok a) : Handler ε σ α) >>= f) s = f a s := rfl

/-- An `except` that raises again changes neither what is returned nor what is left. -/
theorem reraise_eq_ok {m : Handler ε σ α} {h : ε → Handler ε σ α} {s s' : σ} {a : α}
    (hh : ∀ e, ∃ e', h e = raise e') : tryCatch m h s = (.ok a, s') ↔ m s = (.ok a, s') := by
  unfold tryCatch
  cases m s with
  | mk r t =>
    cases r with
    | ok a' => rfl
    | error e =>
      obtain ⟨e', he⟩ := hh e
      simp [he, raise]

theorem reraise_snd {m : Handler ε σ α} {h : ε → Handler ε σ α} (s : σ)
    (hh : ∀ e, ∃ e', h e = raise e') : (tryCatch m h s).2 = (m s).2 := by
  unfold tryCatch
  cases m s with
  | mk r t =>
    cases r with
    | ok a => rfl
    | error e =>
      obtain ⟨e', he⟩ := hh e
      show (h e t).2 = t
      rw [he]
      rfl

/-! ## Handlers that do not touch the state -/

/-- The handler neither reads nor writes the state. -/
def Stateless (m : Handler ε σ α) : Prop := ∃ r, m = ofExcept r

namespace Stateless

theorem pure {a : α} : Stateless (Pure.pure a : Handler ε σ α) := ⟨.ok a, rfl⟩

theorem raise {e : ε} : Stateless (Handler.raise e : Handler ε σ α) := ⟨.error e, rfl⟩

theorem ofExcept {r : Except ε α} : Stateless (Handler.ofExcept r : Handler ε σ α) := ⟨r, rfl⟩

theorem bind {m : Handler ε σ α} {f : α → Handler ε σ β} (hm : Stateless m)
    (hf : ∀ a, Stateless (f a)) : Stateless (m >>= f) := by
  obtain ⟨r, rfl⟩ := hm
  cases r with
  | error e => exact ⟨.error e, rfl⟩
  | ok a => exact hf a

theorem tryCatch {m : Handler ε σ α} {h : ε → Handler ε σ α} (hm : Stateless m)
    (hh : ∀ e, Stateless (h e)) : Stateless (Handler.tryCatch m h) := by
  obtain ⟨r, rfl⟩ := hm
  cases r with
  | error e => exact hh e
  | ok a => exact ⟨.ok a, rfl⟩

/-- It ends from every state as it ends from one. -/
theorem apply {m : Handler ε σ α} (h : Stateless m) (s t : σ) : m s = ((m t).1, s) := by
  obtain ⟨r, rfl⟩ := h
  rfl

end Stateless

theorem forEach_append {γ : Type} (f : γ → Handler ε σ Unit) (xs ys : List γ) :
    forEach f (xs ++ ys) = forEach f xs >>= fun _ => forEach f ys := by
  induction xs with
  | nil => rfl
  | cons x xs ih =>
    show (f x >>= fun _ => forEach f (xs ++ ys)) = _
    rw [ih, ← bind_assoc]
    rfl

theorem forEach_map {γ δ : Type} (f : γ → Handler ε σ Unit) (g : δ → γ) (xs : List δ) :
    forEach f (xs.map g) = forEach (fun x => f (g x)) xs := by
  induction xs with
  | nil => rfl
  | cons x xs ih =>
    show (f (g x) >>= fun _ => forEach f (xs.map g)) = _
    rw [ih]
    rfl

theorem zoom_apply {τ : Type} (part : σ → τ) (update : σ → τ → σ) (m : Handler ε τ α) (s : σ) :
    zoom part update m s = ((m (part s)).1, update s (m (part s)).2) := rfl

/-- What is done with the result of a computation on a part of the state, when it returns. -/
theorem zoom_bind_pure {τ : Type} (part : σ → τ) (update : σ → τ → σ) (m : Handler ε τ α) (f : α → β) :
    (zoom part update m >>= fun a => pure (f a)) = zoom part update (m >>= fun a => pure (f a)) := by
  funext s
  rw [zoom_apply, bind_apply, bind_apply, zoom_apply]
  cases hrun : m (part s) with
  | mk r t => cases r <;> rfl

/-- A loop on a part of the state changes the part as the loop alone does. -/
theorem forEach_zoom {τ γ : Type} (part : σ → τ) (update : σ → τ → σ)
    (hself : ∀ s, update s (part s) = s) (hpart : ∀ s t, part (update s t) = t)
    (hlast : ∀ s t u, update (update s t) u = update s u) (f : γ → Handler ε τ Unit)
    (xs : List γ) :
    forEach (fun x => zoom part update (f x)) xs = zoom part update (forEach f xs) := by
  induction xs with
  | nil =>
    funext s
    show (Except.ok (), s) = (Except.ok (), update s (part s))
    rw [hself]
  | cons x xs ih =>
    funext s
    show (zoom part update (f x) >>= fun _ => forEach (fun x => zoom part update (f x)) xs) s =
      zoom part update (f x >>= fun _ => forEach f xs) s
    rw [ih, bind_apply, zoom_apply, zoom_apply, bind_apply]
    cases hrun : f x (part s) with
    | mk r t =>
      cases r with
      | error e => rfl
      | ok _ =>
        show zoom part update (forEach f xs) (update s t) =
          ((forEach f xs t).1, update s (forEach f xs t).2)
        rw [zoom_apply, hpart, hlast]

/-! ## Hoare triples -/

/-- From a state with `P`, a normal return of `m` leaves `Q` and a raise leaves `E`. -/
def Triple (P : σ → Prop) (m : Handler ε σ α) (Q : α → σ → Prop) (E : ε → σ → Prop) : Prop :=
  ∀ s, P s → match m s with
    | (.ok a, s') => Q a s'
    | (.error e, s') => E e s'

namespace Triple

variable {P : σ → Prop} {Q : α → σ → Prop} {R : β → σ → Prop} {E E' : ε → σ → Prop}

theorem pure {a : α} (h : ∀ s, P s → Q a s) : Triple P (Pure.pure a : Handler ε σ α) Q E :=
  fun s hs => h s hs

theorem raise {e : ε} (h : ∀ s, P s → E e s) : Triple P (Handler.raise e : Handler ε σ α) Q E :=
  fun s hs => h s hs

theorem modify {f : σ → σ} {Q : Unit → σ → Prop} (h : ∀ s, P s → Q () (f s)) :
    Triple P (Handler.modify f : Handler ε σ Unit) Q E :=
  fun s hs => h s hs

theorem get {Q : σ → σ → Prop} (h : ∀ s, P s → Q s s) :
    Triple P (Handler.get : Handler ε σ σ) Q E :=
  fun s hs => h s hs

theorem ofExcept {r : Except ε α} (hQ : ∀ a s, r = .ok a → P s → Q a s)
    (hE : ∀ e s, r = .error e → P s → E e s) : Triple P (Handler.ofExcept r) Q E := by
  intro s hs
  match hr : r with
  | .ok a => exact hQ a s rfl hs
  | .error e => exact hE e s rfl hs

theorem bind {m : Handler ε σ α} {f : α → Handler ε σ β} (hm : Triple P m Q E)
    (hf : ∀ a, Triple (Q a) (f a) R E) : Triple P (m >>= f) R E := by
  intro s hs
  have hm := hm s hs
  match hr : m s with
  | (.ok a, s') =>
    rw [hr] at hm
    rw [bind_ok hr]
    exact hf a s' hm
  | (.error e, s') =>
    rw [hr] at hm
    rw [bind_error hr]
    exact hm

theorem tryCatch {m : Handler ε σ α} {h : ε → Handler ε σ α} (hm : Triple P m Q E)
    (hh : ∀ e, Triple (E e) (h e) Q E') : Triple P (Handler.tryCatch m h) Q E' := by
  intro s hs
  have hm := hm s hs
  unfold Handler.tryCatch
  match hr : m s with
  | (.ok a, s') => rw [hr] at hm; exact hm
  | (.error e, s') => rw [hr] at hm; exact hh e s' hm

/-- The rule of consequence. -/
theorem conseq {P' : σ → Prop} {Q' : α → σ → Prop} {m : Handler ε σ α} (h : Triple P m Q E)
    (hP : ∀ s, P' s → P s) (hQ : ∀ a s, Q a s → Q' a s) (hE : ∀ e s, E e s → E' e s) :
    Triple P' m Q' E' := by
  intro s hs
  have hm := h s (hP s hs)
  match hr : m s with
  | (.ok a, s') => rw [hr] at hm; exact hQ a s' hm
  | (.error e, s') => rw [hr] at hm; exact hE e s' hm

end Triple

/-- From a state with `I`, a normal return of `m` leaves `I` and a raise leaves `E`. -/
def Ends (I E : σ → Prop) (m : Handler ε σ α) : Prop := Triple I m (fun _ => I) (fun _ => E)

namespace Ends

variable {I E : σ → Prop}

theorem pure {a : α} : Ends I E (Pure.pure a : Handler ε σ α) := Triple.pure fun _ h => h

theorem raise (hE : ∀ s, I s → E s) {e : ε} : Ends I E (Handler.raise e : Handler ε σ α) :=
  Triple.raise hE

theorem get : Ends I E (Handler.get : Handler ε σ σ) := Triple.get fun _ h => h

theorem ofExcept (hE : ∀ s, I s → E s) {r : Except ε α} :
    Ends I E (Handler.ofExcept r : Handler ε σ α) :=
  Triple.ofExcept (fun _ _ _ h => h) fun _ s _ => hE s

theorem modify {f : σ → σ} (h : ∀ s, I s → I (f s)) :
    Ends I E (Handler.modify f : Handler ε σ Unit) := Triple.modify h

theorem bind {m : Handler ε σ α} {f : α → Handler ε σ β} (hm : Ends I E m)
    (hf : ∀ a, Ends I E (f a)) : Ends I E (m >>= f) := Triple.bind hm hf

/-- What does not read the state. -/
theorem of_stateless (hE : ∀ s, I s → E s) {m : Handler ε σ α} (h : Stateless m) : Ends I E m := by
  obtain ⟨r, rfl⟩ := h
  intro s hs
  cases r with
  | error e => exact hE s hs
  | ok a => exact hs

/-- An `except` that raises again. -/
theorem reraise {m : Handler ε σ α} {h : ε → Handler ε σ α} (hm : Ends I E m)
    (hh : ∀ e, ∃ e', h e = Handler.raise e') : Ends I E (Handler.tryCatch m h) := by
  refine Triple.tryCatch hm fun e => ?_
  obtain ⟨e', he⟩ := hh e
  rw [he]
  exact Triple.raise fun _ h => h

/-- What follows an outcome is run on its value alone. -/
theorem ofExcept_bind (hE : ∀ s, I s → E s) {r : Except ε α} {f : α → Handler ε σ β}
    (hf : ∀ a, r = .ok a → Ends I E (f a)) : Ends I E (Handler.ofExcept r >>= f) := by
  cases r with
  | error e => exact raise hE
  | ok a => exact hf a rfl

/-- The same, of an outcome whose error is raised again. -/
theorem reraise_bind (hE : ∀ s, I s → E s) {r : Except ε α} {h : ε → Handler ε σ α}
    {f : α → Handler ε σ β} (hh : ∀ e, ∃ e', h e = Handler.raise e')
    (hf : ∀ a, r = .ok a → Ends I E (f a)) :
    Ends I E (Handler.tryCatch (Handler.ofExcept r) h >>= f) := by
  cases r with
  | error e =>
    obtain ⟨e', he⟩ := hh e
    intro s hs
    have hrun : Handler.tryCatch (Handler.ofExcept (.error e)) h s = (.error e', s) := by
      show h e s = (.error e', s)
      rw [he]
      rfl
    rw [bind_error hrun]
    exact hE s hs
  | ok a => exact hf a rfl

theorem forEach {γ : Type} {f : γ → Handler ε σ Unit} {xs : List γ}
    (h : ∀ x ∈ xs, Ends I E (f x)) : Ends I E (Handler.forEach f xs) := by
  induction xs with
  | nil => exact pure
  | cons x xs ih =>
    refine bind (h x List.mem_cons_self) fun _ => ih ?_
    intro y hy
    exact h y (List.mem_cons_of_mem _ hy)

theorem mapEach {γ : Type} {f : γ → Handler ε σ α} {xs : List γ}
    (h : ∀ x ∈ xs, Ends I E (f x)) : Ends I E (Handler.mapEach f xs) := by
  induction xs with
  | nil => exact pure
  | cons x xs ih =>
    refine bind (h x List.mem_cons_self) fun _ => bind (ih ?_) fun _ => pure
    intro y hy
    exact h y (List.mem_cons_of_mem _ hy)

/-- The state left by a normal return. -/
theorem snd {m : Handler ε σ α} (h : Ends I E m) {s : σ} (hok : (m s).1.isOk = true) (hs : I s) :
    I (m s).2 := by
  have hm := h s hs
  match hr : m s with
  | (.ok a, s') => rw [hr] at hm; exact hm
  | (.error e, s') => rw [hr] at hok; cases hok

end Ends

/-- `m` keeps `I`, however it ends. -/
def Keeps (I : σ → Prop) (m : Handler ε σ α) : Prop := Triple I m (fun _ => I) (fun _ => I)

namespace Keeps

variable {I : σ → Prop}

/-- What never raises keeps what it leaves. -/
theorem of_ends {E : σ → Prop} {m : Handler ε σ α} (h : Ends I E m)
    (hok : ∀ s, (m s).1.isOk = true) : Keeps I m := by
  intro s hs
  have hm := h.snd (hok s) hs
  match hr : m s with
  | (.ok a, s') => rw [hr] at hm; exact hm
  | (.error e, s') => rw [hr] at hm; exact hm

/-- What keeps `I` leaves whatever follows from it where it raises. -/
theorem ends {E : σ → Prop} (hE : ∀ s, I s → E s) {m : Handler ε σ α} (h : Keeps I m) :
    Ends I E m := by
  intro s hs
  have hm := h s hs
  match hr : m s with
  | (.ok a, s') => rw [hr] at hm; exact hm
  | (.error e, s') => rw [hr] at hm; exact hE s' hm

theorem pure {a : α} : Keeps I (Pure.pure a : Handler ε σ α) := Ends.pure

theorem raise {e : ε} : Keeps I (Handler.raise e : Handler ε σ α) := Ends.raise fun _ h => h

theorem get : Keeps I (Handler.get : Handler ε σ σ) := Ends.get

theorem ofExcept {r : Except ε α} : Keeps I (Handler.ofExcept r : Handler ε σ α) :=
  Ends.ofExcept fun _ h => h

theorem ofExcept_bind {r : Except ε α} {f : α → Handler ε σ β}
    (hf : ∀ a, r = .ok a → Keeps I (f a)) : Keeps I (Handler.ofExcept r >>= f) :=
  Ends.ofExcept_bind (fun _ h => h) hf

theorem modify {f : σ → σ} (h : ∀ s, I s → I (f s)) :
    Keeps I (Handler.modify f : Handler ε σ Unit) := Ends.modify h

theorem bind {m : Handler ε σ α} {f : α → Handler ε σ β} (hm : Keeps I m)
    (hf : ∀ a, Keeps I (f a)) : Keeps I (m >>= f) := Ends.bind hm hf

theorem tryCatch {m : Handler ε σ α} {h : ε → Handler ε σ α} (hm : Keeps I m)
    (hh : ∀ e, Keeps I (h e)) : Keeps I (Handler.tryCatch m h) := Triple.tryCatch hm hh

theorem of_snd {m : Handler ε σ α} (h : ∀ s, I s → I (m s).2) : Keeps I m := by
  intro s hs
  have hpost := h s hs
  match hr : m s with
  | (.ok a, s') => rw [hr] at hpost; exact hpost
  | (.error e, s') => rw [hr] at hpost; exact hpost

/-- What keeps an invariant of a part keeps what follows from it. -/
theorem zoom_of {τ : Type} {J : τ → Prop} {part : σ → τ} {update : σ → τ → σ} {m : Handler ε τ α}
    (hm : Keeps J m) (hpart : ∀ s, I s → J (part s)) (hupdate : ∀ s t, I s → J t → I (update s t)) :
    Keeps I (Handler.zoom part update m) := by
  intro s hs
  have hpost := hm (part s) (hpart s hs)
  unfold Handler.zoom
  match hr : m (part s) with
  | (.ok a, t) => rw [hr] at hpost; exact hupdate s t hs hpost
  | (.error e, t) => rw [hr] at hpost; exact hupdate s t hs hpost

theorem zoom {τ : Type} {part : σ → τ} {update : σ → τ → σ} {m : Handler ε τ α}
    (h : ∀ s t, I s → I (update s t)) : Keeps I (Handler.zoom part update m) :=
  zoom_of (J := fun _ => True) (of_snd fun _ _ => trivial) (fun _ _ => trivial)
    fun s t hs _ => h s t hs

theorem forEach {γ : Type} {f : γ → Handler ε σ Unit} {xs : List γ}
    (h : ∀ x ∈ xs, Keeps I (f x)) : Keeps I (Handler.forEach f xs) := Ends.forEach h

/-- Two writes that keep `I` together. -/
theorem modify_modify {f g : σ → σ} {k : Unit → Handler ε σ β} (h : ∀ s, I s → I (g (f s)))
    (hk : Keeps I (k ())) :
    Keeps I (Handler.modify f >>= fun _ => Handler.modify g >>= k) := by
  intro s hs
  exact hk (g (f s)) (h s hs)

/-- The state `m` leaves. -/
theorem snd {m : Handler ε σ α} (h : Keeps I m) {s : σ} (hs : I s) : I (m s).2 := by
  have hm := h s hs
  match hr : m s with
  | (.ok a, s') => rw [hr] at hm; exact hm
  | (.error e, s') => rw [hr] at hm; exact hm

/-- What follows keeps what the first part leaves. -/
theorem bind_snd {m : Handler ε σ α} {f : α → Handler ε σ β} {s : σ} (hm : I (m s).2)
    (hf : ∀ a, Keeps I (f a)) : I ((m >>= f) s).2 := by
  rw [bind_apply]
  split <;> rename_i hrun <;> rw [hrun] at hm
  · exact (hf _).snd hm
  · exact hm

end Keeps

/-! ## Two handlers in step -/

/-- From states in `R`, the two handlers end alike and leave states in `R`. -/
def Agree {τ : Type} (R : σ → τ → Prop) (m : Handler ε σ α) (n : Handler ε τ α) : Prop :=
  ∀ s t, R s t → (m s).1 = (n t).1 ∧ R (m s).2 (n t).2

namespace Agree

variable {τ : Type} {R : σ → τ → Prop}

theorem pure {a : α} : Agree R (Pure.pure a : Handler ε σ α) (Pure.pure a) :=
  fun _ _ h => ⟨rfl, h⟩

theorem raise {e : ε} : Agree R (Handler.raise e : Handler ε σ α) (Handler.raise e) :=
  fun _ _ h => ⟨rfl, h⟩

theorem ofExcept {r : Except ε α} :
    Agree R (Handler.ofExcept r : Handler ε σ α) (Handler.ofExcept r) :=
  fun _ _ h => ⟨rfl, h⟩

theorem modify {f : σ → σ} {g : τ → τ} (h : ∀ s t, R s t → R (f s) (g t)) :
    Agree R (Handler.modify f : Handler ε σ Unit) (Handler.modify g) :=
  fun s t hst => ⟨rfl, h s t hst⟩

theorem bind {m : Handler ε σ α} {n : Handler ε τ α} {f : α → Handler ε σ β}
    {g : α → Handler ε τ β} (hm : Agree R m n) (hf : ∀ a, Agree R (f a) (g a)) :
    Agree R (m >>= f) (n >>= g) := by
  intro s t hst
  obtain ⟨hout, hleft⟩ := hm s t hst
  cases hr : m s with
  | mk r s' =>
    cases hq : n t with
    | mk q t' =>
      rw [hr, hq] at hout hleft
      change r = q at hout
      subst hout
      cases r with
      | ok a =>
        rw [bind_ok hr, bind_ok hq]
        exact hf a s' t' hleft
      | error e =>
        rw [bind_error hr, bind_error hq]
        exact ⟨rfl, hleft⟩

theorem zoom {υ : Type} {part : σ → υ} {update : σ → υ → σ} {part' : τ → υ} {update' : τ → υ → τ}
    {m : Handler ε υ α} (hpart : ∀ s t, R s t → part s = part' t)
    (hupdate : ∀ s t u, R s t → R (update s u) (update' t u)) :
    Agree R (Handler.zoom part update m) (Handler.zoom part' update' m) := by
  intro s t hst
  rw [zoom_apply, zoom_apply, hpart s t hst]
  exact ⟨rfl, hupdate s t _ hst⟩

/-- A handler on a part of the state, and the handler itself. -/
theorem zoom_part {part : σ → τ} {update : σ → τ → σ} (m : Handler ε τ α)
    (hpart : ∀ s t, part (update s t) = t) :
    Agree (fun s t => part s = t) (Handler.zoom part update m) m := by
  rintro s _ rfl
  exact ⟨rfl, hpart _ _⟩

/-- A write that the other handler does not make. -/
theorem modify_left {f : σ → σ} {k : Unit → Handler ε σ β} {n : Handler ε τ β}
    (hf : ∀ s t, R s t → R (f s) t) (hk : Agree R (k ()) n) :
    Agree R (Handler.modify f >>= k) n :=
  fun s t hst => hk (f s) t (hf s t hst)

theorem forEach {γ : Type} {f : γ → Handler ε σ Unit} {g : γ → Handler ε τ Unit}
    (h : ∀ x, Agree R (f x) (g x)) (xs : List γ) :
    Agree R (Handler.forEach f xs) (Handler.forEach g xs) := by
  induction xs with
  | nil => exact pure
  | cons x xs ih => exact bind (h x) fun _ => ih

theorem mapEach {γ : Type} {f : γ → Handler ε σ α} {g : γ → Handler ε τ α}
    (h : ∀ x, Agree R (f x) (g x)) (xs : List γ) :
    Agree R (Handler.mapEach f xs) (Handler.mapEach g xs) := by
  induction xs with
  | nil => exact pure
  | cons x xs ih => exact bind (h x) fun _ => bind ih fun _ => pure

theorem of_stateless {R : σ → σ → Prop} {m : Handler ε σ α} (h : Stateless m) : Agree R m m := by
  intro s t hst
  rw [h.apply s t, h.apply t t]
  exact ⟨rfl, hst⟩

/-- Reading the state, where what is done with it depends on what the two have in common. -/
theorem get_bind {f : σ → Handler ε σ β} {g : τ → Handler ε τ β}
    (h : ∀ s t, R s t → Agree R (f s) (g t)) :
    Agree R (Handler.get >>= f) (Handler.get >>= g) := by
  intro s t hst
  rw [Handler.get_bind, Handler.get_bind]
  exact h s t hst s t hst

/-- Outcomes that differ by a translation, where what is done with them agrees. -/
theorem ofExcept_map {γ δ : Type} {r : Except ε γ} {φ : γ → δ} {f : γ → Handler ε σ β}
    {g : δ → Handler ε τ β} (h : ∀ a, Agree R (f a) (g (φ a))) :
    Agree R (Handler.ofExcept r >>= f) (Handler.ofExcept (r.map φ) >>= g) := by
  intro s t hst
  cases r with
  | ok a => exact h a s t hst
  | error e => exact ⟨rfl, hst⟩

theorem tryCatch {m : Handler ε σ α} {n : Handler ε τ α} {h : ε → Handler ε σ α}
    {k : ε → Handler ε τ α} (hm : Agree R m n) (hh : ∀ e, Agree R (h e) (k e)) :
    Agree R (Handler.tryCatch m h) (Handler.tryCatch n k) := by
  intro s t hst
  obtain ⟨hout, hleft⟩ := hm s t hst
  cases hr : m s with
  | mk r s' =>
    cases hq : n t with
    | mk q t' =>
      rw [hr, hq] at hout hleft
      change r = q at hout
      subst hout
      unfold Handler.tryCatch
      rw [hr, hq]
      cases r with
      | ok a => exact ⟨rfl, hleft⟩
      | error e => exact hh e s' t' hleft

end Agree

end Handler

end NexusC2

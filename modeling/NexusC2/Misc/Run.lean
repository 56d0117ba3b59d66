import Mathlib.Data.List.Basic
import Mathlib.Tactic.Basic

/-!
# Runs of a labelled step relation

A run is the list of its transitions, each with the state before, the label and the state
after. A law of the form "in every run whose steps all meet a condition" is a run of the step
relation restricted to that condition (`Guarded`), and is proved by showing what one such step
preserves: `Run.invariant` for a law about the states reached, `Run.history` for one that also
looks back at the transitions already made.
-/

namespace NexusC2

/-- One step of a system: the state before, what happened, the state after. -/
structure Transition (σ ℓ : Type) where
  pre : σ
  label : ℓ
  post : σ

variable {σ ℓ : Type}

/-- `step` where the condition holds of the state before the step and of its label. -/
def Guarded (cond : σ → ℓ → Prop) (step : σ → ℓ → σ → Prop) : σ → ℓ → σ → Prop :=
  fun s l t => cond s l ∧ step s l t

/-- The runs of `step` from a state, with the transitions they make, oldest first. -/
inductive Run (step : σ → ℓ → σ → Prop) (s : σ) : List (Transition σ ℓ) → σ → Prop where
  | start : Run step s [] s
  | step {tr : List (Transition σ ℓ)} {t u : σ} {l : ℓ} :
      Run step s tr t → step t l u → Run step s (tr ++ [⟨t, l, u⟩]) u

/-- The transitions of a system that is a function of state and label. -/
def trace (next : σ → ℓ → σ) (s : σ) : List ℓ → List (Transition σ ℓ)
  | [] => []
  | l :: ls => ⟨s, l, next s l⟩ :: trace next (next s l) ls

theorem trace_post (next : σ → ℓ → σ) (s : σ) (ls : List ℓ) :
    ∀ x ∈ trace next s ls, x.post = next x.pre x.label := by
  induction ls generalizing s with
  | nil => simp [trace]
  | cons l ls ih =>
    intro x hx
    rcases List.mem_cons.mp hx with rfl | hx
    · rfl
    · exact ih (next s l) x hx

namespace Run

variable {step : σ → ℓ → σ → Prop} {cond : σ → ℓ → Prop} {s t : σ} {tr : List (Transition σ ℓ)}

/-- A law of the transitions made so far and the state reached holds of every run when it holds
at the start and every step preserves it. -/
theorem history {J : List (Transition σ ℓ) → σ → Prop} (h : Run step s tr t) (h0 : J [] s)
    (hstep : ∀ tr t l u, J tr t → step t l u → J (tr ++ [⟨t, l, u⟩]) u) : J tr t := by
  induction h with
  | start => exact h0
  | step _ hs ih => exact hstep _ _ _ _ ih hs

/-- An inductive invariant holds in every state a run reaches. -/
theorem invariant {I : σ → Prop} (h : Run step s tr t) (h0 : I s)
    (hstep : ∀ t l u, I t → step t l u → I u) : I t :=
  h.history (J := fun _ t => I t) h0 fun _ t l u => hstep t l u

/-- Under an inductive invariant, what every step establishes holds of every transition. -/
theorem forall_transitions {I : σ → Prop} {K : Transition σ ℓ → Prop} (h : Run step s tr t)
    (h0 : I s) (hstep : ∀ t l u, I t → step t l u → I u ∧ K ⟨t, l, u⟩) : ∀ x ∈ tr, K x := by
  have hJ : I t ∧ ∀ x ∈ tr, K x := by
    refine h.history (J := fun tr t => I t ∧ ∀ x ∈ tr, K x) ⟨h0, by simp⟩ ?_
    rintro tr t l u ⟨hI, hK⟩ hs
    obtain ⟨hI', hK'⟩ := hstep t l u hI hs
    refine ⟨hI', fun x hx => ?_⟩
    rcases List.mem_append.mp hx with hx | hx
    · exact hK x hx
    · rw [List.mem_singleton.mp hx]
      exact hK'
  exact hJ.2

/-- Under a law of the history, what every step establishes about the transitions before it and
its own one holds wherever a run is cut. -/
theorem forall_split {J : List (Transition σ ℓ) → σ → Prop}
    {K : List (Transition σ ℓ) → Transition σ ℓ → Prop} (h : Run step s tr t) (h0 : J [] s)
    (hstep : ∀ tr t l u, J tr t → step t l u → J (tr ++ [⟨t, l, u⟩]) u ∧ K tr ⟨t, l, u⟩) :
    ∀ before x after, tr = before ++ x :: after → K before x := by
  have hJ : J tr t ∧ ∀ before x after, tr = before ++ x :: after → K before x := by
    refine h.history (J := fun tr t => J tr t ∧
      ∀ before x after, tr = before ++ x :: after → K before x) ⟨h0, by simp⟩ ?_
    rintro tr t l u ⟨hJ, hK⟩ hs
    obtain ⟨hJ', hK'⟩ := hstep tr t l u hJ hs
    refine ⟨hJ', fun before x after heq => ?_⟩
    -- the cut is before the last transition or right at it
    rcases List.eq_nil_or_concat after with rfl | ⟨after', y, rfl⟩
    · obtain ⟨rfl, rfl⟩ := List.append_inj' heq rfl |>.imp_right List.singleton_inj.mp
      exact hK'
    · have hcut : tr ++ [⟨t, l, u⟩] = (before ++ x :: after') ++ [y] := by
        rw [heq, List.concat_eq_append, List.append_assoc, List.cons_append]
      exact hK before x after' (List.append_inj' hcut rfl).1
  exact hJ.2

/-- A run whose steps all meet a condition. -/
theorem guard (h : Run step s tr t) (hcond : ∀ x ∈ tr, cond x.pre x.label) :
    Run (Guarded cond step) s tr t := by
  induction h with
  | start => exact .start
  | step _ hs ih =>
    have hinit := ih fun x hx => hcond x (List.mem_append_left _ hx)
    exact .step hinit ⟨hcond _ (List.mem_append_right _ List.mem_cons_self), hs⟩

/-- A run after a first step. -/
theorem cons {u : σ} {l : ℓ} (hs : step s l u) (h : Run step u tr t) :
    Run step s (⟨s, l, u⟩ :: tr) t := by
  induction h with
  | start => exact .step .start hs
  | step _ hs' ih =>
    rw [← List.cons_append]
    exact .step ih hs'

/-- The trace of a function is a run, when each of its transitions is a step. -/
theorem of_trace {next : σ → ℓ → σ} (ls : List ℓ) (s : σ)
    (h : ∀ x ∈ trace next s ls, step x.pre x.label x.post) :
    Run step s (trace next s ls) (ls.foldl next s) := by
  induction ls generalizing s with
  | nil => exact .start
  | cons l ls ih =>
    refine .cons (h _ List.mem_cons_self) ?_
    apply ih
    intro x hx
    exact h x (List.mem_cons_of_mem _ hx)

end Run

end NexusC2

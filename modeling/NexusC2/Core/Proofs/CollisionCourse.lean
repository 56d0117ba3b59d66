import Mathlib.Algebra.QuadraticDiscriminant
import Mathlib.Order.Bounds.Basic
import NexusC2.Core.Proofs.FlatEarth

/-!
# The collision course

`_collision_course_eta_sec` over exact reals. Squaring `|R + Vt t| = Vo t` gives a polynomial in `t`,
of degree one where both go equally fast, and a positive time solves one exactly when it solves the
other. The code takes the least root above its tolerance.
-/

namespace NexusC2

/-! ## Least elements that may be missing -/

/-- The result is the least element, or there is none. -/
def IsLeastOf {α : Type} [LE α] (s : Set α) : Option α → Prop
  | some t => IsLeast s t
  | none => s = ∅

theorem isLeastOf_some_iff {α : Type} [PartialOrder α] {s : Set α} {r : Option α}
    (h : IsLeastOf s r) (t : α) : r = some t ↔ IsLeast s t := by
  cases r with
  | none =>
    have hempty : s = ∅ := h
    constructor
    · intro hnone
      cases hnone
    · intro ht
      rw [hempty] at ht
      exact absurd ht.1 (Set.notMem_empty t)
  | some u =>
    have hleast : IsLeast s u := h
    constructor
    · intro heq
      obtain rfl := Option.some.inj heq
      exact hleast
    · intro ht
      rw [hleast.unique ht]

theorem isLeastOf_none_iff {α : Type} [PartialOrder α] {s : Set α} {r : Option α}
    (h : IsLeastOf s r) : r = none ↔ ∀ t, t ∉ s := by
  cases r with
  | none =>
    have hempty : s = ∅ := h
    exact ⟨fun _ t => hempty ▸ Set.notMem_empty t, fun _ => rfl⟩
  | some u =>
    have hleast : IsLeast s u := h
    exact ⟨fun hnone => (by cases hnone), fun hnone => absurd hleast.1 (hnone u)⟩

/-! ## The equation -/

/-- At time `t` the own platform has gone as far as the contact is away, `|R + Vt t| = Vo t`. -/
def Meets (rangeNorth rangeEast vtNorth vtEast ownSpeed t : ℝ) : Prop :=
  Real.sqrt ((rangeNorth + vtNorth * t) ^ 2 + (rangeEast + vtEast * t) ^ 2) = ownSpeed * t

/-- The meeting times above the tolerance of the code. -/
def meetingTimes (rangeNorth rangeEast vtNorth vtEast ownSpeed : ℝ) : Set ℝ :=
  {t | 1e-9 < t ∧ Meets rangeNorth rangeEast vtNorth vtEast ownSpeed t}

theorem meets_iff {rn re vn ve vo t : ℝ} (hvo : 0 < vo) (ht : 0 < t) :
    Meets rn re vn ve vo t ↔
      (vn * vn + ve * ve - vo * vo) * (t * t) + 2 * (rn * vn + re * ve) * t +
        (rn * rn + re * re) = 0 := by
  have hsq : 0 ≤ (rn + vn * t) ^ 2 + (re + ve * t) ^ 2 := by positivity
  have hright : 0 ≤ vo * t := (mul_pos hvo ht).le
  unfold Meets
  rw [Real.sqrt_eq_iff_mul_self_eq hsq hright]
  constructor
  · intro h
    linear_combination h
  · intro h
    linear_combination h

/-- The meeting times are the roots of the polynomial above the tolerance. -/
theorem mem_meetingTimes {rn re vn ve vo a b c : ℝ} (hvo : 1e-9 < vo)
    (ha : a = vn * vn + ve * ve - vo * vo) (hb : b = 2 * (rn * vn + re * ve))
    (hc : c = rn * rn + re * re) (t : ℝ) :
    t ∈ meetingTimes rn re vn ve vo ↔ 1e-9 < t ∧ a * (t * t) + b * t + c = 0 := by
  have hpos : (0 : ℝ) < 1e-9 := by norm_num
  subst ha hb hc
  constructor
  · rintro ⟨ht, hmeets⟩
    exact ⟨ht, (meets_iff (hpos.trans hvo) (hpos.trans ht)).mp hmeets⟩
  · rintro ⟨ht, hroot⟩
    exact ⟨ht, (meets_iff (hpos.trans hvo) (hpos.trans ht)).mpr hroot⟩

section

variable [RealMath]

/-! ## What the code computes -/

/-- `leastPositive` gives the least of the two values above the tolerance. -/
theorem isLeastOf_leastPositive (x y : ℝ) :
    IsLeastOf {t | 1e-9 < t ∧ (t = x ∨ t = y)} (leastPositive x y) := by
  unfold leastPositive
  rw [RealMath.min_eq]
  by_cases hx : (1e-9 : ℝ) < x <;> by_cases hy : (1e-9 : ℝ) < y
  · rw [RealMath.lt_iff.mpr hx, RealMath.lt_iff.mpr hy]
    refine ⟨⟨lt_min hx hy, min_choice x y⟩, ?_⟩
    rintro t ⟨-, rfl | rfl⟩
    · exact min_le_left _ _
    · exact min_le_right _ _
  · rw [RealMath.lt_iff.mpr hx, RealMath.lt_eq_false.mpr (not_lt.mp hy)]
    refine ⟨⟨hx, Or.inl rfl⟩, ?_⟩
    rintro t ⟨ht, rfl | rfl⟩
    · exact le_refl _
    · exact absurd ht hy
  · rw [RealMath.lt_eq_false.mpr (not_lt.mp hx), RealMath.lt_iff.mpr hy]
    refine ⟨⟨hy, Or.inr rfl⟩, ?_⟩
    rintro t ⟨ht, rfl | rfl⟩
    · exact absurd ht hx
    · exact le_refl _
  · rw [RealMath.lt_eq_false.mpr (not_lt.mp hx), RealMath.lt_eq_false.mpr (not_lt.mp hy)]
    refine Set.eq_empty_of_forall_notMem ?_
    rintro t ⟨ht, rfl | rfl⟩
    · exact hx ht
    · exact hy ht

/-- The code past its first two tests, over the coefficients of the polynomial. -/
theorem collisionCourseEtaSec_eq {rn re vn ve vo a b c : ℝ} (hrange : 1 ≤ c) (hvo : 1e-9 < vo)
    (ha : a = vn * vn + ve * ve - vo * vo) (hb : b = 2 * (rn * vn + re * ve))
    (hc : c = rn * rn + re * re) :
    collisionCourseEtaSec rn re vn ve vo =
      if |a| < 1e-9 then
        if |b| < 1e-9 then .ok none
        else (do
          let t ← pyDiv (-c) b
          .ok (if 1e-9 < t then some t else none))
      else if discrim a b c < 0 then .ok none
      else (do
        let t ← pyDiv (-b + Real.sqrt (discrim a b c)) (2 * a)
        let t' ← pyDiv (-b - Real.sqrt (discrim a b c)) (2 * a)
        .ok (leastPositive t t')) := by
  have hnear : PyFloatOps.lt c (1.0 : ℝ) = false := by
    rw [RealMath.lt_eq_false, RealMath.decimals.2.1]
    exact hrange
  have hmoves : PyFloatOps.le vo (1e-9 : ℝ) = false := RealMath.le_eq_false.mpr hvo
  have hdot : (2.0 : ℝ) * (rn * vn + re * ve) = b := by rw [RealMath.decimals.2.2.1, hb]
  have hdisc : b * b - (4.0 : ℝ) * a * c = discrim a b c := by
    rw [RealMath.decimals.2.2.2, discrim, sq]
  have htwo : (2.0 : ℝ) * a = 2 * a := by rw [RealMath.decimals.2.2.1]
  unfold collisionCourseEtaSec
  simp only [← hc, ← ha, hdot, hnear, hmoves, hdisc, htwo, Bool.false_eq_true, if_false,
    RealMath.lt_iff, RealMath.decimals.1]
  rfl

/-! ## The two agree -/

/-- What is asked of the result: it is the first meeting time. -/
def FirstMeeting (rn re vn ve vo : ℝ) : Prop :=
  ∃ r, collisionCourseEtaSec rn re vn ve vo = .ok r ∧ IsLeastOf (meetingTimes rn re vn ve vo) r

/-- Where both go equally fast, at most one time solves the equation. -/
theorem firstMeeting_linear {rn re vn ve vo b c : ℝ} (hrange : 1 ≤ c) (hvo : 1e-9 < vo)
    (ha : 0 = vn * vn + ve * ve - vo * vo) (hb : b = 2 * (rn * vn + re * ve))
    (hc : c = rn * rn + re * re) (hslow : b = 0 ∨ 1e-9 ≤ |b|) : FirstMeeting rn re vn ve vo := by
  have hmem := mem_meetingTimes hvo ha hb hc
  have hzero : |(0 : ℝ)| < 1e-9 := by norm_num
  have heq := collisionCourseEtaSec_eq hrange hvo ha hb hc
  rw [if_pos hzero] at heq
  rcases hslow with hb0 | hb0
  · have hsmall : |b| < 1e-9 := by rwa [hb0]
    rw [if_pos hsmall] at heq
    refine ⟨none, heq, Set.eq_empty_of_forall_notMem fun t ht => ?_⟩
    have hroot := ((hmem t).mp ht).2
    rw [hb0] at hroot
    linarith
  · have hb1 : b ≠ 0 := by
      rintro rfl
      exact absurd hb0 (not_le.mpr hzero)
    rw [if_neg (not_lt.mpr hb0), pyDiv_real hb1] at heq
    refine ⟨_, heq, ?_⟩
    -- the one root is `-c / b`
    have hroot : ∀ t, 0 * (t * t) + b * t + c = 0 ↔ t = -c / b := by
      intro t
      rw [eq_div_iff hb1]
      constructor
      · intro h
        linear_combination h
      · intro h
        linear_combination h
    by_cases hpos : 1e-9 < -c / b
    · rw [if_pos hpos]
      refine ⟨(hmem _).mpr ⟨hpos, (hroot _).mpr rfl⟩, fun t ht => ?_⟩
      exact ((hroot t).mp ((hmem t).mp ht).2).ge
    · rw [if_neg hpos]
      refine Set.eq_empty_of_forall_notMem fun t ht => hpos ?_
      rw [← (hroot t).mp ((hmem t).mp ht).2]
      exact ((hmem t).mp ht).1

theorem firstMeeting_quadratic {rn re vn ve vo a b c : ℝ} (hrange : 1 ≤ c) (hvo : 1e-9 < vo)
    (ha : a = vn * vn + ve * ve - vo * vo) (hb : b = 2 * (rn * vn + re * ve))
    (hc : c = rn * rn + re * re) (hfast : 1e-9 ≤ |a|) : FirstMeeting rn re vn ve vo := by
  have hmem := mem_meetingTimes hvo ha hb hc
  have ha0 : a ≠ 0 := by
    rintro rfl
    norm_num at hfast
  have heq := collisionCourseEtaSec_eq hrange hvo ha hb hc
  rw [if_neg (not_lt.mpr hfast)] at heq
  by_cases hdisc : discrim a b c < 0
  · rw [if_pos hdisc] at heq
    refine ⟨none, heq, Set.eq_empty_of_forall_notMem fun t ht => ?_⟩
    refine quadratic_ne_zero_of_discrim_ne_sq (fun s hs => ?_) t ((hmem t).mp ht).2
    rw [hs] at hdisc
    exact absurd hdisc (not_lt.mpr (sq_nonneg s))
  · rw [if_neg hdisc, pyDiv_real (mul_ne_zero two_ne_zero ha0),
      pyDiv_real (mul_ne_zero two_ne_zero ha0)] at heq
    refine ⟨_, heq, ?_⟩
    have hroots := quadratic_eq_zero_iff ha0 (Real.mul_self_sqrt (not_lt.mp hdisc)).symm
    have hset : meetingTimes rn re vn ve vo =
        {t | 1e-9 < t ∧ (t = (-b + Real.sqrt (discrim a b c)) / (2 * a) ∨
          t = (-b - Real.sqrt (discrim a b c)) / (2 * a))} := by
      ext t
      rw [hmem, hroots]
      rfl
    rw [hset]
    exact isLeastOf_leastPositive _ _

/-- The result is the least time above the tolerance at which the own platform meets the contact,
and it is missing exactly when there is none. -/
theorem collision_course_solved {rn re vn ve vo : ℝ} (hrange : 1 ≤ rn * rn + re * re)
    (hvo : 1e-9 < vo)
    (ha : vn * vn + ve * ve - vo * vo = 0 ∨ 1e-9 ≤ |vn * vn + ve * ve - vo * vo|)
    (hb : vn * vn + ve * ve - vo * vo = 0 →
      rn * vn + re * ve = 0 ∨ 1e-9 ≤ |2 * (rn * vn + re * ve)|) :
    ∃ r, collisionCourseEtaSec rn re vn ve vo = .ok r ∧
      (∀ t, r = some t ↔ IsLeast {t | 1e-9 < t ∧ Meets rn re vn ve vo t} t) ∧
      (r = none ↔ ∀ t, 1e-9 < t → ¬ Meets rn re vn ve vo t) := by
  have hfirst : FirstMeeting rn re vn ve vo := by
    by_cases hzero : vn * vn + ve * ve - vo * vo = 0
    · refine firstMeeting_linear hrange hvo hzero.symm rfl rfl ((hb hzero).imp_left fun h => ?_)
      rw [h, mul_zero]
    · exact firstMeeting_quadratic hrange hvo rfl rfl rfl (ha.resolve_left hzero)
  obtain ⟨r, heq, hleast⟩ := hfirst
  refine ⟨r, heq, isLeastOf_some_iff hleast, ?_⟩
  rw [isLeastOf_none_iff hleast]
  exact ⟨fun h t ht hmeets => h t ⟨ht, hmeets⟩, fun h t ht => h t ht.1 ht.2⟩

end

/-- A contact a kilometre to the north that goes east. -/
theorem collision_course_solved_eastbound :
    letI := analysis
    ∃ r, collisionCourseEtaSec (1000 : ℝ) 0 0 5 15 = .ok r ∧
      (∀ t, r = some t ↔ IsLeast {t | 1e-9 < t ∧ Meets 1000 0 0 5 15 t} t) ∧
      (r = none ↔ ∀ t, 1e-9 < t → ¬ Meets 1000 0 0 5 15 t) := by
  let := analysis
  refine collision_course_solved (by norm_num) (by norm_num) (Or.inr ?_) fun h => ?_
  · norm_num
  · norm_num at h

end NexusC2

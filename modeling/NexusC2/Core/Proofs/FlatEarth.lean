import NexusC2.Core.Kinematics
import NexusC2.Misc.RealMath

/-!
# Metres around a point

`displace_m` and `enu_offset_m` over exact reals. A move is measured back as it was made, except
that so near to a pole that a degree of longitude is less than a micrometre its eastern part comes
out too short.
-/

namespace NexusC2

section

variable [RealMath]

open PyFloatOps RealMath

theorem pyDiv_real {a b : ℝ} (h : b ≠ 0) : pyDiv a b = .ok (a / b) := by
  have hzero : ¬ PyFloatOps.eq b (0.0 : ℝ) = true := by
    rw [RealMath.eq_iff, RealMath.decimals.1]
    exact h
  exact if_neg hzero

/-- Cosine and sine of an angle in degrees. -/
noncomputable def cosDeg (x : ℝ) : ℝ := RealMath.cos (radians x)

noncomputable def sinDeg (x : ℝ) : ℝ := RealMath.sin (radians x)

theorem cosDeg_sq_add_sinDeg_sq (x : ℝ) : cosDeg x ^ 2 + sinDeg x ^ 2 = 1 :=
  RealMath.cos_sq_add_sin_sq _

/-- `M_PER_DEG_LAT`. -/
noncomputable def latMetres : ℝ := 111320

omit [RealMath] in
theorem latMetres_pos : 0 < latMetres := by
  unfold latMetres
  norm_num

omit [RealMath] in
theorem latMetres_eq : (111320.0 : ℝ) = latMetres := by
  unfold latMetres
  norm_num

/-- `m_per_deg_lon`: metres for each degree of longitude. -/
noncomputable def lonMetres (latitude : ℝ) : ℝ := latMetres * cosDeg latitude

/-- What `displace_m` divides by. -/
noncomputable def lonDivisor (latitude : ℝ) : ℝ := Max.max (lonMetres latitude) 1e-6

/-- How much of a move to the east is measured back. -/
noncomputable def eastScale (latitude : ℝ) : ℝ := lonMetres latitude / lonDivisor latitude

theorem lonDivisor_pos (latitude : ℝ) : 0 < lonDivisor latitude :=
  lt_of_lt_of_le (by norm_num) (le_max_right _ _)

theorem eastScale_le_one (latitude : ℝ) : eastScale latitude ≤ 1 :=
  (div_le_one (lonDivisor_pos latitude)).mpr (le_max_left _ _)

theorem eastScale_nonneg {latitude : ℝ} (h : 0 < cosDeg latitude) : 0 ≤ eastScale latitude :=
  div_nonneg (mul_pos latMetres_pos h).le (lonDivisor_pos latitude).le

/-- Away from the poles it is all of it. -/
theorem eastScale_eq_one {latitude : ℝ} (h : 1e-6 ≤ lonMetres latitude) :
    eastScale latitude = 1 := by
  have hdivisor : lonDivisor latitude = lonMetres latitude := max_eq_left h
  have hpos := lonDivisor_pos latitude
  rw [hdivisor] at hpos
  rw [eastScale, hdivisor, div_self hpos.ne']

theorem displaceM_real (latitude longitude heading distance : ℝ) :
    displaceM latitude longitude heading distance =
      .ok (latitude + distance * cosDeg heading / latMetres,
        longitude + distance * sinDeg heading / lonDivisor latitude) := by
  have hnorth : pyDiv (distance * cosDeg heading) (111320.0 : ℝ) =
      .ok (distance * cosDeg heading / latMetres) := by
    rw [latMetres_eq, pyDiv_real latMetres_pos.ne']
  have heast : pyDiv (distance * sinDeg heading)
      (PyFloatOps.max ((111320.0 : ℝ) * cosDeg latitude) (1e-6 : ℝ)) =
        .ok (distance * sinDeg heading / lonDivisor latitude) := by
    rw [RealMath.max_eq, latMetres_eq]
    exact pyDiv_real (lonDivisor_pos latitude).ne'
  calc displaceM latitude longitude heading distance
      = (do
          let north ← pyDiv (distance * cosDeg heading) (111320.0 : ℝ)
          let east ← pyDiv (distance * sinDeg heading)
            (PyFloatOps.max ((111320.0 : ℝ) * cosDeg latitude) (1e-6 : ℝ))
          .ok (latitude + north, longitude + east)) := rfl
    _ = _ := by
      rw [hnorth, heast]
      rfl

theorem enuOffsetM_real (lat₀ lon₀ lat₁ lon₁ : ℝ) :
    enuOffsetM lat₀ lon₀ lat₁ lon₁ =
      .ok ((lat₁ - lat₀) * latMetres, (lon₁ - lon₀) * lonMetres lat₀) := by
  calc enuOffsetM lat₀ lon₀ lat₁ lon₁
      = .ok ((lat₁ - lat₀) * (111320.0 : ℝ), (lon₁ - lon₀) * ((111320.0 : ℝ) * cosDeg lat₀)) := rfl
    _ = _ := by rw [latMetres_eq, lonMetres]

/-- A move in metres as it is measured back, on a parallel that is as long as the one it started
from. -/
theorem measured_back {lat₀ lat₁ : ℝ} (h : cosDeg lat₁ = cosDeg lat₀) (north east : ℝ) :
    (north / latMetres * latMetres = north) ∧
      east / lonDivisor lat₀ * lonMetres lat₁ = east * eastScale lat₀ := by
  refine ⟨div_mul_cancel₀ north latMetres_pos.ne', ?_⟩
  rw [eastScale, lonMetres, lonMetres, h]
  ring

end

end NexusC2

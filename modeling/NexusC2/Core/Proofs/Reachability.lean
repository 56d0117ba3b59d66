import NexusC2.Core.Proofs.FlatEarth

/-!
# What the reachability envelope covers

The dead reckoning of a contact without a reported speed, over exact reals. The envelope is centred
on the point reached at 12 kt and reaches as far ahead and back as half the band from 4 to 18 kt plus
the navigation error. The middle of the band is 11 kt, so a slow contact falls out of it in time.
-/

namespace NexusC2

section

variable [RealMath]

open PyFloatOps RealMath

theorem bandSpeeds : (defaultVMinMps : ℝ) = 4 * 0.514444 ∧ (defaultVMaxMps : ℝ) = 18 * 0.514444 ∧
    (defaultVEstMps : ℝ) = 12 * 0.514444 := by
  refine ⟨?_, ?_, ?_⟩
  · change (4.0 : ℝ) * (0.514444 : ℝ) = 4 * 0.514444
    norm_num
  · change (18.0 : ℝ) * (0.514444 : ℝ) = 18 * 0.514444
    norm_num
  · change (12.0 : ℝ) * (0.514444 : ℝ) = 12 * 0.514444
    norm_num

/-- The half-length of the envelope along the heading, `R(dt)`. -/
noncomputable def alongReach (dt : ℝ) : ℝ := |dt| * (7 * 0.514444) + 250

/-- Its half-width across. -/
noncomputable def crossReach (traveled : ℝ) : ℝ :=
  Max.max (250 + |traveled| * (sinDeg 20 / cosDeg 20)) 1

theorem uncertaintyRadiusM_real (dt : ℝ) : uncertaintyRadiusM dt = .ok (alongReach dt) := by
  obtain ⟨hmin, hmax, -⟩ := bandSpeeds
  have hspread : pyDiv (|dt| * (defaultVMaxMps - defaultVMinMps)) (2.0 : ℝ) =
      .ok (|dt| * (7 * 0.514444)) := by
    rw [RealMath.decimals.2.2.1, pyDiv_real two_ne_zero, hmin, hmax]
    congr 1
    ring
  have hsigma : (defaultSigmaNavM : ℝ) = 250 := by
    change (250.0 : ℝ) = 250
    norm_num
  calc uncertaintyRadiusM dt
      = (do
          let spread ← pyDiv (|dt| * (defaultVMaxMps - defaultVMinMps)) (2.0 : ℝ)
          .ok (spread + defaultSigmaNavM)) := rfl
    _ = _ := by
      rw [hspread, hsigma]
      rfl

/-- The contact dead-reckoned along a known heading. -/
noncomputable def reckoned (latitude longitude heading speed dt : ℝ) : ProjectedContact ℝ :=
  { latitude := latitude + speed * dt * cosDeg heading / latMetres
    longitude := longitude + speed * dt * sinDeg heading / lonDivisor latitude
    originLatitude := latitude
    originLongitude := longitude
    headingDeg := some heading
    speedMps := speed
    dtSec := dt
    radiusM := alongReach dt
    alongM := Max.max (alongReach dt) 1
    crossM := crossReach (speed * dt) }

theorem projectDeadReckoning_real (latitude longitude heading speed dt : ℝ) :
    projectDeadReckoning latitude longitude (some heading) speed dt =
      .ok (reckoned latitude longitude heading speed dt) := by
  have hcross : PyFloatOps.max ((defaultSigmaNavM : ℝ) + |speed * dt| *
      (RealMath.sin (radians (defaultHeadingSigmaDeg : ℝ)) /
        RealMath.cos (radians (defaultHeadingSigmaDeg : ℝ)))) (1.0 : ℝ) =
          crossReach (speed * dt) := by
    have hangle : (defaultHeadingSigmaDeg : ℝ) = 20 := by
      change (20.0 : ℝ) = 20
      norm_num
    have hsigma : (defaultSigmaNavM : ℝ) = 250 := by
      change (250.0 : ℝ) = 250
      norm_num
    rw [RealMath.max_eq, hangle, hsigma, RealMath.decimals.2.1]
    rfl
  have halong : PyFloatOps.max (alongReach dt) (1.0 : ℝ) = Max.max (alongReach dt) 1 := by
    rw [RealMath.max_eq, RealMath.decimals.2.1]
  unfold projectDeadReckoning
  simp only [displaceM_real, uncertaintyRadiusM_real]
  unfold reckoned
  rw [← hcross, ← halong]
  rfl

/-- A point in the envelope of a contact without a heading. -/
theorem inReachabilityEnvelope_disc {p : ProjectedContact ℝ} (hp : p.headingDeg = none)
    (latitude longitude : ℝ) : inReachabilityEnvelope p latitude longitude = .ok true ↔
      Real.sqrt (((latitude - p.latitude) * latMetres) ^ 2 +
        ((longitude - p.longitude) * lonMetres p.latitude) ^ 2) ≤ p.radiusM := by
  unfold inReachabilityEnvelope
  rw [enuOffsetM_real, hp]
  change Except.ok (le (Real.sqrt (((latitude - p.latitude) * latMetres) ^ 2 +
    ((longitude - p.longitude) * lonMetres p.latitude) ^ 2)) p.radiusM) = Except.ok true ↔ _
  rw [Except.ok.injEq, RealMath.le_iff]

/-- A point in the envelope of a contact with a heading: north and east of the centre, turned into
along and across. -/
theorem inReachabilityEnvelope_ellipse {p : ProjectedContact ℝ} {heading : ℝ}
    (hp : p.headingDeg = some heading) (halong : p.alongM ≠ 0) (hcross : p.crossM ≠ 0)
    (latitude longitude : ℝ) : inReachabilityEnvelope p latitude longitude = .ok true ↔
      (((latitude - p.latitude) * latMetres * cosDeg heading +
          (longitude - p.longitude) * lonMetres p.latitude * sinDeg heading) / p.alongM) ^ 2 +
        ((-((latitude - p.latitude) * latMetres) * sinDeg heading +
          (longitude - p.longitude) * lonMetres p.latitude * cosDeg heading) / p.crossM) ^ 2 ≤ 1 := by
  unfold inReachabilityEnvelope
  rw [enuOffsetM_real, hp]
  change (do
    let along ← pyDiv ((latitude - p.latitude) * latMetres * cosDeg heading +
      (longitude - p.longitude) * lonMetres p.latitude * sinDeg heading) p.alongM
    let a ← pySquare along
    let cross ← pyDiv (-((latitude - p.latitude) * latMetres) * sinDeg heading +
      (longitude - p.longitude) * lonMetres p.latitude * cosDeg heading) p.crossM
    let b ← pySquare cross
    Except.ok (le (a + b) (1.0 : ℝ))) = Except.ok true ↔ _
  have hok : ∀ b : Bool, (Except.ok b : Except Exc Bool) = .ok true ↔ b = true := by simp
  rw [pyDiv_real halong, pyDiv_real hcross, ← RealMath.decimals.2.1, ← RealMath.le_iff]
  exact hok _

/-! ## The moves it covers -/

/-- Wherever the contact has gone at `v` in `dt`, along its heading where that is known, it is in the
envelope. -/
def Covers (latitude longitude : ℝ) (heading : Option ℝ) (dt v : ℝ) : Prop :=
  ∃ p, projectDeadReckoning latitude longitude heading defaultVEstMps dt = .ok p ∧
    ∀ direction, (∀ h, heading = some h → direction = h) →
      ∃ point, displaceM latitude longitude direction (v * dt) = .ok point ∧
        inReachabilityEnvelope p point.1 point.2 = .ok true

/-- How far out in an ellipse of these half-axes a contact is that has gone `gap` metres further than
was assumed. At a pole some of the gap is measured across the heading. -/
noncomputable def ellipseError (latitude heading gap along cross : ℝ) : ℝ :=
  (gap * (cosDeg heading ^ 2 + eastScale latitude * sinDeg heading ^ 2) / along) ^ 2 +
    (gap * ((1 - eastScale latitude) * sinDeg heading * cosDeg heading) / cross) ^ 2

/-- The contact has not fallen behind the envelope. So near to a pole that a degree of longitude is
less than a micrometre, its error has to fit the ellipse as measured. -/
structure KeepsUp (latitude heading dt v : ℝ) : Prop where
  sea : 1e-6 ≤ lonMetres latitude → (5 * 0.514444 - v) * dt ≤ 250
  pole : lonMetres latitude < 1e-6 →
    ellipseError latitude heading ((v - 12 * 0.514444) * dt) (alongReach dt)
      (crossReach (12 * 0.514444 * dt)) ≤ 1

omit [RealMath] in
theorem one_lt_alongReach (dt : ℝ) : 1 < alongReach dt := by
  have hdt := abs_nonneg dt
  unfold alongReach
  nlinarith

theorem crossReach_pos (traveled : ℝ) : 0 < crossReach traveled :=
  lt_of_lt_of_le one_pos (le_max_right _ _)

/-- Without a heading every direction is covered. -/
theorem covers_unknown {latitude longitude dt v : ℝ} (hdt : 0 ≤ dt)
    (hslow : defaultVMinMps ≤ v) (hfast : v ≤ defaultVMaxMps) (hcos : 0 < cosDeg latitude) :
    Covers latitude longitude none dt v := by
  refine ⟨_, rfl, fun direction _ => ⟨_, displaceM_real latitude longitude direction (v * dt), ?_⟩⟩
  rw [inReachabilityEnvelope_disc rfl]
  obtain ⟨hmin, hmax, -⟩ := bandSpeeds
  have hsigma : (defaultSigmaNavM : ℝ) = 250 := by
    change (250.0 : ℝ) = 250
    norm_num
  have hv : 0 ≤ v := by
    rw [hmin] at hslow
    linarith
  have hscale := eastScale_le_one latitude
  have hscale₀ : 0 ≤ eastScale latitude := eastScale_nonneg hcos
  change Real.sqrt (((latitude + v * dt * cosDeg direction / latMetres - latitude) * latMetres) ^ 2 +
    ((longitude + v * dt * sinDeg direction / lonDivisor latitude - longitude) *
      lonMetres latitude) ^ 2) ≤ |dt| * defaultVMaxMps + defaultSigmaNavM
  obtain ⟨hnorth, heast⟩ := measured_back (rfl : cosDeg latitude = cosDeg latitude)
    (v * dt * cosDeg direction) (v * dt * sinDeg direction)
  rw [add_sub_cancel_left, add_sub_cancel_left, hnorth, heast, hsigma, abs_of_nonneg hdt]
  -- the distance that is measured is at most the one that was made
  have hmade : Real.sqrt ((v * dt * cosDeg direction) ^ 2 +
      (v * dt * sinDeg direction * eastScale latitude) ^ 2) ≤ v * dt := by
    refine Real.sqrt_le_iff.mpr ⟨mul_nonneg hv hdt, ?_⟩
    have hunit := cosDeg_sq_add_sinDeg_sq direction
    have hshort : (v * dt * sinDeg direction * eastScale latitude) ^ 2 ≤
        (v * dt * sinDeg direction) ^ 2 := by
      rw [mul_pow _ (eastScale latitude)]
      exact mul_le_of_le_one_right (sq_nonneg _) (pow_le_one₀ hscale₀ hscale)
    calc (v * dt * cosDeg direction) ^ 2 + (v * dt * sinDeg direction * eastScale latitude) ^ 2
        ≤ (v * dt * cosDeg direction) ^ 2 + (v * dt * sinDeg direction) ^ 2 := by gcongr
      _ = (v * dt) ^ 2 * (cosDeg direction ^ 2 + sinDeg direction ^ 2) := by ring
      _ = (v * dt) ^ 2 := by rw [hunit, mul_one]
  have hreach : v * dt ≤ dt * defaultVMaxMps := by
    rw [mul_comm]
    exact mul_le_mul_of_nonneg_left hfast hdt
  linarith

/-- Where a contact is in the envelope that was centred for another speed. -/
theorem inReachabilityEnvelope_reckoned {latitude longitude heading speed dt v : ℝ}
    (hmove : cosDeg (reckoned latitude longitude heading speed dt).latitude = cosDeg latitude) :
    (∃ point, displaceM latitude longitude heading (v * dt) = .ok point ∧
      inReachabilityEnvelope (reckoned latitude longitude heading speed dt) point.1 point.2 =
        .ok true) ↔
      ellipseError latitude heading ((v - speed) * dt) (alongReach dt) (crossReach (speed * dt)) ≤
        1 := by
  have hlong : (reckoned latitude longitude heading speed dt).alongM = alongReach dt :=
    max_eq_left (one_lt_alongReach dt).le
  have hwide : (reckoned latitude longitude heading speed dt).crossM = crossReach (speed * dt) := rfl
  have halong : alongReach dt ≠ 0 := (one_pos.trans (one_lt_alongReach dt)).ne'
  have hcross := (crossReach_pos (speed * dt)).ne'
  obtain ⟨hnorth, heast⟩ := measured_back hmove
    ((v - speed) * dt * cosDeg heading) ((v - speed) * dt * sinDeg heading)
  -- north and east of the centre, in metres
  have hn : (latitude + v * dt * cosDeg heading / latMetres -
      (reckoned latitude longitude heading speed dt).latitude) * latMetres =
        (v - speed) * dt * cosDeg heading := by
    rw [← hnorth]
    change (latitude + v * dt * cosDeg heading / latMetres -
      (latitude + speed * dt * cosDeg heading / latMetres)) * latMetres = _
    ring
  have he : (longitude + v * dt * sinDeg heading / lonDivisor latitude -
      (reckoned latitude longitude heading speed dt).longitude) *
        lonMetres (reckoned latitude longitude heading speed dt).latitude =
          (v - speed) * dt * sinDeg heading * eastScale latitude := by
    rw [← heast]
    change (longitude + v * dt * sinDeg heading / lonDivisor latitude -
      (longitude + speed * dt * sinDeg heading / lonDivisor latitude)) * _ = _
    ring
  have hin := inReachabilityEnvelope_ellipse
    (rfl : (reckoned latitude longitude heading speed dt).headingDeg = some heading)
    (hlong ▸ halong) (hwide ▸ hcross) (latitude + v * dt * cosDeg heading / latMetres)
    (longitude + v * dt * sinDeg heading / lonDivisor latitude)
  have herror : ((((v - speed) * dt * cosDeg heading * cosDeg heading +
        (v - speed) * dt * sinDeg heading * eastScale latitude * sinDeg heading) / alongReach dt) ^ 2 +
      ((-((v - speed) * dt * cosDeg heading) * sinDeg heading +
        (v - speed) * dt * sinDeg heading * eastScale latitude * cosDeg heading) /
          crossReach (speed * dt)) ^ 2) =
      ellipseError latitude heading ((v - speed) * dt) (alongReach dt) (crossReach (speed * dt)) := by
    unfold ellipseError
    ring
  rw [hn, he, hlong, hwide, herror] at hin
  rw [displaceM_real]
  constructor
  · rintro ⟨point, hpoint, hpin⟩
    cases hpoint
    exact hin.mp hpin
  · intro h
    exact ⟨_, rfl, hin.mpr h⟩

/-- Away from the poles only a slow contact is lost. -/
theorem ellipseError_le_one_iff {latitude heading dt v : ℝ} (hdt : 0 ≤ dt)
    (hfast : v ≤ 18 * 0.514444) (hsea : 1e-6 ≤ lonMetres latitude) (cross : ℝ) :
    ellipseError latitude heading ((v - 12 * 0.514444) * dt) (alongReach dt) cross ≤ 1 ↔
      (5 * 0.514444 - v) * dt ≤ 250 := by
  have hpos := one_pos.trans (one_lt_alongReach dt)
  rw [ellipseError, eastScale_eq_one hsea, one_mul, cosDeg_sq_add_sinDeg_sq, mul_one, sub_self,
    zero_mul, zero_mul, mul_zero, zero_div, zero_pow two_ne_zero, add_zero, sq_le_one_iff_abs_le_one,
    abs_div, abs_of_pos hpos, div_le_one hpos, abs_le, alongReach, abs_of_nonneg hdt]
  constructor
  · rintro ⟨hslow, -⟩
    linarith
  · intro hslow
    have hup : v * dt ≤ 18 * 0.514444 * dt := mul_le_mul_of_nonneg_right hfast hdt
    constructor
    · linarith
    · linarith

theorem keepsUp_iff {latitude heading dt v : ℝ} (hdt : 0 ≤ dt) (hfast : v ≤ 18 * 0.514444) :
    KeepsUp latitude heading dt v ↔
      ellipseError latitude heading ((v - 12 * 0.514444) * dt) (alongReach dt)
        (crossReach (12 * 0.514444 * dt)) ≤ 1 := by
  rcases le_or_gt 1e-6 (lonMetres latitude) with hsea | hpole
  · rw [ellipseError_le_one_iff hdt hfast hsea]
    exact ⟨fun h => h.sea hsea, fun h => ⟨fun _ => h, fun hpole => absurd hsea (not_le.mpr hpole)⟩⟩
  · exact ⟨fun h => h.pole hpole, fun h => ⟨fun hsea => absurd hsea (not_le.mpr hpole), fun _ => h⟩⟩

/-- The envelope covers the contact exactly when it keeps up. -/
theorem envelope_covers_iff {latitude longitude dt v : ℝ} {heading : Option ℝ} (hdt : 0 ≤ dt)
    (hslow : defaultVMinMps ≤ v) (hfast : v ≤ defaultVMaxMps) (hcos : 0 < cosDeg latitude)
    (hmove : ∀ p, projectDeadReckoning latitude longitude heading defaultVEstMps dt = .ok p →
      cosDeg p.latitude = cosDeg latitude) :
    Covers latitude longitude heading dt v ↔
      ∀ h, heading = some h → KeepsUp latitude h dt v := by
  obtain ⟨-, hmax, hest⟩ := bandSpeeds
  cases heading with
  | none =>
    exact ⟨fun _ h hh => (by cases hh), fun _ => covers_unknown hdt hslow hfast hcos⟩
  | some h =>
    have hproject := projectDeadReckoning_real latitude longitude h defaultVEstMps dt
    have hin := inReachabilityEnvelope_reckoned (v := v) (hmove _ hproject)
    rw [hest, ← keepsUp_iff hdt (hmax ▸ hfast)] at hin
    unfold Covers
    rw [hest] at hproject ⊢
    constructor
    · rintro ⟨p, hp, hcovers⟩ h' hh
      obtain rfl := Option.some.inj hh
      rw [hproject] at hp
      obtain rfl := Except.ok.inj hp
      exact hin.mp (hcovers h fun _ hd => Option.some.inj hd)
    · intro hkeeps
      refine ⟨_, hproject, fun direction hdirection => ?_⟩
      obtain rfl := hdirection h rfl
      exact hin.mpr (hkeeps _ rfl)

end

/-! ## A slow contact -/

theorem cosDeg_equator :
    letI := analysis
    cosDeg 0 = 1 := by
  let := analysis
  change Real.cos (0 * (Real.pi / 180)) = 1
  rw [zero_mul, Real.cos_zero]

theorem cosDeg_east :
    letI := analysis
    cosDeg 90 = 0 := by
  let := analysis
  change Real.cos (90 * (Real.pi / 180)) = 0
  rw [← Real.cos_pi_div_two]
  congr 1
  ring

/-- Heading east the latitude stays. -/
theorem eastbound_latitude (dt : ℝ) :
    letI := analysis
    ∀ p, projectDeadReckoning (0 : ℝ) 0 (some 90) defaultVEstMps dt = .ok p →
      cosDeg p.latitude = cosDeg 0 := by
  let := analysis
  intro p hp
  rw [projectDeadReckoning_real] at hp
  obtain rfl := Except.ok.inj hp
  change cosDeg (0 + defaultVEstMps * dt * cosDeg 90 / latMetres) = cosDeg 0
  rw [cosDeg_east, mul_zero, zero_div, add_zero]

theorem envelope_covers_iff_eastbound :
    letI := analysis
    Covers 0 0 (some 90) 3600 defaultVMinMps ↔
      ∀ h, some (90 : ℝ) = some h → KeepsUp 0 h 3600 defaultVMinMps := by
  let := analysis
  obtain ⟨hmin, hmax, -⟩ := bandSpeeds
  refine envelope_covers_iff (by norm_num) le_rfl ?_ ?_ (eastbound_latitude 3600)
  · rw [hmin, hmax]
    norm_num
  · rw [cosDeg_equator]
    norm_num

/-- After an hour the envelope has left the slowest contact behind. -/
theorem not_envelope_covers :
    ¬ ∀ (_ : RealMath) (latitude longitude dt v : ℝ) (heading : Option ℝ), 0 ≤ dt → dt ≤ maxDtSec →
      defaultVMinMps ≤ v → v ≤ defaultVMaxMps → 0 < cosDeg latitude →
      (∀ p, projectDeadReckoning latitude longitude heading defaultVEstMps dt = .ok p →
        cosDeg p.latitude = cosDeg latitude) →
      Covers latitude longitude heading dt v := by
  intro hclaim
  let := analysis
  obtain ⟨hmin, hmax, hest⟩ := bandSpeeds
  have hlatency : (3600 : ℝ) ≤ maxDtSec := by
    change (3600 : ℝ) ≤ (4.0 : ℝ) * (3600.0 : ℝ)
    norm_num
  have hfast : (defaultVMinMps : ℝ) ≤ defaultVMaxMps := by
    rw [hmin, hmax]
    norm_num
  have hcos : 0 < cosDeg 0 := by
    rw [cosDeg_equator]
    norm_num
  obtain ⟨p, hp, hcovers⟩ := hclaim analysis 0 0 3600 defaultVMinMps (some 90) (by norm_num) hlatency
    le_rfl hfast hcos (eastbound_latitude 3600)
  rw [projectDeadReckoning_real] at hp
  obtain rfl := Except.ok.inj hp
  have hin := (inReachabilityEnvelope_reckoned (eastbound_latitude 3600 _
    (projectDeadReckoning_real 0 0 90 defaultVEstMps 3600))).mp
      (hcovers 90 fun _ hd => Option.some.inj hd)
  have hsea : 1e-6 ≤ lonMetres 0 := by
    rw [lonMetres, cosDeg_equator, latMetres]
    norm_num
  rw [hest, ellipseError_le_one_iff (by norm_num) (hmax ▸ hfast) hsea, hmin] at hin
  norm_num at hin

end NexusC2

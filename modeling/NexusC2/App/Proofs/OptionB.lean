import Mathlib.Analysis.Real.Pi.Bounds
import NexusC2.App.C2Server
import NexusC2.Core.Proofs.DebrisCone
import NexusC2.Core.Proofs.FlatEarth

/-!
# Where Option B is sent

The target of the guardrail's fallback, over exact reals and in the metric of `enu_offset_m`. It lies
a fixed standoff to the south-west of POI-01, and its rationale has it beyond the CNI buffer, which
is another entry of the POI file.
-/

namespace NexusC2

section

variable [RealMath]

open PyFloatOps RealMath

/-- The target lies outside of the buffer of the POI. -/
def BeyondBuffer (target : ℝ × ℝ) (poi : Poi ℝ) : Prop :=
  ∃ north east, enuOffsetM poi.centerLat poi.centerLon target.1 target.2 = .ok (north, east) ∧
    lt poi.buffer (PyMathOps.hypot north east) = true

/-- `standoff + 100.0` of `_build_option_b_fallback`. -/
noncomputable def standoffM (poi : Poi ℝ) : ℝ := poi.offshoreNofireM.getD 1200 + 100

/-- How far north of `poi` the point at the standoff of `poi01` is. -/
noncomputable def standoffNorth (poi01 poi : Poi ℝ) : ℝ :=
  (poi01.centerLat - poi.centerLat) * latMetres + standoffM poi01 * cosDeg 225

/-- How far east of it. -/
noncomputable def standoffEast (poi01 poi : Poi ℝ) : ℝ :=
  (poi01.centerLon - poi.centerLon) * lonMetres poi.centerLat +
    standoffM poi01 * sinDeg 225 * (lonMetres poi.centerLat / lonDivisor poi01.centerLat)

/-- The standoff is longer than the buffer of POI-01, and the point it leads to is out of the buffer
of every other civilian POI. -/
structure LongStandoff (poi01 : Poi ℝ) (pois : List (Poi ℝ)) : Prop where
  first : poi01.buffer < |standoffM poi01| *
    Real.sqrt (cosDeg 225 ^ 2 + (sinDeg 225 * eastScale poi01.centerLat) ^ 2)
  others : ∀ poi ∈ pois, poi ≠ poi01 → poi.Civilian →
    poi.buffer < Real.sqrt (standoffNorth poi01 poi ^ 2 + standoffEast poi01 poi ^ 2)

theorem offshoreSafeIntercept_real (poi : Poi ℝ) :
    offshoreSafeIntercept poi.centerLat poi.centerLon
      (poi.offshoreNofireM.getD (1200.0 : ℝ) + (100.0 : ℝ)) =
      .ok (poi.centerLat + standoffM poi * cosDeg 225 / latMetres,
        poi.centerLon + standoffM poi * sinDeg 225 / lonDivisor poi.centerLat) := by
  have hstandoff : poi.offshoreNofireM.getD (1200.0 : ℝ) + (100.0 : ℝ) = standoffM poi := by
    unfold standoffM
    norm_num
  have hbearing : (225.0 : ℝ) = 225 := by norm_num
  rw [hstandoff, offshoreSafeIntercept, hbearing, displaceM_real]

/-- The point at the standoff as it is measured from a POI. -/
theorem beyondBuffer_iff (poi01 poi : Poi ℝ) :
    BeyondBuffer (poi01.centerLat + standoffM poi01 * cosDeg 225 / latMetres,
      poi01.centerLon + standoffM poi01 * sinDeg 225 / lonDivisor poi01.centerLat) poi ↔
      poi.buffer < Real.sqrt (standoffNorth poi01 poi ^ 2 + standoffEast poi01 poi ^ 2) := by
  have hnorth : (poi01.centerLat + standoffM poi01 * cosDeg 225 / latMetres - poi.centerLat) *
      latMetres = standoffNorth poi01 poi := by
    unfold standoffNorth
    field_simp [latMetres_pos.ne']
    ring
  have heast : (poi01.centerLon + standoffM poi01 * sinDeg 225 / lonDivisor poi01.centerLat -
      poi.centerLon) * lonMetres poi.centerLat = standoffEast poi01 poi := by
    unfold standoffEast
    ring
  unfold BeyondBuffer
  simp only [enuOffsetM_real, hnorth, heast]
  constructor
  · rintro ⟨north, east, hoffset, hfar⟩
    obtain ⟨rfl, rfl⟩ := Prod.mk.inj (Except.ok.inj hoffset)
    exact lt_iff.mp hfar
  · exact fun hfar => ⟨_, _, rfl, lt_iff.mpr hfar⟩

/-- From POI-01 itself the standoff is measured back. -/
theorem sqrt_standoff_self (poi01 : Poi ℝ) :
    Real.sqrt (standoffNorth poi01 poi01 ^ 2 + standoffEast poi01 poi01 ^ 2) =
      |standoffM poi01| *
        Real.sqrt (cosDeg 225 ^ 2 + (sinDeg 225 * eastScale poi01.centerLat) ^ 2) := by
  rw [← Real.sqrt_sq_eq_abs, ← Real.sqrt_mul (sq_nonneg _)]
  congr 1
  unfold standoffNorth standoffEast eastScale
  ring

/-- Where a degree of longitude is not less than a micrometre it is not shortened. -/
theorem sqrt_bearing_eq_one {latitude : ℝ} (h : 1e-6 ≤ lonMetres latitude) :
    Real.sqrt (cosDeg 225 ^ 2 + (sinDeg 225 * eastScale latitude) ^ 2) = 1 := by
  rw [eastScale_eq_one h, mul_one, cosDeg_sq_add_sinDeg_sq, Real.sqrt_one]

variable {Obs G : Type}

theorem buildOptionBFallback_target {env : Env ℝ Obs G} {pois : List (Poi ℝ)} {poi01 : Poi ℝ}
    (hpois : env.loadPois = .ok pois)
    (hfirst : pois.find? (fun p => p.poiId = some "POI-01") = some poi01)
    (dangerous : CourseOfAction ℝ) (finding : Option (Finding ℝ)) :
    ∃ fallback, buildOptionBFallback env dangerous finding = .ok fallback ∧
      fallback.targetCoordinates =
        (poi01.centerLat + standoffM poi01 * cosDeg 225 / latMetres,
          poi01.centerLon + standoffM poi01 * sinDeg 225 / lonDivisor poi01.centerLat) := by
  unfold buildOptionBFallback
  rw [hpois]
  simp only [bind, Except.bind, hfirst, offshoreSafeIntercept_real]
  exact ⟨_, rfl, rfl⟩

/-- The fallback is built, and it is sent out of the buffers of POI-01 and of every civilian POI. -/
def ClearsCni (env : Env ℝ Obs G) (pois : List (Poi ℝ)) (poi01 : Poi ℝ)
    (dangerous : CourseOfAction ℝ) (finding : Option (Finding ℝ)) : Prop :=
  ∃ fallback, buildOptionBFallback env dangerous finding = .ok fallback ∧
    ∀ poi ∈ pois, (poi = poi01 ∨ poi.Civilian) → BeyondBuffer fallback.targetCoordinates poi

/-- The fallback is sent out of every buffer exactly when the standoff is long enough. -/
theorem clearsCni_iff {env : Env ℝ Obs G} {pois : List (Poi ℝ)} {poi01 : Poi ℝ}
    (hpois : env.loadPois = .ok pois)
    (hfirst : pois.find? (fun p => p.poiId = some "POI-01") = some poi01)
    (dangerous : CourseOfAction ℝ) (finding : Option (Finding ℝ)) :
    ClearsCni env pois poi01 dangerous finding ↔ LongStandoff poi01 pois := by
  obtain ⟨fallback, hfallback, htarget⟩ :=
    buildOptionBFallback_target hpois hfirst dangerous finding
  have hmem : poi01 ∈ pois := List.mem_of_find?_eq_some hfirst
  constructor
  · rintro ⟨fallback', hfallback', hbeyond⟩
    rw [hfallback] at hfallback'
    obtain rfl := Except.ok.inj hfallback'
    rw [htarget] at hbeyond
    refine ⟨?_, fun poi hpoi _ hcivilian => ?_⟩
    · rw [← sqrt_standoff_self]
      exact (beyondBuffer_iff poi01 poi01).mp (hbeyond poi01 hmem (Or.inl rfl))
    · exact (beyondBuffer_iff poi01 poi).mp (hbeyond poi hpoi (Or.inr hcivilian))
  · intro hlong
    refine ⟨fallback, hfallback, fun poi hpoi hguarded => ?_⟩
    rw [htarget, beyondBuffer_iff]
    by_cases heq : poi = poi01
    · rw [heq, sqrt_standoff_self]
      exact hlong.first
    · exact hlong.others poi hpoi heq (hguarded.resolve_left heq)

end

/-! ## The POI file -/

/-- An island with the given buffer and the standoff of the POI file. -/
def jurongIsland (bufferM : ℝ) : Poi ℝ :=
  { poiId := some "POI-01"
    name := some "Jurong Island Petrochem Complex"
    kind := some "civilian_cni"
    centerLat := 1.266
    centerLon := 103.7
    bufferM := some bufferM
    offshoreNofireM := some 1200 }

/-- An environment in which nothing but the POI file can be read. -/
def poisOnly (pois : List (Poi ℝ)) : Env ℝ Unit Unit where
  uuid4 _ := "b"
  utcNow _ := ""
  appendRaises _ _ := none
  getScenario scenarioId := .error (.keyError scenarioId)
  normalizeSensorEvent _ := .ok ()
  interpret _ _ _ _ := .error (.keyError "finding")
  loadPois := .ok pois

/-- A strike on the island. -/
def strike : CourseOfAction ℝ :=
  { coaId := "a"
    tier := .tier1Hitl
    targetEntityId := "T-1"
    targetCoordinates := (1.266, 103.7)
    intent := "TERMINAL_SAM_INTERCEPT"
    timeoutSeconds := 5
    preConditions := []
    postConditions := []
    invariants := []
    confidence := 0
    corroboratingSources := []
    rawInputDigest := ""
    speedKt := none
    metadata := [] }

/-- A degree of longitude is long at the island. -/
theorem lonMetres_jurongIsland :
    letI := analysis
    1e-6 ≤ lonMetres 1.266 := by
  let := analysis
  have hcos : 1 - (1.266 * (Real.pi / 180)) ^ 2 / 2 ≤ cosDeg 1.266 :=
    Real.one_sub_sq_div_two_le_cos
  have hsmall : (1.266 * (Real.pi / 180)) ^ 2 ≤ 1 := by
    have hpi := Real.pi_le_four
    have hpos := Real.pi_pos
    rw [sq_le_one_iff_abs_le_one, abs_of_pos (by positivity)]
    linarith
  unfold lonMetres latMetres
  linarith

/-- A buffer of 1 000 m is cleared. -/
theorem clearsCni_iff_smallBuffer :
    letI := analysis
    ClearsCni (poisOnly [jurongIsland 1000]) [jurongIsland 1000] (jurongIsland 1000) strike none := by
  let := analysis
  have hfirst : [jurongIsland 1000].find? (fun p => p.poiId = some "POI-01") =
      some (jurongIsland 1000) := rfl
  refine (clearsCni_iff rfl hfirst strike none).mpr ⟨?_, fun poi hpoi hne => ?_⟩
  · rw [show (jurongIsland 1000).centerLat = 1.266 from rfl,
      sqrt_bearing_eq_one lonMetres_jurongIsland]
    change (1000 : ℝ) < |1200 + 100| * 1
    norm_num
  · exact absurd (List.mem_singleton.mp hpoi) hne

/-- The buffer of the POI file is 2 500 m. -/
theorem not_clearsCni :
    letI := analysis
    ¬ ∀ (env : Env ℝ Unit Unit) (pois : List (Poi ℝ)) (poi01 : Poi ℝ) (dangerous : CourseOfAction ℝ)
      (finding : Option (Finding ℝ)), env.loadPois = .ok pois →
      pois.find? (fun p => p.poiId = some "POI-01") = some poi01 →
      ClearsCni env pois poi01 dangerous finding := by
  let := analysis
  intro hclaim
  have hfirst : [jurongIsland 2500].find? (fun p => p.poiId = some "POI-01") =
      some (jurongIsland 2500) := rfl
  obtain ⟨fallback, hfallback, hbeyond⟩ :=
    hclaim (poisOnly [jurongIsland 2500]) _ _ strike none rfl hfirst
  obtain ⟨built, hbuilt, htarget⟩ := buildOptionBFallback_target
    (show (poisOnly [jurongIsland 2500]).loadPois = .ok [jurongIsland 2500] from rfl) hfirst strike none
  rw [hfallback] at hbuilt
  obtain rfl := Except.ok.inj hbuilt
  rw [htarget] at hbeyond
  have hlong := (beyondBuffer_iff (jurongIsland 2500) (jurongIsland 2500)).mp
    (hbeyond _ List.mem_cons_self (Or.inl rfl))
  rw [sqrt_standoff_self, show (jurongIsland 2500).centerLat = 1.266 from rfl,
    sqrt_bearing_eq_one lonMetres_jurongIsland] at hlong
  change (2500 : ℝ) < |1200 + 100| * 1 at hlong
  norm_num at hlong

end NexusC2

import NexusC2.App.Agent

/-!
# The SAR and AIS detector

`_detect` of `app/scenarios/s3_lane_spof_break.py`: a SAR contact on a track, away from thin AIS, is a
finding. The contact is dead-reckoned to the clock of the latest radar contact, and every radar
contact is held against the envelope it has there.
-/

namespace NexusC2

/-- Datetimes that are compared. -/
class PyDateTimeOrder (D : Type) extends PyDateTime D where
  /-- `a > b`; `none` is the `TypeError` of a naive and an aware value. -/
  later : D → D → Option Bool

/-- `as_breakdown` (`core/kinematics.py:121-131`). -/
def ProjectedContact.asBreakdown {F : Type} (p : ProjectedContact F) : Fields F :=
  [("dt_sec", .float p.dtSec), ("projected_latitude", .float p.latitude),
    ("projected_longitude", .float p.longitude), ("uncertainty_radius_m", .float p.radiusM),
    ("along_m", .float p.alongM), ("cross_m", .float p.crossM),
    ("heading_deg", Observation.optFloat p.headingDeg), ("speed_mps", .float p.speedMps)]

/-- What the loop over the radar contacts has found: `nearby_radar`, `radar_in_envelope` and
`radar_distance_m`. -/
structure RadarJoin (F D : Type) where
  nearby : List (Observation F D)
  inEnvelope : Bool
  distanceM : F

/-- What is known of the track the detector reports. -/
structure SarPicture (F D : Type) where
  trackId : String
  trackSar : List (Observation F D)
  trackRadar : List (Observation F D)
  ais : List (Observation F D)
  primary : Observation F D
  density : F
  minAisD : F
  projected : ProjectedContact F
  joined : RadarJoin F D
  confidence : F
  vesselEst : Int
  dtMin : F

namespace SarAis

section

variable {F D : Type} [PyTextOps F] [PyDateTimeOrder D]

open PyFloatOps PyTextOps

/-- `min(xs)`: the first of the least. -/
def pyMinimum : List F → Except Exc F
  | [] => .error (.valueError "min() iterable argument is empty")
  | x :: xs => .ok (xs.foldl PyMathOps.min x)

omit [PyDateTimeOrder D] in
/-- `x * len(os)`. -/
def timesLength (x : F) (os : List (Observation F D)) : Except Exc F :=
  match PyFloatOps.ofInt os.length with
  | some n => .ok (x * n)
  | none => .error (.overflowError "int too large to convert to float")

omit [PyTextOps F] [PyDateTimeOrder D] in
/-- The observations of a modality, in order. -/
def ofModality (modality : String) (os : List (Observation F D)) : List (Observation F D) :=
  os.filter fun o => o.modality = modality

/-- The loop of `max` over the clocks of the radar contacts. -/
def latestOf (best : D) : List D → Except Exc D
  | [] => .ok best
  | d :: ds =>
    match PyDateTimeOrder.later d best with
    | none => .error (.typeError "can't compare offset-naive and offset-aware datetimes")
    | some true => latestOf d ds
    | some false => latestOf best ds

omit [PyTextOps F] in
/-- `max((o.observed_at for o in radar), default=primary.observed_at)`. -/
def referenceClock (primary : Observation F D) : List (Observation F D) → Except Exc D
  | [] => .ok primary.observedAt
  | o :: os => latestOf o.observedAt (os.map Observation.observedAt)

omit [PyDateTimeOrder D] in
/-- The loop over the radar contacts (`app/scenarios/s3_lane_spof_break.py:138-151`). -/
def joinRadar (primary : Observation F D) (projected : ProjectedContact F) (j : RadarJoin F D) :
    List (Observation F D) → Except Exc (RadarJoin F D)
  | [] => .ok j
  | o :: os => do
    let cue ← haversineM primary.latitude primary.longitude o.latitude o.longitude
    let inside ← inReachabilityEnvelope projected o.latitude o.longitude
    if !(le cue (1500.0 : F) || inside) then joinRadar primary projected j os
    else
      let j := { j with nearby := j.nearby ++ [o] }
      if inside then do
        let d ← haversineM projected.latitude projected.longitude o.latitude o.longitude
        joinRadar primary projected { j with inEnvelope := true, distanceM := d } os
      else joinRadar primary projected j os

end

/-! ## The finding -/

section

variable {F D : Type} [PyTextOps F]

open PyFloatOps PyTextOps

/-- `envelope_clause`. -/
def envelopeClause (p : SarPicture F D) : String :=
  if p.joined.inEnvelope then
    "Dead-reckoned SAR (Δt=" ++ fmt0 p.dtMin ++ " min, envelope " ++ fmt0 p.projected.radiusM ++
      " m) contains coastal radar (no shared MMSI). "
  else "Macro SAR is a retrospective baseline — coastal radar cues tactical confirmation, not a " ++
    "live satellite stream. "

/-- `picture`. -/
def pictureText (p : SarPicture F D) : String :=
  "AMBER SAR_DARK_CLUSTER_VS_AIS_SILENCE (~" ++ fmt0 (12.0 : F) ++ " min): space-based SAR scene " ++
    "difference flags unannounced dark vessel cluster (est. " ++
    (if p.vesselEst = 0 then "n/a" else String.ofList (intText p.vesselEst)) ++ ") in " ++
    ((Assoc.get p.primary.attributes "area_id").getD (.str "sector")).pyStr ++
    " while open AIS is thin (lane_density_index=" ++ fmt2 p.density ++ ") and ~" ++
    fmt0 p.minAisD ++ " m away. " ++ envelopeClause p

/-- `hypo`. -/
def hypothesisText : String :=
  "If SPACE_SAR_SCENE_DIFF is a false diff product, do not escalate on AIS silence alone. " ++
    "If open AIS is merely delayed, density may recover — but the SAR cell still warrants " ++
    "approach patrol ID."

/-- `breakdown`. -/
def breakdown (p : SarPicture F D) : Fields F :=
  let sources (os : List (Observation F D)) : Json F := Json.strs (os.map Observation.sourceId)
  let radar := if p.joined.nearby.isEmpty then p.trackRadar else p.joined.nearby
  [("space_sar", .obj [("event_type", .str p.primary.entityHint),
      ("vessel_count_est", .int p.vesselEst),
      ("ais_correlation", getOrNone p.primary.attributes "ais_correlation"),
      ("sources", sources p.trackSar)]),
    ("ais", .obj [("lane_density_index", .float p.density), ("sources", sources p.ais)]),
    ("radar", .obj [("contact_count", .int radar.length), ("sources", sources radar)]),
    ("kinematics", .obj (p.projected.asBreakdown ++
      [("radar_in_envelope", .bool p.joined.inEnvelope),
        ("radar_distance_to_projected_m", .float p.joined.distanceM)]))]

/-- The `Finding` that is returned (`app/scenarios/s3_lane_spof_break.py:203-218`). -/
def finding (p : SarPicture F D) : Finding F :=
  { scenarioId := "S3_sar_ais"
    trackId := p.trackId
    threatClass := "lane_sar_ais_dark_cluster"
    warningMinutesEst := 12.0
    mismatchM := p.minAisD
    confidence := p.confidence
    pictureSummary := pictureText p
    adversarialHypothesis := hypothesisText
    spoofSources := p.ais.map Observation.sourceId
    approachSources := ((p.trackSar ++ p.trackRadar ++ p.joined.nearby).map
      Observation.sourceId).foldl appendNew []
    otherSources := []
    message := pictureText p
    amberAlert := some "SAR_DARK_CLUSTER_VS_AIS_SILENCE"
    sourceBreakdown := breakdown p }

end

/-! ## The detector -/

section

variable {F D : Type} [PyTextOps F] [PyDateTimeOrder D]

open PyFloatOps

/-- The rest of the loop over the tracks for one that has a SAR contact away from AIS
(`app/scenarios/s3_lane_spof_break.py:133-161`). -/
def picture (graph : SpatialEntityGraph F D) (ais radar : List (Observation F D)) (density : F)
    (trackId : String) (primary : Observation F D) (minAisD : F) : Except Exc (SarPicture F D) := do
  let obs := observationsForTrack graph trackId
  let tRef ← referenceClock primary radar
  let projected ← projectObservation primary tRef
  let joined ← joinRadar primary projected ⟨[], false, 0.0⟩ radar
  let forSar ← timesLength (0.15 : F) (ofModality "space_sar" obs)
  let forRadar ← timesLength (0.1 : F) joined.nearby
  let vesselEst ← pyInt ((getOrNone primary.attributes "vessel_count_est").orElse (.int 0))
  let dtMin ← pyDiv (PyMathOps.abs projected.dtSec) (60.0 : F)
  .ok
    { trackId := trackId
      trackSar := ofModality "space_sar" obs
      trackRadar := ofModality "radar" obs
      ais := ais
      primary := primary
      density := density
      minAisD := minAisD
      projected := projected
      joined := joined
      confidence := PyMathOps.min (0.92 : F) ((0.55 : F) + forSar + forRadar)
      vesselEst := vesselEst
      dtMin := dtMin }

/-- The loop over the tracks. -/
def detectLoop (graph : SpatialEntityGraph F D) (ais radar : List (Observation F D)) (density : F) :
    List (Track F D) → Except Exc (Option (Finding F))
  | [] => .ok none
  | track :: tracks =>
    match ofModality "space_sar" (observationsForTrack graph track.trackId) with
    | [] => detectLoop graph ais radar density tracks
    | primary :: _ => do
      let distances ← ais.mapM fun a =>
        haversineM primary.latitude primary.longitude a.latitude a.longitude
      let minAisD ← pyMinimum distances
      if lt minAisD (2000.0 : F) then detectLoop graph ais radar density tracks
      else do
        let p ← picture graph ais radar density track.trackId primary minAisD
        .ok (some (finding p))

/-- `_detect` (`app/scenarios/s3_lane_spof_break.py:108-219`). -/
def detect (graph : SpatialEntityGraph F D) : Except Exc (Option (Finding F)) :=
  let sar := ofModality "space_sar" graph.observations
  let ais := ofModality "ais" graph.observations
  let radar := ofModality "radar" graph.observations
  if sar.isEmpty || ais.isEmpty then .ok none
  else do
    let densities ← ais.mapM fun o =>
      pyFloat ((Assoc.get o.attributes "lane_density_index").getD (.float (1.0 : F)))
    let density ← pyMinimum densities
    if lt (0.4 : F) density then .ok none
    else detectLoop graph ais radar density graph.tracks.values

end

end SarAis

end NexusC2

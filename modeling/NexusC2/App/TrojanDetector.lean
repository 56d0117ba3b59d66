import NexusC2.App.Scenarios
import NexusC2.App.SarAisDetector

/-!
# The Trojan mothership detector

`_detect` of `app/scenarios/s1_trojan_mothership.py`: a slow AIS contact and a fast radar contact are
a finding, whatever their distance. It is about the nearest pair, on the track of the radar contact.
-/

namespace NexusC2

/-- The texts of the report. -/
class PyReportOps (F : Type) extends PyTextOps F where
  /-- `f"{x:.1f}"`. -/
  fmt1 : F → String

/-- A slow contact, a fast one and their distance in metres. -/
structure ContactPair (F D : Type) where
  slow : Observation F D
  fast : Observation F D
  distM : F

/-- What is known of the pair the detector reports. -/
structure TrojanPicture (F D : Type) where
  trackId : String
  pair : ContactPair F D
  aisKt : F
  radarKt : F
  ew : List (Observation F D)
  warningMin : F
  mismatchM : F
  etaByPoi : Fields F

namespace Trojan

section

variable {F D : Type}

/-- `str(o.attributes.get(key))`. -/
def attributeText [PyFloatOps F] (o : Observation F D) (key : String) : String :=
  (getOrNone o.attributes key).pyStr

/-- `HAPPY_TUG_MMSI`. -/
def happyTugMmsi : String := "563098710"

variable [PyMathOps F]

open PyFloatOps

/-- `_ais_obs` (`app/scenarios/s1_trojan_mothership.py:35-42`). -/
def aisObs (graph : SpatialEntityGraph F D) : List (Observation F D) :=
  graph.observations.filter fun o => o.modality = "ais" || attributeText o "source" = "NAVY_AIS" ||
    attributeText o "mmsi" = happyTugMmsi

/-- `speed_kt(o) <= AIS_SLOW_MAX_KT`. -/
def slowEnough (o : Observation F D) : Except Exc Bool := do .ok (le (← speedKt o) (15.0 : F))

/-- `speed_kt(o) >= RADAR_FAST_MIN_KT`. -/
def fastEnough (o : Observation F D) : Except Exc Bool := do .ok (le (80.0 : F) (← speedKt o))

/-- The contacts `_fast_radar` looks at the speed of. -/
def radarObs (graph : SpatialEntityGraph F D) : List (Observation F D) :=
  graph.observations.filter fun o => o.modality = "radar" ||
    attributeText o "source" ∈ ["NAVY_COASTAL_RADAR", "AIR_RADAR"]

/-- `_fast_radar` (`app/scenarios/s1_trojan_mothership.py:45-55`). -/
def fastRadar (graph : SpatialEntityGraph F D) : Except Exc (List (Observation F D)) :=
  (radarObs graph).filterM fastEnough

/-- `_story_ew` (`app/scenarios/s1_trojan_mothership.py:58-59`). -/
def storyEw (graph : SpatialEntityGraph F D) : List (Observation F D) :=
  graph.observations.filter fun o => (getOrNone o.attributes "story_lob").truth

/-- A pair that is nearer takes the place of the best one. -/
def nearer (best : Option (ContactPair F D)) (p : ContactPair F D) : ContactPair F D :=
  match best with
  | none => p
  | some best => if lt p.distM best.distM then p else best

/-- The inner loop of `_nearest_pair`. -/
def nearestRow (a : Observation F D) (best : Option (ContactPair F D)) :
    List (Observation F D) → Except Exc (Option (ContactPair F D))
  | [] => .ok best
  | b :: bs => do
    let d ← haversineM a.latitude a.longitude b.latitude b.longitude
    nearestRow a (some (nearer best ⟨a, b, d⟩)) bs

/-- The outer loop of `_nearest_pair`. -/
def nearestRows (fast : List (Observation F D)) (best : Option (ContactPair F D)) :
    List (Observation F D) → Except Exc (Option (ContactPair F D))
  | [] => .ok best
  | a :: as => do
    let best ← nearestRow a best fast
    nearestRows fast best as

/-- `_nearest_pair` (`app/scenarios/s1_trojan_mothership.py:62-71`). -/
def nearestPair (slow fast : List (Observation F D)) : Except Exc (Option (ContactPair F D)) :=
  nearestRows fast none slow

omit [PyMathOps F] in
/-- The key of the first track that holds the observation. -/
def holderOf (graph : SpatialEntityGraph F D) (o : Observation F D) : Option String :=
  (graph.tracks.entries.find? fun p => o.observationId ∈ p.2.observationIds).map Prod.fst

omit [PyMathOps F] in
/-- The track of the radar contact, else that of the AIS contact
(`app/scenarios/s1_trojan_mothership.py:93-103`). -/
def trackOf (graph : SpatialEntityGraph F D) (pair : ContactPair F D) : Option String :=
  (holderOf graph pair.fast).or (holderOf graph pair.slow)

/-- `str(poi["poi_id"])`. -/
def poiKey (poi : Poi F) : Except Exc String :=
  match poi.poiId with
  | some id => .ok id
  | none => .error (.keyError "poi_id")

/-- The loop over the POIs. -/
def etaLoop (radar : Observation F D) (speed : F) (etas : Fields F) :
    List (Poi F) → Except Exc (Fields F)
  | [] => .ok etas
  | poi :: pois => do
    let d ← haversineM radar.latitude radar.longitude poi.centerLat poi.centerLon
    let eta ← pyRound (← pyDiv d speed) 1
    let key ← poiKey poi
    etaLoop radar speed (Assoc.set etas key (.float eta)) pois

/-- The minutes of warning and the ETA at each POI
(`app/scenarios/s1_trojan_mothership.py:120-142`). -/
def etas (radar : Observation F D) (radarKt : F) (pois : List (Poi F)) :
    Except Exc (F × Fields F) :=
  match pois.find? fun p => p.poiId = some "POI-01" with
  | none => .ok ((3.0 : F), [])
  | some poi01 => do
    let range ← haversineM radar.latitude radar.longitude poi01.centerLat poi01.centerLon
    let speed := PyFloatOps.max (radarKt * ktToMps) (1.0 : F)
    let etaS ← pyDiv range speed
    let minutes ← pyDiv etaS (60.0 : F)
    let byPoi ← etaLoop radar speed [] pois
    .ok (minutes, byPoi)

end

/-! ## The finding -/

section

variable {F D : Type} [PyReportOps F]

open PyFloatOps PyTextOps PyReportOps

/-- The lines of bearing of a service. -/
def ofService (service : String) (ew : List (Observation F D)) : List (Observation F D) :=
  ew.filter fun o => attributeText o "service" = service

/-- `triangulated`. -/
def triangulated (ew : List (Observation F D)) : Bool :=
  !(ofService "air_force" ew).isEmpty && !(ofService "army" ew).isEmpty

/-- `os[0].attributes.get("bearing_deg") if os else None`. -/
def firstBearing (os : List (Observation F D)) : Json F :=
  match os with
  | [] => .null
  | o :: _ => getOrNone o.attributes "bearing_deg"

/-- The `Finding` that is returned (`app/scenarios/s1_trojan_mothership.py:144-188`). -/
def finding (p : TrojanPicture F D) : Finding F :=
  let slow := p.pair.slow
  let fast := p.pair.fast
  let vessel := ((Assoc.get slow.attributes "vessel_name").getD (.str "HAPPY TUG 8")).pyStr
  let mmsi : Json F := (Assoc.get slow.attributes "mmsi").getD (.str happyTugMmsi)
  let aisText := fmt1 p.aisKt
  let radarText := fmt1 p.radarKt
  { scenarioId := "S1_trojan"
    trackId := p.trackId
    threatClass := "trojan_mothership_uas"
    warningMinutesEst := p.warningMin
    mismatchM := p.mismatchM
    confidence := 0.91
    pictureSummary := "Navy AIS reports " ++ vessel ++ " (MMSI " ++ mmsi.pyStr ++ ") at " ++ aisText ++
      " kt while coastal radar holds " ++ radarText ++ " kt UAS inbound — kinematic disagreement."
    adversarialHypothesis := "Decoy AIS on mothership; launched UAS toward Jurong CNI. " ++
      (if triangulated p.ew then "Air ESM ∩ Army EW story LOBs corroborate launch sector."
        else "Awaiting dual-LOB corroboration.")
    spoofSources := [slow.sourceId]
    approachSources := [fast.sourceId]
    otherSources := p.ew.map Observation.sourceId
    message := "VELOCITY_MISMATCH: AIS " ++ aisText ++ " kt vs radar " ++ radarText ++ " kt (Δ " ++
      fmt0 p.pair.distM ++ " m)"
    amberAlert := some (if triangulated p.ew
      then "VELOCITY_MISMATCH_AIS_VS_RADAR+TRIANGULATION_MOTHERSHIP"
      else "VELOCITY_MISMATCH_AIS_VS_RADAR")
    sourceBreakdown :=
      [("ais", .obj [("claim", .str (vessel ++ " @ " ++ aisText ++ " kt (routine traffic)")),
          ("mmsi", mmsi), ("source_id", .str slow.sourceId)]),
        ("radar", .obj [("claim", .str ("UAS @ " ++ radarText ++ " kt alt " ++
            ((Assoc.get fast.attributes "altitude_m").getD (.str "?")).pyStr ++ " m")),
          ("track_id", getOrNone fast.attributes "track_id"), ("source_id", .str fast.sourceId)]),
        ("ew", .obj [("air_bearing_deg", firstBearing (ofService "air_force" p.ew)),
          ("army_bearing_deg", firstBearing (ofService "army" p.ew)),
          ("triangulated", .bool (triangulated p.ew))]),
        ("poi_eta_sec", .obj p.etaByPoi)] }

/-! ## The detector -/

/-- What follows once there is a pair (`app/scenarios/s1_trojan_mothership.py:82-188`). -/
def report (graph : SpatialEntityGraph F D) (loadPois : Except Exc (List (Poi F)))
    (pair : ContactPair F D) : Except Exc (Option (Finding F)) := do
  let aisKt ← speedKt pair.slow
  let radarKt ← speedKt pair.fast
  if lt radarKt (80.0 : F) || lt (15.0 : F) aisKt then .ok none
  else
    match trackOf graph pair with
    | none => .ok none
    | some trackId => do
      let pois ← loadPois
      let (minutes, byPoi) ← etas pair.fast radarKt pois
      let warningMin ← pyRound minutes 2
      let mismatchM ← pyRound pair.distM 1
      .ok (some (finding
        { trackId := trackId
          pair := pair
          aisKt := aisKt
          radarKt := radarKt
          ew := storyEw graph
          warningMin := warningMin
          mismatchM := mismatchM
          etaByPoi := byPoi }))

/-- `_detect` (`app/scenarios/s1_trojan_mothership.py:74-188`). -/
def detect (graph : SpatialEntityGraph F D) (loadPois : Except Exc (List (Poi F))) :
    Except Exc (Option (Finding F)) := do
  let ais ← (aisObs graph).filterM slowEnough
  let radar ← fastRadar graph
  if ais.isEmpty || radar.isEmpty then .ok none
  else
    match ← nearestPair ais radar with
    | none => .ok none
    | some pair => report graph loadPois pair

end

end Trojan

end NexusC2

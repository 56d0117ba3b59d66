import NexusC2.Core.Gate
import NexusC2.Core.Ontology

/-!
# SAR detections as observations

`app/adapters/sentinel_imagery.py` makes candidate events of the detections of a `run_cv` payload,
and `app/adapters/sar_candidate_event.py` makes observations of candidate events. An event asks for
the track that is named by its type.
-/

namespace NexusC2

/-- `CandidateEventBoundingBox` (`app/adapters/sar_candidate_event.py:28-32`). -/
structure CandidateEventBoundingBox (F : Type) where
  minLat : F
  maxLat : F
  minLon : F
  maxLon : F

/-- `CandidateEvent` (`app/adapters/sar_candidate_event.py:35-46`). -/
structure CandidateEvent (F D : Type) where
  eventId : String
  timestamp : D
  sourceId : String
  areaId : String
  eventType : String
  confidence : F
  latitude : F
  longitude : F
  boundingBox : Option (CandidateEventBoundingBox F)
  attributes : Fields F

/-- `bounding_box.model_dump()`. -/
def CandidateEventBoundingBox.modelDump {F : Type} (b : CandidateEventBoundingBox F) : Json F :=
  .obj [("min_lat", .float b.minLat), ("max_lat", .float b.maxLat), ("min_lon", .float b.minLon),
    ("max_lon", .float b.maxLon)]

section

variable {F D : Type} [PyFloatOps F] [PyDateTime D]

/-- `candidate_event_to_observation` of an event (`app/adapters/sar_candidate_event.py:66-98`). -/
def candidateEventToObservation [Sha256] (event : CandidateEvent F D) : Observation F D :=
  let attrs := Assoc.update [("area_id", .str event.areaId), ("event_type", .str event.eventType),
    ("ingress", .str "candidate_event"), ("schema_version", .str "1.3.0")] event.attributes
  let attrs := match event.boundingBox with
    | some box => Assoc.set attrs "bounding_box" box.modelDump
    | none => attrs
  Observation.ensureDigest
    { observationId := event.eventId
      sourceId := event.sourceId
      entityHint := event.eventType
      latitude := event.latitude
      longitude := event.longitude
      altitudeM := none
      speedMps := 0.0
      headingDeg := none
      confidence := event.confidence
      observedAt := PyDateTime.withUtc event.timestamp
      modality := "space_sar"
      attributes := attrs
      rawDigest := "" }

/-! ## Detections -/

/-- `_parse_timestamp` (`app/adapters/sentinel_imagery.py:63-72`), at a time `now`. -/
def parseTimestamp (now : D) (raw : Json F) : Except Exc D :=
  match raw with
  | .str s =>
    if Text.strip s = "" then .ok now
    else
      match PyDateTime.fromIsoformat (s.replace "Z" "+00:00") with
      | some d => .ok (PyDateTime.withUtc d)
      | none => .error (.valueError ("Invalid isoformat string: " ++
          String.ofList (Json.reprStr (s.replace "Z" "+00:00"))))
  | _ => .ok now

/-- `_lat_lng` (`app/adapters/sentinel_imagery.py:75-80`). -/
def latLng (det : Fields F) : Except Exc (F × F) :=
  match Assoc.get det "lat", Assoc.get det "lng", Assoc.get det "latitude",
      Assoc.get det "longitude" with
  | some lat, some lng, _, _ => do .ok (← pyFloat lat, ← pyFloat lng)
  | _, _, some lat, some lng => do .ok (← pyFloat lat, ← pyFloat lng)
  | _, _, _, _ => .error (.valueError "detection requires lat/lng (or latitude/longitude)")

/-- `str(det.get("correlation_status") or "").strip().lower()`. -/
def correlationStatus (det : Fields F) : String :=
  Text.lower (Text.strip ((getOrNone det "correlation_status").orElse (.str "")).pyStr)

/-- The keys of a measure of the vessel, where it is there. -/
def measure (det : Fields F) (key : String) (names : List String) (attrs : Fields F) :
    Except Exc (Fields F) :=
  match getOrNone det key with
  | .null => .ok attrs
  | v => do
    let x ← pyFloat v
    .ok (names.foldl (fun attrs name => Assoc.set attrs name (.float x)) attrs)

/-- The box of `geo_bbox`, where it is an object (`app/adapters/sentinel_imagery.py:124-133`). -/
def geoBbox (det : Fields F) : Except Exc (Option (CandidateEventBoundingBox F)) :=
  match getOrNone det "geo_bbox" with
  | .obj geo => do
    .ok (some
      { minLat := ← pyFloat (← item geo "min_lat")
        maxLat := ← pyFloat (← item geo "max_lat")
        minLon := ← pyFloat (← item geo "min_lon")
        maxLon := ← pyFloat (← item geo "max_lon") })
  | _ => .ok none

/-- `sentinel_detection_to_candidate_event` (`app/adapters/sentinel_imagery.py:83-145`). -/
def sentinelDetectionToCandidateEvent (det : Fields F) (scanId : String) (timestamp : D)
    (evidenceUri : Json F) (areaId : String) : Except Exc (CandidateEvent F D) := do
  if correlationStatus det ≠ "uncorrelated" then
    .error (.valueError ("detection index=" ++ String.ofList (getOrNone det "index").pyRepr ++
      " is not uncorrelated (status=" ++
      String.ofList (getOrNone det "correlation_status").pyRepr ++ ")"))
  else do
    let (lat, lng) ← latLng det
    let idx := (Assoc.get det "index").getD (.int 0)
    let detectionId := ((getOrNone det "detection_id").orElse
      (.str ("EVT-SAR-SG-" ++ scanId ++ "-" ++ idx.pyStr))).pyStr
    let conf ← pyFloat ((Assoc.get det "confidence").getD (.float (0.7 : F)))
    let attrs : Fields F := [("ais_absent", .bool true), ("ais_correlation", .str "NONE"),
      ("ingress", .str "sentinel_imagery"), ("correlation_status", .str "uncorrelated"),
      ("scan_id", .str scanId), ("detection_index", idx)]
    let attrs ← measure det "length" ["vessel_length_m", "length_m"] attrs
    let attrs ← measure det "beam" ["vessel_beam_m", "beam_m"] attrs
    let attrs ← measure det "angle" ["heading_deg"] attrs
    let chip := (evidenceUri.orElse (getOrNone det "evidence_image_uri")).orElse
      (getOrNone det "cropped_chip_path")
    let attrs := if chip.truth then Assoc.set attrs "evidence_image_uri" (.str chip.pyStr) else attrs
    let bbox ← geoBbox det
    .ok
      { eventId := detectionId
        timestamp := timestamp
        sourceId := "SENTINEL_IMAGERY_ANALYSIS"
        areaId := areaId
        eventType := "UNANNOUNCED_DARK_VESSEL"
        confidence := clamp01 conf
        latitude := lat
        longitude := lng
        boundingBox := bbox
        attributes := attrs }

/-- The loop of `sentinel_run_cv_to_candidate_events` over the detections. -/
def detectionEvents (scanId : String) (timestamp : D) (chip : Json F) :
    List (Json F) → Except Exc (List (CandidateEvent F D))
  | [] => .ok []
  | .obj det :: rest =>
    if correlationStatus det ≠ "uncorrelated" then detectionEvents scanId timestamp chip rest
    else do
      let event ← sentinelDetectionToCandidateEvent det scanId timestamp chip "singapore_strait"
      let events ← detectionEvents scanId timestamp chip rest
      .ok (event :: events)
  | _ :: rest => detectionEvents scanId timestamp chip rest

/-- `sentinel_run_cv_to_candidate_events` (`app/adapters/sentinel_imagery.py:148-180`), at a time
`now`. -/
def sentinelRunCvToCandidateEvents (now : D) (payload : Fields F) (scanId : Option String)
    (evidenceUri : Option String) : Except Exc (List (CandidateEvent F D)) :=
  match Assoc.get payload "detections" with
  | some (.arr detections) => do
    let resolvedScan := (((Json.ofOption scanId).orElse (getOrNone payload "scan_id")).orElse
      ((getOrNone payload "folder_name").orElse (.str "scan"))).pyStr
    let ts ← parseTimestamp now (getOrNone payload "timestamp")
    let chip := ((Json.ofOption evidenceUri).orElse
      (getOrNone payload "evidence_image_uri")).orElse (.str "tests/fixtures/sentinel_chip.jpg")
    let events ← detectionEvents resolvedScan ts chip detections
    .ok (events.map fun event => { event with
      attributes := Assoc.set event.attributes "vessel_count_est" (.int events.length) })
  | _ => .error (.valueError "run_cv payload requires detections[] list")

end

/-- `candidate_event_to_observation` and `ingest` for each event, in order. -/
def ingestCandidateEvents {F D : Type} [PyMathOps F] [PyDateTime D] [Sha256]
    (events : List (CandidateEvent F D)) : Handler Exc (SpatialEntityGraph F D) Unit :=
  Handler.forEach (fun event => do
    let _ ← SpatialEntityGraph.ingest (candidateEventToObservation event)) events

end NexusC2

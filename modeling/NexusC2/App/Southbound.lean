import NexusC2.Core.Ontology
import NexusC2.Misc.Text

/-!
# Sensor events

`app/adapters/southbound_sensor.py`: a sensor event, or a canonical row of the sensor simulation
that is first turned into one, becomes an observation. The clock, the arithmetic of `datetime` and
the checks of pydantic are those of a `Host`. An event is what JSON gives, so no field of it is a
`datetime` already.
-/

namespace NexusC2

namespace Southbound

/-- What the normalisation of one event relies on. -/
structure Host (F D : Type) where
  /-- `datetime.now(UTC)` and `str(uuid4())`. -/
  now : D
  uuid4 : String
  /-- `d.isoformat()`. -/
  isoformat : D → String
  /-- `DEMO_DAY + timedelta(seconds=s)`. -/
  demoDayAfter : F → Except Exc D
  /-- `DEMO_DAY.replace(hour=h, minute=m, second=s)`. -/
  demoDayAt : Int → Int → Int → Except Exc D
  /-- What pydantic makes of a `heading_deg`, and of an `observed_at` that is no string. -/
  validHeading : Json F → Except Exc (Option F)
  validObservedAt : Json F → Except Exc D

section

variable {F D : Type} [PyFloatOps F]

open PyFloatOps

/-- `kt_to_mps` (`app/adapters/southbound_sensor.py:15-16`). -/
def ktToMps (knots : F) : F := knots * (0.514444 : F)

/-- `polar_to_latlon` (`app/adapters/southbound_sensor.py:19-34`), with `M_PER_DEG_LAT` 111 320. -/
def polarToLatlon (siteLat siteLon azimuthDeg rangeKm : F) : Except Exc (F × F) := do
  let perDegLat : F := 111320.0
  let distanceM := rangeKm * (1000.0 : F)
  let heading := radians azimuthDeg
  let mPerDegLon := perDegLat * (← mathFn (cos (radians siteLat)))
  let dNorth := distanceM * (← mathFn (cos heading))
  let dEast := distanceM * (← mathFn (sin heading))
  let north ← pyDiv dNorth perDegLat
  let east ← pyDiv dEast (PyFloatOps.max mPerDegLon (1e-6 : F))
  .ok (siteLat + north, siteLon + east)

/-- `datetime.fromisoformat(s.replace("Z", "+00:00"))`. -/
def parseIso [PyDateTime D] (s : String) : Except Exc D :=
  let text := String.ofList (s.toList.flatMap fun c => if c = 'Z' then "+00:00".toList else [c])
  match PyDateTime.fromIsoformat text with
  | some d => .ok d
  | none => .error (.valueError ("Invalid isoformat string: " ++
      String.ofList (Json.reprStr text)))

omit [PyFloatOps F] in
/-- `v is None`. -/
def isNone : Json F → Bool
  | .null => true
  | _ => false

/-- `key in row`. -/
def has (row : Fields F) (key : String) : Bool := (Assoc.get row key).isSome

/-- `row.get(k, row.get(k', ...))`. -/
def firstOf (row : Fields F) (keys : List String) (default : Json F) : Json F :=
  (keys.findSome? (Assoc.get row)).getD default

/-- `row.get(k) or row.get(k') or ... or default`. -/
def firstTrue (row : Fields F) (keys : List String) (default : Json F) : Json F :=
  ((keys.map (getOrNone row)).find? Json.truth).getD default

/-- The items whose keys are not listed. -/
def without (keys : List String) (row : Fields F) : Fields F := row.filter fun p => p.1 ∉ keys

end

section

variable {F D : Type} [PyTextOps F] [PyDateTime D]

/-- `_observed_at_from_row` (`app/adapters/southbound_sensor.py:37-48`). -/
def observedAtFromRow (host : Host F D) (row : Fields F) : Except Exc D :=
  let raw := getOrNone row "observed_at"
  let timestamp := getOrNone row "timestamp"
  if raw.truth then parseIso raw.pyStr
  else
    match Assoc.get row "time_s" with
    | some seconds => do host.demoDayAfter (← pyFloat seconds)
    | none =>
      if timestamp.truth then
        match timestamp.pyStr.toList.splitOn ':' with
        | [h, m, s] => do
          let h ← pyInt (F := F) (.str (String.ofList h))
          let m ← pyInt (F := F) (.str (String.ofList m))
          let s ← pyInt (F := F) (.str (String.ofList s))
          host.demoDayAt h m s
        | parts =>
          if parts.length < 3 then
            .error (.valueError ("not enough values to unpack (expected 3, got " ++
              toString parts.length ++ ")"))
          else .error (.valueError "too many values to unpack (expected 3)")
      else .ok host.now

/-- The position of a canonical row, if it can be told
(`app/adapters/southbound_sensor.py:58-90`). -/
def rowLatLon (row : Fields F) (source : String) : Except Exc (Option (Json F × Json F)) :=
  let lat := firstOf row ["lat", "latitude", "center_lat"] .null
  let lon := firstOf row ["lon", "longitude", "center_lon"] .null
  let detectedIsFalse := match getOrNone row "detected" with
    | .bool false => true
    | _ => false
  let given (key : String) : Bool := !isNone (getOrNone row key)
  let polar (azimuth : Json F) (range : Except Exc F) : Except Exc (Option (Json F × Json F)) := do
    let siteLat ← pyFloat (getOrNone row "site_lat")
    let siteLon ← pyFloat (getOrNone row "site_lon")
    let (lat, lon) ← polarToLatlon siteLat siteLon (← pyFloat azimuth) (← range)
    .ok (some (.float lat, .float lon))
  let site : Except Exc (Option (Json F × Json F)) := do
    let siteLat ← pyFloat (getOrNone row "site_lat")
    let siteLon ← pyFloat (getOrNone row "site_lon")
    .ok (some (.float siteLat, .float siteLon))
  if !isNone lat && !isNone lon then .ok (some (lat, lon))
  else if !(given "site_lat" && given "site_lon") then .ok none
  else if given "azimuth_deg" && given "range_km" then
    polar (getOrNone row "azimuth_deg") (pyFloat (getOrNone row "range_km"))
  else if given "bearing_deg" then polar (getOrNone row "bearing_deg") (.ok (15.0 : F))
  else if source = "ARMY_CCTV" then site
  else if source ∈ ["AIR_EW", "ARMY_EW"] || detectedIsFalse || (getOrNone row "rf_negative").truth then
    site
  else .ok none

/-- The modality of a source (`app/adapters/southbound_sensor.py:99-109`). -/
def modalities : List (String × String) :=
  [("NAVY_AIS", "ais"), ("NAVY_COASTAL_RADAR", "radar"), ("SPACE_SAR", "space_sar"),
    ("AIR_RADAR", "radar"), ("AIR_EOIR", "optical"), ("AIR_EW", "rf"), ("ARMY_EOIR", "optical"),
    ("ARMY_EW", "rf"), ("ARMY_CCTV", "optical")]

/-- The keys of a canonical row that its event does not repeat
(`app/adapters/southbound_sensor.py:124-139`). -/
def rowKeys : List String :=
  ["lat", "lon", "latitude", "longitude", "center_lat", "center_lon", "sog_knots",
    "velocity_knots", "speed_kt", "cog_deg", "heading_deg", "observed_at", "time_s", "timestamp"]

/-- `canonical_row_to_event` (`app/adapters/southbound_sensor.py:51-153`). What the row repeats of
the items of the event is written over them. -/
def canonicalRowToEvent (host : Host F D) (row : Fields F) : Except Exc (Option (Fields F)) := do
  let source := ((Assoc.get row "source").getD (.str "")).pyStr
  let service := Text.lower ((Assoc.get row "service").getD (.str "")).pyStr
  let sensorId := ((Assoc.get row "sensor_id").getD
    (.str (if source = "" then "UNKNOWN" else source))).pyStr
  let observedAt ← observedAtFromRow host row
  match ← rowLatLon row source with
  | none => .ok none
  | some (lat, lon) => do
    let speedKt ← pyFloat
      ((firstOf row ["sog_knots", "velocity_knots", "speed_kt"] (.float (0.0 : F))).orElse
        (.float (0.0 : F)))
    let heading := firstOf row ["cog_deg", "heading_deg", "azimuth_deg"] .null
    let modality := (Assoc.get modalities source).getD "generic"
    let entity := (firstTrue row ["mmsi", "track_id", "emitter_id", "candidate_id", "camera_id"]
      (.str sensorId)).pyStr
    let attrs := without rowKeys row
    let attrs := Assoc.set attrs "service"
      (if service = "" then getOrNone attrs "service" else .str service)
    let attrs := Assoc.set attrs "source" (.str source)
    let attrs := Assoc.set attrs "time_s" (getOrNone row "time_s")
    let latitude ← pyFloat lat
    let longitude ← pyFloat lon
    let headingDeg ← if isNone heading then .ok .null else (pyFloat heading).map Json.float
    let confidence ← pyFloat ((Assoc.get row "confidence").getD (.float (0.75 : F)))
    .ok (some (Assoc.update
      [("source_id", .str sensorId), ("entity_id", .str entity), ("latitude", .float latitude),
        ("longitude", .float longitude), ("speed_kt", .float speedKt),
        ("heading_deg", headingDeg), ("confidence", .float confidence),
        ("observed_at", .str (host.isoformat observedAt)), ("modality", .str modality)]
      attrs))

/-! ## Observations -/

/-- The keys of an event that are no attributes of its observation
(`app/adapters/southbound_sensor.py:190-201`). -/
def eventKeys : List String :=
  ["source_id", "entity_id", "observation_id", "latitude", "longitude", "speed_kt", "heading_deg",
    "confidence", "observed_at", "modality"]

/-- The event of a canonical row, any other one itself
(`app/adapters/southbound_sensor.py:159-166`). -/
def acceptedEvent (host : Host F D) (event : Fields F) : Except Exc (Fields F) :=
  if has event "service" && has event "source" && !has event "latitude" && has event "lat" then do
    match ← canonicalRowToEvent host event with
    | some converted => .ok converted
    | none => .error (.valueError "Unable to geolocate canonical sensor row")
  else if has event "service" && has event "source" && isNone (getOrNone event "latitude") then do
    .ok ((← canonicalRowToEvent host event).getD event)
  else .ok event

/-- The time of an event, where it is read before pydantic sees it
(`app/adapters/southbound_sensor.py:168-172`). -/
def eventTime (host : Host F D) : Json F → Except Exc (Option D)
  | .str s => (parseIso s).map some
  | .null => .ok (some host.now)
  | _ => .ok none

/-- The time of an event after its validation. -/
def validTime (host : Host F D) (raw : Json F) : Option D → Except Exc D
  | some d => .ok d
  | none => host.validObservedAt raw

/-- The observation of an event (`app/adapters/southbound_sensor.py:168-211`). -/
def observationOf [Sha256] (host : Host F D) (event : Fields F) : Except Exc (Observation F D) := do
  let raw := getOrNone event "observed_at"
  let parsed ← eventTime host raw
  let speedKt ← pyFloat ((Assoc.get event "speed_kt").getD (.float (0.0 : F)))
  let sourceId ← item event "source_id"
  let latitude ← pyFloat (← item event "latitude")
  let longitude ← pyFloat (← item event "longitude")
  let confidence ← pyFloat ((Assoc.get event "confidence").getD (.float (0.5 : F)))
  let observationId := getOrNone event "observation_id"
  let headingDeg ← host.validHeading (getOrNone event "heading_deg")
  let observedAt ← validTime host raw parsed
  .ok (Observation.ensureDigest
    { observationId := if observationId.truth then observationId.pyStr else host.uuid4
      sourceId := sourceId.pyStr
      entityHint := ((Assoc.get event "entity_id").getD sourceId).pyStr
      latitude := latitude
      longitude := longitude
      altitudeM := none
      speedMps := ktToMps speedKt
      headingDeg := headingDeg
      confidence := confidence
      observedAt := observedAt
      modality := ((Assoc.get event "modality").getD (.str "generic")).pyStr
      attributes := ("speed_kt", .float speedKt) :: without eventKeys event
      rawDigest := "" })

/-- The speed of an observation and the first of its attributes are one number. -/
theorem observationOf_ok [Sha256] {host : Host F D} {event : Fields F} {o : Observation F D}
    (h : observationOf host event = .ok o) : ∃ (new : Observation F D) (speedKt : F),
      o = new.ensureDigest ∧ new.rawDigest = "" ∧ new.speedMps = ktToMps speedKt ∧
        new.attributes = ("speed_kt", .float speedKt) :: without eventKeys event := by
  unfold observationOf at h
  obtain ⟨parsed, -, h⟩ := except_bind_eq_ok.mp h
  obtain ⟨speedKt, -, h⟩ := except_bind_eq_ok.mp h
  obtain ⟨sourceId, -, h⟩ := except_bind_eq_ok.mp h
  obtain ⟨latitudeItem, -, h⟩ := except_bind_eq_ok.mp h
  obtain ⟨latitude, -, h⟩ := except_bind_eq_ok.mp h
  obtain ⟨longitudeItem, -, h⟩ := except_bind_eq_ok.mp h
  obtain ⟨longitude, -, h⟩ := except_bind_eq_ok.mp h
  obtain ⟨confidence, -, h⟩ := except_bind_eq_ok.mp h
  obtain ⟨headingDeg, -, h⟩ := except_bind_eq_ok.mp h
  obtain ⟨observedAt, -, h⟩ := except_bind_eq_ok.mp h
  cases h
  exact ⟨_, speedKt, rfl, rfl, rfl, rfl⟩

/-- `normalize_sensor_event` (`app/adapters/southbound_sensor.py:156-211`). -/
def normalizeSensorEvent [Sha256] (host : Host F D) (event : Fields F) :
    Except Exc (Observation F D) := do
  observationOf host (← acceptedEvent host event)

end

/-- A host whose clock stands still. -/
def stoppedHost : Host Rat Instant :=
  { now := ⟨0⟩
    uuid4 := "o"
    isoformat := PyDateTime.isoformat
    demoDayAfter := fun _ => .ok ⟨0⟩
    demoDayAt := fun _ _ _ => .ok ⟨0⟩
    validHeading := fun _ => .ok none
    validObservedAt := fun _ => .error (.valueError "1 validation error for Observation") }

end Southbound

end NexusC2

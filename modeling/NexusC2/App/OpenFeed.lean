import NexusC2.App.Ingress

/-!
# Open feeds

`app/adapters/open_feed.py`: snapshots of open AIS and open air traffic become sensor events, and
those observations. Where a snapshot comes from (files, the DuckDB of Indago, the live service, the
environment) and what is made of an event are in `OpenFeeds`.
-/

namespace NexusC2

/-- `FeedKind`. -/
inductive FeedKind where
  | ais
  | air
  deriving DecidableEq, Repr

def FeedKind.value : FeedKind → String
  | ais => "ais"
  | air => "air"

/-- `OpenFeedSource`. -/
inductive OpenFeedSource where
  | auto
  | indago
  | live
  | fixture
  deriving DecidableEq, Repr

def OpenFeedSource.value : OpenFeedSource → String
  | auto => "auto"
  | indago => "indago"
  | live => "live"
  | fixture => "fixture"

/-- The source of that value. -/
def OpenFeedSource.ofValue (s : String) : Option OpenFeedSource :=
  [auto, indago, live, fixture].find? fun source => source.value = s

/-! ## What a request asks for -/

/-- The loop of `parse_open_feed_selection` over the parts (`app/adapters/open_feed.py:53-64`). -/
def feedKinds (out : List FeedKind) : List (List Char) → Except Exc (List FeedKind)
  | [] => .ok out
  | part :: parts =>
    let token := String.ofList (Text.stripChars part)
    let add (kind : FeedKind) := if kind ∈ out then out else out ++ [kind]
    if token = "" then feedKinds out parts
    else if token ∈ ["ais", "open_ais", "datagovsg", "data.gov.sg"] then feedKinds (add .ais) parts
    else if token ∈ ["air", "open_air", "adsb", "ads-b"] then feedKinds (add .air) parts
    else .error (.valueError ("Unknown open feed '" ++ token ++ "' (expected ais, air, or all)"))

/-- `parse_open_feed_selection` (`app/adapters/open_feed.py:43-65`). -/
def parseOpenFeedSelection (raw : String) : Except Exc (List FeedKind) :=
  let text := Text.lower (Text.strip raw)
  if text ∈ ["", "0", "false", "off", "none"] then .ok []
  else if text ∈ ["1", "true", "on", "all", "*"] then .ok [.ais, .air]
  else feedKinds [] ((text.toList.map fun c => if c = ';' then ',' else c).splitOn ',')

/-- `parse_open_feed_source` (`app/adapters/open_feed.py:68-77`). -/
def parseOpenFeedSource (raw : String) : Except Exc OpenFeedSource :=
  let text := Text.lower (Text.strip raw)
  if text = "" then .ok .auto
  else
    match OpenFeedSource.ofValue text with
    | some source => .ok source
    | none =>
      if text ∈ ["duckdb", "indago_duckdb", "local"] then .ok .indago
      else .error (.valueError ("Unknown open-feed source '" ++ raw ++
        "' (expected auto|indago|live|fixture)"))

/-! ## Snapshots -/

/-- What the adapter reads from outside, and `normalize_sensor_event`. -/
structure OpenFeeds (F Obs : Type) where
  loadOpenAisFixture : Except Exc (Fields F)
  loadOpenAirFixture : Except Exc (Fields F)
  loadOpenAisFromIndago : (limit : Int) → Except Exc (Fields F)
  loadOpenAisFromLive : Except Exc (Fields F)
  openFeedSourceFromEnv : Except Exc OpenFeedSource
  normalizeSensorEvent : Json F → Except Exc Obs

section

variable {F Obs : Type}

/-- `load_open_feed_fixture` (`app/adapters/open_feed.py:104-109`). -/
def OpenFeeds.loadOpenFeedFixture (feeds : OpenFeeds F Obs) : FeedKind → Except Exc (Fields F)
  | .ais => feeds.loadOpenAisFixture
  | .air => feeds.loadOpenAirFixture

/-- The snapshot of one rung of the ladder. -/
def OpenFeeds.loadRung (feeds : OpenFeeds F Obs) (limit : Int) :
    OpenFeedSource → Except Exc (Fields F)
  | .indago => feeds.loadOpenAisFromIndago limit
  | .live => feeds.loadOpenAisFromLive
  | _ => feeds.loadOpenAisFixture

/-- The loop over the rungs (`app/adapters/open_feed.py:318-332`), and what follows it: an error
names every rung that failed. The ladder that falls back ends with the fixture, which is not tried
again. -/
def OpenFeeds.climb (feeds : OpenFeeds F Obs) (limit : Int) (errors : List String) :
    List OpenFeedSource → Except Exc (Fields F × String)
  | [] => .error (.valueError ("open AIS source ladder exhausted: " ++ " | ".intercalate errors))
  | step :: order =>
    match feeds.loadRung limit step with
    | .ok data => .ok (data, step.value)
    | .error e => feeds.climb limit (errors ++ [step.value ++ ": " ++ e.message]) order

/-- `resolve_open_ais_payload` (`app/adapters/open_feed.py:290-340`). -/
def OpenFeeds.resolveOpenAisPayload (feeds : OpenFeeds F Obs) (source : OpenFeedSource)
    (payload : Option (Fields F)) (useFixture : Bool) (limit : Int) :
    Except Exc (Fields F × String) :=
  match payload with
  | some payload => .ok (payload, "payload")
  | none =>
    if useFixture || source = .fixture then do .ok (← feeds.loadOpenAisFixture, "fixture")
    else feeds.climb limit [] (if source = .auto then [.indago, .live, .fixture] else [source])

/-! ## Events -/

variable [PyFloatOps F]

/-- The latitude and longitude of a row (`app/adapters/open_feed.py:354-358`). An integer that is no
float raises an `OverflowError`, which is not caught. -/
def rowPosition (name : String) (raw : Fields F) : Except Exc (F × F) :=
  let position : Except Exc (F × F) := do
    let lat ← pyFloat (← item raw "latitude")
    let lon ← pyFloat (← item raw "longitude")
    .ok (lat, lon)
  match position with
  | .error (.keyError _) | .error (.typeError _) | .error (.valueError _) =>
    .error (.valueError (name ++ " requires numeric latitude/longitude"))
  | position => position

/-- A row of a snapshot, which must be an object with a position. -/
def feedRow (list : String) (event : Nat → Fields F → F × F → Except Exc (Json F))
    (row : Json F × Nat) : Except Exc (Json F) :=
  let name := list ++ "[" ++ toString row.2 ++ "]"
  match row.1 with
  | .obj raw => do event row.2 raw (← rowPosition name raw)
  | _ => .error (.valueError (name ++ " must be an object"))

/-- The rows of a snapshot, of which there must be some. -/
def feedRows (list message : String) (payload : Fields F)
    (event : Nat → Fields F → F × F → Except Exc (Json F)) : Except Exc (List (Json F)) :=
  match Assoc.get payload list with
  | some (.arr (row :: rows)) => (row :: rows).zipIdx.mapM (feedRow list event)
  | _ => .error (.valueError message)

/-- The event of a vessel (`app/adapters/open_feed.py:360-382`). -/
def vesselEvent (payload : Fields F) (idx : Nat) (raw : Fields F) (position : F × F) :
    Except Exc (Json F) := do
  let mmsi := (((getOrNone raw "mmsi").orElse (getOrNone raw "id")).orElse
    (.str ("vessel-" ++ toString idx))).pyStr
  let name := ((getOrNone raw "name").orElse (.str mmsi)).pyStr
  let speed ← pyFloat ((Assoc.get raw "speed_kt").getD (.float (0.0 : F)))
  let confidence ← pyFloat ((Assoc.get raw "confidence").getD (.float (0.7 : F)))
  .ok (.obj [("observation_id", .str ("open-ais-" ++ mmsi)),
    ("source_id", .str ("OPEN_AIS_" ++ mmsi)), ("entity_id", .str name),
    ("latitude", .float position.1), ("longitude", .float position.2), ("speed_kt", .float speed),
    ("heading_deg", getOrNone raw "heading_deg"), ("confidence", .float confidence),
    ("observed_at", (getOrNone raw "timestamp").orElse (getOrNone payload "retrieved_at")),
    ("modality", .str "ais"), ("ingress", .str "open_feed"), ("feed", .str "open_ais"),
    ("feed_source", .str ((Assoc.get payload "source").getD (.str "open_ais")).pyStr),
    ("schema_version", .str ((Assoc.get payload "schema_version").getD (.str "0.1.0")).pyStr),
    ("mmsi", .str mmsi), ("ship_type", getOrNone raw "ship_type"), ("vessel_name", .str name)])

/-- `open_ais_to_events` (`app/adapters/open_feed.py:343-383`). -/
def openAisToEvents (payload : Fields F) : Except Exc (List (Json F)) :=
  feedRows "vessels" "open AIS payload requires a non-empty vessels[] list" payload
    (vesselEvent payload)

/-- The event of an aircraft (`app/adapters/open_feed.py:403-426`). -/
def aircraftEvent (payload : Fields F) (idx : Nat) (raw : Fields F) (position : F × F) :
    Except Exc (Json F) := do
  let icao := (((getOrNone raw "icao24").orElse (getOrNone raw "id")).orElse
    (.str ("ac-" ++ toString idx))).pyStr
  let stripped := Text.strip ((getOrNone raw "callsign").orElse (.str icao)).pyStr
  let callsign := if stripped = "" then icao else stripped
  let velocity := (Assoc.get raw "velocity_kt").getD
    ((Assoc.get raw "speed_kt").getD (.float (0.0 : F)))
  let speed ← match velocity with
    | .null => .ok (0.0 : F)
    | v => pyFloat v
  let confidence ← pyFloat ((Assoc.get raw "confidence").getD (.float (0.65 : F)))
  .ok (.obj [("observation_id", .str ("open-air-" ++ icao)),
    ("source_id", .str ("OPEN_AIR_" ++ Text.upper icao)), ("entity_id", .str callsign),
    ("latitude", .float position.1), ("longitude", .float position.2), ("speed_kt", .float speed),
    ("heading_deg", getOrNone raw "heading_deg"), ("confidence", .float confidence),
    ("observed_at", (getOrNone raw "timestamp").orElse (getOrNone payload "retrieved_at")),
    ("modality", .str "adsb"), ("ingress", .str "open_feed"), ("feed", .str "open_air"),
    ("feed_source", .str ((Assoc.get payload "source").getD (.str "open_air")).pyStr),
    ("schema_version", .str ((Assoc.get payload "schema_version").getD (.str "0.1.0")).pyStr),
    ("icao24", .str icao), ("callsign", .str callsign),
    ("altitude_m", getOrNone raw "altitude_m")])

/-- `open_air_to_events` (`app/adapters/open_feed.py:386-427`). -/
def openAirToEvents (payload : Fields F) : Except Exc (List (Json F)) :=
  feedRows "aircraft" "open air payload requires a non-empty aircraft[] list" payload
    (aircraftEvent payload)

/-- `open_feed_to_events` (`app/adapters/open_feed.py:430-435`). -/
def openFeedToEvents : FeedKind → Fields F → Except Exc (List (Json F))
  | .ais => openAisToEvents
  | .air => openAirToEvents

/-! ## Observations -/

/-- The observations of a snapshot. -/
def OpenFeeds.observations (feeds : OpenFeeds F Obs) (feed : FeedKind) (data : Fields F)
    (resolved : String) : Except Exc (List Obs × String) := do
  let events ← openFeedToEvents feed data
  let observations ← events.mapM feeds.normalizeSensorEvent
  .ok (observations, resolved)

/-- `open_feed_to_observations` (`app/adapters/open_feed.py:438-472`). -/
def OpenFeeds.openFeedToObservations (feeds : OpenFeeds F Obs) (feed : FeedKind)
    (payload : Option (Fields F)) (useFixture : Bool) (source : Option OpenFeedSource)
    (limit : Int) : Except Exc (List Obs × String) :=
  if useFixture && payload.isNone && source.isNone then do
    feeds.observations feed (← feeds.loadOpenFeedFixture feed) "fixture"
  else if feed = .ais then do
    let source ← match source with
      | some source => .ok source
      | none => feeds.openFeedSourceFromEnv
    let (data, resolved) ← feeds.resolveOpenAisPayload source payload useFixture limit
    feeds.observations .ais data resolved
  else if useFixture then do
    feeds.observations feed (← feeds.loadOpenFeedFixture feed) "fixture"
  else
    match payload with
    | some payload => feeds.observations feed payload "payload"
    | none => .error (.valueError "Provide payload or use_fixture=True for air feed")

/-- The feed of that value. -/
def FeedKind.ofValue (feed : String) : Except Exc FeedKind :=
  if feed = "ais" then .ok ais
  else if feed = "air" then .ok air
  else .error (.valueError ("Unknown open feed: " ++ feed))

/-- The adapters with these open feeds. -/
def OpenFeeds.adapters (feeds : OpenFeeds F Obs) (a : Adapters F Obs) : Adapters F Obs :=
  { a with
    parseOpenFeedSelection := fun raw => do
      .ok ((← NexusC2.parseOpenFeedSelection raw).map FeedKind.value)
    parseOpenFeedSource := fun raw => do .ok (← NexusC2.parseOpenFeedSource raw).value
    openFeedToObservations := fun feed payload useFixture source limit => do
      feeds.openFeedToObservations (← FeedKind.ofValue feed) (payload.map fun v => v.obj?.getD [])
        useFixture (source.bind OpenFeedSource.ofValue) limit }

/-- A feed of aircraft needs its rows: no source is asked for them. -/
theorem OpenFeeds.air_needs_payload (feeds : OpenFeeds F Obs) (source : Option OpenFeedSource)
    (limit : Int) : feeds.openFeedToObservations .air none false source limit =
      .error (.valueError "Provide payload or use_fixture=True for air feed") := rfl

omit [PyFloatOps F] in
/-- The snapshot is that of the first rung that loads. -/
theorem OpenFeeds.climb_eq_ok {feeds : OpenFeeds F Obs} {limit : Int} {errors : List String}
    {order : List OpenFeedSource} {data : Fields F} {resolved : String}
    (h : feeds.climb limit errors order = .ok (data, resolved)) :
    ∃ before step after, order = before ++ step :: after ∧ resolved = step.value ∧
      feeds.loadRung limit step = .ok data ∧
      ∀ rung ∈ before, ∃ e, feeds.loadRung limit rung = .error e := by
  induction order generalizing errors with
  | nil => cases h
  | cons step order ih =>
    unfold climb at h
    cases hload : feeds.loadRung limit step with
    | ok data' =>
      rw [hload] at h
      cases h
      exact ⟨[], step, order, rfl, rfl, hload, fun _ h => by cases h⟩
    | error e =>
      rw [hload] at h
      obtain ⟨before, rung, after, rfl, hresolved, hrung, hbefore⟩ := ih h
      refine ⟨step :: before, rung, after, rfl, hresolved, hrung, ?_⟩
      rintro rung' (_ | ⟨_, hmem⟩)
      · exact ⟨e, hload⟩
      · exact hbefore rung' hmem

end

end NexusC2

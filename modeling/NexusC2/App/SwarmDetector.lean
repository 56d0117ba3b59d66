import NexusC2.App.SarAisDetector
import NexusC2.App.OsintText
import NexusC2.App.Southbound

/-!
# The swarm detector

`_detect` of `app/scenarios/s2_air_corridor_attritable.py`: the swarm a passenger claims and the few
contacts a radar holds elsewhere are a finding, when a blurred optical contact and an acoustic one
stand beside them and neither radio nor transponder speaks against it.
-/

namespace NexusC2

/-- The arithmetic and the texts the swarm detector uses. -/
class PyIntelOps (F : Type) extends PyTextOps F, PyNumeralOps F

/-- What is known of the contacts the detector reports. -/
structure SwarmPicture (F D : Type) where
  trackId : String
  social : List (Observation F D)
  radar : List (Observation F D)
  blurOptical : List (Observation F D)
  acoustic : List (Observation F D)
  adsb : List (Observation F D)
  rf : List (Observation F D)
  socialCount : Int
  radarCount : Int
  mismatch : F
  eoConf : F
  confidence : F

namespace OsintSwarm

/-- `_FALLBACK_CLAIMED_COUNT`, `_MIN_CLAIMED_COUNT` and `_EXPECTED_RADAR_CONTACTS`
(`app/scenarios/s2_air_corridor_attritable.py:16-18`). -/
def fallbackClaimedCount : Int := 50
def minClaimedCount : Int := 40
def expectedRadarContacts : Int := 4

section

variable {F D : Type} [PyIntelOps F] [PyChars]

/-- `parse_osint_text(text, fallback_count=..).claimed_count or 0`. -/
def parsedCount (text : Json F) : Int :=
  let text := if Southbound.isNone text then none else some text.pyStr
  ((OsintText.parseOsintText (F := F) text (some fallbackClaimedCount)).claimedCount).getD 0

/-- `_claimed_count` (`app/scenarios/s2_air_corridor_attritable.py:46-57`). -/
def claimedCount (o : Observation F D) : Except Exc Int :=
  match getOrNone o.attributes "claimed_count" with
  | .null => .ok (parsedCount (getOrNone o.attributes "intel_text"))
  | raw =>
    match pyInt raw with
    | .error (.typeError _) | .error (.valueError _) =>
      .ok (parsedCount (getOrNone o.attributes "intel_text"))
    | r => r

end

section

variable {F D : Type} [PyTextOps F]

open PyFloatOps PyTextOps

/-- `int(o.attributes.get("contact_count", 0) or 0)`. -/
def contactCount (o : Observation F D) : Except Exc Int :=
  pyInt (((Assoc.get o.attributes "contact_count").getD (.int 0)).orElse (.int 0))

/-- `o.confidence <= 0.45 or bool(o.attributes.get("blur"))`. -/
def blurred (o : Observation F D) : Bool :=
  le o.confidence (0.45 : F) || (getOrNone o.attributes "blur").truth

/-- `any(bool(o.attributes.get(key)) for o in os) or not os`. -/
def silent (key : String) (os : List (Observation F D)) : Bool :=
  os.any (fun o => (getOrNone o.attributes key).truth) || os.isEmpty

/-- `x * n`. -/
def timesInt (x : F) (n : Int) : Except Exc F :=
  match PyFloatOps.ofInt n with
  | some y => .ok (x * y)
  | none => .error (.overflowError "int too large to convert to float")

/-- The track of the radar contact (`app/scenarios/s2_air_corridor_attritable.py:110-120`). -/
def trackOf (graph : SpatialEntityGraph F D) (rad : Observation F D) : Option (Track F D) :=
  (graph.getTrack rad.preferredId).or (graph.tracks.values.find? fun t =>
    rad.sourceId ∈ t.sourceIds || rad.observationId ∈ t.observationIds)

/-- `amber`. -/
def amberText : String := "COUNT_AND_BEARING_MISMATCH"

/-- `picture`. -/
def pictureText (p : SwarmPicture F D) : String :=
  "AMBER " ++ amberText ++ " (~" ++ fmt0 (4.0 : F) ++ " min): airborne passenger OSINT claims ~" ++
    String.ofList (intText p.socialCount) ++ " Shahed-class airframes; gap-filler radar holds " ++
    String.ofList (intText p.radarCount) ++ " intermittent contacts ~" ++ fmt0 p.mismatch ++
    " m north (sea clutter / terrain masking); EO/IR delta-wing conf=" ++ fmt2 p.eoConf ++
    "; acoustic 2-stroke harmonic corroborates. RF_SILENT_AUTONOMOUS (GPS/INS waypoints) — RF C2 " ++
    "jam useless; cue GNSS denial + GBAD."

/-- `hypo`. -/
def hypothesisText (p : SwarmPicture F D) : String :=
  "If CIVILIAN_SOCIAL_RECON exaggerates count, radar+acoustic+EO still warrant non-kinetic cueing " ++
    "(not 50x SAM shots). If GAP_FILLER_RADAR under-counts due to clutter, the passenger claim of ~" ++
    String.ofList (intText p.socialCount) ++ " remains the saturation planning figure. Autonomous " ++
    "GPS/INS flight invalidates conventional RF soft-kill as primary defeat."

/-- `breakdown`. -/
def breakdown (p : SwarmPicture F D) : Fields F :=
  let sources (os : List (Observation F D)) : Json F := Json.strs (os.map Observation.sourceId)
  let claimed := String.ofList (intText p.socialCount)
  let contacts := String.ofList (intText p.radarCount)
  let intel := match p.social with
    | [] => ""
    | o :: _ => ((getOrNone o.attributes "intel_text").orElse (.str "")).pyStr
  [("social", .obj [("sources", sources p.social), ("claimed_count", .int p.socialCount),
      ("intel_text", .str intel),
      ("claim", .str ("~" ++ claimed ++ " Shahed-class (airborne passenger OSINT)"))]),
    ("radar", .obj [("sources", sources p.radar), ("contact_count", .int p.radarCount),
      ("claim", .str (contacts ++ " intermittent contacts (clutter blindspots)"))]),
    ("optical", .obj [("sources", sources p.blurOptical), ("confidence", .float p.eoConf),
      ("claim", .str "delta-wing thermal / low-confidence EO")]),
    ("acoustic", .obj [("sources", sources p.acoustic),
      ("claim", .str "2-stroke moped harmonic (Shahed-class)")]),
    ("adsb", .obj [("sources", sources p.adsb), ("claim", .str "empty sector")]),
    ("rf", .obj [("sources", sources p.rf),
      ("claim", .str "RF_SILENT_AUTONOMOUS — GPS/INS waypoint"),
      ("finding", .str "RF_SILENT_AUTONOMOUS")]),
    ("amber_alert", .str amberText),
    ("resolution_path", Json.strs ["CUE_AND_IDENTIFY", "GNSS_DENIAL_AND_GBAD_CUE"])]

/-- The `Finding` that is returned (`app/scenarios/s2_air_corridor_attritable.py:152-167`). -/
def finding (p : SwarmPicture F D) : Finding F :=
  let sources (os : List (Observation F D)) : List String := os.map Observation.sourceId
  { scenarioId := "S2_osint_swarm"
    trackId := p.trackId
    threatClass := "attritable_air_incursion"
    warningMinutesEst := 4.0
    mismatchM := p.mismatch
    confidence := p.confidence
    pictureSummary := pictureText p
    adversarialHypothesis := hypothesisText p
    spoofSources := sources (p.social ++ p.adsb)
    approachSources := sources (p.radar ++ p.blurOptical ++ p.acoustic)
    otherSources := sources p.rf
    message := pictureText p
    amberAlert := some amberText
    sourceBreakdown := breakdown p }

/-- What follows once the counts contradict each other
(`app/scenarios/s2_air_corridor_attritable.py:81-167`). -/
def report (graph : SpatialEntityGraph F D) (social radar blurOptical : List (Observation F D))
    (socialCount radarCount : Int) (cue rad : Observation F D) :
    Except Exc (Option (Finding F)) := do
  let adsb := SarAis.ofModality "adsb" graph.observations
  let rf := SarAis.ofModality "rf" graph.observations
  let mismatch ← haversineM cue.latitude cue.longitude rad.latitude rad.longitude
  if lt mismatch (1000.0 : F) then .ok none
  else if !(silent "rf_silent" rf && silent "empty_sector" adsb) then .ok none
  else do
    let eoConf ← SarAis.pyMinimum (blurOptical.map Observation.confidence)
    match trackOf graph rad with
    | none => .ok none
    | some track => do
      let forSocial ← timesInt (0.005 : F) socialCount
      let forRadar ← timesInt (0.08 : F) radarCount
      .ok (some (finding
        { trackId := track.trackId
          social := social
          radar := radar
          blurOptical := blurOptical
          acoustic := SarAis.ofModality "acoustic" graph.observations
          adsb := adsb
          rf := rf
          socialCount := socialCount
          radarCount := radarCount
          mismatch := mismatch
          eoConf := eoConf
          confidence := PyMathOps.min (0.88 : F) ((0.45 : F) + forSocial + forRadar) }))

end

section

variable {F D : Type} [PyIntelOps F] [PyChars]

/-- `_detect` (`app/scenarios/s2_air_corridor_attritable.py:60-167`). -/
def detect (graph : SpatialEntityGraph F D) : Except Exc (Option (Finding F)) :=
  let social := SarAis.ofModality "social" graph.observations
  let optical := SarAis.ofModality "optical" graph.observations
  let radar := SarAis.ofModality "radar" graph.observations
  let acoustic := SarAis.ofModality "acoustic" graph.observations
  if social.isEmpty || optical.isEmpty || radar.isEmpty || acoustic.isEmpty then .ok none
  else do
    let claims ← social.mapM claimedCount
    let socialCount := (claims.max?).getD 0
    let contacts ← radar.mapM contactCount
    let radarCount := contacts.sum
    let blurOptical := optical.filter blurred
    if socialCount < minClaimedCount || radarCount ≠ expectedRadarContacts ||
        blurOptical.isEmpty then .ok none
    else
      match mostConfident (social ++ blurOptical), mostConfident radar with
      | some cue, some rad => report graph social radar blurOptical socialCount radarCount cue rad
      | _, _ => .ok none

end

end OsintSwarm

end NexusC2

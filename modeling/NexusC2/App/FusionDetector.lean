import NexusC2.App.AisSpoofDetector
import NexusC2.App.TrojanDetector
import NexusC2.App.SwarmDetector

/-!
# The fusion disagreement detector

`_detect` of `app/scenarios/s4_fusion_disagreement.py`: the tracks an air radar resolves are held
against those the optical sites see early, by their number. It reports on the first track that holds
a radar contact. With it the detectors of the registry are complete.
-/

namespace NexusC2

/-- What the sites resolve: `_by_source` and `_unique_tracks` of each. -/
structure FusionPicture (F D : Type) where
  airRadar : List (Observation F D)
  airEoir : List (Observation F D)
  ew : List (Observation F D)
  navyAirborne : List (Observation F D)
  radarTracks : List String
  airEoEarly : List String
  armyEoEarly : List String

namespace Fusion

section

variable {F D : Type} [PyFloatOps F]

open PyFloatOps

/-- `_by_source` (`app/scenarios/s4_fusion_disagreement.py:34-35`). -/
def bySource (graph : SpatialEntityGraph F D) (source : String) : List (Observation F D) :=
  graph.observations.filter fun o => Trojan.attributeText o "source" = source

/-- `o.attributes.get("track_id") or o.entity_hint`. -/
def trackName (o : Observation F D) : Json F :=
  (getOrNone o.attributes "track_id").orElse (.str o.entityHint)

/-- `_unique_tracks` (`app/scenarios/s4_fusion_disagreement.py:38-44`), in the order they come. -/
def uniqueTracks (obs : List (Observation F D)) : List String :=
  ((obs.map trackName).filter Json.truth).foldl (fun out tid => appendNew out tid.pyStr) []

/-- `_early_stamp` (`app/scenarios/s4_fusion_disagreement.py:47-52`). -/
def earlyStamp (o : Observation F D) : Except Exc Bool :=
  match getOrNone o.attributes "time_s" with
  | .null => .ok true
  | t => do .ok (le (← pyFloat t) (2.0 : F))

/-- The tracks an optical site sees early, or all of them where it sees none early
(`app/scenarios/s4_fusion_disagreement.py:67-73`). -/
def earlyTracks (obs : List (Observation F D)) : Except Exc (List String) := do
  let early ← obs.filterM earlyStamp
  let tracks := uniqueTracks early
  .ok (if tracks.isEmpty then uniqueTracks obs else tracks)

/-- `str(o.attributes.get(key, ""))`. -/
def textOr (o : Observation F D) (key : String) : String :=
  ((Assoc.get o.attributes key).getD (.str "")).pyStr

/-- `o.attributes.get("detected") is False`. -/
def undetected (o : Observation F D) : Bool :=
  match getOrNone o.attributes "detected" with
  | .bool false => true
  | _ => false

/-- A line of bearing that speaks for no emitter. -/
def rfNegative (o : Observation F D) : Bool :=
  undetected o || (getOrNone o.attributes "rf_negative").truth ||
    "no_relevant".toList.isPrefixOf (textOr o "classification").toList

/-- `ew_negative` (`app/scenarios/s4_fusion_disagreement.py:83-88`). -/
def ewNegative (ew : List (Observation F D)) : Bool := !ew.isEmpty && ew.all rfNegative

/-- A coastal contact that is unknown. -/
def unknownAirborne (o : Observation F D) : Bool :=
  Text.upperWord (textOr o "classification") = "UNKNOWN" ||
    "NAVY-UNK".toList.isPrefixOf (textOr o "track_id").toList

/-- What is looked at before the counts are compared
(`app/scenarios/s4_fusion_disagreement.py:56-97`). -/
def resolve (graph : SpatialEntityGraph F D) : Except Exc (FusionPicture F D) := do
  let airRadar := bySource graph "AIR_RADAR"
  let airEoEarly ← earlyTracks (bySource graph "AIR_EOIR")
  let armyEoEarly ← earlyTracks (bySource graph "ARMY_EOIR")
  .ok
    { airRadar := airRadar
      airEoir := bySource graph "AIR_EOIR"
      ew := bySource graph "AIR_EW" ++ bySource graph "ARMY_EW"
      navyAirborne := (bySource graph "NAVY_COASTAL_RADAR").filter unknownAirborne
      radarTracks := uniqueTracks airRadar
      airEoEarly := airEoEarly
      armyEoEarly := armyEoEarly }

/-- `count_disagree`. -/
def countDisagree (p : FusionPicture F D) : Bool :=
  p.airEoEarly.length < p.radarTracks.length || p.armyEoEarly.length < p.radarTracks.length ||
    p.airEoEarly.length ≠ p.armyEoEarly.length

omit [PyFloatOps F] in
/-- The loop over the tracks for one that holds a radar contact: a track under the empty id is passed
over while another one follows (`app/scenarios/s4_fusion_disagreement.py:103-110`). -/
def trackLoop (airRadar : List (Observation F D)) (trackId : Option String) :
    List (String × Track F D) → Option String
  | [] => trackId
  | (tid, track) :: tracks =>
    let trackId := if airRadar.any fun o => o.observationId ∈ track.observationIds then some tid
      else trackId
    match trackId with
    | none => trackLoop airRadar none tracks
    | some tid => if tid = "" then trackLoop airRadar (some tid) tracks else some tid

end

/-! ## The finding -/

section

variable {F D : Type} [PyMathOps F]

/-- `amber` (`app/scenarios/s4_fusion_disagreement.py:115-119`). -/
def amberText (p : FusionPicture F D) : String :=
  "MULTI_SITE_COUNT_DISAGREEMENT" ++ (if ewNegative p.ew then "+EW_NON_CORROBORATION" else "") ++
    (if (uniqueTracks p.navyAirborne).isEmpty then "" else "+NAVY_DELAYED_UNKNOWN")

/-- `picture` (`app/scenarios/s4_fusion_disagreement.py:121-131`). -/
def pictureText (p : FusionPicture F D) : String :=
  let navyAirN := (uniqueTracks p.navyAirborne).length
  "Air MPSTAR resolves " ++ toString p.radarTracks.length ++ " UAS while Air EO/IR sees " ++
    toString p.airEoEarly.length ++ " and Army EO/IR sees " ++ toString p.armyEoEarly.length ++
    " in the early window — multi-site disagreement." ++
    (if ewNegative p.ew then
      " EW reports no relevant RF; absence of RF must not invalidate radar/EO." else "") ++
    (if navyAirN = 0 then "" else " Navy coastal later acquires " ++ toString navyAirN ++
      " UNKNOWN airborne contacts (missing early tracks = not yet detected, not nonexistent).")

/-- `sorted(tracks)`. -/
def sortedTracks (tracks : List String) : Json F :=
  Json.strs (tracks.insertionSort fun a b => a ≤ b)

/-- `dict(Counter(keys))`. -/
def counter (keys : List String) : Fields F :=
  (keys.foldl appendNew []).map fun k => (k, .int (keys.count k))

/-- The `Finding` that is returned (`app/scenarios/s4_fusion_disagreement.py:133-161`). -/
def finding (p : FusionPicture F D) (trackId : String) (mismatchM : F) : Finding F :=
  { scenarioId := "S4_fusion_disagreement"
    trackId := trackId
    threatClass := "multi_site_uas_disagreement"
    warningMinutesEst := 12.0
    mismatchM := mismatchM
    confidence := 0.82
    pictureSummary := pictureText p
    adversarialHypothesis := "Five physical UAS share one southeast approach; site geometry and " ++
      "modality limits produce different resolved counts/subtypes. Do not fuse into one " ++
      "hallucinated super-track — correlate and cue identify."
    spoofSources := []
    approachSources := (p.airRadar.take 5).map Observation.sourceId
    otherSources := (p.ew ++ p.navyAirborne.take 5).map Observation.sourceId
    message := pictureText p
    amberAlert := some (amberText p)
    sourceBreakdown :=
      [("mpstar_tracks", sortedTracks p.radarTracks), ("air_eoir_early", sortedTracks p.airEoEarly),
        ("army_eoir_early", sortedTracks p.armyEoEarly), ("ew_negative", .bool (ewNegative p.ew)),
        ("navy_unknown_airborne", .int (uniqueTracks p.navyAirborne).length),
        ("classification_counts", .obj (counter ((p.airRadar ++ p.airEoir).map fun o =>
          Trojan.attributeText o "classification")))] }

/-- `float(abs(radar_n - air_eo_n) + abs(radar_n - army_eo_n)) * 500.0`. -/
def mismatchOf (p : FusionPicture F D) : Except Exc F :=
  let radarN : Int := p.radarTracks.length
  let apart : Int := (radarN - p.airEoEarly.length).natAbs + (radarN - p.armyEoEarly.length).natAbs
  match PyFloatOps.ofInt apart with
  | some x => .ok (x * (500.0 : F))
  | none => .error (.overflowError "int too large to convert to float")

/-- `_detect` (`app/scenarios/s4_fusion_disagreement.py:55-161`). -/
def detect (graph : SpatialEntityGraph F D) : Except Exc (Option (Finding F)) :=
  if (bySource graph "AIR_RADAR").isEmpty then .ok none
  else do
    let p ← resolve graph
    if p.radarTracks.length < 2 then .ok none
    else if !countDisagree p && !(ewNegative p.ew && 5 ≤ p.radarTracks.length) then .ok none
    else
      match trackLoop p.airRadar none graph.tracks.entries with
      | none => .ok none
      | some trackId => do
        let mismatchM ← mismatchOf p
        .ok (some (finding p trackId mismatchM))

end

end Fusion

/-! ## The registry -/

/-- The arithmetic and the texts of all the detectors. -/
class PyScenarioOps (F : Type) extends PyIntelOps F, PyReportOps F

/-- `detect` of a scenario (`app/scenarios/base.py:68-69`). -/
def RegisteredScenario.detect {F D : Type} [PyScenarioOps F] [PyChars] [PyDateTimeOrder D]
    (s : RegisteredScenario) (graph : SpatialEntityGraph F D)
    (loadPois : Except Exc (List (Poi F))) : Except Exc (Option (Finding F)) :=
  match s with
  | .s1AisSpoof => AisSpoof.detect graph
  | .s1Trojan => Trojan.detect graph loadPois
  | .s2OsintSwarm => OsintSwarm.detect graph
  | .s3SarAis => SarAis.detect graph
  | .s4FusionDisagreement => Fusion.detect graph

end NexusC2

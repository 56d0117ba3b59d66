import NexusC2.App.SarAisDetector

/-!
# The AIS spoof detector

`_detect` of `app/scenarios/s1_sea_approach_spoof.py`: on one track, AIS that reports a contact as
nearly stationary and another sensor that sees it move, far enough apart, are a finding.
-/

namespace NexusC2

/-- What is known of the track the detector reports. -/
structure SpoofPicture (F D : Type) where
  trackId : String
  obs : List (Observation F D)
  spoof : List (Observation F D)
  approach : List (Observation F D)
  rf : List (Observation F D)
  mismatch : F
  confidence : F
  warningMin : F

section

variable {F D : Type} [PyMathOps F]

/-- The inner loop of `max_pairwise_mismatch_m`. -/
def mismatchRow (a : Observation F D) (maxD : F) : List (Observation F D) → Except Exc F
  | [] => .ok maxD
  | b :: bs => do
    let d ← haversineM a.latitude a.longitude b.latitude b.longitude
    mismatchRow a (PyFloatOps.max maxD d) bs

/-- The outer loop of `max_pairwise_mismatch_m`. -/
def mismatchLoop (groupB : List (Observation F D)) (maxD : F) :
    List (Observation F D) → Except Exc F
  | [] => .ok maxD
  | a :: as => do
    let maxD ← mismatchRow a maxD groupB
    mismatchLoop groupB maxD as

/-- `max_pairwise_mismatch_m` (`app/agent.py:33-38`). -/
def maxPairwiseMismatchM (groupA groupB : List (Observation F D)) : Except Exc F :=
  mismatchLoop groupB (0.0 : F) groupA

end

namespace AisSpoof

section

variable {F D : Type} [PyTextOps F]

open PyFloatOps PyTextOps

/-- `vendor_ids`, without its order: only their number is told. -/
def vendorIds (obs : List (Observation F D)) : List String :=
  (obs.map fun o =>
    ((Assoc.get o.attributes "vendor_track").getD (.str o.entityHint)).pyStr).foldl appendNew []

/-- `picture`. -/
def pictureText (p : SpoofPicture F D) : String :=
  "SEA APPROACH WARNING (~" ++ fmt0 p.warningMin ++ " min): geometry/motion associate " ++
    String.ofList (intText (vendorIds p.obs).length) ++
    " vendor track IDs without a shared identifier. AIS reports nearly stationary while radar/EO " ++
    "show ~20 kt inbound (~" ++ fmt0 p.mismatch ++ " m disagreement)."

/-- `hypo`. -/
def hypothesisText : String :=
  "If AIS_BROADCAST is false/spoofed, the fused picture remains an inbound surface contact on " ++
    "the sea approach (radar+EO). If radar/EO are false, the threat collapses to a benign AIS " ++
    "track — do not task on AIS alone."

/-- The `Finding` that is returned (`app/scenarios/s1_sea_approach_spoof.py:103-116`). -/
def finding (p : SpoofPicture F D) : Finding F :=
  { scenarioId := "S1_ais_spoof"
    trackId := p.trackId
    threatClass := "sea_approach_deception"
    warningMinutesEst := p.warningMin
    mismatchM := p.mismatch
    confidence := p.confidence
    pictureSummary := pictureText p
    adversarialHypothesis := hypothesisText
    spoofSources := p.spoof.map Observation.sourceId
    approachSources := p.approach.map Observation.sourceId
    otherSources := p.rf.map Observation.sourceId
    message := pictureText p
    amberAlert := none
    sourceBreakdown := [] }

/-- `spoof`: what AIS reports as nearly stationary. -/
def spoofOf (obs : List (Observation F D)) : Except Exc (List (Observation F D)) :=
  obs.filterM fun o => do .ok (le (← speedKt o) (1.0 : F) && o.modality = "ais")

/-- `approach`: what is seen to move. -/
def approachOf (obs : List (Observation F D)) : Except Exc (List (Observation F D)) :=
  obs.filterM fun o => do .ok (le (10.0 : F) (← speedKt o))

/-- The rest of the loop for a track whose mismatch is large enough
(`app/scenarios/s1_sea_approach_spoof.py:90-91`). -/
def picture (trackId : String) (obs spoof approach : List (Observation F D)) (mismatch : F) :
    Except Exc (SpoofPicture F D) := do
  let rf := SarAis.ofModality "rf" obs
  let forApproach ← SarAis.timesLength (0.1 : F) approach
  let forRf : F := if rf.isEmpty then 0.0 else 0.08
  let minutes ← pyDiv mismatch (100.0 : F)
  .ok
    { trackId := trackId
      obs := obs
      spoof := spoof
      approach := approach
      rf := rf
      mismatch := mismatch
      confidence := PyMathOps.min (0.95 : F) ((0.55 : F) + forApproach + forRf)
      warningMin := PyFloatOps.max (3.0 : F) ((18.0 : F) - minutes) }

/-- What the loop makes of one track: the picture of a finding, or nothing. -/
def examine (graph : SpatialEntityGraph F D) (track : Track F D) :
    Except Exc (Option (SpoofPicture F D)) := do
  let obs := observationsForTrack graph track.trackId
  if obs.length < 2 then .ok none
  else do
    let spoof ← spoofOf obs
    let approach ← approachOf obs
    if spoof.isEmpty || approach.isEmpty then .ok none
    else do
      let mismatch ← maxPairwiseMismatchM spoof approach
      if lt mismatch (500.0 : F) then .ok none
      else do
        let p ← picture track.trackId obs spoof approach mismatch
        .ok (some p)

/-- The loop over the tracks. -/
def detectLoop (graph : SpatialEntityGraph F D) :
    List (Track F D) → Except Exc (Option (Finding F))
  | [] => .ok none
  | track :: tracks => do
    match ← examine graph track with
    | some p => .ok (some (finding p))
    | none => detectLoop graph tracks

/-- `_detect` (`app/scenarios/s1_sea_approach_spoof.py:76-117`). -/
def detect (graph : SpatialEntityGraph F D) : Except Exc (Option (Finding F)) :=
  detectLoop graph graph.tracks.values

end

end AisSpoof

end NexusC2

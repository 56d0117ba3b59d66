import NexusC2.App.Runtime
import NexusC2.Core.Ontology

/-!
# Tasking a contact

`app/agent.py`: the observation a tasking goes by and the Tier-1 COA that is built on it. A COA
with an intent of pursuit goes to a waypoint ahead of the contact.
-/

namespace NexusC2

/-- `LEAD_PURSUIT_INTENTS` (`core/coa.py:13-15`). -/
def leadPursuitIntents : List String :=
  ["APPROACH_PATROL", "CUE_AND_IDENTIFY", "GNSS_DENIAL_AND_GBAD_CUE"]

/-- `all_sources` (`app/scenarios/base.py:32-33`). -/
def Finding.allSources {F : Type} (f : Finding F) : List String :=
  (f.approachSources ++ f.spoofSources ++ f.otherSources).foldl appendNew []

section

variable {F D : Type} [PyMathOps F]

open PyFloatOps

/-- `speed_kt` (`app/agent.py:22-23`). -/
def speedKt (o : Observation F D) : Except Exc F := do
  let default ← pyDiv o.speedMps (0.514444 : F)
  match Assoc.get o.attributes "speed_kt" with
  | some v => pyFloat v
  | none => .ok default

omit [PyMathOps F] in
/-- `observations_for_track` (`app/agent.py:26-30`). -/
def observationsForTrack (graph : SpatialEntityGraph F D) (trackId : String) :
    List (Observation F D) :=
  match graph.getTrack trackId with
  | none => []
  | some track => graph.observations.filter fun o => o.observationId ∈ track.observationIds

/-- `max(os, key=lambda o: o.confidence)`: the first of the most confident ones. -/
def mostConfident : List (Observation F D) → Option (Observation F D)
  | [] => none
  | o :: os =>
    some (os.foldl (fun best o => if lt best.confidence o.confidence then o else best) o)

/-- `preferred_tasking_kinematics` (`app/agent.py:52-75`), preferring a fast contact: latitude,
longitude, speed in knots and heading. -/
def preferredTaskingKinematics (graph : SpatialEntityGraph F D) (finding : Finding F) :
    Except Exc (F × F × F × Option F) :=
  match graph.getTrack finding.trackId with
  | none => .error .assertion
  | some track => do
    let obs := observationsForTrack graph finding.trackId
    let fast ← obs.filterM fun o => do .ok (le (5.0 : F) (← speedKt o))
    match mostConfident fast <|> mostConfident obs with
    | some chosen => do
      let heading ← headingOf chosen
      let speed ← speedKt chosen
      .ok (chosen.latitude, chosen.longitude, speed, heading)
    | none => do
      let speed ← pyDiv track.speedMps ktToMps
      .ok (track.latitude, track.longitude, speed, none)

/-- The COA of `make_tier1_coa` before it is turned into a pursuit (`app/agent.py:101-128`). -/
def tier1Draft [Sha256] (coaId : String) (track : Track F D) (finding : Finding F)
    (intent : String) (timeoutSeconds : F) (skt : Option F) (lat lon contactSpeed : F) :
    CourseOfAction F :=
  { coaId := coaId
    tier := .tier1Hitl
    targetEntityId := finding.trackId
    targetCoordinates := (lat, lon)
    intent := intent
    timeoutSeconds := timeoutSeconds
    preConditions := [("contradiction", .bool true), ("mismatch_m", .float finding.mismatchM),
      ("threat_class", .str finding.threatClass),
      ("warning_minutes_est", .float finding.warningMinutesEst)]
    postConditions := [("identify_or_clarify", .bool true)]
    invariants := [("fail_safe", .str "STATION_KEEP"), ("comm_loss", .str "STATION_KEEP")]
    confidence := finding.confidence
    corroboratingSources := finding.allSources
    rawInputDigest := track.fusedDigest
    speedKt := skt
    metadata := [("scenario_id", .str finding.scenarioId),
      ("picture_summary", .str finding.pictureSummary),
      ("adversarial_hypothesis", .str finding.adversarialHypothesis),
      ("finding", .str (if finding.message = "" then finding.pictureSummary else finding.message)),
      ("contact_speed_kt", .float contactSpeed), ("amber_alert", Json.ofOption finding.amberAlert),
      ("source_breakdown", .obj finding.sourceBreakdown),
      ("contact_coordinates", .arr [.float lat, .float lon])] }

/-- `make_tier1_coa` (`app/agent.py:78-140`), from the default own platform, for a COA with this
id. -/
def makeTier1Coa [Sha256] (coaId : String) (graph : SpatialEntityGraph F D) (finding : Finding F)
    (intent : String) (timeoutSeconds : F) (speedKtOverride : Option F)
    (applyContactSpeed : Bool) : Except Exc (CourseOfAction F) :=
  match graph.getTrack finding.trackId with
  | none => .error .assertion
  | some track => do
    let (lat, lon, contactSpeed, heading) ← preferredTaskingKinematics graph finding
    let skt := match speedKtOverride with
      | some speed => some speed
      | none => if applyContactSpeed then some contactSpeed else none
    let coa := tier1Draft coaId track finding intent timeoutSeconds skt lat lon contactSpeed
    if intent ∈ leadPursuitIntents then do
      let poi ← computeLeadPursuitPoi lat lon heading (contactSpeed * ktToMps)
      coa.applyLeadPursuit poi
    else .ok coa

/-- A COA is the draft for its track, as it is or with the waypoint of a pursuit. -/
theorem makeTier1Coa_cases [Sha256] {coaId : String} {graph : SpatialEntityGraph F D}
    {finding : Finding F} {intent : String} {timeoutSeconds : F} {speed : Option F}
    {contact : Bool} {coa : CourseOfAction F}
    (h : makeTier1Coa coaId graph finding intent timeoutSeconds speed contact = .ok coa) :
    ∃ track skt lat lon contactSpeed, graph.getTrack finding.trackId = some track ∧
      ((intent ∈ leadPursuitIntents ∧ ∃ poi, (tier1Draft coaId track finding intent timeoutSeconds
          skt lat lon contactSpeed).applyLeadPursuit poi = .ok coa) ∨
        (intent ∉ leadPursuitIntents ∧ coa = tier1Draft coaId track finding intent timeoutSeconds
          skt lat lon contactSpeed)) := by
  unfold makeTier1Coa at h
  cases htrack : graph.getTrack finding.trackId with
  | none =>
    rw [htrack] at h
    cases h
  | some track =>
    rw [htrack] at h
    obtain ⟨⟨lat, lon, contactSpeed, heading⟩, -, h⟩ := except_bind_eq_ok.mp h
    dsimp only at h
    split at h
    · rename_i hpursuit
      obtain ⟨poi, -, h⟩ := except_bind_eq_ok.mp h
      exact ⟨track, _, lat, lon, contactSpeed, rfl, Or.inl ⟨hpursuit, poi, h⟩⟩
    · rename_i hpursuit
      cases h
      exact ⟨track, _, lat, lon, contactSpeed, rfl, Or.inr ⟨hpursuit, rfl⟩⟩

end

end NexusC2

import NexusC2.App.C2Cycle
import NexusC2.App.Southbound
import NexusC2.App.SwarmDetector
import NexusC2.App.Temporal

/-!
# The hero timeline

`_build_s2_timeline` (`app/scenarios/temporal.py`): the 19 steps of the swarm scenario with the events
of each, and the script that plays them into the ontology and looks for the first amber
(`scripts/stream_events.py`).
-/

namespace NexusC2

namespace Temporal

section

variable {F D : Type} [PyFloatOps F] [Preorder D] [PyAnchor D]

/-- `_CUE_LAT`, `_CUE_LON`, `_RADAR_LAT` and `_RADAR_LON` (`app/scenarios/temporal.py:12-13`). -/
def cueLat : F := 1.3510
def cueLon : F := 103.9900
def radarLat : F := 1.3618
def radarLon : F := 103.9900

/-- `_INTEL_RUMOR` and `_INTEL_FILTERED` (`app/scenarios/temporal.py:15-20`). -/
def intelRumor : String := "Passenger chatter: weird lights below the wing — unverified."
def intelFiltered : String :=
  "In-flight passenger OSINT (commercial flight bound for Japan): smartphone video/photos of ~50 " ++
    "unknown delta-wing drones / Shahed-class airframes flying low below the aircraft. No " ++
    "coordinates or destination stated. Estimated vector bearing 248° at ~105 kt."

/-- `_evt` (`app/scenarios/temporal.py:68-95`). -/
def evt (t0 : D) (tMinusS : Nat) (sourceId entityId modality : String) (lat lon confidence speedKt : F)
    (headingDeg : Option F) (attrs : Fields F) : Fields F :=
  [("source_id", .str sourceId), ("entity_id", .str entityId), ("latitude", .float lat),
    ("longitude", .float lon), ("speed_kt", .float speedKt), ("confidence", .float confidence),
    ("observed_at", .str (PyAnchor.isoformat (PyAnchor.secondsBefore t0 tMinusS))),
    ("modality", .str modality)] ++ attrs ++
  match headingDeg with
  | some heading => [("heading_deg", .float heading)]
  | none => []

/-- The steps 1 to 5 of `_build_s2_timeline` (`app/scenarios/temporal.py:103-202`): label and events. -/
def early (t0 : D) : List (String × List (Fields F)) :=
  [("social_rumor_seed",
      [evt t0 60 "CIVILIAN_SOCIAL_RECON" "OSINT-SWARM-CLAIM" "social" cueLat cueLon 0.28 0.0 none
        [("note", .str "unfiltered_coastal_rumor"), ("intel_text", .str intelRumor),
          ("claimed_count", .int 0), ("objective", .str "Objective Bravo"),
          ("vendor_track", .str "OSINT-SWARM-CLAIM")]]),
    ("social_rumor_amplify",
      [evt t0 56 "CIVILIAN_SOCIAL_RECON" "OSINT-SWARM-CLAIM" "social" cueLat cueLon 0.35 0.0 none
        [("note", .str "exaggerated_swarm_chatter"),
          ("intel_text", .str "Instagram: '20 drones' - still unfiltered."),
          ("claimed_count", .int 0), ("objective", .str "Objective Bravo"),
          ("vendor_track", .str "OSINT-SWARM-CLAIM")]]),
    ("sparse_radar_noise",
      [evt t0 52 "GAP_FILLER_RADAR" "RADAR-NOISE-EARLY" "radar" (cueLat + (0.002 : F))
        (cueLon + (0.001 : F)) 0.22 40.0 (some 240.0)
        [("note", .str "sparse_unassociated_blip"), ("contact_count", .int 0),
          ("vendor_track", .str "RADAR-NOISE-EARLY")]]),
    ("recon_chatter_persist",
      [evt t0 48 "CIVILIAN_SOCIAL_RECON" "OSINT-SWARM-CLAIM" "social" cueLat cueLon 0.40 0.0 none
        [("note", .str "recon_net_still_noisy"), ("intel_text", .str intelRumor),
          ("claimed_count", .int 0), ("vendor_track", .str "OSINT-SWARM-CLAIM")]]),
    ("sparse_radar_fade",
      [evt t0 45 "GAP_FILLER_RADAR" "RADAR-NOISE-EARLY" "radar" (cueLat + (0.0015 : F))
        (cueLon + (0.0008 : F)) 0.18 35.0 none
        [("note", .str "blip_fading"), ("contact_count", .int 0),
          ("vendor_track", .str "RADAR-NOISE-EARLY")]])]

/-- The steps 6 to 10 (`app/scenarios/temporal.py:205-310`). -/
def mid (t0 : D) : List (String × List (Fields F)) :=
  [("radar_lock_inbound",
      [evt t0 40 "GAP_FILLER_RADAR" "RADAR-AIR-551" "radar" radarLat radarLon 0.70 85.0 (some 248.0)
        [("note", .str "high_speed_inbound_lock"), ("altitude_m_est", .int 220),
          ("contact_count", .int 0), ("vendor_track", .str "RADAR-AIR-551")]]),
    ("radar_lock_strengthen",
      [evt t0 36 "GAP_FILLER_RADAR" "RADAR-AIR-551" "radar" radarLat radarLon 0.78 88.0 (some 248.0)
        [("note", .str "track_quality_up"), ("altitude_m_est", .int 210), ("contact_count", .int 0),
          ("vendor_track", .str "RADAR-AIR-551")]]),
    ("optical_slew_start",
      [evt t0 32 "EO_SKY_WATCH" "EO-BLUR-OBJ-BRAVO" "optical" cueLat cueLon 0.68 65.0 (some 250.0)
        [("note", .str "camera_slewing_to_cue"), ("altitude_m_est", .int 180),
          ("blur", .bool false), ("vendor_track", .str "EO-BLUR-OBJ-BRAVO")]]),
    ("optical_slew_hold",
      [evt t0 28 "EO_SKY_WATCH" "EO-BLUR-OBJ-BRAVO" "optical" cueLat cueLon 0.62 68.0 (some 250.0)
        [("note", .str "slew_hold_no_id"), ("blur", .bool false),
          ("vendor_track", .str "EO-BLUR-OBJ-BRAVO")]]),
    ("radar_firm_clutter_contacts",
      [evt t0 25 "GAP_FILLER_RADAR" "RADAR-AIR-551" "radar" radarLat radarLon 0.84 105.0 (some 248.0)
        [("note", .str "intermittent_low_rcs_clutter_contacts"), ("altitude_m_est", .int 200),
          ("contact_count", .int 4), ("vendor_track", .str "RADAR-AIR-551")]])]

/-- The steps 11 to 15 (`app/scenarios/temporal.py:313-425`). -/
def amber (t0 : D) : List (String × List (Fields F)) :=
  [("social_passenger_count_50",
      [evt t0 20 "CIVILIAN_SOCIAL_RECON" "OSINT-SWARM-CLAIM" "social" cueLat cueLon 0.55 0.0 none
        [("note", .str "airborne_passenger_swarm_sighting"), ("intel_text", .str intelFiltered),
          ("claimed_count", .int 50), ("objective", .str "unknown_ingress"),
          ("vendor_track", .str "OSINT-SWARM-CLAIM")]]),
    ("adsb_empty_sector",
      [evt t0 17 "ADS_B_SECTOR_EMPTY" "ADSB-NULL-SECTOR" "adsb" cueLat cueLon 0.4 0.0 none
        [("note", .str "no_cooperative_squawk"), ("vendor_track", .str "ADSB-NULL"),
          ("empty_sector", .bool true)]]),
    ("eo_blur_amber_threshold",
      [evt t0 15 "EO_SKY_WATCH" "EO-DELTA-WING-BRAVO" "optical" cueLat cueLon 0.42 100.0 (some 248.0)
        [("note", .str "delta_wing_thermal_silhouette"), ("altitude_m_est", .int 160),
          ("blur", .bool true), ("vendor_track", .str "EO-DELTA-WING-BRAVO")]]),
    ("acoustic_and_rf_silent",
      [evt t0 12 "COASTAL_ACOUSTIC_ARRAY" "ACOUSTIC-SHADED-HARMONIC" "acoustic"
        ((cueLat + radarLat) / (2.0 : F)) cueLon 0.72 0.0 none
        [("note", .str "two_stroke_moped_harmonic_shahed"),
          ("engine_signature", .str "2stroke_moped"),
          ("vendor_track", .str "ACOUSTIC-SHADED-HARMONIC")],
        evt t0 12 "RF_PASSIVE_ARRAY" "RF-SILENT-SCAN" "rf" ((cueLat + radarLat) / (2.0 : F)) cueLon
          0.7 0.0 none
          [("note", .str "no_emitter_detected_autonomous_gps_ins"), ("rf_silent", .bool true),
            ("control_mode", .str "GPS_INS_WAYPOINT"), ("vendor_track", .str "RF-SILENT-SCAN")]]),
    ("amber_reinforced",
      [evt t0 10 "CIVILIAN_SOCIAL_RECON" "OSINT-SWARM-CLAIM" "social" cueLat cueLon 0.58 0.0 none
        [("note", .str "count_claim_holds"), ("intel_text", .str intelFiltered),
          ("claimed_count", .int 50), ("objective", .str "unknown_ingress"),
          ("vendor_track", .str "OSINT-SWARM-CLAIM")]])]

/-- The steps 16 to 19 (`app/scenarios/temporal.py:428-433`): no sensors. -/
def late : List (String × List (Fields F)) :=
  [("warning_picture_ready", []), ("hitl_gate_countdown", []), ("tasking_proposal_cue", []),
    ("recipient_ack_cue", [])]

/-- `_build_s2_timeline` (`app/scenarios/temporal.py:98-447`). -/
def buildS2Timeline (t0 : D) : List (StreamStep F) :=
  (early t0 ++ mid t0 ++ amber t0 ++ late).zipIdx.map fun (p : (String × List (Fields F)) × Nat) =>
    { step := p.2 + 1
      tMinusS := tMinus.getD p.2 0
      band := bandFor (p.2 + 1)
      label := p.1.1
      events := p.1.2 }

end

/-! ## The script -/

section

variable {F D : Type} [PyIntelOps F] [PyChars] [PyDateTime D] [Sha256]

/-- The loop of `_play_local` (`scripts/stream_events.py:58-66`): the graph after the steps, and the
first step with a finding. The events of a step are observed on hosts of their own. -/
def playLoop (host : Nat → Nat → Southbound.Host F D) (graph : SpatialEntityGraph F D)
    (amberStep : Option Nat) : List (StreamStep F) →
      Except Exc (SpatialEntityGraph F D × Option Nat)
  | [] => .ok (graph, amberStep)
  | step :: steps => do
    let observations ← step.events.zipIdx.mapM fun p =>
      Southbound.normalizeSensorEvent (host step.step p.2) p.1
    let graph ← graph.ingestMany observations
    let finding ← OsintSwarm.detect graph
    let amberStep := amberStep.or (if finding.isSome then some step.step else none)
    playLoop host graph amberStep steps

/-- The exit status of `_play_local` for the swarm scenario (`scripts/stream_events.py:94-108`). -/
def playStatus (amberStep : Option Nat) : Nat :=
  match amberStep with
  | some step => if step < 11 then 1 else 0
  | none => 1

end

end Temporal

end NexusC2

import NexusC2.App.Agent

/-!
# The registered scenarios

The registry (`app/scenarios/registry.py`), how it is searched (`app/scenarios/base.py`), and the
COA each scenario builds. Their events and detectors are not needed for it.
-/

namespace NexusC2

/-- `SCENARIOS` (`app/scenarios/registry.py:12-18`). -/
inductive RegisteredScenario where
  | s1Trojan
  | s3SarAis
  | s1AisSpoof
  | s2OsintSwarm
  | s4FusionDisagreement
  deriving DecidableEq, Repr

/-- The key of a scenario, which is its id. -/
def RegisteredScenario.id : RegisteredScenario → String
  | s1Trojan => "S1_trojan"
  | s3SarAis => "S3_sar_ais"
  | s1AisSpoof => "S1_ais_spoof"
  | s2OsintSwarm => "S2_osint_swarm"
  | s4FusionDisagreement => "S4_fusion_disagreement"

/-- The scenarios in the order of the registry. -/
def registry : List RegisteredScenario :=
  [.s1Trojan, .s3SarAis, .s1AisSpoof, .s2OsintSwarm, .s4FusionDisagreement]

/-- `get_scenario` (`app/scenarios/base.py:81-92`). -/
def getScenario (scenarioId : String) : Except Exc RegisteredScenario :=
  let raw := Text.strip scenarioId
  match registry.find? fun s => s.id = raw with
  | some s => .ok s
  | none =>
    match registry.find? fun s => Text.upperWord s.id = Text.upperWord raw with
    | some s => .ok s
    | none => .error (.keyError ("Unknown scenario " ++ String.ofList (Json.reprStr scenarioId) ++
        "; choose one of: S1_ais_spoof, S1_trojan, S2_osint_swarm, S3_sar_ais, " ++
        "S4_fusion_disagreement"))

section

variable {F D : Type} [PyMathOps F] [Sha256] (coaId : String)
  (graph : SpatialEntityGraph F D) (finding : Finding F) (timeoutSeconds : F)

/-- The fields option A sets where the tank farm is a POI
(`app/scenarios/s1_trojan_mothership.py:210-217`). -/
def optionA (finding : Finding F) : Fields F :=
  [("option_id", .str "A"), ("dangerous_proposal_draft", .bool true),
    ("prob_hit", .float (0.98 : F)), ("cost_usd", .int 120000),
    ("rationale", .str "AI raw: Terminal SPYDER intercept 30 s before POI impact (98% Pk)."),
    ("poi_eta_sec", (Assoc.get finding.sourceBreakdown "poi_eta_sec").getD (.obj []))]

/-- `_build_coa` (`app/scenarios/s1_trojan_mothership.py:191-221`). -/
def buildTrojanCoa (loadPois : Except Exc (List (Poi F))) : Except Exc (CourseOfAction F) := do
  let coa ← makeTier1Coa coaId graph finding "TERMINAL_SAM_INTERCEPT" timeoutSeconds none false
  let pois ← loadPois
  match pois.find? fun p => p.poiId = some "POI-01" with
  | none => .ok coa
  | some poi => .ok { coa with
      targetCoordinates := (poi.centerLat, poi.centerLon)
      metadata := Assoc.update coa.metadata (optionA finding)
      intent := "TERMINAL_SAM_INTERCEPT"
      tier := .tier1Hitl }

/-- `_build_coa` (`app/scenarios/s3_lane_spof_break.py:222-230`). -/
def buildSarAisCoa : Except Exc (CourseOfAction F) :=
  makeTier1Coa coaId graph finding "APPROACH_PATROL" timeoutSeconds none true

/-- `_build_coa` (`app/scenarios/s1_sea_approach_spoof.py:120-128`). -/
def buildAisSpoofCoa : Except Exc (CourseOfAction F) :=
  makeTier1Coa coaId graph finding "ISR_IDENTIFY_CONTACT" timeoutSeconds none true

/-- `_build_coa` (`app/scenarios/s2_air_corridor_attritable.py:170-181`). -/
def buildOsintSwarmCoa : Except Exc (CourseOfAction F) :=
  makeTier1Coa coaId graph finding "GNSS_DENIAL_AND_GBAD_CUE" timeoutSeconds none false

/-- `_build_coa` (`app/scenarios/s4_fusion_disagreement.py:164-176`). -/
def buildFusionCoa : Except Exc (CourseOfAction F) :=
  makeTier1Coa coaId graph finding "CUE_AND_IDENTIFY" timeoutSeconds none false

/-- `build_coa` of a scenario (`app/scenarios/base.py:71-78`). -/
def RegisteredScenario.buildCoa (s : RegisteredScenario) (loadPois : Except Exc (List (Poi F))) :
    Except Exc (CourseOfAction F) :=
  match s with
  | .s1Trojan => buildTrojanCoa coaId graph finding timeoutSeconds loadPois
  | .s3SarAis => buildSarAisCoa coaId graph finding timeoutSeconds
  | .s1AisSpoof => buildAisSpoofCoa coaId graph finding timeoutSeconds
  | .s2OsintSwarm => buildOsintSwarmCoa coaId graph finding timeoutSeconds
  | .s4FusionDisagreement => buildFusionCoa coaId graph finding timeoutSeconds

end

end NexusC2

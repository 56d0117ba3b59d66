import NexusC2.App.Scenarios
import NexusC2.Misc.JsonLoads

/-!
# The interpreter

`app/llm_interpreter.py`: a picture is interpreted by rules or by the reply of an OpenAI-compatible
endpoint, and rules take over whatever the endpoint or its reply raises. The endpoint is given by
its reply, the body of the response or an exception; the prompt it is sent is left out. What the
path of the endpoint raises is caught in `interpret`, and its messages are cut short here.
-/

namespace NexusC2

/-- `Hypothesis` (`app/llm_interpreter.py:37-44`). -/
structure Hypothesis (F : Type) [PyFloatOps F] where
  label : String
  claim : String
  confidence : F
  supportsThreat : Bool
  modalityHints : List String
  bounded : PyFloatOps.le (0.0 : F) confidence = true ∧ PyFloatOps.le confidence (1.0 : F) = true

/-- `_DEFAULT_INTENTS` (`app/llm_interpreter.py:29-34`). -/
def defaultIntents : List (String × String) :=
  [("S1_trojan", "OFFSHORE_INTERCEPT_RF_SOFTKILL"), ("S3_sar_ais", "APPROACH_PATROL"),
    ("S1_ais_spoof", "ISR_IDENTIFY_CONTACT"), ("S2_osint_swarm", "GNSS_DENIAL_AND_GBAD_CUE")]

/-- The intents a reply may have (`app/llm_interpreter.py:278-284`). -/
def llmIntents : List String :=
  ["CUE_AND_IDENTIFY", "GNSS_DENIAL_AND_GBAD_CUE", "ISR_IDENTIFY_CONTACT", "APPROACH_PATROL",
    "INSPECT_TARGET"]

/-- The environment variables of the endpoint: `LLM_BASE_URL`, empty where it is not set,
`LLM_MODEL` and `LLM_TIMEOUT_S`. -/
structure LlmEnv where
  baseUrl : String
  model : Option String
  timeoutS : Option String

/-- `llm_configured` (`app/llm_interpreter.py:60-61`). -/
def LlmEnv.configured (env : LlmEnv) : Bool := Text.strip env.baseUrl ≠ ""

/-- `_intent_for` (`app/llm_interpreter.py:64-65`). -/
def intentFor {F : Type} (finding : Finding F) : String :=
  (Assoc.get defaultIntents (Text.upperWord finding.scenarioId)).getD "INSPECT_TARGET"

section

variable {F : Type} [PyFloatOps F]

open PyFloatOps

/-! ## Hypotheses -/

/-- `Hypothesis(...)`; the message is the first line of the one of the validation error. -/
def Hypothesis.make (label claim : String) (confidence : F) (supportsThreat : Bool)
    (modalityHints : List String) : Except Exc (Hypothesis F) :=
  if h : le (0.0 : F) confidence = true ∧ le confidence (1.0 : F) = true then
    .ok ⟨label, claim, confidence, supportsThreat, modalityHints, h⟩
  else .error (.valueError "1 validation error for Hypothesis")

/-- `model_dump()` of a hypothesis. -/
def Hypothesis.modelDump (h : Hypothesis F) : Json F :=
  .obj [("label", .str h.label), ("claim", .str h.claim), ("confidence", .float h.confidence),
    ("supports_threat", .bool h.supportsThreat), ("modality_hints", Json.strs h.modalityHints)]

/-- `InterpretationResult(...)` with its bounds (`app/llm_interpreter.py:47-57`). -/
def InterpretationResult.make (hypotheses : List (Hypothesis F)) (confidence : F)
    (candidateCoa : CourseOfAction F) (pictureSummary adversarialHypothesis source : String)
    (model : Option String) : Except Exc (InterpretationResult F) :=
  if le (0.0 : F) confidence && le confidence (1.0 : F) then
    .ok
      { hypotheses := hypotheses.map Hypothesis.modelDump
        confidence := confidence
        candidateCoa := candidateCoa
        pictureSummary := pictureSummary
        adversarialHypothesis := adversarialHypothesis
        source := source
        model := model
        error := none }
  else .error (.valueError "1 validation error for InterpretationResult")

/-- The hypotheses of the rules (`app/llm_interpreter.py:103-158`). -/
def ruleHypotheses (finding : Finding F) : Except Exc (List (Hypothesis F)) := do
  let amber ← match finding.amberAlert with
    | none | some "" => .ok []
    | some alert => do
      let h ← Hypothesis.make "sensor_contradiction"
        ("Amber " ++ alert ++ ": modalities disagree (mismatch ≈ " ++ fmt0 finding.mismatchM ++
          " m).")
        (PyMathOps.min (0.95 : F) (PyFloatOps.max (0.4 : F) finding.confidence)) true
        (finding.sourceBreakdown.map Prod.fst)
      .ok [h]
  let spoofed ← finding.spoofSources.mapM fun spoof =>
    Hypothesis.make "spoof_or_manipulated"
      ("Source " ++ spoof ++ " may be spoofed / delayed / exaggerated.") (0.55 : F) true
      ["ais", "social"]
  let approaching ← finding.approachSources.mapM fun approach =>
    Hypothesis.make "corroborated_approach"
      ("Source " ++ approach ++ " supports an inbound / approach picture.") (0.7 : F) true
      ["radar", "optical", "rf"]
  let collapse ← if finding.adversarialHypothesis = "" then .ok []
    else do
      let h ← Hypothesis.make "collapse_condition" finding.adversarialHypothesis (0.5 : F) false []
      .ok [h]
  let hypotheses := amber ++ spoofed ++ approaching ++ collapse
  if hypotheses.isEmpty then do
    let claim := if finding.pictureSummary ≠ "" then finding.pictureSummary
      else if finding.message ≠ "" then finding.message else "No clear discrepancy."
    let h ← Hypothesis.make "insufficient_picture" claim finding.confidence
      (le (0.5 : F) finding.confidence) []
    .ok [h]
  else .ok hypotheses

/-! ## The reply -/

/-- The values a `for` loop runs over. -/
def Json.iter : Json F → Except Exc (List (Json F))
  | .arr vs => .ok vs
  | .obj fs => .ok (fs.map fun p => .str p.1)
  | .str s => .ok (s.toList.map fun c => .str (String.ofList [c]))
  | _ => .error (.typeError "object is not iterable")

/-- `v[key]` of any value. -/
def Json.subscript (key : String) : Json F → Except Exc (Json F)
  | .obj fs => item fs key
  | _ => .error (.typeError "indices must be integers or slices, not str")

/-- `v[0]`. -/
def Json.first : Json F → Except Exc (Json F)
  | .arr (v :: _) => .ok v
  | .arr [] => .error (.indexError "list index out of range")
  | .str s =>
    match s.toList with
    | c :: _ => .ok (.str (String.ofList [c]))
    | [] => .error (.indexError "string index out of range")
  | .obj _ => .error (.keyError "0")
  | _ => .error (.typeError "object is not subscriptable")

/-- `json.loads(text)`. -/
def loadsOrRaise (text : List Char) : Except Exc (Json F) :=
  match Json.loads text with
  | some v => .ok v
  | none => .error (.valueError "JSONDecodeError")

/-- `data["choices"][0]["message"]["content"]` of a body, which must be a string to be stripped. -/
def replyContent (body : String) : Except Exc String := do
  let data ← loadsOrRaise (F := F) body.toList
  let choice ← (← data.subscript "choices").first
  match ← (← choice.subscript "message").subscript "content" with
  | .str content => .ok content
  | _ => .error (.attributeError "object has no attribute 'strip'")

/-- The text between the fences, where there are any (`app/llm_interpreter.py:253-261`). -/
def unfenced (content : String) : List Char :=
  let fence := ['\x60', '\x60', '\x60']
  let text := Text.stripChars content.toList
  if fence.isPrefixOf text then
    let lines := Text.splitlines text
    let lines := match lines with
      | line :: rest => if fence.isPrefixOf line then rest else lines
      | [] => []
    let lines := match lines.getLast? with
      | some line => if fence.isPrefixOf (Text.stripChars line) then lines.dropLast else lines
      | none => lines
    Text.stripChars (List.intercalate ['\n'] lines)
  else text

/-- `_parse_llm_json` (`app/llm_interpreter.py:252-265`). -/
def parseLlmJson (content : String) : Except Exc (Fields F) := do
  match ← loadsOrRaise (unfenced content) with
  | .obj payload => .ok payload
  | _ => .error (.valueError "LLM response JSON must be an object")

/-- The hypotheses of a payload that are objects (`app/llm_interpreter.py:361-374`). -/
def payloadHypotheses (payload : Fields F) : Except Exc (List (Hypothesis F)) := do
  let items ← ((getOrNone payload "hypotheses").orElse (.arr [])).iter
  (items.filterMap Json.obj?).mapM fun fields => do
    let confidence ← pyFloat ((Assoc.get fields "confidence").getD (.float (0.5 : F)))
    let hints ← ((getOrNone fields "modality_hints").orElse (.arr [])).iter
    Hypothesis.make ((Assoc.get fields "label").getD (.str "hypothesis")).pyStr
      ((Assoc.get fields "claim").getD (.str "")).pyStr (clamp01 confidence)
      ((Assoc.get fields "supports_threat").getD (.bool true)).truth (hints.map Json.pyStr)

/-- `float(payload.get("confidence", finding.confidence))`. -/
def payloadConfidence (payload : Fields F) (finding : Finding F) : Except Exc F :=
  pyFloat ((Assoc.get payload "confidence").getD (.float finding.confidence))

/-- `str(payload.get("picture_summary") or finding.picture_summary)`. -/
def payloadPicture (payload : Fields F) (finding : Finding F) : String :=
  ((getOrNone payload "picture_summary").orElse (.str finding.pictureSummary)).pyStr

/-- `str(payload.get("adversarial_hypothesis") or finding.adversarial_hypothesis)`. -/
def payloadAdversarial (payload : Fields F) (finding : Finding F) : String :=
  ((getOrNone payload "adversarial_hypothesis").orElse (.str finding.adversarialHypothesis)).pyStr

/-- The intent of a payload (`app/llm_interpreter.py:277-285`). -/
def payloadIntent (payload : Fields F) (finding : Finding F) : String :=
  let intent := Text.upperWord (Text.strip
    ((getOrNone payload "intent").orElse (.str (intentFor finding))).pyStr)
  if intent ∈ llmIntents then intent else intentFor finding

end

/-! ## The candidate -/

section

variable {F D : Type} [PyMathOps F] [Sha256]

/-- `_candidate_coa` (`app/llm_interpreter.py:68-93`), for a COA with this id. A `KeyError` of the
scenario is taken for one of the search. -/
def candidateCoa (loadPois : Except Exc (List (Poi F))) (coaId : String)
    (graph : SpatialEntityGraph F D) (finding : Finding F) (timeoutSeconds : F)
    (intentOverride : Option String) : Except Exc (CourseOfAction F) := do
  let intent := intentOverride.filter (· ≠ "")
  let built : Except Exc (CourseOfAction F) := do
    let scenario ← getScenario finding.scenarioId
    scenario.buildCoa coaId graph finding timeoutSeconds loadPois
  let coa ← match built with
    | .error (.keyError _) =>
      makeTier1Coa coaId graph finding (intent.getD (intentFor finding)) timeoutSeconds none false
    | built => built
  .ok (match intent with
    | some intent => { coa with intent := intent }
    | none => coa)

/-- `heuristic_interpret` (`app/llm_interpreter.py:96-179`). -/
def heuristicInterpret (loadPois : Except Exc (List (Poi F))) (coaId : String)
    (graph : SpatialEntityGraph F D) (finding : Finding F) (timeoutSeconds : F) :
    Except Exc (InterpretationResult F) := do
  let hypotheses ← ruleHypotheses finding
  let coa ← candidateCoa loadPois coaId graph finding timeoutSeconds none
  let coa := { coa with
    metadata := Assoc.update coa.metadata [("interpreter", .str "heuristic"),
      ("hypotheses", .arr (hypotheses.map Hypothesis.modelDump))] }
  InterpretationResult.make hypotheses finding.confidence coa finding.pictureSummary
    finding.adversarialHypothesis "heuristic" none

/-- `_coa_from_llm_payload` (`app/llm_interpreter.py:268-306`). -/
def coaFromLlmPayload (loadPois : Except Exc (List (Poi F))) (coaId : String)
    (graph : SpatialEntityGraph F D) (finding : Finding F) (payload : Fields F)
    (timeoutSeconds : F) (hypotheses : List (Hypothesis F)) (model : String) :
    Except Exc (CourseOfAction F) := do
  let intent := payloadIntent payload finding
  let coa ← candidateCoa loadPois coaId graph finding timeoutSeconds (some intent)
  let conf ← payloadConfidence payload finding
  .ok { coa with
    confidence := clamp01 conf
    tier := .tier1Hitl
    metadata := Assoc.update coa.metadata [("interpreter", .str "llm"), ("llm_model", .str model),
      ("picture_summary", .str (payloadPicture payload finding)),
      ("adversarial_hypothesis", .str (payloadAdversarial payload finding)),
      ("hypotheses", .arr (hypotheses.map Hypothesis.modelDump))] }

/-- `llm_interpret` (`app/llm_interpreter.py:309-403`), where `reply` is the body of the response, or
what the exchange raises. -/
def llmInterpret (env : LlmEnv) (reply : Except Exc String)
    (loadPois : Except Exc (List (Poi F))) (coaId : String) (graph : SpatialEntityGraph F D)
    (finding : Finding F) (timeoutSeconds : F) : Except Exc (InterpretationResult F) := do
  if env.baseUrl.toList.all (· = '/') then .error (.runtimeError "LLM_BASE_URL is not set")
  else do
    let model := env.model.getD "gpt-4o-mini"
    let _ : F ← pyFloat (.str (env.timeoutS.getD "8"))
    let content ← replyContent (F := F) (← reply)
    let payload ← parseLlmJson content
    let given ← payloadHypotheses payload
    let hypotheses ← if given.isEmpty then do
        let thin ← Hypothesis.make "llm_empty_hypotheses" (payloadPicture payload finding)
          (← payloadConfidence payload finding) true []
        .ok [thin]
      else .ok given
    let conf ← payloadConfidence payload finding
    let coa ← coaFromLlmPayload loadPois coaId graph finding payload timeoutSeconds hypotheses model
    InterpretationResult.make hypotheses (clamp01 conf) coa (payloadPicture payload finding)
      (payloadAdversarial payload finding) "llm" (some model)

/-- `interpret` (`app/llm_interpreter.py:406-428`). The COA of the fallback has an id of its own. -/
def interpret (env : LlmEnv) (reply : Except Exc String) (loadPois : Except Exc (List (Poi F)))
    (uuid4 : Nat → String) (graph : SpatialEntityGraph F D) (finding : Finding F)
    (timeoutSeconds : F) (forceHeuristic : Bool) : Except Exc (InterpretationResult F) :=
  if forceHeuristic || !env.configured then
    heuristicInterpret loadPois (uuid4 0) graph finding timeoutSeconds
  else
    match llmInterpret env reply loadPois (uuid4 0) graph finding timeoutSeconds with
    | .ok result => .ok result
    | .error _ => do
      let fallback ← heuristicInterpret loadPois (uuid4 1) graph finding timeoutSeconds
      let coa := fallback.candidateCoa
      .ok { fallback with
        error := some "llm_failed"
        candidateCoa := { coa with
          metadata := Assoc.set coa.metadata "llm_error" (.str "llm_failed") } }

end

end NexusC2

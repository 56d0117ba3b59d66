import NexusC2.App.LlmInterpreter

/-!
# What a reply can steer

The reply of the endpoint is read for hypotheses, a confidence, an intent and two texts, and the
COA is the one the scenario builds, with these written over. So the target, the speed, the time and
the evidence of the candidate do not depend on the reply (`SameTasking`), and neither does its tier:
no intent a reply or a scenario can give is one the policy approves by itself.
-/

namespace NexusC2

/-- The two COAs task the same: where, at what, how fast, by when and on what evidence. -/
structure CourseOfAction.SameTasking {F : Type} (c c' : CourseOfAction F) : Prop where
  targetCoordinates : c.targetCoordinates = c'.targetCoordinates
  targetEntityId : c.targetEntityId = c'.targetEntityId
  speedKt : c.speedKt = c'.speedKt
  timeoutSeconds : c.timeoutSeconds = c'.timeoutSeconds
  corroboratingSources : c.corroboratingSources = c'.corroboratingSources
  rawInputDigest : c.rawInputDigest = c'.rawInputDigest

namespace CourseOfAction.SameTasking

variable {F : Type} {c c' c'' : CourseOfAction F}

theorem symm (h : c.SameTasking c') : c'.SameTasking c :=
  ⟨h.1.symm, h.2.symm, h.3.symm, h.4.symm, h.5.symm, h.6.symm⟩

theorem trans (h : c.SameTasking c') (h' : c'.SameTasking c'') : c.SameTasking c'' :=
  ⟨h.1.trans h'.1, h.2.trans h'.2, h.3.trans h'.3, h.4.trans h'.4, h.5.trans h'.5, h.6.trans h'.6⟩

end CourseOfAction.SameTasking

/-! ## Tiers -/

/-- A COA an operator has to decide on: of Tier 1, and with no intent the policy approves. -/
structure CourseOfAction.ForOperator {F : Type} (c : CourseOfAction F) : Prop where
  tier : c.tier = .tier1Hitl
  intent : c.intent ∉ ["OBSERVE_ONLY", "STATION_KEEP"]

section

variable {F : Type} [PyFloatOps F]

theorem applyDefaults_tier (p : TieredPolicy F) {c : CourseOfAction F} (h : c.ForOperator) :
    (p.applyDefaults c).tier = .tier1Hitl := by
  have hresolve : ∀ t : F, p.resolveTier { c with timeoutSeconds := t } = .tier1Hitl := by
    intro t
    have htier := h.tier
    have hintent := h.intent
    simp [TieredPolicy.resolveTier, htier, hintent]
  unfold TieredPolicy.applyDefaults
  dsimp only
  split <;> split <;> exact hresolve _

theorem applyDefaults_sameTasking (p : TieredPolicy F) {c c' : CourseOfAction F}
    (h : c.SameTasking c') : (p.applyDefaults c).SameTasking (p.applyDefaults c') := by
  have hread : ∀ c : CourseOfAction F, (p.applyDefaults c).SameTasking { c with
      timeoutSeconds := if PyFloatOps.le c.timeoutSeconds (0.0 : F) then p.defaultTimeoutSeconds
        else c.timeoutSeconds } := by
    intro c
    unfold TieredPolicy.applyDefaults
    dsimp only
    split <;> split <;> constructor <;> rfl
  refine ((hread c).trans ?_).trans (hread c').symm
  exact ⟨h.1, h.2, h.3, by rw [h.timeoutSeconds], h.5, h.6⟩

@[simp] theorem applyDefaults_intent (p : TieredPolicy F) (c : CourseOfAction F) :
    (p.applyDefaults c).intent = c.intent := by
  unfold TieredPolicy.applyDefaults
  dsimp only
  split <;> split <;> rfl

@[simp] theorem applyDefaults_confidence (p : TieredPolicy F) (c : CourseOfAction F) :
    (p.applyDefaults c).confidence = c.confidence := by
  unfold TieredPolicy.applyDefaults
  dsimp only
  split <;> split <;> rfl

end

/-! ## What a scenario builds -/

section

variable {F D : Type} [PyMathOps F] [Sha256] {graph : SpatialEntityGraph F D}
  {finding : Finding F} {timeoutSeconds : F} {loadPois : Except Exc (List (Poi F))}

theorem makeTier1Coa_ok {coaId intent : String} {speed : Option F} {contact : Bool}
    {coa : CourseOfAction F}
    (h : makeTier1Coa coaId graph finding intent timeoutSeconds speed contact = .ok coa) :
    coa.tier = .tier1Hitl ∧ coa.intent = intent := by
  obtain ⟨track, skt, lat, lon, contactSpeed, -, ⟨-, poi, h⟩ | ⟨-, rfl⟩⟩ := makeTier1Coa_cases h
  · -- a pursuit
    obtain ⟨target, metadata, rfl⟩ := CourseOfAction.applyLeadPursuit_ok h
    exact ⟨rfl, rfl⟩
  · exact ⟨rfl, rfl⟩

theorem makeTier1Coa_forOperator {coaId intent : String} {speed : Option F} {contact : Bool}
    {coa : CourseOfAction F} (hintent : intent ∉ ["OBSERVE_ONLY", "STATION_KEEP"])
    (h : makeTier1Coa coaId graph finding intent timeoutSeconds speed contact = .ok coa) :
    coa.ForOperator :=
  ⟨(makeTier1Coa_ok h).1, (makeTier1Coa_ok h).2 ▸ hintent⟩

theorem buildTrojanCoa_forOperator {coaId : String} {coa : CourseOfAction F}
    (h : buildTrojanCoa coaId graph finding timeoutSeconds loadPois = .ok coa) :
    coa.ForOperator := by
  unfold buildTrojanCoa at h
  obtain ⟨draft, hdraft, h⟩ := except_bind_eq_ok.mp h
  obtain ⟨pois, -, h⟩ := except_bind_eq_ok.mp h
  split at h
  · cases h
    exact makeTier1Coa_forOperator (by decide) hdraft
  · -- option A at the tank farm
    cases h
    refine ⟨rfl, ?_⟩
    show "TERMINAL_SAM_INTERCEPT" ∉ ["OBSERVE_ONLY", "STATION_KEEP"]
    decide

/-- A COA of a scenario is one for the operator. -/
theorem buildCoa_forOperator {scenario : RegisteredScenario} {coaId : String}
    {coa : CourseOfAction F}
    (h : scenario.buildCoa coaId graph finding timeoutSeconds loadPois = .ok coa) :
    coa.ForOperator := by
  cases scenario with
  | s1Trojan => exact buildTrojanCoa_forOperator h
  | s3SarAis =>
    change buildSarAisCoa coaId graph finding timeoutSeconds = .ok coa at h
    exact makeTier1Coa_forOperator (by decide) h
  | s1AisSpoof =>
    change buildAisSpoofCoa coaId graph finding timeoutSeconds = .ok coa at h
    exact makeTier1Coa_forOperator (by decide) h
  | s2OsintSwarm =>
    change buildOsintSwarmCoa coaId graph finding timeoutSeconds = .ok coa at h
    exact makeTier1Coa_forOperator (by decide) h
  | s4FusionDisagreement =>
    change buildFusionCoa coaId graph finding timeoutSeconds = .ok coa at h
    exact makeTier1Coa_forOperator (by decide) h

/-- The COA with another id. -/
def CourseOfAction.renamed (coaId : String) (c : CourseOfAction F) : CourseOfAction F :=
  { c with coaId := coaId }

omit [Sha256] in
theorem applyLeadPursuit_renamed (coaId : String) (coa : CourseOfAction F) (poi : LeadPursuitPoi F) :
    (coa.renamed coaId).applyLeadPursuit poi =
      (coa.applyLeadPursuit poi).map (CourseOfAction.renamed coaId) := by
  unfold CourseOfAction.applyLeadPursuit
  cases poi.asMetadata with
  | error e => rfl
  | ok snapshot => cases pyRound poi.etaSec 3 <;> rfl

theorem makeTier1Coa_renamed (coaId coaId' intent : String) (speed : Option F) (contact : Bool) :
    makeTier1Coa coaId' graph finding intent timeoutSeconds speed contact =
      (makeTier1Coa coaId graph finding intent timeoutSeconds speed contact).map
        (CourseOfAction.renamed coaId') := by
  unfold makeTier1Coa
  cases graph.getTrack finding.trackId with
  | none => rfl
  | some track =>
    cases preferredTaskingKinematics graph finding with
    | error e => rfl
    | ok k =>
      obtain ⟨lat, lon, contactSpeed, heading⟩ := k
      simp only [bind, Except.bind]
      split
      · cases computeLeadPursuitPoi lat lon heading (contactSpeed * ktToMps) with
        | error e => rfl
        | ok poi =>
          exact applyLeadPursuit_renamed coaId'
            (tier1Draft coaId track finding intent timeoutSeconds _ lat lon contactSpeed) poi
      · rfl

/-- The id is all that a scenario's COA has of its draw. -/
theorem buildCoa_renamed (scenario : RegisteredScenario) (coaId coaId' : String) :
    scenario.buildCoa coaId' graph finding timeoutSeconds loadPois =
      (scenario.buildCoa coaId graph finding timeoutSeconds loadPois).map
        (CourseOfAction.renamed coaId') := by
  cases scenario with
  | s1Trojan =>
    simp only [RegisteredScenario.buildCoa, buildTrojanCoa]
    rw [makeTier1Coa_renamed coaId coaId']
    cases makeTier1Coa coaId graph finding "TERMINAL_SAM_INTERCEPT" timeoutSeconds none false with
    | error e => rfl
    | ok draft =>
      cases loadPois with
      | error e => rfl
      | ok pois =>
        simp only [Except.map, bind, Except.bind]
        cases pois.find? fun p => p.poiId = some "POI-01" <;> rfl
  | s3SarAis =>
    simp only [RegisteredScenario.buildCoa, buildSarAisCoa]
    exact makeTier1Coa_renamed coaId coaId' _ _ _
  | s1AisSpoof =>
    simp only [RegisteredScenario.buildCoa, buildAisSpoofCoa]
    exact makeTier1Coa_renamed coaId coaId' _ _ _
  | s2OsintSwarm =>
    simp only [RegisteredScenario.buildCoa, buildOsintSwarmCoa]
    exact makeTier1Coa_renamed coaId coaId' _ _ _
  | s4FusionDisagreement =>
    simp only [RegisteredScenario.buildCoa, buildFusionCoa]
    exact makeTier1Coa_renamed coaId coaId' _ _ _

theorem buildCoa_ok_renamed {scenario : RegisteredScenario} {coaId : String}
    {coa : CourseOfAction F}
    (h : scenario.buildCoa coaId graph finding timeoutSeconds loadPois = .ok coa)
    (coaId' : String) :
    scenario.buildCoa coaId' graph finding timeoutSeconds loadPois =
      .ok (coa.renamed coaId') := by
  rw [buildCoa_renamed scenario coaId coaId', h]
  rfl

/-! ## What the interpreter makes of it -/

omit [PyMathOps F] [Sha256] in
/-- The keys of the default intents have small letters, so none of them is found. -/
theorem intentFor_eq (finding : Finding F) : intentFor finding = "INSPECT_TARGET" := by
  have hnone : Assoc.get defaultIntents (Text.upperWord finding.scenarioId) = none := by
    have hne : ∀ w : String, w.toList.any Char.isLower = true →
        w ≠ Text.upperWord finding.scenarioId :=
      fun w hw heq => Text.upperWord_ne hw finding.scenarioId heq.symm
    simp [defaultIntents, Assoc.get, hne "S1_trojan" (by decide), hne "S3_sar_ais" (by decide),
      hne "S1_ais_spoof" (by decide), hne "S2_osint_swarm" (by decide)]
  rw [intentFor, hnone]
  rfl

omit [Sha256] in
theorem payloadIntent_mem (payload : Fields F) (finding : Finding F) :
    payloadIntent payload finding ∈ llmIntents := by
  unfold payloadIntent
  dsimp only
  split
  · assumption
  · rw [intentFor_eq]
    decide

/-- What is written over the COA of the scenario. -/
structure CourseOfAction.Rewrites (coa c : CourseOfAction F) : Prop where
  tasking : c.SameTasking coa
  operator : c.ForOperator

variable {scenario : RegisteredScenario} {coa : CourseOfAction F}

theorem candidateCoa_none {coaId : String}
    (hscenario : getScenario finding.scenarioId = .ok scenario)
    (hbuild : scenario.buildCoa coaId graph finding timeoutSeconds loadPois = .ok coa) :
    candidateCoa loadPois coaId graph finding timeoutSeconds none = .ok coa := by
  simp only [candidateCoa, hscenario, hbuild, bind, Except.bind]
  rfl

theorem candidateCoa_some {coaId intent : String}
    (hscenario : getScenario finding.scenarioId = .ok scenario)
    (hbuild : scenario.buildCoa coaId graph finding timeoutSeconds loadPois = .ok coa)
    (hintent : intent ≠ "") :
    candidateCoa loadPois coaId graph finding timeoutSeconds (some intent) =
      .ok { coa with intent := intent } := by
  have hfilter : (some intent).filter (· ≠ "") = some intent :=
    Option.filter_some_pos (decide_eq_true hintent)
  simp only [candidateCoa, hscenario, hbuild, hfilter, bind, Except.bind]

theorem heuristicInterpret_ok {coaId : String} {result : InterpretationResult F}
    (hscenario : getScenario finding.scenarioId = .ok scenario)
    (hbuild : scenario.buildCoa coaId graph finding timeoutSeconds loadPois = .ok coa)
    (h : heuristicInterpret loadPois coaId graph finding timeoutSeconds = .ok result) :
    coa.Rewrites result.candidateCoa ∧ result.source = "heuristic" := by
  unfold heuristicInterpret at h
  rw [candidateCoa_none hscenario hbuild] at h
  obtain ⟨hypotheses, -, h⟩ := except_bind_eq_ok.mp h
  dsimp only [bind, Except.bind, InterpretationResult.make] at h
  split at h
  · cases h
    have hoperator := buildCoa_forOperator hbuild
    exact ⟨⟨⟨rfl, rfl, rfl, rfl, rfl, rfl⟩, ⟨hoperator.tier, hoperator.intent⟩⟩, rfl⟩
  · cases h

/-- Another id makes no difference to whether the rules give a result. -/
theorem heuristicInterpret_total {coaId : String} {result : InterpretationResult F}
    (hscenario : getScenario finding.scenarioId = .ok scenario)
    (hbuild : scenario.buildCoa coaId graph finding timeoutSeconds loadPois = .ok coa)
    (h : heuristicInterpret loadPois coaId graph finding timeoutSeconds = .ok result)
    (coaId' : String) :
    ∃ result', heuristicInterpret loadPois coaId' graph finding timeoutSeconds = .ok result' := by
  unfold heuristicInterpret at h ⊢
  rw [candidateCoa_none hscenario hbuild] at h
  rw [candidateCoa_none hscenario (buildCoa_ok_renamed hbuild coaId')]
  obtain ⟨hypotheses, hhyps, h⟩ := except_bind_eq_ok.mp h
  rw [hhyps]
  dsimp only [bind, Except.bind, InterpretationResult.make] at h ⊢
  split at h
  · rw [if_pos ‹_›]
    exact ⟨_, rfl⟩
  · cases h

/-- The COA of a payload. -/
theorem coaFromLlmPayload_ok {coaId model : String} {payload : Fields F}
    {hypotheses : List (Hypothesis F)} {c : CourseOfAction F}
    (hscenario : getScenario finding.scenarioId = .ok scenario)
    (hbuild : scenario.buildCoa coaId graph finding timeoutSeconds loadPois = .ok coa)
    (h : coaFromLlmPayload loadPois coaId graph finding payload timeoutSeconds hypotheses model =
      .ok c) :
    coa.Rewrites c ∧ InUnit c.confidence ∧ c.intent ∈ llmIntents := by
  have hmem := payloadIntent_mem payload finding
  have hne : ∀ intent ∈ llmIntents, intent ≠ "" := by decide
  -- no intent of the list is one the policy approves
  have hdisjoint : ∀ intent ∈ llmIntents, intent ∉ ["OBSERVE_ONLY", "STATION_KEEP"] := by decide
  unfold coaFromLlmPayload at h
  generalize payloadIntent payload finding = intent at h hmem
  obtain ⟨candidate, hcandidate, h⟩ := except_bind_eq_ok.mp h
  obtain ⟨conf, -, h⟩ := except_bind_eq_ok.mp h
  rw [candidateCoa_some hscenario hbuild (hne _ hmem)] at hcandidate
  cases hcandidate
  cases h
  exact ⟨⟨⟨rfl, rfl, rfl, rfl, rfl, rfl⟩, ⟨rfl, hdisjoint _ hmem⟩⟩, inUnit_clamp01 conf, hmem⟩

/-- The result of a reply that was read. -/
structure InterpretationResult.OfReply (coa : CourseOfAction F) (result : InterpretationResult F) :
    Prop where
  rewrites : coa.Rewrites result.candidateCoa
  source : result.source = "llm"
  confidence : InUnit result.confidence
  coaConfidence : InUnit result.candidateCoa.confidence
  intent : result.candidateCoa.intent ∈ llmIntents

/-- The end of `llm_interpret`, once it has its hypotheses. -/
theorem replied_ok {coaId model picture adversarial : String} {payload : Fields F}
    {hypotheses : List (Hypothesis F)} {result : InterpretationResult F}
    (h : (do
      let conf ← payloadConfidence payload finding
      let coa ← coaFromLlmPayload loadPois coaId graph finding payload timeoutSeconds hypotheses
        model
      InterpretationResult.make hypotheses (clamp01 conf) coa picture adversarial "llm"
        (some model)) = .ok result) :
    (∃ conf, payloadConfidence payload finding = .ok conf ∧ result.confidence = clamp01 conf) ∧
      (PyFloatOps.le (0.0 : F) result.confidence && PyFloatOps.le result.confidence (1.0 : F)) =
        true ∧
      coaFromLlmPayload loadPois coaId graph finding payload timeoutSeconds hypotheses model =
        .ok result.candidateCoa ∧ result.source = "llm" := by
  obtain ⟨conf, hconf, h⟩ := except_bind_eq_ok.mp h
  obtain ⟨c, hc, h⟩ := except_bind_eq_ok.mp h
  unfold InterpretationResult.make at h
  split at h
  · rename_i hunit
    cases h
    exact ⟨⟨conf, hconf, rfl⟩, hunit, hc, rfl⟩
  · cases h

theorem llmInterpret_ok {env : LlmEnv} {reply : Except Exc String} {coaId : String}
    {result : InterpretationResult F} (hscenario : getScenario finding.scenarioId = .ok scenario)
    (hbuild : scenario.buildCoa coaId graph finding timeoutSeconds loadPois = .ok coa)
    (h : llmInterpret env reply loadPois coaId graph finding timeoutSeconds = .ok result) :
    result.OfReply coa := by
  unfold llmInterpret at h
  split at h
  · cases h
  · obtain ⟨_, -, h⟩ := except_bind_eq_ok.mp h
    obtain ⟨body, -, h⟩ := except_bind_eq_ok.mp h
    obtain ⟨content, -, h⟩ := except_bind_eq_ok.mp h
    obtain ⟨payload, -, h⟩ := except_bind_eq_ok.mp h
    obtain ⟨given, -, h⟩ := except_bind_eq_ok.mp h
    have hreply : ∀ {hypotheses : List (Hypothesis F)} {model : String} {conf : F},
        result.confidence = clamp01 conf → coaFromLlmPayload loadPois coaId graph finding payload
          timeoutSeconds hypotheses model = .ok result.candidateCoa → result.source = "llm" →
        result.OfReply coa := by
      intro hypotheses model conf hconf hc hsource
      obtain ⟨hrewrites, hconfidence, hintent⟩ := coaFromLlmPayload_ok hscenario hbuild hc
      exact ⟨hrewrites, hsource, hconf ▸ inUnit_clamp01 conf, hconfidence, hintent⟩
    dsimp only at h
    split at h
    · -- a hypothesis stands in for the missing ones
      obtain ⟨_, -, h⟩ := except_bind_eq_ok.mp h
      obtain ⟨thin, -, h⟩ := except_bind_eq_ok.mp h
      obtain ⟨⟨conf, -, hconf⟩, -, hc, hsource⟩ := replied_ok h
      exact hreply hconf hc hsource
    · obtain ⟨⟨conf, -, hconf⟩, -, hc, hsource⟩ := replied_ok h
      exact hreply hconf hc hsource

/-- What `interpret` returns where the scenario builds its COA: the rules' result or the reply's. -/
theorem interpret_ok {env : LlmEnv} {reply : Except Exc String} {uuid4 : Nat → String}
    {forceHeuristic : Bool} {coaId : String} {result : InterpretationResult F}
    (hscenario : getScenario finding.scenarioId = .ok scenario)
    (hbuild : scenario.buildCoa coaId graph finding timeoutSeconds loadPois = .ok coa)
    (h : interpret env reply loadPois uuid4 graph finding timeoutSeconds forceHeuristic =
      .ok result) :
    coa.Rewrites result.candidateCoa ∧ (result.source = "llm" → result.OfReply coa) := by
  have hbuilt := buildCoa_ok_renamed hbuild
  have hrenamed : ∀ {id : String} {c : CourseOfAction F},
      (coa.renamed id).Rewrites c → coa.Rewrites c := by
    intro id c hc
    exact ⟨hc.tasking.trans ⟨rfl, rfl, rfl, rfl, rfl, rfl⟩, hc.operator⟩
  unfold interpret at h
  split at h
  · obtain ⟨hrewrites, hsource⟩ := heuristicInterpret_ok hscenario (hbuilt (uuid4 0)) h
    refine ⟨hrenamed hrewrites, fun hllm => ?_⟩
    exact absurd (hsource.symm.trans hllm) (by decide)
  · split at h
    · -- the reply was read
      rename_i read hread
      cases h
      have hreply := llmInterpret_ok hscenario (hbuilt (uuid4 0)) hread
      exact ⟨hrenamed hreply.rewrites, fun _ => { hreply with rewrites := hrenamed hreply.rewrites }⟩
    · -- the rules took over
      obtain ⟨fallback, hfallback, h⟩ := except_bind_eq_ok.mp h
      obtain ⟨hrewrites, hsource⟩ := heuristicInterpret_ok hscenario (hbuilt (uuid4 1)) hfallback
      cases h
      have hrewrites := hrenamed hrewrites
      refine ⟨⟨⟨hrewrites.tasking.1, hrewrites.tasking.2, hrewrites.tasking.3,
        hrewrites.tasking.4, hrewrites.tasking.5, hrewrites.tasking.6⟩,
        ⟨hrewrites.operator.1, hrewrites.operator.2⟩⟩, fun hllm => ?_⟩
      exact absurd (hsource.symm.trans hllm) (by decide)

/-- Where the rules give a result, `interpret` gives one whatever the reply is. -/
theorem interpret_total {env : LlmEnv} {forceHeuristic : Bool} {coaId coaId' : String}
    {result : InterpretationResult F} (hscenario : getScenario finding.scenarioId = .ok scenario)
    (hbuild : scenario.buildCoa coaId graph finding timeoutSeconds loadPois = .ok coa)
    (hrules : heuristicInterpret loadPois coaId' graph finding timeoutSeconds = .ok result)
    (reply : Except Exc String) (uuid4 : Nat → String) :
    ∃ result', interpret env reply loadPois uuid4 graph finding timeoutSeconds forceHeuristic =
      .ok result' := by
  have htotal := heuristicInterpret_total hscenario (buildCoa_ok_renamed hbuild coaId') hrules
  unfold interpret
  split
  · exact htotal (uuid4 0)
  · split
    · exact ⟨_, rfl⟩
    · obtain ⟨fallback, hfallback⟩ := htotal (uuid4 1)
      rw [hfallback]
      exact ⟨_, rfl⟩

/-- Whatever the endpoint answers: the candidate stays for the operator, tasks the same as with any
other answer, and has a confidence from 0 to 1 and one of the listed intents where the answer was
read. And there is a candidate for every answer once the rules have one. -/
theorem llm_cannot_steer (env : LlmEnv) (policy : TieredPolicy F) (forceHeuristic : Bool)
    (coaId : String) (hscenario : getScenario finding.scenarioId = .ok scenario)
    (hbuild : scenario.buildCoa coaId graph finding timeoutSeconds loadPois = .ok coa) :
    (∀ (reply : Except Exc String) (uuid4 : Nat → String) (result : InterpretationResult F),
      interpret env reply loadPois uuid4 graph finding timeoutSeconds forceHeuristic = .ok result →
        (policy.applyDefaults result.candidateCoa).tier = .tier1Hitl ∧
        (∀ (reply' : Except Exc String) (uuid4' : Nat → String) (result' : InterpretationResult F),
          interpret env reply' loadPois uuid4' graph finding timeoutSeconds forceHeuristic =
            .ok result' →
          (policy.applyDefaults result.candidateCoa).SameTasking
            (policy.applyDefaults result'.candidateCoa)) ∧
        (result.source = "llm" → InUnit result.confidence ∧
          InUnit (policy.applyDefaults result.candidateCoa).confidence ∧
          (policy.applyDefaults result.candidateCoa).intent ∈ llmIntents)) ∧
    ((∃ id result, heuristicInterpret loadPois id graph finding timeoutSeconds = .ok result) →
      ∀ (reply : Except Exc String) (uuid4 : Nat → String), ∃ result,
        interpret env reply loadPois uuid4 graph finding timeoutSeconds forceHeuristic =
          .ok result) := by
  constructor
  · intro reply uuid4 result h
    obtain ⟨hrewrites, hreply⟩ := interpret_ok hscenario hbuild h
    refine ⟨applyDefaults_tier policy hrewrites.operator, ?_, fun hllm => ?_⟩
    · intro reply' uuid4' result' h'
      obtain ⟨hrewrites', -⟩ := interpret_ok hscenario hbuild h'
      exact applyDefaults_sameTasking policy (hrewrites.tasking.trans hrewrites'.tasking.symm)
    · have hread := hreply hllm
      rw [applyDefaults_confidence, applyDefaults_intent]
      exact ⟨hread.confidence, hread.coaConfidence, hread.intent⟩
  · rintro ⟨id, result, hrules⟩ reply uuid4
    exact interpret_total hscenario hbuild hrules reply uuid4

end

/-- A contact that does not move. -/
def driftingTrack : Track Rat Instant :=
  { trackId := "C-1"
    latitude := 1
    longitude := 103
    speedMps := 0
    confidence := 1
    sourceIds := ["ais"]
    modalities := []
    observationIds := []
    digests := ["d"]
    updatedAt := ⟨0⟩
    attributes := [] }

def driftingGraph : SpatialEntityGraph Rat Instant :=
  ⟨2000, [], ⟨[("C-1", driftingTrack)], by decide⟩⟩

/-- A finding of the spoofing scenario on it. -/
def driftingFinding : Finding Rat :=
  { scenarioId := "S1_ais_spoof"
    trackId := "C-1"
    threatClass := "vessel"
    warningMinutesEst := 10
    mismatchM := 0
    confidence := 1
    pictureSummary := "AIS jump"
    adversarialHypothesis := ""
    spoofSources := ["ais"]
    approachSources := []
    otherSources := []
    message := ""
    amberAlert := none
    sourceBreakdown := [] }

/-- An endpoint is set. -/
def setEnv : LlmEnv := ⟨"http://llm/v1", none, none⟩

/-- A reply that asks for an intent the policy approves, with a confidence of 7. -/
def hostileReply : String :=
  "\x7b\"choices\":[\x7b\"message\":\x7b\"content\":\"" ++
    "\x7b\\\"hypotheses\\\":[\x7b\x7d],\\\"intent\\\":\\\"OBSERVE_ONLY\\\",\\\"confidence\\\":7\x7d" ++
    "\"\x7d\x7d]\x7d"

/-- A policy that approves by itself at a confidence of 1. -/
def watchPolicy : TieredPolicy Rat := ⟨5, 1, 1, ⟨[], 40, true, ∅, []⟩⟩

theorem llm_cannot_steer_hostile :
    letI := plainHash
    letI := exactMath
    ∃ result result',
      interpret setEnv (.ok hostileReply) (.ok []) (fun _ => "a") driftingGraph driftingFinding 5
        false = .ok result ∧
      interpret setEnv (.error (.osError "timed out")) (.ok []) (fun _ => "b") driftingGraph
        driftingFinding 5 false = .ok result' ∧
      result.source = "llm" ∧
      (watchPolicy.applyDefaults result.candidateCoa).tier = .tier1Hitl ∧
      (watchPolicy.applyDefaults result.candidateCoa).SameTasking
        (watchPolicy.applyDefaults result'.candidateCoa) ∧
      (watchPolicy.applyDefaults result.candidateCoa).intent ∈ llmIntents := by
  let := plainHash
  let := exactMath
  obtain ⟨coa, hbuild⟩ := except_isOk_iff.mp (by decide +kernel :
    (RegisteredScenario.s1AisSpoof.buildCoa "a" driftingGraph driftingFinding 5
      (.ok [])).isOk = true)
  obtain ⟨rules, hrules⟩ := except_isOk_iff.mp (by decide +kernel :
    (heuristicInterpret (.ok []) "a" driftingGraph driftingFinding 5).isOk = true)
  obtain ⟨read, hread⟩ := except_isOk_iff.mp (by decide +kernel :
    (llmInterpret setEnv (.ok hostileReply) (.ok []) "a" driftingGraph driftingFinding 5).isOk =
      true)
  have hresult : interpret setEnv (.ok hostileReply) (.ok []) (fun _ => "a") driftingGraph
      driftingFinding 5 false = .ok read := by
    unfold interpret
    rw [if_neg (by decide), hread]
  have hscenario : getScenario driftingFinding.scenarioId = .ok .s1AisSpoof := rfl
  have hsource := (llmInterpret_ok hscenario hbuild hread).source
  obtain ⟨hruns, htotal⟩ :=
    llm_cannot_steer setEnv watchPolicy false "a" hscenario hbuild
  obtain ⟨result', hresult'⟩ :=
    htotal ⟨"a", rules, hrules⟩ (.error (.osError "timed out")) fun _ => "b"
  obtain ⟨htier, hsame, hllm⟩ := hruns _ _ _ hresult
  exact ⟨read, result', hresult, hresult', hsource, htier, hsame _ _ _ hresult',
    (hllm hsource).2.2⟩

end NexusC2

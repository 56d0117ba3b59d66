import NexusC2.App.Proofs.LlmSteering

/-!
# The intent of a candidate and its waypoint

A scenario builds its COA for an intent of its own, and a COA for a pursuit gets a waypoint as it is
built. A reply that was read writes another intent over it and leaves the waypoint as it is: the
intent it asks for (`askedIntent`), or `INSPECT_TARGET`, since the table of default intents is
searched for a key with capital letters and has none. So the candidate of a reply has the intent of
the rules only where the reply asks for it, and has a waypoint that goes with its intent only where
both intents are ones of pursuit or neither is.
-/

namespace NexusC2

/-- The intent of the COAs a scenario builds. -/
def RegisteredScenario.intent : RegisteredScenario → String
  | s1Trojan => "TERMINAL_SAM_INTERCEPT"
  | s3SarAis => "APPROACH_PATROL"
  | s1AisSpoof => "ISR_IDENTIFY_CONTACT"
  | s2OsintSwarm => "GNSS_DENIAL_AND_GBAD_CUE"
  | s4FusionDisagreement => "CUE_AND_IDENTIFY"

theorem RegisteredScenario.intent_ne (scenario : RegisteredScenario) :
    scenario.intent ≠ "INSPECT_TARGET" := by
  cases scenario <;> simp [RegisteredScenario.intent]

/-- The listed intent a payload asks for, after `str`, `strip` and `upper`. -/
def askedIntent {F : Type} [PyFloatOps F] (payload : Fields F) : Option String :=
  let v := getOrNone payload "intent"
  if v.truth then
    (some (Text.upperWord (Text.strip v.pyStr))).filter (· ∈ llmIntents)
  else none

theorem payloadIntent_eq {F : Type} [PyFloatOps F] (payload : Fields F) (finding : Finding F) :
    payloadIntent payload finding = (askedIntent payload).getD "INSPECT_TARGET" := by
  unfold payloadIntent askedIntent Json.orElse
  rw [intentFor_eq]
  by_cases hv : (getOrNone payload "intent").truth = true
  · simp only [hv, if_true]
    by_cases hlisted :
        Text.upperWord (Text.strip (getOrNone payload "intent").pyStr) ∈ llmIntents
    · simp [hlisted, Option.filter]
    · simp [hlisted, Option.filter]
  · -- `INSPECT_TARGET` is asked for by the code itself
    simp only [hv, Bool.false_eq_true, if_false]
    have hdefault : Text.upperWord (Text.strip "INSPECT_TARGET") = "INSPECT_TARGET" := by decide
    simp [Json.pyStr, hdefault]

/-! ## Waypoints -/

section

variable {F D : Type}

/-- The two COAs go to the same place, by the same waypoint. -/
structure CourseOfAction.SameWaypoint (c c' : CourseOfAction F) : Prop where
  targetCoordinates : c.targetCoordinates = c'.targetCoordinates
  poi : Assoc.get c.metadata "poi" = Assoc.get c'.metadata "poi"
  etaSec : Assoc.get c.metadata "eta_sec" = Assoc.get c'.metadata "eta_sec"

/-- The COA has a waypoint just where it is to have one, with the time and the target of the COA. -/
structure CourseOfAction.CarriesWaypoint (pursuit : Prop) (c : CourseOfAction F) : Prop where
  poi : pursuit ↔ (Assoc.get c.metadata "poi").isSome = true
  waypoint : pursuit → ∃ fields eta, Assoc.get c.metadata "poi" = some (.obj fields) ∧
    Assoc.get fields "eta_sec" = some eta ∧ Assoc.get c.metadata "eta_sec" = some eta ∧
    Assoc.get fields "latitude" = some (.float c.targetCoordinates.1) ∧
    Assoc.get fields "longitude" = some (.float c.targetCoordinates.2)

/-- The waypoint goes with the intent. -/
def CourseOfAction.WaypointAgrees (c : CourseOfAction F) : Prop :=
  c.CarriesWaypoint (c.intent ∈ leadPursuitIntents)

namespace CourseOfAction

variable {c c' : CourseOfAction F} {p q : Prop}

theorem SameWaypoint.symm (h : c.SameWaypoint c') : c'.SameWaypoint c :=
  ⟨h.1.symm, h.2.symm, h.3.symm⟩

theorem SameWaypoint.trans {c'' : CourseOfAction F} (h : c.SameWaypoint c')
    (h' : c'.SameWaypoint c'') : c.SameWaypoint c'' :=
  ⟨h.1.trans h'.1, h.2.trans h'.2, h.3.trans h'.3⟩

/-- Fields written over the metadata leave the waypoint as it is, unless they name it. -/
theorem sameWaypoint_update {fields : Fields F}
    (hcoordinates : c.targetCoordinates = c'.targetCoordinates)
    (hmetadata : c.metadata = Assoc.update c'.metadata fields)
    (hpoi : "poi" ∉ Assoc.keys fields) (heta : "eta_sec" ∉ Assoc.keys fields) :
    c.SameWaypoint c' := by
  refine ⟨hcoordinates, ?_, ?_⟩
  · rw [hmetadata, Assoc.get_update_of_not_mem hpoi]
  · rw [hmetadata, Assoc.get_update_of_not_mem heta]

/-- A waypoint is for one purpose. -/
theorem CarriesWaypoint.iff_of_carries (h : c.CarriesWaypoint p) :
    c.CarriesWaypoint q ↔ (q ↔ p) := by
  constructor
  · intro h'
    exact h'.poi.trans h.poi.symm
  · intro hpq
    exact ⟨hpq.trans h.poi, fun hq => h.waypoint (hpq.mp hq)⟩

end CourseOfAction

end

/-! ## What a scenario builds -/

section

variable {F D : Type} [PyMathOps F] [Sha256] {graph : SpatialEntityGraph F D}
  {finding : Finding F} {timeoutSeconds : F} {loadPois : Except Exc (List (Poi F))}

omit [Sha256] in
theorem asMetadata_ok {poi : LeadPursuitPoi F} {snapshot : Json F}
    (h : poi.asMetadata = .ok snapshot) :
    ∃ fields eta, pyRound poi.etaSec 3 = .ok eta ∧ snapshot = .obj fields ∧
      Assoc.get fields "eta_sec" = some (.float eta) ∧
      Assoc.get fields "latitude" = some (.float poi.latitude) ∧
      Assoc.get fields "longitude" = some (.float poi.longitude) := by
  unfold LeadPursuitPoi.asMetadata at h
  obtain ⟨eta, heta, h⟩ := except_bind_eq_ok.mp h
  obtain ⟨range, -, h⟩ := except_bind_eq_ok.mp h
  obtain ⟨speed, -, h⟩ := except_bind_eq_ok.mp h
  cases h
  exact ⟨_, eta, heta, rfl, rfl, rfl, rfl⟩

omit [Sha256] in
/-- A pursuit carries the waypoint it was given. -/
theorem applyLeadPursuit_carries {draft coa : CourseOfAction F} {poi : LeadPursuitPoi F}
    (h : draft.applyLeadPursuit poi = .ok coa) : coa.CarriesWaypoint True := by
  unfold CourseOfAction.applyLeadPursuit at h
  obtain ⟨snapshot, hsnapshot, h⟩ := except_bind_eq_ok.mp h
  obtain ⟨eta, heta, h⟩ := except_bind_eq_ok.mp h
  obtain ⟨fields, eta', heta', rfl, hfieldsEta, hlat, hlon⟩ := asMetadata_ok hsnapshot
  -- both times are the one of the waypoint, rounded alike
  cases heta.symm.trans heta'
  cases h
  constructor
  · simp
  · intro _
    exact ⟨fields, .float eta, by simp, hfieldsEta, by simp, hlat, hlon⟩

theorem makeTier1Coa_agrees {coaId intent : String} {speed : Option F} {contact : Bool}
    {coa : CourseOfAction F}
    (h : makeTier1Coa coaId graph finding intent timeoutSeconds speed contact = .ok coa) :
    coa.WaypointAgrees := by
  have hintent := (makeTier1Coa_ok h).2
  unfold CourseOfAction.WaypointAgrees
  rw [hintent]
  obtain ⟨track, skt, lat, lon, contactSpeed, -, ⟨hpursuit, poi, h⟩ | ⟨hpursuit, rfl⟩⟩ :=
    makeTier1Coa_cases h
  · exact (applyLeadPursuit_carries h).iff_of_carries.mpr (iff_true_intro hpursuit)
  · constructor
    · simp [hpursuit, tier1Draft, Assoc.get]
    · intro h
      exact absurd h hpursuit

/-- The COA of a scenario has the scenario's intent and a waypoint that goes with it. -/
theorem buildCoa_intent {scenario : RegisteredScenario} {coaId : String} {coa : CourseOfAction F}
    (h : scenario.buildCoa coaId graph finding timeoutSeconds loadPois = .ok coa) :
    coa.intent = scenario.intent ∧ coa.CarriesWaypoint (scenario.intent ∈ leadPursuitIntents) := by
  have htier1 : ∀ {intent : String} {speed : Option F} {contact : Bool} {coa : CourseOfAction F},
      makeTier1Coa coaId graph finding intent timeoutSeconds speed contact = .ok coa →
        coa.intent = intent ∧ coa.CarriesWaypoint (intent ∈ leadPursuitIntents) := by
    intro intent speed contact coa h
    have hagrees := makeTier1Coa_agrees h
    have hintent := (makeTier1Coa_ok h).2
    rw [CourseOfAction.WaypointAgrees, hintent] at hagrees
    exact ⟨hintent, hagrees⟩
  cases scenario with
  | s1Trojan =>
    simp only [RegisteredScenario.buildCoa, buildTrojanCoa] at h
    obtain ⟨draft, hdraft, h⟩ := except_bind_eq_ok.mp h
    obtain ⟨pois, -, h⟩ := except_bind_eq_ok.mp h
    obtain ⟨hintent, hcarries⟩ := htier1 hdraft
    split at h
    · cases h
      exact ⟨hintent, hcarries⟩
    · -- option A at the tank farm, which is no pursuit
      rename_i poi hpoi
      cases h
      refine ⟨rfl, ?_, fun hpursuit => absurd hpursuit (by decide)⟩
      have hkeep : Assoc.get (Assoc.update draft.metadata (optionA finding)) "poi" =
          Assoc.get draft.metadata "poi" :=
        Assoc.get_update_of_not_mem (by simp [optionA, Assoc.keys])
      rw [hkeep]
      exact hcarries.poi
  | s3SarAis =>
    simp only [RegisteredScenario.buildCoa, buildSarAisCoa] at h
    obtain ⟨hintent, hcarries⟩ := htier1 h
    exact ⟨hintent, hcarries⟩
  | s1AisSpoof =>
    simp only [RegisteredScenario.buildCoa, buildAisSpoofCoa] at h
    obtain ⟨hintent, hcarries⟩ := htier1 h
    exact ⟨hintent, hcarries⟩
  | s2OsintSwarm =>
    simp only [RegisteredScenario.buildCoa, buildOsintSwarmCoa] at h
    obtain ⟨hintent, hcarries⟩ := htier1 h
    exact ⟨hintent, hcarries⟩
  | s4FusionDisagreement =>
    simp only [RegisteredScenario.buildCoa, buildFusionCoa] at h
    obtain ⟨hintent, hcarries⟩ := htier1 h
    exact ⟨hintent, hcarries⟩

/-! ## What the interpreter makes of it -/

variable {scenario : RegisteredScenario} {coa : CourseOfAction F}

/-- The candidate of the rules, in terms of the COA a scenario or the fallback built. -/
theorem heuristicInterpret_built {coaId : String} {result : InterpretationResult F}
    (h : heuristicInterpret loadPois coaId graph finding timeoutSeconds = .ok result) :
    ∃ coa, candidateCoa loadPois coaId graph finding timeoutSeconds none = .ok coa ∧
      result.candidateCoa.intent = coa.intent ∧
      result.candidateCoa.targetEntityId = coa.targetEntityId ∧
      result.candidateCoa.SameWaypoint coa := by
  unfold heuristicInterpret at h
  obtain ⟨hypotheses, -, h⟩ := except_bind_eq_ok.mp h
  obtain ⟨coa, hcoa, h⟩ := except_bind_eq_ok.mp h
  dsimp only [InterpretationResult.make] at h
  split at h
  · cases h
    exact ⟨coa, hcoa, rfl, rfl,
      CourseOfAction.sameWaypoint_update rfl rfl (by simp [Assoc.keys]) (by simp [Assoc.keys])⟩
  · cases h

/-- The candidate of a payload, in terms of the COA that was built for its intent. -/
theorem coaFromLlmPayload_built {coaId model : String} {payload : Fields F}
    {hypotheses : List (Hypothesis F)} {c : CourseOfAction F}
    (h : coaFromLlmPayload loadPois coaId graph finding payload timeoutSeconds hypotheses model =
      .ok c) :
    ∃ coa, candidateCoa loadPois coaId graph finding timeoutSeconds
        (some (payloadIntent payload finding)) = .ok coa ∧
      c.intent = coa.intent ∧ c.targetEntityId = coa.targetEntityId ∧ c.SameWaypoint coa := by
  unfold coaFromLlmPayload at h
  obtain ⟨coa, hcoa, h⟩ := except_bind_eq_ok.mp h
  obtain ⟨conf, -, h⟩ := except_bind_eq_ok.mp h
  cases h
  exact ⟨coa, hcoa, rfl, rfl,
    CourseOfAction.sameWaypoint_update rfl rfl (by simp [Assoc.keys]) (by simp [Assoc.keys])⟩

/-- The two candidates propose the same: what to do, to what, where and by when. -/
structure CourseOfAction.SameProposal (c c' : CourseOfAction F) : Prop where
  intent : c.intent = c'.intent
  targetEntityId : c.targetEntityId = c'.targetEntityId
  waypoint : c.SameWaypoint c'

/-- The candidate of a payload where the scenario builds its COA. -/
theorem coaFromLlmPayload_intent {coaId model : String} {payload : Fields F}
    {hypotheses : List (Hypothesis F)} {c : CourseOfAction F}
    (hscenario : getScenario finding.scenarioId = .ok scenario)
    (hbuild : scenario.buildCoa coaId graph finding timeoutSeconds loadPois = .ok coa)
    (h : coaFromLlmPayload loadPois coaId graph finding payload timeoutSeconds hypotheses model =
      .ok c) :
    c.intent = payloadIntent payload finding ∧ c.targetEntityId = coa.targetEntityId ∧
      c.SameWaypoint coa := by
  have hne : ∀ intent ∈ llmIntents, intent ≠ "" := by decide
  have hmem := payloadIntent_mem payload finding
  obtain ⟨built, hbuilt, hintent, htarget, hsame⟩ := coaFromLlmPayload_built h
  generalize payloadIntent payload finding = intent at hbuilt hmem ⊢
  rw [candidateCoa_some hscenario hbuild (hne _ hmem)] at hbuilt
  cases hbuilt
  exact ⟨hintent, htarget, hsame.trans ⟨rfl, rfl, rfl⟩⟩

/-- The candidate of a payload goes where that of the rules goes, and has its intent just where the
payload asks for it: never by the table of default intents. -/
theorem llm_default_intent {coaId coaId' model : String} {payload : Fields F}
    {hypotheses : List (Hypothesis F)} {c : CourseOfAction F} {result : InterpretationResult F}
    (hscenario : getScenario finding.scenarioId = .ok scenario)
    (hbuild : scenario.buildCoa coaId graph finding timeoutSeconds loadPois = .ok coa)
    (hllm : coaFromLlmPayload loadPois coaId graph finding payload timeoutSeconds hypotheses model =
      .ok c)
    (hrules : heuristicInterpret loadPois coaId' graph finding timeoutSeconds = .ok result) :
    c.SameProposal result.candidateCoa ↔ askedIntent payload = some scenario.intent := by
  have hbuild' := buildCoa_ok_renamed hbuild coaId'
  have hscenarioIntent := (buildCoa_intent hbuild).1
  obtain ⟨hintent, htarget, hsame⟩ := coaFromLlmPayload_intent hscenario hbuild hllm
  obtain ⟨coa', hcoa', hintent', htarget', hsame'⟩ := heuristicInterpret_built hrules
  rw [candidateCoa_none hscenario hbuild'] at hcoa'
  cases hcoa'
  rw [payloadIntent_eq] at hintent
  have hrulesIntent : result.candidateCoa.intent = scenario.intent := hintent'.trans hscenarioIntent
  constructor
  · intro hproposal
    have heq := (hintent.symm.trans hproposal.intent).trans hrulesIntent
    cases hasked : askedIntent payload with
    | none =>
      rw [hasked] at heq
      exact absurd heq.symm scenario.intent_ne
    | some intent =>
      rw [hasked] at heq
      exact congrArg some heq
  · intro hasked
    rw [hasked] at hintent
    have hplace : c.SameWaypoint result.candidateCoa := by
      apply hsame.trans
      apply CourseOfAction.SameWaypoint.trans _ hsame'.symm
      exact ⟨rfl, rfl, rfl⟩
    exact ⟨hintent.trans hrulesIntent.symm, htarget.trans htarget'.symm, hplace⟩

end

/-- The rules task the drifting contact by the intent of its scenario, and a reply without an intent
does not. -/
theorem default_intent_missed :
    letI := plainHash
    letI := exactMath
    ∃ coa c result, getScenario driftingFinding.scenarioId = .ok .s1AisSpoof ∧
      RegisteredScenario.s1AisSpoof.buildCoa "a" driftingGraph driftingFinding 5 (.ok []) =
        .ok coa ∧
      coaFromLlmPayload (.ok []) "a" driftingGraph driftingFinding [] 5 [] "gpt-4o-mini" = .ok c ∧
      heuristicInterpret (.ok []) "b" driftingGraph driftingFinding 5 = .ok result ∧
      c.intent = "INSPECT_TARGET" ∧ result.candidateCoa.intent = "ISR_IDENTIFY_CONTACT" ∧
      ¬ c.SameProposal result.candidateCoa := by
  let := plainHash
  let := exactMath
  obtain ⟨coa, hbuild⟩ := except_isOk_iff.mp (by decide +kernel :
    (RegisteredScenario.s1AisSpoof.buildCoa "a" driftingGraph driftingFinding 5
      (.ok [])).isOk = true)
  obtain ⟨c, hc⟩ := except_isOk_iff.mp (by decide +kernel :
    (coaFromLlmPayload (.ok []) "a" driftingGraph driftingFinding [] 5 [] "gpt-4o-mini").isOk =
      true)
  obtain ⟨result, hresult⟩ := except_isOk_iff.mp (by decide +kernel :
    (heuristicInterpret (.ok []) "b" driftingGraph driftingFinding 5).isOk = true)
  have hscenario : getScenario driftingFinding.scenarioId = .ok .s1AisSpoof := rfl
  have hintent : c.intent = "INSPECT_TARGET" := by
    rw [(coaFromLlmPayload_intent hscenario hbuild hc).1, payloadIntent_eq]
    rfl
  have hrules : result.candidateCoa.intent = "ISR_IDENTIFY_CONTACT" := by
    have hbuild' := buildCoa_ok_renamed hbuild "b"
    obtain ⟨coa', hcoa', hintent', -⟩ := heuristicInterpret_built hresult
    rw [candidateCoa_none hscenario hbuild'] at hcoa'
    cases hcoa'
    exact hintent'.trans (buildCoa_intent hbuild).1
  refine ⟨coa, c, result, hscenario, hbuild, hc, hresult, hintent, hrules, ?_⟩
  intro hproposal
  have heq := hproposal.intent
  rw [hintent, hrules] at heq
  exact absurd heq (by decide)

/-- A reply that asks for the intent of the scenario, in small letters. -/
theorem llm_default_intent_asked :
    letI := plainHash
    letI := exactMath
    ∃ c result,
      coaFromLlmPayload (.ok []) "a" driftingGraph driftingFinding
        [("intent", .str " isr_identify_contact ")] 5 [] "gpt-4o-mini" = .ok c ∧
      heuristicInterpret (.ok []) "b" driftingGraph driftingFinding 5 = .ok result ∧
      c.SameProposal result.candidateCoa := by
  let := plainHash
  let := exactMath
  obtain ⟨coa, hbuild⟩ := except_isOk_iff.mp (by decide +kernel :
    (RegisteredScenario.s1AisSpoof.buildCoa "a" driftingGraph driftingFinding 5
      (.ok [])).isOk = true)
  obtain ⟨c, hc⟩ := except_isOk_iff.mp (by decide +kernel :
    (coaFromLlmPayload (.ok []) "a" driftingGraph driftingFinding
      [("intent", .str " isr_identify_contact ")] 5 [] "gpt-4o-mini").isOk = true)
  obtain ⟨result, hresult⟩ := except_isOk_iff.mp (by decide +kernel :
    (heuristicInterpret (.ok []) "b" driftingGraph driftingFinding 5).isOk = true)
  have hscenario : getScenario driftingFinding.scenarioId = .ok .s1AisSpoof := rfl
  exact ⟨c, result, hc, hresult,
    (llm_default_intent hscenario hbuild hc hresult).mpr (by decide +kernel)⟩

/-! ## The waypoint of a result -/

section

variable {F D : Type} [PyMathOps F] [Sha256] {graph : SpatialEntityGraph F D}
  {finding : Finding F} {timeoutSeconds : F} {loadPois : Except Exc (List (Poi F))}
  {scenario : RegisteredScenario} {coa : CourseOfAction F}

end

end NexusC2

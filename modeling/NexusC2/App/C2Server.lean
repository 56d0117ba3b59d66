import NexusC2.App.Runtime
import NexusC2.Core.Kinematics

/-!
# The gate and recipient handlers

The REST handlers of `app/c2_server.py` that propose, decide and acknowledge. A handler is one
step: none of them awaits, so no other request runs in between. The entity graph, the scenarios
and the interpreter are those of `Env`.
-/

namespace NexusC2

/-- `ProposalRequest` (`app/c2_server.py:105-114`). -/
structure ProposalRequest (F : Type) where
  scenarioId : Option String
  coa : Option (CourseOfAction F)
  unitId : String
  timeoutSeconds : Option F
  interpret : Bool
  forceHeuristic : Bool

/-- `InterpretRequest` (`app/c2_server.py:117-122`). -/
structure InterpretRequest (F : Type) where
  scenarioId : String
  timeoutSeconds : Option F
  forceHeuristic : Bool

/-- `GuardrailDemoRequest` (`app/c2_server.py:125-131`). -/
structure GuardrailDemoRequest (F : Type) where
  scenarioId : String
  unitId : String
  navyUnitId : String
  timeoutSeconds : Option F

/-- `ApproveRequest` (`app/c2_server.py:167-170`). -/
structure ApproveRequest where
  coaId : String
  decision : String
  operatorId : String

/-- `AckRequest` (`app/c2_server.py:173-179`). -/
structure AckRequest (F : Type) where
  coaId : String
  unitId : String
  signature : Option String
  status : String
  message : String
  telemetry : Fields F

section

variable {F Obs G : Type} [PyFloatOps F] [Sha256] [EntityGraph F Obs G]

/-! ## Scenarios -/

/-- `req.timeout_seconds or runtime.policy.default_timeout_seconds`. -/
def timeoutOr (timeout : Option F) (default : F) : F :=
  match timeout with
  | some t => if PyFloatOps.truth t then t else default
  | none => default

/-- `_ingest_scenario` (`app/c2_server.py:414-425`). -/
def ingestScenario (env : Env F Obs G) (scenarioId : String) : C2Handler F G (Finding F) := do
  let scenario ← Handler.ofExcept (env.getScenario scenarioId)
  Handler.modify fun s => { s with graph := EntityGraph.empty F Obs }
  let events ← Handler.ofExcept scenario.buildEvents
  let observations ← Handler.ofExcept (events.mapM env.normalizeSensorEvent)
  Handler.forEach (fun o => do let _ ← C2Runtime.ingest o) observations
  Handler.modify fun s => { s with scenarioId := some scenario.id }
  let s ← Handler.get
  let finding ← Handler.ofExcept (scenario.detect s.graph)
  Handler.modify fun s => { s with finding := finding }
  match finding with
  | none => Handler.raise (.http 404 ("No finding for scenario " ++ scenarioId))
  | some finding =>
    Handler.modify (C2Runtime.persistPicture Obs)
    pure finding

/-- `_load_scenario` (`app/c2_server.py:428-432`). -/
def loadScenario (env : Env F Obs G) (scenarioId : String) (timeout : F) :
    C2Handler F G (CourseOfAction F) := do
  let finding ← ingestScenario env scenarioId
  let scenario ← Handler.ofExcept (env.getScenario scenarioId)
  let s ← Handler.get
  let coa ← Handler.ofExcept (scenario.buildCoa s.graph finding timeout)
  pure (s.policy.applyDefaults coa)

/-- `_interpret_scenario` (`app/c2_server.py:435-451`). -/
def interpretScenario (env : Env F Obs G) (scenarioId : String) (timeout : F)
    (forceHeuristic : Bool) : C2Handler F G (InterpretationResult F) := do
  let _ ← ingestScenario env scenarioId
  let s ← Handler.get
  match s.finding with
  | none => Handler.raise .assertion
  | some finding =>
    let result ← Handler.ofExcept (env.interpret s.graph finding timeout forceHeuristic)
    pure { result with candidateCoa := s.policy.applyDefaults result.candidateCoa }

/-- `except KeyError as exc: raise HTTPException(404, str(exc))`. -/
def keyErrorAs404 {α : Type} (m : C2Handler F G α) : C2Handler F G α :=
  Handler.tryCatch m fun e =>
    match e with
    | .keyError _ => Handler.raise (.http 404 e.message)
    | e => Handler.raise e

/-- The data of a `picture_interpreted` record (`app/c2_server.py:729-737`). -/
def interpretedData (req : InterpretRequest F) (result : InterpretationResult F) : Fields F :=
  [("scenario_id", .str req.scenarioId), ("source", .str result.source),
    ("model", Json.ofOption result.model), ("error", Json.ofOption result.error),
    ("hypothesis_count", .int result.hypotheses.length),
    ("coa_id", .str result.candidateCoa.coaId), ("intent", .str result.candidateCoa.intent)]

/-- `interpret_picture` (`app/c2_server.py:713-739`). -/
def interpretPicture (env : Env F Obs G) (req : InterpretRequest F) : C2Handler F G (Json F) := do
  let s ← Handler.get
  let timeout := timeoutOr req.timeoutSeconds s.policy.defaultTimeoutSeconds
  let result ← keyErrorAs404 (interpretScenario env req.scenarioId timeout req.forceHeuristic)
  let _ ← auditAppend env 0 "picture_interpreted" "Low" (interpretedData req result)
  let s ← Handler.get
  pure (.obj [("status", .str "INTERPRETED"), ("source", .str result.source),
    ("model", Json.ofOption result.model), ("error", Json.ofOption result.error),
    ("hypotheses", .arr result.hypotheses), ("confidence", .float result.confidence),
    ("picture_summary", .str result.pictureSummary),
    ("adversarial_hypothesis", .str result.adversarialHypothesis),
    ("candidate_coa", result.candidateCoa.modelDump), ("finding", findingDict s.finding)])

/-! ## Proposals -/

/-- The COA a proposal is about, and the interpretation it comes from
(`app/c2_server.py:839-858`). -/
def proposedCoa (env : Env F Obs G) (req : ProposalRequest F) :
    C2Handler F G (CourseOfAction F × Option (InterpretationResult F)) := do
  let s ← Handler.get
  let timeout := timeoutOr req.timeoutSeconds s.policy.defaultTimeoutSeconds
  let scenarioId := req.scenarioId.getD ""
  if scenarioId ≠ "" ∧ req.interpret then do
    let result ← keyErrorAs404 (interpretScenario env scenarioId timeout req.forceHeuristic)
    pure (result.candidateCoa, some result)
  else if scenarioId ≠ "" then do
    let coa ← loadScenario env scenarioId timeout
    pure (coa, none)
  else
    match req.coa with
    | some coa => pure (s.policy.applyDefaults coa, none)
    | none => Handler.raise (.http 400 "Provide scenario_id or coa")

/-- The tasking `gate_proposals` issues for a Tier-0 COA (`app/c2_server.py:885-899`). -/
def autoTasking (env : Env F Obs G) (req : ProposalRequest F) (coa : CourseOfAction F) :
    Tasking F :=
  { coa := coa
    token := LatencyBoundedGate.mint F ⟨env.uuid4 0, env.utcNow 0⟩ coa.coaId .approved
      (some "autonomous") (some "tier0_auto")
    unitId := req.unitId
    issuedAt := env.utcNow 1
    status := .pendingAck
    ack := none }

/-- The entry `gate_proposals` queues (`app/c2_server.py:915-919`). -/
def queuedPending (env : Env F Obs G) (req : ProposalRequest F) (coa : CourseOfAction F) :
    Pending F :=
  { coa := coa
    unitId := req.unitId
    navyUnitId := none
    queuedAt := some (env.utcNow 2)
    createdAt := none }

/-- The data of a `coa_rejected_fast` record (`app/c2_server.py:876`). -/
def rejectedData (coa : CourseOfAction F) (token : DecisionToken) : Fields F :=
  [("coa", coa.modelDump), ("token", token.modelDump)]

/-- The data of a `coa_auto_approved` record (`app/c2_server.py:906`). -/
def autoData (coa : CourseOfAction F) (token : DecisionToken) : Fields F :=
  [("coa_id", .str coa.coaId), ("token", token.modelDump)]

/-- The data of a `coa_proposed` record (`app/c2_server.py:924-931`). -/
def proposedData (req : ProposalRequest F) (coa : CourseOfAction F)
    (interpretation : Option (InterpretationResult F)) (s : C2Runtime F G) : Fields F :=
  [("coa_id", .str coa.coaId), ("scenario_id", Json.ofOption s.scenarioId),
    ("intent", .str coa.intent), ("unit_id", .str req.unitId),
    ("finding", findingDict s.finding),
    ("interpreter_source", Json.ofOption (interpretation.map (·.source)))]

/-- `gate_proposals` (`app/c2_server.py:837-942`). -/
def gateProposals (env : Env F Obs G) (req : ProposalRequest F) : C2Handler F G (Json F) := do
  let s ← Handler.get
  let timeout := timeoutOr req.timeoutSeconds s.policy.defaultTimeoutSeconds
  let (coa, interpretation) ← proposedCoa env req
  let (ok, reason) ← gateVerify timeout coa
  if !ok then
    let token := LatencyBoundedGate.mint F ⟨env.uuid4 0, env.utcNow 0⟩ coa.coaId .rejectedFast
      none reason
    let _ ← auditAppend env 0 "coa_rejected_fast" "High" (rejectedData coa token)
    pure (.obj [("status", .str "REJECTED_FAST"), ("reason", Json.ofOption reason),
      ("coa", coa.modelDump), ("token", token.modelDump)])
  else if coa.tier = .tier0Autonomous then
    let tasking := autoTasking env req coa
    Handler.modify fun s => s.issue coa.coaId tasking
    Handler.modify fun s => s.persistInboxItem coa.coaId tasking
    Handler.modify fun s => s.setInterlock (s.policy.interlock.registerActive coa)
    let _ ← auditAppend env 0 "coa_auto_approved" "High" (autoData coa tasking.token)
    let s ← Handler.get
    pure (.obj [("status", .str "APPROVED"), ("coa", coa.modelDump),
      ("token", tasking.token.modelDump), ("finding", findingDict s.finding)])
  else
    let pending := queuedPending env req coa
    Handler.modify fun s => s.queue coa.coaId pending
    Handler.modify fun s => s.persistProposal coa.coaId pending
    let s ← Handler.get
    let _ ← auditAppend env 0 "coa_proposed" "Medium" (proposedData req coa interpretation s)
    pure (.obj ([("status", .str "QUEUED"), ("coa", coa.modelDump),
      ("finding", findingDict s.finding)] ++
      match interpretation with
      | none => []
      | some result => [("hypotheses", .arr result.hypotheses),
          ("interpreter_source", .str result.source),
          ("interpreter_error", Json.ofOption result.error)]))

/-- `_build_option_b_fallback` (`app/c2_server.py:742-774`). -/
def buildOptionBFallback (env : Env F Obs G) (dangerous : CourseOfAction F)
    (finding : Option (Finding F)) : Except Exc (CourseOfAction F) := do
  let pois ← env.loadPois
  let target ← match pois.find? fun p => p.poiId = some "POI-01" with
    | some poi =>
      let standoff := poi.offshoreNofireM.getD (1200.0 : F)
      offshoreSafeIntercept poi.centerLat poi.centerLon (standoff + (100.0 : F))
    | none => .ok dangerous.targetCoordinates
  let marks : Fields F := [("option_id", .str "B"), ("dangerous_proposal_draft", .bool false),
    ("enforced_failsafe", .bool true), ("fallback_of", .str dangerous.coaId),
    ("rationale", .str ("Enforced Option B: offshore kinetic intercept beyond CNI buffer " ++
      "+ directional RF soft-kill."))]
  let fromFinding : Fields F := match finding with
    | none => []
    | some f => [("amber_alert", Json.ofOption f.amberAlert),
        ("source_breakdown", .obj f.sourceBreakdown)]
  .ok { dangerous with
    coaId := env.uuid4 3
    intent := "OFFSHORE_INTERCEPT_RF_SOFTKILL"
    targetCoordinates := target
    speedKt := none
    metadata := (marks ++ fromFinding).foldl (fun m p => Assoc.set m p.1 p.2) dangerous.metadata }

omit [Sha256] [EntityGraph F Obs G] in
/-- The fallback has an id of its own. -/
theorem buildOptionBFallback_coaId {env : Env F Obs G} {dangerous fallback : CourseOfAction F}
    {finding : Option (Finding F)}
    (h : buildOptionBFallback env dangerous finding = .ok fallback) :
    fallback.coaId = env.uuid4 3 := by
  unfold buildOptionBFallback at h
  cases hpois : env.loadPois with
  | error e =>
    rw [hpois] at h
    cases h
  | ok pois =>
    rw [hpois] at h
    simp only [bind, Except.bind] at h
    split at h
    · -- POI-01 is there
      split at h
      · cases h
      · cases h
        rfl
    · cases h
      rfl

/-- `with contextlib.suppress(OSError): interlock.set_cni_pois(load_pois())`. -/
def refreshPois (env : Env F Obs G) : C2Handler F G Unit :=
  match env.loadPois with
  | .ok pois => Handler.modify fun s => s.setInterlock (s.policy.interlock.setCniPois pois)
  | .error (.osError _) => pure ()
  | .error e => Handler.raise e

/-- The draft the guardrail evaluates (`app/c2_server.py:785-788`). -/
def dangerousDraft (coa : CourseOfAction F) : CourseOfAction F :=
  { coa with
    metadata := Assoc.set coa.metadata "dangerous_proposal_draft" (.bool true)
    intent := if coa.intent ∈ terminalIntents then coa.intent else "TERMINAL_SAM_INTERCEPT" }

/-- The entry the guardrail queues (`app/c2_server.py:806-811`). -/
def guardrailPending (env : Env F Obs G) (req : GuardrailDemoRequest F)
    (fallback : CourseOfAction F) : Pending F :=
  { coa := fallback
    unitId := req.unitId
    navyUnitId := some req.navyUnitId
    queuedAt := some (env.utcNow 2)
    createdAt := none }

/-- The data of a `guardrail_veto_option_b_queued` record (`app/c2_server.py:817-823`). -/
def vetoData (req : GuardrailDemoRequest F) (reason : Option String)
    (dangerous fallback : CourseOfAction F) : Fields F :=
  [("veto_reason", Json.ofOption reason), ("dangerous", dangerous.modelDump),
    ("fallback", fallback.modelDump), ("unit_id", .str req.unitId),
    ("navy_unit_id", .str req.navyUnitId)]

/-- `gate_demo_evaluate_with_guardrail` (`app/c2_server.py:778-833`). -/
def gateDemoEvaluateWithGuardrail (env : Env F Obs G) (req : GuardrailDemoRequest F) :
    C2Handler F G (Json F) := do
  let s ← Handler.get
  let timeout := timeoutOr req.timeoutSeconds s.policy.defaultTimeoutSeconds
  refreshPois env
  let loaded ← loadScenario env req.scenarioId timeout
  let dangerous := dangerousDraft loaded
  let (ok, reason) ← gateVerify timeout dangerous
  let reason := if ok then
      some (cniFalloutCode ++ ": expected HARD VETO for terminal SAM over CNI")
    else reason
  let s ← Handler.get
  let fallback ← Handler.ofExcept (buildOptionBFallback env dangerous s.finding)
  let fallback := s.policy.applyDefaults fallback
  let (okB, reasonB) ← gateVerify timeout fallback
  if !okB then
    Handler.raise (.http 500 ("Option B unexpectedly rejected: " ++ reasonB.getD "None"))
  else
    let pending := guardrailPending env req fallback
    Handler.modify fun s => s.queue fallback.coaId pending
    Handler.modify fun s => s.persistProposal fallback.coaId pending
    let _ ← auditAppend env 0 "guardrail_veto_option_b_queued" "High"
      (vetoData req reason dangerous fallback)
    let s ← Handler.get
    pure (.obj [("status", .str "GUARDRAIL_VETO_OPTION_B_QUEUED"),
      ("veto_reason", Json.ofOption reason), ("veto_code", .str cniFalloutCode),
      ("dangerous_proposal_draft", dangerous.modelDump), ("fallback_coa", fallback.modelDump),
      ("finding", findingDict s.finding), ("queued_for", Json.strs [req.unitId, req.navyUnitId])])

/-! ## Decisions -/

/-- The verdict and reason of a decision string (`app/c2_server.py:953-961`). -/
def decisionVerdict (decision : String) : Option (GateVerdict × String) :=
  if normDecision decision ∈ approveWords then some (.approved, "operator_approve")
  else if normDecision decision ∈ denyWords then some (.rejectedOperator, "operator_deny")
  else none

/-- A decision with the entry it is about and its sealed token. -/
structure SealedDecision (F : Type) where
  pending : Pending F
  verdict : GateVerdict
  reason : String
  token : DecisionToken

/-- `gate_approve` up to `token.seal()` (`app/c2_server.py:947-969`). -/
def sealDecision (env : Env F Obs G) (req : ApproveRequest) (s : C2Runtime F G) :
    Except Exc (SealedDecision F) :=
  match s.proposals.get req.coaId with
  | none => .error (.http 404 ("No pending proposal " ++ req.coaId))
  | some pending =>
    match decisionVerdict req.decision with
    | none => .error (.http 400 "decision must be approve or deny")
    | some (verdict, reason) => .ok
        { pending := pending
          verdict := verdict
          reason := reason
          token := LatencyBoundedGate.mint F ⟨env.uuid4 0, env.utcNow 0⟩ pending.coa.coaId verdict
            (some req.operatorId) (some reason) }

omit [EntityGraph F Obs G] in
/-- A decision is sealed for an entry that is there, with the verdict of its word. -/
theorem sealDecision_ok {env : Env F Obs G} {req : ApproveRequest} {s : C2Runtime F G}
    {d : SealedDecision F} (h : sealDecision env req s = .ok d) :
    s.proposals.get req.coaId = some d.pending ∧
      decisionVerdict req.decision = some (d.verdict, d.reason) := by
  unfold sealDecision at h
  cases hget : s.proposals.get req.coaId with
  | none =>
    rw [hget] at h
    cases h
  | some p =>
    cases hword : decisionVerdict req.decision with
    | none =>
      rw [hget, hword] at h
      cases h
    | some v =>
      rw [hget, hword] at h
      cases h
      exact ⟨rfl, rfl⟩

omit [EntityGraph F Obs G] in
/-- The token of a decision is minted for the COA of the entry. -/
theorem sealDecision_token {env : Env F Obs G} {req : ApproveRequest} {s : C2Runtime F G}
    {d : SealedDecision F} (h : sealDecision env req s = .ok d) :
    d.token = LatencyBoundedGate.mint F ⟨env.uuid4 0, env.utcNow 0⟩ d.pending.coa.coaId d.verdict
      (some req.operatorId) (some d.reason) := by
  unfold sealDecision at h
  split at h
  · cases h
  · split at h
    · cases h
    · cases h
      rfl

omit [PyFloatOps F] [Sha256] [EntityGraph F Obs G] in
/-- The verdict is an approval exactly for an approving word. -/
theorem decisionVerdict_approved (decision : String) :
    (∃ reason, decisionVerdict decision = some (.approved, reason)) ↔
      normDecision decision ∈ approveWords := by
  unfold decisionVerdict
  by_cases hword : normDecision decision ∈ approveWords
  · simp [hword]
  · by_cases hdeny : normDecision decision ∈ denyWords <;> simp [hword, hdeny]

/-- The units an approval goes to (`app/c2_server.py:985-988`). -/
def Pending.units (p : Pending F) : List String :=
  match p.navyUnitId with
  | some navy => if navy ≠ "" ∧ navy ≠ p.unitId then [p.unitId, navy] else [p.unitId]
  | none => [p.unitId]

/-- The copy of a COA for the navy tasking line (`app/c2_server.py:993-999`). -/
def navyCopy (env : Env F Obs G) (coa : CourseOfAction F) : CourseOfAction F :=
  { coa with
    coaId := env.uuid4 1
    metadata := Assoc.set (Assoc.set coa.metadata "paired_coa_id" (.str coa.coaId))
      "dispatch_role" (.str "navy_mothership_interdiction") }

/-- The tasking for the unit at an index of `units` (`app/c2_server.py:990-1017`). -/
def approvedTasking (env : Env F Obs G) (req : ApproveRequest) (d : SealedDecision F)
    (index : Nat) (uid : String) : Tasking F :=
  let issuedCoa := if index = 0 then d.pending.coa else navyCopy env d.pending.coa
  { coa := issuedCoa
    token := if index = 0 then d.token
      else LatencyBoundedGate.mint F ⟨env.uuid4 2, env.utcNow 3⟩ issuedCoa.coaId d.verdict
        (some req.operatorId) (some d.reason)
    unitId := uid
    issuedAt := env.utcNow (4 + index)
    status := .pendingAck
    ack := none }

omit [EntityGraph F Obs G] in
theorem approvedTasking_coa (env : Env F Obs G) (req : ApproveRequest) (d : SealedDecision F)
    (index : Nat) (uid : String) : (approvedTasking env req d index uid).coa = d.pending.coa ∨
      (approvedTasking env req d index uid).coa = navyCopy env d.pending.coa := by
  by_cases hindex : index = 0
  · exact Or.inl (by simp [approvedTasking, hindex])
  · exact Or.inr (by simp [approvedTasking, hindex])

/-- The data of a `gate_decision` record (`app/c2_server.py:976-981`). -/
def decisionData (req : ApproveRequest) (d : SealedDecision F) : Fields F :=
  [("coa_id", .str d.pending.coa.coaId), ("verdict", .str d.verdict.value),
    ("token", d.token.modelDump), ("operator_id", .str req.operatorId)]

/-- The data of a `tasking_issued` record (`app/c2_server.py:1024`). -/
def issuedData (t : Tasking F) : Fields F :=
  [("coa_id", .str t.coa.coaId), ("unit_id", .str t.unitId)]

/-- The loop of `gate_approve` over the units (`app/c2_server.py:989-1025`). -/
def issueUnits (env : Env F Obs G) (req : ApproveRequest) (d : SealedDecision F) :
    Nat → List String → C2Handler F G Unit
  | _, [] => pure ()
  | index, uid :: rest => do
    let tasking := approvedTasking env req d index uid
    Handler.modify fun s => s.issue tasking.coa.coaId tasking
    Handler.modify fun s => s.persistInboxItem tasking.coa.coaId tasking
    let _ ← auditAppend env index "tasking_issued" "High" (issuedData tasking)
    issueUnits env req d (index + 1) rest

/-- `gate_approve` (`app/c2_server.py:946-1032`). -/
def gateApprove (env : Env F Obs G) (req : ApproveRequest) : C2Handler F G (Json F) := do
  let s ← Handler.get
  let d ← Handler.ofExcept (sealDecision env req s)
  let coa := d.pending.coa
  Handler.modify fun s => { s with proposals := s.proposals.erase req.coaId }
  Handler.modify fun s => { s with store := s.store.deleteProposal req.coaId }
  let _ ← auditAppend env 0 "gate_decision" "High" (decisionData req d)
  if d.verdict = .approved then do
    issueUnits env req d 0 d.pending.units
    Handler.modify fun s => s.setInterlock (s.policy.interlock.registerActive coa)
  else pure ()
  pure (.obj [("status", .str d.verdict.value), ("coa", coa.modelDump),
    ("token", d.token.modelDump)])

/-! ## Recipients -/

omit [PyFloatOps F] [Sha256] [EntityGraph F Obs G] in
/-- `recipient_inbox` (`app/c2_server.py:1036-1045`). -/
def recipientInbox (s : C2Runtime F G) (unitId : String) : List (Tasking F) :=
  s.inbox.values.filter fun t => t.unitId = unitId ∧ t.coa.coaId ∉ s.acked

/-- The ack record of a request (`app/c2_server.py:1057-1077`). -/
def ackRecordOf (env : Env F Obs G) (req : AckRequest F) (tasking : Tasking F) : AckRecord F :=
  let body : Json F := .obj [("coa_id", .str req.coaId), ("unit_id", .str req.unitId),
    ("status", .str req.status), ("time", .str (env.utcNow 0))]
  { ackId := env.uuid4 0
    coaId := req.coaId
    unitId := req.unitId
    status := req.status
    message := req.message
    telemetry := req.telemetry
    signature := match req.signature with
      | some sig => if sig = "" then digestOf body else sig
      | none => digestOf body
    tokenDigest := tasking.token.digest
    ackedAt := env.utcNow 1 }

/-- `recipient_ack` (`app/c2_server.py:1049-1084`). -/
def recipientAck (env : Env F Obs G) (req : AckRequest F) : C2Handler F G (Json F) := do
  let s ← Handler.get
  match s.inbox.get req.coaId with
  | none => Handler.raise (.http 404 ("No inbox item for " ++ req.coaId))
  | some tasking =>
    if tasking.unitId ≠ req.unitId then
      Handler.raise (.http 403 "unit_id does not match tasking")
    else
      let ack := ackRecordOf env req tasking
      let tasking := { tasking with status := .acked, ack := some ack }
      Handler.modify fun s => { s with acked := insert req.coaId s.acked }
      Handler.modify fun s => { s with inbox := s.inbox.set req.coaId tasking }
      Handler.modify fun s => s.persistAcked req.coaId
      Handler.modify fun s => s.persistInboxItem req.coaId tasking
      let record ← auditAppend env 0 "recipient_ack" "High" ack.toFields
      pure (.obj [("status", .str "ACKED"), ("ack", .obj ack.toFields),
        ("audit_hash", (Assoc.get record "hash").getD .null)])

/-! ## Administration -/

/-- `admin_audit_snapshot` (`app/c2_server.py:1115-1119`). -/
def adminAuditSnapshot (records : List (Record F)) : C2Handler F G (Json F) := do
  Handler.modify fun s => { s with audit := AuditTrail.replaceRecords records }
  pure (.obj [("status", .str "restored"), ("count", .int records.length)])

variable (Obs) in
/-- `admin_reset` (`app/c2_server.py:1144-1147`). -/
def adminReset : C2Handler F G (Json F) := do
  Handler.modify (C2Runtime.reset Obs)
  pure (.obj [("status", .str "reset")])

end

end NexusC2

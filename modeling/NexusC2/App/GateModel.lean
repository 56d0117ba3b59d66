import NexusC2.App.VerifyUi

/-!
# The gate as a machine of events

What the laws of the gate are about, without graph, scenarios and store: proposals, inbox,
acked ids, active keys, the trail and the log. A request runs a script of events from left to
right; an append that raises ends the script and keeps what was done before it
(`GateState.exec`). `Script` gives the script of every request; `App/Proofs/Refinement.lean`
proves that the handlers do what their scripts say.
-/

namespace NexusC2

/-- The gate's part of the runtime. -/
structure GateState (F : Type) where
  proposals : Dict String (Pending F)
  inbox : Dict String (Tasking F)
  acked : Finset String
  active : Finset String
  audit : AuditTrail F
  log : GateLog F

/-- The gate's part of a runtime. -/
def C2Runtime.gate {F G : Type} (s : C2Runtime F G) : GateState F :=
  { proposals := s.proposals
    inbox := s.inbox
    acked := s.acked
    active := s.policy.interlock.activeCoaIds
    audit := s.audit
    log := s.log }

/-- What a handler does to the gate, one effect at a time. -/
inductive GateEvent (F : Type) where
  | verified (coa : CourseOfAction F) (ok : Bool)
  | queued (p : Pending F)
  | dropped (coaId : String)
  | issued (t : Tasking F)
  | activated (coa : CourseOfAction F)
  | acked (coaId : String) (t : Tasking F)
  | recorded (name severity time : String) (place : Nat) (data : Fields F)
  | cleared
  | restored (records : List (Record F))

namespace GateState

variable {F : Type} [PyFloatOps F] [Sha256]

/-- The effect of an event. -/
def apply (s : GateState F) : GateEvent F → GateState F
  | .verified coa ok => { s with log := { s.log with verified := s.log.verified ++ [(coa, ok)] } }
  | .queued p =>
    { s with
      proposals := s.proposals.set p.coa.coaId p
      log := { s.log with queued := s.log.queued ++ [p] } }
  | .dropped coaId => { s with proposals := s.proposals.erase coaId }
  | .issued t =>
    { s with
      inbox := s.inbox.set t.coa.coaId t
      log := { s.log with issued := s.log.issued ++ [t] } }
  | .activated coa =>
    { s with
      active := insert (DeterministicInterlock.dupKey coa) (insert coa.coaId s.active) }
  | .acked coaId t =>
    { s with acked := insert coaId s.acked, inbox := s.inbox.set coaId t }
  | .recorded name severity time _ data =>
    { s with audit := (s.audit.append name severity time data).2 }
  | .cleared => { s with proposals := ∅, inbox := ∅, acked := ∅, active := ∅ }
  | .restored records => { s with audit := AuditTrail.replaceRecords records }

/-- The part of a script that runs: what comes before the first append that raises. -/
def ran (raises : String → Nat → Option Exc) : List (GateEvent F) → List (GateEvent F)
  | [] => []
  | .recorded name severity time place data :: es =>
    match raises name place with
    | some _ => []
    | none => .recorded name severity time place data :: ran raises es
  | e :: es => e :: ran raises es

/-- A script run under the raises of a request. -/
def exec (raises : String → Nat → Option Exc) (s : GateState F) (es : List (GateEvent F)) :
    GateState F :=
  (ran raises es).foldl apply s

end GateState

/-! ## Scripts -/

/-- The decision a request makes, by either door. -/
def Request.approve? {F : Type} : Request F → Option ApproveRequest
  | .approve req => some req
  | .verifyApprove coaId decision => some
      { coaId := coaId, decision := decision, operatorId := "nexusgate-verify-screen1" }
  | _ => none

/-- The guardrail run a request asks for, by either door. -/
def Request.guardrail? {F : Type} [PyFloatOps F] : Request F → Option (GuardrailDemoRequest F)
  | .guardrail req => some req
  | .verifyGuardrail scenarioId unitId navyUnitId => some
      { scenarioId := scenarioId
        unitId := unitId
        navyUnitId := navyUnitId
        timeoutSeconds := some (defaultTimeout F) }
  | _ => none

/-- The acknowledgement a request makes, by either door. -/
def Request.ack? {F : Type} : Request F → Option (AckRequest F)
  | .ack req => some req
  | .verifyAck coaId unitId => some
      { coaId := coaId
        unitId := unitId
        signature := none
        status := "ACKED"
        message := "nexusgate-verify-screen2"
        telemetry := [] }
  | _ => none

/-- Either reset. -/
def Request.IsReset {F : Type} (r : Request F) : Prop := r = .reset ∨ r = .verifyReset

section

variable {F Obs G : Type} [PyFloatOps F] [Sha256] [EntityGraph F Obs G]

/-- The events of the loop over the units, from an index on. -/
def unitEvents (env : Env F Obs G) (req : ApproveRequest) (d : SealedDecision F) :
    Nat → List String → List (GateEvent F)
  | _, [] => []
  | index, uid :: rest =>
    .issued (approvedTasking env req d index uid) ::
      .recorded "tasking_issued" "High" (env.utcNow (100 + index)) index
        (issuedData (approvedTasking env req d index uid)) ::
      unitEvents env req d (index + 1) rest

/-- The script of a request in a state. Requests that fail before they touch the gate have the
empty script. -/
inductive Script (s : C2Runtime F G) (r : Served F Obs G) : List (GateEvent F) → Prop where
  | nothing : Script s r []
  | interpreted (req : InterpretRequest F) (result : InterpretationResult F)
      (hreq : r.req = .interpret req) :
      Script s r [.recorded "picture_interpreted" "Low" (r.env.utcNow 100) 0
        (interpretedData req result)]
  | refused (req : ProposalRequest F) (coa : CourseOfAction F) (token : DecisionToken)
      (hreq : r.req = .proposals req) :
      Script s r [.verified coa false,
        .recorded "coa_rejected_fast" "High" (r.env.utcNow 100) 0 (rejectedData coa token)]
  | autoApproved (req : ProposalRequest F) (coa : CourseOfAction F)
      (interpretation : Option (InterpretationResult F)) (reason : Option String)
      (hreq : r.req = .proposals req)
      (hcoa : (proposedCoa r.env req s).1 = .ok (coa, interpretation))
      (hverify : s.policy.interlock.verify coa = .ok (true, reason))
      (htier : coa.tier = .tier0Autonomous) :
      Script s r [.verified coa true, .issued (autoTasking r.env req coa), .activated coa,
        .recorded "coa_auto_approved" "High" (r.env.utcNow 100) 0
          (autoData coa (autoTasking r.env req coa).token)]
  | proposed (req : ProposalRequest F) (coa : CourseOfAction F)
      (interpretation : Option (InterpretationResult F)) (reason : Option String)
      (t : C2Runtime F G) (hreq : r.req = .proposals req)
      (hcoa : (proposedCoa r.env req s).1 = .ok (coa, interpretation))
      (hverify : s.policy.interlock.verify coa = .ok (true, reason))
      (htier : coa.tier ≠ .tier0Autonomous) :
      Script s r [.verified coa true, .queued (queuedPending r.env req coa),
        .recorded "coa_proposed" "Medium" (r.env.utcNow 100) 0
          (proposedData req coa interpretation t)]
  | vetoFailed (req : GuardrailDemoRequest F) (calls : List (CourseOfAction F × Bool))
      (hreq : r.req.guardrail? = some req) :
      Script s r (calls.map fun c => .verified c.1 c.2)
  | vetoed (req : GuardrailDemoRequest F) (dangerous fallback : CourseOfAction F) (ok : Bool)
      (reason : Option String) (hreq : r.req.guardrail? = some req)
      (hfallback : fallback.coaId = r.env.uuid4 3) :
      Script s r [.verified dangerous ok, .verified fallback true,
        .queued (guardrailPending r.env req fallback),
        .recorded "guardrail_veto_option_b_queued" "High" (r.env.utcNow 100) 0
          (vetoData req reason dangerous fallback)]
  | formProposed (scenarioId unitId : String) (coa : CourseOfAction F)
      (hreq : r.req = .verifyPropose scenarioId unitId)
      (hcoa : (loadScenario r.env scenarioId (defaultTimeout F) s).1 = .ok coa) :
      Script s r [.queued (formPending r.env unitId coa),
        .recorded "coa_proposed" "Info" (r.env.utcNow 100) 0 (formData scenarioId unitId coa)]
  | denied (req : ApproveRequest) (d : SealedDecision F) (hreq : r.req.approve? = some req)
      (hseal : sealDecision r.env req s = .ok d) (hverdict : d.verdict ≠ .approved) :
      Script s r [.dropped req.coaId,
        .recorded "gate_decision" "High" (r.env.utcNow 100) 0 (decisionData req d)]
  | approved (req : ApproveRequest) (d : SealedDecision F) (hreq : r.req.approve? = some req)
      (hseal : sealDecision r.env req s = .ok d) (hverdict : d.verdict = .approved) :
      Script s r (.dropped req.coaId ::
        .recorded "gate_decision" "High" (r.env.utcNow 100) 0 (decisionData req d) ::
        (unitEvents r.env req d 0 d.pending.units ++ [.activated d.pending.coa]))
  | acknowledged (req : AckRequest F) (t : Tasking F) (hreq : r.req.ack? = some req)
      (hget : s.inbox.get req.coaId = some t) :
      Script s r [
        .acked req.coaId { t with status := .acked, ack := some (ackRecordOf r.env req t) },
        .recorded "recipient_ack" "High" (r.env.utcNow 100) 0 (ackRecordOf r.env req t).toFields]
  | cleared (hreq : r.req.IsReset) : Script s r [.cleared]
  | restored (records : List (Record F)) (hreq : r.req = .auditSnapshot records) :
      Script s r [.restored records]

end

end NexusC2

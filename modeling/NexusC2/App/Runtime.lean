import NexusC2.Core.Audit
import NexusC2.Core.Gate
import NexusC2.Core.RuntimeStore
import NexusC2.Misc.Handler

/-!
# The C2 runtime

`C2Runtime` (`app/c2_server.py`) and what its requests read from outside: the clock, fresh
uuids, the POI file, the scenario registry and the interpreter, all of them in `Env`, one for
each request. The entity graph is any type with the operations the server uses. `GateLog` is
no part of the program: it notes what the gate did, so that a law can speak about it later.
-/

namespace NexusC2

/-- The operations of `SpatialEntityGraph` the server uses. -/
class EntityGraph (F Obs G : Type) where
  /-- `SpatialEntityGraph(associate_radius_m=2_000.0)`. -/
  empty : G
  /-- `ingest`, with the id of the track the observation goes to. -/
  ingest : Obs → Handler Exc G String
  observations : G → List Obs
  /-- The row of an observation: its id and its JSON dump. -/
  row : Obs → String × Json F
  /-- `Observation.model_validate`; `none` is a `ValueError`. -/
  validate : Json F → Option Obs
  validate_row (o : Obs) : (validate (row o).2).isSome = true

/-- `Finding` (`app/scenarios/base.py:13-30`). -/
structure Finding (F : Type) where
  scenarioId : String
  trackId : String
  threatClass : String
  warningMinutesEst : F
  mismatchM : F
  confidence : F
  pictureSummary : String
  adversarialHypothesis : String
  spoofSources : List String
  approachSources : List String
  otherSources : List String
  message : String
  amberAlert : Option String
  sourceBreakdown : Fields F

/-- A list of strings, as JSON. -/
def Json.strs {F : Type} (l : List String) : Json F := .arr (l.map .str)

/-- `asdict(finding)`. -/
def Finding.asdict {F : Type} (f : Finding F) : Json F :=
  .obj [("scenario_id", .str f.scenarioId), ("track_id", .str f.trackId),
    ("threat_class", .str f.threatClass), ("warning_minutes_est", .float f.warningMinutesEst),
    ("mismatch_m", .float f.mismatchM), ("confidence", .float f.confidence),
    ("picture_summary", .str f.pictureSummary),
    ("adversarial_hypothesis", .str f.adversarialHypothesis),
    ("spoof_sources", Json.strs f.spoofSources), ("approach_sources", Json.strs f.approachSources),
    ("other_sources", Json.strs f.otherSources), ("message", .str f.message),
    ("amber_alert", Json.ofOption f.amberAlert), ("source_breakdown", .obj f.sourceBreakdown)]

/-- `Finding(**payload)` of a dump. -/
def Finding.ofDump {F : Type} [PyFloatOps F] (fs : Fields F) : Option (Finding F) := do
  some
    { scenarioId := ← (← Assoc.get fs "scenario_id").str?
      trackId := ← (← Assoc.get fs "track_id").str?
      threatClass := ← (← Assoc.get fs "threat_class").str?
      warningMinutesEst := ← (pyFloat (← Assoc.get fs "warning_minutes_est")).toOption
      mismatchM := ← (pyFloat (← Assoc.get fs "mismatch_m")).toOption
      confidence := ← (pyFloat (← Assoc.get fs "confidence")).toOption
      pictureSummary := ← (← Assoc.get fs "picture_summary").str?
      adversarialHypothesis := ← (← Assoc.get fs "adversarial_hypothesis").str?
      spoofSources := ← (← Assoc.get fs "spoof_sources").strs?
      approachSources := ← (← Assoc.get fs "approach_sources").strs?
      otherSources := ← (← Assoc.get fs "other_sources").strs?
      message := ← (← Assoc.get fs "message").str?
      amberAlert := ← (← Assoc.get fs "amber_alert").optStr?
      sourceBreakdown := ← (← Assoc.get fs "source_breakdown").obj? }

/-- `_finding_dict` (`app/c2_server.py:408-411`). -/
def findingDict {F : Type} : Option (Finding F) → Json F
  | none => .null
  | some f => f.asdict

/-- `Scenario` (`app/scenarios/base.py:55-80`): its functions, which may read files. -/
structure Scenario (F G : Type) where
  id : String
  buildEvents : Except Exc (List (Json F))
  detect : G → Except Exc (Option (Finding F))
  buildCoa : G → Finding F → F → Except Exc (CourseOfAction F)

/-- `InterpretationResult` (`app/llm_interpreter.py:47-57`). -/
structure InterpretationResult (F : Type) where
  hypotheses : List (Json F)
  confidence : F
  candidateCoa : CourseOfAction F
  pictureSummary : String
  adversarialHypothesis : String
  source : String
  model : Option String
  error : Option String

/-- What a request reads from outside. The clock and the uuids are numbered by their place in
the handler, an append by its event and place; `appendRaises` is the exception it raises. -/
structure Env (F Obs G : Type) where
  uuid4 : Nat → String
  utcNow : Nat → String
  appendRaises : String → Nat → Option Exc
  getScenario : String → Except Exc (Scenario F G)
  normalizeSensorEvent : Json F → Except Exc Obs
  interpret : G → Finding F → F → Bool → Except Exc (InterpretationResult F)
  loadPois : Except Exc (List (Poi F))

/-- An entry of `runtime.proposals`. `gate_proposals` and the guardrail set `queued_at`, the
verify UI sets `created_at`. -/
structure Pending (F : Type) where
  coa : CourseOfAction F
  unitId : String
  navyUnitId : Option String
  queuedAt : Option String
  createdAt : Option String

/-- The payload `persist_proposal` writes (`app/c2_server.py:277-284`). -/
def Pending.payload {F : Type} (p : Pending F) : Json F :=
  let navy := match p.navyUnitId with
    | some u => if u = "" then [] else [("navy_unit_id", Json.str u)]
    | none => []
  .obj ([("coa", p.coa.modelDump), ("unit_id", .str p.unitId),
    ("queued_at", Json.ofOption p.queuedAt)] ++ navy)

/-- The entry `load_all` makes of a row of the proposals (`core/runtime_store.py:243-250`). A
payload that is no object is skipped (`some none`); one whose `coa` is none raises. -/
def Pending.ofPayload {F : Type} [PyFloatOps F] (v : Json F) : Option (Option (Pending F)) :=
  match v with
  | .obj raw => do
    let navy ← match Assoc.get raw "navy_unit_id" with
      | none => some none
      | some v => v.optStr?
    let coa ← CourseOfAction.ofDump (← Assoc.get raw "coa")
    some (some
      { coa := coa
        unitId := ← (← Assoc.get raw "unit_id").str?
        navyUnitId := navy
        queuedAt := ← (← Assoc.get raw "queued_at").optStr?
        createdAt := none })
  | _ => some none

/-- What the store keeps of an entry. -/
def Pending.stored {F : Type} (p : Pending F) : Pending F :=
  { p with
    navyUnitId := match p.navyUnitId with
      | some u => if u = "" then none else some u
      | none => none
    createdAt := none }

@[simp] theorem Pending.ofPayload_payload {F : Type} [PyFloatOps F] (p : Pending F) :
    Pending.ofPayload p.payload = some (some p.stored) := by
  obtain ⟨coa, unitId, navy, queuedAt, createdAt⟩ := p
  have hcoa := CourseOfAction.ofDump_modelDump coa
  -- the dump of the COA is the one field whose reading needs an argument
  have hread : ∀ u : Option String,
      ((CourseOfAction.ofDump coa.modelDump).bind fun c =>
        some (some (Pending.mk c unitId u queuedAt none))) =
        some (some (Pending.mk coa unitId u queuedAt none)) := by
    intro u
    rw [hcoa]
    rfl
  cases navy with
  | none => cases queuedAt <;> exact hread none
  | some u =>
    unfold payload stored
    by_cases hu : u = ""
    · simp only [if_pos hu]
      cases queuedAt <;> exact hread none
    · simp only [if_neg hu]
      cases queuedAt <;> exact hread (some u)

/-- The ack record of `recipient_ack` (`app/c2_server.py:1067-1077`). -/
structure AckRecord (F : Type) where
  ackId : String
  coaId : String
  unitId : String
  status : String
  message : String
  telemetry : Fields F
  signature : String
  tokenDigest : String
  ackedAt : String

/-- The record as a `dict`. -/
def AckRecord.toFields {F : Type} (a : AckRecord F) : Fields F :=
  [("ack_id", .str a.ackId), ("coa_id", .str a.coaId), ("unit_id", .str a.unitId),
    ("status", .str a.status), ("message", .str a.message), ("telemetry", .obj a.telemetry),
    ("signature", .str a.signature), ("token_digest", .str a.tokenDigest),
    ("acked_at", .str a.ackedAt)]

/-- The two values of a tasking's `status`. -/
inductive TaskingStatus where
  | pendingAck
  | acked
  deriving DecidableEq, Repr

def TaskingStatus.value : TaskingStatus → String
  | pendingAck => "PENDING_ACK"
  | acked => "ACKED"

def TaskingStatus.ofValue (s : String) : Option TaskingStatus :=
  if s = "PENDING_ACK" then some pendingAck else if s = "ACKED" then some acked else none

/-- The record a `dict` is. -/
def AckRecord.ofFields {F : Type} (fs : Fields F) : Option (AckRecord F) := do
  some
    { ackId := ← (← Assoc.get fs "ack_id").str?
      coaId := ← (← Assoc.get fs "coa_id").str?
      unitId := ← (← Assoc.get fs "unit_id").str?
      status := ← (← Assoc.get fs "status").str?
      message := ← (← Assoc.get fs "message").str?
      telemetry := ← (← Assoc.get fs "telemetry").obj?
      signature := ← (← Assoc.get fs "signature").str?
      tokenDigest := ← (← Assoc.get fs "token_digest").str?
      ackedAt := ← (← Assoc.get fs "acked_at").str? }

/-- An entry of `runtime.inbox`. -/
structure Tasking (F : Type) where
  coa : CourseOfAction F
  token : DecisionToken
  unitId : String
  issuedAt : String
  status : TaskingStatus
  ack : Option (AckRecord F)

/-- The tasking as a `dict`. -/
def Tasking.toJson {F : Type} (t : Tasking F) : Json F :=
  .obj ([("coa", t.coa.modelDump), ("token", t.token.modelDump), ("unit_id", .str t.unitId),
      ("issued_at", .str t.issuedAt), ("status", .str t.status.value)] ++
    match t.ack with
    | none => []
    | some a => [("ack", .obj a.toFields)])

/-- The tasking a row of the inbox holds. `load_all` takes the `dict` as it is
(`core/runtime_store.py:252-256`) and skips a payload that is none (`some none`). -/
def Tasking.ofPayload {F : Type} [PyFloatOps F] (v : Json F) : Option (Option (Tasking F)) :=
  match v with
  | .obj fs => do
    let ack ← match Assoc.get fs "ack" with
      | none => some none
      | some v => (AckRecord.ofFields (← v.obj?)).map some
    let coa ← CourseOfAction.ofDump (← Assoc.get fs "coa")
    let token ← DecisionToken.ofDump (← Assoc.get fs "token")
    some (some
      { coa := coa
        token := token
        unitId := ← (← Assoc.get fs "unit_id").str?
        issuedAt := ← (← Assoc.get fs "issued_at").str?
        status := ← TaskingStatus.ofValue (← (← Assoc.get fs "status").str?)
        ack := ack })
  | _ => some none

@[simp] theorem Tasking.ofPayload_toJson {F : Type} [PyFloatOps F] (t : Tasking F) :
    Tasking.ofPayload t.toJson = some (some t) := by
  obtain ⟨coa, token, unitId, issuedAt, status, ack⟩ := t
  have hread : ∀ a : Option (AckRecord F),
      ((CourseOfAction.ofDump coa.modelDump).bind fun c =>
        (DecisionToken.ofDump (token.modelDump (F := F))).bind fun t =>
          some (some (Tasking.mk c t unitId issuedAt status a))) =
        some (some (Tasking.mk coa token unitId issuedAt status a)) := by
    intro a
    rw [CourseOfAction.ofDump_modelDump, DecisionToken.ofDump_modelDump]
    rfl
  cases ack with
  | none => cases status <;> exact hread none
  | some a => cases status <;> exact hread (some a)

/-- What the gate did: each answer of `verify`, each proposal queued and each tasking put in the
inbox, oldest first. No handler reads it. -/
structure GateLog (F : Type) where
  verified : List (CourseOfAction F × Bool)
  queued : List (Pending F)
  issued : List (Tasking F)

/-- `C2Runtime` (`app/c2_server.py:222-249`). -/
structure C2Runtime (F G : Type) where
  policy : TieredPolicy F
  audit : AuditTrail F
  store : RuntimeStore F
  graph : G
  finding : Option (Finding F)
  scenarioId : Option String
  proposals : Dict String (Pending F)
  inbox : Dict String (Tasking F)
  acked : Finset String
  auditPreTamper : Option (List (Record F))
  lastGuardrail : Option (Json F)
  log : GateLog F

namespace C2Runtime

variable {F Obs G : Type}

variable (F Obs) in
/-- A runtime on a trail and an empty database. -/
def fresh [EntityGraph F Obs G] (policy : TieredPolicy F) (audit : AuditTrail F)
    (connected : Bool) : C2Runtime F G :=
  { policy := policy
    audit := audit
    store := ⟨connected, Tables.empty, Tables.empty⟩
    graph := EntityGraph.empty F Obs
    finding := none
    scenarioId := none
    proposals := ∅
    inbox := ∅
    acked := ∅
    auditPreTamper := none
    lastGuardrail := none
    log := ⟨[], [], []⟩ }

/-- `runtime.graph.ingest(obs)`. -/
def ingest [EntityGraph F Obs G] (o : Obs) : Handler Exc (C2Runtime F G) String :=
  Handler.zoom (fun s => s.graph) (fun s g => { s with graph := g })
    (EntityGraph.ingest F o)

def setInterlock (s : C2Runtime F G) (i : DeterministicInterlock F) : C2Runtime F G :=
  { s with policy := { s.policy with interlock := i } }

/-- `persist_picture` (`app/c2_server.py:270-274`). -/
def persistPicture (Obs : Type) [EntityGraph F Obs G] (s : C2Runtime F G) : C2Runtime F G :=
  let rows := (EntityGraph.observations F s.graph : List Obs).map (EntityGraph.row (F := F) G)
  let store := s.store.replaceObservations rows
  let store := store.setFinding (s.finding.map Finding.asdict)
  { s with store := store.setScenarioId s.scenarioId }

/-- `persist_proposal` (`app/c2_server.py:276-285`). -/
def persistProposal (s : C2Runtime F G) (coaId : String) (pending : Pending F) :
    C2Runtime F G :=
  { s with store := s.store.upsertProposal coaId pending.payload }

/-- `persist_inbox_item` (`app/c2_server.py:287-288`). -/
def persistInboxItem (s : C2Runtime F G) (coaId : String) (t : Tasking F) : C2Runtime F G :=
  { s with store := s.store.upsertInbox coaId t.toJson }

/-- `persist_acked` (`app/c2_server.py:290-291`). -/
def persistAcked (s : C2Runtime F G) (coaId : String) : C2Runtime F G :=
  { s with store := s.store.addAcked coaId }

variable (Obs) in
/-- `reset` (`app/c2_server.py:293-306`). -/
def reset [EntityGraph F Obs G] (s : C2Runtime F G) : C2Runtime F G :=
  { s with
    graph := EntityGraph.empty F Obs
    finding := none
    scenarioId := none
    proposals := ∅
    inbox := ∅
    acked := ∅
    policy := { s.policy with interlock := { s.policy.interlock with activeCoaIds := ∅ } }
    auditPreTamper := none
    lastGuardrail := none
    store := s.store.clear }

/-- Note an answer of `verify`. -/
def noteVerified (s : C2Runtime F G) (coa : CourseOfAction F) (ok : Bool) : C2Runtime F G :=
  { s with log := { s.log with verified := s.log.verified ++ [(coa, ok)] } }

/-- `runtime.proposals[k] = p`. -/
def queue (s : C2Runtime F G) (k : String) (p : Pending F) : C2Runtime F G :=
  { s with
    proposals := s.proposals.set k p
    log := { s.log with queued := s.log.queued ++ [p] } }

/-- `runtime.inbox[k] = t` of a new tasking. -/
def issue (s : C2Runtime F G) (k : String) (t : Tasking F) : C2Runtime F G :=
  { s with
    inbox := s.inbox.set k t
    log := { s.log with issued := s.log.issued ++ [t] } }

end C2Runtime

/-- A request handler. -/
abbrev C2Handler (F G α : Type) : Type := Handler Exc (C2Runtime F G) α

section

variable {F Obs G : Type} [PyFloatOps F] [Sha256]

/-- `runtime.audit.append(event, severity, data)`, the `i`-th of this event in the request. It
raises before the file is written, or not at all. -/
def auditAppend (env : Env F Obs G) (i : Nat) (event severity : String) (data : Fields F) :
    C2Handler F G (Record F) := do
  match env.appendRaises event i with
  | some e => Handler.raise e
  | none =>
    let s ← Handler.get
    let (record, audit) := s.audit.append event severity (env.utcNow (100 + i)) data
    Handler.modify fun s => { s with audit := audit }
    pure record

omit [Sha256] in
/-- `gate.verify_deterministic_interlocks(coa)` with the interlock of the policy. -/
def gateVerify (timeout : F) (coa : CourseOfAction F) : C2Handler F G (Bool × Option String) := do
  let s ← Handler.get
  let gate : LatencyBoundedGate F := ⟨timeout, s.policy.interlock⟩
  let (ok, reason) ← Handler.ofExcept (gate.verifyDeterministicInterlocks coa)
  Handler.modify fun s => s.noteVerified coa ok
  pure (ok, reason)

end

end NexusC2

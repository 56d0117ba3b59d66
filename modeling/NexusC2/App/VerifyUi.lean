import NexusC2.App.C2Server

/-!
# The verification harness and the requests of the server

The state-changing handlers of `app/verify_ui.py`, which serve forms from the same runtime, what
its page says of the trail, and `handle`, one step of the server on a request. A form answers
with a page whatever happens in its `try`, as long as the exception is one it names.
-/

namespace NexusC2

/-- What a form puts on its page. -/
structure Page where
  flash : String
  error : String

/-- `DEFAULT_TIMEOUT` (`app/verify_ui.py:32`). -/
def defaultTimeout (F : Type) [PyFloatOps F] : F := 30.0

/-- `s[:8]`. -/
def first8 (s : String) : String := String.ofList (s.toList.take 8)

/-- `v.get(key)` of a JSON object. -/
def Json.field {F : Type} (v : Json F) (key : String) : Json F :=
  match v with
  | .obj fs => (Assoc.get fs key).getD .null
  | _ => .null

section

variable {F : Type} [PyFloatOps F] [Sha256]

/-- `_ocsf_health` (`app/verify_ui.py:164-198`) of the records of the trail. -/
def ocsfHealth (records : List (Record F)) : Json F :=
  let result := verifyAuditChain records
  let broken := if result.ok then 0 else if result.errors.isEmpty then 1 else result.errors.length
  let detail := match result.ok, result.breakIndex, result.reason with
    | false, some i, some reason =>
      if reason = "" then "" else " · " ++ reason ++ " @ record[" ++ toString i ++ "]"
    | _, _, _ => ""
  .obj [("verified", .bool result.ok), ("broken", .int broken), ("count", .int result.total),
    ("label", .str (toString broken ++ " of " ++ toString result.total)),
    ("reason", Json.ofOption result.reason),
    ("break_index", match result.breakIndex with
      | some i => .int i
      | none => .null),
    ("detail", .str detail), ("path", .str "sha256"), ("eds_ok", .null), ("eds_label", .null)]

/-- `audit_health` (`app/c2_server.py:1101-1111`) of the records of the trail. -/
def auditHealth (records : List (Record F)) : Json F :=
  let full := ocsfHealth records
  .obj [("verified", full.field "verified"), ("broken", full.field "broken"),
    ("count", full.field "count"), ("label", full.field "label")]

end

section

variable {F Obs G : Type} [PyFloatOps F] [Sha256] [EntityGraph F Obs G]

/-- `try: m except (kinds): error = str(exc)`. -/
def caught (kinds : Exc → Bool) (m : C2Handler F G Page) : C2Handler F G Page :=
  Handler.tryCatch m fun e =>
    if kinds e then pure ⟨"", e.message⟩ else Handler.raise e

/-- `HTTPException`. -/
def isHttp : Exc → Bool
  | .http _ _ => true
  | _ => false

/-- `(HTTPException, KeyError, ValueError)`. -/
def isProposeError : Exc → Bool
  | .http _ _ | .keyError _ | .valueError _ => true
  | _ => false

/-- `HTTPException` and `(KeyError, ValueError, OSError)`. -/
def isGuardrailError : Exc → Bool
  | .http _ _ | .keyError _ | .valueError _ | .osError _ => true
  | _ => false

/-- The entry `verify_propose` queues (`app/verify_ui.py:364-368`). The `unit_id` it copies into
the COA is no field of one, and nothing reads it. -/
def formPending (env : Env F Obs G) (unitId : String) (coa : CourseOfAction F) : Pending F :=
  { coa := coa
    unitId := unitId
    navyUnitId := none
    queuedAt := none
    createdAt := some (env.utcNow 2) }

/-- The data of the `coa_proposed` record of `verify_propose` (`app/verify_ui.py:373`). -/
def formData (scenarioId unitId : String) (coa : CourseOfAction F) : Fields F :=
  [("coa_id", .str coa.coaId), ("scenario_id", .str scenarioId), ("unit_id", .str unitId)]

/-- The `try` of `verify_propose` (`app/verify_ui.py:361-376`). -/
def proposeForm (env : Env F Obs G) (scenarioId unitId : String) : C2Handler F G Page := do
  let coa ← loadScenario env scenarioId (defaultTimeout F)
  let pending := formPending env unitId coa
  Handler.modify fun s => s.queue coa.coaId pending
  Handler.modify fun s => s.persistProposal coa.coaId pending
  let _ ← auditAppend env 0 "coa_proposed" "Info" (formData scenarioId unitId coa)
  pure ⟨"Queued " ++ first8 coa.coaId ++ "… (" ++ scenarioId ++ ")", ""⟩

/-- `verify_propose` (`app/verify_ui.py:353-387`). -/
def verifyPropose (env : Env F Obs G) (scenarioId unitId : String) : C2Handler F G Page :=
  caught isProposeError (proposeForm env scenarioId unitId)

/-- `verify_approve` (`app/verify_ui.py:391-421`). -/
def verifyApprove (env : Env F Obs G) (coaId decision : String) : C2Handler F G Page :=
  caught isHttp do
    let result ← gateApprove env
      { coaId := coaId, decision := decision, operatorId := "nexusgate-verify-screen1" }
    pure ⟨(result.field "status").pyStr ++ " · coa " ++ first8 coaId ++ "…", ""⟩

/-- `verify_guardrail` (`app/verify_ui.py:425-470`). -/
def verifyGuardrail (env : Env F Obs G) (scenarioId unitId navyUnitId : String) :
    C2Handler F G Page :=
  caught isGuardrailError do
    let result ← gateDemoEvaluateWithGuardrail env
      { scenarioId := scenarioId
        unitId := unitId
        navyUnitId := navyUnitId
        timeoutSeconds := some (defaultTimeout F) }
    let fallback := result.field "fallback_coa"
    let guardrail : Json F := .obj [("status", result.field "status"),
      ("veto_reason", result.field "veto_reason"), ("veto_code", result.field "veto_code"),
      ("option_b_intent", fallback.field "intent"), ("option_b_coa_id", fallback.field "coa_id"),
      ("queued_for", result.field "queued_for")]
    Handler.modify fun s => { s with lastGuardrail := some guardrail }
    pure ⟨"Guardrail VETO · Option B queued (" ++ (fallback.field "intent").pyStr ++ ")", ""⟩

variable (Obs) in
omit [PyFloatOps F] [Sha256] in
/-- `verify_reset` (`app/verify_ui.py:553-570`). -/
def verifyReset : C2Handler F G Page := do
  Handler.modify (C2Runtime.reset Obs)
  Handler.modify fun s => { s with lastGuardrail := none }
  pure ⟨"Runtime reset", ""⟩

/-- `verify_ack` (`app/verify_ui.py:574-593`). -/
def verifyAck (env : Env F Obs G) (coaId unitId : String) : C2Handler F G Page :=
  caught isHttp do
    let result ← recipientAck env
      { coaId := coaId
        unitId := unitId
        signature := none
        status := "ACKED"
        message := "nexusgate-verify-screen2"
        telemetry := [] }
    pure ⟨"Ack " ++ (result.field "status").pyStr ++ " · " ++ first8 coaId ++ "…", ""⟩

/-! ## Requests -/

/-- The requests that change the gate, the recipients' state or the trail. -/
inductive Request (F : Type) where
  | interpret (req : InterpretRequest F)
  | proposals (req : ProposalRequest F)
  | guardrail (req : GuardrailDemoRequest F)
  | approve (req : ApproveRequest)
  | ack (req : AckRequest F)
  | reset
  | verifyPropose (scenarioId unitId : String)
  | verifyApprove (coaId decision : String)
  | verifyGuardrail (scenarioId unitId navyUnitId : String)
  | verifyAck (coaId unitId : String)
  | verifyReset
  | auditSnapshot (records : List (Record F))

/-- What a handler answers with. -/
inductive Response (F : Type) where
  | json (body : Json F)
  | page (page : Page)
  | error (e : Exc)

/-- The answer to a handler's outcome. -/
def respond {α : Type} (f : α → Response F) (m : C2Handler F G α) (s : C2Runtime F G) :
    Response F × C2Runtime F G :=
  match m s with
  | (.ok a, s') => (f a, s')
  | (.error e, s') => (.error e, s')

/-- One request served. -/
def handle (env : Env F Obs G) (req : Request F) (s : C2Runtime F G) :
    Response F × C2Runtime F G :=
  match req with
  | .interpret req => respond .json (interpretPicture env req) s
  | .proposals req => respond .json (gateProposals env req) s
  | .guardrail req => respond .json (gateDemoEvaluateWithGuardrail env req) s
  | .approve req => respond .json (gateApprove env req) s
  | .ack req => respond .json (recipientAck env req) s
  | .reset => respond .json (adminReset Obs) s
  | .verifyPropose scenarioId unitId => respond .page (verifyPropose env scenarioId unitId) s
  | .verifyApprove coaId decision => respond .page (verifyApprove env coaId decision) s
  | .verifyGuardrail scenarioId unitId navyUnitId =>
    respond .page (verifyGuardrail env scenarioId unitId navyUnitId) s
  | .verifyAck coaId unitId => respond .page (verifyAck env coaId unitId) s
  | .verifyReset => respond .page (verifyReset Obs) s
  | .auditSnapshot records => respond .json (adminAuditSnapshot records) s

omit [PyFloatOps F] [Sha256] [EntityGraph F Obs G] in
theorem respond_snd {α : Type} (f : α → Response F) (m : C2Handler F G α) (s : C2Runtime F G) :
    (respond f m s).2 = (m s).2 := by
  unfold respond
  split <;> rename_i h <;> rw [h]

omit [PyFloatOps F] [Sha256] [EntityGraph F Obs G] in
/-- A handler that is answered with a body has returned it. -/
theorem ok_of_respond_json {m : C2Handler F G (Json F)} {s : C2Runtime F G} {body : Json F}
    (h : (respond .json m s).1 = .json body) : (m s).1 = .ok body := by
  unfold respond at h
  split at h <;> rename_i hrun <;> cases h
  rw [hrun]

/-- A request together with what it reads from outside. -/
structure Served (F Obs G : Type) where
  env : Env F Obs G
  req : Request F

/-- The state after a request. -/
def serve (s : C2Runtime F G) (r : Served F Obs G) : C2Runtime F G := (handle r.env r.req s).2

/-- The step relation of the server. -/
def Step (s : C2Runtime F G) (r : Served F Obs G) (s' : C2Runtime F G) : Prop := s' = serve s r

end

end NexusC2

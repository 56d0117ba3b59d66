import NexusC2.App.Proofs.OperationRuns
import NexusC2.Misc.JsonEq

/-!
# The closed loop of two screens

`scripts/picture_to_tasking.py`: one client proposes, approves, looks into the inbox, acknowledges
and checks the trail, while others go on between its requests. What it prints is left out; its
result is the exit code.
-/

namespace NexusC2

section

variable {F : Type} [PyFloatOps F]

/-! ## The check of the trail -/

/-- `isinstance(meta.get(key), dict) and meta.get(key).get("coa_id") == coa_id`. -/
def dictCoaId (metadata : Fields F) (key coaId : String) : Bool :=
  match Assoc.get metadata key with
  | some (.obj fs) => isStr (Assoc.get fs "coa_id") coaId
  | _ => false

/-- `_coa_id_in_record` (`scripts/picture_to_tasking.py:94-104`). -/
def coaIdInRecord (rec : Record F) (coaId : String) : Bool :=
  match (getOrNone rec "metadata").orElse (.obj []) with
  | .obj metadata =>
    isStr (Assoc.get metadata "coa_id") coaId || dictCoaId metadata "coa" coaId ||
      dictCoaId metadata "token" coaId
  | _ => false

end

section

variable {F : Type} [PyMixedEq F]

/-- The loop over the whole trail (`scripts/picture_to_tasking.py:124-130`). -/
def linkedFrom : Json F → List (Record F) → Bool
  | _, [] => true
  | prev, rec :: rest =>
    (getOrNone rec "prev_hash").pyEq prev &&
      linkedFrom ((getOrNone rec "hash").orElse (.str "")) rest

/-- The link of a record to the one before it (`scripts/picture_to_tasking.py:136-139`). -/
def linkedAt (records : List (Record F)) (i : Nat) : Bool :=
  let expected := if i = 0 then .str genesisPrev else getOrNone (records.getD (i - 1) []) "hash"
  (getOrNone (records.getD i []) "prev_hash").pyEq expected

/-- `_verify_ack_in_trail` (`scripts/picture_to_tasking.py:107-144`) of the records of a trail. -/
def verifyAckInTrail (records : List (Record F)) (coaId : String) : Bool × String :=
  if records.isEmpty then (false, "audit trail empty")
  else
    let related := (List.range records.length).filter fun i =>
      coaIdInRecord (records.getD i []) coaId
    let ackHits := related.countP fun i =>
      isStr (Assoc.get (records.getD i []) "activity_name") "recipient_ack"
    let sealed := "recipient_ack sealed (" ++ toString ackHits ++ " record(s)); "
    if ackHits < 1 then (false, "no recipient_ack for coa_id=" ++ coaId ++ " in audit trail")
    else if linkedFrom (.str genesisPrev) records then
      (true, sealed ++ "chain ok (" ++ toString records.length ++ " links)")
    else
      let start := related.headD 0
      let stop := related.getLastD 0
      match (List.range' start (stop + 1 - start)).find? fun i => !linkedAt records i with
      | some i => (false, "broken hash chain at record[" ++ toString i ++ "] (session segment)")
      | none => (true, sealed ++ "session chain ok (records[" ++ toString start ++ ":" ++
          toString (stop + 1) ++ "]; older trail has a break)")

end

/-! ## The demo -/

/-- The arguments of `run_demo`. -/
structure DemoArgs where
  scenarioId : String
  unitId : String
  operatorId : String
  requireRoundtrip : Bool
  interpret : Bool
  forceHeuristic : Bool

/-- What surrounds a demo: what others do before each of its requests, what these read from
outside, and whether the roundtrip took too long. -/
structure DemoWorld (F Obs G : Type) where
  others : Nat → List (Operation F Obs G)
  env : Nat → Env F Obs G
  late : Bool

section

variable {F Obs G : Type} [PyMixedEq F] [Sha256] [EntityGraph F Obs G]

/-- The body of the proposal (`scripts/picture_to_tasking.py:174-178`). -/
def DemoArgs.proposal (a : DemoArgs) : ProposalRequest F :=
  { scenarioId := some a.scenarioId
    coa := none
    unitId := a.unitId
    timeoutSeconds := none
    interpret := a.interpret
    forceHeuristic := a.interpret && a.forceHeuristic }

/-- The body of the acknowledgement (`scripts/picture_to_tasking.py:224-228`). -/
def DemoArgs.ack (a : DemoArgs) (coaId : String) : AckRequest F :=
  { coaId := coaId
    unitId := a.unitId
    signature := none
    status := "ACKED"
    message := "picture_to_tasking demo ack"
    telemetry := [] }

/-- What others do before a request of the demo. -/
def DemoWorld.meanwhile (w : DemoWorld F Obs G) (i : Nat) : C2Handler F G Unit :=
  Handler.modify fun s => (w.others i).foldl operate s

/-- `coa["coa_id"]` of `body["coa"]`. -/
def bodyCoaId (body : Json F) : Except Exc String :=
  match (body.field "coa").field "coa_id" with
  | .str coaId => .ok coaId
  | _ => .error (.keyError "coa_id")

/-- `body.get("status") == status`. -/
def hasStatus (body : Json F) (status : String) : Bool := isStr (some (body.field "status")) status

/-- From the approval on (`scripts/picture_to_tasking.py:197-267`). -/
def closeLoop (w : DemoWorld F Obs G) (a : DemoArgs) (coaId : String) : C2Handler F G Nat := do
  w.meanwhile 2
  let approved ← gateApprove (w.env 2) ⟨coaId, "y", a.operatorId⟩
  if !hasStatus approved "APPROVED" then pure 1
  else do
    w.meanwhile 3
    let s ← Handler.get
    if (recipientInbox s a.unitId).length < 1 then pure 1
    else do
      w.meanwhile 4
      let ack ← recipientAck (w.env 4) (a.ack coaId)
      if !hasStatus ack "ACKED" then pure 1
      else do
        w.meanwhile 5
        let s ← Handler.get
        if !(verifyAckInTrail s.audit.records coaId).1 then pure 1
        else if a.requireRoundtrip && w.late then pure 1
        else pure 0

variable (Obs) in
/-- `run_demo` (`scripts/picture_to_tasking.py:147-267`). A response with an error status raises. -/
def runDemo (w : DemoWorld F Obs G) (a : DemoArgs) : C2Handler F G Nat := do
  w.meanwhile 0
  let _ ← Handler.tryCatch (adminReset Obs) fun _ => pure .null
  w.meanwhile 1
  let body ← gateProposals (w.env 1) a.proposal
  if !hasStatus body "QUEUED" then pure 1
  else do
    let coaId ← Handler.ofExcept (bodyCoaId body)
    closeLoop w a coaId

end

end NexusC2

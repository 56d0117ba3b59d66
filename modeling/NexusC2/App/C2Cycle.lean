import NexusC2.App.OpenFeed
import NexusC2.App.Runtime
import NexusC2.Core.Effector
import NexusC2.Core.Ontology

/-!
# The command-line cycle

`run_c2_cycle` (`app/main.py`) and the operator it asks (`app/ui/console.py`): scenario, ontology,
COA, gate, effector, with a trail of its own. `commands` is no part of the program: it notes what the
effector was asked to do, so that a law can speak about it later.
-/

namespace NexusC2

/-! ## The operator -/

/-- What is typed while the prompt waits: nothing, or a line after a delay. -/
inductive OperatorLine (F : Type) where
  | silent
  | typed (delay : F) (line : String)

/-- `(line or "n").strip().lower() or "n"`. -/
def lineDecision (line : String) : String :=
  let decision := normDecision (if line = "" then "n" else line)
  if decision = "" then "n" else decision

section

variable {F : Type} [PyFloatOps F]

open PyFloatOps

/-- `prompt_operator_decision` (`app/ui/console.py:60-116`): what it puts in the queue. A line that
reads `timeout` is put aside like one that never came. -/
def promptOperatorDecision (timeoutSeconds : F) (autoDecision : Option String)
    (line : OperatorLine F) : OperatorQueue F :=
  match autoDecision with
  | some decision => .delivers (0.0 : F) decision
  | none =>
    match line with
    | .silent => .silent
    | .typed delay line =>
      if lt (0.0 : F) timeoutSeconds && le delay timeoutSeconds then
        if lineDecision line = "timeout" then .silent else .delivers delay (lineDecision line)
      else .silent

end

/-! ## The cycle -/

/-- What the effector is asked to do. -/
inductive Command (F : Type) where
  | dispatch (coa : CourseOfAction F)
  | stationKeep

/-- What one run of the cycle reads from outside: its arguments, the files, the operator, the
effector and the clock. An append is numbered by its event; `appendRaises` is what it raises. -/
structure CycleEnv (F D S : Type) where
  scenario : Except Exc (Scenario F (SpatialEntityGraph F D))
  policyFile : Except Exc (PolicyFile F)
  gateTimeoutSec : Option F
  autoDecision : Option String
  operatorLine : OperatorLine F
  normalizeSensorEvent : Nat → Json F → Except Exc (Observation F D)
  openFeeds : List FeedKind
  observationsFromOpenFeeds : Except Exc (List (Observation F D))
  effector : Except Exc (EffectorProxy F S)
  appendRaises : String → Option Exc
  utcNow : String → String
  tokenStamp : TokenStamp
  receiptStamp : ReceiptStamp

/-- The trail on disk, the effector and what it was asked to do, oldest first. -/
structure CycleState (F S : Type) where
  audit : AuditTrail F
  effector : S
  commands : List (Command F)

/-- A run of the cycle. -/
abbrev CycleHandler (F S α : Type) : Type := Handler Exc (CycleState F S) α

section

variable {F D S : Type} [PyMathOps F] [PyDateTime D] [Sha256]

/-- `graph.ingest_many(observations)`, with the graph it leaves. -/
def SpatialEntityGraph.ingestMany (g : SpatialEntityGraph F D) (os : List (Observation F D)) :
    Except Exc (SpatialEntityGraph F D) :=
  match Handler.mapEach SpatialEntityGraph.ingest os g with
  | (.ok _, g') => .ok g'
  | (.error e, _) => .error e

/-- `sorted({o.modality for o in os})`. -/
def sortedModalities (os : List (Observation F D)) : List String :=
  ((os.map Observation.modality).foldl appendNew []).insertionSort fun a b => a ≤ b

/-- `gate_timeout_sec or policy.default_timeout_seconds`. -/
def CycleEnv.timeout (env : CycleEnv F D S) (policy : TieredPolicy F) : F :=
  match env.gateTimeoutSec with
  | some t => if PyFloatOps.truth t then t else policy.defaultTimeoutSeconds
  | none => policy.defaultTimeoutSeconds

/-- What the operator puts in the queue. -/
def CycleEnv.queue (env : CycleEnv F D S) (policy : TieredPolicy F) : OperatorQueue F :=
  promptOperatorDecision (env.timeout policy) env.autoDecision env.operatorLine

/-- `audit.append(event, severity, data)`. It raises before the file is written, or not at all. -/
def cycleAppend (env : CycleEnv F D S) (event severity : String) (data : Fields F) :
    CycleHandler F S Unit :=
  match env.appendRaises event with
  | some e => Handler.raise e
  | none => Handler.modify fun s =>
      { s with audit := (s.audit.append event severity (env.utcNow event) data).2 }

/-- A call of the effector, noted as it is made. -/
def commandEffector (command : Command F) (call : Handler Exc S (ExecutionReceipt F)) :
    CycleHandler F S (ExecutionReceipt F) := do
  Handler.modify fun s => { s with commands := s.commands ++ [command] }
  Handler.zoom (fun s => s.effector) (fun s e => { s with effector := e }) call

/-- The picture of a run: scenario events, then the open feeds (`app/main.py:57-78`). -/
def cyclePicture (env : CycleEnv F D S) (scenario : Scenario F (SpatialEntityGraph F D)) :
    CycleHandler F S (SpatialEntityGraph F D) := do
  let events ← Handler.ofExcept scenario.buildEvents
  let observations ← Handler.ofExcept
    (events.zipIdx.mapM fun p => env.normalizeSensorEvent p.2 p.1)
  let graph ← Handler.ofExcept (SpatialEntityGraph.empty.ingestMany observations)
  cycleAppend env "observations_ingested" "Info"
    [("count", .int observations.length), ("scenario", .str scenario.id)]
  let extra ← Handler.ofExcept env.observationsFromOpenFeeds
  if extra.isEmpty then pure graph
  else do
    let graph ← Handler.ofExcept (graph.ingestMany extra)
    cycleAppend env "open_feed_ingested" "Info"
      [("count", .int extra.length), ("feeds", Json.strs (env.openFeeds.map FeedKind.value)),
        ("modalities", Json.strs (sortedModalities extra))]
    pure graph

/-- What follows the verdict (`app/main.py:133-154`). -/
def cycleEffect (env : CycleEnv F D S) (coa : CourseOfAction F) (verdict : GateVerdict) :
    CycleHandler F S Unit := do
  let effector ← Handler.ofExcept env.effector
  match verdict with
  | .approved => do
    let receipt ← commandEffector (.dispatch coa) (effector.dispatch env.receiptStamp coa)
    -- the active set it is registered in ends with the run
    cycleAppend env "dispatch" "High" [("receipt", receipt.modelDump)]
  | .timedOutFallback => do
    let receipt ← commandEffector .stationKeep (effector.emergencyStationKeep env.receiptStamp)
    cycleAppend env "station_keep" "High" [("receipt", receipt.modelDump)]
  | .rejectedFast | .rejectedOperator => pure ()

/-- The proposal, the gate and the effector, for a finding (`app/main.py:86-156`). -/
def cycleTasking (env : CycleEnv F D S) (scenario : Scenario F (SpatialEntityGraph F D))
    (policy : TieredPolicy F) (graph : SpatialEntityGraph F D) (finding : Finding F) :
    CycleHandler F S GateVerdict := do
  let built ← Handler.ofExcept (scenario.buildCoa graph finding (env.timeout policy))
  let coa := policy.applyDefaults built
  cycleAppend env "coa_proposed" "Medium"
    [("scenario", .str scenario.id), ("coa_id", .str coa.coaId), ("tier", .int coa.tier.value),
      ("intent", .str coa.intent), ("confidence", .float coa.confidence),
      ("sources", Json.strs coa.corroboratingSources),
      ("raw_input_digest", .str coa.rawInputDigest),
      ("picture_summary", .str finding.pictureSummary),
      ("adversarial_hypothesis", .str finding.adversarialHypothesis)]
  let gate : LatencyBoundedGate F := ⟨env.timeout policy, policy.interlock⟩
  let decided ← Handler.ofExcept (gate.evaluate coa (env.queue policy) env.tokenStamp)
  cycleAppend env "gate_decision" "High"
    [("coa_id", .str coa.coaId), ("verdict", .str decided.1.value),
      ("token", decided.2.modelDump), ("scenario", .str scenario.id)]
  cycleEffect env coa decided.1
  pure decided.1

/-- `run_c2_cycle` (`app/main.py:37-156`). -/
def runC2Cycle (env : CycleEnv F D S) : CycleHandler F S GateVerdict := do
  let scenario ← Handler.ofExcept env.scenario
  let policy := TieredPolicy.fromYaml (← Handler.ofExcept env.policyFile)
  Handler.modify fun s => { s with audit := s.audit.reopen }
  let graph ← cyclePicture env scenario
  match ← Handler.ofExcept (scenario.detect graph) with
  | none => do
    cycleAppend env "no_finding" "Info" [("scenario", .str scenario.id)]
    pure .rejectedFast
  | some finding => cycleTasking env scenario policy graph finding

/-- Runs of the program one after the other, on one trail, whatever becomes of each. -/
def cycleRuns (envs : List (CycleEnv F D S)) (s : CycleState F S) : CycleState F S :=
  envs.foldl (fun s env => (runC2Cycle env s).2) s

end

/-- The exit status of `cli_main` (`app/main.py:227-232`). -/
def exitStatus : GateVerdict → Nat
  | .approved | .timedOutFallback | .rejectedOperator => 0
  | .rejectedFast => 1

end NexusC2

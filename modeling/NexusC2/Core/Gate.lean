import NexusC2.Core.Interlock
import NexusC2.Misc.Text

/-!
# The latency-bounded gate

`LatencyBoundedGate` (`core/gate.py`) and `TieredPolicy` (`core/policy.py`). The operator queue
is what it will deliver first and when: a delay counted from the start of the wait, so a string
that is there already has delay zero and is delivered whatever the timeout is.
-/

namespace NexusC2

/-- The words the gate takes for an approval. -/
def approveWords : List String := ["y", "yes", "approve", "approved"]

/-- The words `gate_approve` takes for a denial. -/
def denyWords : List String := ["n", "no", "deny", "denied", "reject", "rejected"]

/-- `decision.strip().lower()`. -/
def normDecision (decision : String) : String := Text.lower (Text.strip decision)

/-- `asyncio.Queue[str] | None`: no queue, a queue that stays empty, or the first string and
the delay after which it is there. -/
inductive OperatorQueue (F : Type) where
  | absent
  | silent
  | delivers (delay : F) (decision : String)

/-- `LatencyBoundedGate` (`core/gate.py:12-20`). -/
structure LatencyBoundedGate (F : Type) where
  timeoutSec : F
  interlock : DeterministicInterlock F

/-- The values `uuid4()` and `utc_now()` give a token. -/
structure TokenStamp where
  tokenId : String
  issuedAt : String

namespace LatencyBoundedGate

variable {F : Type} [PyFloatOps F] [Sha256]

open PyFloatOps

/-- `verify_deterministic_interlocks` (`core/gate.py:22-23`). -/
def verifyDeterministicInterlocks (g : LatencyBoundedGate F) (coa : CourseOfAction F) :
    Except Exc (Bool × Option String) :=
  g.interlock.verify coa

variable (F) in
/-- A sealed token. -/
def mint (stamp : TokenStamp) (coaId : String) (verdict : GateVerdict)
    (operatorId reason : Option String) : DecisionToken :=
  DecisionToken.sealed F
    { tokenId := stamp.tokenId
      coaId := coaId
      verdict := verdict.value
      issuedAt := stamp.issuedAt
      operatorId := operatorId
      reason := reason
      digest := "" }

/-- `asyncio.wait_for`: whether a string with this delay is there in time. -/
def inTime (timeout delay : F) : Bool := le delay (0.0 : F) || le delay timeout

/-- The window of a decision: the COA's own one when positive. -/
def window (g : LatencyBoundedGate F) (coa : CourseOfAction F) : F :=
  if lt (0.0 : F) coa.timeoutSeconds then coa.timeoutSeconds else g.timeoutSec

/-- `evaluate` (`core/gate.py:25-91`). -/
def evaluate (g : LatencyBoundedGate F) (coa : CourseOfAction F) (queue : OperatorQueue F)
    (stamp : TokenStamp) : Except Exc (GateVerdict × DecisionToken) := do
  let (valid, reason) ← g.verifyDeterministicInterlocks coa
  if !valid then
    .ok (.rejectedFast, mint F stamp coa.coaId .rejectedFast none reason)
  else if coa.tier = .tier0Autonomous then
    .ok (.approved, mint F stamp coa.coaId .approved (some "autonomous") (some "tier0_auto"))
  else
    match queue with
    | .absent =>
      .ok (.timedOutFallback,
        mint F stamp coa.coaId .timedOutFallback none (some "no_operator_channel"))
    | .silent =>
      .ok (.timedOutFallback, mint F stamp coa.coaId .timedOutFallback none (some "latency_timeout"))
    | .delivers delay decision =>
      if inTime (g.window coa) delay then
        if normDecision decision ∈ approveWords then
          .ok (.approved,
            mint F stamp coa.coaId .approved (some "operator") (some "operator_approve"))
        else
          .ok (.rejectedOperator,
            mint F stamp coa.coaId .rejectedOperator (some "operator") (some "operator_deny"))
      else
        .ok (.timedOutFallback,
          mint F stamp coa.coaId .timedOutFallback none (some "latency_timeout"))

/-- `evaluate` of a COA that waits for an operator approves exactly an approving word that comes
in time. -/
theorem evaluate_hitl {g : LatencyBoundedGate F} {coa : CourseOfAction F} {reason : Option String}
    (hverify : g.interlock.verify coa = .ok (true, reason)) (htier : coa.tier ≠ .tier0Autonomous)
    (delay : F) (decision : String) (stamp : TokenStamp) :
    (∃ token, g.evaluate coa (.delivers delay decision) stamp = .ok (.approved, token)) ↔
      normDecision decision ∈ approveWords ∧ inTime (g.window coa) delay = true := by
  have hgate : g.verifyDeterministicInterlocks coa = .ok (true, reason) := hverify
  unfold evaluate
  rw [hgate]
  simp only [bind, Except.bind, Bool.not_true, Bool.false_eq_true, if_false, if_neg htier]
  by_cases htime : inTime (g.window coa) delay = true
  · rw [if_pos htime]
    by_cases hword : normDecision decision ∈ approveWords
    · rw [if_pos hword]
      simp [hword, htime]
    · rw [if_neg hword]
      simp [hword]
  · rw [if_neg htime]
    simp [htime]

end LatencyBoundedGate

/-! ## Policy -/

/-- `TieredPolicy` (`core/policy.py:14-28`). -/
structure TieredPolicy (F : Type) where
  defaultTimeoutSeconds : F
  confidenceAutoApproveMin : F
  minCorroboratingSourcesTier1 : Int
  interlock : DeterministicInterlock F

/-- What the policy file holds, with the defaults filled in (`core/policy.py:15-28`). -/
structure PolicyFile (F : Type) where
  defaultTimeoutSeconds : F
  confidenceAutoApproveMin : F
  minCorroboratingSourcesTier1 : Int
  forbiddenZones : List (Zone F)
  maxSpeedKt : F
  rejectNullCoordinates : Bool

namespace TieredPolicy

variable {F : Type} [PyFloatOps F]

open PyFloatOps

omit [PyFloatOps F] in
/-- `from_yaml` (`core/policy.py:30-33`): nothing is active and no POI is loaded yet. -/
def fromYaml (raw : PolicyFile F) : TieredPolicy F :=
  { defaultTimeoutSeconds := raw.defaultTimeoutSeconds
    confidenceAutoApproveMin := raw.confidenceAutoApproveMin
    minCorroboratingSourcesTier1 := raw.minCorroboratingSourcesTier1
    interlock :=
      { forbiddenZones := raw.forbiddenZones
        maxSpeedKt := raw.maxSpeedKt
        rejectNullCoordinates := raw.rejectNullCoordinates
        activeCoaIds := ∅
        cniPois := [] } }

/-- `resolve_tier` (`core/policy.py:35-46`). -/
def resolveTier (p : TieredPolicy F) (coa : CourseOfAction F) : ActionTier :=
  if coa.tier = .tier2DualKey then .tier2DualKey
  else if le p.confidenceAutoApproveMin coa.confidence ∧
      p.minCorroboratingSourcesTier1 ≤ (coa.corroboratingSources.length : Int) ∧
      coa.intent ∈ ["OBSERVE_ONLY", "STATION_KEEP"] then .tier0Autonomous
  else if coa.tier = .tier0Autonomous then .tier0Autonomous
  else .tier1Hitl

/-- `apply_defaults` (`core/policy.py:48-54`). -/
def applyDefaults (p : TieredPolicy F) (coa : CourseOfAction F) : CourseOfAction F :=
  let coa := if le coa.timeoutSeconds (0.0 : F)
    then { coa with timeoutSeconds := p.defaultTimeoutSeconds } else coa
  let coa := { coa with tier := p.resolveTier coa }
  if Assoc.get coa.invariants "fail_safe" = none then
    { coa with invariants := Assoc.set coa.invariants "fail_safe" (.str "STATION_KEEP") }
  else coa

@[simp] theorem applyDefaults_coaId (p : TieredPolicy F) (coa : CourseOfAction F) :
    (p.applyDefaults coa).coaId = coa.coaId := by
  unfold applyDefaults
  dsimp only
  split <;> split <;> rfl

end TieredPolicy

end NexusC2

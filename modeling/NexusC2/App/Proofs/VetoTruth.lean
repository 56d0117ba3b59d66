import NexusC2.App.Proofs.RefusedRequests
import NexusC2.Core.Proofs.DebrisCone

/-!
# What a guardrail veto was about

The guardrail answers with the code of a CNI veto whatever the interlock said of the dangerous draft.
The reason it gives, and audits, is that of the debris check exactly when every check before it passes
the draft and the debris reaches a civilian CNI.
-/

namespace NexusC2

open DeterministicInterlock

/-! ## Refused for its debris -/

namespace DeterministicInterlock

variable {F : Type} [PyFloatOps F]

/-- The checks before it pass the COA, and its debris reaches a civilian POI. -/
structure DebrisStops (i : DeterministicInterlock F) (coa : CourseOfAction F) : Prop
    extends i.PassesFirst coa where
  hit : ∃ a, altitude coa = .ok a ∧ ∃ poi ∈ i.cniPois, poi.Civilian ∧
    Reaches coa.targetCoordinates.1 coa.targetCoordinates.2 (debrisFootprintRadiusM a) poi

/-- A refusal by the debris check: the debris of a dangerous COA reaches a civilian POI, and the
reason says so. -/
theorem verifyCniDebris_refused {i : DeterministicInterlock F} {coa : CourseOfAction F}
    {reason : Option String} (h : i.verifyCniDebris coa = .ok (false, reason)) :
    (∃ text, reason = some (cniFalloutCode ++ ": debris cone intersects " ++ text)) ∧
      ∃ a, altitude coa = .ok a ∧ ∃ poi ∈ i.cniPois, poi.Civilian ∧
        Reaches coa.targetCoordinates.1 coa.targetCoordinates.2 (debrisFootprintRadiusM a) poi := by
  rw [verifyCniDebris_eq] at h
  split at h
  · cases h
  · obtain ⟨a, ha, h⟩ := except_bind_eq_ok.mp h
    rcases debrisLoop_ok h with ⟨hok, -⟩ | ⟨-, htext, hhit⟩
    · cases hok
    · exact ⟨htext, a, ha, hhit⟩

/-- Debris that reaches a civilian POI is not let through. -/
theorem verifyCniDebris_of_hit {i : DeterministicInterlock F} {coa : CourseOfAction F}
    (hdangerous : dangerous coa = true) {a : F} (ha : altitude coa = .ok a) {poi : Poi F}
    (hpoi : poi ∈ i.cniPois) (hcivilian : poi.Civilian)
    (hreach : Reaches coa.targetCoordinates.1 coa.targetCoordinates.2 (debrisFootprintRadiusM a) poi) :
    ¬ ∃ reason, i.verifyCniDebris coa = .ok (true, reason) := by
  rw [verifyCniDebris_eq_true_iff]
  intro h
  obtain ⟨a', ha', hclear⟩ := h hdangerous (List.ne_nil_of_mem hpoi)
  rw [ha] at ha'
  obtain rfl := Except.ok.inj ha'
  exact not_reaches_of_staysClear (hclear poi hpoi hcivilian) hreach

/-- No reason given before the debris is looked at begins as one of the debris check does. -/
theorem FirstReason.ne_debris {text : String} (h : FirstReason text) (rest : String) :
    text ≠ cniFalloutCode ++ ": debris cone intersects " ++ rest := by
  intro heq
  have hchars := congrArg String.toList heq
  cases h <;> simp [cniFalloutCode] at hchars

end DeterministicInterlock

/-! ## The request -/

section

variable {F Obs G : Type} [PyFloatOps F] [Sha256] [EntityGraph F Obs G]

/-- The reason the guardrail gives for a draft that the interlock accepts. -/
def expectedVeto : String := cniFalloutCode ++ ": expected HARD VETO for terminal SAM over CNI"

/-- The policy the guardrail checks with and the dangerous draft it checks. -/
def dangerousOf (env : Env F Obs G) (req : GuardrailDemoRequest F) (policy : TieredPolicy F) :
    Except Exc (TieredPolicy F × CourseOfAction F) := do
  let refreshed ← refreshedPolicy env policy
  let sc ← env.getScenario req.scenarioId
  let coa ← sc.draft env req.scenarioId (timeoutOr req.timeoutSeconds policy.defaultTimeoutSeconds)
  .ok (refreshed, dangerousDraft (refreshed.applyDefaults coa))

/-- The answer, and the last record of the trail, give this reason for a CNI veto of the draft. -/
structure Reports (answer : Json F) (left : C2Runtime F G) (dangerous : CourseOfAction F)
    (reason : Option String) : Prop where
  answered : ∃ fields, answer = .obj fields ∧
    Assoc.get fields "veto_code" = some (.str cniFalloutCode) ∧
    Assoc.get fields "veto_reason" = some (Json.ofOption reason) ∧
    Assoc.get fields "dangerous_proposal_draft" = some dangerous.modelDump
  audited : ∃ record data, left.audit.records.getLast? = some record ∧
    Assoc.get record "activity_name" = some (.str "guardrail_veto_option_b_queued") ∧
    Assoc.get record "metadata" = some (.obj data) ∧
    Assoc.get data "veto_reason" = some (Json.ofOption reason)

omit [PyFloatOps F] [Sha256] [EntityGraph F Obs G] in
/-- The reason is given once. -/
theorem Reports.reason_unique {answer : Json F} {left : C2Runtime F G}
    {dangerous : CourseOfAction F} {reason reason' : Option String}
    (h : Reports answer left dangerous reason) (h' : Reports answer left dangerous reason') :
    reason = reason' := by
  obtain ⟨fields, hanswer, -, hreason, -⟩ := h.answered
  obtain ⟨fields', hanswer', -, hreason', -⟩ := h'.answered
  rw [hanswer] at hanswer'
  obtain rfl := Json.obj.inj hanswer'
  rw [hreason] at hreason'
  have hsome := congrArg Json.optStr? (Option.some.inj hreason')
  simpa using hsome

/-- What an answer of the guardrail says of the draft. -/
theorem guardrail_answered {env : Env F Obs G} {req : GuardrailDemoRequest F} {s left : C2Runtime F G}
    {answer : Json F} (h : gateDemoEvaluateWithGuardrail env req s = (.ok answer, left)) :
    ∃ policy dangerous ok reason, dangerousOf env req s.policy = .ok (policy, dangerous) ∧
      policy.interlock.verify dangerous = .ok (ok, reason) ∧
      Reports answer left dangerous (if ok then some expectedVeto else reason) := by
  unfold gateDemoEvaluateWithGuardrail at h
  rw [Handler.get_bind] at h
  obtain ⟨_, s₁, hrefresh, h⟩ := Handler.bind_eq_ok.mp h
  rw [refreshPois_apply] at hrefresh
  cases hpolicy : refreshedPolicy env s.policy with
  | error e =>
    rw [hpolicy] at hrefresh
    cases hrefresh
  | ok policy =>
  rw [hpolicy] at hrefresh
  cases hrefresh
  obtain ⟨loaded, s₂, hload, h⟩ := Handler.bind_eq_ok.mp h
  cases hscenario : env.getScenario req.scenarioId with
  | error e =>
    have habsent : loadScenario env req.scenarioId
        (timeoutOr req.timeoutSeconds s.policy.defaultTimeoutSeconds) { s with policy := policy } =
          (.error e, { s with policy := policy }) :=
      Handler.bind_error (ingestScenario_absent hscenario _)
    rw [habsent] at hload
    cases hload
  | ok sc =>
  rw [loadScenario_apply hscenario] at hload
  cases hdraft : sc.draft env req.scenarioId
      (timeoutOr req.timeoutSeconds s.policy.defaultTimeoutSeconds) with
  | error e =>
    rw [hdraft] at hload
    cases hload
  | ok coa =>
  rw [hdraft] at hload
  obtain ⟨hloaded, rfl⟩ := Prod.mk.inj hload
  obtain rfl := Except.ok.inj hloaded
  have hkept := Showing.put_policy Obs (sc.load env req.scenarioId).2
    ({ s with policy := policy } : C2Runtime F G)
  generalize (sc.load env req.scenarioId).2.put Obs { s with policy := policy } = u at h hkept
  change u.policy = policy at hkept
  change (gateVerify _ (dangerousDraft (policy.applyDefaults coa)) >>= _) u = _ at h
  have hdangerous : dangerousOf env req s.policy =
      .ok (policy, dangerousDraft (policy.applyDefaults coa)) := by
    unfold dangerousOf
    rw [hpolicy, hscenario]
    simp only [bind, Except.bind, hdraft]
  generalize dangerousDraft (policy.applyDefaults coa) = dangerous at h hdangerous
  obtain ⟨⟨ok, reason⟩, s₃, hverify, h⟩ := Handler.bind_eq_ok.mp h
  rw [gateVerify_apply, hkept] at hverify
  cases hanswer : policy.interlock.verify dangerous with
  | error e =>
    rw [hanswer] at hverify
    cases hverify
  | ok result =>
  rw [hanswer] at hverify
  obtain ⟨hresult, rfl⟩ := Prod.mk.inj hverify
  obtain ⟨rfl, rfl⟩ := Prod.mk.inj (Except.ok.inj hresult)
  refine ⟨policy, dangerous, _, _, hdangerous, hanswer, ?_⟩
  dsimp only at h
  rw [Handler.get_bind] at h
  obtain ⟨fallback, s₄, -, h⟩ := Handler.bind_eq_ok.mp h
  obtain ⟨⟨okB, reasonB⟩, s₅, -, h⟩ := Handler.bind_eq_ok.mp h
  cases okB with
  | false => cases h
  | true =>
  simp only [Bool.not_true, Bool.false_eq_true, if_false, Handler.modify_bind] at h
  obtain ⟨record, s₆, hrecord, h⟩ := Handler.bind_eq_ok.mp h
  rw [auditAppend_apply] at hrecord
  split at hrecord
  · cases hrecord
  obtain ⟨-, rfl⟩ := Prod.mk.inj hrecord
  obtain ⟨hbody, rfl⟩ := Prod.mk.inj h
  refine ⟨⟨_, (Except.ok.inj hbody).symm, rfl, rfl, rfl⟩, _, _, List.getLast?_concat, rfl, rfl, rfl⟩

/-- The veto that was answered is one of the debris check. -/
def TrueVeto (env : Env F Obs G) (req : GuardrailDemoRequest F) (s : C2Runtime F G)
    (answer : Json F) (left : C2Runtime F G) : Prop :=
  ∃ policy dangerous reason, dangerousOf env req s.policy = .ok (policy, dangerous) ∧
    policy.interlock.verifyCniDebris dangerous = .ok (false, reason) ∧
    Reports answer left dangerous reason

omit [Sha256] [EntityGraph F Obs G] in
theorem dangerous_dangerousDraft (coa : CourseOfAction F) : dangerous (dangerousDraft coa) = true := by
  unfold dangerous dangerousDraft
  simp only [Assoc.get_set, if_true]
  rfl

omit [Sha256] in
theorem dangerous_of_dangerousOf {env : Env F Obs G} {req : GuardrailDemoRequest F}
    {policy policy' : TieredPolicy F} {coa : CourseOfAction F}
    (h : dangerousOf env req policy = .ok (policy', coa)) : dangerous coa = true := by
  unfold dangerousOf at h
  obtain ⟨refreshed, -, h⟩ := except_bind_eq_ok.mp h
  obtain ⟨sc, -, h⟩ := except_bind_eq_ok.mp h
  obtain ⟨coa', -, h⟩ := except_bind_eq_ok.mp h
  obtain ⟨-, rfl⟩ := Prod.mk.inj (Except.ok.inj h)
  exact dangerous_dangerousDraft _

/-- The veto of an answer is true exactly when the debris is what stops the draft. -/
theorem trueVeto_iff {env : Env F Obs G} {req : GuardrailDemoRequest F} {s left : C2Runtime F G}
    {answer : Json F} (h : gateDemoEvaluateWithGuardrail env req s = (.ok answer, left)) :
    TrueVeto env req s answer left ↔ ∃ policy dangerous,
      dangerousOf env req s.policy = .ok (policy, dangerous) ∧
        policy.interlock.DebrisStops dangerous := by
  obtain ⟨policy, dangerous, ok, reason, hdangerous, hverify, hreports⟩ := guardrail_answered h
  constructor
  · rintro ⟨policy', dangerous', reason', hdangerous', hdebris, hreports'⟩
    rw [hdangerous] at hdangerous'
    obtain ⟨rfl, rfl⟩ := Prod.mk.inj (Except.ok.inj hdangerous')
    refine ⟨policy, dangerous, hdangerous, ?_⟩
    obtain ⟨⟨text, htext⟩, hhit⟩ := verifyCniDebris_refused hdebris
    rcases verify_cases hverify with hclear | ⟨rfl, ⟨hfirst, -⟩ | ⟨-, first, hgiven, hreason⟩⟩
    · obtain ⟨_, haccepted⟩ := hclear.debris
      rw [hdebris] at haccepted
      cases haccepted
    · exact ⟨hfirst, hhit⟩
    · have hsame := hreports.reason_unique hreports'
      rw [if_neg Bool.false_ne_true, hgiven, htext] at hsame
      exact absurd (Option.some.inj hsame) (hreason.ne_debris text)
  · rintro ⟨policy', dangerous', hdangerous', hfirst, a, ha, poi, hpoi, hcivilian, hreach⟩
    rw [hdangerous] at hdangerous'
    obtain ⟨rfl, rfl⟩ := Prod.mk.inj (Except.ok.inj hdangerous')
    have hstopped := verifyCniDebris_of_hit (dangerous_of_dangerousOf hdangerous) ha hpoi hcivilian hreach
    rcases verify_cases hverify with hclear | ⟨rfl, ⟨-, hdebris⟩ | ⟨hnot, -⟩⟩
    · exact absurd hclear.debris hstopped
    · exact ⟨policy, dangerous, reason, hdangerous, hdebris, hreports⟩
    · exact absurd hfirst hnot

end

/-- The request of the demo. -/
def guardrailRequest : GuardrailDemoRequest Whole := ⟨"S1_trojan", "GBAD-RSAF-01", "PCG-PT-44", none⟩

/-- What a request finds outside when the contact is far from the tank farm. -/
def farEnv : Env Whole Unit Unit :=
  { demoEnv fun _ _ => none with
    getScenario := fun _ => .ok { trojanScenario with
      buildCoa := fun _ _ _ => .ok { demoCoa "coa-far" "INSPECT_TARGET" .tier1Hitl with
        targetCoordinates := (.num 60, .num 103) } } }

/-- Over the tank farm the veto is true. -/
theorem trueVeto_iff_tankFarm :
    letI := plainHash
    ∃ answer left, TrueVeto (demoEnv fun _ _ => none) guardrailRequest demoServer answer left := by
  let := plainHash
  refine ⟨_, _, (trueVeto_iff (show gateDemoEvaluateWithGuardrail (demoEnv fun _ _ => none)
    guardrailRequest demoServer = (.ok _, _) from rfl)).mpr ⟨_, _, rfl, ⟨rfl, rfl, rfl⟩, ?_⟩⟩
  exact ⟨.num 71, rfl, tankFarm, List.mem_cons_self, Or.inl rfl, .num 0, rfl, rfl⟩

/-- A draft that the interlock accepts is reported as vetoed for its debris. -/
theorem not_trueVeto :
    letI := plainHash
    ¬ ∀ (tr : List DemoTransition) (s left : C2Runtime Whole Unit) (env : Env Whole Unit Unit)
      (req : GuardrailDemoRequest Whole) (answer : Json Whole), Run Step demoServer tr s →
      gateDemoEvaluateWithGuardrail env req s = (.ok answer, left) →
      TrueVeto env req s answer left := by
  let := plainHash
  intro h
  obtain ⟨policy, dangerous, reason, hdangerous, hdebris, -⟩ :=
    h [] demoServer _ farEnv guardrailRequest _ .start (show _ = (Except.ok _, _) from rfl)
  obtain ⟨rfl, rfl⟩ := Prod.mk.inj (Except.ok.inj hdangerous)
  cases hdebris

end NexusC2

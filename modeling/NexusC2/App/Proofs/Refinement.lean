import NexusC2.App.GateModel

/-!
# Requests run their scripts

Every request, served from any state, leaves the gate where one of its scripts leaves it
(`handle_script`). The handlers are executed symbolically: loading a scenario touches neither
gate nor policy (`Frame`), each effect after that is one event, and an append either raises,
which ends script and handler alike, or records.
-/

namespace NexusC2

open GateState

section

variable {F Obs G : Type} [PyFloatOps F] [Sha256] [EntityGraph F Obs G]

/-! ## Appends and checks -/

omit [EntityGraph F Obs G] in
theorem auditAppend_apply (env : Env F Obs G) (i : Nat) (name severity : String)
    (data : Fields F) (s : C2Runtime F G) :
    auditAppend env i name severity data s = match env.appendRaises name i with
      | some e => (.error e, s)
      | none => (.ok (s.audit.append name severity (env.utcNow (100 + i)) data).1,
          { s with audit := (s.audit.append name severity (env.utcNow (100 + i)) data).2 }) := by
  unfold auditAppend
  cases env.appendRaises name i <;> rfl

omit [EntityGraph F Obs G] in
/-- A handler that goes on after an append does what the rest of its script says. -/
theorem gate_auditAppend_bind {α : Type} (env : Env F Obs G) (i : Nat) (name severity : String)
    (data : Fields F) (k : Record F → C2Handler F G α) (s : C2Runtime F G)
    (es : List (GateEvent F))
    (hk : ∀ record s',
      s'.gate = s.gate.apply (.recorded name severity (env.utcNow (100 + i)) i data) →
      (k record s').2.gate = s'.gate.exec env.appendRaises es) :
    ((auditAppend env i name severity data >>= k) s).2.gate =
      s.gate.exec env.appendRaises
        (.recorded name severity (env.utcNow (100 + i)) i data :: es) := by
  have happ := auditAppend_apply env i name severity data s
  cases hraise : env.appendRaises name i with
  | some e =>
    rw [hraise] at happ
    rw [Handler.bind_error happ]
    simp [exec, ran, hraise]
  | none =>
    rw [hraise] at happ
    have hgate : ({ s with audit :=
        (s.audit.append name severity (env.utcNow (100 + i)) data).2 } : C2Runtime F G).gate =
        s.gate.apply (.recorded name severity (env.utcNow (100 + i)) i data) := rfl
    rw [Handler.bind_ok happ, hk _ _ hgate, hgate]
    simp [exec, ran, hraise]

omit [Sha256] [EntityGraph F Obs G] in
theorem gateVerify_apply (timeout : F) (coa : CourseOfAction F) (s : C2Runtime F G) :
    gateVerify timeout coa s = match s.policy.interlock.verify coa with
      | .error e => (.error e, s)
      | .ok (ok, reason) => (.ok (ok, reason), s.noteVerified coa ok) := by
  simp only [gateVerify, LatencyBoundedGate.verifyDeterministicInterlocks, Handler.get_bind]
  cases s.policy.interlock.verify coa with
  | error e => rfl
  | ok r => rfl

/-! ## The frame of scenario loading -/

/-- Neither the gate nor the policy has changed. -/
structure Frame (s₀ s : C2Runtime F G) : Prop where
  gate : s.gate = s₀.gate
  policy : s.policy = s₀.policy

omit [PyFloatOps F] [Sha256] [EntityGraph F Obs G] in
theorem Frame.refl (s : C2Runtime F G) : Frame s s := ⟨rfl, rfl⟩

omit [PyFloatOps F] [Sha256] [EntityGraph F Obs G] in
theorem Frame.modify {s₀ : C2Runtime F G} {f : C2Runtime F G → C2Runtime F G}
    (hgate : ∀ s, (f s).gate = s.gate) (hpolicy : ∀ s, (f s).policy = s.policy) :
    Handler.Keeps (Frame s₀) (Handler.modify f : C2Handler F G Unit) :=
  .modify fun s h => ⟨(hgate s).trans h.gate, (hpolicy s).trans h.policy⟩

omit [PyFloatOps F] [Sha256] in
theorem ingest_frame (o : Obs) (s₀ : C2Runtime F G) :
    Handler.Keeps (Frame s₀) (C2Runtime.ingest o) :=
  .zoom fun _ _ h => ⟨h.gate, h.policy⟩

omit [PyFloatOps F] [Sha256] in
theorem ingestScenario_frame (env : Env F Obs G) (scenarioId : String) (s₀ : C2Runtime F G) :
    Handler.Keeps (Frame s₀) (ingestScenario env scenarioId) := by
  unfold ingestScenario
  refine .bind .ofExcept fun scenario => ?_
  refine .bind (Frame.modify (fun _ => rfl) fun _ => rfl) fun _ => ?_
  refine .bind .ofExcept fun events => ?_
  refine .bind .ofExcept fun observations => ?_
  refine .bind (.forEach fun o _ => .bind (ingest_frame o s₀) fun _ => .pure) fun _ => ?_
  refine .bind (Frame.modify (fun _ => rfl) fun _ => rfl) fun _ => ?_
  refine .bind .get fun s => ?_
  refine .bind .ofExcept fun finding => ?_
  refine .bind (Frame.modify (fun _ => rfl) fun _ => rfl) fun _ => ?_
  cases finding with
  | none => exact .raise
  | some finding => exact .bind (Frame.modify (fun _ => rfl) fun _ => rfl) fun _ => .pure

omit [Sha256] in
theorem loadScenario_frame (env : Env F Obs G) (scenarioId : String) (timeout : F)
    (s₀ : C2Runtime F G) : Handler.Keeps (Frame s₀) (loadScenario env scenarioId timeout) := by
  unfold loadScenario
  refine .bind (ingestScenario_frame env scenarioId s₀) fun finding => ?_
  refine .bind .ofExcept fun scenario => ?_
  refine .bind .get fun s => ?_
  exact .bind .ofExcept fun coa => .pure

omit [Sha256] in
theorem interpretScenario_frame (env : Env F Obs G) (scenarioId : String) (timeout : F)
    (forceHeuristic : Bool) (s₀ : C2Runtime F G) :
    Handler.Keeps (Frame s₀) (interpretScenario env scenarioId timeout forceHeuristic) := by
  unfold interpretScenario
  refine .bind (ingestScenario_frame env scenarioId s₀) fun _ => ?_
  refine .bind .get fun s => ?_
  cases s.finding with
  | none => exact .raise
  | some finding => exact .bind .ofExcept fun result => .pure

omit [PyFloatOps F] [Sha256] [EntityGraph F Obs G] in
theorem keyErrorAs404_keeps {α : Type} {I : C2Runtime F G → Prop} {m : C2Handler F G α}
    (h : Handler.Keeps I m) : Handler.Keeps I (keyErrorAs404 m) := by
  refine .tryCatch h fun e => ?_
  cases e <;> exact .raise

omit [Sha256] in
theorem proposedCoa_frame (env : Env F Obs G) (req : ProposalRequest F) (s₀ : C2Runtime F G) :
    Handler.Keeps (Frame s₀) (proposedCoa env req) := by
  unfold proposedCoa
  refine .bind .get fun s => ?_
  dsimp only
  split
  · exact .bind (keyErrorAs404_keeps (interpretScenario_frame _ _ _ _ s₀)) fun result => .pure
  split
  · exact .bind (loadScenario_frame _ _ _ s₀) fun coa => .pure
  split
  · exact .pure
  · exact .raise

/-! ## The handlers -/

/-- Where loading raises, nothing has happened to the gate; else the rest of the handler runs. -/
theorem script_of_frame {α β : Type} {m : C2Handler F G α} {k : α → C2Handler F G β}
    {Runs : List (GateEvent F) → Prop} {raises : String → Nat → Option Exc} {s : C2Runtime F G}
    (hm : Handler.Keeps (Frame s) m) (hnothing : Runs [])
    (hk : ∀ a s₁, m s = (.ok a, s₁) → Frame s s₁ →
      ∃ script, Runs script ∧ (k a s₁).2.gate = s.gate.exec raises script) :
    ∃ script, Runs script ∧ ((m >>= k) s).2.gate = s.gate.exec raises script := by
  have hframe := hm.snd (Frame.refl s)
  cases hload : m s with
  | mk r s₁ =>
    rw [hload] at hframe
    cases r with
    | error e =>
      rw [Handler.bind_error hload]
      exact ⟨_, hnothing, hframe.gate⟩
    | ok a =>
      rw [Handler.bind_ok hload]
      exact hk a s₁ hload hframe

theorem interpretPicture_script (env : Env F Obs G) (req : InterpretRequest F)
    (s : C2Runtime F G) : ∃ script, Script s ⟨env, .interpret req⟩ script ∧
      (interpretPicture env req s).2.gate = s.gate.exec env.appendRaises script := by
  unfold interpretPicture
  rw [Handler.get_bind]
  refine script_of_frame (keyErrorAs404_keeps (interpretScenario_frame env req.scenarioId
    (timeoutOr req.timeoutSeconds s.policy.defaultTimeoutSeconds) req.forceHeuristic s)) .nothing ?_
  intro result s₁ _ hframe
  rw [← hframe.gate]
  refine ⟨_, .interpreted req result rfl, ?_⟩
  refine (gate_auditAppend_bind _ _ _ _ _ _ _ [] ?_).trans rfl
  intro _ _ _
  rfl

theorem gateProposals_script (env : Env F Obs G) (req : ProposalRequest F)
    (s : C2Runtime F G) : ∃ script, Script s ⟨env, .proposals req⟩ script ∧
      (gateProposals env req s).2.gate = s.gate.exec env.appendRaises script := by
  unfold gateProposals
  rw [Handler.get_bind]
  dsimp only
  refine script_of_frame (proposedCoa_frame env req s) .nothing ?_
  rintro ⟨coa, interpretation⟩ s₁ hload hframe
  dsimp only
  have hcoa : (proposedCoa env req s).1 = .ok (coa, interpretation) := by rw [hload]
  have hcheck := gateVerify_apply
    (timeoutOr req.timeoutSeconds s.policy.defaultTimeoutSeconds) coa s₁
  rw [hframe.policy] at hcheck
  cases hverify : s.policy.interlock.verify coa with
  | error e =>
    rw [hverify] at hcheck
    rw [Handler.bind_error hcheck]
    exact ⟨_, .nothing, hframe.gate⟩
  | ok answer =>
    obtain ⟨ok, reason⟩ := answer
    rw [hverify] at hcheck
    rw [Handler.bind_ok hcheck]
    dsimp only
    rw [← hframe.gate]
    cases ok with
    | false =>
      refine ⟨_, .refused req coa (LatencyBoundedGate.mint F ⟨env.uuid4 0, env.utcNow 0⟩
        coa.coaId .rejectedFast none reason) rfl, ?_⟩
      refine (gate_auditAppend_bind _ _ _ _ _ _ _ [] ?_).trans rfl
      intro _ _ _
      rfl
    | true =>
      by_cases htier : coa.tier = .tier0Autonomous
      · refine ⟨_, .autoApproved req coa interpretation reason rfl hcoa hverify htier, ?_⟩
        simp only [Bool.not_true, Bool.false_eq_true, if_false, if_pos htier,
          Handler.modify_bind]
        refine (gate_auditAppend_bind _ _ _ _ _ _ _ [] ?_).trans rfl
        intro _ _ _
        rfl
      · refine ⟨_, .proposed req coa interpretation reason s₁ rfl hcoa hverify htier, ?_⟩
        simp only [Bool.not_true, Bool.false_eq_true, if_false, if_neg htier,
          Handler.modify_bind, Handler.get_bind]
        refine (gate_auditAppend_bind _ _ _ _ _ _ _ [] ?_).trans rfl
        intro _ _ _
        rfl

omit [PyFloatOps F] [Sha256] [EntityGraph F Obs G] in
theorem refreshPois_gate (env : Env F Obs G) (s : C2Runtime F G) :
    (refreshPois env s).2.gate = s.gate := by
  unfold refreshPois
  cases env.loadPois with
  | ok pois => rfl
  | error e => cases e <;> rfl

theorem gateDemoEvaluateWithGuardrail_script (env : Env F Obs G) (req : GuardrailDemoRequest F)
    (r : Request F) (hreq : r.guardrail? = some req) (s : C2Runtime F G) :
    ∃ script, Script s ⟨env, r⟩ script ∧
      (gateDemoEvaluateWithGuardrail env req s).2.gate = s.gate.exec env.appendRaises script := by
  unfold gateDemoEvaluateWithGuardrail
  rw [Handler.get_bind]
  have hpois := refreshPois_gate env s
  cases hrefresh : refreshPois env s with
  | mk r₁ s₁ =>
  rw [hrefresh] at hpois
  change s₁.gate = s.gate at hpois
  cases r₁ with
  | error e =>
    rw [Handler.bind_error hrefresh]
    exact ⟨_, .nothing, hpois⟩
  | ok _ =>
  rw [Handler.bind_ok hrefresh]
  have hframe := (loadScenario_frame env req.scenarioId
    (timeoutOr req.timeoutSeconds s.policy.defaultTimeoutSeconds) s₁).snd (Frame.refl s₁)
  cases hload : loadScenario env req.scenarioId
      (timeoutOr req.timeoutSeconds s.policy.defaultTimeoutSeconds) s₁ with
  | mk r₂ s₂ =>
  rw [hload] at hframe
  have hgate : s₂.gate = s.gate := hframe.gate.trans hpois
  cases r₂ with
  | error e =>
    rw [Handler.bind_error hload]
    exact ⟨_, .nothing, hgate⟩
  | ok loaded =>
  rw [Handler.bind_ok hload]
  -- the veto check of the draft
  have hcheck := gateVerify_apply (timeoutOr req.timeoutSeconds s.policy.defaultTimeoutSeconds)
    (dangerousDraft loaded) s₂
  rw [← hgate]
  cases hverify : s₂.policy.interlock.verify (dangerousDraft loaded) with
  | error e =>
    rw [hverify] at hcheck
    rw [Handler.bind_error hcheck]
    exact ⟨_, .nothing, rfl⟩
  | ok answer =>
  obtain ⟨ok, reason⟩ := answer
  rw [hverify] at hcheck
  rw [Handler.bind_ok hcheck]
  simp only [Handler.get_bind]
  cases hfallback : buildOptionBFallback env (dangerousDraft loaded)
      (s₂.noteVerified (dangerousDraft loaded) ok).finding with
  | error e =>
    exact ⟨_, .vetoFailed req [(dangerousDraft loaded, ok)] hreq, rfl⟩
  | ok fallback =>
  simp only [Handler.ofExcept_ok_bind]
  -- the check of the fallback
  have hid := (TieredPolicy.applyDefaults_coaId
    (s₂.noteVerified (dangerousDraft loaded) ok).policy fallback).trans
    (buildOptionBFallback_coaId hfallback)
  generalize (s₂.noteVerified (dangerousDraft loaded) ok).policy.applyDefaults fallback = safe
    at hid ⊢
  have hcheckB := gateVerify_apply (timeoutOr req.timeoutSeconds s.policy.defaultTimeoutSeconds)
    safe (s₂.noteVerified (dangerousDraft loaded) ok)
  cases hverifyB : (s₂.noteVerified (dangerousDraft loaded) ok).policy.interlock.verify safe with
  | error e =>
    rw [hverifyB] at hcheckB
    rw [Handler.bind_error hcheckB]
    exact ⟨_, .vetoFailed req [(dangerousDraft loaded, ok)] hreq, rfl⟩
  | ok answer =>
  obtain ⟨okB, reasonB⟩ := answer
  rw [hverifyB] at hcheckB
  rw [Handler.bind_ok hcheckB]
  cases okB with
  | false =>
    exact ⟨_, .vetoFailed req [(dangerousDraft loaded, ok), (safe, false)] hreq, rfl⟩
  | true =>
    refine ⟨_, .vetoed req (dangerousDraft loaded) safe ok (if ok then
      some (cniFalloutCode ++ ": expected HARD VETO for terminal SAM over CNI") else reason) hreq
      hid, ?_⟩
    simp only [Bool.not_true, Bool.false_eq_true, if_false, Handler.modify_bind]
    refine (gate_auditAppend_bind _ _ _ _ _ _ _ [] ?_).trans rfl
    intro _ _ _
    rfl

omit [EntityGraph F Obs G] in
/-- The loop over the units runs its events, and what comes after it the rest of the script. -/
theorem issueUnits_script {α : Type} (env : Env F Obs G) (req : ApproveRequest)
    (d : SealedDecision F) (k : Unit → C2Handler F G α) (es : List (GateEvent F))
    (hk : ∀ s, (k () s).2.gate = s.gate.exec env.appendRaises es) (index : Nat)
    (units : List String) (s : C2Runtime F G) :
    ((issueUnits env req d index units >>= k) s).2.gate =
      s.gate.exec env.appendRaises (unitEvents env req d index units ++ es) := by
  induction units generalizing index s with
  | nil => exact hk s
  | cons uid units ih =>
    simp only [issueUnits, Handler.bind_assoc, Handler.modify_bind]
    refine (gate_auditAppend_bind _ _ _ _ _ _ _ _ ?_).trans rfl
    intro _ s' _
    exact ih (index + 1) s'

theorem gateApprove_script (env : Env F Obs G) (req : ApproveRequest) (r : Request F)
    (hreq : r.approve? = some req) (s : C2Runtime F G) :
    ∃ script, Script s ⟨env, r⟩ script ∧
      (gateApprove env req s).2.gate = s.gate.exec env.appendRaises script := by
  unfold gateApprove
  rw [Handler.get_bind]
  cases hseal : sealDecision env req s with
  | error e => exact ⟨_, .nothing, rfl⟩
  | ok d =>
    simp only [Handler.ofExcept_ok_bind, Handler.modify_bind]
    by_cases hverdict : d.verdict = .approved
    · refine ⟨_, .approved req d hreq hseal hverdict, ?_⟩
      simp only [if_pos hverdict]
      refine (gate_auditAppend_bind _ _ _ _ _ _ _ _ ?_).trans rfl
      intro _ s' _
      exact issueUnits_script env req d _ [.activated d.pending.coa] (fun _ => rfl) 0 _ s'
    · refine ⟨_, .denied req d hreq hseal hverdict, ?_⟩
      simp only [if_neg hverdict]
      refine (gate_auditAppend_bind _ _ _ _ _ _ _ [] ?_).trans rfl
      intro _ _ _
      rfl

theorem recipientAck_script (env : Env F Obs G) (req : AckRequest F) (r : Request F)
    (hreq : r.ack? = some req) (s : C2Runtime F G) :
    ∃ script, Script s ⟨env, r⟩ script ∧
      (recipientAck env req s).2.gate = s.gate.exec env.appendRaises script := by
  unfold recipientAck
  rw [Handler.get_bind]
  cases hget : s.inbox.get req.coaId with
  | none => exact ⟨_, .nothing, rfl⟩
  | some t =>
    by_cases hunit : t.unitId ≠ req.unitId
    · simp only [if_pos hunit]
      exact ⟨_, .nothing, rfl⟩
    · simp only [if_neg hunit, Handler.modify_bind]
      refine ⟨_, .acknowledged req t hreq hget, ?_⟩
      refine (gate_auditAppend_bind _ _ _ _ _ _ _ [] ?_).trans rfl
      intro _ _ _
      rfl

omit [PyFloatOps F] [Sha256] [EntityGraph F Obs G] in
/-- Catching an exception keeps the state it left. -/
theorem caught_snd (kinds : Exc → Bool) (m : C2Handler F G Page) (s : C2Runtime F G) :
    (caught kinds m s).2 = (m s).2 := by
  simp only [caught, Handler.tryCatch]
  cases hm : m s with
  | mk r s' =>
    cases r with
    | ok a => rfl
    | error e =>
      by_cases hk : kinds e = true
      · simp only [hk, if_true]
        rfl
      · simp only [hk, Bool.false_eq_true, if_false]
        rfl

omit [PyFloatOps F] [Sha256] [EntityGraph F Obs G] in
/-- What a form does after the handler it calls leaves the gate alone. -/
theorem gate_bind_snd {α β : Type} (m : C2Handler F G α) (k : α → C2Handler F G β)
    (hk : ∀ a s, (k a s).2.gate = s.gate) (s : C2Runtime F G) :
    ((m >>= k) s).2.gate = (m s).2.gate := by
  cases hm : m s with
  | mk r s' =>
    cases r with
    | ok a => rw [Handler.bind_ok hm, hk]
    | error e => rw [Handler.bind_error hm]

theorem proposeForm_script (env : Env F Obs G) (scenarioId unitId : String)
    (s : C2Runtime F G) : ∃ script, Script s ⟨env, .verifyPropose scenarioId unitId⟩ script ∧
      (proposeForm env scenarioId unitId s).2.gate = s.gate.exec env.appendRaises script := by
  unfold proposeForm
  refine script_of_frame (loadScenario_frame env scenarioId (defaultTimeout F) s) .nothing ?_
  intro coa s₁ hload hframe
  rw [← hframe.gate]
  refine ⟨_, .formProposed scenarioId unitId coa rfl (by rw [hload]), ?_⟩
  simp only [Handler.modify_bind]
  refine (gate_auditAppend_bind _ _ _ _ _ _ _ [] ?_).trans rfl
  intro _ _ _
  rfl

/-- Every request leaves the gate where one of its scripts leaves it. -/
theorem handle_script (r : Served F Obs G) (s : C2Runtime F G) :
    ∃ script, Script s r script ∧
      (serve s r).gate = s.gate.exec r.env.appendRaises script := by
  obtain ⟨env, req⟩ := r
  unfold serve
  cases req with
  | interpret req =>
    simp only [handle, respond_snd]
    exact interpretPicture_script env req s
  | proposals req =>
    simp only [handle, respond_snd]
    exact gateProposals_script env req s
  | guardrail req =>
    simp only [handle, respond_snd]
    exact gateDemoEvaluateWithGuardrail_script env req (.guardrail req) rfl s
  | approve req =>
    simp only [handle, respond_snd]
    exact gateApprove_script env req (.approve req) rfl s
  | ack req =>
    simp only [handle, respond_snd]
    exact recipientAck_script env req (.ack req) rfl s
  | reset =>
    simp only [handle, respond_snd]
    exact ⟨_, .cleared (Or.inl rfl), rfl⟩
  | verifyPropose scenarioId unitId =>
    simp only [handle, respond_snd, verifyPropose, caught_snd]
    exact proposeForm_script env scenarioId unitId s
  | verifyApprove coaId decision =>
    simp only [handle, respond_snd, verifyApprove, caught_snd]
    rw [gate_bind_snd _ _ fun _ _ => rfl]
    exact gateApprove_script env _ (.verifyApprove coaId decision) rfl s
  | verifyGuardrail scenarioId unitId navyUnitId =>
    simp only [handle, respond_snd, verifyGuardrail, caught_snd]
    rw [gate_bind_snd _ _ fun _ _ => rfl]
    exact gateDemoEvaluateWithGuardrail_script env _
      (.verifyGuardrail scenarioId unitId navyUnitId) rfl s
  | verifyAck coaId unitId =>
    simp only [handle, respond_snd, verifyAck, caught_snd]
    rw [gate_bind_snd _ _ fun _ _ => rfl]
    exact recipientAck_script env _ (.verifyAck coaId unitId) rfl s
  | verifyReset =>
    simp only [handle, respond_snd]
    exact ⟨_, .cleared (Or.inr rfl), rfl⟩
  | auditSnapshot records =>
    simp only [handle, respond_snd]
    exact ⟨_, .restored records rfl, rfl⟩

end

end NexusC2

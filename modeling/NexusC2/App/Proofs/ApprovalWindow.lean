import NexusC2.App.Proofs.GateRuns

/-!
# The approval window

`gate_proposals` checks a COA as `LatencyBoundedGate.evaluate` does and queues it, `gate_approve`
reads the decision as `evaluate` does and seals a token. The window of the gate is lost in
between: `gate_approve` looks at no clock, so the two agree exactly on the decisions that are no
approval or come in time.
-/

namespace NexusC2

open LatencyBoundedGate

section

variable {F Obs G : Type} [PyFloatOps F] [Sha256] [EntityGraph F Obs G]

/-- The gate `gate_proposals` builds for a request. -/
def proposalGate (s : C2Runtime F G) (req : ProposalRequest F) : LatencyBoundedGate F :=
  ⟨timeoutOr req.timeoutSeconds s.policy.defaultTimeoutSeconds, s.policy.interlock⟩

/-- `gate_approve` seals an approval. -/
def SealsApproved (env : Env F Obs G) (req : ApproveRequest) (s : C2Runtime F G) : Prop :=
  ∃ d, sealDecision env req s = .ok d ∧ d.verdict = .approved

omit [EntityGraph F Obs G] in
/-- An approval of an entry that is there is sealed for every approving word, and for no other. -/
theorem sealsApproved_iff {env : Env F Obs G} {req : ApproveRequest} {s : C2Runtime F G}
    {p : Pending F} (hget : s.proposals.get req.coaId = some p) :
    SealsApproved env req s ↔ normDecision req.decision ∈ approveWords := by
  constructor
  · rintro ⟨d, hseal, hverdict⟩
    have hword := (sealDecision_ok hseal).2
    rw [hverdict] at hword
    exact (decisionVerdict_approved _).mp ⟨_, hword⟩
  · intro hword
    obtain ⟨reason, hverdict⟩ := (decisionVerdict_approved _).mpr hword
    unfold SealsApproved sealDecision
    rw [hget, hverdict]
    exact ⟨_, rfl, rfl⟩

/-- What `gate_proposals` queues has passed the interlock and is not autonomous. -/
theorem Script.of_queued {s : C2Runtime F G} {r : Served F Obs G} {es : List (GateEvent F)}
    (hs : Script s r es) {req : ProposalRequest F} (hreq : r.req = .proposals req)
    {p : Pending F} (h : .queued p ∈ es) :
    p.coa.tier ≠ .tier0Autonomous ∧
      ∃ reason, s.policy.interlock.verify p.coa = .ok (true, reason) := by
  cases hs with
  | proposed req' coa interpretation reason t hreq' hcoa hverify htier =>
    obtain rfl : p = queuedPending r.env req' coa := by simpa using h
    exact ⟨htier, reason, hverify⟩
  | vetoed req' dangerous fallback ok reason hreq' =>
    rw [hreq] at hreq'
    cases hreq'
  | formProposed scenarioId unitId coa hreq' =>
    rw [hreq] at hreq'
    cases hreq'
  | approved req' d hreq' hseal hverdict =>
    rw [hreq] at hreq'
    cases hreq'
  | _ => simp at h

/-- An entry that `gate_proposals` queued, still there in any later state, and a decision that
comes after any delay: that the gate approves whenever `gate_approve` seals an approval holds
exactly when the decision is no approval or comes within the window. -/
theorem approval_refines_gate_iff {s₀ s₁ s : C2Runtime F G} {env₀ env : Env F Obs G}
    {req₀ : ProposalRequest F} (hstep : Step s₀ ⟨env₀, .proposals req₀⟩ s₁) {p : Pending F}
    (hqueued : p ∈ (Transition.mk s₀ (Served.mk env₀ (.proposals req₀)) s₁).did.queued)
    (req : ApproveRequest) (hpending : s.proposals.get req.coaId = some p) (delay : F)
    (stamp : TokenStamp) :
    (SealsApproved env req s → ∃ token, (proposalGate s₀ req₀).evaluate p.coa
        (.delivers delay req.decision) stamp = .ok (.approved, token)) ↔
      (normDecision req.decision ∈ approveWords →
        inTime ((proposalGate s₀ req₀).window p.coa) delay = true) := by
  obtain ⟨script, hscript, happ⟩ := hstep.applied
  have hmem := (GateState.ran_sublist _ script).subset ((happ.queued p).mp hqueued)
  obtain ⟨htier, reason, hverify⟩ := hscript.of_queued rfl hmem
  have hgate : (proposalGate s₀ req₀).interlock.verify p.coa = .ok (true, reason) := hverify
  rw [sealsApproved_iff hpending, evaluate_hitl hgate htier]
  constructor
  · intro h hword
    exact (h hword).2
  · intro h hword
    exact ⟨hword, h hword⟩

end

/-- The proposal of a COA with a window of 30 seconds. -/
def windowRequest : ProposalRequest Whole :=
  ⟨none, some (demoCoa "a" "INSPECT" .tier1Hitl), "u1", none, false, false⟩

/-- The state after it. -/
def windowServer [Sha256] : C2Runtime Whole Unit := serve demoServer (served (.proposals windowRequest))

/-- The decision comes after 20 seconds. -/
theorem approval_refines_gate_in_time :
    letI := plainHash
    ∃ p, windowServer.proposals.get "a" = some p ∧
      ((SealsApproved (demoEnv fun _ _ => none) ⟨"a", "yes", "op"⟩ windowServer →
        ∃ token, (proposalGate demoServer windowRequest).evaluate p.coa
          (.delivers (.num 20) "yes") ⟨"id", "t"⟩ = .ok (.approved, token)) ↔
      (normDecision "yes" ∈ approveWords →
        inTime ((proposalGate demoServer windowRequest).window p.coa) (.num 20) = true)) := by
  let := plainHash
  refine ⟨_, rfl, ?_⟩
  exact approval_refines_gate_iff (show Step demoServer (served (.proposals windowRequest)) windowServer
    from rfl) List.mem_cons_self ⟨"a", "yes", "op"⟩ rfl (.num 20) ⟨"id", "t"⟩

/-- The decision comes after 31 seconds: the approval is sealed, the gate has timed out. -/
theorem late_approval_is_sealed :
    letI := plainHash
    ∃ p, windowServer.proposals.get "a" = some p ∧ p.coa.tier = .tier1Hitl ∧
      p.coa.timeoutSeconds = .num 30 ∧
        SealsApproved (demoEnv fun _ _ => none) ⟨"a", "yes", "op"⟩ windowServer ∧
          ¬ ∃ token, (proposalGate demoServer windowRequest).evaluate p.coa
            (.delivers (.num 31) "yes") ⟨"id", "t"⟩ = .ok (.approved, token) := by
  let := plainHash
  refine ⟨_, rfl, rfl, rfl, ⟨_, rfl, rfl⟩, ?_⟩
  rintro ⟨token, h⟩
  cases h

end NexusC2

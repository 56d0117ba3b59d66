import NexusC2.App.Proofs.OperationRuns

/-!
# Protection of live taskings

An approval makes the id of the entry active, a Tier-0 proposal the id of its COA, and the
interlock refuses an active id. Two paths leave a tasking whose id is not active: the copy for a
navy unit, which is never registered, and a restart, which brings the inbox back and no active id.
Without them every id of the inbox is active, and a proposal under it is refused.
-/

namespace NexusC2

open GateState

section

variable {F Obs G : Type} [PyFloatOps F] [Sha256] [EntityGraph F Obs G]

/-- The operation is no reset and meets no storage error. -/
def Undisturbed (op : Operation F Obs G) : Prop :=
  op.NoStorageError ∧ ∀ r, op = .request r → ¬ r.req.IsReset

/-- No entry that goes to a second unit is approved, and a restart finds no tasking. -/
def RegistersAll (s : C2Runtime F G) (op : Operation F Obs G) : Prop :=
  (∀ r req p, op = .request r → r.req.approve? = some req →
    normDecision req.decision ∈ approveWords → s.proposals.get req.coaId = some p →
      p.units = [p.unitId]) ∧
  ∀ boot, op = .restart boot → ∀ k, s.inbox.get k = none

/-- Every id of the inbox is active. -/
def AllActive (s : GateState F) : Prop := ∀ k t, s.inbox.get k = some t → k ∈ s.active

/-- What is issued to a single unit is issued under an id that is registered. -/
theorem Script.issued_activated {s : C2Runtime F G} {r : Served F Obs G}
    {es : List (GateEvent F)} (hs : Script s r es)
    (hguard : RegistersAll s (.request r)) {t : Tasking F} (h : .issued t ∈ es) :
    .activated t.coa ∈ es := by
  cases hs with
  | autoApproved req coa interpretation reason hreq hcoa hverify htier =>
    obtain rfl : t = autoTasking r.env req coa := by simpa using h
    simp [autoTasking]
  | approved req d hreq hseal hverdict =>
    obtain ⟨hget, hword⟩ := sealDecision_ok hseal
    rw [hverdict] at hword
    have hunits := hguard.1 r req d.pending rfl hreq
      ((decisionVerdict_approved _).mp ⟨_, hword⟩) hget
    rcases mem_approved h with h | h | h | ⟨i, uid, hi, h | h⟩ <;> cases h
    rw [hunits, List.length_singleton] at hi
    obtain rfl : i = 0 := by omega
    simp [approvedTasking]
  | _ => simp at h

theorem allActive_effect {s : C2Runtime F G} {op : Operation F Obs G} {g : GateState F}
    (h : AllActive s.gate) (hop : Undisturbed op) (hguard : RegistersAll s op)
    (heffect : GateEffect s op g) : AllActive g := by
  intro k t hget
  cases heffect with
  | request r script hscript =>
    have hran := hop.1.ran script
    rw [hran] at hget ⊢
    have hclear : .cleared ∉ script := fun hmem => hop.2 r rfl (hscript.of_cleared hmem)
    rcases inbox_foldl hget with hget | ⟨hissued, rfl⟩ | hacked
    · exact active_foldl hclear (h k t hget)
    · exact (activated_foldl hclear (hscript.issued_activated hguard hissued)).2
    · obtain ⟨_, u, _, _, hu, _⟩ := hscript.of_acked hacked
      exact active_foldl hclear (h k u hu)
  | ingress i es hes =>
    rw [ingress_foldl hes] at hget ⊢
    exact h k t hget
  | restart boot =>
    -- a restart finds the inbox empty
    have hnone : s.gate.inbox.get k = none := hguard.2 boot rfl k
    exact absurd (hnone.symm.trans hget) (by simp)

/-! ## A proposal under an active id -/

/-- A proposal whose COA has an active id leaves the inbox as it is, and where it is answered it is
refused. -/
theorem gateProposals_active (env : Env F Obs G) (req : ProposalRequest F) (s : C2Runtime F G)
    {coa : CourseOfAction F} {interpretation : Option (InterpretationResult F)}
    (hcoa : (proposedCoa env req s).1 = .ok (coa, interpretation))
    (hactive : coa.coaId ∈ s.policy.interlock.activeCoaIds) :
    (gateProposals env req s).2.inbox = s.inbox ∧
      ∀ body, (gateProposals env req s).1 = .ok body →
        body.field "status" = .str "REJECTED_FAST" := by
  have hframe := (proposedCoa_frame env req s).snd (Frame.refl s)
  unfold gateProposals
  rw [Handler.get_bind]
  dsimp only
  cases hload : proposedCoa env req s with
  | mk r s₁ =>
    rw [hload] at hframe hcoa
    change r = .ok (coa, interpretation) at hcoa
    subst hcoa
    have hinbox : s₁.inbox = s.inbox := congrArg GateState.inbox hframe.gate
    rw [Handler.bind_ok hload]
    dsimp only
    have hcheck := gateVerify_apply
      (timeoutOr req.timeoutSeconds s.policy.defaultTimeoutSeconds) coa s₁
    rw [hframe.policy] at hcheck
    cases hverify : s.policy.interlock.verify coa with
    | error e =>
      rw [hverify] at hcheck
      rw [Handler.bind_error hcheck]
      refine ⟨hinbox, ?_⟩
      intro body hbody
      cases hbody
    | ok answer =>
      obtain ⟨ok, reason⟩ := answer
      rw [hverify] at hcheck
      rw [Handler.bind_ok hcheck]
      cases ok with
      | true => exact absurd hactive (DeterministicInterlock.not_mem_active_of_verify hverify).1
      | false =>
        dsimp only
        rw [if_pos (by rfl)]
        -- the refusal is recorded, or its record raises
        have happ := auditAppend_apply env 0 "coa_rejected_fast" "High" (rejectedData coa
          (LatencyBoundedGate.mint F ⟨env.uuid4 0, env.utcNow 0⟩ coa.coaId .rejectedFast none
            reason)) (s₁.noteVerified coa false)
        cases hraise : env.appendRaises "coa_rejected_fast" 0 with
        | some e =>
          rw [hraise] at happ
          rw [Handler.bind_error happ]
          refine ⟨hinbox, ?_⟩
          intro body hbody
          cases hbody
        | none =>
          rw [hraise] at happ
          rw [Handler.bind_ok happ]
          refine ⟨hinbox, ?_⟩
          intro body hbody
          cases hbody
          rfl

/-- In every run without a reset and without a storage error in which no entry for two units is
approved and no restart finds a tasking, every id of the inbox is active: a proposal of a COA
with that id is refused, and the tasking stays as it is. -/
theorem live_taskings_protected (policy : TieredPolicy F) (audit : AuditTrail F)
    {tr : List (Transition (C2Runtime F G) (Operation F Obs G))} {s : C2Runtime F G}
    (h : Run (Guarded (fun s op => Undisturbed op ∧ RegistersAll s op) Operation.Step)
      (C2Runtime.fresh F Obs policy audit true) tr s)
    {k : String} {t : Tasking F} (hget : s.inbox.get k = some t) :
    k ∈ s.policy.interlock.activeCoaIds ∧
      ∀ (env : Env F Obs G) (req : ProposalRequest F) coa interpretation,
        (proposedCoa env req s).1 = .ok (coa, interpretation) → coa.coaId = k →
          (serve s ⟨env, .proposals req⟩).inbox.get k = some t ∧
            ∀ body, (handle env (.proposals req) s).1 = .json body →
              body.field "status" = .str "REJECTED_FAST" := by
  have hstart : AllActive (C2Runtime.fresh F Obs policy audit true : C2Runtime F G).gate := by
    intro k t hget
    simp [C2Runtime.fresh, C2Runtime.gate] at hget
  have hinv : AllActive s.gate :=
    h.gate_invariant (mirrored_fresh policy audit) hstart
      (fun _ _ hcond => hcond.1.1.storeOpens)
      fun _ _ _ hI hcond heffect => allActive_effect hI hcond.1 hcond.2 heffect
  have hactive : k ∈ s.policy.interlock.activeCoaIds := hinv k t hget
  refine ⟨hactive, ?_⟩
  intro env req coa interpretation hcoa hid
  obtain ⟨hinbox, hrefused⟩ := gateProposals_active env req s hcoa (hid ▸ hactive)
  constructor
  · show (handle env (.proposals req) s).2.inbox.get k = some t
    unfold handle
    rw [respond_snd, hinbox]
    exact hget
  · intro body hbody
    exact hrefused body (ok_of_respond_json hbody)

end

/-- A request that is no reset, with its records written, disturbs nothing. -/
theorem undisturbed_served {req : Request Whole} (h : ¬ req.IsReset) :
    Undisturbed (.request (served req) : Operation Whole Unit Unit) := by
  refine ⟨fun _ _ => rfl, ?_⟩
  intro r hr
  cases hr
  exact h

theorem undisturbed_restart : Undisturbed (.restart demoBoot : Operation Whole Unit Unit) :=
  ⟨rfl, by simp⟩

/-- A restart, a proposal to one unit and its approval. -/
def singleUnitRun : List (Operation Whole Unit Unit) :=
  [.restart demoBoot, .request (served (propose (demoCoa "a" "INSPECT" .tier1Hitl))),
    .request (served (.approve ⟨"a", "yes", "op"⟩))]

/-- The id of the approved entry is active, and a proposal under it is refused. -/
theorem live_taskings_protected_single_unit :
    letI := plainHash
    ∃ t, (singleUnitRun.foldl operate demoServer).inbox.get "a" = some t ∧
      "a" ∈ (singleUnitRun.foldl operate demoServer).policy.interlock.activeCoaIds ∧
      ∀ (env : Env Whole Unit Unit) (req : ProposalRequest Whole) coa interpretation,
        (proposedCoa env req (singleUnitRun.foldl operate demoServer)).1 =
            .ok (coa, interpretation) → coa.coaId = "a" →
          (serve (singleUnitRun.foldl operate demoServer) ⟨env, .proposals req⟩).inbox.get "a" =
              some t ∧
            ∀ body, (handle env (.proposals req) (singleUnitRun.foldl operate demoServer)).1 =
                .json body → body.field "status" = .str "REJECTED_FAST" := by
  let := plainHash
  have hsome : ((singleUnitRun.foldl operate demoServer).inbox.get "a").isSome = true := by
    decide +kernel
  have hboot : (C2Runtime.restart Unit demoBoot demoServer).isOk = true := by decide +kernel
  have hunits : ∀ p, ((singleUnitRun.take 2).foldl operate demoServer).proposals.get "a" =
      some p → p.units = [p.unitId] := by
    intro p hp
    cases hp
    rfl
  obtain ⟨t, hget⟩ := Option.isSome_iff_exists.mp hsome
  refine ⟨t, hget, live_taskings_protected demoPolicy ⟨[], genesisPrev⟩ (run_operate ?_) hget⟩
  simp only [singleUnitRun, trace, List.forall_mem_cons]
  refine ⟨⟨⟨undisturbed_restart, by simp, ?_⟩, ?_⟩, ⟨⟨?_, ?_, by simp⟩, by simp⟩,
    ⟨⟨?_, ?_, by simp⟩, by simp⟩, by simp⟩
  · intro boot _ k
    rfl
  · intro boot hb
    cases hb
    exact hboot
  · exact undisturbed_served (by simp [Request.IsReset, propose])
  · intro r req p hr hreq
    cases hr
    cases hreq
  · exact undisturbed_served (by simp [Request.IsReset])
  · intro r req p hr hreq _ hp
    cases hr
    cases hreq
    exact hunits p hp

/-- Two runs without a reset and without a storage error: a restart after an approval, and the
approval of an entry for a navy unit. Both leave a tasking whose id is not active. -/
theorem live_tasking_unprotected :
    letI := plainHash
    (∃ (tr : List (Transition (C2Runtime Whole Unit) (Operation Whole Unit Unit)))
        (s : C2Runtime Whole Unit) (t : Tasking Whole),
      Run (Guarded (fun _ op => Undisturbed op) Operation.Step) demoServer tr s ∧
        s.inbox.get "a" = some t ∧ "a" ∉ s.policy.interlock.activeCoaIds) ∧
    ∃ (tr : List (Transition (C2Runtime Whole Unit) (Operation Whole Unit Unit)))
        (s : C2Runtime Whole Unit) (t : Tasking Whole),
      Run (Guarded (fun _ op => Undisturbed op) Operation.Step) demoServer tr s ∧
        s.inbox.get "uuid-1" = some t ∧ "uuid-1" ∉ s.policy.interlock.activeCoaIds := by
  let := plainHash
  constructor
  · let ops : List (Operation Whole Unit Unit) :=
      [.request (served (propose (demoCoa "a" "INSPECT" .tier1Hitl))),
        .request (served (.approve ⟨"a", "yes", "op"⟩)), .restart demoBoot]
    have hsome : ((ops.foldl operate demoServer).inbox.get "a").isSome = true := by decide +kernel
    have hactive : "a" ∉ (ops.foldl operate demoServer).policy.interlock.activeCoaIds := by
      decide +kernel
    have hboot : (C2Runtime.restart Unit demoBoot
        ((ops.take 2).foldl operate demoServer)).isOk = true := by decide +kernel
    obtain ⟨t, hget⟩ := Option.isSome_iff_exists.mp hsome
    refine ⟨_, _, t, run_operate ?_, hget, hactive⟩
    simp only [ops, trace, List.forall_mem_cons]
    refine ⟨⟨undisturbed_served ?_, by simp⟩, ⟨undisturbed_served ?_, by simp⟩,
      ⟨undisturbed_restart, ?_⟩, by simp⟩
    · simp [Request.IsReset, propose]
    · simp [Request.IsReset]
    · intro boot hb
      cases hb
      exact hboot
  · let ops : List (Operation Whole Unit Unit) :=
      [.request (served (.guardrail ⟨"S1_trojan", "u1", "navy", none⟩)),
        .request (served (.approve ⟨"uuid-3", "yes", "op"⟩))]
    have hsome : ((ops.foldl operate demoServer).inbox.get "uuid-1").isSome = true := by
      decide +kernel
    have hactive : "uuid-1" ∉ (ops.foldl operate demoServer).policy.interlock.activeCoaIds := by
      decide +kernel
    obtain ⟨t, hget⟩ := Option.isSome_iff_exists.mp hsome
    refine ⟨_, _, t, run_operate ?_, hget, hactive⟩
    simp only [ops, trace, List.forall_mem_cons]
    refine ⟨⟨undisturbed_served ?_, by simp⟩, ⟨undisturbed_served ?_, by simp⟩, by simp⟩
    · simp [Request.IsReset]
    · simp [Request.IsReset]

end NexusC2

import NexusC2.App.Proofs.OperationRuns

/-!
# A restarted server goes on

The database mirrors the gate, so after a restart the proposals are those of the server that is
gone, up to what a decision does not read, inbox and acked ids are the same, and the trail is
opened as it was left. Two servers that are so related answer decisions and acknowledgements
alike and stay related (`SameGate`).
-/

namespace NexusC2

open GateState
open Handler (Agree)

section

variable {F Obs G : Type} [PyFloatOps F] [Sha256] [EntityGraph F Obs G]

/-- What `gate_approve` reads of an entry: the COA and the units, the navy one if it is set. -/
def Pending.decidedOn (p : Pending F) : CourseOfAction F × String × Option String :=
  (p.coa, p.unitId, p.navyUnitId.filter (· ≠ ""))

omit [PyFloatOps F] [Sha256] in
@[simp] theorem Pending.decidedOn_stored (p : Pending F) : p.stored.decidedOn = p.decidedOn := by
  obtain ⟨coa, unitId, navy, queuedAt, createdAt⟩ := p
  cases navy with
  | none => rfl
  | some u =>
    by_cases hu : u = ""
    · subst hu
      rfl
    · simp [decidedOn, stored, hu]

omit [PyFloatOps F] [Sha256] in
@[simp] theorem Pending.units_stored (p : Pending F) : p.stored.units = p.units := by
  obtain ⟨coa, unitId, navy, queuedAt, createdAt⟩ := p
  cases navy with
  | none => rfl
  | some u => by_cases hu : u = "" <;> simp [units, stored, hu]

/-- Requests about an entry or a tasking: a decision or an acknowledgement, by either door. -/
def Request.OnEntry (r : Request F) : Prop := r.approve?.isSome ∨ r.ack?.isSome

/-- The answers of a server to a list of requests. -/
def answers (s : C2Runtime F G) : List (Served F Obs G) → List (Response F)
  | [] => []
  | r :: rs => (handle r.env r.req s).1 :: answers (serve s r) rs

/-! ## Two servers in step -/

/-- The second server has the entries of the first as the database holds them, and the same inbox,
acked ids and trail. -/
structure SameGate (s t : C2Runtime F G) : Prop where
  proposals : t.proposals = s.proposals.mapValues Pending.stored
  inbox : t.inbox = s.inbox
  acked : t.acked = s.acked
  audit : t.audit = s.audit

omit [EntityGraph F Obs G] in
theorem agree_auditAppend (env : Env F Obs G) (i : Nat) (name severity : String)
    (data : Fields F) : Agree SameGate (auditAppend (G := G) env i name severity data)
      (auditAppend env i name severity data) := by
  intro s t hst
  rw [auditAppend_apply, auditAppend_apply, hst.audit]
  cases env.appendRaises name i with
  | some e => exact ⟨rfl, hst⟩
  | none => exact ⟨rfl, hst.proposals, hst.inbox, hst.acked, rfl⟩

/-- The decision on an entry as the database holds it. -/
def SealedDecision.stored (d : SealedDecision F) : SealedDecision F :=
  { d with pending := d.pending.stored }

omit [EntityGraph F Obs G] in
theorem issueUnits_stored (env : Env F Obs G) (req : ApproveRequest) (d : SealedDecision F)
    (index : Nat) (units : List String) :
    issueUnits env req d.stored index units = issueUnits env req d index units := by
  induction units generalizing index with
  | nil => rfl
  | cons uid units ih =>
    have htasking : approvedTasking env req d.stored index uid =
        approvedTasking env req d index uid := rfl
    simp only [issueUnits, htasking, ih]

omit [EntityGraph F Obs G] in
theorem agree_issueUnits (env : Env F Obs G) (req : ApproveRequest) (d : SealedDecision F)
    (index : Nat) (units : List String) :
    Agree SameGate (issueUnits env req d index units) (issueUnits env req d index units) := by
  induction units generalizing index with
  | nil => exact .pure
  | cons uid units ih =>
    refine .bind (.modify fun s t hst => ?_) fun _ => ?_
    · refine ⟨hst.proposals, ?_, hst.acked, hst.audit⟩
      show t.inbox.set _ _ = s.inbox.set _ _
      rw [hst.inbox]
    refine .bind (.modify fun s t hst => ⟨hst.proposals, hst.inbox, hst.acked, hst.audit⟩) fun _ => ?_
    exact .bind (agree_auditAppend _ _ _ _ _) fun _ => ih (index + 1)

omit [EntityGraph F Obs G] in
/-- The decision on the entry of the one server is the one on the entry of the other. -/
theorem sealDecision_stored (env : Env F Obs G) (req : ApproveRequest) {s t : C2Runtime F G}
    (hst : SameGate s t) :
    sealDecision env req t = (sealDecision env req s).map SealedDecision.stored := by
  unfold sealDecision
  rw [hst.proposals, Dict.get_mapValues]
  cases s.proposals.get req.coaId with
  | none => rfl
  | some p => cases decisionVerdict req.decision <;> rfl

omit [EntityGraph F Obs G] in
theorem agree_gateApprove (env : Env F Obs G) (req : ApproveRequest) :
    Agree SameGate (gateApprove env req) (gateApprove env req) := by
  refine .get_bind fun s t hst => ?_
  rw [sealDecision_stored env req hst]
  refine .ofExcept_map fun d => ?_
  -- what follows reads of the entry its COA and units
  refine .bind (.modify fun s t hst => ?_) fun _ => ?_
  · refine ⟨?_, hst.inbox, hst.acked, hst.audit⟩
    show t.proposals.erase req.coaId = (s.proposals.erase req.coaId).mapValues Pending.stored
    rw [hst.proposals, Dict.mapValues_erase]
  refine .bind (.modify fun s t hst => ⟨hst.proposals, hst.inbox, hst.acked, hst.audit⟩) fun _ => ?_
  refine .bind (agree_auditAppend env 0 "gate_decision" "High" (decisionData req d)) fun _ => ?_
  have hunits : d.stored.pending.units = d.pending.units := d.pending.units_stored
  dsimp only
  rw [hunits, issueUnits_stored]
  by_cases hverdict : d.verdict = .approved
  · rw [if_pos hverdict, if_pos (show d.stored.verdict = .approved from hverdict)]
    refine .bind (agree_issueUnits _ _ _ _ _) fun _ => ?_
    refine .bind (.modify fun s t hst => ?_) fun _ => .pure
    exact ⟨hst.proposals, hst.inbox, hst.acked, hst.audit⟩
  · rw [if_neg hverdict, if_neg (show d.stored.verdict ≠ .approved from hverdict)]
    exact .pure

omit [EntityGraph F Obs G] in
theorem agree_recipientAck (env : Env F Obs G) (req : AckRequest F) :
    Agree SameGate (recipientAck (G := G) env req) (recipientAck env req) := by
  refine .get_bind fun s t hst => ?_
  rw [hst.inbox]
  cases s.inbox.get req.coaId with
  | none => exact .raise
  | some tasking =>
    by_cases hunit : tasking.unitId ≠ req.unitId
    · simp only [if_pos hunit]
      exact .raise
    · simp only [if_neg hunit]
      refine .bind (.modify fun s t hst => ?_) fun _ => ?_
      · refine ⟨hst.proposals, hst.inbox, ?_, hst.audit⟩
        show insert _ t.acked = insert _ s.acked
        rw [hst.acked]
      refine .bind (.modify fun s t hst => ?_) fun _ => ?_
      · refine ⟨hst.proposals, ?_, hst.acked, hst.audit⟩
        show t.inbox.set _ _ = s.inbox.set _ _
        rw [hst.inbox]
      refine .bind (.modify fun s t hst => ?_) fun _ => ?_
      · exact ⟨hst.proposals, hst.inbox, hst.acked, hst.audit⟩
      refine .bind (.modify fun s t hst => ?_) fun _ => ?_
      · exact ⟨hst.proposals, hst.inbox, hst.acked, hst.audit⟩
      exact .bind (agree_auditAppend _ _ _ _ _) fun _ => .pure

omit [PyFloatOps F] [Sha256] [EntityGraph F Obs G] in
theorem agree_caught {R : C2Runtime F G → C2Runtime F G → Prop} {kinds : Exc → Bool}
    {m n : C2Handler F G Page} (h : Agree R m n) : Agree R (caught kinds m) (caught kinds n) := by
  refine .tryCatch h fun e => ?_
  split
  · exact .pure
  · exact .raise

omit [PyFloatOps F] [Sha256] [EntityGraph F Obs G] in
theorem agree_respond {α : Type} {R : C2Runtime F G → C2Runtime F G → Prop} {f : α → Response F}
    {m n : C2Handler F G α} (h : Agree R m n) {s t : C2Runtime F G} (hst : R s t) :
    (respond f m s).1 = (respond f n t).1 ∧ R (respond f m s).2 (respond f n t).2 := by
  obtain ⟨hout, hleft⟩ := h s t hst
  rw [respond_snd, respond_snd]
  refine ⟨?_, hleft⟩
  unfold respond
  cases hm : m s with
  | mk r s' =>
    cases hn : n t with
    | mk q t' =>
      rw [hm, hn] at hout
      change r = q at hout
      subst hout
      cases r <;> rfl

/-- Servers in step answer a decision or an acknowledgement alike, and stay in step. -/
theorem handle_same (r : Served F Obs G) (hr : r.req.OnEntry) {s t : C2Runtime F G}
    (hst : SameGate s t) :
    (handle r.env r.req s).1 = (handle r.env r.req t).1 ∧ SameGate (serve s r) (serve t r) := by
  obtain ⟨env, req⟩ := r
  unfold serve
  cases req with
  | approve req => exact agree_respond (agree_gateApprove env req) hst
  | verifyApprove coaId decision =>
    exact agree_respond (agree_caught (.bind (agree_gateApprove env _) fun _ => .pure)) hst
  | ack req => exact agree_respond (agree_recipientAck env req) hst
  | verifyAck coaId unitId =>
    exact agree_respond (agree_caught (.bind (agree_recipientAck env _) fun _ => .pure)) hst
  | _ => simp [Request.OnEntry, Request.approve?, Request.ack?] at hr

theorem answers_same {rs : List (Served F Obs G)} (hrs : ∀ r ∈ rs, r.req.OnEntry)
    {s t : C2Runtime F G} (hst : SameGate s t) :
    answers t rs = answers s rs ∧ SameGate (rs.foldl serve s) (rs.foldl serve t) := by
  induction rs generalizing s t with
  | nil => exact ⟨rfl, hst⟩
  | cons r rs ih =>
    obtain ⟨hanswer, hnext⟩ := handle_same r (hrs r List.mem_cons_self) hst
    obtain ⟨hrest, hleft⟩ := ih (fun r hr => hrs r (List.mem_cons_of_mem _ hr)) hnext
    exact ⟨by rw [answers, answers, hanswer, hrest], hleft⟩

/-! ## After any run -/

/-- The answers to decisions, acknowledgements and inbox requests do not depend on whether the
server was restarted. -/
def GoesOnAs (Obs : Type) [EntityGraph F Obs G] (t s : C2Runtime F G) : Prop :=
  ∀ rs : List (Served F Obs G), (∀ r ∈ rs, r.req.OnEntry) → answers t rs = answers s rs ∧
    ∀ unitId, recipientInbox (rs.foldl serve t) unitId = recipientInbox (rs.foldl serve s) unitId

theorem SameGate.goesOnAs {s t : C2Runtime F G} (hst : SameGate s t) : GoesOnAs Obs t s := by
  intro rs hrs
  obtain ⟨hanswers, hleft⟩ := answers_same hrs hst
  refine ⟨hanswers, fun unitId => ?_⟩
  unfold recipientInbox
  rw [hleft.inbox, hleft.acked]

omit [Sha256] in
/-- A restart on a mirrored gate and a live trail leaves the server in step with the one before. -/
theorem sameGate_restart {boot : Boot F} {s s' : C2Runtime F G} (hs : s.Mirrored Obs)
    (hlive : s.audit.Live) (hopens : boot.storeOpens = true)
    (h : C2Runtime.restart Obs boot s = .ok s') : SameGate s s' := by
  have hgate := (restart_gate hs hopens h).1
  refine ⟨congrArg GateState.proposals hgate, congrArg GateState.inbox hgate,
    congrArg GateState.acked hgate, ?_⟩
  exact (congrArg GateState.audit hgate).trans hlive.reopen

/-- In every state that requests, ingress and restarts reach from a new server, `load_all` returns
the pending entries, as far as a decision reads them, the inbox and the acked ids that are in
memory; and a server restarted there goes on as the one that was not. -/
theorem gate_survives_restart (policy : TieredPolicy F) {audit : AuditTrail F}
    (haudit : audit.Live) {tr : List (Transition (C2Runtime F G) (Operation F Obs G))}
    {s : C2Runtime F G}
    (h : Run (Guarded (fun _ op => op.StoreOpens ∧ op.KeepsTrail) Operation.Step)
      (C2Runtime.fresh F Obs policy audit true) tr s) :
    ((s.store.loadAll G : Picture F Obs).proposals.mapValues Pending.decidedOn =
        s.proposals.mapValues Pending.decidedOn ∧
      (s.store.loadAll G : Picture F Obs).inbox = s.inbox ∧
      (s.store.loadAll G : Picture F Obs).acked = s.acked) ∧
    ∀ boot s', boot.storeOpens = true → C2Runtime.restart Obs boot s = .ok s' →
      GoesOnAs Obs s' s := by
  have hmirrored : s.Mirrored Obs :=
    h.mirrored (mirrored_fresh policy audit) fun _ _ hcond => hcond.1
  have hlive : s.gate.audit.Live :=
    h.gate_invariant (I := fun g => g.audit.Live) (mirrored_fresh policy audit) haudit
      (fun _ _ hcond => hcond.1) fun _ _ _ hI hcond heffect => live_effect hI hcond.2 heffect
  obtain ⟨hproposals, hinbox, hacked⟩ := RuntimeStore.Mirrors.loadAll hmirrored
  refine ⟨⟨?_, hinbox, hacked⟩, fun boot s' hopens hboot => ?_⟩
  · rw [hproposals, Dict.mapValues_mapValues]
    simp only [Pending.decidedOn_stored]
  · exact (sameGate_restart hmirrored hlive hopens hboot).goesOnAs

end

/-- A proposal, its approval and one more proposal. -/
def queuedAgainRun : List (Operation Whole Unit Unit) :=
  [.request (served (propose (demoCoa "a" "INSPECT" .tier1Hitl))),
    .request (served (.approve ⟨"a", "yes", "op"⟩)),
    .request (served (propose (demoCoa "b" "CUE_AND_IDENTIFY" .tier1Hitl)))]

/-- The server restarted after them has "b" pending and "a" in the inbox, and goes on. -/
theorem gate_survives_restart_pending :
    letI := plainHash
    ∃ s' : C2Runtime Whole Unit,
      C2Runtime.restart Unit demoBoot (queuedAgainRun.foldl operate demoServer) = .ok s' ∧
        (s'.proposals.get "b").isSome = true ∧ (s'.inbox.get "a").isSome = true ∧
        GoesOnAs Unit s' (queuedAgainRun.foldl operate demoServer) := by
  let := plainHash
  have hboot : (C2Runtime.restart Unit demoBoot (queuedAgainRun.foldl operate demoServer)).isOk =
      true := by
    decide +kernel
  have hkept : ((C2Runtime.restart Unit demoBoot
      (queuedAgainRun.foldl operate demoServer)).toOption.any fun s' =>
        (s'.proposals.get "b").isSome && (s'.inbox.get "a").isSome) = true := by
    decide +kernel
  cases hrun : C2Runtime.restart Unit demoBoot (queuedAgainRun.foldl operate demoServer) with
  | error e =>
    rw [hrun] at hboot
    cases hboot
  | ok s' =>
    rw [hrun] at hkept
    obtain ⟨hb, ha⟩ := (Bool.and_eq_true _ _).mp hkept
    refine ⟨s', rfl, hb, ha, ?_⟩
    refine (gate_survives_restart demoPolicy AuditTrail.live_empty (run_operate ?_)).2 demoBoot s'
      rfl hrun
    simp only [queuedAgainRun, trace, List.forall_mem_cons]
    refine ⟨⟨⟨trivial, ?_⟩, by simp⟩, ⟨⟨trivial, ?_⟩, by simp⟩, ⟨⟨trivial, ?_⟩, by simp⟩, by simp⟩
    all_goals
      intro records h
      cases h

end NexusC2

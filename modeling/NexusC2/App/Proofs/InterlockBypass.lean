import NexusC2.App.Proofs.GateRuns

/-!
# No tasking without a check

Every tasking the server issues is for a COA that the interlock has passed since it was proposed,
unless it is an approval of an entry of `verify_propose`: that form puts a COA in `proposals`
without asking the interlock, and `gate_approve` asks it nothing.
-/

namespace NexusC2

open GateState

section

variable {F Obs G : Type} [PyFloatOps F] [Sha256] [EntityGraph F Obs G]

/-- At the end of a history and a transition after it, a COA has been put in `proposals` (or
issued as autonomous by that transition), and the interlock has passed it in that request or a
later one. -/
def CheckedSinceProposed (before : List (Transition (C2Runtime F G) (Served F Obs G)))
    (x : Transition (C2Runtime F G) (Served F Obs G)) (coa : CourseOfAction F) : Prop :=
  ∃ early y late, before ++ [x] = early ++ y :: late ∧
    ((∃ p ∈ y.did.queued, p.coa = coa) ∨
      late = [] ∧ ∃ t ∈ y.did.issued, t.coa = coa ∧ t.token.reason = some "tier0_auto") ∧
    ∃ z ∈ y :: late, (coa, true) ∈ z.did.verified

/-- The request approves no entry of `verify_propose`, the only writer that sets `created_at`. -/
def ApprovesNoFormEntry (s : C2Runtime F G) (r : Served F Obs G) : Prop :=
  ∀ req p, r.req.approve? = some req → normDecision req.decision ∈ approveWords →
    s.proposals.get req.coaId = some p → p.createdAt = none

/-- Every entry that a form did not make was checked by the request that queued it. -/
def QueuedChecked (tr : List (Transition (C2Runtime F G) (Served F Obs G)))
    (s : C2Runtime F G) : Prop :=
  ∀ k p, s.proposals.get k = some p → p.createdAt = none →
    ∃ early y late, tr = early ++ y :: late ∧ p ∈ y.did.queued ∧ (p.coa, true) ∈ y.did.verified

/-- A proposal that is queued has been checked, or comes from a form. -/
theorem Script.queued_verified {s : C2Runtime F G} {r : Served F Obs G} {es : List (GateEvent F)}
    (hs : Script s r es) (raises : String → Nat → Option Exc) {p : Pending F}
    (h : .queued p ∈ ran raises es) (hform : p.createdAt = none) :
    .verified p.coa true ∈ ran raises es := by
  have hmem := (ran_sublist raises es).subset h
  cases hs with
  | proposed req coa interpretation reason t hreq hcoa hverify htier =>
    obtain rfl : p = queuedPending r.env req coa := by simpa using hmem
    simp [ran, queuedPending]
  | vetoed req dangerous fallback ok reason hreq =>
    obtain rfl : p = guardrailPending r.env req fallback := by simpa using hmem
    simp [ran, guardrailPending]
  | formProposed scenarioId unitId coa hreq =>
    obtain rfl : p = formPending r.env unitId coa := by simpa using hmem
    simp [formPending] at hform
  | approved req d hreq hseal hverdict =>
    rcases mem_approved hmem with h | h | h | ⟨i, uid, _, h | h⟩ <;> cases h
  | _ => simp at hmem

/-- A tasking that a proposal issues has been checked. -/
theorem Script.autonomous_verified {s : C2Runtime F G} {r : Served F Obs G}
    {es : List (GateEvent F)} (hs : Script s r es) (raises : String → Nat → Option Exc)
    {req : ProposalRequest F} (hreq : r.req = .proposals req) {t : Tasking F}
    (h : .issued t ∈ ran raises es) : .verified t.coa true ∈ ran raises es := by
  have hmem := (ran_sublist raises es).subset h
  cases hs with
  | autoApproved req' coa interpretation reason hreq' hcoa hverify htier =>
    obtain rfl : t = autoTasking r.env req' coa := by simpa using hmem
    simp [ran, autoTasking]
  | approved req' d hreq' hseal hverdict =>
    rw [hreq] at hreq'
    cases hreq'
  | _ => simp at hmem

/-- What one step keeps, and what it says of the taskings it issues. -/
theorem queuedChecked_step {tr : List (Transition (C2Runtime F G) (Served F Obs G))}
    {s s' : C2Runtime F G} {r : Served F Obs G} (h : QueuedChecked tr s)
    (hstep : Guarded ApprovesNoFormEntry Step s r s') :
    QueuedChecked (tr ++ [⟨s, r, s'⟩]) s' ∧
      ∀ t ∈ (⟨s, r, s'⟩ : Transition (C2Runtime F G) (Served F Obs G)).did.issued,
        ∃ coa, (t.coa = coa ∨ t.coa = navyCopy r.env coa) ∧
          CheckedSinceProposed tr ⟨s, r, s'⟩ coa := by
  obtain ⟨hguard, hstep⟩ := hstep
  obtain ⟨script, hscript, happ⟩ := hstep.applied
  have hsub := (ran_sublist r.env.appendRaises script).subset
  constructor
  · intro k p hget hform
    have hget' : (List.foldl apply s.gate (ran r.env.appendRaises script)).proposals.get k =
        some p := happ.gate ▸ hget
    rcases proposals_foldl hget' with hget | ⟨hmem, _⟩
    · obtain ⟨early, y, late, rfl, hqueued, hverified⟩ := h k p hget hform
      exact ⟨early, y, late ++ [⟨s, r, s'⟩], by simp, hqueued, hverified⟩
    · exact ⟨tr, ⟨s, r, s'⟩, [], rfl, (happ.queued p).mpr hmem,
        (happ.verified _ _).mpr (hscript.queued_verified _ hmem hform)⟩
  · intro t ht
    have hmem := (happ.issued t).mp ht
    rcases hscript.of_issued (hsub hmem) with
      ⟨req, coa, interpretation, reason, hreq, hcoa, hverify, htier, rfl⟩ |
        ⟨req, d, hreq, hseal, hverdict, i, uid, _, rfl⟩
    · -- an autonomous approval: the check is in the same request
      refine ⟨coa, Or.inl rfl, tr, ⟨s, r, s'⟩, [], rfl, Or.inr ⟨rfl, _, ht, rfl, rfl⟩, ?_⟩
      exact ⟨_, List.mem_cons_self, (happ.verified _ _).mpr
        (hscript.autonomous_verified _ hreq hmem)⟩
    · -- an approval: the entry was checked when it was queued
      obtain ⟨hget, hword⟩ := sealDecision_ok hseal
      rw [hverdict] at hword
      have hform := hguard req d.pending hreq ((decisionVerdict_approved _).mp ⟨_, hword⟩) hget
      obtain ⟨early, y, late, rfl, hqueued, hverified⟩ := h _ _ hget hform
      exact ⟨d.pending.coa, approvedTasking_coa r.env req d i uid, early, y,
        late ++ [⟨s, r, s'⟩], by simp, Or.inl ⟨_, hqueued, rfl⟩, y, List.mem_cons_self, hverified⟩

/-- In every run in which no entry of `verify_propose` is approved, each tasking that enters the
inbox, all of them with a sealed approval, is for a COA (or its navy copy) that the interlock has
passed since it was put in `proposals`, or in the request that approved it by itself. -/
theorem no_interlock_bypass (policy : TieredPolicy F) (audit : AuditTrail F) (connected : Bool)
    {tr : List (Transition (C2Runtime F G) (Served F Obs G))} {s : C2Runtime F G}
    (h : Run (Guarded ApprovesNoFormEntry Step) (C2Runtime.fresh F Obs policy audit connected)
      tr s) :
    ∀ before x after, tr = before ++ x :: after → ∀ t ∈ x.did.issued,
      ∃ coa, (t.coa = coa ∨ t.coa = navyCopy x.label.env coa) ∧
        CheckedSinceProposed before x coa := by
  refine h.forall_split (J := QueuedChecked)
    (K := fun before x => ∀ t ∈ x.did.issued, ∃ coa,
      (t.coa = coa ∨ t.coa = navyCopy x.label.env coa) ∧ CheckedSinceProposed before x coa) ?_ ?_
  · intro k p hget
    simp [C2Runtime.fresh] at hget
  · intro tr t l u hJ hstep
    exact queuedChecked_step hJ hstep

end

/-- A proposal and its approval. -/
def checkedRun : List (Served Whole Unit Unit) :=
  [served (propose (demoCoa "a" "INSPECT" .tier1Hitl)), served (.approve ⟨"a", "yes", "op"⟩)]

/-- It meets the condition, and the interlock passed the tasking in the first request. -/
theorem no_interlock_bypass_proposal :
    letI := plainHash
    Run (Guarded ApprovesNoFormEntry Step) demoServer (demoTrace checkedRun)
        (checkedRun.foldl serve demoServer) ∧
      ∀ before x after, demoTrace checkedRun = before ++ x :: after →
        ∀ t ∈ x.did.issued, ∃ coa, (t.coa = coa ∨ t.coa = navyCopy x.label.env coa) ∧
          CheckedSinceProposed before x coa := by
  let := plainHash
  have hrun : Run (Guarded ApprovesNoFormEntry Step) demoServer (demoTrace checkedRun)
      (checkedRun.foldl serve demoServer) := by
    refine Run.of_trace _ demoServer ?_
    intro x hx
    simp only [checkedRun, trace, List.mem_cons, List.not_mem_nil, or_false] at hx
    rcases hx with rfl | rfl
    · refine ⟨?_, rfl⟩
      intro req p hreq
      cases hreq
    · refine ⟨?_, rfl⟩
      intro req p hreq _ hget
      cases hreq
      cases hget
      rfl
  exact ⟨hrun, no_interlock_bypass demoPolicy ⟨[], genesisPrev⟩ true hrun⟩

/-- A strike over the tank farm, put in `proposals` by the form and approved: it is issued, the
interlock was never asked, and it would have refused. -/
theorem form_proposal_bypasses_interlock :
    letI := plainHash
    ∃ (tr : List DemoTransition) (s : _), Run Step demoServer tr s ∧ ∃ before x after, tr = before ++ x :: after ∧
      ∃ t ∈ x.did.issued, t.token.verdict = GateVerdict.approved.value ∧
        (∃ reason, x.pre.policy.interlock.verify t.coa = .ok (false, reason)) ∧
        ¬ ∃ coa, (t.coa = coa ∨ t.coa = navyCopy x.label.env coa) ∧
          CheckedSinceProposed before x coa := by
  let := plainHash
  have hrun := run_demoTrace
    [served (.verifyPropose "S1_trojan" "u1"), served (.verifyApprove "coa-trojan" "y")]
  refine ⟨_, _, hrun, [_], _, [], rfl, _, List.mem_cons_self, rfl, ⟨_, rfl⟩, ?_⟩
  rintro ⟨coa, _, early, y, late, htr, _, z, hz, hverified⟩
  -- neither request has asked the interlock
  have hmem : z ∈ early ++ y :: late := List.mem_append_right _ hz
  rw [← htr] at hmem
  rcases List.mem_cons.mp hmem with rfl | hmem
  · cases hverified
  · rw [List.mem_singleton.mp hmem] at hverified
    cases hverified

end NexusC2

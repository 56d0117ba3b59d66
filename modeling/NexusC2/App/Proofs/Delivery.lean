import NexusC2.App.Proofs.GateRuns

/-!
# What a recipient is shown

`recipient_inbox` leaves out the taskings whose id is in `acked`, whatever their status says. A
tasking is pending exactly when its id is not acknowledged, as long as nothing is issued again
under an id that is.
-/

namespace NexusC2

open GateState

section

variable {F Obs G : Type} [PyFloatOps F] [Sha256] [EntityGraph F Obs G]

/-- A request issues nothing under an acknowledged id: the COA of a Tier-0 proposal that passes
the interlock, the entry an approval is about, and the id drawn for its navy copy. -/
def IssuesUnacked (s : C2Runtime F G) (r : Served F Obs G) : Prop :=
  (∀ req coa interpretation reason, r.req = .proposals req →
    (proposedCoa r.env req s).1 = .ok (coa, interpretation) →
      s.policy.interlock.verify coa = .ok (true, reason) → coa.tier = .tier0Autonomous →
        coa.coaId ∉ s.acked) ∧
  ∀ req p, r.req.approve? = some req → normDecision req.decision ∈ approveWords →
    s.proposals.get req.coaId = some p →
      p.coa.coaId ∉ s.acked ∧ (p.units ≠ [p.unitId] → r.env.uuid4 1 ∉ s.acked)

/-- A tasking is pending exactly when its id is not acknowledged. -/
def Consistent (s : GateState F) : Prop :=
  ∀ k t, s.inbox.get k = some t → (t.status = .pendingAck ↔ k ∉ s.acked)

/-- Events that issue under ids not acknowledged before or among them keep that. -/
theorem consistent_foldl {es : List (GateEvent F)} {s : GateState F} (h : Consistent s)
    (hacked : ∀ k t, .acked k t ∈ es → t.status = .acked)
    (hissued : ∀ t, .issued t ∈ es → t.status = .pendingAck ∧ t.coa.coaId ∉ s.acked ∧
      ∀ u, .acked t.coa.coaId u ∉ es) : Consistent (es.foldl apply s) := by
  induction es generalizing s with
  | nil => exact h
  | cons e es ih =>
    have hacked' := fun k t hmem => hacked k t (List.mem_cons_of_mem _ hmem)
    have hissued' : ∀ t, .issued t ∈ es → t.status = .pendingAck ∧ t.coa.coaId ∉ s.acked ∧
        ∀ u, .acked t.coa.coaId u ∉ es := by
      intro t hmem
      obtain ⟨hstatus, hnew, hnot⟩ := hissued t (List.mem_cons_of_mem _ hmem)
      exact ⟨hstatus, hnew, fun u hu => hnot u (List.mem_cons_of_mem _ hu)⟩
    cases e with
    | issued t =>
      obtain ⟨hstatus, hnew, _⟩ := hissued t List.mem_cons_self
      refine ih ?_ hacked' hissued'
      intro k u hget
      simp only [apply, Dict.get_set] at hget
      by_cases hk : t.coa.coaId = k
      · rw [if_pos hk] at hget
        obtain rfl := Option.some.inj hget
        subst hk
        exact iff_of_true hstatus hnew
      · rw [if_neg hk] at hget
        exact h k u hget
    | acked k t =>
      have hstatus := hacked k t List.mem_cons_self
      refine ih ?_ hacked' ?_
      · intro k' u hget
        simp only [apply, Dict.get_set, Finset.mem_insert] at hget ⊢
        by_cases hk : k = k'
        · rw [if_pos hk] at hget
          obtain rfl := Option.some.inj hget
          simp [hstatus, hk]
        · rw [if_neg hk] at hget
          rw [h k' u hget]
          simp [Ne.symm hk]
      · intro u hmem
        obtain ⟨hpending, hnew, hnot⟩ := hissued' u hmem
        refine ⟨hpending, ?_, hnot⟩
        intro hin
        rcases Finset.mem_insert.mp hin with heq | hin
        · exact (hissued u (List.mem_cons_of_mem _ hmem)).2.2 t (heq ▸ List.mem_cons_self)
        · exact hnew hin
    | cleared =>
      refine ih ?_ hacked' ?_
      · intro k t hget
        simp [apply] at hget
      · intro t hmem
        obtain ⟨hstatus, _, hnot⟩ := hissued' t hmem
        exact ⟨hstatus, by simp [apply], hnot⟩
    | _ => exact ih h hacked' hissued'

/-- A tasking that is issued is pending, and under an id that nobody has acknowledged. -/
theorem Script.issued_unacked {s : C2Runtime F G} {r : Served F Obs G} {es : List (GateEvent F)}
    (hs : Script s r es) (hguard : IssuesUnacked s r) {t : Tasking F} (h : .issued t ∈ es) :
    t.status = .pendingAck ∧ t.coa.coaId ∉ s.acked ∧ ∀ k u, .acked k u ∉ es := by
  have hreq : ∀ k u, .acked k u ∈ es → ∃ req, r.req.ack? = some req := by
    intro k u hmem
    obtain ⟨req, _, hreq, _⟩ := hs.of_acked hmem
    exact ⟨req, hreq⟩
  rcases hs.of_issued h with ⟨req, coa, interpretation, reason, heq, hcoa, hverify, htier, rfl⟩ |
    ⟨req, d, heq, hseal, hverdict, i, uid, hi, rfl⟩
  · refine ⟨rfl, hguard.1 req coa interpretation reason heq hcoa hverify htier, ?_⟩
    intro k u hmem
    obtain ⟨_, hack⟩ := hreq k u hmem
    rw [heq] at hack
    cases hack
  · obtain ⟨hget, hword⟩ := sealDecision_ok hseal
    rw [hverdict] at hword
    obtain ⟨hnew, hcopy⟩ :=
      hguard.2 req d.pending heq ((decisionVerdict_approved _).mp ⟨_, hword⟩) hget
    refine ⟨rfl, ?_, ?_⟩
    · by_cases hzero : i = 0
      · simpa [approvedTasking, hzero] using hnew
      · have hunits : d.pending.units ≠ [d.pending.unitId] := by
          intro hunits
          rw [hunits, List.length_singleton] at hi
          omega
        simpa [approvedTasking, hzero, navyCopy] using hcopy hunits
    · intro k u hmem
      obtain ⟨_, hack⟩ := hreq k u hmem
      cases hr : r.req <;> rw [hr] at hack heq <;> cases hack <;> cases heq

theorem consistent_step {s s' : C2Runtime F G} {r : Served F Obs G} (h : Consistent s.gate)
    (hstep : Guarded IssuesUnacked Step s r s') : Consistent s'.gate := by
  obtain ⟨hguard, hstep⟩ := hstep
  obtain ⟨script, hscript, happ⟩ := hstep.applied
  have hsub := (ran_sublist r.env.appendRaises script).subset
  have hgate : s'.gate = _ := happ.gate
  rw [hgate]
  apply consistent_foldl h
  · intro k t hmem
    obtain ⟨_, _, _, _, _, rfl⟩ := hscript.of_acked (hsub hmem)
    rfl
  · intro t hmem
    obtain ⟨hstatus, hnew, hnot⟩ := hscript.issued_unacked hguard (hsub hmem)
    exact ⟨hstatus, hnew, fun u hu => hnot _ u (hsub hu)⟩

/-- In every run that issues nothing under an acknowledged id, a tasking is pending exactly when
its id is not acknowledged, and a unit is shown exactly its pending taskings. -/
theorem pending_iff_unacked (policy : TieredPolicy F) (audit : AuditTrail F) (connected : Bool)
    {tr : List (Transition (C2Runtime F G) (Served F Obs G))} {s : C2Runtime F G}
    (h : Run (Guarded IssuesUnacked Step) (C2Runtime.fresh F Obs policy audit connected) tr s) :
    (∀ t ∈ s.inbox.values, t.status = .pendingAck ↔ t.coa.coaId ∉ s.acked) ∧
      ∀ unitId, recipientInbox s unitId =
        s.inbox.values.filter fun t => t.unitId = unitId ∧ t.status = .pendingAck := by
  have hinv : Keyed s.gate ∧ Consistent s.gate := by
    refine h.invariant (I := fun s => Keyed s.gate ∧ Consistent s.gate) ?_ ?_
    · refine ⟨keyed_fresh policy audit connected, ?_⟩
      intro k t hget
      simp [C2Runtime.fresh, C2Runtime.gate] at hget
    · rintro s r s' ⟨hkeyed, hconsistent⟩ hstep
      exact ⟨keyed_step hkeyed hstep.2, consistent_step hconsistent hstep⟩
  obtain ⟨hkeyed, hconsistent⟩ := hinv
  have hpending : ∀ t ∈ s.inbox.values, t.status = .pendingAck ↔ t.coa.coaId ∉ s.acked := by
    intro t ht
    obtain ⟨k, hget⟩ := Dict.mem_values.mp ht
    rw [hkeyed.inbox k t hget]
    exact hconsistent k t hget
  refine ⟨hpending, ?_⟩
  intro unitId
  apply List.filter_congr
  intro t ht
  simp only [hpending t ht]

end

/-- A proposal, its approval, a Tier-0 proposal and an acknowledgement. -/
def deliveryRun : List (Served Whole Unit Unit) :=
  [served (propose (demoCoa "a" "INSPECT" .tier1Hitl)), served (.approve ⟨"a", "yes", "op"⟩),
    served (propose (demoCoa "b" "OBSERVE_ONLY" .tier0Autonomous)), served (.verifyAck "a" "u1")]

/-- The unit is shown the tasking it has not acknowledged. -/
theorem pending_iff_unacked_delivery :
    letI := plainHash
    (∀ t ∈ (deliveryRun.foldl serve demoServer).inbox.values,
        t.status = .pendingAck ↔ t.coa.coaId ∉ (deliveryRun.foldl serve demoServer).acked) ∧
      ∀ unitId, recipientInbox (deliveryRun.foldl serve demoServer) unitId =
        (deliveryRun.foldl serve demoServer).inbox.values.filter fun t =>
          t.unitId = unitId ∧ t.status = .pendingAck := by
  let := plainHash
  refine pending_iff_unacked demoPolicy ⟨[], genesisPrev⟩ true (Run.of_trace deliveryRun demoServer ?_)
  intro x hx
  simp only [deliveryRun, trace, List.mem_cons, List.not_mem_nil, or_false] at hx
  rcases hx with rfl | rfl | rfl | rfl
  -- nothing is acknowledged before the last request, which issues nothing
  · refine ⟨⟨fun _ _ _ _ _ _ _ _ => Finset.notMem_empty _, ?_⟩, rfl⟩
    intro req p hreq
    cases hreq
  · refine ⟨⟨fun _ _ _ _ _ _ _ _ => Finset.notMem_empty _, ?_⟩, rfl⟩
    intro req p _ _ _
    exact ⟨Finset.notMem_empty _, fun _ => Finset.notMem_empty _⟩
  · refine ⟨⟨fun _ _ _ _ _ _ _ _ => Finset.notMem_empty _, ?_⟩, rfl⟩
    intro req p hreq
    cases hreq
  · refine ⟨⟨?_, ?_⟩, rfl⟩
    · intro req coa interpretation reason hreq
      cases hreq
    · intro req p hreq
      cases hreq

/-- A Tier-0 proposal under the id of a queued one, its acknowledgement, and an approval of the
queued one. -/
def hiddenRun : List (Served Whole Unit Unit) :=
  [served (propose (demoCoa "a" "INSPECT" .tier1Hitl)),
    served (propose (demoCoa "a" "OBSERVE_ONLY" .tier0Autonomous)), served (.verifyAck "a" "u1"),
    served (.approve ⟨"a", "yes", "op"⟩)]

theorem hiddenRun_issued :
    letI := plainHash
    ((hiddenRun.foldl serve demoServer).inbox.get "a").isSome := by
  decide +kernel

/-- After it the tasking is pending, and its unit is not shown it. -/
theorem approval_after_ack_is_hidden :
    letI := plainHash
    ∃ (tr : List DemoTransition) (s : C2Runtime Whole Unit) (t : Tasking Whole),
      Run Step demoServer tr s ∧ s.inbox.get "a" = some t ∧ t.status = .pendingAck ∧
        t.coa.coaId ∈ s.acked ∧ recipientInbox s t.unitId = [] := by
  let := plainHash
  refine ⟨_, _, _, run_demoTrace hiddenRun, (Option.some_get hiddenRun_issued).symm, ?_⟩
  decide +kernel

end NexusC2

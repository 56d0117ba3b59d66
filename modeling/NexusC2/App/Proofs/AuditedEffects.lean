import NexusC2.App.Proofs.GateRuns

/-!
# No effect without its record

A handler changes the runtime first and appends to the trail afterwards, so an append that raises
leaves the change without its record. As long as the four appends that follow a change succeed,
every tasking, every acknowledgement and every decision has its record after each request.
-/

namespace NexusC2

open GateState

/-- The trail has a record of an event whose metadata has a `coa_id`. -/
def C2Runtime.HasRecord {F G : Type} (s : C2Runtime F G) (name coaId : String) : Prop :=
  ∃ record ∈ s.audit.records, Assoc.get record "activity_name" = some (.str name) ∧
    ∃ data, Assoc.get record "metadata" = some (.obj data) ∧
      Assoc.get data "coa_id" = some (.str coaId)

/-- A record that is sealed for an event with a `coa_id`. -/
theorem C2Runtime.hasRecord_of_seal {F G : Type} [PyFloatOps F] [Sha256] {s : C2Runtime F G}
    {prev name severity time coaId : String} {data : Fields F}
    (hmem : sealRecord prev name severity time data ∈ s.audit.records)
    (hdata : Assoc.get data "coa_id" = some (.str coaId)) : s.HasRecord name coaId :=
  ⟨_, hmem, rfl, data, rfl, hdata⟩

/-- The events whose records follow a change of the runtime. -/
def effectEvents : List String :=
  ["coa_auto_approved", "gate_decision", "tasking_issued", "recipient_ack"]

section

variable {F Obs G : Type} [PyFloatOps F] [Sha256] [EntityGraph F Obs G]

/-- None of the appends that follow a change raises, and a snapshot has all records of the
trail it replaces. -/
def EffectsRecorded (s : C2Runtime F G) (r : Served F Obs G) : Prop :=
  (∀ name ∈ effectEvents, ∀ i, r.env.appendRaises name i = none) ∧
    ∀ records, r.req = .auditSnapshot records → s.audit.records ⊆ records

/-- Every tasking and every acknowledgement has its record. -/
structure Audited (s : C2Runtime F G) : Prop where
  inbox : ∀ k t, s.inbox.get k = some t →
    s.HasRecord "coa_auto_approved" k ∨ s.HasRecord "tasking_issued" k
  acked : ∀ k ∈ s.acked, s.HasRecord "recipient_ack" k

namespace Script

variable {s : C2Runtime F G} {r : Served F Obs G} {es : List (GateEvent F)}

/-- A script with an event that needs a record runs to its end. -/
theorem ran_effects (hs : Script s r es) (hguard : EffectsRecorded s r)
    (h : (∃ t, .issued t ∈ es) ∨ (∃ k t, .acked k t ∈ es) ∨ ∃ k, .dropped k ∈ es) :
    ran r.env.appendRaises es = es := by
  apply ran_eq_self
  intro name severity time place data hmem
  apply hguard.1
  cases hs with
  | autoApproved req coa interpretation reason hreq hcoa hverify htier =>
    simp only [List.mem_cons, reduceCtorEq, false_or, List.not_mem_nil, or_false] at hmem
    cases hmem
    simp [effectEvents]
  | denied req d hreq hseal hverdict =>
    simp only [List.mem_cons, reduceCtorEq, false_or, List.not_mem_nil, or_false] at hmem
    cases hmem
    simp [effectEvents]
  | approved req d hreq hseal hverdict =>
    rcases mem_approved hmem with h | h | h | ⟨i, uid, _, h | h⟩ <;> cases h <;> simp [effectEvents]
  | acknowledged req t hreq hget =>
    simp only [List.mem_cons, reduceCtorEq, false_or, List.not_mem_nil, or_false] at hmem
    cases hmem
    simp [effectEvents]
  | _ => simp at h

/-- An issued tasking is followed by its record. -/
theorem record_of_issued (hs : Script s r es) {t : Tasking F} (h : .issued t ∈ es) :
    ∃ name severity time place data, .recorded name severity time place data ∈ es ∧
      (name = "coa_auto_approved" ∨ name = "tasking_issued") ∧
        Assoc.get data "coa_id" = some (.str t.coa.coaId) := by
  cases hs with
  | autoApproved req coa interpretation reason hreq hcoa hverify htier =>
    obtain rfl : t = autoTasking r.env req coa := by simpa using h
    exact ⟨_, "High", r.env.utcNow 100, 0, autoData coa (autoTasking r.env req coa).token,
      by simp, Or.inl rfl, rfl⟩
  | approved req d hreq hseal hverdict =>
    simp only [List.mem_cons, List.mem_append, reduceCtorEq, false_or, List.not_mem_nil,
      or_false] at h
    obtain ⟨i, hrecord⟩ := record_of_unitEvents h
    exact ⟨_, "High", r.env.utcNow (100 + i), i, issuedData t, by simp [hrecord], Or.inr rfl, rfl⟩
  | _ => simp at h

/-- An acknowledgement is followed by its record. -/
theorem record_of_acked (hs : Script s r es) {k : String} {t : Tasking F} (h : .acked k t ∈ es) :
    ∃ data, .recorded "recipient_ack" "High" (r.env.utcNow 100) 0 data ∈ es ∧
      Assoc.get data "coa_id" = some (.str k) := by
  cases hs with
  | acknowledged req u hreq hget =>
    simp only [List.mem_cons, GateEvent.acked.injEq, reduceCtorEq, List.not_mem_nil, or_false] at h
    obtain ⟨rfl, _⟩ := h
    exact ⟨(ackRecordOf r.env req u).toFields, by simp, rfl⟩
  | approved req d hreq hseal hverdict =>
    rcases mem_approved h with h | h | h | ⟨i, uid, _, h | h⟩ <;> cases h
  | _ => simp at h

/-- A dropped proposal is followed by the record of its decision. -/
theorem record_of_dropped (hs : Script s r es) (hkeyed : Keyed s.gate) {k : String}
    (h : .dropped k ∈ es) :
    ∃ data, .recorded "gate_decision" "High" (r.env.utcNow 100) 0 data ∈ es ∧
      Assoc.get data "coa_id" = some (.str k) := by
  cases hs with
  | denied req d hreq hseal hverdict =>
    simp only [List.mem_cons, GateEvent.dropped.injEq, reduceCtorEq, List.not_mem_nil,
      or_false] at h
    subst h
    refine ⟨decisionData req d, by simp, ?_⟩
    rw [← hkeyed.proposals _ _ (sealDecision_ok hseal).1]
    rfl
  | approved req d hreq hseal hverdict =>
    rcases mem_approved h with h | h | h | ⟨i, uid, _, h | h⟩ <;> cases h
    refine ⟨decisionData req d, by simp, ?_⟩
    rw [← hkeyed.proposals _ _ (sealDecision_ok hseal).1]
    rfl
  | _ => simp at h

end Script

/-- What stood in the trail before a step stands there after it. -/
theorem hasRecord_step {s s' : C2Runtime F G} {r : Served F Obs G}
    (hstep : Guarded EffectsRecorded Step s r s') {name coaId : String}
    (h : s.HasRecord name coaId) : s'.HasRecord name coaId := by
  obtain ⟨hguard, hstep⟩ := hstep
  obtain ⟨script, hscript, happ⟩ := hstep.applied
  have hsub := (ran_sublist r.env.appendRaises script).subset
  have haudit : s'.audit = _ := congrArg GateState.audit happ.gate
  obtain ⟨record, hin, hrecord⟩ := h
  refine ⟨record, ?_, hrecord⟩
  rw [haudit]
  by_cases hrestored : ∃ records, .restored records ∈ ran r.env.appendRaises script
  · obtain ⟨records, hmem⟩ := hrestored
    obtain ⟨hreq, rfl⟩ := hscript.of_restored (hsub hmem)
    exact hguard.2 records hreq hin
  · exact (records_foldl (not_exists.mp hrestored)).subset hin

/-- The records of a script that changes something stand in the trail after it. -/
theorem record_written {s s' : C2Runtime F G} {r : Served F Obs G} {es : List (GateEvent F)}
    (hs : Script s r es) (hguard : EffectsRecorded s r)
    (happ : Applied ⟨s, r, s'⟩ (ran r.env.appendRaises es))
    (h : (∃ t, .issued t ∈ es) ∨ (∃ k t, .acked k t ∈ es) ∨ ∃ k, .dropped k ∈ es)
    {name severity time : String} {place : Nat} {data : Fields F} {coaId : String}
    (hmem : .recorded name severity time place data ∈ es)
    (hdata : Assoc.get data "coa_id" = some (.str coaId)) : s'.HasRecord name coaId := by
  have haudit : s'.audit = _ := congrArg GateState.audit happ.gate
  rw [hs.ran_effects hguard h] at haudit
  have hrestored : ∀ records, .restored records ∉ es := by
    intro records hrestored
    obtain ⟨_, rfl⟩ := hs.of_restored hrestored
    simp at h
  obtain ⟨prev, hseal⟩ := recorded_foldl (s := s.gate) hrestored hmem
  rw [← haudit] at hseal
  exact C2Runtime.hasRecord_of_seal hseal hdata

theorem audited_step {s s' : C2Runtime F G} {r : Served F Obs G} (h : Audited s)
    (hstep : Guarded EffectsRecorded Step s r s') : Audited s' := by
  have hkeep : ∀ {name coaId}, s.HasRecord name coaId → s'.HasRecord name coaId :=
    fun hrecord => hasRecord_step hstep hrecord
  obtain ⟨hguard, hstep⟩ := hstep
  obtain ⟨script, hscript, happ⟩ := hstep.applied
  have hsub := (ran_sublist r.env.appendRaises script).subset
  have hgate : s'.gate = _ := happ.gate
  constructor
  · intro k t hget
    change s'.gate.inbox.get k = some t at hget
    rw [hgate] at hget
    rcases inbox_foldl hget with hget | ⟨hissued, hk⟩ | hacked
    · exact (h.inbox k t hget).imp hkeep hkeep
    · obtain ⟨name, severity, time, place, data, hmem, hname, hdata⟩ :=
        hscript.record_of_issued (hsub hissued)
      rw [hk] at hdata
      have hrecord := record_written hscript hguard happ (Or.inl ⟨t, hsub hissued⟩) hmem hdata
      rcases hname with rfl | rfl
      · exact Or.inl hrecord
      · exact Or.inr hrecord
    · obtain ⟨_, u, _, _, hu, _⟩ := hscript.of_acked (hsub hacked)
      exact (h.inbox k u hu).imp hkeep hkeep
  · intro k hin
    change k ∈ s'.gate.acked at hin
    rw [hgate] at hin
    rcases acked_foldl hin with hin | ⟨t, hacked⟩
    · exact hkeep (h.acked k hin)
    · obtain ⟨data, hmem, hdata⟩ := hscript.record_of_acked (hsub hacked)
      exact record_written hscript hguard happ (Or.inr (Or.inl ⟨k, t, hsub hacked⟩)) hmem hdata

/-- A proposal that a request other than a reset takes away has the record of its decision. -/
theorem decision_recorded {s s' : C2Runtime F G} {r : Served F Obs G} (hkeyed : Keyed s.gate)
    (hstep : Guarded EffectsRecorded Step s r s') (hreset : ¬ r.req.IsReset) {k : String}
    {p : Pending F} (hpre : s.proposals.get k = some p) (hpost : s'.proposals.get k = none) :
    s'.HasRecord "gate_decision" k := by
  obtain ⟨hguard, hstep⟩ := hstep
  obtain ⟨script, hscript, happ⟩ := hstep.applied
  have hsub := (ran_sublist r.env.appendRaises script).subset
  have hgate : s'.gate = _ := happ.gate
  change s'.gate.proposals.get k = none at hpost
  rw [hgate] at hpost
  rcases dropped_foldl hpre hpost with hdropped | hcleared
  · obtain ⟨data, hmem, hdata⟩ := hscript.record_of_dropped hkeyed (hsub hdropped)
    exact record_written hscript hguard happ (Or.inr (Or.inr ⟨k, hsub hdropped⟩)) hmem hdata
  · exact absurd (hscript.of_cleared (hsub hcleared)) hreset

/-- In every run in which the appends that follow a change succeed, whatever other appends do,
every tasking of the inbox has a record of its approval, every acknowledged id one of its
acknowledgement, and every proposal that a request takes away one of its decision. -/
theorem no_effect_without_audit (policy : TieredPolicy F) (audit : AuditTrail F)
    (connected : Bool) {tr : List (Transition (C2Runtime F G) (Served F Obs G))}
    {s : C2Runtime F G}
    (h : Run (Guarded EffectsRecorded Step) (C2Runtime.fresh F Obs policy audit connected) tr s) :
    (∀ t ∈ s.inbox.values, s.HasRecord "coa_auto_approved" t.coa.coaId ∨
        s.HasRecord "tasking_issued" t.coa.coaId) ∧
      (∀ id ∈ s.acked, s.HasRecord "recipient_ack" id) ∧
      ∀ x ∈ tr, ¬ x.label.req.IsReset → ∀ k p, x.pre.proposals.get k = some p →
        x.post.proposals.get k = none → x.post.HasRecord "gate_decision" k := by
  have hstart : Keyed (C2Runtime.fresh F Obs policy audit connected : C2Runtime F G).gate ∧
      Audited (C2Runtime.fresh F Obs policy audit connected : C2Runtime F G) := by
    refine ⟨keyed_fresh policy audit connected, ?_⟩
    constructor <;> simp [C2Runtime.fresh]
  have hinv : Keyed s.gate ∧ Audited s := by
    refine h.invariant (I := fun s => Keyed s.gate ∧ Audited s) hstart ?_
    rintro s r s' ⟨hkeyed, haudited⟩ hstep
    exact ⟨keyed_step hkeyed hstep.2, audited_step haudited hstep⟩
  obtain ⟨hkeyed, haudited⟩ := hinv
  refine ⟨?_, ?_, ?_⟩
  · intro t ht
    obtain ⟨k, hget⟩ := Dict.mem_values.mp ht
    rw [hkeyed.inbox k t hget]
    exact haudited.inbox k t hget
  · exact haudited.acked
  · refine h.forall_transitions (I := fun s => Keyed s.gate) hstart.1 ?_
    intro s r s' hkeyed hstep
    refine ⟨keyed_step hkeyed hstep.2, ?_⟩
    intro hreset k p hpre hpost
    exact decision_recorded hkeyed hstep hreset hpre hpost

end

/-- An environment in which the appends of one event raise. -/
def failing (event : String) : Env Whole Unit Unit :=
  demoEnv fun name _ => if name = event then some (.osError "No space left on device") else none

/-- A proposal whose record fails, its approval and an acknowledgement. -/
def unrecordedProposalRun : List (Served Whole Unit Unit) :=
  [⟨failing "coa_proposed", propose (demoCoa "a" "INSPECT" .tier1Hitl)⟩,
    served (.approve ⟨"a", "yes", "op"⟩), served (.verifyAck "a" "u1")]

/-- The proposal stays queued, and decision, tasking and acknowledgement have their records. -/
theorem no_effect_without_audit_unrecorded_proposal :
    letI := plainHash
    (∀ t ∈ (unrecordedProposalRun.foldl serve demoServer).inbox.values,
        (unrecordedProposalRun.foldl serve demoServer).HasRecord "coa_auto_approved" t.coa.coaId ∨
          (unrecordedProposalRun.foldl serve demoServer).HasRecord "tasking_issued" t.coa.coaId) ∧
      (∀ id ∈ (unrecordedProposalRun.foldl serve demoServer).acked,
        (unrecordedProposalRun.foldl serve demoServer).HasRecord "recipient_ack" id) ∧
      ∀ x ∈ demoTrace unrecordedProposalRun, ¬ x.label.req.IsReset →
        ∀ k p, x.pre.proposals.get k = some p → x.post.proposals.get k = none →
          x.post.HasRecord "gate_decision" k := by
  let := plainHash
  refine no_effect_without_audit demoPolicy ⟨[], genesisPrev⟩ true
    (Run.of_trace unrecordedProposalRun demoServer ?_)
  intro x hx
  simp only [unrecordedProposalRun, trace, List.mem_cons, List.not_mem_nil, or_false] at hx
  rcases hx with rfl | rfl | rfl <;>
    exact ⟨⟨by simp [effectEvents, served, failing, demoEnv],
      by simp [served, propose]⟩, rfl⟩

/-- A Tier-0 proposal, a decision and an acknowledgement whose append raises: the tasking is in
the inbox, the proposal is gone and the id is acknowledged, each without its record. -/
theorem effects_survive_failed_append :
    letI := plainHash
    (∃ (tr : List DemoTransition) (s : C2Runtime Whole Unit), Run Step demoServer tr s ∧
        ∃ t ∈ s.inbox.values, ¬ s.HasRecord "coa_auto_approved" t.coa.coaId ∧
          ¬ s.HasRecord "tasking_issued" t.coa.coaId) ∧
      (∃ (tr : List DemoTransition) (s : C2Runtime Whole Unit), Run Step demoServer tr s ∧
        ∃ x ∈ tr, ¬ x.label.req.IsReset ∧ (x.pre.proposals.get "a").isSome = true ∧
          x.post.proposals.get "a" = none ∧ ¬ x.post.HasRecord "gate_decision" "a") ∧
      ∃ (tr : List DemoTransition) (s : C2Runtime Whole Unit), Run Step demoServer tr s ∧
        "a" ∈ s.acked ∧ ¬ s.HasRecord "recipient_ack" "a" := by
  let := plainHash
  refine ⟨?_, ?_, ?_⟩
  · refine ⟨_, _, run_demoTrace [⟨failing "coa_auto_approved",
      propose (demoCoa "a" "OBSERVE_ONLY" .tier0Autonomous)⟩], _, List.mem_cons_self, ?_, ?_⟩
    · rintro ⟨record, hmem, _⟩
      cases hmem
    · rintro ⟨record, hmem, _⟩
      cases hmem
  · refine ⟨_, _, run_demoTrace [served (propose (demoCoa "a" "INSPECT" .tier1Hitl)),
      ⟨failing "gate_decision", .approve ⟨"a", "yes", "op"⟩⟩], _,
      List.mem_cons_of_mem _ List.mem_cons_self, by simp [Request.IsReset], rfl, rfl, ?_⟩
    rintro ⟨record, hmem, hname, _⟩
    obtain rfl := List.mem_singleton.mp hmem
    have heq := Json.str.inj (Option.some.inj hname)
    exact absurd heq (by decide)
  · refine ⟨_, _, run_demoTrace [served (propose (demoCoa "a" "OBSERVE_ONLY" .tier0Autonomous)),
      ⟨failing "recipient_ack", .verifyAck "a" "u1"⟩], by decide +kernel, ?_⟩
    rintro ⟨record, hmem, hname, _⟩
    obtain rfl := List.mem_singleton.mp hmem
    have heq := Json.str.inj (Option.some.inj hname)
    exact absurd heq (by decide)

end NexusC2

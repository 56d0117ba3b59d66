import NexusC2.App.Proofs.OperationRuns
import NexusC2.Misc.Covered

/-!
# Decisions and their proposals in the trail

An entry is queued with a record and decided with a record, and a decision takes the entry away.
So at any point of the trail the decisions on an id, and one more where the id is pending, are at
most the records that queued it (`Ledger`). A tasking of the inbox has the record it was issued
with, and that record stands after the approval it rests on.
-/

namespace NexusC2

open GateState

section

variable {F : Type} [PyFloatOps F]

/-! ## Reading records -/

/-- The metadata of a record of an event. -/
def eventData (name : String) (record : Record F) : Option (Fields F) :=
  if isStr (Assoc.get record "activity_name") name then
    (Assoc.get record "metadata").bind Json.obj?
  else none

/-- The `coa_id` of metadata or of a dumped COA. -/
def coaIdIn (data : Fields F) : Option String := (Assoc.get data "coa_id").bind Json.str?

/-- The record of a decision on a COA. -/
def decides (coaId : String) (record : Record F) : Bool :=
  (eventData "gate_decision" record).any fun data => coaIdIn data = some coaId

/-- A record that queues a COA: its proposal, or a veto with it as the fallback. -/
def queues (coaId : String) (record : Record F) : Bool :=
  ((eventData "coa_proposed" record).any fun data => coaIdIn data = some coaId) ||
    (eventData "guardrail_veto_option_b_queued" record).any fun data =>
      ((Assoc.get data "fallback").bind Json.obj?).bind coaIdIn = some coaId

/-- A record of an event about a COA. -/
def RecordsEvent (name coaId : String) (record : Record F) : Prop :=
  ∃ data, eventData name record = some data ∧ coaIdIn data = some coaId

/-- The record of an approval of a COA. -/
def Approves (coaId : String) (record : Record F) : Prop :=
  ∃ data, eventData "gate_decision" record = some data ∧ coaIdIn data = some coaId ∧
    Assoc.get data "verdict" = some (.str GateVerdict.approved.value)

/-- The COA a navy tasking line is paired with. -/
def CourseOfAction.pairedCoaId (coa : CourseOfAction F) : Option String :=
  (Assoc.get coa.metadata "paired_coa_id").bind Json.str?

/-- The trail has the record of a Tier-0 approval of the id, or the one of its tasking, after the
approval of the id or of the COA it is paired with. -/
def IssuedOnRecord (records : List (Record F)) (k : String) (coa : CourseOfAction F) : Prop :=
  (∃ record ∈ records, RecordsEvent "coa_auto_approved" k record) ∨
    ∃ before record after, records = before ++ record :: after ∧
      RecordsEvent "tasking_issued" k record ∧
      ∃ decision ∈ before, ∃ c, Approves c decision ∧ (c = k ∨ coa.pairedCoaId = some c)

omit [PyFloatOps F] in
theorem IssuedOnRecord.mono {records records' : List (Record F)} {k : String}
    {coa : CourseOfAction F} (h : IssuedOnRecord records k coa) (hle : records <+: records') :
    IssuedOnRecord records' k coa := by
  obtain ⟨later, rfl⟩ := hle
  rcases h with ⟨record, hmem, hrecord⟩ | ⟨before, record, after, rfl, hrest⟩
  · exact Or.inl ⟨record, List.mem_append_left _ hmem, hrecord⟩
  · refine Or.inr ⟨before, record, after ++ later, ?_, hrest⟩
    simp

variable [Sha256] (prev name severity time : String) (data : Fields F)

theorem eventData_seal (event : String) :
    eventData event (sealRecord prev name severity time data) =
      if name = event then some data else none := by
  unfold eventData
  have hname : isStr (Assoc.get (sealRecord prev name severity time data) "activity_name") event =
      decide (name = event) := rfl
  rw [hname]
  by_cases h : name = event
  · simp only [h, decide_true, if_true]
    rfl
  · simp only [h, decide_false, Bool.false_eq_true, if_false]

theorem decides_seal (coaId : String) :
    decides coaId (sealRecord prev name severity time data) =
      decide (name = "gate_decision" ∧ coaIdIn data = some coaId) := by
  unfold decides
  rw [eventData_seal]
  by_cases h : name = "gate_decision" <;> simp [h]

/-- A record of another event than the two that queue. -/
theorem queues_seal_of_ne (hproposed : name ≠ "coa_proposed")
    (hveto : name ≠ "guardrail_veto_option_b_queued") (coaId : String) :
    queues coaId (sealRecord prev name severity time data) = false := by
  unfold queues
  rw [eventData_seal, eventData_seal, if_neg hproposed, if_neg hveto]
  rfl

theorem queues_proposed {coaId : String} (hdata : coaIdIn data = some coaId) :
    queues coaId (sealRecord prev "coa_proposed" severity time data) = true := by
  unfold queues
  rw [eventData_seal, eventData_seal]
  simp [hdata]

theorem queues_veto {coaId : String} {fallback : Fields F}
    (hfallback : Assoc.get data "fallback" = some (.obj fallback))
    (hid : coaIdIn fallback = some coaId) :
    queues coaId (sealRecord prev "guardrail_veto_option_b_queued" severity time data) = true := by
  unfold queues
  rw [eventData_seal, eventData_seal]
  simp [hfallback, hid, Json.obj?]

theorem recordsEvent_seal {coaId : String} (hdata : coaIdIn data = some coaId) :
    RecordsEvent name coaId (sealRecord prev name severity time data) := by
  refine ⟨data, ?_, hdata⟩
  rw [eventData_seal, if_pos rfl]

end

/-! ## The account of an id -/

section

variable {F : Type}

/-- Decisions on the id are covered by records that queue it, with one to spare where the id is
pending. -/
structure Ledger (c : String) (records : List (Record F)) (proposals : Dict String (Pending F)) :
    Prop where
  covered : Covered (decides c) (queues c) records
  pending : records.countP (decides c) + (if (proposals.get c).isSome then 1 else 0) ≤
    records.countP (queues c)

namespace Ledger

variable {c : String} {records : List (Record F)} {proposals : Dict String (Pending F)}
  {record : Record F}

/-- A record that is not on the account. -/
theorem note (h : Ledger c records proposals) (hdecides : decides c record = false)
    (hqueues : queues c record = false) : Ledger c (records ++ [record]) proposals := by
  refine ⟨h.covered.snoc_of_neg hdecides, ?_⟩
  simp only [List.countP_append, List.countP_singleton, hdecides, hqueues, Bool.false_eq_true,
    if_false, Nat.add_zero]
  exact h.pending

/-- An entry and the record that queues it. -/
theorem queue (h : Ledger c records proposals) (p : Pending F)
    (hdecides : decides c record = false) (hqueues : queues p.coa.coaId record = true) :
    Ledger c (records ++ [record]) (proposals.set p.coa.coaId p) := by
  refine ⟨h.covered.snoc_of_neg hdecides, ?_⟩
  have hpending := h.pending
  simp only [List.countP_append, List.countP_singleton, hdecides, Bool.false_eq_true, if_false,
    Dict.get_set]
  by_cases hc : p.coa.coaId = c
  · rw [hc] at hqueues
    simp only [if_pos hc, hqueues, if_true, Option.isSome_some]
    omega
  · simp only [if_neg hc]
    omega

/-- The record of a decision on a pending entry, which it takes away. -/
theorem settle (h : Ledger c records proposals) {k : String}
    (hget : (proposals.get k).isSome = true)
    (hdecides : decides c record = true → k = c) (hqueues : queues c record = false) :
    Ledger c (records ++ [record]) (proposals.erase k) := by
  have hpending := h.pending
  have hcount : (records ++ [record]).countP (decides c) +
      (if ((proposals.erase k).get c).isSome then 1 else 0) ≤
        (records ++ [record]).countP (queues c) := by
    simp only [List.countP_append, List.countP_singleton, hqueues, Dict.get_erase,
      Bool.false_eq_true, if_false, Nat.add_zero]
    by_cases hc : k = c
    · rw [← hc] at hpending ⊢
      simp only [hget, if_true, Option.isSome_none, Bool.false_eq_true, if_false] at hpending ⊢
      split <;> omega
    · simp only [if_neg hc, if_neg (mt hdecides hc)]
      omega
  exact ⟨h.covered.snoc ((Nat.le_add_right _ _).trans hcount), hcount⟩

/-- Fewer entries are pending. -/
theorem mono {proposals' : Dict String (Pending F)} (h : Ledger c records proposals)
    (hle : (proposals'.get c).isSome = true → (proposals.get c).isSome = true) :
    Ledger c records proposals' := by
  refine ⟨h.covered, ?_⟩
  have hpending := h.pending
  by_cases hc : (proposals'.get c).isSome = true
  · rw [if_pos hc]
    rw [if_pos (hle hc)] at hpending
    exact hpending
  · rw [if_neg hc]
    omega

end Ledger

/-- The events whose records are on the account. -/
def accountEvents : List String :=
  ["gate_decision", "coa_proposed", "guardrail_veto_option_b_queued"]

/-- Events that touch neither the entries nor the account. -/
def GateEvent.Idle : GateEvent F → Prop
  | .recorded name _ _ _ _ => name ∉ accountEvents
  | .queued _ | .dropped _ | .cleared | .restored _ => False
  | _ => True

variable [PyFloatOps F] [Sha256] {c : String}

theorem Ledger.idle {es : List (GateEvent F)} {s : GateState F}
    (hs : Ledger c s.audit.records s.proposals) (hes : ∀ e ∈ es, e.Idle) :
    Ledger c (es.foldl apply s).audit.records (es.foldl apply s).proposals := by
  refine foldl_apply (I := fun t => Ledger c t.audit.records t.proposals) hs ?_
  intro e hmem t ht
  have he := hes e hmem
  cases e with
  | recorded name severity time place data =>
    simp only [GateEvent.Idle, accountEvents, List.mem_cons, List.not_mem_nil, or_false,
      not_or] at he
    obtain ⟨hdecision, hproposed, hveto⟩ := he
    apply ht.note
    · rw [decides_seal]
      simp [hdecision]
    · exact queues_seal_of_ne _ _ _ _ _ hproposed hveto c
  | queued p => exact he.elim
  | dropped k => exact he.elim
  | cleared => exact he.elim
  | restored records => exact he.elim
  | _ => exact ht

/-! ## Each script -/

variable {Obs G : Type} [EntityGraph F Obs G]

omit [EntityGraph F Obs G] in
theorem idle_unitEvents {env : Env F Obs G} {req : ApproveRequest} {d : SealedDecision F} :
    ∀ e ∈ unitEvents env req d 0 d.pending.units ++ [.activated d.pending.coa], e.Idle := by
  intro e hmem
  rcases List.mem_append.mp hmem with hmem | hmem
  · obtain ⟨i, uid, _, rfl | rfl⟩ := Script.mem_unitEvents hmem
    · trivial
    · show "tasking_issued" ∉ accountEvents
      decide
  · rw [List.mem_singleton.mp hmem]
    trivial

theorem Script.ledger {s : C2Runtime F G} {r : Served F Obs G} {es : List (GateEvent F)}
    (hscript : Script s r es) (hkeyed : Keyed s.gate)
    (hs : Ledger c s.gate.audit.records s.gate.proposals)
    (hkeeps : ∀ records, r.req ≠ .auditSnapshot records) :
    Ledger c (es.foldl apply s.gate).audit.records (es.foldl apply s.gate).proposals := by
  have hdecided : ∀ {req d}, sealDecision r.env req s = .ok d →
      Ledger c (s.audit.records ++ [sealRecord s.audit.prev "gate_decision" "High"
        (r.env.utcNow 100) (decisionData req d)]) (s.proposals.erase req.coaId) := by
    intro req d hseal
    obtain ⟨hget, _⟩ := sealDecision_ok hseal
    have hid : d.pending.coa.coaId = req.coaId := hkeyed.proposals _ _ hget
    refine Ledger.settle hs (by rw [show s.gate.proposals.get req.coaId = _ from hget]; rfl) ?_ ?_
    · intro hdecides
      rw [decides_seal] at hdecides
      have hdata : coaIdIn (decisionData req d) = some d.pending.coa.coaId := rfl
      simpa [hdata, hid] using hdecides
    · exact queues_seal_of_ne _ _ _ _ _ (by decide) (by decide) c
  have hplain : ∀ name : String, name ≠ "gate_decision" → ∀ prev severity time data,
      decides c (sealRecord (F := F) prev name severity time data) = false := by
    intro name hname prev severity time data
    rw [decides_seal]
    simp [hname]
  cases hscript with
  | proposed req coa interpretation reason t hreq hcoa hverify htier =>
    exact hs.queue (queuedPending r.env req coa) (hplain _ (by decide) _ _ _ _)
      (queues_proposed _ _ _ _ rfl)
  | vetoed req dangerous fallback ok reason hreq hfallback =>
    exact hs.queue (guardrailPending r.env req fallback) (hplain _ (by decide) _ _ _ _)
      (queues_veto _ _ _ _ rfl rfl)
  | formProposed scenarioId unitId coa hreq hcoa =>
    exact hs.queue (formPending r.env unitId coa) (hplain _ (by decide) _ _ _ _)
      (queues_proposed _ _ _ _ rfl)
  | denied req d hreq hseal hverdict => exact hdecided hseal
  | approved req d hreq hseal hverdict =>
    exact Ledger.idle (s := (s.gate.apply (.dropped req.coaId)).apply (.recorded "gate_decision"
      "High" (r.env.utcNow 100) 0 (decisionData req d))) (hdecided hseal) idle_unitEvents
  | cleared hreq => exact hs.mono (by simp [apply])
  | restored records hreq => exact absurd hreq (hkeeps records)
  | vetoFailed req calls hreq =>
    refine hs.idle fun e hmem => ?_
    obtain ⟨call, _, rfl⟩ := List.mem_map.mp hmem
    trivial
  | nothing => exact hs
  | _ =>
    refine hs.idle ?_
    simp [GateEvent.Idle, accountEvents]

/-! ## The record a tasking was issued with -/

theorem Script.issued_on_record {s : C2Runtime F G} {r : Served F Obs G}
    {es : List (GateEvent F)} (hscript : Script s r es) {t : Tasking F} (h : .issued t ∈ es) :
    IssuedOnRecord (es.foldl apply s.gate).audit.records t.coa.coaId t.coa := by
  cases hscript with
  | autoApproved req coa interpretation reason hreq hcoa hverify htier =>
    obtain rfl : t = autoTasking r.env req coa := by simpa using h
    refine Or.inl ⟨_, List.mem_append_right _ List.mem_cons_self, ?_⟩
    exact recordsEvent_seal _ _ _ _ _ rfl
  | approved req d hreq hseal hverdict =>
    simp only [List.mem_cons, List.mem_append, reduceCtorEq, false_or, List.not_mem_nil,
      or_false] at h
    obtain ⟨i, hrecord⟩ := record_of_unitEvents h
    obtain ⟨j, uid, _, ht⟩ := mem_unitEvents h
    -- the state after the decision, whose record is the last one
    let decided := (s.gate.apply (.dropped req.coaId)).apply
      (.recorded "gate_decision" "High" (r.env.utcNow 100) 0 (decisionData req d))
    have hrestored : ∀ records, .restored records ∉
        unitEvents r.env req d 0 d.pending.units ++ [.activated d.pending.coa] := by
      intro records hmem
      exact idle_unitEvents _ hmem
    obtain ⟨prev, between, later, heq⟩ := recorded_split hrestored
      (List.mem_append_left _ hrecord) (s := decided)
    refine Or.inr ⟨_, _, later, heq, recordsEvent_seal _ _ _ _ _ rfl, ?_⟩
    refine ⟨_, List.mem_append_left _ (List.mem_append_right _ List.mem_cons_self),
      d.pending.coa.coaId, ?_, ?_⟩
    · refine ⟨decisionData req d, ?_, rfl, ?_⟩
      · rw [eventData_seal, if_pos rfl]
      · rw [← hverdict]
        rfl
    · obtain rfl : t = approvedTasking r.env req d j uid := by simpa using ht
      by_cases hj : j = 0
      · exact Or.inl (by simp [approvedTasking, hj])
      · refine Or.inr ?_
        simp [approvedTasking, hj, navyCopy, CourseOfAction.pairedCoaId, Json.str?]
  | _ => simp at h

/-! ## Along a run -/

/-- What the trail says of entries and taskings. -/
structure Traced (s : GateState F) : Prop where
  keyed : Keyed s
  live : s.audit.Live
  ledger : ∀ c, Ledger c s.audit.records s.proposals
  inbox : ∀ k t, s.inbox.get k = some t → IssuedOnRecord s.audit.records k t.coa

theorem keyed_effect {s : C2Runtime F G} {op : Operation F Obs G} {g : GateState F}
    (h : Keyed s.gate) (heffect : GateEffect s op g) : Keyed g := by
  cases heffect with
  | request r script hscript => exact hscript.keyed h _
  | ingress i es hes =>
    rw [ingress_foldl hes]
    exact ⟨h.proposals, h.inbox⟩
  | restart boot =>
    refine ⟨fun k p hget => ?_, h.inbox⟩
    simp only [GateState.restarted, Dict.get_mapValues, Option.map_eq_some_iff] at hget
    obtain ⟨q, hq, rfl⟩ := hget
    exact h.proposals k q hq

theorem traced_effect {s : C2Runtime F G} {op : Operation F Obs G} {g : GateState F}
    (h : Traced s.gate) (hop : op.NoStorageError) (hkeeps : op.KeepsTrail)
    (heffect : GateEffect s op g) : Traced g := by
  have hkeyed := keyed_effect h.keyed heffect
  have hlive := live_effect h.live hkeeps heffect
  cases heffect with
  | request r script hscript =>
    rw [hop.ran] at hkeyed hlive ⊢
    refine ⟨hkeyed, hlive, fun c => hscript.ledger h.keyed (h.ledger c) hkeeps, ?_⟩
    intro k t hget
    have hgrows := records_foldl (s := s.gate)
      fun records hmem => hkeeps records (hscript.of_restored hmem).1
    rcases inbox_foldl hget with hget | ⟨hissued, rfl⟩ | hacked
    · exact (h.inbox k t hget).mono hgrows
    · exact hscript.issued_on_record hissued
    · -- an acknowledgement keeps the COA
      obtain ⟨_, u, _, _, hu, rfl⟩ := hscript.of_acked hacked
      exact (h.inbox k u hu).mono hgrows
  | ingress i es hes =>
    have hidle : ∀ e ∈ es, e.Idle := by
      intro e hmem
      have he := hes e hmem
      cases e with
      | recorded name severity time place data =>
        simp only [GateEvent.IsIngress, ingressEvents, List.mem_cons, List.not_mem_nil,
          or_false] at he
        rcases he with rfl | rfl <;> exact by simp [GateEvent.Idle, accountEvents]
      | _ => exact he.elim
    refine ⟨hkeyed, hlive, fun c => (h.ledger c).idle hidle, ?_⟩
    intro k t hget
    rw [ingress_foldl hes] at hget
    exact (h.inbox k t hget).mono (records_foldl fun records hmem => hidle _ hmem)
  | restart boot =>
    have haudit : s.gate.restarted.audit = s.gate.audit := h.live.reopen
    rw [haudit] at hlive
    refine ⟨hkeyed, by rw [haudit]; exact hlive, fun c => ?_, ?_⟩
    · rw [haudit]
      exact (h.ledger c).mono (by simp [GateState.restarted])
    · rw [haudit]
      exact h.inbox

/-- In every run of requests, ingress and restarts of a new server without a storage failure, every
prefix of the trail has at most as many decisions on an id as records that queue it, and every
tasking of the inbox has its record: a Tier-0 approval, or one that follows the approval of its id
or of the COA it is paired with. -/
theorem decisions_traceable (policy : TieredPolicy F)
    {tr : List (Transition (C2Runtime F G) (Operation F Obs G))} {s : C2Runtime F G}
    (h : Run (Guarded (fun _ op => op.NoStorageError ∧ op.KeepsTrail) Operation.Step)
      (C2Runtime.fresh F Obs policy ⟨[], genesisPrev⟩ true) tr s) :
    (∀ c init, init <+: s.audit.records → init.countP (decides c) ≤ init.countP (queues c)) ∧
      ∀ k t, s.inbox.get k = some t → IssuedOnRecord s.audit.records k t.coa := by
  have hstart : Traced
      (C2Runtime.fresh F Obs policy ⟨[], genesisPrev⟩ true : C2Runtime F G).gate := by
    refine ⟨keyed_fresh policy _ true, AuditTrail.live_empty, fun c => ⟨.nil, ?_⟩, ?_⟩
    · simp [C2Runtime.fresh, C2Runtime.gate]
    · simp [C2Runtime.fresh, C2Runtime.gate]
  have hinv : Traced s.gate :=
    h.gate_invariant (mirrored_fresh policy _) hstart (fun _ _ hcond => hcond.1.storeOpens)
      fun _ _ _ hI hcond heffect => traced_effect hI hcond.1 hcond.2 heffect
  exact ⟨fun c => (hinv.ledger c).covered, hinv.inbox⟩

end

/-- A proposal and its denial, a veto, the approval of its fallback for two units, and a restart. -/
def navyPairRun : List (Operation Whole Unit Unit) :=
  [.request (served (propose (demoCoa "a" "INSPECT" .tier1Hitl))),
    .request (served (.approve ⟨"a", "no", "op"⟩)),
    .request (served (.verifyGuardrail "S1_trojan" "u1" "u2")),
    .request (served (.approve ⟨"uuid-3", "yes", "op"⟩)), .restart demoBoot]

/-- After the restart the tasking of the second unit still has its record and the approval. -/
theorem decisions_traceable_navy_pair :
    letI := plainHash
    (∀ c init, init <+: (navyPairRun.foldl operate demoServer).audit.records →
        init.countP (decides c) ≤ init.countP (queues c)) ∧
      ∃ t, (navyPairRun.foldl operate demoServer).inbox.get "uuid-1" = some t ∧
        t.coa.pairedCoaId = some "uuid-3" ∧
        IssuedOnRecord (navyPairRun.foldl operate demoServer).audit.records "uuid-1" t.coa := by
  let := plainHash
  have hpaired : ((navyPairRun.foldl operate demoServer).inbox.get "uuid-1").any (fun t =>
      t.coa.pairedCoaId = some "uuid-3") = true := by
    decide +kernel
  have hrun : Run (Guarded (fun _ op => op.NoStorageError ∧ op.KeepsTrail) Operation.Step)
      demoServer (trace operate demoServer navyPairRun) (navyPairRun.foldl operate demoServer) := by
    apply run_operate
    intro x hx
    simp only [navyPairRun, trace, List.mem_cons, List.not_mem_nil, or_false] at hx
    rcases hx with rfl | rfl | rfl | rfl | rfl
    case inr.inr.inr.inr =>
      refine ⟨⟨rfl, trivial⟩, fun boot hb => ?_⟩
      cases hb
      decide +kernel
    all_goals
      refine ⟨⟨fun _ _ => rfl, fun records h => ?_⟩, by simp⟩
      cases h
  cases hget : (navyPairRun.foldl operate demoServer).inbox.get "uuid-1" with
  | none =>
    rw [hget] at hpaired
    cases hpaired
  | some t =>
    rw [hget, Option.any_some, decide_eq_true_iff] at hpaired
    obtain ⟨hcovered, hinbox⟩ := decisions_traceable demoPolicy hrun
    subst this
    exact ⟨hcovered, t, rfl, hpaired, hinbox _ t hget⟩

end NexusC2

import NexusC2.App.Proofs.PendingFrame
import NexusC2.App.Proofs.TrailCheck

/-!
# The closed loop closes

Between the requests of the demo others propose, decide, acknowledge and bring evidence. As long as
none of it concerns the COA of the demo, the entry waits for its approval, the tasking for its
acknowledgement, and the trail keeps the record of it: a demo whose proposal is queued ends well.
-/

namespace NexusC2

open GateState HashChain

/-! ## What leaves an id alone -/

section

variable {F : Type} [PyFloatOps F] [Sha256]

/-- The event is about other ids, and neither clears nor replaces the trail. -/
def GateEvent.Aside (k : String) : GateEvent F → Prop
  | .queued p => p.coa.coaId ≠ k
  | .dropped c => c ≠ k
  | .issued t => t.coa.coaId ≠ k
  | .acked c _ => c ≠ k
  | .cleared | .restored _ => False
  | _ => True

/-- The gate has the same to do with an id as before, and the trail goes on. -/
structure Beside (k : String) (g g' : GateState F) : Prop where
  pending : g'.proposals.get k = g.proposals.get k
  inbox : g'.inbox.get k = g.inbox.get k
  acked : k ∈ g'.acked ↔ k ∈ g.acked
  grown : g.audit.records <+: g'.audit.records

omit [PyFloatOps F] [Sha256] in
theorem Beside.refl (k : String) (g : GateState F) : Beside k g g :=
  ⟨rfl, rfl, Iff.rfl, List.prefix_rfl⟩

omit [PyFloatOps F] [Sha256] in
theorem Beside.trans {k : String} {g g' g'' : GateState F} (h : Beside k g g')
    (h' : Beside k g' g'') : Beside k g g'' :=
  ⟨h'.pending.trans h.pending, h'.inbox.trans h.inbox, h'.acked.trans h.acked,
    h.grown.trans h'.grown⟩

/-- What a server is in as long as it writes its own trail. -/
structure InService (g : GateState F) : Prop where
  keyed : Keyed g
  live : g.audit.Live
  hashed : Hashed g.audit.records

theorem Beside.apply {k : String} {e : GateEvent F} (he : e.Aside k) (g : GateState F) :
    Beside k g (g.apply e) := by
  cases e with
  | queued p => exact ⟨by simp [GateState.apply, show p.coa.coaId ≠ k from he], rfl, Iff.rfl,
      List.prefix_rfl⟩
  | dropped c => exact ⟨by simp [GateState.apply, show c ≠ k from he], rfl, Iff.rfl,
      List.prefix_rfl⟩
  | issued t => exact ⟨rfl, by simp [GateState.apply, show t.coa.coaId ≠ k from he], Iff.rfl,
      List.prefix_rfl⟩
  | acked c t =>
    have hne : c ≠ k := he
    refine ⟨rfl, by simp [GateState.apply, hne], ?_, List.prefix_rfl⟩
    simp [GateState.apply, hne.symm]
  | recorded name severity time place data =>
    exact ⟨rfl, rfl, Iff.rfl, List.prefix_append _ _⟩
  | cleared => exact he.elim
  | restored records => exact he.elim
  | verified coa ok => exact ⟨rfl, rfl, Iff.rfl, List.prefix_rfl⟩
  | activated coa => exact ⟨rfl, rfl, Iff.rfl, List.prefix_rfl⟩

theorem beside_foldl {k : String} {es : List (GateEvent F)} (hes : ∀ e ∈ es, e.Aside k)
    (g : GateState F) : Beside k g (es.foldl GateState.apply g) := by
  refine foldl_apply (I := Beside k g) (.refl k g) ?_
  intro e hmem g' h
  exact h.trans (.apply (hes e hmem) g')

theorem hashed_foldl {es : List (GateEvent F)} (hes : ∀ records, .restored records ∉ es)
    {g : GateState F} (hg : Hashed g.audit.records) :
    Hashed (es.foldl GateState.apply g).audit.records := by
  refine foldl_apply (I := fun t => Hashed t.audit.records) hg ?_
  intro e hmem t ht
  cases e with
  | recorded name severity time place data =>
    intro r hr
    rcases List.mem_append.mp hr with hr | hr
    · exact ht r hr
    · rw [List.mem_singleton.mp hr]
      exact ⟨_, get_hash_sealRecord _ _ _ _ _⟩
  | restored records => exact absurd hmem (hes records)
  | _ => exact ht

end

section

variable {F Obs G : Type} [PyFloatOps F] [Sha256] [EntityGraph F Obs G]

/-- The request concerns other ids than this one: it decides and acknowledges others, and the COAs
it sends or draws have others. It neither resets nor replaces the trail. -/
structure Unconcerned (k : String) (r : Served F Obs G) : Prop where
  resets : ¬ r.req.IsReset
  restores : ∀ records, r.req ≠ .auditSnapshot records
  decides : ∀ req, r.req.approve? = some req → req.coaId ≠ k
  acks : ∀ req, r.req.ack? = some req → req.coaId ≠ k
  sends : ∀ coa, r.req.rawCoa? = some coa → coa.coaId ≠ k
  draws : ¬ r.env.Draws k
  pairs : r.env.uuid4 1 ≠ k

/-- What others may do while the demo goes on. -/
def LeavesAlone (k : String) : Operation F Obs G → Prop
  | .request r => Unconcerned k r
  | .ingress _ => True
  | .restart _ => False

/-- A COA is issued under a drawn id, one a client sent, or one of an entry that is decided. -/
theorem Script.issued_aside {s : C2Runtime F G} {r : Served F Obs G} {es : List (GateEvent F)}
    {k : String} (hs : Script s r es) (hkeyed : Keyed s.gate) (h : Unconcerned k r) {t : Tasking F}
    (ht : .issued t ∈ es) : t.coa.coaId ≠ k := by
  rcases hs.of_issued ht with ⟨req, coa, interpretation, reason, hreq, hcoa, -, -, rfl⟩ |
    ⟨req, d, hreq, hseal, -, i, uid, -, rfl⟩
  · have horigin := proposedCoa_origin r.env req s trivial
    cases hrun : proposedCoa r.env req s with
    | mk result s' =>
      rw [hrun] at horigin hcoa
      change result = .ok (coa, interpretation) at hcoa
      subst hcoa
      rintro rfl
      rcases horigin with hdrawn | ⟨sent, hsent, heq⟩
      · exact h.draws hdrawn
      · exact h.sends sent (by rw [hreq]; exact hsent) heq.symm
  · rcases approvedTasking_coa r.env req d i uid with hcoa | hcoa
    · rw [hcoa, hkeyed.proposals _ _ (sealDecision_ok hseal).1]
      exact h.decides req hreq
    · rw [hcoa]
      exact h.pairs

theorem Script.aside {s : C2Runtime F G} {r : Served F Obs G} {es : List (GateEvent F)} {k : String}
    (hs : Script s r es) (hkeyed : Keyed s.gate) (h : Unconcerned k r) : ∀ e ∈ es, e.Aside k := by
  intro e he
  cases e with
  | queued p =>
    rintro rfl
    rcases hs.queued_origin he with hdrawn | ⟨coa, hcoa, heq⟩
    · exact h.draws hdrawn
    · exact h.sends coa hcoa heq.symm
  | dropped c =>
    obtain ⟨req, d, hreq, -, rfl⟩ := hs.of_dropped he
    exact h.decides req hreq
  | issued t => exact hs.issued_aside hkeyed h he
  | acked c t =>
    obtain ⟨req, u, hreq, rfl, -⟩ := hs.of_acked he
    exact h.acks req hreq
  | cleared => exact h.resets (hs.of_cleared he)
  | restored records => exact h.restores records (hs.of_restored he).1
  | verified coa ok => trivial
  | activated coa => trivial
  | recorded name severity time place data => trivial

/-- Events beside an id leave the gate in order. -/
theorem InService.foldl {k : String} {es : List (GateEvent F)} (hes : ∀ e ∈ es, e.Aside k)
    {g : GateState F} (hg : InService g) (hkeyed : Keyed (es.foldl GateState.apply g)) :
    InService (es.foldl GateState.apply g) := by
  have hno : ∀ records, .restored records ∉ es := fun records hmem => hes _ hmem
  exact ⟨hkeyed, live_foldl hno hg.live, hashed_foldl hno hg.hashed⟩

theorem operate_beside {k : String} {s : C2Runtime F G} {op : Operation F Obs G}
    (h : LeavesAlone k op) (hs : InService s.gate) :
    Beside k s.gate (operate s op).gate ∧ InService (operate s op).gate := by
  cases op with
  | request r =>
    obtain ⟨script, hscript, hgate⟩ := handle_script r s
    have haside : ∀ e ∈ ran r.env.appendRaises script, e.Aside k := fun e he =>
      hscript.aside hs.keyed h e ((ran_sublist _ _).subset he)
    show Beside k s.gate (serve s r).gate ∧ InService (serve s r).gate
    rw [show (serve s r).gate = _ from hgate]
    exact ⟨beside_foldl haside _, hs.foldl haside (hscript.keyed hs.keyed _)⟩
  | ingress i =>
    obtain ⟨es, hes, hgate, -⟩ := handleIngress_gate i s
    have haside : ∀ e ∈ es, e.Aside k := by
      intro e he
      have hingress := hes e he
      cases e with
      | recorded name severity time place data => trivial
      | _ => exact hingress.elim
    show Beside k s.gate (handleIngress i s).2.gate ∧ InService (handleIngress i s).2.gate
    rw [hgate]
    exact ⟨beside_foldl haside _, hs.foldl haside (keyed_effect hs.keyed (.ingress i es hes))⟩
  | restart boot => exact h.elim

/-- However much others do. -/
theorem foldl_beside {k : String} {ops : List (Operation F Obs G)}
    (h : ∀ op ∈ ops, LeavesAlone k op) {s : C2Runtime F G} (hs : InService s.gate) :
    Beside k s.gate (ops.foldl operate s).gate ∧ InService (ops.foldl operate s).gate := by
  induction ops generalizing s with
  | nil => exact ⟨.refl k _, hs⟩
  | cons op ops ih =>
    obtain ⟨hbeside, horder⟩ := operate_beside (h op List.mem_cons_self) hs
    obtain ⟨hrest, hend⟩ := ih (fun op hmem => h op (List.mem_cons_of_mem _ hmem)) horder
    exact ⟨hbeside.trans hrest, hend⟩

end

/-! ## The requests of the demo -/

section

variable {F Obs G : Type} [PyMixedEq F] [Sha256] [EntityGraph F Obs G]

omit [EntityGraph F Obs G] in
/-- What follows an append that does not raise. -/
theorem auditAppend_bind {α : Type} {env : Env F Obs G} {i : Nat} {name : String}
    (h : env.appendRaises name i = none) (severity : String) (data : Fields F)
    (f : Record F → C2Handler F G α) (s : C2Runtime F G) :
    (auditAppend env i name severity data >>= f) s =
      f (s.audit.append name severity (env.utcNow (100 + i)) data).1
        { s with audit := (s.audit.append name severity (env.utcNow (100 + i)) data).2 } := by
  have happ := auditAppend_apply env i name severity data s
  rw [h] at happ
  exact Handler.bind_ok happ

/-- A proposal that is answered as queued has queued a COA under its id. -/
theorem gateProposals_queued {env : Env F Obs G} {req : ProposalRequest F} {s t : C2Runtime F G}
    {body : Json F} (hrun : gateProposals env req s = (.ok body, t))
    (hqueued : hasStatus body "QUEUED" = true) : ∃ coa data,
      bodyCoaId body = .ok coa.coaId ∧
      (env.Draws coa.coaId ∨ ∃ sent, (Request.proposals req).rawCoa? = some sent ∧
        coa.coaId = sent.coaId) ∧
      t.gate = [.verified coa true, .queued (queuedPending env req coa),
        .recorded "coa_proposed" "Medium" (env.utcNow 100) 0 data].foldl GateState.apply
          s.gate := by
  unfold gateProposals at hrun
  rw [Handler.get_bind] at hrun
  obtain ⟨⟨coa, interpretation⟩, s₁, hcoa, hrun⟩ := Handler.bind_eq_ok.mp hrun
  have hframe := (proposedCoa_frame env req s).snd (Frame.refl s)
  have horigin := proposedCoa_origin env req s trivial
  rw [hcoa] at hframe horigin
  obtain ⟨checked, s₂, hcheck, hrun⟩ := Handler.bind_eq_ok.mp hrun
  rw [gateVerify_apply] at hcheck
  cases hverify : s₁.policy.interlock.verify coa with
  | error e =>
    rw [hverify] at hcheck
    cases hcheck
  | ok answer =>
    obtain ⟨ok, reason⟩ := answer
    rw [hverify] at hcheck
    cases hcheck
    dsimp only at hrun
    cases ok with
    | false =>
      obtain ⟨record, s₃, -, hrun⟩ := Handler.bind_eq_ok.mp hrun
      cases hrun
      exact absurd hqueued Bool.false_ne_true
    | true =>
      by_cases htier : coa.tier = .tier0Autonomous
      · simp only [Bool.not_true, Bool.false_eq_true, if_false, if_pos htier,
          Handler.modify_bind] at hrun
        obtain ⟨record, s₃, -, hrun⟩ := Handler.bind_eq_ok.mp hrun
        cases hrun
        exact absurd hqueued Bool.false_ne_true
      · simp only [Bool.not_true, Bool.false_eq_true, if_false, if_neg htier,
          Handler.modify_bind, Handler.get_bind] at hrun
        obtain ⟨record, s₃, happend, hrun⟩ := Handler.bind_eq_ok.mp hrun
        cases hrun
        rw [auditAppend_apply] at happend
        split at happend
        · cases happend
        · cases happend
          rw [← hframe.gate]
          exact ⟨coa, _, rfl, horigin, rfl⟩

omit [EntityGraph F Obs G] in
/-- An approval of an entry for one unit issues the tasking. -/
theorem gateApprove_approves {env : Env F Obs G} (operatorId : String) {coaId unit : String}
    {s : C2Runtime F G} {p : Pending F} (hget : s.proposals.get coaId = some p)
    (hunits : p.units = [unit]) (hwrites : ∀ name i, env.appendRaises name i = none) :
    ∃ body t d data data', gateApprove env ⟨coaId, "y", operatorId⟩ s = (.ok body, t) ∧
      hasStatus body "APPROVED" = true ∧ d.pending = p ∧
      t.gate = [.dropped coaId, .recorded "gate_decision" "High" (env.utcNow 100) 0 data,
        .issued (approvedTasking env ⟨coaId, "y", operatorId⟩ d 0 unit),
        .recorded "tasking_issued" "High" (env.utcNow 100) 0 data',
        .activated p.coa].foldl GateState.apply s.gate := by
  unfold gateApprove
  rw [Handler.get_bind]
  have hword : decisionVerdict "y" = some (.approved, "operator_approve") := by decide
  unfold sealDecision
  rw [hget]
  simp only [hword, Handler.ofExcept_ok_bind, Handler.modify_bind, if_true, hunits, issueUnits]
  rw [auditAppend_bind (hwrites _ _), Handler.bind_assoc, Handler.modify_bind, Handler.bind_assoc,
    Handler.modify_bind, Handler.bind_assoc, auditAppend_bind (hwrites _ _)]
  exact ⟨_, _, _, _, _, rfl, rfl, rfl, rfl⟩

omit [EntityGraph F Obs G] in
/-- An acknowledgement by the unit of a tasking is recorded. -/
theorem recipientAck_acknowledges {env : Env F Obs G} {req : AckRequest F} {s : C2Runtime F G}
    {t : Tasking F} (hget : s.inbox.get req.coaId = some t) (hunit : t.unitId = req.unitId)
    (hwrites : ∀ name i, env.appendRaises name i = none) :
    ∃ body s', recipientAck env req s = (.ok body, s') ∧ hasStatus body "ACKED" = true ∧
      s'.gate = [
        .acked req.coaId { t with status := .acked, ack := some (ackRecordOf env req t) },
        .recorded "recipient_ack" "High" (env.utcNow 100) 0
          (ackRecordOf env req t).toFields].foldl GateState.apply s.gate := by
  have hne : ¬ t.unitId ≠ req.unitId := not_not.mpr hunit
  unfold recipientAck
  rw [Handler.get_bind, hget]
  dsimp only
  rw [if_neg hne]
  simp only [Handler.modify_bind]
  rw [auditAppend_bind (hwrites _ _)]
  exact ⟨_, _, rfl, rfl, rfl⟩

end

/-! ## The phases of the demo -/

section

variable {F : Type} [PyFloatOps F] [Sha256]

/-- The entry waits for the operator. -/
structure Waiting (k unit : String) (g : GateState F) : Prop where
  order : InService g
  entry : ∃ p, g.proposals.get k = some p ∧ p.units = [unit]
  unacked : k ∉ g.acked

/-- The tasking waits for the recipient. -/
structure AwaitsAck (k unit : String) (g : GateState F) : Prop where
  order : InService g
  tasking : ∃ t, g.inbox.get k = some t ∧ t.unitId = unit
  unacked : k ∉ g.acked

/-- The tasking is acknowledged and the trail says so. -/
structure Closed (k : String) (g : GateState F) : Prop where
  order : InService g
  tasking : ∃ t, g.inbox.get k = some t ∧ t.status = .acked
  acked : k ∈ g.acked
  onRecord : ∃ r ∈ g.audit.records, acknowledges k r = true

omit [Sha256] in
theorem Waiting.beside {k unit : String} {g g' : GateState F} (h : Waiting k unit g)
    (hbeside : Beside k g g') (horder : InService g') : Waiting k unit g' := by
  refine ⟨horder, ?_, fun hmem => h.unacked (hbeside.acked.mp hmem)⟩
  rw [hbeside.pending]
  exact h.entry

omit [Sha256] in
theorem AwaitsAck.beside {k unit : String} {g g' : GateState F} (h : AwaitsAck k unit g)
    (hbeside : Beside k g g') (horder : InService g') : AwaitsAck k unit g' := by
  refine ⟨horder, ?_, fun hmem => h.unacked (hbeside.acked.mp hmem)⟩
  rw [hbeside.inbox]
  exact h.tasking

omit [Sha256] in
theorem Closed.beside {k : String} {g g' : GateState F} (h : Closed k g)
    (hbeside : Beside k g g') (horder : InService g') : Closed k g' := by
  obtain ⟨r, hr, hack⟩ := h.onRecord
  refine ⟨horder, ?_, hbeside.acked.mpr h.acked, r, hbeside.grown.subset hr, hack⟩
  rw [hbeside.inbox]
  exact h.tasking

/-- Events of the demo itself leave the gate in order. -/
theorem InService.ran {es : List (GateEvent F)} (hno : ∀ records, .restored records ∉ es)
    (hacked : ∀ c t, .acked c t ∈ es → t.coa.coaId = c) {g : GateState F} (hg : InService g) :
    InService (es.foldl GateState.apply g) := by
  refine ⟨⟨fun k p hget => ?_, fun k t hget => ?_⟩, live_foldl hno hg.live,
    hashed_foldl hno hg.hashed⟩
  · rcases proposals_foldl hget with hget | ⟨_, hk⟩
    · exact hg.keyed.proposals k p hget
    · exact hk
  · rcases inbox_foldl hget with hget | ⟨_, hk⟩ | hmem
    · exact hg.keyed.inbox k t hget
    · exact hk
    · exact hacked k t hmem

end

section

variable {F Obs G : Type} [PyMixedEq F] [Sha256] [EntityGraph F Obs G]

/-- The proposal of the demo, where it is queued, waits under the id its answer names. -/
theorem gateProposals_waiting {env : Env F Obs G} {req : ProposalRequest F} {s t : C2Runtime F G}
    {body : Json F} (hrun : gateProposals env req s = (.ok body, t))
    (hqueued : hasStatus body "QUEUED" = true) (hraw : (Request.proposals req).rawCoa? = none)
    (hs : InService s.gate) (hfresh : ∀ k, env.Draws k → k ∉ s.acked) :
    ∃ k, bodyCoaId body = .ok k ∧ env.Draws k ∧ Waiting k req.unitId t.gate := by
  obtain ⟨coa, data, hid, horigin, hgate⟩ := gateProposals_queued hrun hqueued
  have hdraws : env.Draws coa.coaId := by
    rcases horigin with hdraws | ⟨sent, hsent, -⟩
    · exact hdraws
    · rw [hraw] at hsent
      cases hsent
  refine ⟨coa.coaId, hid, hdraws, ?_⟩
  rw [hgate]
  refine ⟨hs.ran (by simp) (by simp), ⟨queuedPending env req coa, ?_, rfl⟩, hfresh _ hdraws⟩
  simp [GateState.apply, queuedPending]

omit [EntityGraph F Obs G] in
/-- The approval of the demo sends the tasking. -/
theorem gateApprove_awaitsAck {env : Env F Obs G} (operatorId : String) {k unit : String}
    {s : C2Runtime F G} (hs : Waiting k unit s.gate)
    (hwrites : ∀ name i, env.appendRaises name i = none) :
    ∃ body t, gateApprove env ⟨k, "y", operatorId⟩ s = (.ok body, t) ∧
      hasStatus body "APPROVED" = true ∧ AwaitsAck k unit t.gate := by
  obtain ⟨p, hget, hunits⟩ := hs.entry
  obtain ⟨body, t, d, data, data', hrun, hstatus, hpending, hgate⟩ :=
    gateApprove_approves operatorId hget hunits hwrites
  have hkey : (approvedTasking env ⟨k, "y", operatorId⟩ d 0 unit).coa.coaId = k := by
    show d.pending.coa.coaId = k
    rw [hpending]
    exact hs.order.keyed.proposals k p hget
  refine ⟨body, t, hrun, hstatus, ?_⟩
  rw [hgate]
  refine ⟨hs.order.ran (by simp) (by simp),
    ⟨approvedTasking env ⟨k, "y", operatorId⟩ d 0 unit, ?_, rfl⟩, hs.unacked⟩
  simp [GateState.apply, hkey]

omit [Sha256] [EntityGraph F Obs G] in
/-- A tasking that waits is one the inbox of its unit shows. -/
theorem recipientInbox_awaitsAck {k unit : String} {s : C2Runtime F G}
    (hs : AwaitsAck k unit s.gate) : 0 < (recipientInbox s unit).length := by
  obtain ⟨t, hget, hunit⟩ := hs.tasking
  refine List.length_pos_of_mem (a := t) (List.mem_filter.mpr ⟨Dict.mem_values.mpr ⟨k, hget⟩, ?_⟩)
  rw [decide_eq_true_iff, hs.order.keyed.inbox k t hget]
  exact ⟨hunit, hs.unacked⟩

omit [EntityGraph F Obs G] in
/-- The acknowledgement of the demo closes the loop. -/
theorem recipientAck_closed {env : Env F Obs G} (req : AckRequest F) {s : C2Runtime F G}
    (hs : AwaitsAck req.coaId req.unitId s.gate)
    (hwrites : ∀ name i, env.appendRaises name i = none) :
    ∃ body t, recipientAck env req s = (.ok body, t) ∧ hasStatus body "ACKED" = true ∧
      Closed req.coaId t.gate := by
  obtain ⟨tasking, hget, hunit⟩ := hs.tasking
  obtain ⟨body, t, hrun, hstatus, hgate⟩ := recipientAck_acknowledges hget hunit hwrites
  refine ⟨body, t, hrun, hstatus, ?_⟩
  rw [hgate]
  refine ⟨hs.order.ran (by simp) ?_,
    ⟨{ tasking with status := .acked, ack := some (ackRecordOf env req tasking) },
      by simp [GateState.apply], rfl⟩, by simp [GateState.apply], _,
    List.mem_append_right _ (List.mem_singleton_self _), ?_⟩
  · intro c u hmem
    obtain ⟨rfl, rfl⟩ : c = req.coaId ∧
        u = { tasking with status := .acked, ack := some (ackRecordOf env req tasking) } := by
      simpa using hmem
    exact hs.order.keyed.inbox _ tasking hget
  · rw [acknowledges_seal]
    exact decide_eq_true ⟨rfl, rfl⟩

omit [Sha256] [EntityGraph F Obs G] in
/-- The client finds the acknowledgement in the trail. -/
theorem Closed.verified {k : String} {s : C2Runtime F G} (h : Closed k s.gate) :
    (verifyAckInTrail s.audit.records k).1 = true := by
  obtain ⟨r, hr, hack⟩ := h.onRecord
  exact (verifyAckInTrail_verdict _ k).mpr ⟨⟨r, hr, coaIdInRecord_of_acknowledges hack⟩,
    Or.inl (linkedFrom_of_valid h.order.live.links h.order.hashed)⟩

/-! ## The demo -/

/-- What others may do before the demo resets. -/
def KeepsServer : Operation F Obs G → Prop
  | .request r => ∀ records, r.req ≠ .auditSnapshot records
  | .ingress _ => True
  | .restart _ => False

theorem operate_keepsServer {s : C2Runtime F G} {op : Operation F Obs G} (h : KeepsServer op)
    (hlive : s.gate.audit.Live) (hhash : Hashed s.gate.audit.records) :
    (operate s op).gate.audit.Live ∧ Hashed (operate s op).gate.audit.records := by
  cases op with
  | request r =>
    obtain ⟨script, hscript, hgate⟩ := handle_script r s
    have hno : ∀ records, .restored records ∉ GateState.ran r.env.appendRaises script :=
      fun records hmem => h records (hscript.of_restored ((ran_sublist _ _).subset hmem)).1
    show (serve s r).gate.audit.Live ∧ Hashed (serve s r).gate.audit.records
    rw [show (serve s r).gate = _ from hgate]
    exact ⟨live_foldl hno hlive, hashed_foldl hno hhash⟩
  | ingress i =>
    obtain ⟨es, hes, hgate, -⟩ := handleIngress_gate i s
    have hno : ∀ records, .restored records ∉ es := fun records hmem => hes _ hmem
    show (handleIngress i s).2.gate.audit.Live ∧ Hashed (handleIngress i s).2.gate.audit.records
    rw [hgate]
    exact ⟨live_foldl hno hlive, hashed_foldl hno hhash⟩
  | restart boot => exact h.elim

theorem foldl_keepsServer {ops : List (Operation F Obs G)} (h : ∀ op ∈ ops, KeepsServer op)
    {s : C2Runtime F G} (hlive : s.gate.audit.Live) (hhash : Hashed s.gate.audit.records) :
    (ops.foldl operate s).gate.audit.Live ∧ Hashed (ops.foldl operate s).gate.audit.records := by
  induction ops generalizing s with
  | nil => exact ⟨hlive, hhash⟩
  | cons op ops ih =>
    obtain ⟨hlive', hhash'⟩ := operate_keepsServer (h op List.mem_cons_self) hlive hhash
    exact ih (fun op hmem => h op (List.mem_cons_of_mem _ hmem)) hlive' hhash'

/-- The state the proposal of the demo finds. -/
def DemoWorld.proposedIn (w : DemoWorld F Obs G) (s : C2Runtime F G) : C2Runtime F G :=
  (w.others 1).foldl operate (C2Runtime.reset Obs ((w.others 0).foldl operate s))

/-- The proposal of the demo is answered as queued. -/
def DemoWorld.Queues (w : DemoWorld F Obs G) (a : DemoArgs) (s : C2Runtime F G) : Prop :=
  ∃ body, (gateProposals (w.env 1) a.proposal (w.proposedIn s)).1 = .ok body ∧
    hasStatus body "QUEUED" = true

/-- What the demo needs: its records are written, no one replaces the trail or starts the server
anew, and once it has reset no one concerns itself with an id its proposal can draw. -/
structure DemoWorld.Peaceful (w : DemoWorld F Obs G) : Prop where
  writes : ∀ i name place, (w.env i).appendRaises name place = none
  before : ∀ op ∈ w.others 0, KeepsServer op
  after : ∀ i, 0 < i → ∀ k, (w.env 1).Draws k → ∀ op ∈ w.others i, LeavesAlone k op

theorem DemoWorld.meanwhile_bind {α : Type} (w : DemoWorld F Obs G) (i : Nat)
    (f : Unit → C2Handler F G α) (s : C2Runtime F G) :
    (w.meanwhile i >>= f) s = f () ((w.others i).foldl operate s) := rfl

/-- From the approval on nothing fails but the time. -/
theorem closeLoop_closed {w : DemoWorld F Obs G} {a : DemoArgs} {k : String} {s : C2Runtime F G}
    (hw : w.Peaceful) (hk : (w.env 1).Draws k) (hs : Waiting k a.unitId s.gate) :
    ∃ t, closeLoop w a k s = (.ok (if a.requireRoundtrip && w.late then 1 else 0), t) ∧
      Closed k t.gate := by
  have hmeanwhile := fun i (hi : 0 < i) s (hs : InService s.gate) =>
    foldl_beside (hw.after i hi k hk) (s := s) hs
  obtain ⟨hbeside, horder⟩ := hmeanwhile 2 (by omega) s hs.order
  obtain ⟨approved, s₂, happrove, hstatus, hs₂⟩ := gateApprove_awaitsAck a.operatorId
    (hs.beside hbeside horder) (hw.writes 2)
  obtain ⟨hbeside, horder⟩ := hmeanwhile 3 (by omega) s₂ hs₂.order
  have hs₃ := hs₂.beside hbeside horder
  have hinbox := recipientInbox_awaitsAck hs₃
  obtain ⟨hbeside, horder⟩ := hmeanwhile 4 (by omega) _ hs₃.order
  obtain ⟨ack, s₄, hack, hacked, hs₄⟩ := recipientAck_closed (a.ack k)
    (hs₃.beside hbeside horder) (hw.writes 4)
  obtain ⟨hbeside, horder⟩ := hmeanwhile 5 (by omega) s₄ hs₄.order
  have hs₅ : Closed k _ := hs₄.beside hbeside horder
  refine ⟨(w.others 5).foldl operate s₄, ?_, hs₅⟩
  unfold closeLoop
  rw [DemoWorld.meanwhile_bind, Handler.bind_ok happrove, hstatus]
  simp only [Bool.not_true, Bool.false_eq_true, if_false]
  rw [DemoWorld.meanwhile_bind, Handler.get_bind, if_neg (by omega), DemoWorld.meanwhile_bind,
    Handler.bind_ok hack, hacked]
  simp only [Bool.not_true, Bool.false_eq_true, if_false]
  rw [DemoWorld.meanwhile_bind, Handler.get_bind, hs₅.verified]
  simp only [Bool.not_true, Bool.false_eq_true, if_false]
  split <;> rfl

theorem DemoWorld.proposedIn_order {w : DemoWorld F Obs G} {s : C2Runtime F G} (hw : w.Peaceful)
    (hlive : s.audit.Live) (hhash : Hashed s.audit.records) :
    InService (w.proposedIn s).gate ∧ ∀ k, (w.env 1).Draws k → k ∉ (w.proposedIn s).acked := by
  obtain ⟨hlive₀, hhash₀⟩ := foldl_keepsServer hw.before hlive hhash
  have hreset : InService (C2Runtime.reset Obs ((w.others 0).foldl operate s)).gate :=
    ⟨⟨by simp [C2Runtime.reset, C2Runtime.gate], by simp [C2Runtime.reset, C2Runtime.gate]⟩,
      hlive₀, hhash₀⟩
  have hmeanwhile := fun k hk => foldl_beside (hw.after 1 Nat.one_pos k hk) hreset
  refine ⟨(hmeanwhile _ (Or.inl rfl)).2, fun k hk hmem => ?_⟩
  have hnone := (hmeanwhile k hk).1.acked.mp hmem
  simp [C2Runtime.reset, C2Runtime.gate] at hnone

omit [PyMixedEq F] [Sha256] in
/-- The proposal of the demo sends no COA. -/
theorem DemoArgs.proposal_rawCoa (a : DemoArgs) :
    (Request.proposals (a.proposal : ProposalRequest F)).rawCoa? = none := by
  unfold Request.rawCoa?
  exact ite_self _

/-- A demo ends well if and only if its proposal is queued and, where it is asked to, it is quick:
whatever others do meanwhile that does not concern its COA, the approval finds the entry, the inbox
shows the tasking, the acknowledgement is taken and the trail proves it. -/
theorem runDemo_closes {w : DemoWorld F Obs G} {a : DemoArgs} {s : C2Runtime F G}
    (hw : w.Peaceful) (hlive : s.audit.Live) (hhash : Hashed s.audit.records) :
    ((runDemo Obs w a s).1 = .ok 0 ↔
      w.Queues a s ∧ ¬ (a.requireRoundtrip = true ∧ w.late = true)) ∧
    ((runDemo Obs w a s).1 = .ok 0 →
      ∃ k, (w.env 1).Draws k ∧ Closed k (runDemo Obs w a s).2.gate) := by
  obtain ⟨horder, hfresh⟩ := DemoWorld.proposedIn_order hw hlive hhash
  have hdemo : runDemo Obs w a s = (gateProposals (w.env 1) a.proposal >>= fun body =>
      if !hasStatus body "QUEUED" then pure 1
      else Handler.ofExcept (bodyCoaId body) >>= closeLoop w a) (w.proposedIn s) := rfl
  rw [hdemo]
  cases hproposed : gateProposals (w.env 1) a.proposal (w.proposedIn s) with
  | mk result t =>
    cases result with
    | error e =>
      rw [Handler.bind_error hproposed]
      refine ⟨⟨nofun, ?_⟩, nofun⟩
      rintro ⟨⟨body, hbody, -⟩, -⟩
      rw [hproposed] at hbody
      cases hbody
    | ok body =>
      rw [Handler.bind_ok hproposed]
      cases hstatus : hasStatus body "QUEUED" with
      | false =>
        refine ⟨⟨nofun, ?_⟩, nofun⟩
        rintro ⟨⟨body', hbody, hqueued⟩, -⟩
        rw [hproposed] at hbody
        cases hbody
        rw [hstatus] at hqueued
        cases hqueued
      | true =>
        obtain ⟨k, hid, hdraws, hwaiting⟩ :=
          gateProposals_waiting hproposed hstatus a.proposal_rawCoa horder hfresh
        obtain ⟨u, hclose, hclosed⟩ := closeLoop_closed hw hdraws hwaiting
        have hqueues : w.Queues a s := ⟨body, by rw [hproposed], hstatus⟩
        simp only [Bool.not_true, Bool.false_eq_true, if_false, hid, Handler.ofExcept_ok_bind,
          hclose]
        refine ⟨?_, fun _ => ⟨k, hdraws, hclosed⟩⟩
        by_cases hlate : a.requireRoundtrip = true ∧ w.late = true <;> simp [hlate, hqueues]

end

/-- The scenario that drafts a cue. -/
def cueScenario : Scenario Whole Unit :=
  { trojanScenario with
    id := "S2_osint_swarm"
    buildCoa := fun _ _ _ => .ok (demoCoa "coa-cue" "CUE_AND_IDENTIFY" .tier1Hitl) }

/-- What a request finds whose ids begin with a word. -/
def cueEnv (word : String) : Env Whole Unit Unit :=
  { demoEnv (fun _ _ => none) with
    uuid4 := fun i => word ++ toString i
    getScenario := fun id =>
      if word = "demo-" ∧ id = "S2_osint_swarm" then .ok cueScenario else .error (.keyError id) }

theorem cueEnv_draws {word id : String} (h : (cueEnv word).Draws id) :
    id = word ++ "3" ∨ id = "coa-cue" ∧ word = "demo-" := by
  rcases h with h | ⟨scenarioId, scenario, _, _, _, coa, hscenario, hcoa, rfl⟩ |
    ⟨_, _, _, _, _, hresult, _⟩
  · exact Or.inl h
  · simp only [cueEnv] at hscenario
    split at hscenario
    case isTrue hword =>
      cases hscenario
      cases hcoa
      exact Or.inr ⟨rfl, hword.1⟩
    · cases hscenario
  · cases hresult

/-- What others ask during the demo: they have an entry approved and acknowledged, and queue it
again. -/
def otherRequest : Nat → Option (Request Whole)
  | 0 => some (propose (demoCoa "coa-cue" "INSPECT" .tier1Hitl))
  | 1 => some (propose (demoCoa "b" "INSPECT" .tier1Hitl))
  | 2 => some (.approve ⟨"b", "yes", "op"⟩)
  | 4 => some (.ack ⟨"b", "u1", none, "ACKED", "", []⟩)
  | 5 => some (propose (demoCoa "b" "INSPECT" .tier1Hitl))
  | _ => none

/-- A demo among others. -/
def busyWorld : DemoWorld Whole Unit Unit :=
  { others := fun i => (otherRequest i).toList.map fun req => .request ⟨cueEnv "other-", req⟩
    env := fun _ => cueEnv "demo-"
    late := false }

/-- A request of the others is about "b". -/
theorem otherRequest_unconcerned [Sha256] {k : String} (hk : (cueEnv "demo-").Draws k) {i : Nat}
    (hi : 0 < i) {req : Request Whole} (hreq : otherRequest i = some req) :
    Unconcerned k ⟨cueEnv "other-", req⟩ := by
  have hdrawn := cueEnv_draws hk
  have hb : "b" ≠ k := by rcases hdrawn with rfl | ⟨rfl, -⟩ <;> decide
  have hdraws : ¬ (cueEnv "other-").Draws k := by
    intro h
    rcases cueEnv_draws h with rfl | ⟨-, hword⟩
    · rcases hdrawn with hk | ⟨hk, -⟩ <;> exact absurd hk (by decide)
    · exact absurd hword (by decide)
  have hpairs : (cueEnv "other-").uuid4 1 ≠ k := by
    rcases hdrawn with rfl | ⟨rfl, -⟩ <;> decide
  unfold otherRequest at hreq
  split at hreq <;> cases hreq
  case h_1 => exact absurd hi (by decide)
  all_goals
    refine ⟨by simp [Request.IsReset, propose], fun records h => ?_, fun r h => ?_, fun r h => ?_,
      fun coa h => ?_, hdraws, hpairs⟩
    · cases h
    all_goals
      cases h <;> exact hb

theorem busyWorld_peaceful [Sha256] : busyWorld.Peaceful := by
  refine ⟨fun _ _ _ => rfl, fun op hop => ?_, fun i hi k hk op hop => ?_⟩
  · obtain ⟨req, hreq, rfl⟩ := List.mem_map.mp hop
    obtain rfl := Option.some.inj (Option.mem_toList.mp hreq)
    exact fun records h => by cases h
  · obtain ⟨req, hreq, rfl⟩ := List.mem_map.mp hop
    exact otherRequest_unconcerned hk hi (Option.mem_toList.mp hreq)

/-- The demo of the warning picture. -/
def cueDemo : DemoArgs := ⟨"S2_osint_swarm", "CUE-NODE-01", "demo-operator", true, false, false⟩

/-- Among others the demo ends well, in time. -/
theorem runDemo_closes_among_others :
    letI := plainHash
    (runDemo Unit busyWorld cueDemo demoServer).1 = .ok 0 ∧
      ∃ k, (cueEnv "demo-").Draws k ∧
        Closed k (runDemo Unit busyWorld cueDemo demoServer).2.gate := by
  let := plainHash
  have hqueues : busyWorld.Queues cueDemo demoServer := by
    have hanswer : (gateProposals (busyWorld.env 1) cueDemo.proposal
        (busyWorld.proposedIn demoServer)).1.toOption.any (hasStatus · "QUEUED") = true := by
      decide +kernel
    unfold DemoWorld.Queues
    cases hbody : (gateProposals (busyWorld.env 1) cueDemo.proposal
        (busyWorld.proposedIn demoServer)).1 with
    | error e =>
      rw [hbody] at hanswer
      cases hanswer
    | ok body =>
      rw [hbody] at hanswer
      exact ⟨body, rfl, hanswer⟩
  obtain ⟨hiff, hclosed⟩ := runDemo_closes (a := cueDemo) busyWorld_peaceful
    (s := demoServer) AuditTrail.live_empty fun r hr => absurd hr List.not_mem_nil
  have hok := hiff.mpr ⟨hqueues, fun h => Bool.false_ne_true h.2⟩
  exact ⟨hok, hclosed hok⟩

end NexusC2

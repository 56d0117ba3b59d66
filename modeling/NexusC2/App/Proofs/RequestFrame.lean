import NexusC2.App.Proofs.IngressFrame

/-!
# What a request can touch

Besides loading a scenario, a request does a few things to a runtime: it appends records, puts
entries into the gate's maps and the database, changes the interlock and resets. An invariant that
each of these keeps (`Framed`) is kept by every request whose scenario loads keep it.
-/

namespace NexusC2

open Handler (Keeps)

section

variable {F Obs G : Type} [PyFloatOps F] [Sha256] [EntityGraph F Obs G]

/-- What a request does besides loading a scenario keeps the invariant. -/
structure Framed (Obs : Type) [EntityGraph F Obs G] (I : C2Runtime F G → Prop) : Prop where
  append (s : C2Runtime F G) (name severity time : String) (data : Fields F) :
    I s → I { s with audit := (s.audit.append name severity time data).2 }
  replaceRecords (s : C2Runtime F G) (records : List (Record F)) :
    I s → I { s with audit := AuditTrail.replaceRecords records }
  noteVerified (s : C2Runtime F G) (coa : CourseOfAction F) (ok : Bool) :
    I s → I (s.noteVerified coa ok)
  setInterlock (s : C2Runtime F G) (i : DeterministicInterlock F) : I s → I (s.setInterlock i)
  lastGuardrail (s : C2Runtime F G) (v : Option (Json F)) : I s → I { s with lastGuardrail := v }
  queue (s : C2Runtime F G) (k : String) (p : Pending F) :
    I s → I ((s.queue k p).persistProposal k p)
  issue (s : C2Runtime F G) (k : String) (t : Tasking F) :
    I s → I ((s.issue k t).persistInboxItem k t)
  drop (s : C2Runtime F G) (k : String) : I s → I { s with
    proposals := s.proposals.erase k
    store := s.store.deleteProposal k }
  acknowledge (s : C2Runtime F G) (k : String) (t : Tasking F) : I s →
    I (({ s with
      acked := insert k s.acked
      inbox := s.inbox.set k t } : C2Runtime F G).persistAcked k |>.persistInboxItem k t)
  reset (s : C2Runtime F G) : I s → I (s.reset Obs)

/-- The same of a request that is served with these things, as far as it reads them. -/
structure FramedIn (env : Env F Obs G) (I : C2Runtime F G → Prop) : Prop where
  append (s : C2Runtime F G) (name severity time : String) (data : Fields F) :
    I s → I { s with audit := (s.audit.append name severity time data).2 }
  replaceRecords (s : C2Runtime F G) (records : List (Record F)) :
    I s → I { s with audit := AuditTrail.replaceRecords records }
  noteVerified (s : C2Runtime F G) (coa : CourseOfAction F) (ok : Bool) :
    I s → I (s.noteVerified coa ok)
  refresh (s : C2Runtime F G) (pois : List (Poi F)) (h : env.loadPois = .ok pois) :
    I s → I (s.setInterlock (s.policy.interlock.setCniPois pois))
  activate (s : C2Runtime F G) (coa : CourseOfAction F) :
    I s → I (s.setInterlock (s.policy.interlock.registerActive coa))
  lastGuardrail (s : C2Runtime F G) (v : Option (Json F)) : I s → I { s with lastGuardrail := v }
  queue (s : C2Runtime F G) (k : String) (p : Pending F) :
    I s → I ((s.queue k p).persistProposal k p)
  issue (s : C2Runtime F G) (k : String) (t : Tasking F) :
    I s → I ((s.issue k t).persistInboxItem k t)
  drop (s : C2Runtime F G) (k : String) : I s → I { s with
    proposals := s.proposals.erase k
    store := s.store.deleteProposal k }
  acknowledge (s : C2Runtime F G) (k : String) (t : Tasking F) : I s →
    I (({ s with
      acked := insert k s.acked
      inbox := s.inbox.set k t } : C2Runtime F G).persistAcked k |>.persistInboxItem k t)
  reset (s : C2Runtime F G) : I s → I (s.reset Obs)

/-- An invariant of the requests is one whatever they are served with. -/
theorem Framed.framedIn {I : C2Runtime F G → Prop} (hI : Framed Obs I) (env : Env F Obs G) :
    FramedIn env I where
  append := hI.append
  replaceRecords := hI.replaceRecords
  noteVerified := hI.noteVerified
  refresh s pois _ := hI.setInterlock s (s.policy.interlock.setCniPois pois)
  activate s coa := hI.setInterlock s (s.policy.interlock.registerActive coa)
  lastGuardrail := hI.lastGuardrail
  queue := hI.queue
  issue := hI.issue
  drop := hI.drop
  acknowledge := hI.acknowledge
  reset := hI.reset

theorem Framed.audit {I : C2Runtime F G → Prop} (hI : Framed Obs I) (env : Env F Obs G) (i : Nat)
    (name severity : String) (data : Fields F) : Keeps I (auditAppend env i name severity data) :=
  auditAppend_keeps env i name severity data fun s time => hI.append s name severity time data

/-- The request loads the scenario. -/
def Request.Loads : Request F → String → Prop
  | .interpret req, scenarioId => req.scenarioId = scenarioId
  | .proposals req, scenarioId => req.scenarioId.getD "" = scenarioId ∧ scenarioId ≠ ""
  | .guardrail req, scenarioId => req.scenarioId = scenarioId
  | .verifyPropose id _, scenarioId => id = scenarioId
  | .verifyGuardrail id _ _, scenarioId => id = scenarioId
  | _, _ => False

section

variable {I : C2Runtime F G → Prop} (env : Env F Obs G) (hI : FramedIn env I)

include hI

theorem FramedIn.audit (i : Nat) (name severity : String) (data : Fields F) :
    Keeps I (auditAppend env i name severity data) :=
  auditAppend_keeps env i name severity data fun s time => hI.append s name severity time data

theorem FramedIn.verify (timeout : F) (coa : CourseOfAction F) : Keeps I (gateVerify timeout coa) := by
  unfold gateVerify
  refine .bind .get fun s => ?_
  refine .bind .ofExcept fun (ok, reason) => ?_
  exact .bind (.modify fun s => hI.noteVerified s coa ok) fun _ => .pure

theorem FramedIn.refreshPois : Keeps I (refreshPois env) := by
  unfold NexusC2.refreshPois
  split
  · exact .modify fun s => hI.refresh s _ ‹_›
  · exact .pure
  · exact .raise

omit [Sha256] hI in
theorem loadScenario_keeps {scenarioId : String} (hload : Keeps I (ingestScenario env scenarioId))
    (timeout : F) : Keeps I (loadScenario env scenarioId timeout) := by
  unfold loadScenario
  refine .bind hload fun finding => ?_
  refine .bind .ofExcept fun scenario => ?_
  refine .bind .get fun s => ?_
  exact .bind .ofExcept fun coa => .pure

omit [Sha256] hI in
theorem interpretScenario_keeps {scenarioId : String}
    (hload : Keeps I (ingestScenario env scenarioId)) (timeout : F) (forceHeuristic : Bool) :
    Keeps I (interpretScenario env scenarioId timeout forceHeuristic) := by
  unfold interpretScenario
  refine .bind hload fun _ => ?_
  refine .bind .get fun s => ?_
  cases s.finding with
  | none => exact .raise
  | some finding => exact .bind .ofExcept fun result => .pure

omit [Sha256] hI in
theorem proposedCoa_keeps {req : ProposalRequest F}
    (hload : ∀ id, (Request.proposals req).Loads id → Keeps I (ingestScenario env id)) :
    Keeps I (proposedCoa env req) := by
  unfold proposedCoa
  refine .bind .get fun s => ?_
  dsimp only
  split
  · rename_i h
    refine .bind (keyErrorAs404_keeps (interpretScenario_keeps env (hload _ ⟨rfl, h.1⟩) _ _)) ?_
    exact fun result => .pure
  split
  · rename_i h
    exact .bind (loadScenario_keeps env (hload _ ⟨rfl, h⟩) _) fun coa => .pure
  split
  · exact .pure
  · exact .raise

theorem interpretPicture_keeps {req : InterpretRequest F}
    (hload : Keeps I (ingestScenario env req.scenarioId)) : Keeps I (interpretPicture env req) := by
  unfold interpretPicture
  refine .bind .get fun s => ?_
  refine .bind (keyErrorAs404_keeps (interpretScenario_keeps env hload _ _)) fun result => ?_
  refine .bind (hI.audit env _ _ _ _) fun _ => ?_
  exact .bind .get fun _ => .pure

theorem gateProposals_keeps {req : ProposalRequest F}
    (hload : ∀ id, (Request.proposals req).Loads id → Keeps I (ingestScenario env id)) :
    Keeps I (gateProposals env req) := by
  unfold gateProposals
  refine .bind .get fun s => ?_
  refine .bind (proposedCoa_keeps env hload) fun (coa, interpretation) => ?_
  refine .bind (hI.verify env _ coa) fun (ok, reason) => ?_
  dsimp only
  split
  · exact .bind (hI.audit env _ _ _ _) fun _ => .pure
  split
  · refine .modify_modify (fun s => hI.issue s _ _) ?_
    refine .bind (.modify fun s => hI.activate s _) fun _ => ?_
    refine .bind (hI.audit env _ _ _ _) fun _ => ?_
    exact .bind .get fun _ => .pure
  · refine .modify_modify (fun s => hI.queue s _ _) ?_
    refine .bind .get fun _ => ?_
    exact .bind (hI.audit env _ _ _ _) fun _ => .pure

theorem guardrail_keeps {req : GuardrailDemoRequest F}
    (hload : Keeps I (ingestScenario env req.scenarioId)) :
    Keeps I (gateDemoEvaluateWithGuardrail env req) := by
  unfold gateDemoEvaluateWithGuardrail
  refine .bind .get fun s => ?_
  refine .bind (hI.refreshPois env) fun _ => ?_
  refine .bind (loadScenario_keeps env hload _) fun loaded => ?_
  refine .bind (hI.verify env _ _) fun (ok, reason) => ?_
  refine .bind .get fun s => ?_
  refine .bind .ofExcept fun fallback => ?_
  refine .bind (hI.verify env _ _) fun (okB, reasonB) => ?_
  dsimp only
  split
  · exact .raise
  · refine .modify_modify (fun s => hI.queue s _ _) ?_
    refine .bind (hI.audit env _ _ _ _) fun _ => ?_
    exact .bind .get fun _ => .pure

theorem issueUnits_keeps (req : ApproveRequest) (d : SealedDecision F) (index : Nat)
    (units : List String) : Keeps I (issueUnits env req d index units) := by
  induction units generalizing index with
  | nil => exact .pure
  | cons uid units ih =>
    refine .modify_modify (fun s => hI.issue s _ _) ?_
    exact .bind (hI.audit env _ _ _ _) fun _ => ih (index + 1)

theorem gateApprove_keeps (req : ApproveRequest) : Keeps I (gateApprove env req) := by
  unfold gateApprove
  refine .bind .get fun s => ?_
  refine .bind .ofExcept fun d => ?_
  refine .modify_modify (fun s => hI.drop s _) ?_
  refine .bind (hI.audit env _ _ _ _) fun _ => ?_
  dsimp only
  split
  · refine .bind (issueUnits_keeps env hI _ _ _ _) fun _ => ?_
    exact .bind (.modify fun s => hI.activate s _) fun _ => .pure
  · exact .pure

theorem recipientAck_keeps (req : AckRequest F) : Keeps I (recipientAck env req) := by
  unfold recipientAck
  refine .bind .get fun s => ?_
  split
  · exact .raise
  · split
    · exact .raise
    · -- the four writes are one change
      intro t ht
      exact (Keeps.bind (hI.audit env _ _ _ _) fun _ => Keeps.pure) _ (hI.acknowledge t _ _ ht)

theorem proposeForm_keeps {scenarioId : String} (hload : Keeps I (ingestScenario env scenarioId))
    (unitId : String) : Keeps I (verifyPropose env scenarioId unitId) := by
  refine caught_keeps (.bind (loadScenario_keeps env hload _) fun coa => ?_)
  refine .modify_modify (fun s => hI.queue s _ _) ?_
  exact .bind (hI.audit env _ _ _ _) fun _ => .pure

theorem guardrailForm_keeps {scenarioId : String} (hload : Keeps I (ingestScenario env scenarioId))
    (unitId navyUnitId : String) : Keeps I (verifyGuardrail env scenarioId unitId navyUnitId) := by
  refine caught_keeps (.bind (guardrail_keeps env hI hload) fun result => ?_)
  exact .bind (.modify fun s => hI.lastGuardrail s _) fun _ => .pure

end

omit [PyFloatOps F] [Sha256] in
/-- Ingesting observations is ingesting them into the graph. -/
theorem forEach_ingest_zoom (os : List Obs) :
    (Handler.forEach (fun o => do let _ ← C2Runtime.ingest o) os : C2Handler F G Unit) =
      Handler.zoom (fun s => s.graph) (fun s g => { s with graph := g })
        (Handler.forEach (fun o => do let _ ← EntityGraph.ingest F o) os) := by
  rw [← Handler.forEach_zoom (fun s : C2Runtime F G => s.graph) (fun s g => { s with graph := g })
    (fun _ => rfl) (fun _ _ => rfl) fun _ _ _ => rfl]
  refine congrArg (Handler.forEach · os) ?_
  funext o
  exact Handler.zoom_bind_pure _ _ _ _

omit [PyFloatOps F] [Sha256] in
/-- Whether a scenario can be loaded does not depend on the server. -/
theorem ingestScenario_outcome (env : Env F Obs G)
    (scenarioId : String) (s t : C2Runtime F G) :
    (ingestScenario env scenarioId s).1 = (ingestScenario env scenarioId t).1 := by
  unfold ingestScenario
  cases env.getScenario scenarioId with
  | error e => rfl
  | ok scenario =>
    simp only [Handler.ofExcept_ok_bind, Handler.modify_bind]
    -- from here on the two servers have the same graph
    have hagree (m : C2Handler F G (Finding F)) (s t : C2Runtime F G) (hst : s.graph = t.graph)
        (h : Handler.Agree (fun s t => s.graph = t.graph) m m) : (m s).1 = (m t).1 := (h s t hst).1
    refine hagree _ _ _ rfl ?_
    refine .bind .ofExcept fun events => ?_
    refine .bind .ofExcept fun observations => ?_
    refine .bind (.forEach (fun o => ?_) observations) fun _ => ?_
    · exact .bind (.zoom (fun _ _ h => h) fun _ _ _ _ => rfl) fun _ => .pure
    refine .bind (.modify fun _ _ h => h) fun _ => ?_
    refine .get_bind fun s t hgraph => ?_
    rw [hgraph]
    refine .bind .ofExcept fun finding => ?_
    refine .bind (.modify fun _ _ h => h) fun _ => ?_
    cases finding with
    | none => exact .raise
    | some finding => exact .bind (.modify fun _ _ h => h) fun _ => .pure

/-- An invariant of this kind is kept by every request whose scenario loads keep it. -/
theorem FramedIn.serve {I : C2Runtime F G → Prop} {r : Served F Obs G} (hI : FramedIn r.env I)
    (hload : ∀ id, r.req.Loads id → Keeps I (ingestScenario r.env id)) {s : C2Runtime F G}
    (hs : I s) : I (serve s r) := by
  obtain ⟨env, req⟩ := r
  unfold NexusC2.serve handle
  cases req <;> dsimp only <;> rw [respond_snd]
  case interpret req => exact (interpretPicture_keeps env hI (hload _ rfl)).snd hs
  case proposals req => exact (gateProposals_keeps env hI hload).snd hs
  case guardrail req => exact (guardrail_keeps env hI (hload _ rfl)).snd hs
  case approve req => exact (gateApprove_keeps env hI req).snd hs
  case ack req => exact (recipientAck_keeps env hI req).snd hs
  case reset => exact hI.reset s hs
  case verifyPropose scenarioId unitId =>
    exact (proposeForm_keeps env hI (hload _ rfl) unitId).snd hs
  case verifyApprove coaId decision =>
    exact (caught_keeps (.bind (gateApprove_keeps env hI _) fun _ => .pure)).snd hs
  case verifyGuardrail scenarioId unitId navyUnitId =>
    exact (guardrailForm_keeps env hI (hload _ rfl) unitId navyUnitId).snd hs
  case verifyAck coaId unitId =>
    exact (caught_keeps (.bind (recipientAck_keeps env hI _) fun _ => .pure)).snd hs
  case verifyReset => exact hI.lastGuardrail _ none (hI.reset s hs)
  case auditSnapshot records => exact hI.replaceRecords s records hs

theorem Framed.serve {I : C2Runtime F G → Prop} (hI : Framed Obs I) (r : Served F Obs G)
    (hload : ∀ id, r.req.Loads id → Keeps I (ingestScenario r.env id)) {s : C2Runtime F G}
    (hs : I s) : I (NexusC2.serve s r) :=
  (hI.framedIn r.env).serve hload hs

end

end NexusC2

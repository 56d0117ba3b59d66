import NexusC2.App.Proofs.Rehydration

/-!
# Answers do not depend on the trail

The handlers append to the trail and do not read it. Two servers that differ in their trails alone
(and in the log of the gate, which is no part of the program) answer every request of the gate, of
the recipients and of ingress alike, except for the hash of the record in the answer to an
acknowledgement, and differ in their trails alone afterwards (`handle_blind`, `handleIngress_blind`,
`restart_blind`).
-/

namespace NexusC2

open Handler (Agree)

section

variable {F Obs G : Type}

/-- The second server is the first one with another trail and another log. -/
def C2Runtime.SameButTrail (s t : C2Runtime F G) : Prop :=
  ∃ audit log, t = { s with audit := audit, log := log }

/-- The handler ends alike on servers that differ in their trails, and leaves such servers. -/
def Blind {α : Type} (m : C2Handler F G α) : Prop := Agree C2Runtime.SameButTrail m m

namespace Blind

variable {α β : Type}

theorem pure {a : α} : Blind (Pure.pure a : C2Handler F G α) := Agree.pure

theorem raise {e : Exc} : Blind (Handler.raise e : C2Handler F G α) := Agree.raise

theorem ofExcept {r : Except Exc α} : Blind (Handler.ofExcept r : C2Handler F G α) := Agree.ofExcept

theorem bind {m : C2Handler F G α} {f : α → C2Handler F G β} (hm : Blind m)
    (hf : ∀ a, Blind (f a)) : Blind (m >>= f) := Agree.bind hm hf

theorem tryCatch {m : C2Handler F G α} {h : Exc → C2Handler F G α} (hm : Blind m)
    (hh : ∀ e, Blind (h e)) : Blind (Handler.tryCatch m h) := Agree.tryCatch hm hh

theorem modify {f : C2Runtime F G → C2Runtime F G}
    (h : ∀ s audit log, (f s).SameButTrail (f { s with audit := audit, log := log })) :
    Blind (Handler.modify f) := by
  refine Agree.modify ?_
  rintro s _ ⟨audit, log, rfl⟩
  exact h s audit log

theorem of_stateless {m : C2Handler F G α} (h : Handler.Stateless m) : Blind m :=
  Agree.of_stateless h

/-- What is done with a part of the state that both have. -/
theorem get_bind {f : C2Runtime F G → C2Handler F G β}
    (h : ∀ s audit log,
      Agree C2Runtime.SameButTrail (f s) (f { s with audit := audit, log := log })) :
    Blind (Handler.get >>= f) := by
  refine Agree.get_bind ?_
  rintro s _ ⟨audit, log, rfl⟩
  exact h s audit log

theorem forEach {γ : Type} {f : γ → C2Handler F G Unit} (h : ∀ x, Blind (f x)) (xs : List γ) :
    Blind (Handler.forEach f xs) := Agree.forEach h xs

theorem mapEach {γ : Type} {f : γ → C2Handler F G α} (h : ∀ x, Blind (f x)) (xs : List γ) :
    Blind (Handler.mapEach f xs) := Agree.mapEach h xs

end Blind

theorem blind_caught {kinds : Exc → Bool} {m : C2Handler F G Page} (h : Blind m) :
    Blind (caught kinds m) := agree_caught h

end

section

variable {F Obs G : Type} [PyFloatOps F] [Sha256] [EntityGraph F Obs G]

omit [EntityGraph F Obs G] in
/-- An append, where what follows ends alike whatever the record. -/
theorem agree_auditAppend_bind {α : Type} (env : Env F Obs G) (i : Nat) (name severity : String)
    (data : Fields F) {f g : Record F → C2Handler F G α}
    (h : ∀ r r', Agree C2Runtime.SameButTrail (f r) (g r')) :
    Agree C2Runtime.SameButTrail (auditAppend env i name severity data >>= f)
      (auditAppend env i name severity data >>= g) := by
  rintro s _ ⟨audit, log, rfl⟩
  have hs := auditAppend_apply env i name severity data s
  have ht := auditAppend_apply env i name severity data { s with audit := audit, log := log }
  cases hraises : env.appendRaises name i with
  | some e =>
    rw [hraises] at hs ht
    rw [Handler.bind_error hs, Handler.bind_error ht]
    exact ⟨rfl, audit, log, rfl⟩
  | none =>
    rw [hraises] at hs ht
    rw [Handler.bind_ok hs, Handler.bind_ok ht]
    exact h _ _ _ _ ⟨_, _, rfl⟩

omit [EntityGraph F Obs G] in
theorem blind_auditAppend_bind {α : Type} (env : Env F Obs G) (i : Nat) (name severity : String)
    (data : Fields F) {m : C2Handler F G α} (h : Blind m) :
    Blind (auditAppend env i name severity data >>= fun _ => m) :=
  agree_auditAppend_bind env i name severity data fun _ _ => h

/-! ## Requests -/

omit [Sha256] [EntityGraph F Obs G] in
theorem blind_gateVerify (timeout : F) (coa : CourseOfAction F) :
    Blind (gateVerify (G := G) timeout coa) := by
  refine .get_bind fun s audit log => ?_
  refine Blind.bind .ofExcept fun (ok, reason) => ?_
  exact .bind (.modify fun s audit log => ⟨_, _, rfl⟩) fun _ => .pure

omit [PyFloatOps F] [Sha256] in
theorem blind_ingest (o : Obs) : Blind (C2Runtime.ingest o : C2Handler F G String) := by
  refine Agree.zoom ?_ ?_
  · rintro s _ ⟨audit, log, rfl⟩
    rfl
  · rintro s _ g ⟨audit, log, rfl⟩
    exact ⟨audit, log, rfl⟩

omit [PyFloatOps F] [Sha256] in
theorem blind_ingestScenario (env : Env F Obs G) (scenarioId : String) :
    Blind (ingestScenario env scenarioId) := by
  refine .bind .ofExcept fun scenario => ?_
  refine .bind (.modify fun s audit log => ⟨_, _, rfl⟩) fun _ => ?_
  refine .bind .ofExcept fun events => ?_
  refine .bind .ofExcept fun observations => ?_
  refine .bind (.forEach (fun o => .bind (blind_ingest o) fun _ => .pure) _) fun _ => ?_
  refine .bind (.modify fun s audit log => ⟨_, _, rfl⟩) fun _ => ?_
  refine .get_bind fun s audit log => ?_
  refine Blind.bind .ofExcept fun finding => ?_
  refine .bind (.modify fun s audit log => ⟨_, _, rfl⟩) fun _ => ?_
  cases finding with
  | none => exact .raise
  | some finding => exact .bind (.modify fun s audit log => ⟨_, _, rfl⟩) fun _ => .pure

omit [Sha256] in
theorem blind_loadScenario (env : Env F Obs G) (scenarioId : String) (timeout : F) :
    Blind (loadScenario env scenarioId timeout) := by
  refine .bind (blind_ingestScenario env scenarioId) fun finding => ?_
  refine .bind .ofExcept fun scenario => ?_
  refine .get_bind fun s audit log => ?_
  exact Blind.bind .ofExcept fun coa => .pure

omit [Sha256] in
theorem blind_interpretScenario (env : Env F Obs G) (scenarioId : String) (timeout : F)
    (forceHeuristic : Bool) : Blind (interpretScenario env scenarioId timeout forceHeuristic) := by
  refine .bind (blind_ingestScenario env scenarioId) fun _ => ?_
  refine .get_bind fun s audit log => ?_
  dsimp only
  cases s.finding with
  | none => exact Blind.raise
  | some finding => exact Blind.bind .ofExcept fun result => .pure

omit [PyFloatOps F] [Sha256] [EntityGraph F Obs G] in
theorem blind_keyErrorAs404 {α : Type} {m : C2Handler F G α} (h : Blind m) :
    Blind (keyErrorAs404 m) :=
  .tryCatch h fun e => by cases e <;> exact Agree.raise

theorem blind_interpretPicture (env : Env F Obs G) (req : InterpretRequest F) :
    Blind (interpretPicture env req) := by
  refine .get_bind fun s audit log => ?_
  refine Blind.bind (blind_keyErrorAs404 (blind_interpretScenario env _ _ _)) fun result => ?_
  refine blind_auditAppend_bind _ _ _ _ _ ?_
  exact .get_bind fun s audit log => Blind.pure

omit [Sha256] in
theorem blind_proposedCoa (env : Env F Obs G) (req : ProposalRequest F) :
    Blind (proposedCoa env req) := by
  refine .get_bind fun s audit log => ?_
  dsimp only
  split
  · exact Blind.bind (blind_keyErrorAs404 (blind_interpretScenario env _ _ _)) fun _ => .pure
  split
  · exact Blind.bind (blind_loadScenario env _ _) fun _ => .pure
  cases req.coa with
  | none => exact Blind.raise
  | some coa => exact Blind.pure

theorem blind_gateProposals (env : Env F Obs G) (req : ProposalRequest F) :
    Blind (gateProposals env req) := by
  refine .get_bind fun s audit log => ?_
  refine Blind.bind (blind_proposedCoa env req) fun (coa, interpretation) => ?_
  refine .bind (blind_gateVerify _ coa) fun (ok, reason) => ?_
  dsimp only
  split
  · exact blind_auditAppend_bind _ _ _ _ _ .pure
  split
  · refine .bind (.modify fun s audit log => ⟨_, _, rfl⟩) fun _ => ?_
    refine .bind (.modify fun s audit log => ⟨_, _, rfl⟩) fun _ => ?_
    refine .bind (.modify fun s audit log => ⟨_, _, rfl⟩) fun _ => ?_
    refine blind_auditAppend_bind _ _ _ _ _ ?_
    exact .get_bind fun s audit log => Blind.pure
  · refine .bind (.modify fun s audit log => ⟨_, _, rfl⟩) fun _ => ?_
    refine .bind (.modify fun s audit log => ⟨_, _, rfl⟩) fun _ => ?_
    refine .get_bind fun s audit log => ?_
    exact blind_auditAppend_bind _ _ _ _ _ .pure

omit [PyFloatOps F] [Sha256] [EntityGraph F Obs G] in
theorem blind_refreshPois (env : Env F Obs G) : Blind (refreshPois env) := by
  unfold refreshPois
  split
  · exact .modify fun s audit log => ⟨_, _, rfl⟩
  · exact .pure
  · exact .raise

theorem blind_guardrail (env : Env F Obs G) (req : GuardrailDemoRequest F) :
    Blind (gateDemoEvaluateWithGuardrail env req) := by
  refine .get_bind fun s audit log => ?_
  refine Blind.bind (blind_refreshPois env) fun _ => ?_
  refine .bind (blind_loadScenario env _ _) fun loaded => ?_
  refine .bind (blind_gateVerify _ _) fun (ok, reason) => ?_
  refine .get_bind fun s audit log => ?_
  refine Blind.bind .ofExcept fun fallback => ?_
  refine .bind (blind_gateVerify _ _) fun (okB, reasonB) => ?_
  dsimp only
  split
  · exact Blind.raise
  · refine Blind.bind (.modify fun s audit log => ⟨_, _, rfl⟩) fun _ => ?_
    refine .bind (.modify fun s audit log => ⟨_, _, rfl⟩) fun _ => ?_
    refine blind_auditAppend_bind _ _ _ _ _ ?_
    exact .get_bind fun s audit log => Blind.pure

omit [EntityGraph F Obs G] in
theorem blind_issueUnits (env : Env F Obs G) (req : ApproveRequest) (d : SealedDecision F)
    (index : Nat) (units : List String) : Blind (issueUnits env req d index units) := by
  induction units generalizing index with
  | nil => exact .pure
  | cons uid units ih =>
    refine .bind (.modify fun s audit log => ⟨_, _, rfl⟩) fun _ => ?_
    refine .bind (.modify fun s audit log => ⟨_, _, rfl⟩) fun _ => ?_
    exact blind_auditAppend_bind _ _ _ _ _ (ih (index + 1))

omit [EntityGraph F Obs G] in
theorem blind_gateApprove (env : Env F Obs G) (req : ApproveRequest) :
    Blind (gateApprove env req) := by
  refine .get_bind fun s audit log => ?_
  refine Blind.bind .ofExcept fun d => ?_
  refine .bind (.modify fun s audit log => ⟨_, _, rfl⟩) fun _ => ?_
  refine .bind (.modify fun s audit log => ⟨_, _, rfl⟩) fun _ => ?_
  refine blind_auditAppend_bind _ _ _ _ _ ?_
  dsimp only
  split
  · refine .bind (blind_issueUnits env req d _ _) fun _ => ?_
    exact .bind (.modify fun s audit log => ⟨_, _, rfl⟩) fun _ => .pure
  · exact .pure

/-- The answer to an acknowledgement, whose `audit_hash` is the hash of its record. -/
def ackAnswer (ack : AckRecord F) (hash : Json F) : Json F :=
  .obj [("status", .str "ACKED"), ("ack", .obj ack.toFields), ("audit_hash", hash)]

omit [EntityGraph F Obs G] in
/-- An acknowledgement, where what follows ends alike whatever the hash. -/
theorem agree_recipientAck_bind {α : Type} (env : Env F Obs G) (req : AckRequest F)
    {f : Json F → C2Handler F G α}
    (h : ∀ ack hash hash', Agree C2Runtime.SameButTrail (f (ackAnswer ack hash))
      (f (ackAnswer ack hash'))) :
    Blind (recipientAck env req >>= f) := by
  unfold recipientAck
  rw [Handler.bind_assoc]
  refine .get_bind fun s audit log => ?_
  dsimp only
  cases s.inbox.get req.coaId with
  | none => exact Blind.raise
  | some tasking =>
    by_cases hunit : tasking.unitId ≠ req.unitId
    · simp only [if_pos hunit]
      exact Blind.raise
    · simp only [if_neg hunit, Handler.bind_assoc]
      refine Blind.bind (.modify fun s audit log => ⟨_, _, rfl⟩) fun _ => ?_
      refine .bind (.modify fun s audit log => ⟨_, _, rfl⟩) fun _ => ?_
      refine .bind (.modify fun s audit log => ⟨_, _, rfl⟩) fun _ => ?_
      refine .bind (.modify fun s audit log => ⟨_, _, rfl⟩) fun _ => ?_
      exact agree_auditAppend_bind _ _ _ _ _ fun r r' => h _ _ _

/-! ## Ingress -/

omit [PyFloatOps F] [Sha256] in
theorem blind_ingestObservation (o : Obs) :
    Blind (ingestObservation o : C2Handler F G String) := by
  refine .bind (blind_ingest o) fun trackId => ?_
  exact .bind (.modify fun s audit log => ⟨_, _, rfl⟩) fun _ => .pure

omit [PyFloatOps F] [Sha256] [EntityGraph F Obs G] in
theorem blind_valueErrorAs400 {α : Type} {m : C2Handler F G α} (h : Blind m) :
    Blind (valueErrorAs400 m) :=
  .tryCatch h fun e => by cases e <;> exact Agree.raise

omit [PyFloatOps F] [Sha256] [EntityGraph F Obs G] in
theorem blind_feedErrorAs400 {α : Type} {m : C2Handler F G α} (h : Blind m) :
    Blind (feedErrorAs400 m) :=
  .tryCatch h fun e => by cases e <;> exact Agree.raise

theorem blind_ingressCandidateEvent (env : Env F Obs G) (a : Adapters F Obs)
    (req : CandidateEventIngressRequest F) : Blind (ingressCandidateEvent env a req) := by
  refine .bind (.of_stateless (candidateEvents_stateless a req)) fun (events, source) => ?_
  refine .bind (blind_valueErrorAs400 (.mapEach (fun event => ?_) _)) fun ingested => ?_
  · refine .bind .ofExcept fun obs => ?_
    refine .bind (blind_ingestObservation obs) fun trackId => ?_
    exact blind_auditAppend_bind _ _ _ _ _ .pure
  · cases ingested with
    | nil => exact .raise
    | cons first rest => exact .pure

theorem blind_ingestFeeds (env : Env F Obs G) (a : Adapters F Obs) (req : OpenFeedIngressRequest F)
    (source : Option String) (done : Nat) (feeds : List String) :
    Blind (ingestFeeds env a req source done feeds) := by
  induction feeds generalizing done with
  | nil => exact .pure
  | cons feed feeds ih =>
    refine .bind (blind_feedErrorAs400 .ofExcept) fun (observations, resolved) => ?_
    refine .bind (.mapEach (fun o => ?_) _) fun items => .bind (ih _) fun _ => .pure
    refine .bind (blind_ingestObservation o.1) fun trackId => ?_
    exact blind_auditAppend_bind _ _ _ _ _ .pure

theorem blind_ingressOpenFeed (env : Env F Obs G) (a : Adapters F Obs)
    (req : OpenFeedIngressRequest F) : Blind (ingressOpenFeed env a req) := by
  refine .bind (blind_valueErrorAs400 .ofExcept) fun feeds => ?_
  dsimp only
  split
  · exact .raise
  split
  · exact .raise
  refine .bind ?_ fun source => ?_
  · unfold openFeedSource
    split
    · exact .bind (blind_valueErrorAs400 .ofExcept) fun _ => .pure
    · exact .pure
  · split
    · exact .raise
    · exact .bind (blind_ingestFeeds env a req source 0 feeds) fun _ => .pure

omit [PyFloatOps F] [Sha256] in
theorem blind_reloadRows (env : Env F Obs G) (rows : List (Json F)) :
    Blind (reloadRows env rows) := by
  induction rows with
  | nil => exact .pure
  | cons row rows ih =>
    unfold reloadRows
    split
    · exact .bind (blind_ingestObservation _) fun _ => .bind ih fun _ => .pure
    · exact ih
    · exact ih
    · exact ih
    · exact .raise

omit [PyFloatOps F] [Sha256] in
theorem blind_ingressForm (env : Env F Obs G) (a : Adapters F Obs) (mode : String) :
    Blind (ingressForm env a mode) := by
  unfold ingressForm
  split
  · refine .bind .ofExcept fun (observations, source) => ?_
    dsimp only
    split
    · exact .raise
    · refine .bind (.forEach (fun o => ?_) _) fun _ => .pure
      exact .bind (blind_ingestObservation o) fun _ => .pure
  split
  · refine .bind .ofExcept fun rows => ?_
    exact .bind (blind_reloadRows env rows) fun _ => .pure
  · refine .bind .ofExcept fun ((events, source), label) => ?_
    dsimp only
    split
    · exact .raise
    · refine .bind (.forEach (fun payload => ?_) _) fun _ => .pure
      refine .bind .ofExcept fun obs => ?_
      exact .bind (blind_ingestObservation obs) fun _ => .pure

/-! ## Answers -/

omit [PyFloatOps F] [Sha256] [EntityGraph F Obs G] in
/-- The answer without the hash of a record of the trail. -/
def Response.apartFromTrail : Response F → Response F
  | .json (.obj fields) => .json (.obj (fields.filter fun p => p.1 ≠ "audit_hash"))
  | r => r

omit [PyFloatOps F] [Sha256] [EntityGraph F Obs G] in
theorem blind_respond {α : Type} {f : α → Response F} {m : C2Handler F G α} (h : Blind m)
    {s t : C2Runtime F G} (hst : s.SameButTrail t) :
    (respond f m s).1.apartFromTrail = (respond f m t).1.apartFromTrail ∧
      (respond f m s).2.SameButTrail (respond f m t).2 := by
  obtain ⟨hanswer, hleft⟩ := agree_respond (f := f) h hst
  exact ⟨congrArg Response.apartFromTrail hanswer, hleft⟩

omit [EntityGraph F Obs G] in
/-- Acknowledgements are answered alike but for the hash. -/
theorem blind_respond_ack (env : Env F Obs G) (req : AckRequest F) {s t : C2Runtime F G}
    (hst : s.SameButTrail t) :
    (respond .json (recipientAck env req) s).1.apartFromTrail =
        (respond .json (recipientAck env req) t).1.apartFromTrail ∧
      (respond .json (recipientAck env req) s).2.SameButTrail
        (respond .json (recipientAck env req) t).2 := by
  have hstripped : Blind (recipientAck env req >>= fun body =>
      Pure.pure (Response.json body).apartFromTrail) :=
    agree_recipientAck_bind env req fun ack hash hash' => Blind.pure
  have hanswer : ∀ s : C2Runtime F G,
      (((recipientAck env req >>= fun body => Pure.pure (Response.json body).apartFromTrail) s).1 =
        (recipientAck env req s).1.map fun body => (Response.json body).apartFromTrail) ∧
      ((recipientAck env req >>= fun body =>
        (Pure.pure (Response.json body).apartFromTrail : C2Handler F G _)) s).2 =
        (recipientAck env req s).2 := by
    intro s
    rw [Handler.bind_apply]
    split <;> rename_i hrun <;> rw [hrun] <;> exact ⟨rfl, rfl⟩
  obtain ⟨hout, hleft⟩ := hstripped s t hst
  rw [(hanswer s).1, (hanswer t).1] at hout
  rw [(hanswer s).2, (hanswer t).2] at hleft
  rw [respond_snd, respond_snd]
  refine ⟨?_, hleft⟩
  unfold respond
  cases hs : recipientAck env req s with
  | mk r s' =>
    cases ht : recipientAck env req t with
    | mk r' t' =>
      rw [hs, ht] at hout
      cases r with
      | error e =>
        cases r' with
        | error e' =>
          cases hout
          rfl
        | ok body' => cases hout
      | ok body =>
        cases r' with
        | error e' => cases hout
        | ok body' => exact Except.ok.inj hout

/-- A request is answered alike, apart from the trail. -/
theorem handle_blind (r : Served F Obs G) {s t : C2Runtime F G} (hst : s.SameButTrail t) :
    (handle r.env r.req s).1.apartFromTrail = (handle r.env r.req t).1.apartFromTrail ∧
      (serve s r).SameButTrail (serve t r) := by
  obtain ⟨env, req⟩ := r
  unfold serve
  cases req with
  | interpret req => exact blind_respond (blind_interpretPicture env req) hst
  | proposals req => exact blind_respond (blind_gateProposals env req) hst
  | guardrail req => exact blind_respond (blind_guardrail env req) hst
  | approve req => exact blind_respond (blind_gateApprove env req) hst
  | ack req => exact blind_respond_ack env req hst
  | reset =>
    exact blind_respond (.bind (.modify fun s audit log => ⟨_, _, rfl⟩) fun _ => .pure) hst
  | verifyPropose scenarioId unitId =>
    refine blind_respond (blind_caught (.bind (blind_loadScenario env _ _) fun coa => ?_)) hst
    refine .bind (.modify fun s audit log => ⟨_, _, rfl⟩) fun _ => ?_
    refine .bind (.modify fun s audit log => ⟨_, _, rfl⟩) fun _ => ?_
    exact blind_auditAppend_bind _ _ _ _ _ .pure
  | verifyApprove coaId decision =>
    exact blind_respond (blind_caught (.bind (blind_gateApprove env _) fun _ => .pure)) hst
  | verifyGuardrail scenarioId unitId navyUnitId =>
    refine blind_respond (blind_caught (.bind (blind_guardrail env _) fun result => ?_)) hst
    exact .bind (.modify fun s audit log => ⟨_, _, rfl⟩) fun _ => .pure
  | verifyAck coaId unitId =>
    refine blind_respond (blind_caught (agree_recipientAck_bind env _ fun ack hash hash' => ?_)) hst
    exact Blind.pure
  | verifyReset =>
    refine blind_respond (.bind (.modify fun s audit log => ⟨_, _, rfl⟩) fun _ => ?_) hst
    exact .bind (.modify fun s audit log => ⟨_, _, rfl⟩) fun _ => .pure
  | auditSnapshot records =>
    exact blind_respond (.bind (.modify fun s audit log => ⟨_, _, rfl⟩) fun _ => .pure) hst

/-- Evidence is answered alike. -/
theorem handleIngress_blind (i : Ingress F Obs G) {s t : C2Runtime F G} (hst : s.SameButTrail t) :
    (handleIngress i s).1.apartFromTrail = (handleIngress i t).1.apartFromTrail ∧
      (handleIngress i s).2.SameButTrail (handleIngress i t).2 := by
  unfold handleIngress
  split
  · exact blind_respond (blind_ingressCandidateEvent i.env i.adapters _) hst
  · exact blind_respond (blind_ingressOpenFeed i.env i.adapters _) hst
  · exact blind_respond (blind_caught (blind_ingressForm i.env i.adapters _)) hst

/-! ## Starts -/

variable (Obs) in
omit [Sha256] in
theorem blind_hydrateFromStore :
    Blind (C2Runtime.hydrateFromStore Obs : C2Handler F G Unit) := by
  refine .get_bind fun s audit log => ?_
  refine Blind.bind (.forEach (fun o => ?_) _) fun _ => .modify fun s audit log => ⟨_, _, rfl⟩
  exact .bind (blind_ingest o) fun _ => .pure

variable (Obs) in
omit [Sha256] in
/-- Starts on files that differ in the trail raise alike, or leave servers that differ so. -/
theorem restart_blind (boot : Boot F) {s t : C2Runtime F G} (hst : s.SameButTrail t) :
    (∃ e, C2Runtime.restart Obs boot s = .error e ∧ C2Runtime.restart Obs boot t = .error e) ∨
      ∃ s' t', C2Runtime.restart Obs boot s = .ok s' ∧ C2Runtime.restart Obs boot t = .ok t' ∧
        s'.SameButTrail t' := by
  unfold C2Runtime.restart
  cases C2Runtime.bootPolicy boot with
  | error e => exact Or.inl ⟨e, rfl, rfl⟩
  | ok policy =>
    dsimp only
    have hreopened : (s.reopened Obs policy boot.storeOpens).SameButTrail
        (t.reopened Obs policy boot.storeOpens) := by
      obtain ⟨audit, log, rfl⟩ := hst
      exact ⟨_, _, rfl⟩
    obtain ⟨hout, hleft⟩ := blind_hydrateFromStore Obs _ _ hreopened
    cases hs : C2Runtime.hydrateFromStore Obs (s.reopened Obs policy boot.storeOpens) with
    | mk r s' =>
      cases ht : C2Runtime.hydrateFromStore Obs (t.reopened Obs policy boot.storeOpens) with
      | mk q t' =>
        rw [hs, ht] at hout hleft
        change r = q at hout
        subst hout
        cases r with
        | error e => exact Or.inl ⟨e, rfl, rfl⟩
        | ok _ => exact Or.inr ⟨s', t', rfl, rfl, hleft⟩

end

end NexusC2

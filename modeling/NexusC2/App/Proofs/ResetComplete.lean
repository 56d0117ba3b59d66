import NexusC2.App.Calls
import NexusC2.App.Proofs.PartialIngress
import NexusC2.App.Proofs.PictureRestart
import NexusC2.App.Proofs.TrailBlind

/-!
# A reset is complete

Whatever a server has been through, the policy it runs on is the one it was started with, up to the
keys that are active (`C2Runtime.RunsOn`), so a reset leaves a new server on the old trail. Since no
answer depends on the trail, it answers from then on as a new server would, and so does a process
that is started on its database.
-/

namespace NexusC2

open Handler (Keeps)

/-! ## Sequences of calls -/

/-- The answer, apart from the trail. -/
def Answer.apartFromTrail {F : Type} : Answer F → Answer F
  | .response r => .response r.apartFromTrail
  | a => a

/-- The call is none of the tamper demonstration, which is about the trail. -/
def Call.Ordinary {F Obs G : Type} : Call F Obs G → Prop
  | .tamper _ => False
  | .restoreTrail => False
  | _ => True

section

variable {F Obs G : Type} [PyFloatOps F] [Sha256] [EntityGraph F Obs G]
  {view : C2Runtime F G → Json F} (hview : ∀ s t, C2Runtime.SameButTrail s t → view s = view t)

include hview

theorem answer_blind {c : Call F Obs G} (hc : c.Ordinary) {s t : C2Runtime F G}
    (hst : s.SameButTrail t) :
    (c.answer view s).apartFromTrail = (c.answer view t).apartFromTrail := by
  cases c with
  | request r => exact congrArg Answer.response (handle_blind r hst).1
  | ingress i => exact congrArg Answer.response (handleIngress_blind i hst).1
  | inbox unitId =>
    obtain ⟨audit, log, rfl⟩ := hst
    rfl
  | ontology => exact congrArg Answer.ontology (hview s t hst)
  | tamper index => exact absurd hc id
  | restoreTrail => exact absurd hc id
  | restart boot =>
    simp only [Call.answer]
    rcases restart_blind Obs boot hst with ⟨e, hs, ht⟩ | ⟨s', t', hs, ht, -⟩
    · rw [hs, ht]
    · rw [hs, ht]

omit hview in
/-- An ordinary call leaves servers that differ in their trails, or none. -/
theorem after_blind {c : Call F Obs G} (hc : c.Ordinary) {s t : C2Runtime F G}
    (hst : s.SameButTrail t) :
    (c.after s = none ∧ c.after t = none) ∨
      ∃ s' t', c.after s = some s' ∧ c.after t = some t' ∧ s'.SameButTrail t' := by
  cases c with
  | request r => exact Or.inr ⟨_, _, rfl, rfl, (handle_blind r hst).2⟩
  | ingress i => exact Or.inr ⟨_, _, rfl, rfl, (handleIngress_blind i hst).2⟩
  | inbox unitId => exact Or.inr ⟨_, _, rfl, rfl, hst⟩
  | ontology => exact Or.inr ⟨_, _, rfl, rfl, hst⟩
  | tamper index => exact absurd hc id
  | restoreTrail => exact absurd hc id
  | restart boot =>
    simp only [Call.after]
    rcases restart_blind Obs boot hst with ⟨e, hs, ht⟩ | ⟨s', t', hs, ht, hst'⟩
    · rw [hs, ht]
      exact Or.inl ⟨rfl, rfl⟩
    · rw [hs, ht]
      exact Or.inr ⟨s', t', rfl, rfl, hst'⟩

/-- Servers that differ in their trails answer a sequence of calls alike. -/
theorem answersTo_blind {cs : List (Call F Obs G)} (hcs : ∀ c ∈ cs, c.Ordinary)
    {s t : C2Runtime F G} (hst : s.SameButTrail t) :
    (answersTo view s cs).map Answer.apartFromTrail =
      (answersTo view t cs).map Answer.apartFromTrail := by
  induction cs generalizing s t with
  | nil => rfl
  | cons c cs ih =>
    have hc := hcs c List.mem_cons_self
    have hanswer := answer_blind hview hc hst
    unfold answersTo
    rw [List.map_cons, List.map_cons, hanswer]
    rcases after_blind hc hst with ⟨hs, ht⟩ | ⟨s', t', hs, ht, hst'⟩
    · rw [hs, ht]
    · rw [hs, ht]
      dsimp only
      rw [ih (fun c hc => hcs c (List.mem_cons_of_mem _ hc)) hst']

end

/-! ## The store stays open -/

namespace RuntimeStore

variable {F : Type} (st : RuntimeStore F)

@[simp] theorem connected_write (f : Tables F → Tables F) :
    (st.write f).connected = st.connected := by
  unfold write
  split <;> rfl

@[simp] theorem connected_replaceObservations (rows : List (String × Json F)) :
    (st.replaceObservations rows).connected = st.connected := by
  unfold replaceObservations
  dsimp only
  split
  · exact connected_write st _
  split <;> rfl

/-- What a cleared database is. -/
theorem clear_of_connected (h : st.connected = true) : st.clear = ⟨true, Tables.empty, Tables.empty⟩ := by
  unfold clear write
  rw [if_pos h, h]

end RuntimeStore

/-! ## The policy a server runs on -/

section

variable {F Obs G : Type}

/-- What a start reads of the POI file is in its policy, and nothing is active. -/
theorem bootPolicy_ok {boot : Boot F} {policy : TieredPolicy F}
    (h : C2Runtime.bootPolicy boot = .ok policy) :
    policy.interlock.activeCoaIds = ∅ ∧
      ∀ pois, boot.loadPois = .ok pois → policy.interlock.cniPois = pois := by
  unfold C2Runtime.bootPolicy at h
  obtain ⟨file, -, h⟩ := except_bind_eq_ok.mp h
  dsimp only at h
  split at h
  · rename_i pois hpois
    cases h
    refine ⟨rfl, fun pois' hpois' => ?_⟩
    rw [hpois] at hpois'
    cases hpois'
    rfl
  · rename_i message hpois
    cases h
    refine ⟨rfl, fun pois' hpois' => ?_⟩
    rw [hpois] at hpois'
    cases hpois'
  · cases h

/-- The database is open, and the policy is this one up to the keys that are active. -/
structure C2Runtime.RunsOn (s : C2Runtime F G) (policy : TieredPolicy F) : Prop where
  connected : s.store.connected = true
  policy : { s.policy with interlock := { s.policy.interlock with activeCoaIds := ∅ } } = policy

variable [EntityGraph F Obs G]

variable (Obs) in
theorem runsOn_fresh {boot : Boot F} {policy : TieredPolicy F}
    (h : C2Runtime.bootPolicy boot = .ok policy) (audit : AuditTrail F) :
    (C2Runtime.fresh F Obs policy audit true : C2Runtime F G).RunsOn policy := by
  refine ⟨rfl, ?_⟩
  show { policy with interlock := { policy.interlock with activeCoaIds := ∅ } } = policy
  rw [← (bootPolicy_ok h).1]

variable (Obs) in
/-- A reset leaves a new server on the old trail. -/
theorem C2Runtime.RunsOn.reset {s : C2Runtime F G} {policy : TieredPolicy F} (h : s.RunsOn policy)
    (audit : AuditTrail F) :
    (C2Runtime.fresh F Obs policy audit true : C2Runtime F G).SameButTrail (s.reset Obs) := by
  refine ⟨s.audit, s.log, ?_⟩
  unfold C2Runtime.reset C2Runtime.fresh
  rw [RuntimeStore.clear_of_connected s.store h.connected, h.policy]

variable [PyFloatOps F] [Sha256] {policy : TieredPolicy F}

/-- A request keeps the policy as long as the POI file is the one it was made with. -/
theorem runsOn_framed {env : Env F Obs G}
    (hpois : ∀ pois, env.loadPois = .ok pois → policy.interlock.cniPois = pois) :
    FramedIn env (fun s : C2Runtime F G => s.RunsOn policy) where
  append _ _ _ _ _ h := ⟨h.connected, h.policy⟩
  replaceRecords _ _ h := ⟨h.connected, h.policy⟩
  noteVerified _ _ _ h := ⟨h.connected, h.policy⟩
  refresh s pois hload h := by
    refine ⟨h.connected, ?_⟩
    have hsame : s.policy.interlock.cniPois = pois := by
      rw [← hpois pois hload, ← h.policy]
    rw [← hsame]
    exact h.policy
  activate _ _ h := ⟨h.connected, h.policy⟩
  lastGuardrail _ _ h := ⟨h.connected, h.policy⟩
  queue _ _ _ h := ⟨(RuntimeStore.connected_write _ _).trans h.connected, h.policy⟩
  issue _ _ _ h := ⟨(RuntimeStore.connected_write _ _).trans h.connected, h.policy⟩
  drop _ _ h := ⟨(RuntimeStore.connected_write _ _).trans h.connected, h.policy⟩
  acknowledge _ _ _ h :=
    ⟨(RuntimeStore.connected_write _ _).trans ((RuntimeStore.connected_write _ _).trans h.connected),
      h.policy⟩
  reset _ h := ⟨(RuntimeStore.connected_write _ _).trans h.connected, h.policy⟩

omit [PyFloatOps F] [Sha256] in
theorem ingestScenario_runsOn (env : Env F Obs G) (scenarioId : String) :
    Keeps (fun s : C2Runtime F G => s.RunsOn policy) (ingestScenario env scenarioId) := by
  refine .bind .ofExcept fun scenario => ?_
  refine .bind (.modify fun s h => ⟨h.connected, h.policy⟩) fun _ => ?_
  refine .bind .ofExcept fun events => ?_
  refine .bind .ofExcept fun observations => ?_
  refine .bind (.forEach fun o _ => .bind (.zoom fun s g h => ?_) fun _ => .pure) fun _ => ?_
  · exact ⟨h.connected, h.policy⟩
  refine .bind (.modify fun s h => ⟨h.connected, h.policy⟩) fun _ => ?_
  refine .bind .get fun s => ?_
  refine .bind .ofExcept fun finding => ?_
  refine .bind (.modify fun s h => ⟨h.connected, h.policy⟩) fun _ => ?_
  cases finding with
  | none => exact .raise
  | some finding =>
    refine .bind (.modify fun s h => ⟨?_, h.policy⟩) fun _ => .pure
    simp only [C2Runtime.persistPicture, RuntimeStore.setScenarioId, RuntimeStore.setFinding,
      RuntimeStore.connected_write, RuntimeStore.connected_replaceObservations]
    exact h.connected

omit [PyFloatOps F] [Sha256] in
theorem ingestObservation_runsOn (o : Obs) :
    Keeps (fun s : C2Runtime F G => s.RunsOn policy) (ingestObservation o) := by
  refine .bind (.zoom fun s g h => ⟨h.connected, h.policy⟩) fun _ => ?_
  refine .bind (.modify fun s h => ?_) fun _ => .pure
  exact ⟨(RuntimeStore.connected_write _ _).trans h.connected, h.policy⟩

omit [Sha256] in
/-- A server runs on the policy it was started with. -/
theorem restart_runsOn {boot : Boot F} (hopens : boot.storeOpens = true) {s s' : C2Runtime F G}
    (h : C2Runtime.restart Obs boot s = .ok s') :
    ∃ policy, C2Runtime.bootPolicy boot = .ok policy ∧ s'.RunsOn policy := by
  obtain ⟨policy, hpolicy, hhydrate⟩ := C2Runtime.restart_eq_ok.mp h
  have hreopened : (s.reopened Obs policy boot.storeOpens).RunsOn policy :=
    ⟨hopens, (runsOn_fresh Obs (G := G) hpolicy s.audit).policy⟩
  have hkeeps : Keeps (fun s : C2Runtime F G => s.RunsOn policy)
      (C2Runtime.hydrateFromStore Obs) := by
    refine .bind .get fun t => ?_
    refine .bind (.forEach fun o _ => .bind (.zoom fun s g h => ?_) fun _ => .pure) fun _ => ?_
    · exact ⟨h.connected, h.policy⟩
    · exact .modify fun s h => ⟨h.connected, h.policy⟩
  have hrun := hkeeps.snd hreopened
  rw [hhydrate] at hrun
  exact ⟨policy, hpolicy, hrun⟩

omit [EntityGraph F Obs G] in
/-- The tamper demonstration touches the trail and its snapshot. -/
theorem injectAuditTamper_runsOn (index : Int) :
    Keeps (fun s : C2Runtime F G => s.RunsOn policy) (injectAuditTamper index) := by
  refine .bind .get fun s => ?_
  dsimp only
  split
  · exact .raise
  · refine .bind (.modify fun s h => ⟨h.connected, h.policy⟩) fun _ => ?_
    refine .bind .ofExcept fun tampered => ?_
    exact .bind (.modify fun s h => ⟨h.connected, h.policy⟩) fun _ => .pure

omit [EntityGraph F Obs G] in
theorem restoreAuditTamper_runsOn :
    Keeps (fun s : C2Runtime F G => s.RunsOn policy) restoreAuditTamper := by
  refine .bind .get fun s => ?_
  split
  · exact .raise
  · exact .bind (.modify fun s h => ⟨h.connected, h.policy⟩) fun _ => .pure

/-! ## Runs -/

/-- The POI file holds these POIs, and no start fails to open the database. -/
def Call.OnFile (pois : Except Exc (List (Poi F))) : Call F Obs G → Prop
  | .request r => r.env.loadPois = pois
  | .restart boot => boot.loadPois = pois ∧ boot.storeOpens = true
  | _ => True

/-- What the last start has read. -/
def lastBoot (boot : Boot F) (tr : List (Transition (C2Runtime F G) (Call F Obs G))) : Boot F :=
  tr.foldl (fun boot x => match x.label with
    | .restart boot' => boot'
    | _ => boot) boot

/-- A server runs on the policy of its last start. -/
theorem Call.Step.runsOn {pois : Except Exc (List (Poi F))} {boot : Boot F}
    {s s' : C2Runtime F G} {c : Call F Obs G} (h : Call.Step s c s') (hc : c.OnFile pois)
    (hboot : C2Runtime.bootPolicy boot = .ok policy) (hpois : boot.loadPois = pois)
    (hs : s.RunsOn policy) :
    ∃ policy', C2Runtime.bootPolicy (lastBoot boot [⟨s, c, s'⟩]) = .ok policy' ∧
      (lastBoot boot [⟨s, c, s'⟩]).loadPois = pois ∧ s'.RunsOn policy' := by
  have hread := (bootPolicy_ok hboot).2
  cases c with
  | request r =>
    cases h
    refine ⟨policy, hboot, hpois, ?_⟩
    refine (runsOn_framed fun pois' hload => hread pois' ?_).serve
      (fun id _ => ingestScenario_runsOn r.env id) hs
    rw [hpois, ← hload]
    exact hc.symm
  | ingress i =>
    cases h
    refine ⟨policy, hboot, hpois, ?_⟩
    refine handleIngress_keeps i ingestObservation_runsOn (fun place name data _ => ?_) hs
    exact auditAppend_keeps _ _ _ _ _ fun s time h => ⟨h.connected, h.policy⟩
  | inbox unitId =>
    cases h
    exact ⟨policy, hboot, hpois, hs⟩
  | ontology =>
    cases h
    exact ⟨policy, hboot, hpois, hs⟩
  | tamper index =>
    cases h
    exact ⟨policy, hboot, hpois, (injectAuditTamper_runsOn index).snd hs⟩
  | restoreTrail =>
    cases h
    exact ⟨policy, hboot, hpois, restoreAuditTamper_runsOn.snd hs⟩
  | restart boot' =>
    unfold Call.Step at h
    simp only [Call.after] at h
    cases hrun : C2Runtime.restart Obs boot' s with
    | error e =>
      rw [hrun] at h
      cases h
    | ok t =>
      rw [hrun] at h
      cases h
      obtain ⟨policy', hboot', hs'⟩ := restart_runsOn hc.2 hrun
      exact ⟨policy', hboot', hc.1, hs'⟩

theorem Run.runsOn {pois : Except Exc (List (Poi F))} {boot : Boot F} {audit : AuditTrail F}
    {tr : List (Transition (C2Runtime F G) (Call F Obs G))} {s : C2Runtime F G}
    (h : Run (Guarded (fun _ c => c.OnFile pois) Call.Step)
      (C2Runtime.fresh F Obs policy audit true) tr s)
    (hboot : C2Runtime.bootPolicy boot = .ok policy) (hpois : boot.loadPois = pois) :
    ∃ policy', C2Runtime.bootPolicy (lastBoot boot tr) = .ok policy' ∧ s.RunsOn policy' := by
  have hinv : ∃ policy', C2Runtime.bootPolicy (lastBoot boot tr) = .ok policy' ∧
      (lastBoot boot tr).loadPois = pois ∧ s.RunsOn policy' := by
    refine h.history (J := fun tr s => ∃ policy', C2Runtime.bootPolicy (lastBoot boot tr) =
      .ok policy' ∧ (lastBoot boot tr).loadPois = pois ∧ s.RunsOn policy')
      ⟨policy, hboot, hpois, runsOn_fresh Obs hboot audit⟩ ?_
    rintro tr s c s' ⟨policy', hlast, hload, hs⟩ ⟨hc, hstep⟩
    have hsnoc : lastBoot boot (tr ++ [⟨s, c, s'⟩]) = lastBoot (lastBoot boot tr) [⟨s, c, s'⟩] :=
      List.foldl_append
    rw [hsnoc]
    exact hstep.runsOn hc hlast hload hs
  obtain ⟨policy', hlast, -, hs⟩ := hinv
  exact ⟨policy', hlast, hs⟩

omit [Sha256] in
/-- A start on an empty database is a new server. -/
theorem restart_fresh {boot : Boot F} {policy' : TieredPolicy F}
    (hboot : C2Runtime.bootPolicy boot = .ok policy') (hopens : boot.storeOpens = true)
    (audit : AuditTrail F) :
    C2Runtime.restart Obs boot (C2Runtime.fresh F Obs policy audit true : C2Runtime F G) =
      .ok (C2Runtime.fresh F Obs policy' audit.reopen true) := by
  unfold C2Runtime.restart
  rw [hboot, hopens]
  rfl

/-- The server answers every sequence of calls as a new one with this policy and an empty database,
whatever the trail of that one is. -/
def C2Runtime.AnswersAsNew (Obs : Type) [EntityGraph F Obs G] (view : C2Runtime F G → Json F)
    (s : C2Runtime F G) (policy : TieredPolicy F) : Prop :=
  ∀ (audit : AuditTrail F) (cs : List (Call F Obs G)), (∀ c ∈ cs, c.Ordinary) →
    (answersTo view s cs).map Answer.apartFromTrail =
      (answersTo view (C2Runtime.fresh F Obs policy audit true) cs).map Answer.apartFromTrail

theorem answersAsNew_of {view : C2Runtime F G → Json F}
    (hview : ∀ s t, C2Runtime.SameButTrail s t → view s = view t) {s : C2Runtime F G}
    (h : ∀ audit, (C2Runtime.fresh F Obs policy audit true).SameButTrail s) :
    s.AnswersAsNew Obs view policy := by
  intro audit cs hcs
  exact (answersTo_blind hview hcs (h audit)).symm

end

section

variable {F D : Type} [PyMathOps F] [PyDateTime D] [Sha256]

omit [PyMathOps F] [Sha256] in
theorem ontologyState_blind (isoformat : D → String) {s t : C2Runtime F (SpatialEntityGraph F D)}
    (hst : s.SameButTrail t) : ontologyState isoformat s = ontologyState isoformat t := by
  obtain ⟨audit, log, rfl⟩ := hst
  rfl

/-- After any run on one POI file, a server that is reset answers every sequence of ordinary calls
as a server that is newly constructed on the policy file of its last start, apart from the trail;
and so does a process that is started on its database after the reset, on the file it reads. -/
theorem reset_complete (isoformat : D → String) {pois : Except Exc (List (Poi F))} {boot : Boot F}
    {policy : TieredPolicy F} {audit : AuditTrail F}
    {tr : List (Transition (C2Runtime F (SpatialEntityGraph F D))
      (Call F (Observation F D) (SpatialEntityGraph F D)))}
    {s : C2Runtime F (SpatialEntityGraph F D)}
    (hboot : C2Runtime.bootPolicy boot = .ok policy) (hpois : boot.loadPois = pois)
    (h : Run (Guarded (fun _ c => c.OnFile pois) Call.Step)
      (C2Runtime.fresh F (Observation F D) policy audit true) tr s) :
    (∃ policy', C2Runtime.bootPolicy (lastBoot boot tr) = .ok policy' ∧
      (s.reset (Observation F D)).AnswersAsNew (Observation F D) (ontologyState isoformat) policy') ∧
    ∀ boot' policy', boot'.storeOpens = true → C2Runtime.bootPolicy boot' = .ok policy' →
      ∃ s', C2Runtime.restart (Observation F D) boot' (s.reset (Observation F D)) = .ok s' ∧
        s'.AnswersAsNew (Observation F D) (ontologyState isoformat) policy' := by
  have hview : ∀ s t : C2Runtime F (SpatialEntityGraph F D), s.SameButTrail t →
      ontologyState isoformat s = ontologyState isoformat t :=
    fun _ _ => ontologyState_blind isoformat
  obtain ⟨policy₁, hlast, hs⟩ := h.runsOn hboot hpois
  refine ⟨⟨policy₁, hlast, answersAsNew_of hview fun audit => hs.reset (Observation F D) audit⟩, ?_⟩
  intro boot' policy' hopens hboot'
  have hreset := hs.reset (Observation F D) audit
  rcases restart_blind (Observation F D) boot' hreset with ⟨e, hfresh, -⟩ | hstarted
  · rw [restart_fresh hboot' hopens] at hfresh
    cases hfresh
  obtain ⟨s₁, s', hfresh, hrestart, hsame⟩ := hstarted
  rw [restart_fresh hboot' hopens] at hfresh
  cases hfresh
  refine ⟨s', hrestart, answersAsNew_of hview fun audit' => ?_⟩
  -- the trail of the new server does not matter
  obtain ⟨audit₁, log, rfl⟩ := hsame
  exact ⟨audit₁, log, rfl⟩

end

/-- The poll of a feed that has one vessel. -/
def harbourPoll [Sha256] :
    Call Whole (Observation Whole Instant) (SpatialEntityGraph Whole Instant) :=
  .ingress
    { env := calmPost.env
      adapters := harbourAdapters
      req := .openFeed ⟨"ais", none, true, none, 40⟩ }

/-- A server that has polled it sees the vessel, and answers as a new one after a reset. -/
theorem reset_complete_after_poll :
    letI := plainHash
    ∃ s, harbourPoll.after newServer = some s ∧ s.graph.observations.length = 1 ∧
      (s.reset (Observation Whole Instant)).AnswersAsNew (Observation Whole Instant)
        (ontologyState PyDateTime.isoformat) demoPolicy := by
  let := plainHash
  have hone : (harbourPoll.after newServer).map (fun s => s.graph.observations.length) = some 1 := by
    decide +kernel
  obtain ⟨s, hafter⟩ : ∃ s, harbourPoll.after newServer = some s := ⟨_, rfl⟩
  rw [hafter] at hone
  have hrun : Run (Guarded (fun _ c => c.OnFile (.ok [tankFarm])) Call.Step) newServer
      [⟨newServer, harbourPoll, s⟩] s := .step .start ⟨trivial, hafter⟩
  obtain ⟨⟨policy, hpolicy, hanswers⟩, -⟩ := reset_complete PyDateTime.isoformat
    bootPolicy_demo rfl hrun
  have hsame : policy = demoPolicy := Except.ok.inj (hpolicy.symm.trans bootPolicy_demo)
  refine ⟨s, hafter, Option.some.inj hone, ?_⟩
  rw [← hsame]
  exact hanswers

end NexusC2

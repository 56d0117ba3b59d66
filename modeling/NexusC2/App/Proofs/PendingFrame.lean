import NexusC2.App.Proofs.OperationRuns

/-!
# What an operator decides on

Between a proposal and its decision other clients go on: they propose, interpret, acknowledge and
bring evidence. An entry of the proposals is written under the id of its COA, whoever queues it,
so it stays what it was as long as nobody queues under an id that is pending. A scenario, the
interpreter and the guardrail draw their ids; a raw COA carries the id the client gives it.
-/

namespace NexusC2

open GateState

section

variable {F Obs G : Type} [PyFloatOps F] [Sha256] [EntityGraph F Obs G]

/-- The ids that COAs the request draws can have: the one of the guardrail's fallback, of a COA a
scenario builds and of one the interpreter proposes. -/
def Env.Draws (env : Env F Obs G) (id : String) : Prop :=
  id = env.uuid4 3 ∨
  (∃ scenarioId scenario graph finding timeout coa, env.getScenario scenarioId = .ok scenario ∧
    scenario.buildCoa graph finding timeout = .ok coa ∧ coa.coaId = id) ∨
  ∃ graph finding timeout forceHeuristic result,
    env.interpret graph finding timeout forceHeuristic = .ok result ∧
      result.candidateCoa.coaId = id

/-- The COA a client sends, where the request is about one. -/
def Request.rawCoa? : Request F → Option (CourseOfAction F)
  | .proposals req => if req.scenarioId.getD "" = "" then req.coa else none
  | _ => none

/-- No drawn id is pending, and neither is the id of a COA a client sends. -/
def QueuesAside (s : C2Runtime F G) (op : Operation F Obs G) : Prop :=
  ∀ r, op = .request r → (∀ id, r.env.Draws id → s.proposals.get id = none) ∧
    ∀ coa, r.req.rawCoa? = some coa → s.proposals.get coa.coaId = none

/-- A client's operation that neither decides the entry nor resets. -/
def LeavesUndecided (coaId : String) : Operation F Obs G → Prop
  | .request r => ¬ r.req.IsReset ∧ ∀ req, r.req.approve? = some req → req.coaId = coaId →
      decisionVerdict req.decision = none
  | .ingress _ => True
  | .restart _ => False

/-! ## Where the id of a queued COA comes from -/

omit [Sha256] in
theorem loadScenario_draws (env : Env F Obs G) (scenarioId : String) (timeout : F) :
    Handler.Triple (fun _ => True) (loadScenario env scenarioId timeout)
      (fun coa _ => env.Draws coa.coaId) (fun _ _ => True) := by
  unfold loadScenario
  refine .bind (Q := fun _ _ => True) (fun s _ => ?_) fun finding => ?_
  · split <;> trivial
  refine .bind (Q := fun scenario _ => env.getScenario scenarioId = .ok scenario)
    (.ofExcept (fun _ _ h _ => h) fun _ _ _ _ => trivial) fun scenario => ?_
  refine .bind (Q := fun _ _ => env.getScenario scenarioId = .ok scenario)
    (.get fun _ h => h) fun s => ?_
  refine .bind (Q := fun coa _ => env.Draws coa.coaId) (.ofExcept ?_ fun _ _ _ _ => trivial)
    fun coa => ?_
  · intro coa _ hcoa hscenario
    exact Or.inr (Or.inl ⟨_, _, _, _, _, coa, hscenario, hcoa, rfl⟩)
  · refine .pure fun _ h => ?_
    rw [TieredPolicy.applyDefaults_coaId]
    exact h

omit [Sha256] in
theorem interpretScenario_draws (env : Env F Obs G) (scenarioId : String) (timeout : F)
    (forceHeuristic : Bool) :
    Handler.Triple (fun _ => True) (interpretScenario env scenarioId timeout forceHeuristic)
      (fun result _ => env.Draws result.candidateCoa.coaId) (fun _ _ => True) := by
  unfold interpretScenario
  refine .bind (Q := fun _ _ => True) (fun s _ => ?_) fun _ => ?_
  · split <;> trivial
  refine .bind (Q := fun _ _ => True) (.get fun _ _ => trivial) fun s => ?_
  cases s.finding with
  | none => exact .raise fun _ _ => trivial
  | some finding =>
    refine .bind (Q := fun result _ => env.Draws result.candidateCoa.coaId)
      (.ofExcept ?_ fun _ _ _ _ => trivial) fun result => ?_
    · intro result _ hresult _
      exact Or.inr (Or.inr ⟨_, _, _, _, result, hresult, rfl⟩)
    · refine .pure fun _ h => ?_
      rw [TieredPolicy.applyDefaults_coaId]
      exact h

omit [Sha256] in
theorem proposedCoa_origin (env : Env F Obs G) (req : ProposalRequest F) :
    Handler.Triple (fun _ => True) (proposedCoa env req)
      (fun result _ => env.Draws result.1.coaId ∨
        ∃ coa, (Request.proposals req).rawCoa? = some coa ∧ result.1.coaId = coa.coaId)
      (fun _ _ => True) := by
  unfold proposedCoa
  refine .bind (Q := fun _ _ => True) (.get fun _ _ => trivial) fun s => ?_
  dsimp only
  split
  · refine .bind (.tryCatch (interpretScenario_draws _ _ _ _) fun e => ?_) fun result =>
      .pure fun _ h => Or.inl h
    cases e <;> exact .raise fun _ _ => trivial
  split
  · exact .bind (loadScenario_draws _ _ _) fun coa => .pure fun _ h => Or.inl h
  · rename_i _ hscenario
    have hraw : (Request.proposals req).rawCoa? = req.coa := if_pos (not_not.mp hscenario)
    cases hcoa : req.coa with
    | none => exact .raise fun _ _ => trivial
    | some coa =>
      refine .pure fun _ _ => Or.inr ⟨coa, hraw.trans hcoa, ?_⟩
      rw [TieredPolicy.applyDefaults_coaId]

/-- A COA is queued under a drawn id or under the one a client sent. -/
theorem Script.queued_origin {s : C2Runtime F G} {r : Served F Obs G} {es : List (GateEvent F)}
    (hs : Script s r es) {p : Pending F} (h : .queued p ∈ es) :
    r.env.Draws p.coa.coaId ∨
      ∃ coa, r.req.rawCoa? = some coa ∧ p.coa.coaId = coa.coaId := by
  cases hs with
  | proposed req coa interpretation reason t hreq hcoa hverify htier =>
    obtain rfl : p = queuedPending r.env req coa := by simpa using h
    have horigin := proposedCoa_origin r.env req s trivial
    cases hrun : proposedCoa r.env req s with
    | mk result s' =>
      rw [hrun] at horigin hcoa
      change result = .ok (coa, interpretation) at hcoa
      subst hcoa
      rw [hreq]
      exact horigin
  | vetoed req dangerous fallback ok reason hreq hfallback =>
    obtain rfl : p = guardrailPending r.env req fallback := by simpa using h
    exact Or.inl (Or.inl hfallback)
  | formProposed scenarioId unitId coa hreq hcoa =>
    obtain rfl : p = formPending r.env unitId coa := by simpa using h
    have horigin := loadScenario_draws r.env scenarioId (defaultTimeout F) s trivial
    cases hrun : loadScenario r.env scenarioId (defaultTimeout F) s with
    | mk result s' =>
      rw [hrun] at horigin hcoa
      change result = .ok coa at hcoa
      subst hcoa
      exact Or.inl horigin
  | approved req d hreq hseal hverdict =>
    rcases mem_approved h with h | h | h | ⟨i, uid, _, h | h⟩ <;> cases h
  | _ => simp at h

/-- Only a decision drops an entry. -/
theorem Script.of_dropped {s : C2Runtime F G} {r : Served F Obs G} {es : List (GateEvent F)}
    (hs : Script s r es) {k : String} (h : .dropped k ∈ es) :
    ∃ req d, r.req.approve? = some req ∧ sealDecision r.env req s = .ok d ∧ req.coaId = k := by
  cases hs with
  | denied req d hreq hseal hverdict =>
    simp only [List.mem_cons, GateEvent.dropped.injEq, reduceCtorEq, List.not_mem_nil,
      or_false] at h
    exact ⟨req, d, hreq, hseal, h.symm⟩
  | approved req d hreq hseal hverdict =>
    rcases mem_approved h with h | h | h | ⟨i, uid, _, h | h⟩ <;> cases h
    exact ⟨req, d, hreq, hseal, rfl⟩
  | _ => simp at h

/-! ## The entry stays -/

omit [EntityGraph F Obs G] in
/-- Events that neither drop nor queue under an id, nor clear, leave its entry. -/
theorem pending_foldl {es : List (GateEvent F)} {s : GateState F} {k : String}
    (hdropped : .dropped k ∉ es) (hcleared : .cleared ∉ es)
    (hqueued : ∀ p, .queued p ∈ es → p.coa.coaId ≠ k) :
    (es.foldl apply s).proposals.get k = s.proposals.get k := by
  refine foldl_apply (I := fun t => t.proposals.get k = s.proposals.get k) rfl ?_
  intro e hmem t ht
  cases e with
  | queued p =>
    simp only [apply, Dict.get_set, if_neg (hqueued p hmem)]
    exact ht
  | dropped k' =>
    have hne : k' ≠ k := by
      rintro rfl
      exact hdropped hmem
    simp only [apply, Dict.get_erase, if_neg hne]
    exact ht
  | cleared => exact absurd hmem hcleared
  | _ => exact ht

theorem pending_step {s s' : C2Runtime F G} {op : Operation F Obs G} {k : String} {p : Pending F}
    (hstep : Operation.Step s op s') (hop : LeavesUndecided k op) (hguard : QueuesAside s op)
    (hget : s.proposals.get k = some p) : s'.proposals.get k = some p := by
  cases hstep with
  | request r =>
    obtain ⟨script, hscript, hgate⟩ := handle_script r s
    have hsub := (ran_sublist r.env.appendRaises script).subset
    obtain ⟨hdraws, hraw⟩ := hguard r rfl
    show (serve s r).gate.proposals.get k = some p
    rw [hgate]
    refine (pending_foldl ?_ ?_ ?_).trans hget
    · intro hmem
      obtain ⟨req, d, hreq, hseal, hk⟩ := hscript.of_dropped (hsub hmem)
      have hword := (sealDecision_ok hseal).2
      rw [hop.2 req hreq hk] at hword
      cases hword
    · intro hmem
      exact hop.1 (hscript.of_cleared (hsub hmem))
    · rintro q hmem rfl
      rcases hscript.queued_origin (hsub hmem) with h | ⟨coa, h, heq⟩
      · rw [hdraws _ h] at hget
        cases hget
      · rw [heq, hraw coa h] at hget
        cases hget
  | ingress i =>
    obtain ⟨es, hes, hgate, _⟩ := handleIngress_gate i s
    show (handleIngress i s).2.gate.proposals.get k = some p
    rw [hgate, ingress_foldl hes]
    exact hget
  | restart boot _ _ => exact hop.elim

/-- In every run of clients' operations that neither decide an entry nor reset, and queue nothing
under an id that is pending, the entry stays what it is. -/
theorem pending_unchanged {s s' : C2Runtime F G} {k : String} {p : Pending F}
    {tr : List (Transition (C2Runtime F G) (Operation F Obs G))}
    (h : Run (Guarded (fun s op => LeavesUndecided k op ∧ QueuesAside s op) Operation.Step) s tr s')
    (hget : s.proposals.get k = some p) : s'.proposals.get k = some p := by
  refine h.invariant (I := fun s => s.proposals.get k = some p) hget ?_
  rintro t op u ht ⟨⟨hop, hguard⟩, hstep⟩
  exact pending_step hstep hop hguard ht

end

/-- A new server on which "a" is pending. -/
def pendingServer [Sha256] : C2Runtime Whole Unit :=
  serve demoServer (served (propose (demoCoa "a" "INSPECT" .tier1Hitl)))

theorem pendingServer_get [Sha256] {id : String} (h : id ≠ "a") :
    (pendingServer.proposals).get id = none := by
  have hset : pendingServer.proposals = (∅ : Dict String (Pending Whole)).set "a"
      (queuedPending (demoEnv fun _ _ => none)
        ⟨none, some (demoCoa "a" "INSPECT" .tier1Hitl), "u1", none, false, false⟩
        (demoPolicy.applyDefaults (demoCoa "a" "INSPECT" .tier1Hitl))) := rfl
  rw [hset, Dict.get_set, if_neg (Ne.symm h)]
  rfl

/-- The ids of `demoEnv`. -/
theorem demoEnv_draws {raises : String → Nat → Option Exc} {id : String}
    (h : (demoEnv raises).Draws id) : id = "uuid-3" ∨ id = "coa-trojan" := by
  rcases h with h | ⟨scenarioId, scenario, _, _, _, coa, hscenario, hcoa, rfl⟩ |
    ⟨_, _, _, _, _, hresult, _⟩
  · exact Or.inl h
  · simp only [demoEnv] at hscenario
    split at hscenario
    · cases hscenario
      cases hcoa
      exact Or.inr rfl
    · cases hscenario
  · cases hresult

/-- The proposal of another COA. -/
def otherProposal : List (Operation Whole Unit Unit) :=
  [.request (served (propose (demoCoa "b" "INSPECT" .tier1Hitl)))]

/-- A proposal under another id leaves the entry. -/
theorem pending_unchanged_other_proposal :
    letI := plainHash
    ∃ p, pendingServer.proposals.get "a" = some p ∧
      (otherProposal.foldl operate pendingServer).proposals.get "a" = some p := by
  let := plainHash
  refine ⟨_, rfl, pending_unchanged (k := "a") (run_operate ?_) rfl⟩
  simp only [otherProposal, trace, List.forall_mem_cons]
  refine ⟨⟨⟨⟨by simp [Request.IsReset, served, propose], ?_⟩, ?_⟩, by simp⟩, by simp⟩
  · intro req hreq
    cases hreq
  · intro r hr
    cases hr
    constructor
    · intro id hid
      rcases demoEnv_draws hid with rfl | rfl <;> exact pendingServer_get (by decide)
    · intro coa hcoa
      obtain rfl := Option.some.inj hcoa
      exact pendingServer_get (by decide)

/-- The proposal of a COA with another intent under the pending id. -/
def swapProposal : List (Operation Whole Unit Unit) :=
  [.request (served (propose (demoCoa "a" "CUE_AND_IDENTIFY" .tier1Hitl)))]

/-- It takes the place of the entry. -/
theorem pending_entry_swapped :
    letI := plainHash
    ∃ (tr : List (Transition (C2Runtime Whole Unit) (Operation Whole Unit Unit)))
      (s : C2Runtime Whole Unit) (p q : Pending Whole),
      Run (Guarded (fun _ op => LeavesUndecided "a" op) Operation.Step) pendingServer tr s ∧
        pendingServer.proposals.get "a" = some p ∧ s.proposals.get "a" = some q ∧
          p.coa.intent ≠ q.coa.intent := by
  let := plainHash
  refine ⟨_, swapProposal.foldl operate pendingServer, _, _, run_operate ?_, rfl, rfl, by decide⟩
  simp only [swapProposal, trace, List.forall_mem_cons]
  refine ⟨⟨⟨by simp [Request.IsReset, served, propose], ?_⟩, by simp⟩, by simp⟩
  intro req hreq
  cases hreq

end NexusC2

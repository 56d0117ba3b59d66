import NexusC2.App.Proofs.Delivery
import NexusC2.App.Proofs.DecisionLedger

/-!
# Acknowledgements that stay

`recipient_ack` asks neither whether the tasking is acknowledged already nor does an approval ask
whether its id is. Where no request acknowledges or issues under an acknowledged id, the tasking
stays as it was acknowledged until a reset, and the trail has at most one acknowledgement for every
tasking that was issued.
-/

namespace NexusC2

open GateState

/-! ## The account of an id -/

section

variable {F : Type} [PyFloatOps F]

/-- The record of an acknowledgement of a COA. -/
def acknowledges (coaId : String) (record : Record F) : Bool :=
  (eventData "recipient_ack" record).any fun data => coaIdIn data = some coaId

/-- The acknowledgements of an id among records, and the taskings issued under it. -/
def ackCount (coaId : String) (records : List (Record F)) : Nat :=
  records.countP (acknowledges coaId)

def issuedCount (coaId : String) (issued : List (Tasking F)) : Nat :=
  issued.countP fun t => t.coa.coaId = coaId

variable [Sha256]

theorem acknowledges_seal (prev name severity time : String) (data : Fields F) (coaId : String) :
    acknowledges coaId (sealRecord prev name severity time data) =
      decide (name = "recipient_ack" ∧ coaIdIn data = some coaId) := by
  unfold acknowledges
  rw [eventData_seal]
  by_cases h : name = "recipient_ack" <;> simp [h]

/-- Acknowledgements of the id beyond those of an earlier trail, and one more where the id waits for
one, are covered by the taskings issued under it. -/
def Accounted (base : List (Record F)) (k : String) (s : GateState F) : Prop :=
  ackCount k s.audit.records + (if (s.inbox.get k).isSome = true ∧ k ∉ s.acked then 1 else 0) ≤
    ackCount k base + issuedCount k s.log.issued

/-- Events that neither acknowledge nor replace the trail. -/
def GateEvent.Unacking : GateEvent F → Prop
  | .recorded name _ _ _ _ => name ≠ "recipient_ack"
  | .acked _ _ | .restored _ => False
  | _ => True

namespace Accounted

variable {base : List (Record F)} {k : String} {s : GateState F}

theorem of_unacking (h : Accounted base k s) {e : GateEvent F} (he : e.Unacking) :
    Accounted base k (s.apply e) := by
  unfold Accounted at h ⊢
  cases e with
  | recorded name severity time place data =>
    have hnot : acknowledges k (sealRecord s.audit.prev name severity time data) = false := by
      rw [acknowledges_seal]
      simp only [decide_eq_false_iff_not]
      exact fun hname => he hname.1
    simp only [apply, AuditTrail.append, ackCount, List.countP_append, List.countP_singleton, hnot,
      Bool.false_eq_true, if_false, Nat.add_zero]
    exact h
  | issued t =>
    simp only [apply, issuedCount, List.countP_append, List.countP_singleton, Dict.get_set]
    simp only [issuedCount] at h
    by_cases hk : t.coa.coaId = k
    · simp only [hk, decide_true, if_true, Option.isSome_some, true_and]
      split at h <;> split <;> omega
    · simp only [hk, decide_false, if_false, Bool.false_eq_true]
      omega
  | cleared =>
    simp only [apply, Dict.get_empty, Option.isSome_none, Bool.false_eq_true, false_and, if_false]
    omega
  | acked c t => exact he.elim
  | restored records => exact he.elim
  | _ => exact h

/-- An acknowledgement of a tasking that waits for one, whether or not its record is written. -/
theorem acknowledge (h : Accounted base k s) {c : String} {t : Tasking F}
    (hget : (s.inbox.get c).isSome = true) (hnew : c ∉ s.acked)
    (raises : String → Nat → Option Exc) (severity time : String) {data : Fields F}
    (hdata : coaIdIn data = some c) :
    Accounted base k ((ran raises [.acked c t,
      .recorded "recipient_ack" severity time 0 data]).foldl apply s) := by
  have hacked : ackCount k s.audit.records + (if c = k then 1 else 0) +
      (if ((s.inbox.set c t).get k).isSome = true ∧ k ∉ insert c s.acked then 1 else 0) ≤
        ackCount k base + issuedCount k s.log.issued := by
    unfold Accounted at h
    by_cases hk : c = k
    · subst hk
      rw [if_pos ⟨hget, hnew⟩] at h
      simp only [if_true, Finset.mem_insert_self, not_true_eq_false, and_false, if_false]
      exact h
    · simp only [Dict.get_set, if_neg hk, Finset.mem_insert, Ne.symm hk, false_or]
      exact h
  cases hraise : raises "recipient_ack" 0 with
  | some e =>
    simp only [ran, hraise, List.foldl_cons, List.foldl_nil]
    exact le_trans (Nat.add_le_add_right (Nat.le_add_right _ _) _) hacked
  | none =>
    simp only [ran, hraise, List.foldl_cons, List.foldl_nil]
    unfold Accounted
    have hrecord : ackCount k (s.audit.records ++
        [sealRecord s.audit.prev "recipient_ack" severity time data]) =
          ackCount k s.audit.records + if c = k then 1 else 0 := by
      simp only [ackCount, List.countP_append, List.countP_singleton, acknowledges_seal, hdata,
        true_and, Option.some.injEq, decide_eq_true_eq]
    simp only [apply, AuditTrail.append, hrecord]
    exact hacked

end Accounted

end

/-! ## Steps -/

section

variable {F Obs G : Type} [PyFloatOps F] [Sha256] [EntityGraph F Obs G]

/-- A request neither acknowledges nor issues under an acknowledged id, and a snapshot it restores
has no acknowledgement that the trail does not have. -/
structure AcksOnce (s : C2Runtime F G) (r : Served F Obs G) : Prop where
  issues : IssuesUnacked s r
  acks : ∀ req t, r.req.ack? = some req → s.inbox.get req.coaId = some t →
    t.unitId = req.unitId → req.coaId ∉ s.acked
  restores : ∀ records, r.req = .auditSnapshot records →
    ∀ k, ackCount k records ≤ ackCount k s.audit.records

/-- An acknowledgement of nothing in the inbox, or by another unit, changes nothing. -/
theorem serve_refused_ack {s : C2Runtime F G} {r : Served F Obs G} {req : AckRequest F}
    (hreq : r.req.ack? = some req)
    (h : ∀ t, s.inbox.get req.coaId = some t → t.unitId ≠ req.unitId) : serve s r = s := by
  have hrefused : ∃ status detail, recipientAck r.env req s = (.error (.http status detail), s) := by
    unfold recipientAck
    rw [Handler.get_bind]
    cases hget : s.inbox.get req.coaId with
    | none => exact ⟨_, _, rfl⟩
    | some t =>
      dsimp only
      rw [if_pos (h t hget)]
      exact ⟨_, _, rfl⟩
  obtain ⟨status, detail, hrun⟩ := hrefused
  unfold serve handle
  cases hr : r.req <;> rw [hr] at hreq <;> cases hreq
  · rw [respond_snd, hrun]
  · rw [respond_snd]
    unfold verifyAck caught Handler.tryCatch
    rw [Handler.bind_error hrun]
    rfl

/-- A request that acknowledges is about an id that is not acknowledged, or changes nothing. -/
theorem AcksOnce.acks_or {s : C2Runtime F G} {r : Served F Obs G} (h : AcksOnce s r) :
    serve s r = s ∨ ∀ req, r.req.ack? = some req → req.coaId ∉ s.acked := by
  by_cases hmatch : ∃ req t, r.req.ack? = some req ∧ s.inbox.get req.coaId = some t ∧
      t.unitId = req.unitId
  · obtain ⟨req, t, hreq, hget, hunit⟩ := hmatch
    refine .inr fun req' hreq' => ?_
    obtain rfl := Option.some.inj (hreq.symm.trans hreq')
    exact h.acks req t hreq hget hunit
  · cases hreq : r.req.ack? with
    | none => exact .inr fun req' hreq' => by cases hreq'
    | some req => exact .inl (serve_refused_ack hreq fun t hget hunit => hmatch ⟨req, t, hreq, hget, hunit⟩)

theorem Script.accounted {base : List (Record F)} {k : String} {s : C2Runtime F G}
    {r : Served F Obs G} {es : List (GateEvent F)} (hscript : Script s r es)
    (hacks : ∀ req, r.req.ack? = some req → req.coaId ∉ s.acked)
    (hrestores : ∀ records, r.req = .auditSnapshot records →
      ackCount k records ≤ ackCount k s.audit.records) (h : Accounted base k s.gate) :
    Accounted base k ((ran r.env.appendRaises es).foldl apply s.gate) := by
  have hplain (hes : ∀ e ∈ es, e.Unacking) :
      Accounted base k ((ran r.env.appendRaises es).foldl apply s.gate) := by
    refine foldl_apply (I := Accounted base k) h fun e hmem t ht => ?_
    exact ht.of_unacking (hes e ((ran_sublist _ _).subset hmem))
  cases hscript with
  | acknowledged req t hreq hget =>
    exact h.acknowledge (show (s.inbox.get req.coaId).isSome = true by rw [hget]; rfl)
      (hacks req hreq) _ _ _ rfl
  | restored records hreq =>
    have hcount := hrestores records hreq
    unfold Accounted at h ⊢
    exact le_trans (Nat.add_le_add_right hcount _) h
  | vetoFailed req calls hreq =>
    refine hplain fun e hmem => ?_
    obtain ⟨call, _, rfl⟩ := List.mem_map.mp hmem
    trivial
  | approved req d hreq hseal hverdict =>
    refine hplain fun e hmem => ?_
    rcases Script.mem_approved hmem with rfl | rfl | rfl | ⟨i, uid, _, rfl | rfl⟩ <;>
      simp [GateEvent.Unacking]
  | _ =>
    refine hplain ?_
    simp [GateEvent.Unacking]

theorem accounted_step {base : List (Record F)} {k : String} {s s' : C2Runtime F G}
    {r : Served F Obs G} (h : Accounted base k s.gate) (hstep : Guarded AcksOnce Step s r s') :
    Accounted base k s'.gate := by
  obtain ⟨hguard, hstep⟩ := hstep
  rcases hguard.acks_or with hsame | hacks
  · rw [show s' = s from hstep.trans hsame]
    exact h
  · obtain ⟨script, hscript, happ⟩ := hstep.applied
    have hgate : s'.gate = _ := happ.gate
    rw [hgate]
    exact hscript.accounted hacks (fun records hreq => hguard.restores records hreq k) h

/-- What is acknowledged stays as it is until a reset. -/
theorem acked_kept_step {s s' : C2Runtime F G} {r : Served F Obs G}
    (hstep : Guarded AcksOnce Step s r s') (hreset : ¬ r.req.IsReset) {k : String}
    (hk : k ∈ s.acked) : s'.inbox.get k = s.inbox.get k ∧ k ∈ s'.acked := by
  obtain ⟨hguard, hstep⟩ := hstep
  rcases hguard.acks_or with hsame | hacks
  · rw [show s' = s from hstep.trans hsame]
    exact ⟨rfl, hk⟩
  obtain ⟨script, hscript, happ⟩ := hstep.applied
  have hsub := (ran_sublist r.env.appendRaises script).subset
  have hgate : s'.gate = _ := happ.gate
  have hkept : s'.gate.inbox.get k = s.inbox.get k ∧ k ∈ s'.gate.acked := by
    rw [hgate]
    refine foldl_apply (I := fun t => t.inbox.get k = s.inbox.get k ∧ k ∈ t.acked) ⟨rfl, hk⟩ ?_
    rintro e hmem t ⟨hget, hin⟩
    cases e with
    | issued u =>
      obtain ⟨-, hnew, -⟩ := hscript.issued_unacked hguard.issues (hsub hmem)
      have hne : u.coa.coaId ≠ k := fun heq => hnew (heq ▸ hk)
      simp only [apply, Dict.get_set, if_neg hne]
      exact ⟨hget, hin⟩
    | acked c u =>
      obtain ⟨req, _, hreq, rfl, -, -⟩ := hscript.of_acked (hsub hmem)
      have hne : req.coaId ≠ k := fun heq => hacks req hreq (heq ▸ hk)
      simp only [apply, Dict.get_set, if_neg hne]
      exact ⟨hget, Finset.mem_insert_of_mem hin⟩
    | cleared => exact absurd (hscript.of_cleared (hsub hmem)) hreset
    | _ => exact ⟨hget, hin⟩
  exact hkept

/-! ## Runs -/

/-- In a run from a trail with the records `base`, an acknowledged tasking stays as it is until a
reset, and an id has no more acknowledgements than taskings. -/
structure AcksFinal (base : List (Record F)) (tr : List (Transition (C2Runtime F G) (Served F Obs G)))
    (s : C2Runtime F G) : Prop where
  kept : ∀ before x after, tr = before ++ x :: after → (∀ y ∈ after, ¬ y.label.req.IsReset) →
    ∀ k ∈ x.post.acked, s.inbox.get k = x.post.inbox.get k
  once : ∀ k, ackCount k s.audit.records ≤ ackCount k base + issuedCount k s.log.issued

/-- What is acknowledged after a transition is as it was then, as long as nothing is reset. -/
theorem acked_kept {s₀ s : C2Runtime F G} {tr : List (Transition (C2Runtime F G) (Served F Obs G))}
    (h : Run (Guarded AcksOnce Step) s₀ tr s) {before after}
    {x : Transition (C2Runtime F G) (Served F Obs G)} (heq : tr = before ++ x :: after)
    (hreset : ∀ y ∈ after, ¬ y.label.req.IsReset) {k : String} (hk : k ∈ x.post.acked) :
    s.inbox.get k = x.post.inbox.get k ∧ k ∈ s.acked := by
  induction h generalizing after with
  | start => simp at heq
  | @step tr t u l _ hstep ih =>
    -- the cut is right before the end or further back
    rcases List.eq_nil_or_concat after with rfl | ⟨after', y, rfl⟩
    · obtain rfl := List.singleton_inj.mp (List.append_inj' heq rfl).2
      exact ⟨rfl, hk⟩
    · have hcut : tr ++ [⟨t, l, u⟩] = (before ++ x :: after') ++ [y] := by
        rw [heq, List.concat_eq_append, List.append_assoc, List.cons_append]
      obtain ⟨htr, hy⟩ := List.append_inj' hcut rfl
      obtain rfl := List.singleton_inj.mp hy
      rw [List.concat_eq_append] at hreset
      obtain ⟨hget, hin⟩ := ih htr fun z hz => hreset z (List.mem_append_left _ hz)
      have hlast := hreset _ (List.mem_append_right _ List.mem_cons_self)
      obtain ⟨hget', hin'⟩ := acked_kept_step hstep hlast hin
      exact ⟨hget'.trans hget, hin'⟩

/-- In every run whose requests acknowledge and issue under new ids only, acknowledgements are
final. -/
theorem acks_final (policy : TieredPolicy F) (audit : AuditTrail F) (connected : Bool)
    {tr : List (Transition (C2Runtime F G) (Served F Obs G))} {s : C2Runtime F G}
    (h : Run (Guarded AcksOnce Step) (C2Runtime.fresh F Obs policy audit connected) tr s) :
    AcksFinal audit.records tr s := by
  constructor
  · intro before x after heq hreset k hk
    exact (acked_kept h heq hreset hk).1
  · intro k
    have haccounted : Accounted audit.records k s.gate := by
      refine h.invariant (I := fun s => Accounted audit.records k s.gate) ?_ ?_
      · unfold Accounted
        simp [C2Runtime.fresh, C2Runtime.gate]
      · exact fun s r s' hs hstep => accounted_step hs hstep
    exact le_trans (Nat.le_add_right _ _) haccounted

end

/-- An acknowledgement by the unit. -/
def ackAs (status : String) : Request Whole :=
  .ack ⟨"a", "u1", none, status, "", []⟩

/-- A proposal, its approval and its acknowledgement. -/
def acknowledgedRun : List (Served Whole Unit Unit) :=
  [served (propose (demoCoa "a" "INSPECT" .tier1Hitl)), served (.approve ⟨"a", "yes", "op"⟩),
    served (ackAs "ACCEPTED")]

theorem acks_final_acknowledged :
    letI := plainHash
    AcksFinal [] (demoTrace acknowledgedRun) (acknowledgedRun.foldl serve demoServer) := by
  let := plainHash
  refine acks_final demoPolicy ⟨[], genesisPrev⟩ true (Run.of_trace acknowledgedRun demoServer ?_)
  intro x hx
  simp only [acknowledgedRun, trace, List.mem_cons, List.not_mem_nil, or_false] at hx
  -- nothing is acknowledged before the last request
  rcases hx with rfl | rfl | rfl
  · refine ⟨⟨⟨fun _ _ _ _ _ _ _ _ => Finset.notMem_empty _, ?_⟩, ?_, ?_⟩, rfl⟩
    · intro req p hreq
      cases hreq
    · intro req t hreq
      cases hreq
    · intro records hreq
      cases hreq
  · refine ⟨⟨⟨fun _ _ _ _ _ _ _ _ => Finset.notMem_empty _, ?_⟩, ?_, ?_⟩, rfl⟩
    · intro req p _ _ _
      exact ⟨Finset.notMem_empty _, fun _ => Finset.notMem_empty _⟩
    · intro req t hreq
      cases hreq
    · intro records hreq
      cases hreq
  · refine ⟨⟨⟨?_, ?_⟩, fun req t _ _ _ => Finset.notMem_empty _, ?_⟩, rfl⟩
    · intro req coa interpretation reason hreq
      cases hreq
    · intro req p hreq
      cases hreq
    · intro records hreq
      cases hreq

/-- The status of the acknowledgement in the inbox. -/
def ackStatus (s : C2Runtime Whole Unit) : Option String :=
  ((s.inbox.get "a").bind fun t => t.ack).map fun ack => ack.status

/-- The unit acknowledges again, and the first acknowledgement is gone. -/
theorem not_acks_final :
    letI := plainHash
    ¬ ∀ (tr : List DemoTransition) (s : C2Runtime Whole Unit), Run Step demoServer tr s →
      AcksFinal [] tr s := by
  let := plainHash
  intro h
  have hrun := run_demoTrace (acknowledgedRun ++ [served (ackAs "REFUSED")])
  have hfirst : ackStatus (acknowledgedRun.foldl serve demoServer) = some "ACCEPTED" := by
    decide +kernel
  have hsecond : ackStatus ((acknowledgedRun ++ [served (ackAs "REFUSED")]).foldl serve demoServer) =
      some "REFUSED" := by decide +kernel
  have hacked : "a" ∈ (acknowledgedRun.foldl serve demoServer).acked := by decide +kernel
  have hcut : demoTrace (acknowledgedRun ++ [served (ackAs "REFUSED")]) =
      (demoTrace acknowledgedRun).take 2 ++
        ⟨(acknowledgedRun.take 2).foldl serve demoServer, served (ackAs "ACCEPTED"),
          acknowledgedRun.foldl serve demoServer⟩ ::
        [⟨acknowledgedRun.foldl serve demoServer, served (ackAs "REFUSED"), _⟩] := rfl
  have hkept := (h _ _ hrun).kept _ _ _ hcut (by simp [Request.IsReset, served, ackAs]) "a" hacked
  unfold ackStatus at hfirst hsecond
  rw [hkept, hfirst] at hsecond
  exact absurd (Option.some.inj hsecond) (by decide)

end NexusC2

import NexusC2.App.Proofs.GateRuns

/-!
# One tasking for a target

The interlock refuses a COA whose target, intent and coordinates are active, and an approval
makes them active. The check stands at the proposal and the registration at the approval, so the
inbox holds one tasking for a target (or one navy pair) as long as no entry is approved whose key
has become active since it was queued.
-/

namespace NexusC2

open GateState DeterministicInterlock

/-- A tasking before any acknowledgement. -/
def Tasking.asIssued {F : Type} (t : Tasking F) : Tasking F :=
  { t with status := .pendingAck, ack := none }

theorem Tasking.coa_eq {F : Type} {a b : Tasking F} (h : a.asIssued = b.asIssued) :
    a.coa = b.coa := by
  change a.asIssued.coa = b.asIssued.coa
  rw [h]

section

variable {F Obs G : Type} [PyFloatOps F] [Sha256] [EntityGraph F Obs G]

/-- Two taskings that one approval in a history issued as a navy pair. -/
def NavyPair (tr : List (Transition (C2Runtime F G) (Served F Obs G))) (a b : Tasking F) : Prop :=
  ∃ x ∈ tr, a.asIssued ∈ x.did.issued ∧ b.asIssued ∈ x.did.issued ∧
    ∃ req p, x.label.req.approve? = some req ∧ x.pre.proposals.get req.coaId = some p ∧
      a.coa = p.coa ∧ b.coa = navyCopy x.label.env p.coa

/-- The request is no reset, and where it approves an entry, the key of the entry is not active
yet and the records of its taskings are written. -/
def ApprovesInactive (s : C2Runtime F G) (r : Served F Obs G) : Prop :=
  ¬ r.req.IsReset ∧ ∀ req p, r.req.approve? = some req →
    normDecision req.decision ∈ approveWords → s.proposals.get req.coaId = some p →
      dupKey p.coa ∉ s.policy.interlock.activeCoaIds ∧
        ∀ i, r.env.appendRaises "tasking_issued" i = none

/-- The key of every tasking is active, and only navy pairs share one. -/
structure Registered (tr : List (Transition (C2Runtime F G) (Served F Obs G)))
    (s : C2Runtime F G) : Prop where
  active : ∀ k t, s.inbox.get k = some t → dupKey t.coa ∈ s.policy.interlock.activeCoaIds
  pair : ∀ k₁ t₁ k₂ t₂, s.inbox.get k₁ = some t₁ → s.inbox.get k₂ = some t₂ →
    dupKey t₁.coa = dupKey t₂.coa → k₁ = k₂ ∨ NavyPair tr t₁ t₂ ∨ NavyPair tr t₂ t₁

omit [PyFloatOps F] [Sha256] [EntityGraph F Obs G] in
theorem NavyPair.mono {tr : List (Transition (C2Runtime F G) (Served F Obs G))} {a b a' b' : Tasking F}
    (h : NavyPair tr a b) (ha : a.asIssued = a'.asIssued) (hb : b.asIssued = b'.asIssued)
    (x : Transition (C2Runtime F G) (Served F Obs G)) : NavyPair (tr ++ [x]) a' b' := by
  obtain ⟨y, hy, hia, hib, req, p, hreq, hget, hca, hcb⟩ := h
  have hcoa : a.coa = a'.coa := Tasking.coa_eq ha
  have hcob : b.coa = b'.coa := Tasking.coa_eq hb
  exact ⟨y, List.mem_append_left _ hy, ha ▸ hia, hb ▸ hib, req, p, hreq, hget, hcoa ▸ hca,
    hcob ▸ hcb⟩

omit [Sha256] [EntityGraph F Obs G] in
theorem dupKey_navyCopy (env : Env F Obs G) (coa : CourseOfAction F) :
    dupKey (navyCopy env coa) = dupKey coa := dupKey_congr rfl

/-- A tasking is issued under a key that was not active and is now. -/
theorem Script.issued_inactive {s : C2Runtime F G} {r : Served F Obs G} {es : List (GateEvent F)}
    (hs : Script s r es) (hguard : ApprovesInactive s r) {t : Tasking F}
    (h : .issued t ∈ ran r.env.appendRaises es) :
    dupKey t.coa ∉ s.policy.interlock.activeCoaIds ∧ t.asIssued = t ∧
      ∃ coa, dupKey coa = dupKey t.coa ∧ .activated coa ∈ ran r.env.appendRaises es := by
  have hmem := (ran_sublist r.env.appendRaises es).subset h
  cases hs with
  | autoApproved req coa interpretation reason hreq hcoa hverify htier =>
    obtain rfl : t = autoTasking r.env req coa := by simpa using hmem
    exact ⟨(not_mem_active_of_verify hverify).2, rfl, coa, rfl, by simp [ran]⟩
  | approved req d hreq hseal hverdict =>
    obtain ⟨hget, hword⟩ := sealDecision_ok hseal
    rw [hverdict] at hword
    obtain ⟨hinactive, hraises⟩ :=
      hguard.2 req d.pending hreq ((decisionVerdict_approved _).mp ⟨_, hword⟩) hget
    rw [ran_approved hraises h]
    rcases mem_approved hmem with h | h | h | ⟨i, uid, _, h | h⟩ <;> cases h
    have hkey : dupKey d.pending.coa = dupKey (approvedTasking r.env req d i uid).coa := by
      rcases approvedTasking_coa r.env req d i uid with hcoa | hcoa
      · rw [hcoa]
      · rw [hcoa, dupKey_navyCopy]
    exact ⟨hkey ▸ hinactive, rfl, d.pending.coa, hkey, by simp⟩
  | _ => simp at hmem

/-- Two taskings that one request issues under different ids are a navy pair. -/
theorem Script.issued_pair {s : C2Runtime F G} {r : Served F Obs G} {es : List (GateEvent F)}
    (hs : Script s r es) {t₁ t₂ : Tasking F} (h₁ : .issued t₁ ∈ es) (h₂ : .issued t₂ ∈ es)
    (hne : t₁.coa.coaId ≠ t₂.coa.coaId) :
    ∃ req p, r.req.approve? = some req ∧ s.proposals.get req.coaId = some p ∧
      (t₁.coa = p.coa ∧ t₂.coa = navyCopy r.env p.coa ∨
        t₂.coa = p.coa ∧ t₁.coa = navyCopy r.env p.coa) := by
  cases hs with
  | autoApproved req coa interpretation reason hreq hcoa hverify htier =>
    obtain rfl : t₁ = autoTasking r.env req coa := by simpa using h₁
    obtain rfl : t₂ = autoTasking r.env req coa := by simpa using h₂
    exact absurd rfl hne
  | approved req d hreq hseal hverdict =>
    refine ⟨req, d.pending, hreq, (sealDecision_ok hseal).1, ?_⟩
    rcases mem_approved h₁ with h | h | h | ⟨i, uid, _, h | h⟩ <;> cases h
    rcases mem_approved h₂ with h | h | h | ⟨j, vid, _, h | h⟩ <;> cases h
    rcases approvedTasking_coa r.env req d i uid with hi | hi <;>
      rcases approvedTasking_coa r.env req d j vid with hj | hj
    · exact absurd (by rw [hi, hj]) hne
    · exact Or.inl ⟨hi, hj⟩
    · exact Or.inr ⟨hj, hi⟩
    · exact absurd (by rw [hi, hj]) hne
  | _ => simp at h₁

/-- What stands in the inbox after a step was there before, up to its acknowledgement, or has
been issued by the step. -/
theorem Script.inbox_origin {s : C2Runtime F G} {r : Served F Obs G} {es : List (GateEvent F)}
    (hs : Script s r es) {k : String} {t : Tasking F}
    (h : ((ran r.env.appendRaises es).foldl apply s.gate).inbox.get k = some t) :
    (∃ u, s.inbox.get k = some u ∧ u.asIssued = t.asIssued) ∨
      (.issued t ∈ ran r.env.appendRaises es ∧ t.coa.coaId = k) := by
  rcases inbox_foldl h with hget | hissued | hacked
  · exact Or.inl ⟨t, hget, rfl⟩
  · exact Or.inr hissued
  · obtain ⟨req, u, _, _, hget, rfl⟩ :=
      hs.of_acked ((ran_sublist r.env.appendRaises es).subset hacked)
    exact Or.inl ⟨u, hget, rfl⟩

theorem registered_step {tr : List (Transition (C2Runtime F G) (Served F Obs G))}
    {s s' : C2Runtime F G} {r : Served F Obs G} (h : Registered tr s)
    (hstep : Guarded ApprovesInactive Step s r s') : Registered (tr ++ [⟨s, r, s'⟩]) s' := by
  obtain ⟨hguard, hstep⟩ := hstep
  obtain ⟨script, hscript, happ⟩ := hstep.applied
  have hsub := (ran_sublist r.env.appendRaises script).subset
  have hclear : .cleared ∉ ran r.env.appendRaises script := fun hmem =>
    hguard.1 (hscript.of_cleared (hsub hmem))
  have hgate : s'.gate = (ran r.env.appendRaises script).foldl apply s.gate := happ.gate
  have hactive : s.policy.interlock.activeCoaIds ⊆ s'.policy.interlock.activeCoaIds := by
    change s.gate.active ⊆ s'.gate.active
    rw [hgate]
    exact active_foldl hclear
  have horigin : ∀ k t, s'.inbox.get k = some t →
      (∃ u, s.inbox.get k = some u ∧ u.asIssued = t.asIssued) ∨
        (.issued t ∈ ran r.env.appendRaises script ∧ t.coa.coaId = k) := by
    intro k t hget
    apply hscript.inbox_origin
    rw [← hgate]
    exact hget
  constructor
  · intro k t hget
    rcases horigin k t hget with ⟨u, hu, heq⟩ | ⟨hissued, hk⟩
    · rw [← Tasking.coa_eq heq]
      exact hactive (h.active k u hu)
    · obtain ⟨_, _, coa, hkey, hactivated⟩ := hscript.issued_inactive hguard hissued
      rw [← hkey]
      change _ ∈ s'.gate.active
      rw [hgate]
      exact (activated_foldl hclear hactivated).1
  · intro k₁ t₁ k₂ t₂ hget₁ hget₂ hkey
    rcases horigin k₁ t₁ hget₁ with ⟨u₁, hu₁, heq₁⟩ | ⟨hissued₁, hk₁⟩ <;>
      rcases horigin k₂ t₂ hget₂ with ⟨u₂, hu₂, heq₂⟩ | ⟨hissued₂, hk₂⟩
    · -- both were there
      rw [← Tasking.coa_eq heq₁, ← Tasking.coa_eq heq₂] at hkey
      rcases h.pair k₁ u₁ k₂ u₂ hu₁ hu₂ hkey with hk | hpair | hpair
      · exact Or.inl hk
      · exact Or.inr (Or.inl (hpair.mono heq₁ heq₂ _))
      · exact Or.inr (Or.inr (hpair.mono heq₂ heq₁ _))
    · -- the key of the new one was not active, the key of the old one was
      refine absurd ?_ (hscript.issued_inactive hguard hissued₂).1
      rw [← hkey, ← Tasking.coa_eq heq₁]
      exact h.active k₁ u₁ hu₁
    · refine absurd ?_ (hscript.issued_inactive hguard hissued₁).1
      rw [hkey, ← Tasking.coa_eq heq₂]
      exact h.active k₂ u₂ hu₂
    · -- both are new: one request issued them
      by_cases hk : k₁ = k₂
      · exact Or.inl hk
      have hi₁ : t₁.asIssued = t₁ := (hscript.issued_inactive hguard hissued₁).2.1
      have hi₂ : t₂.asIssued = t₂ := (hscript.issued_inactive hguard hissued₂).2.1
      have hd₁ := (happ.issued t₁).mpr hissued₁
      have hd₂ := (happ.issued t₂).mpr hissued₂
      obtain ⟨req, p, hreq, hget, hcoa | hcoa⟩ := hscript.issued_pair (hsub hissued₁)
        (hsub hissued₂) (by rw [hk₁, hk₂]; exact hk)
      · exact Or.inr (Or.inl ⟨_, List.mem_append_right _ (List.mem_singleton_self _),
          by rwa [hi₁], by rwa [hi₂], req, p, hreq, hget, hcoa⟩)
      · exact Or.inr (Or.inr ⟨_, List.mem_append_right _ (List.mem_singleton_self _),
          by rwa [hi₂], by rwa [hi₁], req, p, hreq, hget, hcoa⟩)

/-- In every run without a reset in which no entry is approved whose key is active, two taskings
of the inbox for the same target, intent and coordinates are one tasking or a navy pair that one
approval issued. -/
theorem no_duplicate_taskings (policy : TieredPolicy F) (audit : AuditTrail F) (connected : Bool)
    {tr : List (Transition (C2Runtime F G) (Served F Obs G))} {s : C2Runtime F G}
    (h : Run (Guarded ApprovesInactive Step) (C2Runtime.fresh F Obs policy audit connected) tr s)
    {k₁ k₂ : String} {t₁ t₂ : Tasking F} (h₁ : s.inbox.get k₁ = some t₁)
    (h₂ : s.inbox.get k₂ = some t₂) (htriple : t₁.coa.triple = t₂.coa.triple) :
    k₁ = k₂ ∨ NavyPair tr t₁ t₂ ∨ NavyPair tr t₂ t₁ := by
  have hregistered : Registered tr s := by
    refine h.history (J := Registered) ?_ ?_
    · constructor <;> simp [C2Runtime.fresh]
    · intro tr t l u hJ hstep
      exact registered_step hJ hstep
  exact hregistered.pair k₁ t₁ k₂ t₂ h₁ h₂ (dupKey_congr htriple)

end

/-- The guardrail's request and the approval of the fallback it queues. -/
def guardrailRun : List (Served Whole Unit Unit) :=
  [served (.guardrail ⟨"S1_trojan", "u1", "navy", none⟩), served (.approve ⟨"uuid-3", "yes", "op"⟩)]

/-- The approved fallback leaves two taskings for one target, which are a navy pair. -/
theorem no_duplicate_taskings_navy_pair :
    letI := plainHash
    ∃ t₁ t₂, (guardrailRun.foldl serve demoServer).inbox.get "uuid-3" = some t₁ ∧
      (guardrailRun.foldl serve demoServer).inbox.get "uuid-1" = some t₂ ∧
        ("uuid-3" = "uuid-1" ∨ NavyPair (demoTrace guardrailRun) t₁ t₂ ∨
          NavyPair (demoTrace guardrailRun) t₂ t₁) := by
  let := plainHash
  have hsome₁ : ((guardrailRun.foldl serve demoServer).inbox.get "uuid-3").isSome = true := by
    decide +kernel
  have hsome₂ : ((guardrailRun.foldl serve demoServer).inbox.get "uuid-1").isSome = true := by
    decide +kernel
  have htriple : ((guardrailRun.foldl serve demoServer).inbox.get "uuid-3").map (·.coa.triple) =
      ((guardrailRun.foldl serve demoServer).inbox.get "uuid-1").map (·.coa.triple) := by
    decide +kernel
  have hinactive : (serve demoServer (served (.guardrail ⟨"S1_trojan", "u1", "navy", none⟩))
      ).policy.interlock.activeCoaIds = ∅ := by
    decide +kernel
  obtain ⟨t₁, h₁⟩ := Option.isSome_iff_exists.mp hsome₁
  obtain ⟨t₂, h₂⟩ := Option.isSome_iff_exists.mp hsome₂
  rw [h₁, h₂] at htriple
  refine ⟨t₁, t₂, h₁, h₂, ?_⟩
  refine no_duplicate_taskings demoPolicy ⟨[], genesisPrev⟩ true
    (Run.of_trace guardrailRun demoServer ?_) h₁ h₂ (Option.some.inj htriple)
  intro x hx
  simp only [guardrailRun, trace, List.mem_cons, List.not_mem_nil, or_false] at hx
  rcases hx with rfl | rfl
  · refine ⟨⟨by simp [Request.IsReset, served], ?_⟩, rfl⟩
    intro req p hreq
    cases hreq
  · refine ⟨⟨by simp [Request.IsReset, served], ?_⟩, rfl⟩
    intro req p _ _ _
    refine ⟨?_, fun _ => rfl⟩
    rw [hinactive]
    exact Finset.notMem_empty _

/-- Two proposals for one target, both queued before the first is approved: both are issued. -/
theorem two_approvals_duplicate :
    letI := plainHash
    ∃ (tr : List DemoTransition) (s : C2Runtime Whole Unit) (t₁ t₂ : _),
      Run Step demoServer tr s ∧ (∀ x ∈ tr, ¬ x.label.req.IsReset) ∧
        s.inbox.get "a" = some t₁ ∧ s.inbox.get "b" = some t₂ ∧ t₁.coa.triple = t₂.coa.triple ∧
        ¬ ("a" = "b" ∨ NavyPair tr t₁ t₂ ∨ NavyPair tr t₂ t₁) := by
  let := plainHash
  let rs := [served (propose (demoCoa "a" "INSPECT" .tier1Hitl)),
    served (propose (demoCoa "b" "INSPECT" .tier1Hitl)), served (.approve ⟨"a", "yes", "op"⟩),
    served (.approve ⟨"b", "yes", "op"⟩)]
  have hlabel : ∀ x ∈ demoTrace rs, ¬ x.label.req.IsReset ∧ x.label.env.uuid4 1 = "uuid-1" := by
    intro x hx
    simp only [rs, demoTrace, trace, List.mem_cons, List.not_mem_nil, or_false] at hx
    rcases hx with rfl | rfl | rfl | rfl <;>
      exact ⟨by simp [Request.IsReset, served, propose], rfl⟩
  refine ⟨demoTrace rs, _, _, _, run_demoTrace rs, fun x hx => (hlabel x hx).1, rfl, rfl, rfl, ?_⟩
  -- the second tasking of a navy pair has a fresh id
  have hpair : ∀ t u : Tasking Whole, NavyPair (demoTrace rs) t u → u.coa.coaId = "uuid-1" := by
    rintro t u ⟨x, hx, _, _, req, p, _, _, _, hu⟩
    rw [hu]
    exact (hlabel x hx).2
  rintro (h | h | h)
  · exact absurd h (by decide)
  · exact absurd (hpair _ _ h) (by decide)
  · exact absurd (hpair _ _ h) (by decide)

end NexusC2

import NexusC2.App.Proofs.Refinement
import NexusC2.Misc.Run

/-!
# What the events of a step do

A step applies the events of a script that ran, one after the other (`Step.events`). The lemmas
here say what such a sequence leaves in proposals, inbox, trail and log, and which events a
script can have run: the laws of the gate are read off them and carried along a run.
-/

namespace NexusC2

open GateState

section

variable {F : Type} [PyFloatOps F] [Sha256]

/-! ## Sequences of events -/

namespace GateState

omit [PyFloatOps F] [Sha256] in
theorem ran_sublist (raises : String → Nat → Option Exc) (es : List (GateEvent F)) :
    (ran raises es).Sublist es := by
  induction es with
  | nil => exact .slnil
  | cons e es ih =>
    cases e with
    | recorded name severity time place data =>
      cases hraise : raises name place with
      | some _ => simp [ran, hraise]
      | none => simpa [ran, hraise] using ih
    | _ => simpa [ran] using ih

omit [PyFloatOps F] [Sha256] in
/-- A script none of whose appends raises runs to its end. -/
theorem ran_eq_self {raises : String → Nat → Option Exc} {es : List (GateEvent F)}
    (h : ∀ name severity time place data, .recorded name severity time place data ∈ es →
      raises name place = none) :
    ran raises es = es := by
  induction es with
  | nil => rfl
  | cons e es ih =>
    have htail := ih fun name severity time place data hmem =>
      h name severity time place data (List.mem_cons_of_mem _ hmem)
    cases e with
    | recorded name severity time place data =>
      simp [ran, h name severity time place data List.mem_cons_self, htail]
    | _ => simp [ran, htail]

/-- A law that every event of a sequence preserves. -/
theorem foldl_apply {I : GateState F → Prop} {es : List (GateEvent F)} {s : GateState F} (h : I s)
    (hstep : ∀ e ∈ es, ∀ s, I s → I (s.apply e)) : I (es.foldl apply s) := by
  induction es generalizing s with
  | nil => exact h
  | cons e es ih =>
    refine ih (hstep e List.mem_cons_self s h) ?_
    intro e' hmem
    exact hstep e' (List.mem_cons_of_mem _ hmem)

/-- A pending proposal was there before or has been queued. -/
theorem proposals_foldl {es : List (GateEvent F)} {s : GateState F} {k : String} {p : Pending F}
    (h : (es.foldl apply s).proposals.get k = some p) :
    s.proposals.get k = some p ∨ (.queued p ∈ es ∧ p.coa.coaId = k) := by
  induction es generalizing s with
  | nil => exact Or.inl h
  | cons e es ih =>
    rcases ih h with hget | ⟨hmem, hk⟩
    · cases e with
      | queued q =>
        simp only [apply, Dict.get_set] at hget
        by_cases hk : q.coa.coaId = k
        · rw [if_pos hk] at hget
          obtain rfl := Option.some.inj hget
          exact Or.inr ⟨List.mem_cons_self, hk⟩
        · rw [if_neg hk] at hget
          exact Or.inl hget
      | dropped coaId =>
        simp only [apply, Dict.get_erase] at hget
        by_cases hk : coaId = k
        · simp [hk] at hget
        · rw [if_neg hk] at hget
          exact Or.inl hget
      | cleared => simp [apply] at hget
      | _ => exact Or.inl hget
    · exact Or.inr ⟨List.mem_cons_of_mem _ hmem, hk⟩

/-- A proposal that is gone has been dropped or cleared. -/
theorem dropped_foldl {es : List (GateEvent F)} {s : GateState F} {k : String} {p : Pending F}
    (hpre : s.proposals.get k = some p) (hpost : (es.foldl apply s).proposals.get k = none) :
    .dropped k ∈ es ∨ .cleared ∈ es := by
  induction es generalizing s p with
  | nil =>
    rw [List.foldl_nil, hpre] at hpost
    cases hpost
  | cons e es ih =>
    cases hget : (s.apply e).proposals.get k with
    | some q =>
      rcases ih hget hpost with hmem | hmem
      · exact Or.inl (List.mem_cons_of_mem _ hmem)
      · exact Or.inr (List.mem_cons_of_mem _ hmem)
    | none =>
      cases e with
      | queued q =>
        by_cases hk : q.coa.coaId = k <;> simp [apply, hk, hpre] at hget
      | dropped coaId =>
        by_cases hk : coaId = k
        · exact Or.inl (by simp [hk])
        · simp [apply, hk, hpre] at hget
      | cleared => exact Or.inr List.mem_cons_self
      | _ =>
        simp only [apply, hpre] at hget
        cases hget

/-- A tasking of the inbox was there before, has been issued, or is one that has just been
acknowledged. -/
theorem inbox_foldl {es : List (GateEvent F)} {s : GateState F} {k : String} {t : Tasking F}
    (h : (es.foldl apply s).inbox.get k = some t) :
    s.inbox.get k = some t ∨ (.issued t ∈ es ∧ t.coa.coaId = k) ∨ .acked k t ∈ es := by
  induction es generalizing s with
  | nil => exact Or.inl h
  | cons e es ih =>
    rcases ih h with hget | ⟨hmem, hk⟩ | hmem
    · cases e with
      | issued u =>
        simp only [apply, Dict.get_set] at hget
        by_cases hk : u.coa.coaId = k
        · rw [if_pos hk] at hget
          obtain rfl := Option.some.inj hget
          exact Or.inr (Or.inl ⟨List.mem_cons_self, hk⟩)
        · rw [if_neg hk] at hget
          exact Or.inl hget
      | acked coaId u =>
        simp only [apply, Dict.get_set] at hget
        by_cases hk : coaId = k
        · rw [if_pos hk] at hget
          obtain rfl := Option.some.inj hget
          subst hk
          exact Or.inr (Or.inr List.mem_cons_self)
        · rw [if_neg hk] at hget
          exact Or.inl hget
      | cleared => simp [apply] at hget
      | _ => exact Or.inl hget
    · exact Or.inr (Or.inl ⟨List.mem_cons_of_mem _ hmem, hk⟩)
    · exact Or.inr (Or.inr (List.mem_cons_of_mem _ hmem))

/-- An acknowledged id was there before or has just been acknowledged. -/
theorem acked_foldl {es : List (GateEvent F)} {s : GateState F} {k : String}
    (h : k ∈ (es.foldl apply s).acked) : k ∈ s.acked ∨ ∃ t, .acked k t ∈ es := by
  induction es generalizing s with
  | nil => exact Or.inl h
  | cons e es ih =>
    rcases ih h with hmem | ⟨t, hmem⟩
    · cases e with
      | acked coaId u =>
        simp only [apply, Finset.mem_insert] at hmem
        rcases hmem with rfl | hmem
        · exact Or.inr ⟨u, List.mem_cons_self⟩
        · exact Or.inl hmem
      | cleared => simp [apply] at hmem
      | _ => exact Or.inl hmem
    · exact Or.inr ⟨t, List.mem_cons_of_mem _ hmem⟩

/-- The trail only grows, unless a snapshot is restored. -/
theorem records_foldl {es : List (GateEvent F)} {s : GateState F}
    (hes : ∀ records, .restored records ∉ es) :
    s.audit.records <+: (es.foldl apply s).audit.records := by
  refine foldl_apply (I := fun s' => s.audit.records <+: s'.audit.records) List.prefix_rfl ?_
  intro e hmem s' h
  cases e with
  | recorded name severity time place data => exact h.trans (List.prefix_append _ _)
  | restored records => exact absurd hmem (hes records)
  | _ => exact h

/-- What is recorded stands in the trail after the records that were there. -/
theorem recorded_split {es : List (GateEvent F)} {s : GateState F}
    (hes : ∀ records, .restored records ∉ es) {name severity time : String} {place : Nat}
    {data : Fields F} (h : .recorded name severity time place data ∈ es) :
    ∃ prev between later, (es.foldl apply s).audit.records =
      s.audit.records ++ between ++ sealRecord prev name severity time data :: later := by
  induction es generalizing s with
  | nil => cases h
  | cons e es ih =>
    have hhead : ∀ records, .restored records ∉ [e] := by
      intro records hmem
      rw [List.mem_singleton] at hmem
      exact hes records (hmem ▸ List.mem_cons_self)
    have htail := fun records hmem => hes records (List.mem_cons_of_mem _ hmem)
    rcases List.mem_cons.mp h with rfl | h
    · obtain ⟨later, hlater⟩ := records_foldl (s := s.apply (.recorded name severity time place data))
        htail
      refine ⟨s.audit.prev, [], later, ?_⟩
      rw [List.foldl_cons, ← hlater, List.append_nil]
      simp [apply, AuditTrail.append]
    · obtain ⟨first, hfirst⟩ := records_foldl (s := s) hhead
      obtain ⟨prev, between, later, heq⟩ := ih htail h (s := s.apply e)
      refine ⟨prev, first ++ between, later, ?_⟩
      rw [List.foldl_cons, heq, ← List.append_assoc, hfirst]
      rfl

/-- What has been recorded stands in the trail from then on. -/
theorem recorded_foldl {es : List (GateEvent F)} {s : GateState F}
    (hes : ∀ records, .restored records ∉ es) {name severity time : String} {place : Nat}
    {data : Fields F} (h : .recorded name severity time place data ∈ es) :
    ∃ prev, sealRecord prev name severity time data ∈ (es.foldl apply s).audit.records := by
  obtain ⟨prev, between, later, heq⟩ := recorded_split hes h (s := s)
  refine ⟨prev, ?_⟩
  rw [heq]
  exact List.mem_append_right _ List.mem_cons_self

/-- The active ids only grow while nothing is reset. -/
theorem active_foldl {es : List (GateEvent F)} {s : GateState F} (hes : .cleared ∉ es) :
    s.active ⊆ (es.foldl apply s).active := by
  refine foldl_apply (I := fun s' => s.active ⊆ s'.active) (Finset.Subset.refl _) ?_
  intro e hmem s' h
  cases e with
  | activated coa =>
    intro k hk
    exact Finset.mem_insert_of_mem (Finset.mem_insert_of_mem (h hk))
  | cleared => exact absurd hmem hes
  | _ => exact h

/-- The key and the id of a COA that is activated are active from then on. -/
theorem activated_foldl {es : List (GateEvent F)} {s : GateState F} (hes : .cleared ∉ es)
    {coa : CourseOfAction F} (h : .activated coa ∈ es) :
    DeterministicInterlock.dupKey coa ∈ (es.foldl apply s).active ∧
      coa.coaId ∈ (es.foldl apply s).active := by
  induction es generalizing s with
  | nil => cases h
  | cons e es ih =>
    have htail : .cleared ∉ es := fun hmem => hes (List.mem_cons_of_mem _ hmem)
    rcases List.mem_cons.mp h with rfl | h
    · have hid := Finset.mem_insert_of_mem (a := coa.coaId)
        (b := DeterministicInterlock.dupKey coa) (Finset.mem_insert_self coa.coaId s.active)
      exact ⟨active_foldl htail (Finset.mem_insert_self _ _), active_foldl htail hid⟩
    · exact ih htail h

end GateState

/-! ## The log -/

namespace GateEvent

def verified? : GateEvent F → Option (CourseOfAction F × Bool)
  | .verified coa ok => some (coa, ok)
  | _ => none

def queued? : GateEvent F → Option (Pending F)
  | .queued p => some p
  | _ => none

def issued? : GateEvent F → Option (Tasking F)
  | .issued t => some t
  | _ => none

end GateEvent

/-- The log grows by the checks, proposals and taskings among the events. -/
theorem log_foldl (es : List (GateEvent F)) (s : GateState F) :
    (es.foldl apply s).log =
      { verified := s.log.verified ++ es.filterMap GateEvent.verified?
        queued := s.log.queued ++ es.filterMap GateEvent.queued?
        issued := s.log.issued ++ es.filterMap GateEvent.issued? } := by
  induction es generalizing s with
  | nil => simp
  | cons e es ih =>
    rw [List.foldl_cons, ih]
    cases e <;>
      simp [apply, List.filterMap_cons, GateEvent.verified?, GateEvent.queued?, GateEvent.issued?]

end

section

variable {F Obs G : Type}

/-- What the gate did in a transition. -/
def Transition.did (x : Transition (C2Runtime F G) (Served F Obs G)) : GateLog F :=
  { verified := x.post.log.verified.drop x.pre.log.verified.length
    queued := x.post.log.queued.drop x.pre.log.queued.length
    issued := x.post.log.issued.drop x.pre.log.issued.length }

variable [PyFloatOps F] [Sha256]

/-- The events a transition applied, and what they put in the log. -/
structure Applied (x : Transition (C2Runtime F G) (Served F Obs G))
    (es : List (GateEvent F)) : Prop where
  gate : x.post.gate = es.foldl apply x.pre.gate
  verified : ∀ coa ok, (coa, ok) ∈ x.did.verified ↔ .verified coa ok ∈ es
  queued : ∀ p, p ∈ x.did.queued ↔ .queued p ∈ es
  issued : ∀ t, t ∈ x.did.issued ↔ .issued t ∈ es

theorem Applied.of_gate {x : Transition (C2Runtime F G) (Served F Obs G)}
    {es : List (GateEvent F)} (hgate : x.post.gate = es.foldl apply x.pre.gate) :
    Applied x es := by
  have hlog : x.post.log = _ := (congrArg GateState.log hgate).trans (log_foldl es x.pre.gate)
  have hpre : x.pre.gate.log = x.pre.log := rfl
  refine ⟨hgate, ?_, ?_, ?_⟩
  · intro coa ok
    simp only [Transition.did, hlog, hpre, List.drop_left, List.mem_filterMap]
    constructor
    · rintro ⟨e, hmem, he⟩
      cases e <;> simp_all [GateEvent.verified?]
    · intro hmem
      exact ⟨_, hmem, rfl⟩
  · intro p
    simp only [Transition.did, hlog, hpre, List.drop_left, List.mem_filterMap]
    constructor
    · rintro ⟨e, hmem, he⟩
      cases e <;> simp_all [GateEvent.queued?]
    · intro hmem
      exact ⟨_, hmem, rfl⟩
  · intro t
    simp only [Transition.did, hlog, hpre, List.drop_left, List.mem_filterMap]
    constructor
    · rintro ⟨e, hmem, he⟩
      cases e <;> simp_all [GateEvent.issued?]
    · intro hmem
      exact ⟨_, hmem, rfl⟩

variable [EntityGraph F Obs G]

/-- A step applies what ran of one of its scripts. -/
theorem Step.applied {s s' : C2Runtime F G} {r : Served F Obs G} (h : Step s r s') :
    ∃ script, Script s r script ∧ Applied ⟨s, r, s'⟩ (ran r.env.appendRaises script) := by
  obtain ⟨script, hscript, hgate⟩ := handle_script r s
  refine ⟨script, hscript, .of_gate ?_⟩
  rw [show s' = serve s r from h]
  exact hgate

/-! ## The events of a script -/

namespace Script

variable {s : C2Runtime F G} {r : Served F Obs G} {es : List (GateEvent F)}

omit [EntityGraph F Obs G] in
theorem mem_unitEvents {env : Env F Obs G} {req : ApproveRequest} {d : SealedDecision F}
    {index : Nat} {units : List String} {e : GateEvent F}
    (h : e ∈ unitEvents env req d index units) :
    ∃ i uid, i < index + units.length ∧ (e = .issued (approvedTasking env req d i uid) ∨
      e = .recorded "tasking_issued" "High" (env.utcNow (100 + i)) i
        (issuedData (approvedTasking env req d i uid))) := by
  induction units generalizing index with
  | nil => cases h
  | cons uid units ih =>
    simp only [unitEvents, List.mem_cons] at h
    rcases h with h | h | h
    · exact ⟨index, uid, by simp, Or.inl h⟩
    · exact ⟨index, uid, by simp, Or.inr h⟩
    · obtain ⟨i, uid', hi, h⟩ := ih h
      refine ⟨i, uid', ?_, h⟩
      rw [List.length_cons]
      omega

omit [EntityGraph F Obs G] in
/-- Every tasking of a loop over the units is followed by its record. -/
theorem record_of_unitEvents {env : Env F Obs G} {req : ApproveRequest} {d : SealedDecision F}
    {index : Nat} {units : List String} {t : Tasking F}
    (h : .issued t ∈ unitEvents env req d index units) :
    ∃ i, .recorded "tasking_issued" "High" (env.utcNow (100 + i)) i (issuedData t) ∈
      unitEvents env req d index units := by
  induction units generalizing index with
  | nil => cases h
  | cons uid units ih =>
    simp only [unitEvents, List.mem_cons, GateEvent.issued.injEq, reduceCtorEq, false_or] at h
    rcases h with rfl | h
    · exact ⟨index, by simp [unitEvents]⟩
    · obtain ⟨i, hmem⟩ := ih h
      exact ⟨i, by simp [unitEvents, hmem]⟩

omit [EntityGraph F Obs G] in
/-- The events of an approval. -/
theorem mem_approved {env : Env F Obs G} {req : ApproveRequest} {d : SealedDecision F}
    {e : GateEvent F}
    (h : e ∈ .dropped req.coaId ::
      .recorded "gate_decision" "High" (env.utcNow 100) 0 (decisionData req d) ::
      (unitEvents env req d 0 d.pending.units ++ [.activated d.pending.coa])) :
    e = .dropped req.coaId ∨
      e = .recorded "gate_decision" "High" (env.utcNow 100) 0 (decisionData req d) ∨
      e = .activated d.pending.coa ∨ ∃ i uid, i < d.pending.units.length ∧
        (e = .issued (approvedTasking env req d i uid) ∨
          e = .recorded "tasking_issued" "High" (env.utcNow (100 + i)) i
            (issuedData (approvedTasking env req d i uid))) := by
  simp only [List.mem_cons, List.mem_append, List.not_mem_nil, or_false] at h
  rcases h with h | h | h | h
  · exact Or.inl h
  · exact Or.inr (Or.inl h)
  · have hunit := mem_unitEvents h
    rw [Nat.zero_add] at hunit
    exact Or.inr (Or.inr (Or.inr hunit))
  · exact Or.inr (Or.inr (Or.inl h))

/-- A tasking is issued to a Tier-0 COA that has just been verified, or by an approval. -/
theorem of_issued (hs : Script s r es) {t : Tasking F} (h : .issued t ∈ es) :
    (∃ req coa interpretation reason, r.req = .proposals req ∧
      (proposedCoa r.env req s).1 = .ok (coa, interpretation) ∧
      s.policy.interlock.verify coa = .ok (true, reason) ∧ coa.tier = .tier0Autonomous ∧
      t = autoTasking r.env req coa) ∨
    ∃ req d, r.req.approve? = some req ∧ sealDecision r.env req s = .ok d ∧
      d.verdict = .approved ∧ ∃ i uid, i < d.pending.units.length ∧
        t = approvedTasking r.env req d i uid := by
  cases hs with
  | autoApproved req coa interpretation reason hreq hcoa hverify htier =>
    refine Or.inl ⟨req, coa, interpretation, reason, hreq, hcoa, hverify, htier, ?_⟩
    simpa using h
  | approved req d hreq hseal hverdict =>
    refine Or.inr ⟨req, d, hreq, hseal, hverdict, ?_⟩
    rcases mem_approved h with h | h | h | ⟨i, uid, hi, h | h⟩ <;> cases h
    exact ⟨i, uid, hi, rfl⟩
  | _ => simp at h

omit [EntityGraph F Obs G] in
/-- An approval that has issued a tasking runs to its end, if all records of taskings are
written. -/
theorem ran_approved {env : Env F Obs G} {req : ApproveRequest} {d : SealedDecision F}
    {raises : String → Nat → Option Exc} (hraises : ∀ i, raises "tasking_issued" i = none)
    {t : Tasking F}
    (h : .issued t ∈ ran raises (.dropped req.coaId ::
      .recorded "gate_decision" "High" (env.utcNow 100) 0 (decisionData req d) ::
        (unitEvents env req d 0 d.pending.units ++ [.activated d.pending.coa]))) :
    ran raises (.dropped req.coaId ::
        .recorded "gate_decision" "High" (env.utcNow 100) 0 (decisionData req d) ::
        (unitEvents env req d 0 d.pending.units ++ [.activated d.pending.coa])) =
      .dropped req.coaId ::
        .recorded "gate_decision" "High" (env.utcNow 100) 0 (decisionData req d) ::
        (unitEvents env req d 0 d.pending.units ++ [.activated d.pending.coa]) := by
  cases hraise : raises "gate_decision" 0 with
  | some e => simp [ran, hraise] at h
  | none =>
    apply ran_eq_self
    intro name severity time place data hmem
    rcases mem_approved hmem with h | h | h | ⟨i, uid, hi, h | h⟩ <;> cases h
    · exact hraise
    · exact hraises _

/-- An acknowledgement changes the status of a tasking that is there. -/
theorem of_acked (hs : Script s r es) {k : String} {t : Tasking F} (h : .acked k t ∈ es) :
    ∃ req u, r.req.ack? = some req ∧ req.coaId = k ∧ s.inbox.get k = some u ∧
      t = { u with status := .acked, ack := some (ackRecordOf r.env req u) } := by
  cases hs with
  | acknowledged req u hreq hget =>
    simp only [List.mem_cons, GateEvent.acked.injEq, reduceCtorEq, List.not_mem_nil, or_false] at h
    obtain ⟨rfl, rfl⟩ := h
    exact ⟨req, u, hreq, rfl, hget, rfl⟩
  | approved req d hreq hseal hverdict =>
    rcases mem_approved h with h | h | h | ⟨i, uid, hi, h | h⟩ <;> cases h
  | _ => simp at h

/-- Only a reset clears. -/
theorem of_cleared (hs : Script s r es) (h : .cleared ∈ es) : r.req.IsReset := by
  cases hs with
  | cleared hreq => exact hreq
  | approved req d hreq hseal hverdict =>
    rcases mem_approved h with h | h | h | ⟨i, uid, hi, h | h⟩ <;> cases h
  | _ => simp at h

/-- Only a snapshot replaces the trail, and it does nothing else. -/
theorem of_restored (hs : Script s r es) {records : List (Record F)} (h : .restored records ∈ es) :
    r.req = .auditSnapshot records ∧ es = [.restored records] := by
  cases hs with
  | restored records' hreq =>
    simp only [List.mem_singleton, GateEvent.restored.injEq] at h
    subst h
    exact ⟨hreq, rfl⟩
  | approved req d hreq hseal hverdict =>
    rcases mem_approved h with h | h | h | ⟨i, uid, hi, h | h⟩ <;> cases h
  | _ => simp at h

end Script

/-! ## Keys -/

/-- Proposals and taskings stand under the id of their COA. -/
structure Keyed (s : GateState F) : Prop where
  proposals : ∀ k p, s.proposals.get k = some p → p.coa.coaId = k
  inbox : ∀ k t, s.inbox.get k = some t → t.coa.coaId = k

omit [PyFloatOps F] [Sha256] in
theorem keyed_fresh (policy : TieredPolicy F) (audit : AuditTrail F) (connected : Bool) :
    Keyed (C2Runtime.fresh F Obs policy audit connected : C2Runtime F G).gate := by
  constructor <;> simp [C2Runtime.fresh, C2Runtime.gate]

/-- What ran of a script keeps everything under its id. -/
theorem Script.keyed {s : C2Runtime F G} {r : Served F Obs G} {script : List (GateEvent F)}
    (hscript : Script s r script) (h : Keyed s.gate) (raises : String → Nat → Option Exc) :
    Keyed ((ran raises script).foldl apply s.gate) := by
  have hsub := (ran_sublist raises script).subset
  constructor
  · intro k p hget
    rcases proposals_foldl hget with hget | ⟨_, hk⟩
    · exact h.proposals k p hget
    · exact hk
  · intro k t hget
    rcases inbox_foldl hget with hget | ⟨_, hk⟩ | hmem
    · exact h.inbox k t hget
    · exact hk
    · obtain ⟨req, u, _, _, hu, rfl⟩ := hscript.of_acked (hsub hmem)
      exact h.inbox k u hu

theorem keyed_step {s s' : C2Runtime F G} {r : Served F Obs G} (h : Keyed s.gate)
    (hstep : Step s r s') : Keyed s'.gate := by
  obtain ⟨script, hscript, happ⟩ := hstep.applied
  have hgate : s'.gate = _ := happ.gate
  rw [hgate]
  exact hscript.keyed h _

end

/-! ## A server for concrete runs -/

/-- A graph without content. -/
instance : EntityGraph Whole Unit Unit where
  empty := ()
  ingest _ := pure ""
  observations _ := []
  row _ := ("", .null)
  validate _ := some ()
  validate_row _ := rfl

/-- The tank farm of the POI file. -/
def tankFarm : Poi Whole :=
  { poiId := some "POI-01"
    name := some "Jurong CNI"
    kind := some "civilian_cni"
    centerLat := .num 1
    centerLon := .num 103
    bufferM := some (.num 2500)
    offshoreNofireM := some (.num 1200) }

/-- The policy file, with the tank farm loaded. -/
def demoPolicy : TieredPolicy Whole :=
  { defaultTimeoutSeconds := .num 5
    confidenceAutoApproveMin := .num 1
    minCorroboratingSourcesTier1 := 2
    interlock :=
      { forbiddenZones := []
        maxSpeedKt := .num 40
        rejectNullCoordinates := true
        activeCoaIds := ∅
        cniPois := [tankFarm] } }

/-- A new server on an empty trail. -/
def demoServer : C2Runtime Whole Unit :=
  C2Runtime.fresh Whole Unit demoPolicy ⟨[], genesisPrev⟩ true

/-- A course of action against a ship. -/
def demoCoa (coaId intent : String) (tier : ActionTier) : CourseOfAction Whole :=
  { coaId := coaId
    tier := tier
    targetEntityId := "HAPPY-TUG-8"
    targetCoordinates := (.num 1, .num 103)
    intent := intent
    timeoutSeconds := .num 30
    preConditions := []
    postConditions := []
    invariants := []
    confidence := .num 0
    corroboratingSources := []
    rawInputDigest := ""
    speedKt := none
    metadata := [] }

/-- The scenario that drafts a terminal intercept over the tank farm. -/
def trojanScenario : Scenario Whole Unit :=
  { id := "S1_trojan"
    buildEvents := .ok []
    detect := fun _ => .ok (some
      { scenarioId := "S1_trojan"
        trackId := "RDR-NAVY-024"
        threatClass := "trojan_mothership_uas"
        warningMinutesEst := .num 3
        mismatchM := .num 0
        confidence := .num 1
        pictureSummary := ""
        adversarialHypothesis := ""
        spoofSources := []
        approachSources := []
        otherSources := []
        message := ""
        amberAlert := none
        sourceBreakdown := [] })
    buildCoa := fun _ _ _ =>
      .ok (demoCoa "coa-trojan" "TERMINAL_SAM_INTERCEPT" .tier1Hitl) }

/-- What a request finds outside when its appends raise as given. -/
def demoEnv (raises : String → Nat → Option Exc) : Env Whole Unit Unit :=
  { uuid4 := fun i => "uuid-" ++ toString i
    utcNow := fun _ => "2026-01-01T00:00:00+00:00"
    appendRaises := raises
    getScenario := fun id =>
      if id = "S1_trojan" then .ok trojanScenario else .error (.keyError id)
    normalizeSensorEvent := fun _ => .ok ()
    interpret := fun _ _ _ _ => .error .assertion
    loadPois := .ok [tankFarm] }

/-- A request whose appends all succeed. -/
def served (req : Request Whole) : Served Whole Unit Unit := ⟨demoEnv fun _ _ => none, req⟩

/-- A transition of a server for concrete runs. -/
abbrev DemoTransition : Type := Transition (C2Runtime Whole Unit) (Served Whole Unit Unit)

/-- The transitions of a new server. -/
def demoTrace [Sha256] (rs : List (Served Whole Unit Unit)) : List DemoTransition :=
  trace serve demoServer rs

theorem run_demoTrace [Sha256] (rs : List (Served Whole Unit Unit)) :
    Run Step demoServer (demoTrace rs) (rs.foldl serve demoServer) :=
  Run.of_trace rs demoServer (trace_post serve demoServer rs)

/-- The request that proposes a COA. -/
def propose (coa : CourseOfAction Whole) : Request Whole :=
  .proposals ⟨none, some coa, "u1", none, false, false⟩

end NexusC2

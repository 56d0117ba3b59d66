import NexusC2.App.Proofs.Refinement
import NexusC2.App.Restart

/-!
# What ingress can touch

An ingress handler puts observations into graph and database and appends records of two kinds to
the trail, whatever its adapters give it. An invariant that these two effects keep is kept by
every ingress request (`handleIngress_keeps`), and one they may break where they raise holds after
every request that is accepted (`Ingress.Accepted.leaves`); the gate sees the records alone
(`handleIngress_gate`).
-/

namespace NexusC2

open Handler (Ends Keeps)
open GateState

section

variable {F Obs G : Type} [PyFloatOps F] [Sha256] [EntityGraph F Obs G]

omit [EntityGraph F Obs G] in
/-- An append changes the trail, or nothing. -/
theorem auditAppend_keeps {I : C2Runtime F G → Prop} (env : Env F Obs G) (i : Nat)
    (name severity : String) (data : Fields F)
    (h : ∀ s time, I s → I { s with audit := (s.audit.append name severity time data).2 }) :
    Keeps I (auditAppend env i name severity data) := by
  intro s hs
  rw [auditAppend_apply]
  cases env.appendRaises name i with
  | some e => exact hs
  | none => exact h s _ hs

omit [PyFloatOps F] [Sha256] [EntityGraph F Obs G] in
theorem caught_keeps {I : C2Runtime F G → Prop} {kinds : Exc → Bool} {m : C2Handler F G Page}
    (h : Keeps I m) : Keeps I (caught kinds m) := by
  refine .tryCatch h fun e => ?_
  split
  · exact .pure
  · exact .raise

omit [PyFloatOps F] [Sha256] [EntityGraph F Obs G] in
theorem valueErrorAs400_ends {α : Type} {I E : C2Runtime F G → Prop} {m : C2Handler F G α}
    (h : Ends I E m) : Ends I E (valueErrorAs400 m) := by
  refine .reraise h fun e => ?_
  cases e <;> exact ⟨_, rfl⟩

omit [PyFloatOps F] [Sha256] [EntityGraph F Obs G] in
theorem feedErrorAs400_bind {α β : Type} {I E : C2Runtime F G → Prop} (hE : ∀ s, I s → E s)
    {r : Except Exc α} {f : α → C2Handler F G β} (hf : ∀ a, r = .ok a → Ends I E (f a)) :
    Ends I E (feedErrorAs400 (Handler.ofExcept r) >>= f) := by
  refine .reraise_bind hE (fun e => ?_) hf
  cases e <;> exact ⟨_, rfl⟩

omit [PyFloatOps F] [Sha256] [EntityGraph F Obs G] in
/-- What is asked for is resolved without a look at the server. -/
theorem candidateEvents_stateless (a : Adapters F Obs) (req : CandidateEventIngressRequest F) :
    Handler.Stateless (candidateEvents a req : C2Handler F G _) := by
  have hmapped : ∀ resolved detail,
      Handler.Stateless (mappedEvents resolved detail : C2Handler F G _) := by
    intro resolved detail
    refine .bind (.tryCatch .ofExcept fun e => ?_) fun (mapped, source) => ?_
    · cases e <;> exact .raise
    · cases detail with
      | none => exact .pure
      | some detail =>
        dsimp only
        split
        · exact .raise
        · exact .pure
  unfold candidateEvents
  split
  · exact hmapped _ _
  split
  · exact hmapped _ _
  split
  · exact hmapped _ _
  split
  · exact .bind .ofExcept fun _ => .pure
  split
  · exact .pure
  · exact .raise

/-- The events of the records ingress appends. -/
def ingressEvents : List String := ["candidate_event_ingested", "open_feed_ingested"]

/-- Every observation the adapters give has the property. -/
structure Adapters.Gives (a : Adapters F Obs) (env : Env F Obs G) (P : Obs → Prop) : Prop where
  sensor : ∀ event o, env.normalizeSensorEvent event = .ok o → P o
  candidate : ∀ payload o, a.candidateEventToObservation payload = .ok o → P o
  openFeed : ∀ feed payload useFixture source limit os resolved,
    a.openFeedToObservations feed payload useFixture source limit = .ok (os, resolved) →
      ∀ o ∈ os, P o

omit [PyFloatOps F] [Sha256] [EntityGraph F Obs G] in
theorem Adapters.gives_true (a : Adapters F Obs) (env : Env F Obs G) :
    a.Gives env fun _ => True :=
  ⟨fun _ _ _ => trivial, fun _ _ _ => trivial, fun _ _ _ _ _ _ _ _ _ _ => trivial⟩

/-! ## Each handler -/

section

variable {I E : C2Runtime F G → Prop} (hE : ∀ s, I s → E s) {env : Env F Obs G}
  {a : Adapters F Obs} {P : Obs → Prop} (hgives : a.Gives env P)
  (hingest : ∀ o : Obs, P o → Ends I E (ingestObservation o))
  (hrecord : ∀ (i : Nat) (name : String) (data : Fields F), name ∈ ingressEvents →
    Keeps I (auditAppend env i name "Info" data))

include hE

omit [PyFloatOps F] [Sha256] [EntityGraph F Obs G] in
theorem candidateEvents_ends (a : Adapters F Obs) (req : CandidateEventIngressRequest F) :
    Ends I E (candidateEvents a req) :=
  .of_stateless hE (candidateEvents_stateless a req)

include hgives hingest hrecord

theorem ingressCandidateEvent_ends (req : CandidateEventIngressRequest F) :
    Ends I E (ingressCandidateEvent env a req) := by
  refine .bind (candidateEvents_ends hE a req) fun (events, source) => ?_
  refine .bind (valueErrorAs400_ends (.mapEach fun event _ => ?_)) fun ingested => ?_
  · refine .ofExcept_bind hE fun obs hobs => ?_
    refine .bind (hingest obs (hgives.candidate _ _ hobs)) fun trackId => ?_
    exact .bind ((hrecord _ _ _ List.mem_cons_self).ends hE) fun _ => .pure
  · cases ingested with
    | nil => exact .raise hE
    | cons first rest => exact .pure

theorem ingestFeeds_ends (req : OpenFeedIngressRequest F) (source : Option String) (done : Nat)
    (feeds : List String) : Ends I E (ingestFeeds env a req source done feeds) := by
  induction feeds generalizing done with
  | nil => exact .pure
  | cons feed feeds ih =>
    refine feedErrorAs400_bind hE fun (observations, resolved) hfeed => ?_
    refine .bind (.mapEach fun o ho => ?_) fun items => ?_
    · have hmem : o.1 ∈ observations := List.fst_mem_of_mem_zipIdx ho
      refine .bind (hingest o.1 (hgives.openFeed _ _ _ _ _ _ _ hfeed _ hmem)) fun trackId => ?_
      refine .bind ((hrecord _ _ _ ?_).ends hE) fun _ => .pure
      exact List.mem_cons_of_mem _ List.mem_cons_self
    · exact .bind (ih _) fun _ => .pure

theorem ingressOpenFeed_ends (req : OpenFeedIngressRequest F) :
    Ends I E (ingressOpenFeed env a req) := by
  refine .bind (valueErrorAs400_ends (.ofExcept hE)) fun feeds => ?_
  dsimp only
  split
  · exact .raise hE
  split
  · exact .raise hE
  refine .bind ?_ fun source => ?_
  · unfold openFeedSource
    split
    · exact .bind (valueErrorAs400_ends (.ofExcept hE)) fun _ => .pure
    · exact .pure
  · split
    · exact .raise hE
    · refine .bind ?_ fun _ => .pure
      exact ingestFeeds_ends hE hgives hingest hrecord req source 0 feeds

omit [PyFloatOps F] [Sha256] hrecord in
theorem reloadRows_ends (rows : List (Json F)) : Ends I E (reloadRows env rows) := by
  induction rows with
  | nil => exact .pure
  | cons row rows ih =>
    unfold reloadRows
    split
    · exact .bind (hingest _ (hgives.sensor _ _ ‹_›)) fun _ => .bind ih fun _ => .pure
    · exact ih
    · exact ih
    · exact ih
    · exact .raise hE

omit [PyFloatOps F] [Sha256] hrecord in
theorem ingressForm_ends (mode : String) : Ends I E (ingressForm env a mode) := by
  unfold ingressForm
  split
  · refine .ofExcept_bind hE fun (observations, source) hfeed => ?_
    dsimp only
    split
    · exact .raise hE
    · refine .bind (.forEach fun o ho => ?_) fun _ => .pure
      exact .bind (hingest o (hgives.openFeed _ _ _ _ _ _ _ hfeed o ho)) fun _ => .pure
  split
  · refine .bind (.ofExcept hE) fun rows => ?_
    exact .bind (reloadRows_ends hE hgives hingest rows) fun _ => .pure
  · refine .bind (.ofExcept hE) fun ((events, source), label) => ?_
    dsimp only
    split
    · exact .raise hE
    · refine .bind (.forEach fun payload _ => ?_) fun _ => .pure
      refine .ofExcept_bind hE fun obs hobs => ?_
      exact .bind (hingest obs (hgives.candidate _ _ hobs)) fun _ => .pure

end

/-- What keeping an observation of the adapters and appending a record of ingress preserve, every
ingress request preserves. -/
theorem handleIngress_keeps_of {I : C2Runtime F G → Prop} {P : Obs → Prop} (i : Ingress F Obs G)
    (hgives : i.adapters.Gives i.env P) (hingest : ∀ o : Obs, P o → Keeps I (ingestObservation o))
    (hrecord : ∀ (place : Nat) (name : String) (data : Fields F), name ∈ ingressEvents →
      Keeps I (auditAppend i.env place name "Info" data))
    {s : C2Runtime F G} (hs : I s) : I (handleIngress i s).2 := by
  have hI : ∀ s, I s → I s := fun _ h => h
  unfold handleIngress
  split
  · rw [respond_snd]
    exact Keeps.snd (ingressCandidateEvent_ends hI hgives hingest hrecord _) hs
  · rw [respond_snd]
    exact Keeps.snd (ingressOpenFeed_ends hI hgives hingest hrecord _) hs
  · rw [respond_snd]
    exact Keeps.snd (caught_keeps (ingressForm_ends hI hgives hingest _)) hs

theorem handleIngress_keeps {I : C2Runtime F G → Prop} (i : Ingress F Obs G)
    (hingest : ∀ o : Obs, Keeps I (ingestObservation o))
    (hrecord : ∀ (place : Nat) (name : String) (data : Fields F), name ∈ ingressEvents →
      Keeps I (auditAppend i.env place name "Info" data))
    {s : C2Runtime F G} (hs : I s) : I (handleIngress i s).2 :=
  handleIngress_keeps_of i (i.adapters.gives_true i.env) (fun o _ => hingest o) hrecord hs

/-- The request is answered without an error, and the `try` of a form is left without one. -/
def Ingress.Accepted (i : Ingress F Obs G) (s : C2Runtime F G) : Prop :=
  match i.req with
  | .candidateEvent req => (ingressCandidateEvent i.env i.adapters req s).1.isOk = true
  | .openFeed req => (ingressOpenFeed i.env i.adapters req s).1.isOk = true
  | .form mode => (ingressForm i.env i.adapters mode s).1.isOk = true

/-- An accepted request leaves what an observation that is kept and a record leave. -/
theorem Ingress.Accepted.leaves {I : C2Runtime F G → Prop} {i : Ingress F Obs G}
    (hingest : ∀ o : Obs, Ends I (fun _ => True) (ingestObservation o))
    (hrecord : ∀ (place : Nat) (name : String) (data : Fields F), name ∈ ingressEvents →
      Keeps I (auditAppend i.env place name "Info" data))
    {s : C2Runtime F G} (h : i.Accepted s) (hs : I s) : I (handleIngress i s).2 := by
  have hE : ∀ s, I s → True := fun _ _ => trivial
  have hgives := i.adapters.gives_true i.env
  unfold Ingress.Accepted at h
  unfold handleIngress
  split <;> rw [respond_snd] <;> rename_i hreq <;> rw [hreq] at h <;> dsimp only at h
  · exact (ingressCandidateEvent_ends hE hgives (fun o _ => hingest o) hrecord _).snd h hs
  · exact (ingressOpenFeed_ends hE hgives (fun o _ => hingest o) hrecord _).snd h hs
  · -- nothing is caught
    have hform := (ingressForm_ends hE hgives (fun o _ => hingest o) _).snd h hs
    unfold verifyIngress caught Handler.tryCatch
    split <;> rename_i hrun <;> rw [hrun] at h hform
    · exact hform
    · cases h

/-- An event of the gate that is a record of ingress. -/
def GateEvent.IsIngress : GateEvent F → Prop
  | .recorded name _ _ _ _ => name ∈ ingressEvents
  | _ => False

/-- The gate sees of an ingress request the records it appends. -/
theorem handleIngress_gate (i : Ingress F Obs G) (s : C2Runtime F G) :
    ∃ es : List (GateEvent F), (∀ e ∈ es, e.IsIngress) ∧
      (handleIngress i s).2.gate = es.foldl apply s.gate ∧
      (handleIngress i s).2.policy = s.policy := by
  refine handleIngress_keeps (I := fun t => ∃ es : List (GateEvent F), (∀ e ∈ es, e.IsIngress) ∧
    t.gate = es.foldl apply s.gate ∧ t.policy = s.policy) i ?_ ?_
    ⟨[], fun _ h => absurd h List.not_mem_nil, rfl, rfl⟩
  · intro o
    refine .bind (.zoom fun _ _ h => h) fun _ => ?_
    exact .bind (.modify fun _ h => h) fun _ => .pure
  · intro place name data hname
    refine auditAppend_keeps _ _ _ _ _ ?_
    rintro t time ⟨es, hes, hgate, hpolicy⟩
    refine ⟨es ++ [.recorded name "Info" time place data], ?_, ?_, hpolicy⟩
    · intro e he
      rcases List.mem_append.mp he with he | he
      · exact hes e he
      · rw [List.mem_singleton.mp he]
        exact hname
    · rw [List.foldl_append, ← hgate]
      rfl

end

end NexusC2

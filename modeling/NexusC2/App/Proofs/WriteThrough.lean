import NexusC2.App.Proofs.RequestFrame

/-!
# The database holds what the gate holds

Every handler changes proposals, inbox and acked ids in memory and then in the database, and
nothing can raise between the two. So after every handler, however it ends, the tables hold the
three maps as `load_all` will read them (`Mirrored`), and a restart finds them again.
-/

namespace NexusC2

open Handler (Keeps)

section

variable {F Obs G : Type} [PyFloatOps F] [EntityGraph F Obs G]

omit [PyFloatOps F] in
/-- The tables hold these proposals, taskings and acknowledged ids, and dumps of observations. -/
structure Tables.Holds (Obs G : Type) [EntityGraph F Obs G] (t : Tables F)
    (proposals : Dict String (Pending F)) (inbox : Dict String (Tasking F))
    (acked : Finset String) : Prop where
  proposals : t.proposals = proposals.mapValues Pending.payload
  inbox : t.inbox = inbox.mapValues Tasking.toJson
  acked : t.acked = acked
  rows : ∀ v ∈ t.observations.values, ∃ o : Obs, v = (EntityGraph.row G o).2

omit [PyFloatOps F] in
/-- The connection is open and both its working tables and the stored ones hold this. -/
structure RuntimeStore.Mirrors (Obs G : Type) [EntityGraph F Obs G] (s : RuntimeStore F)
    (proposals : Dict String (Pending F)) (inbox : Dict String (Tasking F))
    (acked : Finset String) : Prop where
  connected : s.connected = true
  working : s.working.Holds Obs G proposals inbox acked
  committed : s.committed.Holds Obs G proposals inbox acked

omit [PyFloatOps F] in
/-- The database of a runtime holds the gate's maps. -/
def C2Runtime.Mirrored (Obs : Type) [EntityGraph F Obs G] (s : C2Runtime F G) : Prop :=
  s.store.Mirrors Obs G s.proposals s.inbox s.acked

omit [PyFloatOps F] in
theorem mirrored_fresh (policy : TieredPolicy F) (audit : AuditTrail F) :
    (C2Runtime.fresh F Obs policy audit true : C2Runtime F G).Mirrored Obs := by
  have hempty : (Tables.empty : Tables F).Holds Obs G ∅ ∅ ∅ :=
    ⟨rfl, rfl, rfl, fun v hv => absurd hv List.not_mem_nil⟩
  exact ⟨rfl, hempty, hempty⟩

/-! ## Statements -/

section

variable {proposals proposals' : Dict String (Pending F)} {inbox inbox' : Dict String (Tasking F)}
  {acked acked' : Finset String} {s : RuntimeStore F}

omit [PyFloatOps F] in
theorem RuntimeStore.Mirrors.write (h : s.Mirrors Obs G proposals inbox acked)
    {f : Tables F → Tables F} (hf : ∀ t : Tables F, t.Holds Obs G proposals inbox acked →
      (f t).Holds Obs G proposals' inbox' acked') : (s.write f).Mirrors Obs G proposals' inbox' acked' := by
  unfold RuntimeStore.write
  rw [if_pos h.connected]
  exact ⟨h.connected, hf _ h.working, hf _ h.working⟩

omit [PyFloatOps F] in
theorem RuntimeStore.Mirrors.setScenarioId (h : s.Mirrors Obs G proposals inbox acked)
    (value : Option String) : (s.setScenarioId value).Mirrors Obs G proposals inbox acked :=
  h.write fun _ ht => ⟨ht.proposals, ht.inbox, ht.acked, ht.rows⟩

omit [PyFloatOps F] in
theorem RuntimeStore.Mirrors.setFinding (h : s.Mirrors Obs G proposals inbox acked)
    (finding : Option (Json F)) : (s.setFinding finding).Mirrors Obs G proposals inbox acked :=
  h.write fun _ ht => ⟨ht.proposals, ht.inbox, ht.acked, ht.rows⟩

omit [PyFloatOps F] in
theorem RuntimeStore.Mirrors.upsertProposal (h : s.Mirrors Obs G proposals inbox acked) (k : String)
    (p : Pending F) :
    (s.upsertProposal k p.payload).Mirrors Obs G (proposals.set k p) inbox acked := by
  refine h.write fun t ht => ⟨?_, ht.inbox, ht.acked, ht.rows⟩
  rw [Dict.mapValues_set, ← ht.proposals]

omit [PyFloatOps F] in
theorem RuntimeStore.Mirrors.deleteProposal (h : s.Mirrors Obs G proposals inbox acked) (k : String) :
    (s.deleteProposal k).Mirrors Obs G (proposals.erase k) inbox acked := by
  refine h.write fun t ht => ⟨?_, ht.inbox, ht.acked, ht.rows⟩
  rw [Dict.mapValues_erase, ← ht.proposals]

omit [PyFloatOps F] in
theorem RuntimeStore.Mirrors.upsertInbox (h : s.Mirrors Obs G proposals inbox acked) (k : String)
    (t : Tasking F) : (s.upsertInbox k t.toJson).Mirrors Obs G proposals (inbox.set k t) acked := by
  refine h.write fun u hu => ⟨hu.proposals, ?_, hu.acked, hu.rows⟩
  rw [Dict.mapValues_set, ← hu.inbox]

omit [PyFloatOps F] in
theorem RuntimeStore.Mirrors.addAcked (h : s.Mirrors Obs G proposals inbox acked) (k : String) :
    (s.addAcked k).Mirrors Obs G proposals inbox (insert k acked) := by
  refine h.write fun t ht => ⟨ht.proposals, ht.inbox, ?_, ht.rows⟩
  rw [ht.acked]

omit [PyFloatOps F] in
theorem RuntimeStore.Mirrors.clear (h : s.Mirrors Obs G proposals inbox acked) :
    s.clear.Mirrors Obs G ∅ ∅ ∅ :=
  h.write fun _ _ => ⟨rfl, rfl, rfl, fun _ hv => absurd hv List.not_mem_nil⟩

omit [PyFloatOps F] in
theorem RuntimeStore.Mirrors.upsertObservation (h : s.Mirrors Obs G proposals inbox acked) (o : Obs) :
    (s.upsertObservation (EntityGraph.row G o)).Mirrors Obs G proposals inbox acked := by
  refine h.write fun t ht => ⟨ht.proposals, ht.inbox, ht.acked, fun v hv => ?_⟩
  obtain ⟨k, hget⟩ := Dict.mem_values.mp hv
  rw [Dict.get_set] at hget
  split at hget
  · exact ⟨o, (Option.some.inj hget).symm⟩
  · exact ht.rows v (Dict.mem_values.mpr ⟨k, hget⟩)

omit [PyFloatOps F] [EntityGraph F Obs G] in
/-- The values after the inserts were there or are among the rows. -/
theorem RuntimeStore.mem_insertRows {d : Dict String (Json F)} {rows : List (String × Json F)}
    {v : Json F} (h : v ∈ (RuntimeStore.insertRows d rows).1.values) :
    v ∈ d.values ∨ ∃ row ∈ rows, row.2 = v := by
  induction rows generalizing d with
  | nil => exact Or.inl h
  | cons row rows ih =>
    simp only [RuntimeStore.insertRows] at h
    split at h
    · exact Or.inl h
    · rcases ih h with h | ⟨row', hmem, heq⟩
      · obtain ⟨k, hget⟩ := Dict.mem_values.mp h
        rw [Dict.get_set] at hget
        split at hget
        · exact Or.inr ⟨row, List.mem_cons_self, Option.some.inj hget⟩
        · exact Or.inl (Dict.mem_values.mpr ⟨k, hget⟩)
      · exact Or.inr ⟨row', List.mem_cons_of_mem _ hmem, heq⟩

omit [PyFloatOps F] in
/-- Where an insert fails the rows before it stay pending, and they are dumps as well. -/
theorem RuntimeStore.Mirrors.replaceObservations (h : s.Mirrors Obs G proposals inbox acked)
    (os : List Obs) :
    (s.replaceObservations (os.map (EntityGraph.row G))).Mirrors Obs G proposals inbox acked := by
  have hrows : ∀ v ∈ (RuntimeStore.insertRows ∅ (os.map (EntityGraph.row (F := F) G))).1.values,
      ∃ o : Obs, v = (EntityGraph.row G o).2 := by
    intro v hv
    rcases RuntimeStore.mem_insertRows hv with hv | ⟨row, hmem, rfl⟩
    · exact absurd hv List.not_mem_nil
    · obtain ⟨o, _, rfl⟩ := List.mem_map.mp hmem
      exact ⟨o, rfl⟩
  unfold RuntimeStore.replaceObservations
  generalize RuntimeStore.insertRows ∅ (os.map (EntityGraph.row (F := F) G)) = inserted at hrows
  obtain ⟨observations, ok⟩ := inserted
  cases ok with
  | true =>
    show (s.write fun t => { t with observations := observations }).Mirrors Obs G _ _ _
    exact h.write fun t ht => ⟨ht.proposals, ht.inbox, ht.acked, hrows⟩
  | false =>
    simp only [Bool.false_eq_true, if_false, if_pos h.connected]
    exact ⟨h.connected, ⟨h.working.proposals, h.working.inbox, h.working.acked, hrows⟩, h.committed⟩

end

namespace C2Runtime.Mirrored

variable {s : C2Runtime F G}

omit [PyFloatOps F] in
theorem persistPicture (h : s.Mirrored Obs) : (s.persistPicture Obs).Mirrored Obs := by
  have hrows := RuntimeStore.Mirrors.replaceObservations h (EntityGraph.observations F s.graph)
  exact (hrows.setFinding (s.finding.map Finding.asdict)).setScenarioId s.scenarioId

omit [PyFloatOps F] in
theorem persistObservation (h : s.Mirrored Obs) (o : Obs) : (s.persistObservation o).Mirrored Obs :=
  RuntimeStore.Mirrors.upsertObservation h o

omit [PyFloatOps F] in
theorem reset (h : s.Mirrored Obs) : (s.reset Obs).Mirrored Obs := RuntimeStore.Mirrors.clear h

omit [PyFloatOps F] in
theorem queue (h : s.Mirrored Obs) (k : String) (p : Pending F) :
    ((s.queue k p).persistProposal k p).Mirrored Obs := RuntimeStore.Mirrors.upsertProposal h k p

omit [PyFloatOps F] in
theorem issue (h : s.Mirrored Obs) (k : String) (t : Tasking F) :
    ((s.issue k t).persistInboxItem k t).Mirrored Obs := RuntimeStore.Mirrors.upsertInbox h k t

omit [PyFloatOps F] in
theorem drop (h : s.Mirrored Obs) (k : String) :
    ({ s with
      proposals := s.proposals.erase k, store := s.store.deleteProposal k } : C2Runtime F G).Mirrored
        Obs := RuntimeStore.Mirrors.deleteProposal h k

omit [PyFloatOps F] in
theorem acknowledge (h : s.Mirrored Obs) (k : String) (t : Tasking F) :
    (({ s with acked := insert k s.acked, inbox := s.inbox.set k t } : C2Runtime F G).persistAcked
      k |>.persistInboxItem k t).Mirrored Obs :=
  (RuntimeStore.Mirrors.addAcked h k).upsertInbox k t

end C2Runtime.Mirrored

/-! ## Handlers -/

section

variable [Sha256]

theorem mirrored_framed : Framed Obs (C2Runtime.Mirrored (F := F) (G := G) Obs) where
  append _ _ _ _ _ h := h
  replaceRecords _ _ h := h
  noteVerified _ _ _ h := h
  setInterlock _ _ h := h
  lastGuardrail _ _ h := h
  queue _ k p h := h.queue k p
  issue _ k t h := h.issue k t
  drop _ k h := h.drop k
  acknowledge _ k t h := h.acknowledge k t
  reset _ h := h.reset

omit [PyFloatOps F] [Sha256] in
theorem mirrored_ingestScenario (env : Env F Obs G) (scenarioId : String) :
    Keeps (C2Runtime.Mirrored Obs) (ingestScenario env scenarioId) := by
  unfold ingestScenario
  refine .bind .ofExcept fun scenario => ?_
  refine .bind (.modify fun _ h => h) fun _ => ?_
  refine .bind .ofExcept fun events => ?_
  refine .bind .ofExcept fun observations => ?_
  refine .bind (.forEach fun o _ => .bind (.zoom fun _ _ h => h) fun _ => .pure) fun _ => ?_
  refine .bind (.modify fun _ h => h) fun _ => ?_
  refine .bind .get fun s => ?_
  refine .bind .ofExcept fun finding => ?_
  refine .bind (.modify fun _ h => h) fun _ => ?_
  cases finding with
  | none => exact .raise
  | some finding => exact .bind (.modify fun _ h => h.persistPicture) fun _ => .pure

omit [PyFloatOps F] [Sha256] in
theorem mirrored_ingestObservation (o : Obs) :
    Keeps (C2Runtime.Mirrored (F := F) (G := G) Obs) (ingestObservation o) := by
  unfold ingestObservation
  refine .bind (.zoom fun _ _ h => h) fun _ => ?_
  exact .bind (.modify fun _ h => h.persistObservation o) fun _ => .pure

/-- Every request leaves the database as the gate. -/
theorem mirrored_serve (r : Served F Obs G) {s : C2Runtime F G} (hs : s.Mirrored Obs) :
    (serve s r).Mirrored Obs :=
  mirrored_framed.serve r (fun _ _ => mirrored_ingestScenario _ _) hs

theorem mirrored_ingress (i : Ingress F Obs G) {s : C2Runtime F G} (hs : s.Mirrored Obs) :
    (handleIngress i s).2.Mirrored Obs :=
  handleIngress_keeps i mirrored_ingestObservation
    (fun _ _ _ _ => mirrored_framed.audit _ _ _ _ _) hs

end

/-! ## Restarts -/

omit [PyFloatOps F] in
@[simp] theorem Pending.payload_stored {F : Type} (p : Pending F) :
    p.stored.payload = p.payload := by
  obtain ⟨coa, unitId, navy, queuedAt, createdAt⟩ := p
  cases navy with
  | none => rfl
  | some u =>
    unfold payload stored
    by_cases hu : u = "" <;> simp [hu]

omit [PyFloatOps F] in
/-- Dumps of observations validate. -/
theorem mapM_validate {vs : List (Json F)}
    (h : ∀ v ∈ vs, ∃ o : Obs, v = (EntityGraph.row G o).2) :
    ∃ os : List Obs, vs.mapM (EntityGraph.validate (F := F) G) = some os := by
  induction vs with
  | nil => exact ⟨[], rfl⟩
  | cons v vs ih =>
    obtain ⟨o, rfl⟩ := h v List.mem_cons_self
    obtain ⟨o', ho'⟩ := Option.isSome_iff_exists.mp (EntityGraph.validate_row (F := F) (G := G) o)
    obtain ⟨os, hos⟩ := ih fun w hw => h w (List.mem_cons_of_mem _ hw)
    refine ⟨o' :: os, ?_⟩
    rw [List.mapM_cons, ho', hos]
    rfl

/-- The rows of the gate's maps are read back as they were written. -/
theorem Tables.Holds.picture {t : Tables F} {proposals : Dict String (Pending F)}
    {inbox : Dict String (Tasking F)} {acked : Finset String}
    (h : t.Holds Obs G proposals inbox acked) : ∃ picture : Picture F Obs,
      t.picture G = some picture ∧ picture.proposals = proposals.mapValues Pending.stored ∧
        picture.inbox = inbox ∧ picture.acked = acked := by
  obtain ⟨os, hos⟩ := mapM_validate h.rows
  have hproposals := Dict.collect_mapValues Pending.ofPayload_payload proposals
  have hinbox := Dict.collect_mapValues Tasking.ofPayload_toJson inbox
  rw [← h.proposals] at hproposals
  rw [← h.inbox] at hinbox
  refine ⟨⟨t.scenarioId, os, t.finding.bind Json.obj?, proposals.mapValues Pending.stored,
    inbox.mapValues fun t => t, t.acked⟩, ?_, rfl, Dict.mapValues_id inbox, h.acked⟩
  simp only [Tables.picture, hos, hproposals, hinbox]
  rfl

theorem RuntimeStore.Mirrors.loadAll {s : RuntimeStore F} {proposals : Dict String (Pending F)}
    {inbox : Dict String (Tasking F)} {acked : Finset String}
    (h : s.Mirrors Obs G proposals inbox acked) :
    (s.loadAll G : Picture F Obs).proposals = proposals.mapValues Pending.stored ∧
      (s.loadAll G : Picture F Obs).inbox = inbox ∧ (s.loadAll G : Picture F Obs).acked = acked := by
  obtain ⟨picture, hpicture, hrest⟩ := h.working.picture
  unfold RuntimeStore.loadAll
  rw [if_pos h.connected, hpicture]
  exact hrest

omit [PyFloatOps F] in
/-- The tables hold an entry as well as what they keep of it. -/
theorem RuntimeStore.Mirrors.stored {s : RuntimeStore F} {proposals : Dict String (Pending F)}
    {inbox : Dict String (Tasking F)} {acked : Finset String}
    (h : s.Mirrors Obs G proposals inbox acked) :
    s.Mirrors Obs G (proposals.mapValues Pending.stored) inbox acked := by
  have hpayload : (proposals.mapValues Pending.stored).mapValues Pending.payload =
      proposals.mapValues Pending.payload := by
    rw [Dict.mapValues_mapValues]
    simp only [Pending.payload_stored]
  have hholds : ∀ t : Tables F, t.Holds Obs G proposals inbox acked →
      t.Holds Obs G (proposals.mapValues Pending.stored) inbox acked := by
    intro t ht
    exact ⟨ht.proposals.trans hpayload.symm, ht.inbox, ht.acked, ht.rows⟩
  exact ⟨h.connected, hholds _ h.working, hholds _ h.committed⟩

omit [PyFloatOps F] [EntityGraph F Obs G] in
/-- A starting process has nothing active. -/
theorem bootPolicy_active {boot : Boot F} {policy : TieredPolicy F}
    (h : C2Runtime.bootPolicy boot = .ok policy) : policy.interlock.activeCoaIds = ∅ := by
  unfold C2Runtime.bootPolicy at h
  cases hraw : boot.policy with
  | error e =>
    rw [hraw] at h
    cases h
  | ok raw =>
    rw [hraw] at h
    cases hpois : boot.loadPois with
    | ok pois =>
      simp only [hpois, bind, Except.bind, Except.ok.injEq] at h
      rw [← h]
      rfl
    | error e =>
      simp only [hpois, bind, Except.bind] at h
      cases e <;> cases h
      rfl

/-- A hydrated runtime has the picture of its database, and what it had besides. -/
theorem hydrateFromStore_ok {s s' : C2Runtime F G}
    (h : C2Runtime.hydrateFromStore Obs s = (.ok (), s')) : ∃ g,
      Handler.forEach (fun o : Obs => do let _ ← C2Runtime.ingest o)
        (s.store.loadAll G : Picture F Obs).observations s = (.ok (), { s with graph := g }) ∧
      s' = { s with
        graph := g
        finding := (s.store.loadAll G : Picture F Obs).finding.bind Finding.ofDump
        scenarioId := (s.store.loadAll G : Picture F Obs).scenarioId
        proposals := (s.store.loadAll G : Picture F Obs).proposals
        inbox := (s.store.loadAll G : Picture F Obs).inbox
        acked := (s.store.loadAll G : Picture F Obs).acked } := by
  have hframe : Keeps (fun t => ∃ g, t = { s with graph := g })
      (Handler.forEach (fun o : Obs => do let _ ← C2Runtime.ingest o)
        (s.store.loadAll G : Picture F Obs).observations : C2Handler F G Unit) := by
    refine .forEach fun o _ => .bind (.zoom ?_) fun _ => .pure
    rintro _ g ⟨_, rfl⟩
    exact ⟨g, rfl⟩
  have hleft := hframe.snd ⟨s.graph, rfl⟩
  unfold C2Runtime.hydrateFromStore at h
  rw [Handler.get_bind] at h
  cases hrun : (Handler.forEach (fun o : Obs => do let _ ← C2Runtime.ingest o)
      (s.store.loadAll G : Picture F Obs).observations : C2Handler F G Unit) s with
  | mk r t =>
    rw [hrun] at hleft
    obtain ⟨g, rfl⟩ := hleft
    cases r with
    | error e =>
      rw [Handler.bind_error hrun] at h
      cases h
    | ok _ =>
      rw [Handler.bind_ok hrun] at h
      cases h
      exact ⟨g, rfl, rfl⟩

/-- A restarted server has the gate's maps as the database holds them, a trail opened anew, and
nothing active. -/
theorem restart_gate {boot : Boot F} {s s' : C2Runtime F G} (hs : s.Mirrored Obs)
    (hopens : boot.storeOpens = true) (h : C2Runtime.restart Obs boot s = .ok s') :
    s'.gate =
        { proposals := s.proposals.mapValues Pending.stored
          inbox := s.inbox
          acked := s.acked
          active := ∅
          audit := s.audit.reopen
          log := s.log } ∧
      s'.Mirrored Obs := by
  obtain ⟨policy, hpolicy, hrun⟩ := C2Runtime.restart_eq_ok.mp h
  have hstore : (s.store.reopen boot.storeOpens).Mirrors Obs G s.proposals s.inbox s.acked :=
    ⟨hopens, hs.committed, hs.committed⟩
  obtain ⟨hproposals, hinbox, hacked⟩ := hstore.loadAll
  obtain ⟨g, _, rfl⟩ := hydrateFromStore_ok hrun
  refine ⟨?_, ?_⟩
  · unfold C2Runtime.gate
    rw [← hproposals, ← hinbox, ← hacked, ← bootPolicy_active hpolicy]
    rfl
  · have hkept := hstore.stored
    rw [← hproposals, ← hinbox, ← hacked] at hkept
    exact hkept

end

end NexusC2

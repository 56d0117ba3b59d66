import NexusC2.App.IngressReplay
import NexusC2.App.Proofs.PictureRestart

/-!
# Admitting evidence

The two ingress endpoints run the same loop: an observation is ingested, stored and recorded, then
the next one. A loop that returns has admitted all of its evidence (`Admits`), and one that has come
to its first observation has changed the graph, however it ends.
-/

namespace NexusC2

open Handler (Keeps)
open SpatialEntityGraph

section

variable {F D : Type} [PyMathOps F] [PyDateTime D] [Sha256]

/-- An observation, and what is recorded of it under the id of its track. -/
structure Evidence (F D : Type) where
  observation : Observation F D
  data : String → Fields F

/-- `runtime.graph.ingest(obs)` and `runtime.persist_observation(obs)` on the parts they change. -/
theorem ingestObservation_apply (o : Observation F D) (s : C2Runtime F (SpatialEntityGraph F D)) :
    ingestObservation o s = match SpatialEntityGraph.ingest o s.graph with
      | (.ok trackId, g) => (.ok trackId,
          ({ s with graph := g } : C2Runtime F (SpatialEntityGraph F D)).persistObservation o)
      | (.error e, g) => (.error e, { s with graph := g }) := by
  have hzoom := Handler.zoom_apply (fun s : C2Runtime F (SpatialEntityGraph F D) => s.graph)
    (fun s g => { s with graph := g }) (SpatialEntityGraph.ingest o) s
  cases hrun : SpatialEntityGraph.ingest o s.graph with
  | mk r g =>
    rw [hrun] at hzoom
    cases r with
    | error e => exact Handler.bind_error hzoom
    | ok trackId => exact Handler.bind_ok hzoom

/-- The runtime with the observation ingested, stored and recorded. -/
def C2Runtime.admitted (s : C2Runtime F (SpatialEntityGraph F D)) (g : SpatialEntityGraph F D)
    (name time : String) (e : Evidence F D) (trackId : String) :
    C2Runtime F (SpatialEntityGraph F D) :=
  { s with
    graph := g
    store := s.store.upsertObservation (EntityGraph.row (SpatialEntityGraph F D) e.observation)
    audit := (s.audit.append name "Info" time (e.data trackId)).2 }

/-- The evidence is admitted, with its records from the `i`-th on. -/
inductive Admits (env : Env F (Observation F D) (SpatialEntityGraph F D)) (name : String) :
    Nat → List (Evidence F D) → C2Runtime F (SpatialEntityGraph F D) →
      C2Runtime F (SpatialEntityGraph F D) → Prop
  | nil (i : Nat) (s) : Admits env name i [] s s
  | cons {i : Nat} {e : Evidence F D} {es : List (Evidence F D)}
      {s s' : C2Runtime F (SpatialEntityGraph F D)} {trackId : String}
      {g : SpatialEntityGraph F D} :
      SpatialEntityGraph.ingest e.observation s.graph = (.ok trackId, g) →
      env.appendRaises name i = none →
      Admits env name (i + 1) es (s.admitted g name (env.utcNow (100 + i)) e trackId) s' →
      Admits env name i (e :: es) s s'

namespace Admits

variable {env : Env F (Observation F D) (SpatialEntityGraph F D)} {name : String} {i : Nat}
  {es : List (Evidence F D)} {s s' s'' : C2Runtime F (SpatialEntityGraph F D)}

theorem append {es' : List (Evidence F D)} (h : Admits env name i es s s')
    (h' : Admits env name (i + es.length) es' s' s'') : Admits env name i (es ++ es') s s'' := by
  induction h with
  | nil i s => exact h'
  | cons hingest hrecord _ ih =>
    refine .cons hingest hrecord (ih ?_)
    rw [List.length_cons, Nat.add_comm _ 1, ← Nat.add_assoc] at h'
    exact h'

theorem of_append {es' : List (Evidence F D)} (h : Admits env name i (es ++ es') s s'') :
    ∃ s', Admits env name i es s s' ∧ Admits env name (i + es.length) es' s' s'' := by
  induction es generalizing i s with
  | nil => exact ⟨s, .nil i s, h⟩
  | cons e es ih =>
    cases h with
    | cons hingest hrecord h =>
      obtain ⟨s', hes, hes'⟩ := ih h
      refine ⟨s', .cons hingest hrecord hes, ?_⟩
      rw [List.length_cons, Nat.add_comm _ 1, ← Nat.add_assoc]
      exact hes'

/-- The graph has the observations. -/
theorem graph (h : Admits env name i es s s') :
    ingestAll (es.map Evidence.observation) s.graph = (.ok (), s'.graph) := by
  induction h with
  | nil i s => rfl
  | @cons i e es s s' trackId g hingest _ _ ih =>
    exact (ingestAll_cons_of_ok hingest _).trans ih

/-- The table has their rows. -/
theorem store (h : Admits env name i es s s') :
    s'.store = (rows (es.map Evidence.observation)).foldl RuntimeStore.upsertObservation s.store := by
  induction h with
  | nil i s => rfl
  | cons _ _ _ ih => exact ih

/-- The trail has a record of each. -/
theorem audit (h : Admits env name i es s s') : ∃ records : List (Record F),
    s'.audit.records = s.audit.records ++ records ∧
      List.Forall₂ (fun (e : Evidence F D) record => ∃ trail time trackId,
        record = (AuditTrail.append trail name "Info" time (e.data trackId)).1) es records := by
  induction h with
  | nil i s => exact ⟨[], by simp, .nil⟩
  | @cons i e es s s' trackId g _ _ _ ih =>
    obtain ⟨records, hrecords, hforall⟩ := ih
    refine ⟨(s.audit.append name "Info" (env.utcNow (100 + i)) (e.data trackId)).1 :: records, ?_,
      .cons ⟨_, _, _, rfl⟩ hforall⟩
    rw [hrecords]
    show s.audit.records ++ [_] ++ records = _
    rw [List.append_assoc]
    rfl

/-- Everything else is as it was. -/
theorem rest (h : Admits env name i es s s') :
    s' = { s with graph := s'.graph, store := s'.store, audit := s'.audit } := by
  induction h with
  | nil i s => rfl
  | cons _ _ _ ih => exact ih

end Admits

/-- Evidence can be admitted when none of it raises. -/
theorem exists_admits_iff {env : Env F (Observation F D) (SpatialEntityGraph F D)} {name : String}
    {i : Nat} {es : List (Evidence F D)} {s : C2Runtime F (SpatialEntityGraph F D)} :
    (∃ s', Admits env name i es s s') ↔
      (ingestAll (es.map Evidence.observation) s.graph).1 = .ok () ∧
        ∀ j < es.length, env.appendRaises name (i + j) = none := by
  induction es generalizing i s with
  | nil => exact ⟨fun _ => ⟨rfl, fun j hj => absurd hj (Nat.not_lt_zero j)⟩, fun _ => ⟨s, .nil i s⟩⟩
  | cons e es ih =>
    constructor
    · rintro ⟨s', h⟩
      refine ⟨by rw [h.graph], ?_⟩
      cases h with
      | cons hingest hrecord h =>
        rintro (_ | j) hj
        · exact hrecord
        · rw [Nat.add_comm j 1, ← Nat.add_assoc]
          exact (ih.mp ⟨s', h⟩).2 j (Nat.lt_of_succ_lt_succ hj)
    · rintro ⟨hgraph, hrecords⟩
      cases hingest : SpatialEntityGraph.ingest e.observation s.graph with
      | mk r g =>
        rw [List.map_cons] at hgraph
        cases r with
        | error err =>
          rw [ingestAll_cons_of_error hingest] at hgraph
          cases hgraph
        | ok trackId =>
          rw [ingestAll_cons_of_ok hingest] at hgraph
          have hrest : ∀ j < es.length, env.appendRaises name (i + 1 + j) = none := by
            intro j hj
            rw [Nat.add_assoc, Nat.add_comm 1 j]
            exact hrecords (j + 1) (Nat.succ_lt_succ hj)
          obtain ⟨s', h⟩ := (ih (i := i + 1)
            (s := s.admitted g name (env.utcNow (100 + i)) e trackId)).mpr ⟨hgraph, hrest⟩
          exact ⟨s', .cons hingest (hrecords 0 (Nat.succ_pos _)) h⟩

/-! ## The loop -/

section

variable {α β : Type} (env : Env F (Observation F D) (SpatialEntityGraph F D)) (name : String)
  (convert : α → Except Exc (Evidence F D)) (out : Observation F D → String → β)

/-- One turn of the loop of either endpoint, over what `convert` makes evidence of. -/
def admitOne (x : α × Nat) : C2Handler F (SpatialEntityGraph F D) β := do
  let e ← Handler.ofExcept (convert x.1)
  let trackId ← ingestObservation e.observation
  let _ ← auditAppend env x.2 name "Info" (e.data trackId)
  pure (out e.observation trackId)

variable {env name convert out}

theorem admitOne_error {x : α} {err : Exc} (h : convert x = .error err) (i : Nat)
    (s : C2Runtime F (SpatialEntityGraph F D)) :
    admitOne env name convert out (x, i) s = (.error err, s) := by
  unfold admitOne
  rw [h]
  rfl

theorem admitOne_apply {x : α} {e : Evidence F D} (h : convert x = .ok e) (i : Nat)
    (s : C2Runtime F (SpatialEntityGraph F D)) :
    admitOne env name convert out (x, i) s =
      match SpatialEntityGraph.ingest e.observation s.graph with
      | (.error err, g) => (.error err, { s with graph := g })
      | (.ok trackId, g) =>
        match env.appendRaises name i with
        | some err => (.error err,
            ({ s with graph := g } : C2Runtime F (SpatialEntityGraph F D)).persistObservation
              e.observation)
        | none => (.ok (out e.observation trackId),
            s.admitted g name (env.utcNow (100 + i)) e trackId) := by
  unfold admitOne
  rw [h, Handler.ofExcept_ok_bind, Handler.bind_apply, ingestObservation_apply]
  cases SpatialEntityGraph.ingest e.observation s.graph with
  | mk r g =>
    cases r with
    | error err => rfl
    | ok trackId =>
      dsimp only
      rw [Handler.bind_apply, auditAppend_apply]
      cases env.appendRaises name i <;> rfl

/-- A turn that returns has admitted what the item is converted to. -/
theorem admitOne_eq_ok {x : α} {i : Nat} {s s' : C2Runtime F (SpatialEntityGraph F D)} {item : β} :
    admitOne env name convert out (x, i) s = (.ok item, s') ↔ ∃ e trackId g, convert x = .ok e ∧
      SpatialEntityGraph.ingest e.observation s.graph = (.ok trackId, g) ∧
      env.appendRaises name i = none ∧ item = out e.observation trackId ∧
      s' = s.admitted g name (env.utcNow (100 + i)) e trackId := by
  constructor
  · intro h
    cases hconvert : convert x with
    | error err =>
      rw [admitOne_error hconvert] at h
      cases h
    | ok e =>
      rw [admitOne_apply hconvert] at h
      split at h
      · cases h
      · rename_i trackId g hingest
        split at h
        · cases h
        · cases h
          exact ⟨e, trackId, g, rfl, hingest, by assumption, rfl, rfl⟩
  · rintro ⟨e, trackId, g, hconvert, hingest, hrecord, rfl, rfl⟩
    rw [admitOne_apply hconvert, hingest]
    dsimp only
    rw [hrecord]

/-- A loop that returns has admitted what the list is converted to. -/
theorem admitEach_ok {xs : List α} {i : Nat} {s s' : C2Runtime F (SpatialEntityGraph F D)}
    {items : List β}
    (h : Handler.mapEach (admitOne env name convert out) (xs.zipIdx i) s = (.ok items, s')) :
    items.length = xs.length ∧ ∃ es, xs.mapM convert = .ok es ∧ Admits env name i es s s' := by
  induction xs generalizing i s items with
  | nil =>
    cases h
    exact ⟨rfl, [], rfl, .nil _ _⟩
  | cons x xs ih =>
    obtain ⟨item, t, hone, h⟩ := Handler.bind_eq_ok.mp h
    obtain ⟨rest, t', hrest, h⟩ := Handler.bind_eq_ok.mp h
    cases h
    obtain ⟨e, trackId, g, hconvert, hingest, hrecord, -, rfl⟩ := admitOne_eq_ok.mp hone
    obtain ⟨hlength, es, hes, hadmits⟩ := ih hrest
    refine ⟨congrArg Nat.succ hlength, e :: es, ?_, .cons hingest hrecord hadmits⟩
    rw [List.mapM_cons, hconvert, hes]
    rfl

/-- The loop returns where its evidence can be admitted. -/
theorem admitEach_of_admits {xs : List α} {i : Nat} {es : List (Evidence F D)}
    {s s' : C2Runtime F (SpatialEntityGraph F D)} (hes : xs.mapM convert = .ok es)
    (h : Admits env name i es s s') :
    ∃ items, Handler.mapEach (admitOne env name convert out) (xs.zipIdx i) s = (.ok items, s') := by
  induction xs generalizing i s es with
  | nil =>
    cases hes
    cases h
    exact ⟨[], rfl⟩
  | cons x xs ih =>
    rw [List.mapM_cons] at hes
    obtain ⟨e, hconvert, hes⟩ := except_bind_eq_ok.mp hes
    obtain ⟨rest, hrest, hes⟩ := except_bind_eq_ok.mp hes
    cases hes
    cases h with
    | @cons _ _ _ _ _ trackId g hingest hrecord h =>
      obtain ⟨items, hitems⟩ := ih hrest h
      have hone : admitOne env name convert out (x, _) _ =
          (.ok (out e.observation trackId), _) :=
        admitOne_eq_ok.mpr ⟨e, trackId, g, hconvert, hingest, hrecord, rfl, rfl⟩
      exact ⟨out e.observation trackId :: items, Handler.bind_eq_ok.mpr
        ⟨_, _, hone, Handler.bind_eq_ok.mpr ⟨items, s', hitems, rfl⟩⟩⟩

/-! ## Loops that end early -/

/-- The graph has more than these observations. -/
def C2Runtime.Grown (base : List (Observation F D)) (s : C2Runtime F (SpatialEntityGraph F D)) :
    Prop := ∃ os, s.graph.observations = base ++ os

/-- However ingesting ends, the graph has the observation. -/
theorem ingestObservation_grows (o : Observation F D) (base : List (Observation F D)) :
    Handler.Triple (fun t => t.graph.observations = base) (ingestObservation o)
      (fun _ => C2Runtime.Grown (base ++ [o.ensureDigest]))
      (fun _ => C2Runtime.Grown (base ++ [o.ensureDigest])) := by
  rintro s rfl
  have hobs := ingest_observations o s.graph
  rw [ingestObservation_apply]
  cases hrun : SpatialEntityGraph.ingest o s.graph with
  | mk r g =>
    rw [hrun] at hobs
    have hgrown : g.observations = s.graph.observations ++ [o.ensureDigest] ++ [] := by
      rw [List.append_nil]
      exact hobs
    cases r with
    | error err => exact ⟨[], hgrown⟩
    | ok trackId => exact ⟨[], hgrown⟩

theorem ingestObservation_grown (o : Observation F D) (base : List (Observation F D)) :
    Keeps (C2Runtime.Grown base) (ingestObservation o) := by
  rintro s ⟨os, hos⟩
  have hmore (t : C2Runtime F (SpatialEntityGraph F D))
      (h : t.Grown (base ++ os ++ [o.ensureDigest])) : t.Grown base := by
    obtain ⟨os', hos'⟩ := h
    exact ⟨os ++ [o.ensureDigest] ++ os', by rw [hos']; simp⟩
  have hstep := ingestObservation_grows o (base ++ os) s hos
  split at hstep
  · exact hmore _ hstep
  · exact hmore _ hstep

omit [PyDateTime D] in
theorem auditAppend_grown (base : List (Observation F D)) (i : Nat) (severity : String)
    (data : Fields F) : Keeps (C2Runtime.Grown base) (auditAppend env i name severity data) :=
  auditAppend_keeps env i name severity data fun _ _ h => h

theorem admitOne_grown (base : List (Observation F D)) (x : α × Nat) :
    Keeps (C2Runtime.Grown base) (admitOne env name convert out x) := by
  refine .bind .ofExcept fun e => ?_
  refine .bind (ingestObservation_grown _ _) fun trackId => ?_
  exact .bind (auditAppend_grown _ _ _ _) fun _ => .pure

variable (convert) in
/-- A loop whose first item is evidence has changed the graph, however it ends. -/
theorem admitEach_grows {x : α} {e : Evidence F D} (h : convert x = .ok e) (xs : List α) (i : Nat)
    (s : C2Runtime F (SpatialEntityGraph F D)) :
    C2Runtime.Grown (s.graph.observations ++ [e.observation.ensureDigest])
      (Handler.mapEach (admitOne env name convert out) ((x :: xs).zipIdx i) s).2 := by
  generalize hbase : s.graph.observations = base
  have hone : Handler.Triple (fun t => t.graph.observations = base)
      (admitOne env name convert out (x, i))
      (fun _ => C2Runtime.Grown (base ++ [e.observation.ensureDigest]))
      (fun _ => C2Runtime.Grown (base ++ [e.observation.ensureDigest])) := by
    unfold admitOne
    dsimp only
    rw [h]
    refine .bind (Q := fun e' t => e' = e ∧ t.graph.observations = base) ?_ fun e' => ?_
    · exact fun t ht => ⟨rfl, ht⟩
    · rintro t ⟨rfl, ht⟩
      refine Handler.Triple.bind (ingestObservation_grows _ base) (fun trackId => ?_) t ht
      exact Keeps.bind (auditAppend_grown _ _ _ _) fun _ => Keeps.pure
  have hall : Handler.Triple (fun t => t.graph.observations = base)
      (Handler.mapEach (admitOne env name convert out) ((x :: xs).zipIdx i))
      (fun _ => C2Runtime.Grown (base ++ [e.observation.ensureDigest]))
      (fun _ => C2Runtime.Grown (base ++ [e.observation.ensureDigest])) := by
    refine Handler.Triple.bind hone fun item => ?_
    refine Keeps.bind (Handler.Ends.mapEach fun y _ => ?_) fun _ => Keeps.pure
    exact admitOne_grown _ y
  have hleft := hall s hbase
  split at hleft <;> rename_i hrun <;> rw [hrun] <;> exact hleft

end

end

end NexusC2

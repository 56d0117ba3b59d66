import NexusC2.App.Proofs.OperationRuns
import NexusC2.Core.Proofs.GraphReplay

/-!
# The picture after a restart

The graph in memory is a list of observations, the table of the database is keyed by their ids. As
long as no id comes twice the rows are the observations in their order, and hydrating ingests them
again in that order; an id that comes twice has one row for two observations, and the graph that is
rebuilt is another one.
-/

namespace NexusC2

open Handler (Ends Keeps)
open SpatialEntityGraph

section

variable {F D : Type} [PyMathOps F] [PyDateTime D] [Sha256]

/-- The graph of the server. -/
instance : EntityGraph F (Observation F D) (SpatialEntityGraph F D) where
  empty := SpatialEntityGraph.empty
  ingest := SpatialEntityGraph.ingest
  observations g := g.observations
  row o := (o.observationId, o.ensureDigest.modelDump)
  validate := Observation.ofDump
  validate_row o := by
    rw [Observation.ofDump_modelDump]
    rfl

/-! ## Rows -/

/-- The rows of observations. -/
def rows (os : List (Observation F D)) : List (String × Json F) :=
  os.map (EntityGraph.row (SpatialEntityGraph F D))

/-- The ids of observations. -/
def ids (os : List (Observation F D)) : List String := os.map Observation.observationId

@[simp] theorem keys_rows (os : List (Observation F D)) : Assoc.keys (rows os) = ids os := by
  unfold Assoc.keys rows ids
  rw [List.map_map]
  rfl

omit [PyMathOps F] [PyDateTime D] [Sha256] in
theorem ids_append (os os' : List (Observation F D)) : ids (os ++ os') = ids os ++ ids os' :=
  List.map_append

@[simp] theorem ids_ensureDigest (os : List (Observation F D)) :
    ids (os.map Observation.ensureDigest) = ids os := by
  unfold ids
  rw [List.map_map]
  exact List.map_congr_left fun o _ => Observation.observationId_ensureDigest o

@[simp] theorem rows_ensureDigest (os : List (Observation F D)) :
    rows (os.map Observation.ensureDigest) = rows os := by
  unfold rows
  rw [List.map_map]
  refine List.map_congr_left fun o _ => ?_
  show (o.ensureDigest.observationId, o.ensureDigest.ensureDigest.modelDump) =
    (o.observationId, o.ensureDigest.modelDump)
  rw [Observation.observationId_ensureDigest, Observation.ensureDigest_ensureDigest]

/-- Rows validate as the observations with their digests. -/
theorem validate_rows (os : List (Observation F D)) :
    ((rows os).map Prod.snd).mapM (EntityGraph.validate (F := F) (SpatialEntityGraph F D)) =
      some (os.map Observation.ensureDigest) := by
  induction os with
  | nil => rfl
  | cons o os ih =>
    show ((EntityGraph.row (SpatialEntityGraph F D) o).2 :: (rows os).map Prod.snd).mapM _ = _
    have hread : (EntityGraph.validate (F := F) (SpatialEntityGraph F D)
        (EntityGraph.row (SpatialEntityGraph F D) o).2) = some o.ensureDigest :=
      Observation.ofDump_modelDump o.ensureDigest
    rw [List.mapM_cons, hread, ih]
    rfl

/-- An upsert leaves rows of these observations and the new one. -/
theorem set_rows (os : List (Observation F D)) (o : Observation F D) :
    ∃ os' : List (Observation F D), os' ⊆ o :: os ∧
      Assoc.set (rows os) o.observationId o.ensureDigest.modelDump = rows os' := by
  induction os with
  | nil => exact ⟨[o], List.Subset.refl _, rfl⟩
  | cons o₁ os ih =>
    obtain ⟨os', hsub, hos'⟩ := ih
    show ∃ os', _ ∧ Assoc.set ((o₁.observationId, o₁.ensureDigest.modelDump) :: rows os) _ _ =
      rows os'
    rw [Assoc.set_cons]
    split
    · refine ⟨o :: os, ?_, rfl⟩
      exact List.cons_subset_cons _ (List.subset_cons_self _ _)
    · rw [hos']
      refine ⟨o₁ :: os', ?_, rfl⟩
      intro x hx
      rcases List.mem_cons.mp hx with rfl | hx
      · exact List.mem_cons_of_mem _ List.mem_cons_self
      · exact List.cons_subset_cons _ (List.subset_cons_self _ _) (hsub hx)

/-- The inserts leave rows of the observations that were there and of those inserted. -/
theorem insertRows_rows {d : Dict String (Json F)} {p : List (Observation F D)}
    (hd : d.entries = rows p) (os : List (Observation F D)) :
    ∃ os' : List (Observation F D), os' ⊆ p ++ os ∧
      (RuntimeStore.insertRows d (rows os)).1.entries = rows os' := by
  induction os generalizing d p with
  | nil => exact ⟨p, List.subset_append_left _ _, hd⟩
  | cons o os ih =>
    show ∃ os', _ ∧ (RuntimeStore.insertRows d
      ((o.observationId, o.ensureDigest.modelDump) :: rows os)).1.entries = rows os'
    unfold RuntimeStore.insertRows
    split
    · exact ⟨p, List.subset_append_left _ _, hd⟩
    · obtain ⟨p', hsub, hset⟩ := set_rows p o
      have hentries : (d.set o.observationId o.ensureDigest.modelDump).entries = rows p' := by
        rw [Dict.entries_set, hd, hset]
      obtain ⟨os', hsub', hrows⟩ := ih hentries
      refine ⟨os', ?_, hrows⟩
      intro x hx
      rcases List.mem_append.mp (hsub' hx) with hp | hos
      · rcases List.mem_cons.mp (hsub hp) with rfl | hp
        · exact List.mem_append_right _ List.mem_cons_self
        · exact List.mem_append_left _ hp
      · exact List.mem_append_right _ (List.mem_cons_of_mem _ hos)

/-- The inserts of new and distinct ids all succeed. -/
theorem insertRows_nodup {d : Dict String (Json F)} {p : List (Observation F D)}
    (hd : d.entries = rows p) (os : List (Observation F D)) (h : (ids (p ++ os)).Nodup) :
    ∃ d', RuntimeStore.insertRows d (rows os) = (d', true) ∧ d'.entries = rows (p ++ os) := by
  induction os generalizing d p with
  | nil => exact ⟨d, rfl, by rw [List.append_nil]; exact hd⟩
  | cons o os ih =>
    have hnew : o.observationId ∉ ids p := by
      rw [ids_append] at h
      intro hmem
      exact (List.nodup_append.mp h).2.2 _ hmem _ List.mem_cons_self rfl
    have hkeys : o.observationId ∉ Assoc.keys d.entries := by
      rw [hd, keys_rows]
      exact hnew
    rw [List.append_cons] at h ⊢
    obtain ⟨d', hrun, hentries⟩ := ih (d := d.set o.observationId o.ensureDigest.modelDump) (by
      rw [Dict.entries_set, Assoc.set_of_not_mem hkeys, hd]
      show rows p ++ rows [o] = rows (p ++ [o])
      exact List.map_append.symm) h
    refine ⟨d', ?_, hentries⟩
    show RuntimeStore.insertRows d ((o.observationId, o.ensureDigest.modelDump) :: rows os) = _
    unfold RuntimeStore.insertRows
    rw [Dict.get_of_not_mem hkeys]
    exact hrun

/-! ## Database and graph -/

/-- The table has rows of observations: those of the list, where no id comes twice in it. -/
structure Tables.Lists (t : Tables F) (os : List (Observation F D)) : Prop where
  keyed : ∃ os' : List (Observation F D), t.observations.entries = rows os'
  all : (ids os).Nodup → t.observations.entries = rows os

/-- The connection is open, the tables list the observations of the graph, and these make the
graph. -/
structure RuntimeStore.Pictures (st : RuntimeStore F) (g : SpatialEntityGraph F D) : Prop where
  connected : st.connected = true
  replays : g.Replays
  working : st.working.Lists g.observations
  committed : st.committed.Lists g.observations

/-- The database of the server lists the observations of its graph. -/
def C2Runtime.Pictured (s : C2Runtime F (SpatialEntityGraph F D)) : Prop := s.store.Pictures s.graph

theorem Tables.lists_empty : (Tables.empty : Tables F).Lists ([] : List (Observation F D)) :=
  ⟨⟨[], rfl⟩, fun _ => rfl⟩

theorem pictured_fresh (policy : TieredPolicy F) (audit : AuditTrail F) :
    (C2Runtime.fresh F (Observation F D) policy audit true :
      C2Runtime F (SpatialEntityGraph F D)).Pictured :=
  ⟨rfl, replays_empty, Tables.lists_empty, Tables.lists_empty⟩

namespace RuntimeStore.Pictures

variable {st : RuntimeStore F} {g : SpatialEntityGraph F D}

/-- A statement on the other tables. -/
theorem write (h : st.Pictures g) {f : Tables F → Tables F}
    (hf : ∀ t : Tables F, (f t).observations = t.observations) : (st.write f).Pictures g := by
  have hlists : (f st.working).Lists g.observations := by
    constructor
    · rw [hf]
      exact h.working.keyed
    · rw [hf]
      exact h.working.all
  unfold RuntimeStore.write
  rw [if_pos h.connected]
  exact ⟨h.connected, h.replays, hlists, hlists⟩

theorem setScenarioId (h : st.Pictures g) (value : Option String) :
    (st.setScenarioId value).Pictures g := h.write fun _ => rfl

theorem setFinding (h : st.Pictures g) (finding : Option (Json F)) :
    (st.setFinding finding).Pictures g := h.write fun _ => rfl

theorem upsertProposal (h : st.Pictures g) (coaId : String) (payload : Json F) :
    (st.upsertProposal coaId payload).Pictures g := h.write fun _ => rfl

theorem deleteProposal (h : st.Pictures g) (coaId : String) :
    (st.deleteProposal coaId).Pictures g := h.write fun _ => rfl

theorem upsertInbox (h : st.Pictures g) (coaId : String) (tasking : Json F) :
    (st.upsertInbox coaId tasking).Pictures g := h.write fun _ => rfl

theorem addAcked (h : st.Pictures g) (coaId : String) : (st.addAcked coaId).Pictures g :=
  h.write fun _ => rfl

theorem clear (h : st.Pictures g) :
    st.clear.Pictures (SpatialEntityGraph.empty : SpatialEntityGraph F D) := by
  unfold RuntimeStore.clear RuntimeStore.write
  rw [if_pos h.connected]
  exact ⟨h.connected, replays_empty, Tables.lists_empty, Tables.lists_empty⟩

/-- One more observation, in the graph and in the table. -/
theorem upsert (h : st.Pictures g) {o : Observation F D} {id : String} {g' : SpatialEntityGraph F D}
    (hrun : SpatialEntityGraph.ingest o g = (.ok id, g')) :
    (st.upsertObservation (EntityGraph.row (SpatialEntityGraph F D) o)).Pictures g' := by
  have hobs : g'.observations = g.observations ++ [o.ensureDigest] := by
    rw [← ingest_observations o g, hrun]
  have hlists : ({ st.working with
      observations := st.working.observations.set o.observationId o.ensureDigest.modelDump } :
        Tables F).Lists g'.observations := by
    constructor
    · obtain ⟨os, hos⟩ := h.working.keyed
      obtain ⟨os', -, hset⟩ := set_rows os o
      exact ⟨os', by rw [Dict.entries_set, hos, hset]⟩
    · intro hnodup
      rw [hobs, ids_append] at hnodup
      obtain ⟨hold, -, hnew⟩ := List.nodup_append.mp hnodup
      have hentries := h.working.all hold
      have hkeys : o.observationId ∉ Assoc.keys st.working.observations.entries := by
        rw [hentries, keys_rows]
        intro hmem
        exact hnew _ hmem _ List.mem_cons_self (Observation.observationId_ensureDigest o).symm
      rw [Dict.entries_set, Assoc.set_of_not_mem hkeys, hentries, hobs]
      have hrow : rows [o.ensureDigest] = rows [o] := rows_ensureDigest [o]
      show rows g.observations ++ rows [o] = rows (g.observations ++ [o.ensureDigest])
      rw [← hrow]
      exact List.map_append.symm
  unfold RuntimeStore.upsertObservation RuntimeStore.write
  rw [if_pos h.connected]
  exact ⟨h.connected, h.replays.ingest hrun, hlists, hlists⟩

/-- The rows of a new graph in the place of those of an old one. -/
theorem replace (h : st.Pictures g) {g' : SpatialEntityGraph F D} (hg' : g'.Replays) :
    (st.replaceObservations (rows g'.observations)).Pictures g' := by
  obtain ⟨os', -, hkeyed⟩ := insertRows_rows (d := ∅) (p := []) rfl g'.observations
  have hnodup := insertRows_nodup (d := ∅) (p := []) rfl g'.observations
  have hlists : ∀ t : Tables F, ({ t with
      observations := (RuntimeStore.insertRows ∅ (rows g'.observations)).1 } : Tables F).Lists
        g'.observations := by
    intro t
    refine ⟨⟨os', hkeyed⟩, fun hids => ?_⟩
    obtain ⟨d', hrun, hentries⟩ := hnodup hids
    rw [hrun]
    exact hentries
  unfold RuntimeStore.replaceObservations
  cases hrun : RuntimeStore.insertRows ∅ (rows g'.observations) with
  | mk d ok =>
    rw [hrun] at hlists
    cases ok with
    | true =>
      simp only [if_true, RuntimeStore.write, if_pos h.connected]
      exact ⟨h.connected, hg', hlists _, hlists _⟩
    | false =>
      -- the insert that failed is one of an id that comes twice
      simp only [Bool.false_eq_true, if_false, if_pos h.connected]
      refine ⟨h.connected, hg', hlists _, h.committed.keyed, fun hids => ?_⟩
      obtain ⟨d', hok, _⟩ := hnodup hids
      rw [hok] at hrun
      cases hrun

end RuntimeStore.Pictures

/-! ## Handlers -/

theorem pictured_framed :
    Framed (Observation F D) (C2Runtime.Pictured : C2Runtime F (SpatialEntityGraph F D) → Prop) where
  append _ _ _ _ _ h := h
  replaceRecords _ _ h := h
  noteVerified _ _ _ h := h
  setInterlock _ _ h := h
  lastGuardrail _ _ h := h
  queue _ k p h := RuntimeStore.Pictures.upsertProposal h k p.payload
  issue _ k t h := RuntimeStore.Pictures.upsertInbox h k t.toJson
  drop _ k h := RuntimeStore.Pictures.deleteProposal h k
  acknowledge _ k t h := (RuntimeStore.Pictures.addAcked h k).upsertInbox k t.toJson
  reset _ h := RuntimeStore.Pictures.clear h

/-- `runtime.graph.ingest(o)` for every observation is `ingest` on the graph. -/
theorem forEach_ingest (os : List (Observation F D)) :
    (Handler.forEach (fun o => do let _ ← C2Runtime.ingest o) os :
      C2Handler F (SpatialEntityGraph F D) Unit) =
      Handler.zoom (fun s => s.graph) (fun s g => { s with graph := g }) (ingestAll os) := by
  unfold ingestAll
  exact forEach_ingest_zoom os

/-- The graph is a new one that replays; the database is still the one of another graph. -/
def C2Runtime.Reloaded (s : C2Runtime F (SpatialEntityGraph F D)) : Prop :=
  s.graph.Replays ∧ ∃ g : SpatialEntityGraph F D, s.store.Pictures g

/-- A scenario that is loaded leaves a graph that the database lists. -/
theorem ingestScenario_pictured (env : Env F (Observation F D) (SpatialEntityGraph F D))
    (scenarioId : String) :
    Ends C2Runtime.Pictured (fun _ => True) (ingestScenario env scenarioId) := by
  have hE (I : C2Runtime F (SpatialEntityGraph F D) → Prop) : ∀ s, I s → True :=
    fun _ _ => trivial
  unfold ingestScenario
  refine Handler.Triple.bind (Q := fun _ => C2Runtime.Pictured) (Ends.ofExcept (hE _)) fun scenario => ?_
  refine Handler.Triple.bind (Q := fun _ s => s.graph = SpatialEntityGraph.empty ∧
    ∃ g : SpatialEntityGraph F D, s.store.Pictures g) (.modify fun s hs => ⟨rfl, _, hs⟩) fun _ => ?_
  refine Handler.Triple.bind (Ends.ofExcept (hE _)) fun events => ?_
  refine Handler.Triple.bind (Ends.ofExcept (hE _)) fun observations => ?_
  refine Handler.Triple.bind (Q := fun _ => C2Runtime.Reloaded) ?_ fun _ => ?_
  · rintro s ⟨hempty, hstore⟩
    rw [forEach_ingest, Handler.zoom_apply, hempty]
    cases hrun : ingestAll observations (SpatialEntityGraph.empty : SpatialEntityGraph F D) with
    | mk r g =>
      cases r with
      | error e => trivial
      | ok _ => exact ⟨replays_ingestAll observations hrun, hstore⟩
  refine Handler.Triple.bind (Q := fun _ => C2Runtime.Reloaded) (.modify fun _ h => h) fun _ => ?_
  refine Handler.Triple.bind (Q := fun _ => C2Runtime.Reloaded) (.get fun _ h => h) fun s => ?_
  refine Handler.Triple.bind (Q := fun _ => C2Runtime.Reloaded) (Ends.ofExcept (hE _)) fun finding => ?_
  refine Handler.Triple.bind (Q := fun _ => C2Runtime.Reloaded) (.modify fun _ h => h) fun _ => ?_
  cases finding with
  | none => exact .raise (hE _)
  | some finding =>
    refine Handler.Triple.bind (Q := fun _ => C2Runtime.Pictured) ?_ fun _ => .pure fun _ h => h
    refine .modify ?_
    rintro s ⟨hreplays, g, hstore⟩
    exact ((hstore.replace hreplays).setFinding _).setScenarioId _

/-- An observation that is ingested is kept in both. -/
theorem ingestObservation_pictured (o : Observation F D) :
    Ends C2Runtime.Pictured (fun _ => True)
      (ingestObservation o : C2Handler F (SpatialEntityGraph F D) String) := by
  intro s hs
  unfold ingestObservation C2Runtime.ingest
  cases hrun : SpatialEntityGraph.ingest o s.graph with
  | mk r g =>
    have hzoom : (Handler.zoom (fun s => s.graph) (fun s g => { s with graph := g })
        (EntityGraph.ingest F o) : C2Handler F (SpatialEntityGraph F D) String) s =
        (r, { s with graph := g }) := by
      rw [Handler.zoom_apply]
      show ((SpatialEntityGraph.ingest o s.graph).1,
        { s with graph := (SpatialEntityGraph.ingest o s.graph).2 }) = _
      rw [hrun]
    cases r with
    | error e =>
      rw [Handler.bind_error hzoom]
      trivial
    | ok id =>
      rw [Handler.bind_ok hzoom]
      exact RuntimeStore.Pictures.upsert hs hrun

/-! ## Restarts -/

/-- What `load_all` makes of the rows. -/
theorem picture_observations {t : Tables F} {os : List (Observation F D)}
    (hrows : t.observations.entries = rows os) {p : Picture F (Observation F D)}
    (h : t.picture (SpatialEntityGraph F D) = some p) :
    p.observations = os.map Observation.ensureDigest := by
  have hread : t.observations.values.mapM (EntityGraph.validate (F := F) (SpatialEntityGraph F D)) =
      some (os.map Observation.ensureDigest) := by
    unfold Dict.values
    rw [hrows]
    exact validate_rows os
  unfold Tables.picture at h
  rw [hread] at h
  simp only [bind, Option.bind_some] at h
  obtain ⟨proposals, -, h⟩ := Option.bind_eq_some_iff.mp h
  obtain ⟨inbox, -, h⟩ := Option.bind_eq_some_iff.mp h
  cases h
  rfl

section

variable {s : C2Runtime F (SpatialEntityGraph F D)} (hs : s.Mirrored (Observation F D))
  {os : List (Observation F D)} (hrows : s.store.committed.observations.entries = rows os)

include hs hrows

theorem loadAll_observations :
    ((s.store.reopen true).loadAll (SpatialEntityGraph F D)).observations =
      os.map Observation.ensureDigest := by
  obtain ⟨p, hp, -⟩ := hs.committed.picture
  unfold RuntimeStore.loadAll RuntimeStore.reopen
  rw [if_pos rfl, hp]
  exact picture_observations hrows hp

/-- A start that does not raise has ingested the rows. -/
theorem restart_ingested {boot : Boot F} (hopens : boot.storeOpens = true)
    {s' : C2Runtime F (SpatialEntityGraph F D)}
    (h : C2Runtime.restart (Observation F D) boot s = .ok s') :
    ingestAll os SpatialEntityGraph.empty = (.ok (), s'.graph) ∧ s'.store = s.store.reopen true := by
  obtain ⟨policy, -, hrun⟩ := C2Runtime.restart_eq_ok.mp h
  rw [hopens] at hrun
  obtain ⟨g, hloop, rfl⟩ := hydrateFromStore_ok hrun
  refine ⟨?_, rfl⟩
  rw [forEach_ingest, Handler.zoom_apply] at hloop
  have hobs : ((s.reopened (Observation F D) policy true).store.loadAll
      (SpatialEntityGraph F D)).observations = os.map Observation.ensureDigest :=
    loadAll_observations hs hrows
  rw [hobs, ingestAll_ensureDigest] at hloop
  obtain ⟨hok, hgraph⟩ := Prod.mk.inj hloop
  exact Prod.ext hok (congrArg C2Runtime.graph hgraph)

/-- A start raises nothing where ingesting the rows raises nothing. -/
theorem restart_of_ingested {boot : Boot F} {policy : TieredPolicy F}
    (hpolicy : C2Runtime.bootPolicy boot = .ok policy) (hopens : boot.storeOpens = true)
    {g : SpatialEntityGraph F D} (hrun : ingestAll os SpatialEntityGraph.empty = (.ok (), g)) :
    ∃ s', C2Runtime.restart (Observation F D) boot s = .ok s' ∧ s'.graph = g := by
  have hobs : ((s.reopened (Observation F D) policy true).store.loadAll
      (SpatialEntityGraph F D)).observations = os.map Observation.ensureDigest :=
    loadAll_observations hs hrows
  have hloop : (Handler.forEach (fun o => do let _ ← C2Runtime.ingest o)
      (os.map Observation.ensureDigest) : C2Handler F (SpatialEntityGraph F D) Unit)
      (s.reopened (Observation F D) policy true) =
      (.ok (), { s.reopened (Observation F D) policy true with graph := g }) := by
    rw [forEach_ingest, Handler.zoom_apply, ingestAll_ensureDigest]
    show ((ingestAll os SpatialEntityGraph.empty).1, { s.reopened (Observation F D) policy true with
      graph := (ingestAll os SpatialEntityGraph.empty).2 }) = _
    rw [hrun]
  have hhydrate : ∃ s', C2Runtime.hydrateFromStore (Observation F D)
      (s.reopened (Observation F D) policy true) = (.ok (), s') ∧ s'.graph = g := by
    unfold C2Runtime.hydrateFromStore
    rw [Handler.get_bind, hobs, Handler.bind_ok hloop]
    exact ⟨_, rfl, rfl⟩
  obtain ⟨s', hs', hgraph⟩ := hhydrate
  exact ⟨s', C2Runtime.restart_eq_ok.mpr ⟨policy, hpolicy, by rw [hopens]; exact hs'⟩, hgraph⟩

end

/-! ## Runs -/

variable {s s' : C2Runtime F (SpatialEntityGraph F D)}
  {op : Operation F (Observation F D) (SpatialEntityGraph F D)}

/-- What one operation leaves. -/
theorem Operation.Step.pictured (h : Operation.Step s op s') (hop : op.Succeeds s)
    (hmirrored : s.Mirrored (Observation F D)) (hs : s.Pictured) : s'.Pictured := by
  cases h with
  | request r =>
    refine pictured_framed.serve r (fun id hid => ?_) hs
    refine Keeps.of_ends (ingestScenario_pictured r.env id) fun t => ?_
    rw [ingestScenario_outcome r.env id t s]
    exact hop id hid
  | ingress i =>
    exact Ingress.Accepted.leaves ingestObservation_pictured
      (fun _ _ _ _ => pictured_framed.audit _ _ _ _ _) hop hs
  | restart boot _ hboot =>
    obtain ⟨os, hrows⟩ := hs.committed.keyed
    obtain ⟨hrun, hstore⟩ := restart_ingested hmirrored hrows hop hboot
    have hobs : s'.graph.observations = os.map Observation.ensureDigest := ingestAll_observations hrun
    have hlists : s.store.committed.Lists s'.graph.observations := by
      refine ⟨⟨os, hrows⟩, fun _ => ?_⟩
      rw [hobs, rows_ensureDigest]
      exact hrows
    unfold C2Runtime.Pictured
    rw [hstore]
    exact ⟨rfl, replays_ingestAll os hrun, hlists, hlists⟩

/-- The two graphs have the same observations and the same tracks. -/
def SpatialEntityGraph.SamePicture (g g' : SpatialEntityGraph F D) : Prop :=
  g.observations = g'.observations ∧ g.tracks = g'.tracks

/-- A restart rebuilds the picture exactly where no id comes twice in it. -/
theorem C2Runtime.Pictured.restart_iff (hs : s.Pictured) (hmirrored : s.Mirrored (Observation F D))
    {boot : Boot F} {policy : TieredPolicy F} (hpolicy : C2Runtime.bootPolicy boot = .ok policy)
    (hopens : boot.storeOpens = true) :
    (∃ s', C2Runtime.restart (Observation F D) boot s = .ok s' ∧ s'.graph.SamePicture s.graph) ↔
      (ids s.graph.observations).Nodup := by
  constructor
  · rintro ⟨s', hboot, hobs, -⟩
    obtain ⟨os, hrows⟩ := hs.committed.keyed
    obtain ⟨hrun, -⟩ := restart_ingested hmirrored hrows hopens hboot
    have hrebuilt : s'.graph.observations = os.map Observation.ensureDigest :=
      ingestAll_observations hrun
    rw [← hobs, hrebuilt, ids_ensureDigest, ← keys_rows, ← hrows]
    exact s.store.committed.observations.nodup
  · intro hnodup
    obtain ⟨s', hboot, hgraph⟩ :=
      restart_of_ingested hmirrored (hs.committed.all hnodup) hpolicy hopens hs.replays
    exact ⟨s', hboot, by rw [hgraph], by rw [hgraph]⟩

theorem Run.pictured {policy : TieredPolicy F} {audit : AuditTrail F}
    {tr : List (Transition (C2Runtime F (SpatialEntityGraph F D))
      (Operation F (Observation F D) (SpatialEntityGraph F D)))}
    (h : Run (Guarded Operation.Succeeds Operation.Step)
      (C2Runtime.fresh F (Observation F D) policy audit true) tr s) :
    s.Mirrored (Observation F D) ∧ s.Pictured := by
  refine h.invariant (I := fun s => s.Mirrored (Observation F D) ∧ s.Pictured)
    ⟨mirrored_fresh policy audit, pictured_fresh policy audit⟩ ?_
  rintro s op s' ⟨hmirrored, hs⟩ ⟨hop, hstep⟩
  have hopens : op.StoreOpens := by
    cases op with
    | restart boot => exact hop
    | _ => trivial
  exact ⟨hstep.mirrored hopens hmirrored, hstep.pictured hop hmirrored hs⟩

/-- After any run of operations that succeed, a restart rebuilds the picture exactly when no two of
its observations have one id. -/
theorem picture_survives_iff {policy : TieredPolicy F} {audit : AuditTrail F}
    {tr : List (Transition (C2Runtime F (SpatialEntityGraph F D))
      (Operation F (Observation F D) (SpatialEntityGraph F D)))}
    (h : Run (Guarded Operation.Succeeds Operation.Step)
      (C2Runtime.fresh F (Observation F D) policy audit true) tr s)
    {boot : Boot F} {policy' : TieredPolicy F} (hpolicy : C2Runtime.bootPolicy boot = .ok policy')
    (hopens : boot.storeOpens = true) :
    (∃ s', C2Runtime.restart (Observation F D) boot s = .ok s' ∧ s'.graph.SamePicture s.graph) ↔
      (s.graph.observations.map Observation.observationId).Nodup :=
  h.pictured.2.restart_iff h.pictured.1 hpolicy hopens

end

/-! ## An open feed -/

/-- A vessel of the feed. -/
def openVessel : Observation Whole Instant :=
  { observationId := "open-ais-563000001"
    sourceId := "OPEN_AIS_563000001"
    entityHint := "EASTERN STAR"
    latitude := .num 1
    longitude := .num 103
    altitudeM := none
    speedMps := .num 6
    headingDeg := none
    confidence := .num 1
    observedAt := ⟨0⟩
    modality := "ais"
    attributes := [("feed", .str "open_ais")]
    rawDigest := "d0" }

/-- A poll of the feed, which has one vessel. -/
def pollFeed : Operation Whole (Observation Whole Instant) (SpatialEntityGraph Whole Instant) :=
  .ingress
    { env :=
        { uuid4 := fun i => "uuid-" ++ toString i
          utcNow := fun _ => "2026-01-01T00:00:00+00:00"
          appendRaises := fun _ _ => none
          getScenario := fun id => .error (.keyError id)
          normalizeSensorEvent := fun _ => .ok openVessel
          interpret := fun _ _ _ _ => .error .assertion
          loadPois := .ok [tankFarm] }
      adapters :=
        { resolveDualSarEvents := fun _ _ _ => .ok ([], "")
          resolveSentinelEvents := fun _ _ _ => .ok ([], "")
          resolveGlintEvents := fun _ _ => .ok ([], "")
          loadAssumedFixture := .ok .null
          candidateEventToObservation := fun _ => .ok openVessel
          parseOpenFeedSelection := fun feed => .ok [feed]
          parseOpenFeedSource := .ok
          openFeedToObservations := fun _ _ _ _ _ => .ok ([openVessel], "fixture")
          loadJsonl := .ok [] }
      req := .openFeed ⟨"ais", none, true, none, 40⟩ }

/-- A new server on an empty trail. -/
def newServer [Sha256] : C2Runtime Whole (SpatialEntityGraph Whole Instant) :=
  .fresh Whole (Observation Whole Instant) demoPolicy ⟨[], genesisPrev⟩ true

theorem bootPolicy_demo : C2Runtime.bootPolicy demoBoot = .ok demoPolicy := rfl

theorem picture_survives_one_poll :
    letI := plainHash
    ∃ s', C2Runtime.restart (Observation Whole Instant) demoBoot
        ([pollFeed].foldl operate newServer) = .ok s' ∧
      s'.graph.SamePicture ([pollFeed].foldl operate newServer).graph := by
  let := plainHash
  have hrun : Run (Guarded Operation.Succeeds Operation.Step) newServer
      (trace operate newServer [pollFeed]) ([pollFeed].foldl operate newServer) := by
    refine run_operate ?_
    intro x hx
    rw [List.mem_singleton.mp hx]
    refine ⟨?_, fun boot hboot => by cases hboot⟩
    show (ingressOpenFeed _ _ _ newServer).1.isOk = true
    decide +kernel
  exact (picture_survives_iff hrun bootPolicy_demo rfl).mpr (by decide +kernel)

/-- A feed that is polled twice leaves two observations in memory and one row. -/
theorem not_picture_survives :
    letI := plainHash
    ¬ ∀ (policy policy' : TieredPolicy Whole) (audit : AuditTrail Whole)
        (tr : List (Transition (C2Runtime Whole (SpatialEntityGraph Whole Instant))
          (Operation Whole (Observation Whole Instant) (SpatialEntityGraph Whole Instant))))
        (s : C2Runtime Whole (SpatialEntityGraph Whole Instant)) (boot : Boot Whole),
        Run (Guarded Operation.Succeeds Operation.Step)
          (C2Runtime.fresh Whole (Observation Whole Instant) policy audit true) tr s →
        C2Runtime.bootPolicy boot = .ok policy' → boot.storeOpens = true →
        ∃ s', C2Runtime.restart (Observation Whole Instant) boot s = .ok s' ∧
          s'.graph.SamePicture s.graph := by
  let := plainHash
  intro h
  have hrun : Run (Guarded Operation.Succeeds Operation.Step) newServer
      (trace operate newServer [pollFeed, pollFeed])
      ([pollFeed, pollFeed].foldl operate newServer) := by
    refine run_operate ?_
    intro x hx
    rcases List.mem_cons.mp hx with rfl | hx
    · refine ⟨?_, fun boot hboot => by cases hboot⟩
      show (ingressOpenFeed _ _ _ newServer).1.isOk = true
      decide +kernel
    · rw [List.mem_singleton.mp hx]
      refine ⟨?_, fun boot hboot => by cases hboot⟩
      show (ingressOpenFeed _ _ _ (operate newServer pollFeed)).1.isOk = true
      decide +kernel
  obtain ⟨hmirrored, hpictured⟩ := hrun.pictured
  have hkept := h demoPolicy demoPolicy _ _ _ demoBoot hrun bootPolicy_demo rfl
  have hnodup := (hpictured.restart_iff hmirrored bootPolicy_demo rfl).mp hkept
  revert hnodup
  decide +kernel

end NexusC2

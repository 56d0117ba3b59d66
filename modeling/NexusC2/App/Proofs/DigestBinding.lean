import NexusC2.App.OpenFeed
import NexusC2.App.Proofs.PartialIngress
import NexusC2.App.Proofs.PictureRestart
import NexusC2.App.Proofs.TrackSources
import NexusC2.App.SarEvents
import NexusC2.Misc.JsonCanonical

/-!
# Digests stay bound to their content

Every observation that an adapter makes leaves it with the digest of its own dump, and nothing
writes to it afterwards. What is in the graph, what is in the table and what comes out of the table
is sealed in this way along every run, and the tracks list the digests of the observations that went
into them.
-/

namespace NexusC2

open Handler (Ends Keeps)
open SpatialEntityGraph

/-! ## Objects -/

namespace Json

variable {F : Type}

theorem wf_update {d e : Fields F} (hd : (Json.obj d).wf = true) (he : (Json.obj e).wf = true) :
    (Json.obj (Assoc.update d e)).wf = true := by
  have hvalues : ∀ p ∈ e, p.2.wf = true := wfFields_iff.mp (wf_obj_iff.mp he).2
  clear he
  unfold Assoc.update
  induction e generalizing d with
  | nil => exact hd
  | cons p e ih =>
    apply ih
    · exact wf_set hd p.1 (hvalues p List.mem_cons_self)
    · intro q hq
      exact hvalues q (List.mem_cons_of_mem _ hq)

theorem wf_without {row : Fields F} (h : (Json.obj row).wf = true) (keys : List String) :
    (Json.obj (Southbound.without keys row)).wf = true := by
  obtain ⟨hkeys, hvalues⟩ := wf_obj_iff.mp h
  have hsub : (Southbound.without keys row).Sublist row := List.filter_sublist
  apply wf_obj_iff.mpr
  constructor
  · exact hkeys.sublist (hsub.map Prod.fst)
  · apply wfFields_iff.mpr
    intro p hp
    exact wfFields_iff.mp hvalues p (hsub.subset hp)

theorem wf_getOrNone {row : Fields F} (h : (Json.obj row).wf = true) (key : String) :
    (getOrNone row key).wf = true := by
  unfold getOrNone
  cases hget : Assoc.get row key with
  | none => rfl
  | some v => exact wf_of_get h hget

end Json

/-! ## Observations -/

namespace Observation

variable {F D : Type}

section

variable [PyFloatOps F] [PyDateTime D] [Sha256]

/-- The digest is that of the dump without it. -/
def Bound (o : Observation F D) : Prop := o.rawDigest = digestOf (.obj o.body)

/-- The digest is bound, and the attributes are a `dict`. -/
structure Sealed (o : Observation F D) : Prop where
  bound : o.Bound
  attributes : (Json.obj o.attributes).wf = true

theorem bound_ensureDigest {o : Observation F D} (h : o.rawDigest = "") :
    o.ensureDigest.Bound := by
  unfold ensureDigest
  rw [if_pos h]
  rfl

/-- A bound digest is not computed anew, and would be the same. -/
theorem Bound.ensureDigest {o : Observation F D} (h : o.Bound) : o.ensureDigest = o := by
  unfold Observation.ensureDigest
  split
  · unfold Bound at h
    rw [← h]
  · rfl

@[simp] theorem attributes_ensureDigest (o : Observation F D) :
    o.ensureDigest.attributes = o.attributes := by
  unfold Observation.ensureDigest
  split <;> rfl

omit [PyFloatOps F] [Sha256] in
/-- The dump of an observation is an object with distinct keys. -/
theorem wf_modelDump {o : Observation F D} (h : (Json.obj o.attributes).wf = true) :
    o.modelDump.wf = true := by
  have hopt : ∀ x : Option F, (optFloat x).wf = true := by
    intro x
    cases x <;> rfl
  apply Json.wf_obj_iff.mpr
  constructor
  · show List.Nodup ["observation_id", "source_id", "entity_hint", "latitude", "longitude",
      "altitude_m", "speed_mps", "heading_deg", "confidence", "observed_at", "modality",
      "attributes", "raw_digest"]
    decide
  · apply Json.wfFields_iff.mpr
    simpa [body, hopt, Json.wf] using Json.wf_obj_iff.mp h

end

/-- What is written as text is read back, and validates as the observation. -/
theorem readsBack [PyNumbers F] [PyDateTime D] {o : Observation F D}
    (h : (Json.obj o.attributes).wf = true) :
    (Json.loads (Json.toText o.modelDump)).bind ofDump = some o := by
  rw [Json.loads_toText (wf_modelDump h)]
  exact ofDump_modelDump o

theorem sealed_of_new [PyFloatOps F] [PyDateTime D] [Sha256] {o : Observation F D}
    (hdigest : o.rawDigest = "") (h : (Json.obj o.attributes).wf = true) : o.ensureDigest.Sealed := by
  constructor
  · exact bound_ensureDigest hdigest
  · rw [attributes_ensureDigest]
    exact h

end Observation

/-! ## What the adapters make -/

namespace Southbound

variable {F D : Type} [PyTextOps F] [PyDateTime D]

/-- The event of a canonical row is a `dict` again. -/
theorem wf_canonicalRowToEvent {host : Host F D} {row e : Fields F}
    (h : canonicalRowToEvent host row = .ok (some e)) (hrow : (Json.obj row).wf = true) :
    (Json.obj e).wf = true := by
  unfold canonicalRowToEvent at h
  obtain ⟨observedAt, -, h⟩ := except_bind_eq_ok.mp h
  obtain ⟨position, -, h⟩ := except_bind_eq_ok.mp h
  cases position with
  | none => cases h
  | some latLon =>
    obtain ⟨speedKt, -, h⟩ := except_bind_eq_ok.mp h
    obtain ⟨latitude, -, h⟩ := except_bind_eq_ok.mp h
    obtain ⟨longitude, -, h⟩ := except_bind_eq_ok.mp h
    obtain ⟨heading, hheading, h⟩ := except_ite_bind_eq_ok h
    obtain ⟨confidence, -, h⟩ := except_bind_eq_ok.mp h
    cases h
    have hwf : heading.wf = true := by
      split at hheading
      · cases hheading
        rfl
      · obtain ⟨x, -, rfl⟩ := except_map_eq_ok.mp hheading
        rfl
    -- the items of the row are written over those of the event
    apply Json.wf_update
    · simp [Json.wf, Json.wfFields, Assoc.keys, hwf]
    · apply Json.wf_set _ "time_s" (Json.wf_getOrNone hrow "time_s")
      apply Json.wf_set _ "source" rfl
      apply Json.wf_set (Json.wf_without hrow rowKeys) "service"
      split
      · exact Json.wf_getOrNone (Json.wf_without hrow rowKeys) "service"
      · rfl

theorem wf_acceptedEvent {host : Host F D} {event e : Fields F}
    (h : acceptedEvent host event = .ok e) (hevent : (Json.obj event).wf = true) :
    (Json.obj e).wf = true := by
  unfold acceptedEvent at h
  split at h
  · obtain ⟨converted, hconverted, h⟩ := except_bind_eq_ok.mp h
    cases converted with
    | none => cases h
    | some e' =>
      cases h
      exact wf_canonicalRowToEvent hconverted hevent
  split at h
  · obtain ⟨converted, hconverted, h⟩ := except_bind_eq_ok.mp h
    cases h
    cases converted with
    | none => exact hevent
    | some e' => exact wf_canonicalRowToEvent hconverted hevent
  · cases h
    exact hevent

/-- What is normalised from a `dict` is sealed. -/
theorem normalizeSensorEvent_sealed [Sha256] {host : Host F D} {event : Fields F}
    {o : Observation F D} (h : normalizeSensorEvent host event = .ok o)
    (hevent : (Json.obj event).wf = true) : o.Sealed := by
  obtain ⟨accepted, haccepted, h⟩ := except_bind_eq_ok.mp h
  have hwf := wf_acceptedEvent haccepted hevent
  obtain ⟨new, speedKt, rfl, hnew, -, hattributes⟩ := observationOf_ok h
  apply Observation.sealed_of_new hnew
  obtain ⟨hkeys, hvalues⟩ := Json.wf_obj_iff.mp (Json.wf_without hwf eventKeys)
  have hspeed : "speed_kt" ∉ Assoc.keys (without eventKeys accepted) :=
    not_mem_keys_without (by decide) accepted
  rw [hattributes]
  apply Json.wf_obj_iff.mpr
  constructor
  · exact List.nodup_cons.mpr ⟨hspeed, hkeys⟩
  · exact hvalues

end Southbound

section

variable {F D : Type} [PyFloatOps F] [PyDateTime D] [Sha256]

/-- The observation of a candidate event is sealed. -/
theorem candidateEvent_sealed (event : CandidateEvent F D)
    (hevent : (Json.obj event.attributes).wf = true) :
    (candidateEventToObservation event).Sealed := by
  apply Observation.sealed_of_new rfl
  have hattrs := Json.wf_update (d := [("area_id", .str event.areaId),
    ("event_type", .str event.eventType), ("ingress", .str "candidate_event"),
    ("schema_version", .str "1.3.0")]) rfl hevent
  cases hbox : event.boundingBox with
  | none => simpa [hbox] using hattrs
  | some box =>
    have hset := Json.wf_set hattrs "bounding_box" (v := box.modelDump) rfl
    simpa [hbox] using hset

end

/-! ## The graph -/

namespace SpatialEntityGraph

variable {F D : Type} [PyMathOps F] [PyDateTime D] [Sha256]

/-- The observations are sealed, and the graph is what they make of an empty one. -/
structure Sealed (g : SpatialEntityGraph F D) : Prop where
  observations : ∀ o ∈ g.observations, o.Sealed
  ingested : g = (fresh 2000.0).ingestEach g.observations

theorem sealed_empty : (empty : SpatialEntityGraph F D).Sealed :=
  ⟨fun _ h => absurd h List.not_mem_nil, rfl⟩

namespace Sealed

variable {g : SpatialEntityGraph F D} (h : g.Sealed)

include h

/-- A sealed observation is put in as it is, whatever comes of the search for its track. -/
theorem ingest {o : Observation F D} (ho : o.Sealed) : (ingest o g).2.Sealed := by
  have hobs : (SpatialEntityGraph.ingest o g).2.observations = g.observations ++ [o] := by
    rw [ingest_observations, ho.bound.ensureDigest]
  constructor
  · rw [hobs]
    intro o' ho'
    rcases List.mem_append.mp ho' with hold | hnew
    · exact h.observations o' hold
    · rw [List.mem_singleton.mp hnew]
      exact ho
  · rw [hobs, ingestEach_snoc, ← h.ingested]

theorem map_ensureDigest : g.observations.map Observation.ensureDigest = g.observations := by
  rw [List.map_congr_left fun o ho => (h.observations o ho).bound.ensureDigest, List.map_id']

/-- What went into a track are observations of the graph, in their order. -/
theorem assigned_sublist (k : String) :
    ((fresh 2000.0).assigned g.observations k).Sublist g.observations := by
  have hsub : ((fresh 2000.0).assigned g.observations k).Sublist
      (((fresh 2000.0).placements g.observations).map Prod.fst) := List.filter_sublist.map _
  rwa [map_placements, h.map_ensureDigest] at hsub

/-- A track lists the ids and the digests of the observations that went into it. -/
theorem evidence {k : String} {t : Track F D} (hget : g.tracks.get k = some t) :
    t.observationIds =
        ((fresh 2000.0).assigned g.observations k).map Observation.observationId ∧
      t.digests = ((fresh 2000.0).assigned g.observations k).map Observation.rawDigest := by
  rw [h.ingested, tracks_get] at hget
  exact Track.ofAll_evidence hget

end Sealed

end SpatialEntityGraph

/-! ## The table -/

section

variable {F D : Type} [PyMathOps F] [PyDateTime D] [Sha256]

variable (D) in
/-- The rows are those of sealed observations. -/
def Tables.Sealed (t : Tables F) : Prop :=
  ∃ os : List (Observation F D), t.observations.entries = rows os ∧ ∀ o ∈ os, o.Sealed

variable (D) in
structure RuntimeStore.Sealed (st : RuntimeStore F) : Prop where
  working : st.working.Sealed D
  committed : st.committed.Sealed D

theorem Tables.sealed_empty : (Tables.empty : Tables F).Sealed D :=
  ⟨[], rfl, fun _ h => absurd h List.not_mem_nil⟩

/-- What `load_all` reads are sealed observations again. -/
theorem Tables.Sealed.picture {t : Tables F} (h : t.Sealed D) {p : Picture F (Observation F D)}
    (hp : t.picture (SpatialEntityGraph F D) = some p) : ∀ o ∈ p.observations, o.Sealed := by
  obtain ⟨os, hrows, hos⟩ := h
  rw [picture_observations hrows hp]
  intro o ho
  obtain ⟨o', ho', rfl⟩ := List.mem_map.mp ho
  rw [(hos o' ho').bound.ensureDigest]
  exact hos o' ho'

namespace RuntimeStore.Sealed

variable {st : RuntimeStore F} (h : st.Sealed D)

include h

theorem write {f : Tables F → Tables F} (hf : ∀ t : Tables F, t.Sealed D → (f t).Sealed D) :
    (st.write f).Sealed D := by
  unfold RuntimeStore.write
  split
  · exact ⟨hf _ h.working, hf _ h.working⟩
  · exact h

/-- A statement on the other tables. -/
theorem writeOther {f : Tables F → Tables F}
    (hf : ∀ t : Tables F, (f t).observations = t.observations) : (st.write f).Sealed D := by
  refine h.write fun t ht => ?_
  unfold Tables.Sealed
  rw [hf]
  exact ht

theorem setScenarioId (value : Option String) : (st.setScenarioId value).Sealed D :=
  h.writeOther fun _ => rfl

theorem setFinding (finding : Option (Json F)) : (st.setFinding finding).Sealed D :=
  h.writeOther fun _ => rfl

theorem upsertProposal (coaId : String) (payload : Json F) :
    (st.upsertProposal coaId payload).Sealed D := h.writeOther fun _ => rfl

theorem deleteProposal (coaId : String) : (st.deleteProposal coaId).Sealed D :=
  h.writeOther fun _ => rfl

theorem upsertInbox (coaId : String) (tasking : Json F) :
    (st.upsertInbox coaId tasking).Sealed D := h.writeOther fun _ => rfl

theorem addAcked (coaId : String) : (st.addAcked coaId).Sealed D := h.writeOther fun _ => rfl

theorem clear : st.clear.Sealed D := h.write fun _ _ => Tables.sealed_empty

theorem upsert {o : Observation F D} (ho : o.Sealed) :
    (st.upsertObservation (EntityGraph.row (SpatialEntityGraph F D) o)).Sealed D := by
  refine h.write ?_
  rintro t ⟨os, hrows, hos⟩
  obtain ⟨os', hsub, hset⟩ := set_rows os o
  refine ⟨os', ?_, ?_⟩
  · rw [Dict.entries_set, hrows]
    exact hset
  · intro o' ho'
    rcases List.mem_cons.mp (hsub ho') with rfl | hold
    · exact ho
    · exact hos o' hold

/-- The rows of a new list, up to an insert that fails. -/
theorem replace {os : List (Observation F D)} (hos : ∀ o ∈ os, o.Sealed) :
    (st.replaceObservations (rows os)).Sealed D := by
  obtain ⟨os', hsub, hrows⟩ := insertRows_rows (d := ∅) (p := []) rfl os
  have htable : ∀ t : Tables F, ({ t with
      observations := (RuntimeStore.insertRows ∅ (rows os)).1 } : Tables F).Sealed D :=
    fun _ => ⟨os', hrows, fun o ho => hos o (hsub ho)⟩
  unfold RuntimeStore.replaceObservations
  cases hrun : RuntimeStore.insertRows ∅ (rows os) with
  | mk d ok =>
    rw [hrun] at htable
    dsimp only
    split
    · exact h.write fun t _ => htable t
    split
    · exact ⟨htable _, h.committed⟩
    · exact h

theorem reopen (opens : Bool) : (st.reopen opens).Sealed D := ⟨h.committed, h.committed⟩

theorem loadAll {o : Observation F D}
    (ho : o ∈ (st.loadAll (SpatialEntityGraph F D) : Picture F (Observation F D)).observations) :
    o.Sealed := by
  have hempty : o ∉ (Picture.empty : Picture F (Observation F D)).observations :=
    List.not_mem_nil
  unfold RuntimeStore.loadAll at ho
  split at ho
  · cases hp : (st.working.picture (SpatialEntityGraph F D) :
        Option (Picture F (Observation F D))) with
    | none =>
      rw [hp] at ho
      exact absurd ho hempty
    | some p =>
      rw [hp] at ho
      exact h.working.picture hp o ho
  · exact absurd ho hempty

end RuntimeStore.Sealed

/-! ## Handlers -/

/-- What is in the graph and in the database is sealed. -/
structure C2Runtime.Sealed (s : C2Runtime F (SpatialEntityGraph F D)) : Prop where
  graph : s.graph.Sealed
  store : s.store.Sealed D

theorem sealed_fresh (policy : TieredPolicy F) (audit : AuditTrail F) (connected : Bool) :
    (C2Runtime.fresh F (Observation F D) policy audit connected :
      C2Runtime F (SpatialEntityGraph F D)).Sealed :=
  ⟨sealed_empty, Tables.sealed_empty, Tables.sealed_empty⟩

theorem sealed_framed :
    Framed (Observation F D) (C2Runtime.Sealed : C2Runtime F (SpatialEntityGraph F D) → Prop) where
  append _ _ _ _ _ h := ⟨h.graph, h.store⟩
  replaceRecords _ _ h := ⟨h.graph, h.store⟩
  noteVerified _ _ _ h := ⟨h.graph, h.store⟩
  setInterlock _ _ h := ⟨h.graph, h.store⟩
  lastGuardrail _ _ h := ⟨h.graph, h.store⟩
  queue _ k p h := ⟨h.graph, h.store.upsertProposal k p.payload⟩
  issue _ k t h := ⟨h.graph, h.store.upsertInbox k t.toJson⟩
  drop _ k h := ⟨h.graph, h.store.deleteProposal k⟩
  acknowledge _ k t h := ⟨h.graph, (h.store.addAcked k).upsertInbox k t.toJson⟩
  reset _ h := ⟨sealed_empty, h.store.clear⟩

theorem ingest_sealed {o : Observation F D} (ho : o.Sealed) :
    Keeps C2Runtime.Sealed
      (C2Runtime.ingest o : C2Handler F (SpatialEntityGraph F D) String) := by
  refine .zoom_of (J := SpatialEntityGraph.Sealed) (.of_snd fun g hg => hg.ingest ho) ?_ ?_
  · intro s hs
    exact hs.graph
  · intro s g hs hg
    exact ⟨hg, hs.store⟩

theorem ingestObservation_sealed {o : Observation F D} (ho : o.Sealed) :
    Keeps C2Runtime.Sealed
      (ingestObservation o : C2Handler F (SpatialEntityGraph F D) String) := by
  refine .bind (ingest_sealed ho) fun _ => .bind (.modify fun s hs => ?_) fun _ => .pure
  exact ⟨hs.graph, hs.store.upsert ho⟩

/-- A scenario whose events are normalised to sealed observations. -/
theorem ingestScenario_sealed {env : Env F (Observation F D) (SpatialEntityGraph F D)}
    (hnormal : ∀ event o, env.normalizeSensorEvent event = .ok o → o.Sealed)
    (scenarioId : String) : Keeps C2Runtime.Sealed (ingestScenario env scenarioId) := by
  unfold ingestScenario
  refine .bind .ofExcept fun scenario => ?_
  refine .bind (.modify fun s hs => ⟨sealed_empty, hs.store⟩) fun _ => ?_
  refine .bind .ofExcept fun events => ?_
  refine Keeps.ofExcept_bind fun observations hobservations => ?_
  have hsealed : ∀ o ∈ observations, o.Sealed := by
    intro o ho
    obtain ⟨event, -, hevent⟩ := except_mapM_mem hobservations ho
    exact hnormal event o hevent
  refine .bind (.forEach fun o ho => ?_) fun _ => ?_
  · exact .bind (ingest_sealed (hsealed o ho)) fun _ => .pure
  refine .bind (.modify fun s hs => ⟨hs.graph, hs.store⟩) fun _ => ?_
  refine .bind .get fun s => ?_
  refine .bind .ofExcept fun finding => ?_
  refine .bind (.modify fun s hs => ⟨hs.graph, hs.store⟩) fun _ => ?_
  cases finding with
  | none => exact .raise
  | some finding =>
    refine .bind (.modify fun s hs => ⟨hs.graph, ?_⟩) fun _ => .pure
    exact ((hs.store.replace hs.graph.observations).setFinding _).setScenarioId _

/-- A start ingests what it reads. -/
theorem hydrateFromStore_sealed :
    Keeps C2Runtime.Sealed
      (C2Runtime.hydrateFromStore (Observation F D) :
        C2Handler F (SpatialEntityGraph F D) Unit) := by
  intro s hs
  unfold C2Runtime.hydrateFromStore
  rw [Handler.get_bind]
  refine Keeps.bind (.forEach fun o ho => ?_) (fun _ => .modify fun t ht => ?_) s hs
  · exact .bind (ingest_sealed (hs.store.loadAll ho)) fun _ => .pure
  · exact ⟨ht.graph, ht.store⟩

theorem restart_sealed {boot : Boot F} {s s' : C2Runtime F (SpatialEntityGraph F D)}
    (h : C2Runtime.restart (Observation F D) boot s = .ok s') (hs : s.Sealed) : s'.Sealed := by
  obtain ⟨policy, -, hhydrate⟩ := C2Runtime.restart_eq_ok.mp h
  have hreopened : (s.reopened (Observation F D) policy boot.storeOpens).Sealed :=
    ⟨sealed_empty, hs.store.reopen boot.storeOpens⟩
  have hrun := hydrateFromStore_sealed.snd hreopened
  rw [hhydrate] at hrun
  exact hrun

end

/-! ## The adapters of the source -/

section

variable {F D : Type} [PyTextOps F] [PyDateTime D] [Sha256]

/-- `normalize_sensor_event`, of one `dict` at one time: its keys are distinct. -/
def Southbound.Normalizes (normalize : Json F → Except Exc (Observation F D)) : Prop :=
  ∀ event o, normalize event = .ok o → ∃ host fields, event = .obj fields ∧ event.wf = true ∧
    Southbound.normalizeSensorEvent host fields = .ok o

/-- `candidate_event_to_observation`, of a payload that validates as an event. -/
def ConvertsEvents (convert : Json F → Except Exc (Observation F D)) : Prop :=
  ∀ payload o, convert payload = .ok o → ∃ event : CandidateEvent F D,
    (Json.obj event.attributes).wf = true ∧ o = candidateEventToObservation event

/-- The observations come from the functions of `app/adapters`. -/
structure Adapters.OfSource (a : Adapters F (Observation F D)) : Prop where
  candidate : ConvertsEvents a.candidateEventToObservation
  openFeed : ∃ (feeds : OpenFeeds F (Observation F D)) (others : Adapters F (Observation F D)),
    a.openFeedToObservations = (feeds.adapters others).openFeedToObservations ∧
      Southbound.Normalizes feeds.normalizeSensorEvent

/-- The operation gets its observations from the functions of `app/adapters`. -/
def Operation.OfSource : Operation F (Observation F D) (SpatialEntityGraph F D) → Prop
  | .request r => Southbound.Normalizes r.env.normalizeSensorEvent
  | .ingress i => Southbound.Normalizes i.env.normalizeSensorEvent ∧ i.adapters.OfSource
  | .restart _ => True

theorem Southbound.Normalizes.sealed {normalize : Json F → Except Exc (Observation F D)}
    (h : Southbound.Normalizes normalize) {event : Json F} {o : Observation F D}
    (ho : normalize event = .ok o) : o.Sealed := by
  obtain ⟨host, fields, rfl, hevent, hnormal⟩ := h event o ho
  exact Southbound.normalizeSensorEvent_sealed hnormal hevent

/-- The observations of a snapshot are sealed. -/
theorem OpenFeeds.observations_sealed {feeds : OpenFeeds F (Observation F D)}
    (hnormal : Southbound.Normalizes feeds.normalizeSensorEvent) {feed : FeedKind}
    {data : Fields F} {label resolved : String} {os : List (Observation F D)}
    (h : feeds.observations feed data label = .ok (os, resolved)) : ∀ o ∈ os, o.Sealed := by
  unfold OpenFeeds.observations at h
  obtain ⟨events, -, h⟩ := except_bind_eq_ok.mp h
  obtain ⟨observations, hmapped, h⟩ := except_bind_eq_ok.mp h
  cases h
  intro o ho
  obtain ⟨event, -, hevent⟩ := except_mapM_mem hmapped ho
  exact hnormal.sealed hevent

/-- Wherever its snapshot comes from. -/
theorem OpenFeeds.openFeed_sealed {feeds : OpenFeeds F (Observation F D)}
    (hnormal : Southbound.Normalizes feeds.normalizeSensorEvent) {feed : FeedKind}
    {payload : Option (Fields F)} {useFixture : Bool} {source : Option OpenFeedSource} {limit : Int}
    {resolved : String} {os : List (Observation F D)}
    (h : feeds.openFeedToObservations feed payload useFixture source limit = .ok (os, resolved)) :
    ∀ o ∈ os, o.Sealed := by
  unfold OpenFeeds.openFeedToObservations at h
  split at h
  · obtain ⟨data, -, h⟩ := except_bind_eq_ok.mp h
    exact observations_sealed hnormal h
  split at h
  · have hladder : ∀ source', (feeds.resolveOpenAisPayload source' payload useFixture limit >>=
        fun snapshot => feeds.observations .ais snapshot.1 snapshot.2) = .ok (os, resolved) →
        ∀ o ∈ os, o.Sealed := by
      intro source' h
      obtain ⟨snapshot, -, h⟩ := except_bind_eq_ok.mp h
      exact observations_sealed hnormal h
    cases source with
    | some source => exact hladder source h
    | none =>
      obtain ⟨source', -, h⟩ := except_bind_eq_ok.mp h
      exact hladder source' h
  split at h
  · obtain ⟨data, -, h⟩ := except_bind_eq_ok.mp h
    exact observations_sealed hnormal h
  · cases payload with
    | none => cases h
    | some data => exact observations_sealed hnormal h

/-- What the adapters of the source give is sealed. -/
theorem Adapters.OfSource.gives {a : Adapters F (Observation F D)} (h : a.OfSource)
    {env : Env F (Observation F D) (SpatialEntityGraph F D)}
    (hnormal : Southbound.Normalizes env.normalizeSensorEvent) :
    a.Gives env Observation.Sealed := by
  constructor
  · intro event o ho
    exact hnormal.sealed ho
  · intro payload o ho
    obtain ⟨event, hevent, rfl⟩ := h.candidate payload o ho
    exact candidateEvent_sealed event hevent
  · intro feed payload useFixture source limit os resolved hos
    obtain ⟨feeds, others, hadapter, hfeeds⟩ := h.openFeed
    rw [hadapter] at hos
    obtain ⟨kind, -, hos⟩ := except_bind_eq_ok.mp hos
    exact OpenFeeds.openFeed_sealed hfeeds hos

/-! ## Runs -/

variable {s s' : C2Runtime F (SpatialEntityGraph F D)}
  {op : Operation F (Observation F D) (SpatialEntityGraph F D)}

theorem Operation.Step.sealed (h : Operation.Step s op s') (hop : op.OfSource) (hs : s.Sealed) :
    s'.Sealed := by
  cases h with
  | request r =>
    refine sealed_framed.serve r (fun id _ => ?_) hs
    exact ingestScenario_sealed (fun event o ho => Southbound.Normalizes.sealed hop ho) id
  | ingress i =>
    refine handleIngress_keeps_of i (hop.2.gives hop.1) (fun o => ingestObservation_sealed) ?_ hs
    exact fun _ _ _ _ => sealed_framed.audit _ _ _ _ _
  | restart boot _ hboot => exact restart_sealed hboot hs

theorem Run.sealed {policy : TieredPolicy F} {audit : AuditTrail F} {connected : Bool}
    {tr : List (Transition (C2Runtime F (SpatialEntityGraph F D))
      (Operation F (Observation F D) (SpatialEntityGraph F D)))}
    (h : Run (Guarded (fun _ op => op.OfSource) Operation.Step)
      (C2Runtime.fresh F (Observation F D) policy audit connected) tr s) : s.Sealed := by
  refine h.invariant (sealed_fresh policy audit connected) ?_
  rintro s op s' hs ⟨hop, hstep⟩
  exact hstep.sealed hop hs

end

/-- Along every run the observations of the graph have the digests of their dumps and are read back
as they are, each track lists the digests of the observations that went into it in their order, and
what the database holds is read back as such an observation too. -/
theorem digests_stay_bound {F D : Type} [PyNumbers F] [PyDateTime D] [Sha256]
    {policy : TieredPolicy F} {audit : AuditTrail F} {connected : Bool}
    {tr : List (Transition (C2Runtime F (SpatialEntityGraph F D))
      (Operation F (Observation F D) (SpatialEntityGraph F D)))}
    {s : C2Runtime F (SpatialEntityGraph F D)}
    (h : Run (Guarded (fun _ op => op.OfSource) Operation.Step)
      (C2Runtime.fresh F (Observation F D) policy audit connected) tr s) :
    (∀ o ∈ s.graph.observations, o.rawDigest = digestOf (.obj o.body) ∧
      (Json.loads (Json.toText o.modelDump)).bind Observation.ofDump = some o) ∧
    (∀ k t, s.graph.tracks.get k = some t →
      ((fresh 2000.0).assigned s.graph.observations k).Sublist s.graph.observations ∧
      t.observationIds =
        ((fresh 2000.0).assigned s.graph.observations k).map Observation.observationId ∧
      t.digests = ((fresh 2000.0).assigned s.graph.observations k).map Observation.rawDigest) ∧
    ∀ t ∈ [s.store.working, s.store.committed], ∀ payload ∈ t.observations.values,
      ∃ o : Observation F D, payload = o.modelDump ∧ o.rawDigest = digestOf (.obj o.body) ∧
        (Json.loads payload.toText).bind Observation.ofDump = some o := by
  have hs := h.sealed
  refine ⟨?_, ?_, ?_⟩
  · intro o ho
    have hsealed := hs.graph.observations o ho
    exact ⟨hsealed.bound, Observation.readsBack hsealed.attributes⟩
  · intro k t hget
    exact ⟨hs.graph.assigned_sublist k, hs.graph.evidence hget⟩
  · intro t ht payload hpayload
    have htable : t.Sealed D := by
      rcases List.mem_cons.mp ht with rfl | ht
      · exact hs.store.working
      · rw [List.mem_singleton.mp ht]
        exact hs.store.committed
    obtain ⟨os, hrows, hos⟩ := htable
    unfold Dict.values at hpayload
    rw [hrows] at hpayload
    obtain ⟨row, hrow, rfl⟩ := List.mem_map.mp hpayload
    obtain ⟨o, ho, rfl⟩ := List.mem_map.mp hrow
    have hsealed := hos o ho
    have hdump : (EntityGraph.row (F := F) (SpatialEntityGraph F D) o).2 = o.modelDump :=
      congrArg Observation.modelDump hsealed.bound.ensureDigest
    rw [hdump]
    exact ⟨o, rfl, hsealed.bound, Observation.readsBack hsealed.attributes⟩

/-! ## A poll and a restart -/

/-- `normalize_sensor_event` of a clock that stands still. -/
def normalizeDict [Sha256] : Json Whole → Except Exc (Observation Whole Instant)
  | .obj fields =>
    if (Json.obj fields).wf then
      Southbound.normalizeSensorEvent
        { now := ⟨0⟩
          uuid4 := "o"
          isoformat := PyDateTime.isoformat
          demoDayAfter := fun _ => .ok ⟨0⟩
          demoDayAt := fun _ _ _ => .ok ⟨0⟩
          validHeading := fun _ => .ok none
          validObservedAt := fun _ => .error (.valueError "1 validation error for Observation") }
        fields
    else .error (.typeError "not a dict")
  | _ => .error (.attributeError "'list' object has no attribute 'get'")

theorem normalizes_normalizeDict [Sha256] : Southbound.Normalizes normalizeDict := by
  intro event o h
  unfold normalizeDict at h
  split at h
  · split at h
    · exact ⟨_, _, rfl, ‹_›, h⟩
    · cases h
  · cases h

/-- The vessel at anchor, as the adapters of the source see it. -/
def pollHarbour [Sha256] :
    Operation Whole (Observation Whole Instant) (SpatialEntityGraph Whole Instant) :=
  .ingress
    { env := { calmPost.env with normalizeSensorEvent := normalizeDict }
      adapters := ({ harbourFeeds with normalizeSensorEvent := normalizeDict } :
          OpenFeeds Whole (Observation Whole Instant)).adapters
        { harbourAdapters with
          candidateEventToObservation := fun _ => .error (.valueError "no such event") }
      req := .openFeed ⟨"ais", none, true, none, 40⟩ }

theorem ofSource_pollHarbour [Sha256] : pollHarbour.OfSource := by
  refine ⟨normalizes_normalizeDict, ?_, ?_⟩
  · intro payload o h
    cases h
  · exact ⟨_, _, rfl, normalizes_normalizeDict⟩

/-- The server that starts on the database of a poll. -/
def restartedServer [Sha256] : C2Runtime Whole (SpatialEntityGraph Whole Instant) :=
  [pollHarbour, .restart demoBoot].foldl operate newServer

/-- It has the observation of the poll. -/
theorem digests_bound_after_restart :
    letI := plainHash
    ∃ o, restartedServer.graph.observations = [o] ∧ o.rawDigest = digestOf (.obj o.body) := by
  let := plainHash
  have hone : restartedServer.graph.observations.length = 1 := by decide +kernel
  have hrun : Run (Guarded (fun _ op => op.OfSource) Operation.Step) newServer
      (trace operate newServer [pollHarbour, .restart demoBoot]) restartedServer := by
    unfold restartedServer
    refine run_operate ?_
    intro x hx
    rcases List.mem_cons.mp hx with rfl | hx
    · exact ⟨ofSource_pollHarbour, fun boot hboot => by cases hboot⟩
    · rw [List.mem_singleton.mp hx]
      refine ⟨trivial, ?_⟩
      intro boot hboot
      cases hboot
      show (C2Runtime.restart _ demoBoot (operate newServer pollHarbour)).isOk = true
      decide +kernel
  obtain ⟨o, ho⟩ := List.length_eq_one_iff.mp hone
  have hmem : o ∈ restartedServer.graph.observations := by
    rw [ho]
    exact List.mem_cons_self
  refine ⟨o, ?_, ((digests_stay_bound hrun).1 o hmem).1⟩
  rw [ho]

end NexusC2

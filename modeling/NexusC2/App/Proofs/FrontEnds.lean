import NexusC2.App.Proofs.ReplayTwice

/-!
# The two front ends of ingress

The form of the verification page and the two endpoints load the same sources and ingest what they
load in the same order. The endpoints record every observation and log the request; the form does
neither.
-/

namespace NexusC2

open SpatialEntityGraph (ingestAll)

/-- The sources that both front ends load. -/
inductive SharedSource where
  | sentinel
  | glint
  | glintPull
  | dualSar
  | openAis
  deriving DecidableEq, Repr

/-- The modes of the form that load it. -/
def SharedSource.modes : SharedSource → List String
  | sentinel => ["sentinel", "sia"]
  | glint => ["glint", "glint_fixture"]
  | glintPull => ["glint_pull"]
  | dualSar => ["dual_sar"]
  | openAis => ["indago", "open_ais", "indago_ais"]

/-- The request that loads it. -/
def SharedSource.post {F : Type} : SharedSource → Post F
  | sentinel => .candidateEvent ⟨none, false, true, false, none, false, false, false, false⟩
  | glint => .candidateEvent ⟨none, false, false, false, none, false, true, false, false⟩
  | glintPull => .candidateEvent ⟨none, false, false, false, none, true, false, false, false⟩
  | dualSar => .candidateEvent ⟨none, false, false, false, none, false, false, true, false⟩
  | openAis => .openFeed ⟨"ais", none, false, some "auto", 40⟩

/-- A mode of detections is neither one of AIS nor a reload. -/
theorem SharedSource.mode_detections {source : SharedSource} (hsource : source ≠ .openAis)
    {mode : String} (hmode : mode ∈ source.modes) :
    mode ∉ ["indago", "open_ais", "indago_ais"] ∧
      mode ∉ ["sensorsim_reload", "sensorsim", "s1_trojan_reload", "canonical_reload"] := by
  revert mode
  cases source with
  | openAis => exact absurd rfl hsource
  | sentinel => decide
  | glint => decide
  | glintPull => decide
  | dualSar => decide

section

variable {F D : Type} [PyMathOps F] [PyDateTime D] [Sha256]

/-- What its detections resolve to. -/
def SharedSource.detections (a : Adapters F (Observation F D)) :
    SharedSource → Except Exc (List (Json F) × String)
  | sentinel => a.resolveSentinelEvents none false true
  | glint => a.resolveGlintEvents false true
  | glintPull => a.resolveGlintEvents true true
  | dualSar => a.resolveDualSarEvents false true none
  | openAis => .error .assertion

/-- The observations that either front end loads. -/
def SharedSource.observations (a : Adapters F (Observation F D)) :
    SharedSource → Except Exc (List (Observation F D))
  | openAis => do
    let (observations, _) ← a.openFeedToObservations "ais" none false (some "auto") 40
    .ok observations
  | source => do
    let (events, _) ← source.detections a
    events.mapM a.candidateEventToObservation

omit [PyMathOps F] [PyDateTime D] [Sha256] in
theorem SharedSource.observations_of_detections {a : Adapters F (Observation F D)}
    {source : SharedSource} (hsource : source ≠ .openAis) :
    source.observations a = (do
      let (events, _) ← source.detections a
      events.mapM a.candidateEventToObservation) := by
  cases source with
  | openAis => exact absurd rfl hsource
  | _ => rfl

/-! ## The form -/

section

variable {a : Adapters F (Observation F D)}
  {env : Env F (Observation F D) (SpatialEntityGraph F D)}
  {s t : C2Runtime F (SpatialEntityGraph F D)}

/-- A loop over observations has ingested and stored them, and nothing else. -/
theorem forEach_ingestObservation_ok {os : List (Observation F D)}
    (h : Handler.forEach (fun o => do let _ ← ingestObservation o) os s = (.ok (), t)) :
    ingestAll os s.graph = (.ok (), t.graph) ∧
      t = { s with
        graph := t.graph
        store := (rows os).foldl RuntimeStore.upsertObservation s.store } := by
  induction os generalizing s with
  | nil =>
    cases h
    exact ⟨rfl, rfl⟩
  | cons o os ih =>
    obtain ⟨_, u, hone, hrest⟩ := Handler.bind_eq_ok.mp h
    obtain ⟨trackId, u', hingest, hu⟩ := Handler.bind_eq_ok.mp hone
    cases hu
    rw [ingestObservation_apply] at hingest
    split at hingest
    · rename_i trackId' g hgraph
      cases hingest
      obtain ⟨hall, ht⟩ := ih hrest
      exact ⟨(SpatialEntityGraph.ingestAll_cons_of_ok hgraph os).trans hall, ht⟩
    · cases hingest

/-- A loop over detections has ingested what they are converted to. -/
theorem forEach_detections_ok {events : List (Json F)}
    (h : Handler.forEach (fun payload => do
      let o ← Handler.ofExcept (a.candidateEventToObservation payload)
      let _ ← ingestObservation o) events s = (.ok (), t)) :
    ∃ os, events.mapM a.candidateEventToObservation = .ok os ∧
      Handler.forEach (fun o => do let _ ← ingestObservation o) os s = (.ok (), t) := by
  induction events generalizing s with
  | nil => exact ⟨[], rfl, h⟩
  | cons event events ih =>
    obtain ⟨_, u, hone, hrest⟩ := Handler.bind_eq_ok.mp h
    obtain ⟨o, u', hconvert, hingest⟩ := Handler.bind_eq_ok.mp hone
    obtain ⟨hevent, rfl⟩ := Prod.mk.inj hconvert
    obtain ⟨os, hos, hall⟩ := ih hrest
    refine ⟨o :: os, ?_, Handler.bind_eq_ok.mpr ⟨_, u, hingest, hall⟩⟩
    rw [List.mapM_cons, hevent, hos]
    rfl

omit [PyMathOps F] [PyDateTime D] [Sha256] in
/-- The modes of a detection source resolve to its detections. -/
theorem modeEvents_eq {source : SharedSource} (hsource : source ≠ .openAis) {mode : String}
    (hmode : mode ∈ source.modes) :
    ∃ label, modeEvents a mode = (source.detections a).map fun resolved => (resolved, label) := by
  cases source with
  | openAis => exact absurd rfl hsource
  | sentinel =>
    rcases List.mem_cons.mp hmode with rfl | hmode
    · exact ⟨_, rfl⟩
    · obtain rfl := List.mem_singleton.mp hmode
      exact ⟨_, rfl⟩
  | glint =>
    rcases List.mem_cons.mp hmode with rfl | hmode
    · exact ⟨_, rfl⟩
    · obtain rfl := List.mem_singleton.mp hmode
      exact ⟨_, rfl⟩
  | glintPull =>
    obtain rfl := List.mem_singleton.mp hmode
    exact ⟨_, rfl⟩
  | dualSar =>
    obtain rfl := List.mem_singleton.mp hmode
    exact ⟨_, rfl⟩

/-- The form has ingested what it loads, and there was something to load. -/
theorem ingressForm_ok {source : SharedSource} {mode : String} (hmode : mode ∈ source.modes)
    {page : Page} (h : ingressForm env a mode s = (.ok page, t)) :
    ∃ os, source.observations a = .ok os ∧ os ≠ [] ∧
      Handler.forEach (fun o => do let _ ← ingestObservation o) os s = (.ok (), t) := by
  unfold ingressForm at h
  by_cases hsource : source = .openAis
  · subst hsource
    rw [if_pos (show mode ∈ ["indago", "open_ais", "indago_ais"] from hmode)] at h
    obtain ⟨⟨os, resolved⟩, u, hload, h⟩ := Handler.bind_eq_ok.mp h
    obtain ⟨hos, rfl⟩ := Prod.mk.inj hload
    refine ⟨os, ?_, ?_⟩
    · unfold SharedSource.observations
      rw [hos]
      rfl
    · dsimp only at h
      split at h
      · cases h
      · rename_i hsome
        obtain ⟨_, u', hall, hpage⟩ := Handler.bind_eq_ok.mp h
        cases hpage
        exact ⟨fun hnone => hsome (by rw [hnone]; rfl), hall⟩
  · obtain ⟨hais, hreload⟩ := SharedSource.mode_detections hsource hmode
    rw [if_neg hais, if_neg hreload] at h
    obtain ⟨label, hevents⟩ := modeEvents_eq (a := a) hsource hmode
    rw [hevents] at h
    obtain ⟨⟨⟨events, resolved⟩, _⟩, u, hload, h⟩ := Handler.bind_eq_ok.mp h
    obtain ⟨hload, rfl⟩ := Prod.mk.inj hload
    dsimp only at h
    split at h
    · cases h
    · rename_i hsome
      obtain ⟨_, u', hall, hpage⟩ := Handler.bind_eq_ok.mp h
      cases hpage
      obtain ⟨os, hos, hall⟩ := forEach_detections_ok hall
      have hdetections : source.detections a = .ok (events, resolved) := by
        cases hresolve : source.detections a with
        | error e =>
          rw [hresolve] at hload
          cases hload
        | ok detections =>
          rw [hresolve] at hload
          cases hload
          rfl
      refine ⟨os, ?_, ?_, hall⟩
      · rw [SharedSource.observations_of_detections hsource, hdetections]
        exact hos
      · intro hnone
        have hlength := (except_mapM_eq_ok.mp hos).length_eq
        rw [hnone] at hlength
        exact hsome (by rw [List.length_eq_zero_iff.mp hlength]; rfl)

end

/-! ## The endpoints -/

/-- Its record has the id of the observation. -/
def Evidence.Named (e : Evidence F D) : Prop :=
  ∀ trackId, Assoc.get (e.data trackId) "observation_id" = some (.str e.observation.observationId)

section

variable {a : Adapters F (Observation F D)}

theorem row_observationId (o : Observation F D) :
    (EntityGraph.row (F := F) (SpatialEntityGraph F D) o).2.field "observation_id" =
      .str o.observationId := by
  change Json.field o.ensureDigest.modelDump "observation_id" = _
  unfold Observation.ensureDigest
  split <;> rfl

theorem candidateEvidence_ok {source : Option String} {event : Json F} {e : Evidence F D}
    (h : candidateEvidence a source event = .ok e) :
    a.candidateEventToObservation event = .ok e.observation ∧ e.Named := by
  unfold candidateEvidence at h
  cases hconvert : a.candidateEventToObservation event with
  | error err =>
    rw [hconvert] at h
    cases h
  | ok o =>
    rw [hconvert] at h
    cases h
    refine ⟨rfl, fun trackId => ?_⟩
    exact congrArg some (row_observationId o)

theorem feedEvidence_named (feed resolved : String) (o : Observation F D) :
    (feedEvidence feed resolved o).Named :=
  fun _ => congrArg some (row_observationId o)

/-- The evidence of a list of events is of their observations, with their ids. -/
theorem loadEach_candidates {source : Option String} {events : List (Json F)}
    {es : List (Evidence F D)} (h : loadEach (candidateEvidence a source) events = ⟨es, true⟩) :
    events.mapM a.candidateEventToObservation = .ok (es.map Evidence.observation) ∧
      ∀ e ∈ es, e.Named := by
  have hes := except_mapM_eq_ok.mp (loadEach_eq_iff.mp h)
  constructor
  · rw [except_mapM_eq_ok, List.forall₂_map_right_iff]
    exact hes.imp fun event e he => (candidateEvidence_ok he).1
  · clear h
    induction hes with
    | nil => exact fun e he => absurd he List.not_mem_nil
    | cons hevent _ ih =>
      rintro e (_ | ⟨_, he⟩)
      · exact (candidateEvidence_ok hevent).2
      · exact ih e he

omit [PyMathOps F] [PyDateTime D] [Sha256] in
/-- Detections that are mapped are those of the adapter. -/
theorem mappedEvents_ok {resolved : Except Exc (List (Json F) × String)} {detail : Option String}
    {s : C2Runtime F (SpatialEntityGraph F D)} {events : List (Json F)} {source : Option String}
    (h : (mappedEvents resolved detail s).1 = .ok (events, source)) :
    ∃ name, resolved = .ok (events, name) := by
  cases resolved with
  | error e => cases e <;> cases h
  | ok mapped =>
    obtain ⟨mapped, name⟩ := mapped
    cases detail with
    | none =>
      cases h
      exact ⟨_, rfl⟩
    | some detail =>
      change ((if mapped.isEmpty then _ else _ : C2Handler F (SpatialEntityGraph F D) _) s).1 = _ at h
      split at h
      · cases h
      · cases h
        exact ⟨_, rfl⟩

omit [PyMathOps F] [PyDateTime D] [Sha256] in
/-- The request of a detection source resolves to its detections. -/
theorem SharedSource.candidateEvents_eq {source : SharedSource} (hsource : source ≠ .openAis) :
    ∃ req detail, source.post (F := F) = .candidateEvent req ∧
      (candidateEvents a req : C2Handler F (SpatialEntityGraph F D) _) =
        mappedEvents (source.detections a) detail := by
  cases source with
  | openAis => exact absurd rfl hsource
  | sentinel => exact ⟨_, some "No uncorrelated (dark vessel) detections to ingest", rfl, rfl⟩
  | glint => exact ⟨_, none, rfl, rfl⟩
  | glintPull => exact ⟨_, none, rfl, rfl⟩
  | dualSar => exact ⟨_, some "No Dual-SAR / dark-vessel detections to ingest", rfl, rfl⟩

/-- A request that loads completely loads the observations of its source. -/
theorem SharedSource.load_ok {source : SharedSource}
    (hselection : a.parseOpenFeedSelection "ais" = .ok ["ais"])
    (hauto : a.parseOpenFeedSource "auto" = .ok "auto")
    {s : C2Runtime F (SpatialEntityGraph F D)} {es : List (Evidence F D)}
    (h : source.post.load a s = some ⟨es, true⟩) :
    source.observations a = .ok (es.map Evidence.observation) ∧ ∀ e ∈ es, e.Named := by
  by_cases hsource : source = .openAis
  · subst hsource
    have hplan : OpenFeedIngressRequest.plan a ⟨"ais", none, false, some "auto", 40⟩ =
        some (["ais"], some "auto") := by
      unfold OpenFeedIngressRequest.plan parsedSource
      rw [hselection]
      dsimp only
      rw [hauto]
      rfl
    unfold SharedSource.post Post.load at h
    dsimp only at h
    rw [hplan] at h
    change some (loadFeeds a _ _ ["ais"]) = _ at h
    rw [loadFeeds, loadFeeds] at h
    unfold SharedSource.observations
    dsimp only at h ⊢
    cases hload : a.openFeedToObservations "ais" none false (some "auto") 40 with
    | error e =>
      rw [hload] at h
      cases h
    | ok loaded =>
      obtain ⟨os, resolved⟩ := loaded
      rw [hload] at h
      dsimp only at h
      rw [List.append_nil] at h
      cases h
      rw [List.map_map]
      refine ⟨congrArg Except.ok (List.map_id _).symm, fun e he => ?_⟩
      obtain ⟨o, -, rfl⟩ := List.mem_map.mp he
      exact feedEvidence_named "ais" resolved o
  · obtain ⟨req, detail, hpost, hevents⟩ := SharedSource.candidateEvents_eq (a := a) hsource
    rw [hpost] at h
    unfold Post.load at h
    dsimp only at h
    rw [hevents] at h
    cases hmapped : (mappedEvents (source.detections a) detail s).1 with
    | error e =>
      rw [hmapped] at h
      cases h
    | ok resolved =>
      obtain ⟨events, name⟩ := resolved
      rw [hmapped] at h
      obtain ⟨name', hdetections⟩ := mappedEvents_ok hmapped
      obtain ⟨hobservations, hnamed⟩ := loadEach_candidates (Option.some.inj h)
      rw [SharedSource.observations_of_detections hsource, hdetections]
      exact ⟨hobservations, hnamed⟩

end

/-! ## What each of them leaves -/

omit [PyMathOps F] [PyDateTime D] [Sha256] in
/-- The record is of the observation. -/
def NamesObservation (o : Observation F D) (record : Record F) : Prop :=
  ∃ data, Assoc.get record "metadata" = some (.obj data) ∧
    Assoc.get data "observation_id" = some (.str o.observationId)

/-- Each of the observations has a record in the trail, and one line of the replay log brings all of
them again. -/
structure Evidenced (a : Adapters F (Observation F D)) (os : List (Observation F D))
    (s t : C2Ingress F (SpatialEntityGraph F D)) : Prop where
  recorded : ∃ records, t.runtime.audit.records = s.runtime.audit.records ++ records ∧
    List.Forall₂ NamesObservation os records
  logged : ∃ rec, t.replay = s.replay ++ [rec] ∧
    (recordEvidence a s.runtime rec).map Evidence.observation = os

section

variable {a : Adapters F (Observation F D)} {source : SharedSource}
  {env : Env F (Observation F D) (SpatialEntityGraph F D)}
  {p : PostEnv F (Observation F D) (SpatialEntityGraph F D)}
  {s : C2Ingress F (SpatialEntityGraph F D)}

omit [PyMathOps F] [Sha256] in
theorem SharedSource.post_valid (source : SharedSource) : (source.post (F := F)).Valid := by
  cases source with
  | openAis => exact ⟨trivial, show (1 : Int) ≤ 40 ∧ (40 : Int) ≤ 500 by decide⟩
  | _ => exact ⟨trivial, trivial⟩

/-- A page with a message for what was ingested is that of a form that returned. -/
theorem verifyIngress_flash {mode : String} {page : Page} {r t : C2Runtime F (SpatialEntityGraph F D)}
    (h : verifyIngress env a mode r = (.ok page, t)) (hflash : page.flash ≠ "") :
    ingressForm env a mode r = (.ok page, t) := by
  unfold verifyIngress caught Handler.tryCatch at h
  cases hform : ingressForm env a mode r with
  | mk result u =>
    rw [hform] at h
    cases result with
    | ok page' => exact h
    | error e =>
      dsimp only at h
      split at h
      · cases h
        exact absurd rfl hflash
      · cases h

/-- The form ingests and stores, and neither records nor logs. -/
theorem form_leaves {mode : String} (hmode : mode ∈ source.modes) {page : Page}
    {t : C2Runtime F (SpatialEntityGraph F D)}
    (h : verifyIngress env a mode s.runtime = (.ok page, t)) (hflash : page.flash ≠ "") :
    ∃ os, source.observations a = .ok os ∧ os ≠ [] ∧
      ingestAll os s.runtime.graph = (.ok (), t.graph) ∧
      t.store = (rows os).foldl RuntimeStore.upsertObservation s.runtime.store ∧
      t.audit = s.runtime.audit := by
  obtain ⟨os, hos, hsome, hall⟩ := ingressForm_ok hmode (verifyIngress_flash h hflash)
  obtain ⟨hgraph, ht⟩ := forEach_ingestObservation_ok hall
  exact ⟨os, hos, hsome, hgraph, by rw [ht], by rw [ht]⟩

omit [PyDateTime D] in
/-- Records of evidence with ids name its observations. -/
theorem named_records {name : String} {es : List (Evidence F D)} {records : List (Record F)}
    (hnamed : ∀ e ∈ es, e.Named)
    (h : List.Forall₂ (fun (e : Evidence F D) record => ∃ trail time trackId,
      record = (AuditTrail.append trail name "Info" time (e.data trackId)).1) es records) :
    List.Forall₂ NamesObservation (es.map Evidence.observation) records := by
  induction h with
  | nil => exact .nil
  | @cons e record es records hrecord _ ih =>
    obtain ⟨trail, time, trackId, rfl⟩ := hrecord
    refine .cons ⟨e.data trackId, rfl, hnamed e List.mem_cons_self trackId⟩ (ih fun e' he' => ?_)
    exact hnamed e' (List.mem_cons_of_mem _ he')

/-- An endpoint ingests and stores the same, records each observation and logs the request. -/
theorem post_leaves (hselection : a.parseOpenFeedSelection "ais" = .ok ["ais"])
    (hauto : a.parseOpenFeedSource "auto" = .ok "auto") {r : Json F}
    {s' : C2Ingress F (SpatialEntityGraph F D)} (h : source.post.serve a p s = (.ok r, s'))
    (hwrites : p.log.writeRaises = false) :
    ∃ os, source.observations a = .ok os ∧
      ingestAll os s.runtime.graph = (.ok (), s'.runtime.graph) ∧
      s'.runtime.store = (rows os).foldl RuntimeStore.upsertObservation s.runtime.store ∧
      Evidenced a os s s' := by
  obtain ⟨es, hload, -, hadmits, name, hreplay⟩ := Post.serve_ok h
  obtain ⟨hobservations, hnamed⟩ := SharedSource.load_ok hselection hauto hload
  refine ⟨_, hobservations, hadmits.graph, hadmits.store, ?_, ?_⟩
  · obtain ⟨records, hrecords, hforall⟩ := hadmits.audit
    exact ⟨records, hrecords, named_records hnamed hforall⟩
  · unfold IngressReplayLog.append at hreplay
    rw [hwrites, if_neg Bool.false_ne_true] at hreplay
    refine ⟨_, hreplay, ?_⟩
    rw [recordEvidence_of_load (recordPost_logged source.post_valid _ _) hload]

/-- What the form ingests is evidenced nowhere. -/
theorem not_evidenced {os : List (Observation F D)} (hsome : os ≠ [])
    {t : C2Ingress F (SpatialEntityGraph F D)} (h : t.runtime.audit = s.runtime.audit) :
    ¬ Evidenced a os s t := by
  rintro ⟨⟨records, hrecords, hforall⟩, -⟩
  rw [h] at hrecords
  obtain rfl := List.self_eq_append_right.mp hrecords
  cases hforall
  exact hsome rfl

end

/-- Wherever both front ends ingest a source, they leave the same graph and the same table; the
endpoint evidences what it ingested, and the form never does. -/
theorem front_ends_evidence (feeds : OpenFeeds F (Observation F D))
    (a : Adapters F (Observation F D)) {source : SharedSource} {mode : String}
    (hmode : mode ∈ source.modes) {env : Env F (Observation F D) (SpatialEntityGraph F D)}
    {p : PostEnv F (Observation F D) (SpatialEntityGraph F D)}
    {s t s' : C2Ingress F (SpatialEntityGraph F D)} {page : Page} {r : Json F}
    (hform : onRuntime (verifyIngress env (feeds.adapters a) mode) s = (.ok page, t))
    (hflash : page.flash ≠ "")
    (hpost : source.post.serve (feeds.adapters a) p s = (.ok r, s'))
    (hwrites : p.log.writeRaises = false) :
    ∃ os, source.observations (feeds.adapters a) = .ok os ∧
      t.runtime.graph = s'.runtime.graph ∧ t.runtime.store = s'.runtime.store ∧
      Evidenced (feeds.adapters a) os s s' ∧ ¬ Evidenced (feeds.adapters a) os s t := by
  rw [onRuntime_apply] at hform
  obtain ⟨hpage, rfl⟩ := Prod.mk.inj hform
  obtain ⟨os, hos, hsome, hgraph, hstore, haudit⟩ :=
    form_leaves hmode (Prod.ext hpage rfl) hflash
  obtain ⟨os', hos', hgraph', hstore', hevidenced⟩ := post_leaves rfl rfl hpost hwrites
  obtain rfl := Except.ok.inj (hos.symm.trans hos')
  exact ⟨os, hos, (Prod.mk.inj (hgraph.symm.trans hgraph')).2, hstore.trans hstore'.symm, hevidenced,
    not_evidenced hsome haudit⟩

end

/-! ## The vessel of the fixture -/

/-- The server after the form or the endpoint has loaded open AIS. -/
def formServer [Sha256] : C2Ingress Whole (SpatialEntityGraph Whole Instant) :=
  (onRuntime (verifyIngress calmPost.env harbourAdapters "open_ais") ⟨newServer, []⟩).2

def postServer [Sha256] : C2Ingress Whole (SpatialEntityGraph Whole Instant) :=
  (SharedSource.openAis.post.serve harbourAdapters calmPost ⟨newServer, []⟩).2

theorem formServer_ok :
    letI := plainHash
    ∃ page : Page, onRuntime (verifyIngress calmPost.env harbourAdapters "open_ais") ⟨newServer, []⟩ =
      (.ok page, formServer) ∧ page.flash ≠ "" := by
  let := plainHash
  have hflash : ((onRuntime (verifyIngress calmPost.env harbourAdapters "open_ais")
      ⟨newServer, []⟩).1.map fun page => page.flash).toOption.any (· ≠ "") = true := by decide +kernel
  unfold formServer
  generalize onRuntime (verifyIngress calmPost.env harbourAdapters "open_ais") ⟨newServer, []⟩ = answer
    at hflash
  obtain ⟨_ | page, t⟩ := answer
  · cases hflash
  · exact ⟨page, rfl, of_decide_eq_true hflash⟩

theorem postServer_ok :
    letI := plainHash
    ∃ r, SharedSource.openAis.post.serve harbourAdapters calmPost ⟨newServer, []⟩ =
      (.ok r, postServer) := by
  let := plainHash
  have hok : (SharedSource.openAis.post.serve harbourAdapters calmPost ⟨newServer, []⟩).1.isOk =
      true := by decide +kernel
  obtain ⟨r, hr⟩ := except_isOk_iff.mp hok
  exact ⟨r, Prod.ext hr rfl⟩

/-- The form leaves an observation that is neither in the trail nor in the replay log. -/
theorem not_front_ends_evidenced :
    letI := plainHash
    ¬ ∀ (a : Adapters Whole (Observation Whole Instant)) (source : SharedSource) (mode : String)
        (p : PostEnv Whole (Observation Whole Instant) (SpatialEntityGraph Whole Instant))
        (page : Page) (r : Json Whole) (t s' : C2Ingress Whole (SpatialEntityGraph Whole Instant)),
        mode ∈ source.modes →
        onRuntime (verifyIngress p.env a mode) ⟨newServer, []⟩ = (.ok page, t) → page.flash ≠ "" →
        source.post.serve a p ⟨newServer, []⟩ = (.ok r, s') → p.log.writeRaises = false →
        ∃ os, source.observations a = .ok os ∧
          t.runtime.graph = s'.runtime.graph ∧ t.runtime.store = s'.runtime.store ∧
          Evidenced a os ⟨newServer, []⟩ s' ∧ Evidenced a os ⟨newServer, []⟩ t := by
  let := plainHash
  intro h
  obtain ⟨page, hform, hflash⟩ := formServer_ok
  obtain ⟨r, hpost⟩ := postServer_ok
  obtain ⟨os, hos, -, -, -, hevidenced⟩ := h harbourAdapters .openAis "open_ais" calmPost page r
    formServer postServer (by decide) hform hflash hpost rfl
  rw [onRuntime_apply] at hform
  obtain ⟨hpage, ht⟩ := Prod.mk.inj hform
  have hmode : "open_ais" ∈ SharedSource.openAis.modes := by decide
  have hran : verifyIngress calmPost.env harbourAdapters "open_ais"
      (C2Ingress.runtime ⟨newServer, []⟩) = (.ok page, _) := Prod.ext hpage rfl
  obtain ⟨os', hos', hsome, -, -, haudit⟩ := form_leaves hmode hran hflash
  obtain rfl := Except.ok.inj (hos.symm.trans hos')
  exact not_evidenced hsome (by rw [← ht]; exact haudit) hevidenced

theorem front_ends_evidence_openAis :
    letI := plainHash
    ∃ os, SharedSource.openAis.observations harbourAdapters = .ok os ∧
      formServer.runtime.graph = postServer.runtime.graph ∧
      formServer.runtime.store = postServer.runtime.store ∧
      Evidenced harbourAdapters os ⟨newServer, []⟩ postServer ∧
      ¬ Evidenced harbourAdapters os ⟨newServer, []⟩ formServer := by
  let := plainHash
  obtain ⟨page, hform, hflash⟩ := formServer_ok
  obtain ⟨r, hpost⟩ := postServer_ok
  have hmode : "open_ais" ∈ SharedSource.openAis.modes := by decide
  exact front_ends_evidence harbourFeeds _ hmode hform hflash hpost rfl

end NexusC2

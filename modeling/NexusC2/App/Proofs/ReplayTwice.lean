import NexusC2.App.Proofs.PartialIngress

/-!
# Replaying the ingress log

The script posts the records of the log to the endpoints that write it, so what a replay brings is
in the log once more afterwards. One replay rebuilds the graph of the requests that wrote the log;
the next one brings all of it twice.
-/

namespace NexusC2

open SpatialEntityGraph (ingestAll ingestAll_observations)

/-! ## Requests and their dumps -/

section

variable {F : Type}

/-- An object, where it is given. -/
def IsObject : Option (Json F) → Prop
  | none | some (.obj _) => True
  | _ => False

/-- The request passes the checks of its model. -/
def Post.Valid : Post F → Prop
  | .candidateEvent req => IsObject req.event ∧ IsObject req.runCv
  | .openFeed req => IsObject req.payload ∧ 1 ≤ req.limit ∧ req.limit ≤ 500

theorem optObject_isObject {fs : Fields F} {key : String} {v : Option (Json F)}
    (h : optObject fs key = some v) : IsObject v := by
  unfold optObject at h
  split at h
  · cases h
    trivial
  · cases h
    trivial
  · cases h
    trivial
  · cases h

theorem limitOf_bounds {fs : Fields F} {n : Int} (h : limitOf fs = some n) : 1 ≤ n ∧ n ≤ 500 := by
  unfold limitOf at h
  split at h
  · cases h
    omega
  · split at h
    · cases h
      assumption
    · cases h
  · cases h

theorem CandidateEventIngressRequest.ofBody_valid {fs : Fields F}
    {req : CandidateEventIngressRequest F} (h : ofBody fs = some req) :
    (Post.candidateEvent req).Valid := by
  simp only [ofBody, Option.bind_eq_bind, Option.bind_eq_some_iff] at h
  obtain ⟨event, hevent, _, _, _, _, _, _, runCv, hrunCv, _, _, _, _, _, _, _, _, h⟩ := h
  cases h
  exact ⟨optObject_isObject hevent, optObject_isObject hrunCv⟩

theorem OpenFeedIngressRequest.ofBody_valid {fs : Fields F} {req : OpenFeedIngressRequest F}
    (h : ofBody fs = some req) : (Post.openFeed req).Valid := by
  simp only [ofBody, Option.bind_eq_bind, Option.bind_eq_some_iff] at h
  obtain ⟨_, _, _, _, payload, hpayload, _, _, _, _, limit, hlimit, h⟩ := h
  cases h
  exact ⟨optObject_isObject hpayload, limitOf_bounds hlimit⟩

/-- What is read of a field of a dump. -/
theorem optObject_optJson {fs : Fields F} {key : String} {v : Option (Json F)}
    (h : Assoc.get fs key = some (optJson v)) (hv : IsObject v) : optObject fs key = some v := by
  unfold optObject
  rw [h]
  match v, hv with
  | none, _ => rfl
  | some (.obj _), _ => rfl

theorem CandidateEventIngressRequest.ofBody_modelDump {req : CandidateEventIngressRequest F}
    (h : (Post.candidateEvent req).Valid) :
    ∃ fs, req.modelDump = .obj fs ∧ ofBody fs = some req := by
  refine ⟨_, rfl, ?_⟩
  unfold ofBody
  rw [optObject_optJson rfl h.1, optObject_optJson rfl h.2]
  rfl

theorem OpenFeedIngressRequest.ofBody_modelDump {req : OpenFeedIngressRequest F}
    (h : (Post.openFeed req).Valid) :
    ∃ fs, req.modelDump = .obj fs ∧ ofBody fs = some req := by
  obtain ⟨hpayload, hlimit⟩ := h
  refine ⟨_, rfl, ?_⟩
  unfold ofBody
  rw [optObject_optJson rfl hpayload]
  have hread (fs : Fields F) (hfs : Assoc.get fs "limit" = some (.int req.limit)) :
      limitOf fs = some req.limit := by
    unfold limitOf
    rw [hfs]
    exact if_pos hlimit
  rw [hread _ rfl]
  obtain ⟨feed, payload, useFixture, source, limit⟩ := req
  cases source <;> rfl

theorem postOf_valid {endpoint : String} {payload : Fields F} {post : Post F}
    (h : postOf endpoint payload = some post) : post.Valid := by
  unfold postOf at h
  split at h
  · obtain ⟨req, hreq, rfl⟩ := Option.map_eq_some_iff.mp h
    exact CandidateEventIngressRequest.ofBody_valid hreq
  · split at h
    · obtain ⟨req, hreq, rfl⟩ := Option.map_eq_some_iff.mp h
      exact OpenFeedIngressRequest.ofBody_valid hreq
    · cases h

/-- A dump posted to its endpoint is the request again. -/
theorem postOf_modelDump {post : Post F} (h : post.Valid) :
    ∃ fs, post.modelDump = .obj fs ∧ postOf post.endpoint fs = some post := by
  cases post with
  | candidateEvent req =>
    obtain ⟨fs, hdump, hread⟩ := CandidateEventIngressRequest.ofBody_modelDump h
    refine ⟨fs, hdump, ?_⟩
    have hendpoint : lstripSlash "/api/ingress/candidate-event" =
        "api/ingress/candidate-event".toList := by decide
    show postOf "/api/ingress/candidate-event" fs = _
    rw [postOf, if_pos hendpoint, hread]
    rfl
  | openFeed req =>
    obtain ⟨fs, hdump, hread⟩ := OpenFeedIngressRequest.ofBody_modelDump h
    refine ⟨fs, hdump, ?_⟩
    have hother : lstripSlash "/api/ingress/open-feed" ≠
        "api/ingress/candidate-event".toList := by decide
    have hendpoint : lstripSlash "/api/ingress/open-feed" = "api/ingress/open-feed".toList := by
      decide
    show postOf "/api/ingress/open-feed" fs = _
    rw [postOf, if_neg hother, if_pos hendpoint, hread]
    rfl

variable [PyFloatOps F]

/-- The request of a record; a record without a payload object has none. -/
def recordPost (rec : Fields F) : Option (Post F) :=
  match Assoc.get rec "payload" with
  | some (.obj payload) => postOf (recordEndpoint rec) payload
  | _ => none

/-- A request that is logged is the request of its record. -/
theorem recordPost_logged {post : Post F} (h : post.Valid) (receivedAt source : String) :
    recordPost [("received_at", .str receivedAt), ("source", .str source),
      ("endpoint", .str post.endpoint), ("payload", post.modelDump)] = some post := by
  obtain ⟨fs, hdump, hread⟩ := postOf_modelDump h
  rw [hdump]
  show postOf _ fs = some post
  rw [← hread]
  cases post <;> rfl

end

/-! ## What a replay brings -/

section

variable {F D : Type} [PyMathOps F] [PyDateTime D] [Sha256]
  (a : Adapters F (Observation F D))
  (posts : Nat → PostEnv F (Observation F D) (SpatialEntityGraph F D))

/-- What a request loads does not depend on the runtime. -/
theorem Post.load_eq (post : Post F) (s t : C2Runtime F (SpatialEntityGraph F D)) :
    post.load a s = post.load a t := by
  cases post with
  | candidateEvent req =>
    unfold Post.load
    dsimp only
    rw [(candidateEvents_stateless _ req).apply s t]
  | openFeed req => rfl

/-- The evidence a record brings. -/
def recordEvidence (s : C2Runtime F (SpatialEntityGraph F D)) (rec : Fields F) :
    List (Evidence F D) :=
  match recordPost rec with
  | none => []
  | some post =>
    match post.load a s with
    | none => []
    | some loaded => loaded.evidence

/-- The evidence the records of a log bring. -/
def logEvidence (s : C2Runtime F (SpatialEntityGraph F D)) (records : List (Fields F)) :
    List (Evidence F D) :=
  records.flatMap (recordEvidence a s)

/-- The evidence of the records that are logged again, from the `i`-th request on. -/
def loggedAgain (s : C2Runtime F (SpatialEntityGraph F D)) :
    Nat → List (Fields F) → List (Evidence F D)
  | _, [] => []
  | i, rec :: records =>
    (if (posts i).log.writeRaises then [] else recordEvidence a s rec) ++
      loggedAgain s (i + 1) records

variable {a posts}

/-- A served request has ingested its evidence, which the log has again where it is written. -/
theorem Post.serve_logged {post : Post F} (hvalid : post.Valid)
    {p : PostEnv F (Observation F D) (SpatialEntityGraph F D)}
    {s s' : C2Ingress F (SpatialEntityGraph F D)} {r : Json F} (h : post.serve a p s = (.ok r, s'))
    (t : C2Runtime F (SpatialEntityGraph F D)) :
    ∃ es more, post.load a t = some ⟨es, true⟩ ∧
      ingestAll (es.map Evidence.observation) s.runtime.graph = (.ok (), s'.runtime.graph) ∧
      s'.replay = s.replay ++ more ∧
      logEvidence a t more = if p.log.writeRaises then [] else es := by
  obtain ⟨es, hload, -, hadmits, source, hreplay⟩ := Post.serve_ok h
  rw [post.load_eq a s.runtime t] at hload
  unfold IngressReplayLog.append at hreplay
  by_cases hraises : p.log.writeRaises = true
  · rw [if_pos hraises] at hreplay
    refine ⟨es, [], hload, hadmits.graph, by rw [hreplay, List.append_nil], ?_⟩
    rw [if_pos hraises]
    rfl
  · rw [if_neg hraises] at hreplay
    refine ⟨es, _, hload, hadmits.graph, hreplay, ?_⟩
    rw [if_neg hraises]
    unfold logEvidence
    rw [List.flatMap_singleton]
    unfold recordEvidence
    rw [recordPost_logged hvalid]
    dsimp only
    rw [hload]

/-- A replay that goes on after a record has skipped it or was accepted. -/
theorem replayRecords_cons_ok {i : Nat} {rec : Fields F} {records : List (Fields F)}
    {s s' : C2Ingress F (SpatialEntityGraph F D)}
    (h : replayRecords a posts i (rec :: records) s = (true, s')) :
    (recordPost rec = none ∧ replayRecords a posts (i + 1) records s = (true, s')) ∨
      ∃ post r t, recordPost rec = some post ∧ post.Valid ∧
        post.serve a (posts i) s = (.ok r, t) ∧
        replayRecords a posts (i + 1) records t = (true, s') := by
  unfold replayRecords at h
  unfold recordPost
  cases hpayload : Assoc.get rec "payload" with
  | none =>
    rw [hpayload] at h
    exact .inl ⟨rfl, h⟩
  | some payload =>
    rw [hpayload] at h
    cases payload with
    | obj fs =>
      dsimp only at h ⊢
      cases hpost : postOf (recordEndpoint rec) fs with
      | none =>
        rw [hpost] at h
        cases h
      | some post =>
        rw [hpost] at h
        dsimp only at h
        cases hserve : post.serve a (posts i) s with
        | mk result t =>
          rw [hserve] at h
          cases result with
          | error e => cases h
          | ok r => exact .inr ⟨post, r, t, rfl, postOf_valid hpost, hserve, h⟩
    | _ => exact .inl ⟨rfl, h⟩

theorem recordEvidence_of_load {rec : Fields F} {post : Post F}
    {t : C2Runtime F (SpatialEntityGraph F D)} {es : List (Evidence F D)} {complete : Bool}
    (hpost : recordPost rec = some post) (hload : post.load a t = some ⟨es, complete⟩) :
    recordEvidence a t rec = es := by
  unfold recordEvidence
  rw [hpost]
  dsimp only
  rw [hload]

/-- A replay that gets to the end has ingested what its records bring, and the log has what of it
is logged again. -/
theorem replayRecords_ok {i : Nat} {records : List (Fields F)}
    {s s' : C2Ingress F (SpatialEntityGraph F D)}
    (h : replayRecords a posts i records s = (true, s'))
    (t : C2Runtime F (SpatialEntityGraph F D)) :
    ingestAll ((logEvidence a t records).map Evidence.observation) s.runtime.graph =
        (.ok (), s'.runtime.graph) ∧
      ∃ more, s'.replay = s.replay ++ more ∧
        logEvidence a t more = loggedAgain a posts t i records := by
  induction records generalizing i s with
  | nil =>
    cases h
    exact ⟨rfl, [], by rw [List.append_nil], rfl⟩
  | cons rec records ih =>
    have hcons : logEvidence a t (rec :: records) =
        recordEvidence a t rec ++ logEvidence a t records := List.flatMap_cons
    rw [hcons, loggedAgain]
    rcases replayRecords_cons_ok h with ⟨hnone, hrest⟩ | ⟨post, r, u, hpost, hvalid, hserve, hrest⟩
    · have hnothing : recordEvidence a t rec = [] := by
        unfold recordEvidence
        rw [hnone]
      rw [hnothing, ite_self]
      exact ih hrest
    · obtain ⟨es, logged, hload, hfirst, hlogged, hagain⟩ := Post.serve_logged hvalid hserve t
      obtain ⟨hgraph, more, hmore, hmoreAgain⟩ := ih hrest
      rw [recordEvidence_of_load hpost hload]
      refine ⟨?_, logged ++ more, by rw [hmore, hlogged, List.append_assoc], ?_⟩
      · rw [List.map_append, ingestAll, Handler.forEach_append]
        exact (Handler.bind_ok hfirst).trans hgraph
      · rw [← hagain, ← hmoreAgain]
        exact List.flatMap_append

/-! ## Replaying twice -/

/-- The requests wrote the log: on an empty graph and an empty log each of them was accepted and
logged. -/
structure Wrote (a : Adapters F (Observation F D))
    (written : List (Post F × PostEnv F (Observation F D) (SpatialEntityGraph F D)))
    (s t : C2Ingress F (SpatialEntityGraph F D)) : Prop where
  empty : s.runtime.graph = SpatialEntityGraph.empty
  unwritten : s.replay = []
  valid : ∀ x ∈ written, x.1.Valid ∧ x.2.log.writeRaises = false
  accepted : Handler.forEach (fun x => do let _ ← x.1.serve a x.2) written s = (.ok (), t)

/-- The requests of a log have ingested what its records bring. -/
theorem written_ok {written : List (Post F × PostEnv F (Observation F D) (SpatialEntityGraph F D))}
    {s s' : C2Ingress F (SpatialEntityGraph F D)}
    (hvalid : ∀ x ∈ written, x.1.Valid ∧ x.2.log.writeRaises = false)
    (h : Handler.forEach (fun x => do let _ ← x.1.serve a x.2) written s = (.ok (), s'))
    (t : C2Runtime F (SpatialEntityGraph F D)) :
    ∃ more, s'.replay = s.replay ++ more ∧
      ingestAll ((logEvidence a t more).map Evidence.observation) s.runtime.graph =
        (.ok (), s'.runtime.graph) := by
  induction written generalizing s with
  | nil =>
    cases h
    exact ⟨[], by rw [List.append_nil], rfl⟩
  | cons x written ih =>
    obtain ⟨hx, hwrites⟩ := hvalid x List.mem_cons_self
    obtain ⟨_, u, hone, hrest⟩ := Handler.bind_eq_ok.mp h
    obtain ⟨r, u', hserve, hu⟩ := Handler.bind_eq_ok.mp hone
    cases hu
    obtain ⟨es, logged, -, hfirst, hlogged, hagain⟩ := Post.serve_logged hx hserve t
    rw [hwrites, if_neg Bool.false_ne_true] at hagain
    obtain ⟨more, hmore, hgraph⟩ := ih (fun y hy => hvalid y (List.mem_cons_of_mem _ hy)) hrest
    refine ⟨logged ++ more, by rw [hmore, hlogged, List.append_assoc], ?_⟩
    have happend : logEvidence a t (logged ++ more) = logEvidence a t logged ++ logEvidence a t more :=
      List.flatMap_append
    rw [happend, hagain, List.map_append, ingestAll, Handler.forEach_append]
    exact (Handler.bind_ok hfirst).trans hgraph

/-- What is logged again is nothing when no record that brings something is written. -/
theorem loggedAgain_eq_nil {t : C2Runtime F (SpatialEntityGraph F D)} {i : Nat}
    {records : List (Fields F)} :
    loggedAgain a posts t i records = [] ↔ ∀ j rec, records[j]? = some rec →
      recordEvidence a t rec ≠ [] → (posts (i + j)).log.writeRaises = true := by
  induction records generalizing i with
  | nil => exact ⟨fun _ j rec h => (by cases h), fun _ => rfl⟩
  | cons rec records ih =>
    rw [loggedAgain, List.append_eq_nil_iff, ih]
    constructor
    · rintro ⟨hfirst, hrest⟩ j rec' hrec hsome
      cases j with
      | zero =>
        cases hrec
        by_contra hraises
        rw [Nat.add_zero] at hraises
        rw [if_neg hraises] at hfirst
        exact hsome hfirst
      | succ j =>
        rw [Nat.add_comm j 1, ← Nat.add_assoc]
        exact hrest j rec' hrec hsome
    · intro hall
      constructor
      · by_cases hsome : recordEvidence a t rec = []
        · rw [hsome, ite_self]
        · have hraises : (posts i).log.writeRaises = true := hall 0 rec rfl hsome
          rw [if_pos hraises]
      · intro j rec' hrec hsome
        have hraises := hall (j + 1) rec' hrec hsome
        rw [Nat.add_comm j 1, ← Nat.add_assoc] at hraises
        exact hraises

/-- A replay of a log that the requests wrote rebuilds their graph. -/
theorem Wrote.rebuilt {written : List (Post F × PostEnv F (Observation F D) (SpatialEntityGraph F D))}
    {start t s s₁ : C2Ingress F (SpatialEntityGraph F D)} (h : Wrote a written start t)
    (hlog : t.replay = s.replay) (hreplay : replayLog a posts s = (true, s₁)) :
    s₁.runtime.graph = t.runtime.graph := by
  obtain ⟨more, hmore, hwritten⟩ := written_ok h.valid h.accepted s.runtime
  obtain ⟨hgraph, -⟩ := replayRecords_ok hreplay s.runtime
  rw [h.unwritten, List.nil_append] at hmore
  rw [h.empty, ← hmore, hlog] at hwritten
  exact (Prod.mk.inj (hgraph.symm.trans hwritten)).2

/-- A second replay leaves the picture of the first exactly when nothing of the first one's
evidence was logged again. -/
theorem replayLog_twice {posts' : Nat → PostEnv F (Observation F D) (SpatialEntityGraph F D)}
    {s s₁ s₂ : C2Ingress F (SpatialEntityGraph F D)} (h₁ : replayLog a posts s = (true, s₁))
    (h₂ : replayLog a posts' s₁ = (true, s₂)) :
    s₂.runtime.graph.SamePicture s₁.runtime.graph ↔
      loggedAgain a posts s.runtime 0 s.replay = [] := by
  obtain ⟨hfirst, more, hmore, hagain⟩ := replayRecords_ok h₁ s.runtime
  obtain ⟨hsecond, -⟩ := replayRecords_ok h₂ s.runtime
  have hlog : logEvidence a s.runtime s₁.replay =
      logEvidence a s.runtime s.replay ++ loggedAgain a posts s.runtime 0 s.replay := by
    rw [hmore, ← hagain]
    exact List.flatMap_append
  rw [hlog] at hsecond
  constructor
  · rintro ⟨hobservations, -⟩
    have hobservations₁ := SpatialEntityGraph.ingestAll_observations hfirst
    have hobservations₂ := SpatialEntityGraph.ingestAll_observations hsecond
    have hlength : s₂.runtime.graph.observations.length = s₁.runtime.graph.observations.length := by
      rw [hobservations]
    rw [hobservations₁, hobservations₂] at hlength
    change (List.length ([] ++ _)) = (List.length ([] ++ _)) at hlength
    simp only [List.nil_append, List.length_map, List.length_append] at hlength
    rw [← List.length_eq_zero_iff]
    omega
  · intro hnone
    rw [hnone, List.append_nil] at hsecond
    have hsame := (Prod.mk.inj (hsecond.symm.trans hfirst)).2
    exact ⟨by rw [hsame], by rw [hsame]⟩

/-- Two replays of a log leave the picture of one, and one rebuilds the graph of the requests that
wrote the log, exactly when no record that brings an observation is written to the log again. -/
theorem replay_idempotent_iff {posts' : Nat → PostEnv F (Observation F D) (SpatialEntityGraph F D)}
    {s s₁ s₂ : C2Ingress F (SpatialEntityGraph F D)} (h₁ : replayLog a posts s = (true, s₁))
    (h₂ : replayLog a posts' s₁ = (true, s₂)) :
    (s₂.runtime.graph.SamePicture s₁.runtime.graph ∧
      ∀ written start t, Wrote a written start t → t.replay = s.replay →
        s₁.runtime.graph.SamePicture t.runtime.graph) ↔
    ∀ i rec, s.replay[i]? = some rec → recordEvidence a s.runtime rec ≠ [] →
      (posts i).log.writeRaises = true := by
  have hcondition : loggedAgain a posts s.runtime 0 s.replay = [] ↔ _ := loggedAgain_eq_nil
  simp only [Nat.zero_add] at hcondition
  rw [← hcondition, ← replayLog_twice h₁ h₂]
  constructor
  · rintro ⟨hsame, -⟩
    exact hsame
  · intro hsame
    refine ⟨hsame, fun written start t hwrote hlog => ?_⟩
    rw [hwrote.rebuilt hlog h₁]
    exact ⟨rfl, rfl⟩

end

/-! ## A vessel that is posted once -/

/-- A snapshot with one vessel is posted. -/
def vesselPost : Post Whole :=
  .openFeed ⟨"ais", some (.obj [("retrieved_at", .str "0"), ("vessels", .arr [.obj
    [("mmsi", .str "563000001"), ("name", .str "EASTERN STAR"), ("latitude", .int 1),
      ("longitude", .int 103), ("speed_kt", .int 0), ("confidence", .int 1),
      ("timestamp", .str "0")]])]), false, none, 80⟩

/-- The server that has taken it. -/
def vesselServer [Sha256] : C2Ingress Whole (SpatialEntityGraph Whole Instant) :=
  (Handler.forEach (fun x => do let _ ← x.1.serve harbourAdapters x.2)
    [(vesselPost, calmPost)] ⟨newServer, []⟩).2

theorem wrote_vesselServer :
    letI := plainHash
    Wrote harbourAdapters [(vesselPost, calmPost)] ⟨newServer, []⟩ vesselServer := by
  let := plainHash
  have haccepted : (Handler.forEach (fun x : Post Whole × _ => do
      let _ ← x.1.serve harbourAdapters x.2) [(vesselPost, calmPost)] ⟨newServer, []⟩).1.isOk = true := by
    decide +kernel
  refine ⟨rfl, rfl, ?_, ?_⟩
  · intro x hx
    rw [List.mem_singleton.mp hx]
    exact ⟨⟨trivial, by decide⟩, rfl⟩
  · obtain ⟨_, hok⟩ := except_isOk_iff.mp haccepted
    exact Prod.ext hok rfl

/-- The server after a replay. -/
def replayed [Sha256] (s : C2Ingress Whole (SpatialEntityGraph Whole Instant)) :
    C2Ingress Whole (SpatialEntityGraph Whole Instant) :=
  (replayLog harbourAdapters (fun _ => calmPost) s).2

theorem replayed_of_fst [Sha256] {s : C2Ingress Whole (SpatialEntityGraph Whole Instant)}
    (h : (replayLog harbourAdapters (fun _ => calmPost) s).1 = true) :
    replayLog harbourAdapters (fun _ => calmPost) s = (true, replayed s) := by
  rw [← h]
  rfl

theorem replay_vesselServer :
    letI := plainHash
    replayLog harbourAdapters (fun _ => calmPost) vesselServer = (true, replayed vesselServer) :=
  let := plainHash
  replayed_of_fst (by decide +kernel)

theorem replay_replayed :
    letI := plainHash
    replayLog harbourAdapters (fun _ => calmPost) (replayed vesselServer) =
      (true, replayed (replayed vesselServer)) :=
  let := plainHash
  replayed_of_fst (by decide +kernel)

/-- The vessel is in the graph once, and twice after the second replay. -/
theorem not_replay_idempotent :
    letI := plainHash
    ¬ ∀ (a : Adapters Whole (Observation Whole Instant))
        (posts posts' : Nat → PostEnv Whole (Observation Whole Instant)
          (SpatialEntityGraph Whole Instant))
        (written : List (Post Whole × PostEnv Whole (Observation Whole Instant)
          (SpatialEntityGraph Whole Instant)))
        (start s s₁ s₂ : C2Ingress Whole (SpatialEntityGraph Whole Instant)),
        Wrote a written start s → replayLog a posts s = (true, s₁) →
        replayLog a posts' s₁ = (true, s₂) → s₂.runtime.graph.SamePicture s₁.runtime.graph := by
  let := plainHash
  intro h
  have hsame := h _ _ _ _ _ _ _ _ wrote_vesselServer replay_vesselServer replay_replayed
  have hagain := (replayLog_twice replay_vesselServer replay_replayed).mp hsame
  have hsome : (loggedAgain harbourAdapters (fun _ => calmPost) vesselServer.runtime 0
      vesselServer.replay).length = 1 := by decide +kernel
  rw [hagain] at hsome
  cases hsome

theorem replay_idempotent_iff_vesselServer :
    letI := plainHash
    ((replayed (replayed vesselServer)).runtime.graph.SamePicture
        (replayed vesselServer).runtime.graph ∧
      ∀ written start t, Wrote harbourAdapters written start t → t.replay = vesselServer.replay →
        (replayed vesselServer).runtime.graph.SamePicture t.runtime.graph) ↔
    ∀ (i : Nat) (rec : Fields Whole), vesselServer.replay[i]? = some rec →
      recordEvidence harbourAdapters vesselServer.runtime rec ≠ [] →
      calmPost.log.writeRaises = true :=
  let := plainHash
  replay_idempotent_iff replay_vesselServer replay_replayed

end NexusC2

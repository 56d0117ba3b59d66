import NexusC2.App.Proofs.Admission

/-!
# What a post brings

A request to one of the ingress endpoints loads evidence, up to the first event or feed that raises
(`Post.load`). It is accepted when all of it loads and is admitted; a refused one has left nothing
behind when there was nothing to admit yet.
-/

namespace NexusC2

open Handler (Keeps)

/-! ## The log apart -/

section

variable {F Obs G : Type} [PyFloatOps F] [Sha256] [EntityGraph F Obs G]

/-- The handler of a request without the log. -/
def Post.ingress (a : Adapters F Obs) (env : Env F Obs G) : Post F → C2Handler F G (Json F)
  | .candidateEvent req => ingressCandidateEvent env a req
  | .openFeed req => ingressOpenFeed env a req

/-- Logging changes neither the answer nor the runtime. -/
theorem Post.serve_agree (a : Adapters F Obs) (p : PostEnv F Obs G) (post : Post F) :
    Handler.Agree (fun s t => s.runtime = t) (post.serve a p) (post.ingress a p.env) := by
  have hruntime {α : Type} (m : C2Handler F G α) :
      Handler.Agree (fun s t => s.runtime = t) (onRuntime m) m :=
    .zoom_part m fun _ _ => rfl
  cases post with
  | candidateEvent req =>
    refine .bind (hruntime _) fun (events, source) => ?_
    refine .bind (hruntime _) fun ingested => ?_
    refine .modify_left (fun _ _ h => h) ?_
    cases ingested with
    | nil => exact .raise
    | cons item items => exact .pure
  | openFeed req =>
    refine .bind (hruntime _) fun feeds => ?_
    split
    · exact .raise
    split
    · exact .raise
    refine .bind (hruntime _) fun source => ?_
    split
    · exact .raise
    refine .bind (hruntime _) fun (sources, items) => ?_
    exact .modify_left (fun _ _ h => h) .pure

end

section

variable {F D : Type} [PyMathOps F] [PyDateTime D] [Sha256]

/-- The evidence up to the first part that does not load, and whether there was none such. -/
structure Load (F D : Type) where
  evidence : List (Evidence F D)
  complete : Bool

/-! ## Errors that are turned into one of HTTP -/

section

variable {α G : Type} {m : C2Handler F G α} {s s' : C2Runtime F G} {x : α}

omit [PyMathOps F] [Sha256] in
theorem valueErrorAs400_eq_ok : valueErrorAs400 m s = (.ok x, s') ↔ m s = (.ok x, s') :=
  Handler.reraise_eq_ok fun e => by cases e <;> exact ⟨_, rfl⟩

omit [PyMathOps F] [Sha256] in
theorem valueErrorAs400_snd : (valueErrorAs400 m s).2 = (m s).2 :=
  Handler.reraise_snd s fun e => by cases e <;> exact ⟨_, rfl⟩

end

/-! ## Lists that are converted -/

section

variable {α : Type} (convert : α → Except Exc (Evidence F D))

/-- What a list is converted to. -/
def loadEach : List α → Load F D
  | [] => ⟨[], true⟩
  | x :: xs =>
    match convert x with
    | .error _ => ⟨[], false⟩
    | .ok e => ⟨e :: (loadEach xs).evidence, (loadEach xs).complete⟩

variable {convert}

omit [PyMathOps F] [PyDateTime D] [Sha256] in
theorem loadEach_eq_iff {xs : List α} {es : List (Evidence F D)} :
    loadEach convert xs = ⟨es, true⟩ ↔ xs.mapM convert = .ok es := by
  induction xs generalizing es with
  | nil =>
    constructor
    · intro h
      cases h
      rfl
    · intro h
      cases h
      rfl
  | cons x xs ih =>
    rw [List.mapM_cons, loadEach]
    cases convert x with
    | error err => simp [bind, Except.bind]
    | ok e =>
      constructor
      · intro h
        cases hload : loadEach convert xs with
        | mk es' complete =>
          rw [hload] at h
          cases h
          rw [ih.mp hload]
          rfl
      · intro h
        obtain ⟨_, he, h⟩ := except_bind_eq_ok.mp h
        cases he
        obtain ⟨es', hes', h⟩ := except_bind_eq_ok.mp h
        cases h
        rw [ih.mpr hes']

end

/-! ## Candidate events -/

section

variable (a : Adapters F (Observation F D))

/-- An event as evidence. -/
def candidateEvidence (source : Option String) (event : Json F) : Except Exc (Evidence F D) :=
  (a.candidateEventToObservation event).map fun o =>
    ⟨o, candidateData (G := SpatialEntityGraph F D) source o⟩

variable {a} {env : Env F (Observation F D) (SpatialEntityGraph F D)}

theorem ingestCandidateEvent_eq (source : Option String) :
    ingestCandidateEvent env a source = admitOne env "candidate_event_ingested"
      (candidateEvidence a source)
      (fun o trackId => ((EntityGraph.row (SpatialEntityGraph F D) o).2, trackId)) := by
  funext x
  unfold ingestCandidateEvent admitOne candidateEvidence
  cases a.candidateEventToObservation x.1 <;> rfl

end

/-! ## Open feeds -/

section

variable (a : Adapters F (Observation F D)) (req : OpenFeedIngressRequest F)
  (source : Option String)

/-- An observation of a feed as evidence. -/
def feedEvidence (feed resolved : String) (o : Observation F D) : Evidence F D :=
  ⟨o, feedData (G := SpatialEntityGraph F D) feed resolved o⟩

/-- What the feeds load. -/
def loadFeeds : List String → Load F D
  | [] => ⟨[], true⟩
  | feed :: feeds =>
    match a.openFeedToObservations feed req.payload req.useFixture source req.limit with
    | .error _ => ⟨[], false⟩
    | .ok (observations, resolved) =>
      ⟨observations.map (feedEvidence feed resolved) ++ (loadFeeds feeds).evidence,
        (loadFeeds feeds).complete⟩

variable {a req source} {env : Env F (Observation F D) (SpatialEntityGraph F D)}

theorem ingestFeedObservation_eq (feed resolved : String) :
    ingestFeedObservation env feed resolved = admitOne env "open_feed_ingested"
      (fun o => .ok (feedEvidence feed resolved o))
      (fun o trackId => .obj [("feed", .str feed), ("source", .str resolved),
        ("observation", (EntityGraph.row (SpatialEntityGraph F D) o).2),
        ("track_id", .str trackId)]) := rfl

theorem ingestFeeds_cons (done : Nat) (feed : String) (feeds : List String)
    {observations : List (Observation F D)} {resolved : String}
    (h : a.openFeedToObservations feed req.payload req.useFixture source req.limit =
      .ok (observations, resolved)) :
    ingestFeeds env a req source done (feed :: feeds) = (do
      let items ← Handler.mapEach (ingestFeedObservation env feed resolved)
        (observations.zipIdx done)
      let (sources, rest) ← ingestFeeds env a req source (done + observations.length) feeds
      pure ((feed, resolved) :: sources, items ++ rest)) := by
  rw [ingestFeeds, h]
  rfl

variable (env) in
theorem ingestFeeds_error (done : Nat) (feed : String) (feeds : List String) {e : Exc}
    (h : a.openFeedToObservations feed req.payload req.useFixture source req.limit = .error e) :
    ∃ e', ingestFeeds env a req source done (feed :: feeds) = Handler.raise e' := by
  rw [ingestFeeds, h]
  cases e <;> exact ⟨_, rfl⟩

theorem mapM_feedEvidence (feed resolved : String) (os : List (Observation F D)) :
    os.mapM (fun o => (.ok (feedEvidence feed resolved o) : Except Exc (Evidence F D))) =
      .ok (os.map (feedEvidence feed resolved)) := by
  induction os with
  | nil => rfl
  | cons o os ih =>
    rw [List.mapM_cons, ih]
    rfl

/-- The loop over the feeds returns when they load and what they load is admitted. -/
theorem ingestFeeds_ok_iff {done : Nat} {feeds : List String}
    {s s' : C2Runtime F (SpatialEntityGraph F D)} :
    (∃ r, ingestFeeds env a req source done feeds s = (.ok r, s')) ↔
      ∃ es, loadFeeds a req source feeds = ⟨es, true⟩ ∧
        Admits env "open_feed_ingested" done es s s' := by
  induction feeds generalizing done s with
  | nil =>
    constructor
    · rintro ⟨r, h⟩
      cases h
      exact ⟨[], rfl, .nil _ _⟩
    · rintro ⟨es, hload, h⟩
      cases hload
      cases h
      exact ⟨_, rfl⟩
  | cons feed feeds ih =>
    cases hfeed : a.openFeedToObservations feed req.payload req.useFixture source req.limit with
    | error e =>
      obtain ⟨e', hraise⟩ := ingestFeeds_error env done feed feeds hfeed
      rw [hraise, loadFeeds, hfeed]
      constructor
      · rintro ⟨r, h⟩
        cases h
      · rintro ⟨es, h, -⟩
        cases h
    | ok loaded =>
      obtain ⟨observations, resolved⟩ := loaded
      rw [ingestFeeds_cons done feed feeds hfeed, ingestFeedObservation_eq]
      have hlength : (observations.map (feedEvidence feed resolved)).length = observations.length :=
        List.length_map _
      constructor
      · rintro ⟨r, h⟩
        obtain ⟨items, t, hitems, h⟩ := Handler.bind_eq_ok.mp h
        obtain ⟨⟨sources, rest⟩, t', hrest, h⟩ := Handler.bind_eq_ok.mp h
        cases h
        obtain ⟨-, es, hes, hadmits⟩ := admitEach_ok hitems
        rw [mapM_feedEvidence] at hes
        cases hes
        obtain ⟨es', hload, hadmits'⟩ := ih.mp ⟨_, hrest⟩
        refine ⟨_ ++ es', ?_, hadmits.append ?_⟩
        · rw [loadFeeds, hfeed]
          dsimp only
          rw [hload]
        · rw [hlength]
          exact hadmits'
      · rintro ⟨es, hload, hadmits⟩
        rw [loadFeeds, hfeed] at hload
        dsimp only at hload
        obtain ⟨rfl, hcomplete⟩ := Load.mk.inj hload
        obtain ⟨t, hfirst, hmore⟩ := hadmits.of_append
        rw [hlength] at hmore
        obtain ⟨items, hitems⟩ := admitEach_of_admits (mapM_feedEvidence feed resolved observations)
          hfirst
        obtain ⟨r, hrest⟩ := ih.mpr ⟨_, by rw [← hcomplete], hmore⟩
        exact ⟨_, Handler.bind_eq_ok.mpr ⟨items, t, hitems,
          Handler.bind_eq_ok.mpr ⟨r, s', hrest, rfl⟩⟩⟩

/-- Where the feeds load nothing before they end, nothing is changed. -/
theorem ingestFeeds_nothing {done : Nat} {feeds : List String}
    (h : (loadFeeds a req source feeds).evidence = [])
    (s : C2Runtime F (SpatialEntityGraph F D)) :
    (ingestFeeds env a req source done feeds s).2 = s := by
  induction feeds generalizing done with
  | nil => rfl
  | cons feed feeds ih =>
    cases hfeed : a.openFeedToObservations feed req.payload req.useFixture source req.limit with
    | error e =>
      obtain ⟨e', hraise⟩ := ingestFeeds_error env done feed feeds hfeed
      rw [hraise]
      rfl
    | ok loaded =>
      obtain ⟨observations, resolved⟩ := loaded
      rw [loadFeeds, hfeed] at h
      obtain ⟨hnone, hrest⟩ := List.append_eq_nil_iff.mp h
      obtain rfl := List.map_eq_nil_iff.mp hnone
      rw [ingestFeeds_cons done feed feeds hfeed]
      change ((ingestFeeds env a req source done feeds >>= _) s).2 = s
      exact Keeps.bind_snd (I := fun t => t = s) (ih hrest) fun _ => Keeps.pure

/-- Feeds that load something change the graph, however the loop ends. -/
theorem ingestFeeds_grows {done : Nat} {feeds : List String} {e : Evidence F D}
    {es : List (Evidence F D)} (h : (loadFeeds a req source feeds).evidence = e :: es)
    (s : C2Runtime F (SpatialEntityGraph F D)) :
    C2Runtime.Grown (s.graph.observations ++ [e.observation.ensureDigest])
      (ingestFeeds env a req source done feeds s).2 := by
  induction feeds generalizing done with
  | nil => cases h
  | cons feed feeds ih =>
    cases hfeed : a.openFeedToObservations feed req.payload req.useFixture source req.limit with
    | error err =>
      rw [loadFeeds, hfeed] at h
      cases h
    | ok loaded =>
      obtain ⟨observations, resolved⟩ := loaded
      rw [loadFeeds, hfeed] at h
      rw [ingestFeeds_cons done feed feeds hfeed, ingestFeedObservation_eq]
      have hkeeps (base : List (Observation F D)) (r : List (Json F)) (done : Nat) :
          Keeps (C2Runtime.Grown base) (do
            let (sources, rest) ← ingestFeeds env a req source done feeds
            pure ((feed, resolved) :: sources, r ++ rest)) :=
        Keeps.bind (ingestFeeds_ends (fun _ h => h) (a.gives_true env)
          (fun o _ => ingestObservation_grown o base)
          (fun i name data _ => auditAppend_grown base i "Info" data) req source done feeds)
          fun _ => Keeps.pure
      cases observations with
      | nil =>
        change C2Runtime.Grown _ ((ingestFeeds env a req source done feeds >>= _) s).2
        exact Keeps.bind_snd (ih h) fun _ => Keeps.pure
      | cons o os =>
        obtain ⟨rfl, -⟩ := List.cons.inj h
        refine Keeps.bind_snd ?_ fun items => hkeeps _ _ _
        exact admitEach_grows (fun o => .ok (feedEvidence feed resolved o)) rfl os done s

end

/-! ## Requests -/

section

variable (a : Adapters F (Observation F D))

/-- `parse_open_feed_source` of a source that is given. -/
def parsedSource : Option String → Except Exc (Option String)
  | none => .ok none
  | some raw => (a.parseOpenFeedSource raw).map some

/-- The feeds of a request and their source, where it is not refused before they are loaded. -/
def OpenFeedIngressRequest.plan (req : OpenFeedIngressRequest F) :
    Option (List String × Option String) :=
  match a.parseOpenFeedSelection req.feed with
  | .error _ => none
  | .ok feeds =>
    if feeds.isEmpty then none
    else if req.payload.isSome ∧ feeds.length ≠ 1 then none
    else
      match parsedSource a req.source with
      | .error _ => none
      | .ok source =>
        if req.payload.isNone ∧ !req.useFixture ∧ req.source.isNone then none
        else some (feeds, source)

/-- What a request loads, where it is not refused before. What the events of a candidate request
are resolved to does not depend on the runtime. -/
def Post.load (s : C2Runtime F (SpatialEntityGraph F D)) : Post F → Option (Load F D)
  | .candidateEvent req =>
    match (candidateEvents a req s).1 with
    | .error _ => none
    | .ok (events, source) => some (loadEach (candidateEvidence a source) events)
  | .openFeed req => (req.plan a).map fun (feeds, source) => loadFeeds a req source feeds

/-- The records of a request. -/
def Post.event : Post F → String
  | .candidateEvent _ => "candidate_event_ingested"
  | .openFeed _ => "open_feed_ingested"

def Post.endpoint : Post F → String
  | .candidateEvent _ => "/api/ingress/candidate-event"
  | .openFeed _ => "/api/ingress/open-feed"

def Post.modelDump : Post F → Json F
  | .candidateEvent req => req.modelDump
  | .openFeed req => req.modelDump

variable {a}

omit [PyMathOps F] [PyDateTime D] [Sha256] in
theorem onRuntime_apply {α : Type} (m : C2Handler F (SpatialEntityGraph F D) α)
    (s : C2Ingress F (SpatialEntityGraph F D)) :
    onRuntime m s = ((m s.runtime).1, { s with runtime := (m s.runtime).2 }) := rfl

variable {env : Env F (Observation F D) (SpatialEntityGraph F D)} {log : LogEnv}

/-- The candidate endpoint resolves its events first. -/
theorem postCandidateEvent_apply (a : Adapters F (Observation F D))
    (env : Env F (Observation F D) (SpatialEntityGraph F D)) (log : LogEnv) (req : CandidateEventIngressRequest F)
    (s : C2Ingress F (SpatialEntityGraph F D)) :
    postCandidateEvent env a log req s = match (candidateEvents a req s.runtime).1 with
      | .error e => (.error e, s)
      | .ok (events, source) => postEvents env a log req events source s := by
  have hrun : onRuntime (candidateEvents a req) s = ((candidateEvents a req s.runtime).1, s) := by
    rw [onRuntime_apply, (candidateEvents_stateless _ req).apply s.runtime s.runtime]
  unfold postCandidateEvent
  rw [Handler.bind_apply, hrun]
  cases (candidateEvents a req s.runtime).1 <;> rfl

/-- The feed endpoint is refused before the feeds are loaded, or goes on with its plan. -/
theorem postOpenFeed_apply (a : Adapters F (Observation F D))
    (env : Env F (Observation F D) (SpatialEntityGraph F D)) (log : LogEnv) (req : OpenFeedIngressRequest F)
    (s : C2Ingress F (SpatialEntityGraph F D)) :
    match req.plan a with
    | none => ∃ e, postOpenFeed env a log req s = (.error e, s)
    | some (feeds, source) => postOpenFeed env a log req s =
        postFeeds env a log req feeds source s := by
  have hgo {α β : Type} (x : α) (k : α → Handler Exc (C2Ingress F (SpatialEntityGraph F D)) β) :
      (onRuntime (valueErrorAs400 (Handler.ofExcept (.ok x))) >>= k) s = k x s := rfl
  have hstop {α β : Type} (e : Exc) (k : α → Handler Exc (C2Ingress F (SpatialEntityGraph F D)) β) :
      ∃ e', (onRuntime (valueErrorAs400 (Handler.ofExcept (.error e))) >>= k) s = (.error e', s) := by
    cases e <;> exact ⟨_, rfl⟩
  unfold OpenFeedIngressRequest.plan postOpenFeed
  cases a.parseOpenFeedSelection req.feed with
  | error e => exact hstop e _
  | ok feeds =>
    simp only [hgo]
    by_cases hempty : feeds.isEmpty = true
    · simp only [if_pos hempty]
      exact ⟨_, rfl⟩
    by_cases hpayload : req.payload.isSome = true ∧ feeds.length ≠ 1
    · simp only [if_neg hempty, if_pos hpayload]
      exact ⟨_, rfl⟩
    simp only [if_neg hempty, if_neg hpayload]
    have hsource (k : Option String → Handler Exc (C2Ingress F (SpatialEntityGraph F D)) (Json F)) :
        match parsedSource a req.source with
        | .error _ => ∃ e, (onRuntime (openFeedSource a req) >>= k) s = (.error e, s)
        | .ok source => (onRuntime (openFeedSource a req) >>= k) s = k source s := by
      unfold openFeedSource parsedSource
      cases req.source with
      | none => rfl
      | some raw =>
        dsimp only
        cases a.parseOpenFeedSource raw with
        | error e => cases e <;> exact ⟨_, rfl⟩
        | ok source => rfl
    have hk := hsource fun source =>
      if req.payload.isNone = true ∧ (!req.useFixture) = true ∧ req.source.isNone = true then
        Handler.raise (.http 400
          "Provide payload, use_fixture=true, or source=auto|indago|live|fixture")
      else postFeeds env a log req feeds source
    cases hparsed : parsedSource a req.source with
    | error e =>
      rw [hparsed] at hk
      exact hk
    | ok source =>
      rw [hparsed] at hk
      dsimp only at hk ⊢
      by_cases hnone : req.payload.isNone = true ∧ (!req.useFixture) = true ∧
          req.source.isNone = true
      · rw [if_pos hnone] at hk ⊢
        exact ⟨_, hk⟩
      · rw [if_neg hnone] at hk ⊢
        exact hk

/-! ## The loop, the log and the answer -/

section

variable {α : Type} {m : C2Handler F (SpatialEntityGraph F D) α} {source endpoint : String}
  {payload : Json F} {answer : α → Except Exc (Json F)}

variable (log m source endpoint payload answer) in
/-- What either endpoint does from its loop on. -/
def loggedLoop : Handler Exc (C2Ingress F (SpatialEntityGraph F D)) (Json F) := do
  let items ← onRuntime m
  logIngress log source endpoint payload
  Handler.ofExcept (answer items)

omit [PyMathOps F] [PyDateTime D] [Sha256] in
theorem loggedLoop_ok {s : C2Ingress F (SpatialEntityGraph F D)} {items : α}
    {t : C2Runtime F (SpatialEntityGraph F D)} (h : m s.runtime = (.ok items, t)) :
    loggedLoop log m source endpoint payload answer s =
      (answer items, ⟨t, IngressReplayLog.append log source endpoint payload s.replay⟩) := by
  unfold loggedLoop
  rw [Handler.bind_apply, onRuntime_apply, h]
  rfl

omit [PyMathOps F] [PyDateTime D] [Sha256] in
theorem loggedLoop_error {s : C2Ingress F (SpatialEntityGraph F D)} {e : Exc}
    {t : C2Runtime F (SpatialEntityGraph F D)} (h : m s.runtime = (.error e, t)) :
    loggedLoop log m source endpoint payload answer s = (.error e, { s with runtime := t }) := by
  unfold loggedLoop
  rw [Handler.bind_apply, onRuntime_apply, h]

omit [PyMathOps F] [PyDateTime D] [Sha256] in
theorem loggedLoop_eq_ok {s s' : C2Ingress F (SpatialEntityGraph F D)} {r : Json F} :
    loggedLoop log m source endpoint payload answer s = (.ok r, s') ↔
      ∃ items, m s.runtime = (.ok items, s'.runtime) ∧ answer items = .ok r ∧
        s'.replay = IngressReplayLog.append log source endpoint payload s.replay := by
  cases hrun : m s.runtime with
  | mk result t =>
    cases result with
    | error e =>
      rw [loggedLoop_error hrun]
      constructor
      · intro h
        cases h
      · rintro ⟨items, h, -⟩
        cases h
    | ok items =>
      rw [loggedLoop_ok hrun]
      constructor
      · intro h
        obtain ⟨hanswer, rfl⟩ := Prod.mk.inj h
        exact ⟨items, rfl, hanswer, rfl⟩
      · rintro ⟨items', h, hanswer, hreplay⟩
        cases h
        rw [hanswer, ← hreplay]

omit [PyMathOps F] [PyDateTime D] [Sha256] in
theorem loggedLoop_runtime (s : C2Ingress F (SpatialEntityGraph F D)) :
    (loggedLoop log m source endpoint payload answer s).2.runtime = (m s.runtime).2 := by
  cases hrun : m s.runtime with
  | mk result t =>
    cases result with
    | error e => rw [loggedLoop_error hrun]
    | ok items => rw [loggedLoop_ok hrun]

end

/-! ## What an answer tells -/

/-- Whether an answer names its first item. -/
def Post.NeedsItem : Post F → Prop
  | .candidateEvent _ => True
  | .openFeed _ => False

omit [PyMathOps F] [PyDateTime D] [Sha256] in
theorem candidateAnswer_eq_ok {source : String} {items : List (Json F × String)} :
    (∃ r, candidateAnswer source items = .ok r) ↔ items ≠ [] := by
  cases items with
  | nil => exact ⟨fun ⟨_, h⟩ => (by cases h), fun h => absurd rfl h⟩
  | cons item items => exact ⟨fun _ => List.cons_ne_nil _ _, fun _ => ⟨_, rfl⟩⟩

/-! ## The loops against what they load -/

/-- What a loop with an answer does with the evidence it loads. -/
structure LoopSpec {α : Type} (env : Env F (Observation F D) (SpatialEntityGraph F D))
    (name : String) (needsItem : Prop) (m : C2Handler F (SpatialEntityGraph F D) α)
    (answer : α → Except Exc (Json F)) (loaded : Load F D) : Prop where
  /-- It returns when all of it loads and is admitted. -/
  returns (s s' : C2Runtime F (SpatialEntityGraph F D)) : (∃ items, m s = (.ok items, s')) ↔
    loaded.complete = true ∧ Admits env name 0 loaded.evidence s s'
  answers (s s' : C2Runtime F (SpatialEntityGraph F D)) (items : α) : m s = (.ok items, s') →
    ((∃ r, answer items = .ok r) ↔ (needsItem → loaded.evidence ≠ []))
  nothing (s : C2Runtime F (SpatialEntityGraph F D)) : loaded.evidence = [] → (m s).2 = s
  grows (s : C2Runtime F (SpatialEntityGraph F D)) {e : Evidence F D} {es : List (Evidence F D)} :
    loaded.evidence = e :: es →
      C2Runtime.Grown (s.graph.observations ++ [e.observation.ensureDigest]) (m s).2

omit [PyMathOps F] [PyDateTime D] [Sha256] in
/-- A list that loads nothing is empty or begins with something that does not load. -/
theorem loadEach_eq_nil {α : Type} {convert : α → Except Exc (Evidence F D)} {xs : List α}
    (h : (loadEach convert xs).evidence = []) :
    xs = [] ∨ ∃ x rest err, xs = x :: rest ∧ convert x = .error err := by
  cases xs with
  | nil => exact .inl rfl
  | cons x rest =>
    rw [loadEach] at h
    cases hx : convert x with
    | error err => exact .inr ⟨x, rest, err, rfl, hx⟩
    | ok e =>
      rw [hx] at h
      cases h

omit [PyMathOps F] [PyDateTime D] [Sha256] in
theorem loadEach_eq_cons {α : Type} {convert : α → Except Exc (Evidence F D)} {xs : List α}
    {e : Evidence F D} {es : List (Evidence F D)} (h : (loadEach convert xs).evidence = e :: es) :
    ∃ x rest, xs = x :: rest ∧ convert x = .ok e := by
  cases xs with
  | nil => cases h
  | cons x rest =>
    rw [loadEach] at h
    cases hx : convert x with
    | error err =>
      rw [hx] at h
      cases h
    | ok e' =>
      rw [hx] at h
      obtain ⟨rfl, -⟩ := List.cons.inj h
      exact ⟨x, rest, rfl, hx⟩

omit [PyMathOps F] [PyDateTime D] [Sha256] in
theorem loadEach_length {α : Type} {convert : α → Except Exc (Evidence F D)} {xs : List α}
    (h : (loadEach convert xs).complete = true) :
    (loadEach convert xs).evidence.length = xs.length := by
  induction xs with
  | nil => rfl
  | cons x xs ih =>
    rw [loadEach] at h ⊢
    cases hx : convert x with
    | error err =>
      rw [hx] at h
      cases h
    | ok e =>
      rw [hx] at h
      exact congrArg Nat.succ (ih h)

variable (a) in
/-- The loop over the events of a candidate request. -/
theorem candidateLoop_spec (events : List (Json F)) (source : Option String)
    (ingressSource : String) :
    LoopSpec env "candidate_event_ingested" True
      (valueErrorAs400 (Handler.mapEach (ingestCandidateEvent env a source) events.zipIdx))
      (candidateAnswer ingressSource) (loadEach (candidateEvidence a source) events) := by
  rw [ingestCandidateEvent_eq]
  have hloaded {s s' : C2Runtime F (SpatialEntityGraph F D)} {items : List (Json F × String)}
      (h : valueErrorAs400 (Handler.mapEach (admitOne env "candidate_event_ingested"
        (candidateEvidence a source) fun o trackId =>
          ((EntityGraph.row (SpatialEntityGraph F D) o).2, trackId)) events.zipIdx) s =
        (.ok items, s')) :
      items.length = events.length ∧ (loadEach (candidateEvidence a source) events).complete = true ∧
        Admits env "candidate_event_ingested" 0 (loadEach (candidateEvidence a source) events).evidence
          s s' := by
    obtain ⟨hlength, es, hes, hadmits⟩ := admitEach_ok (valueErrorAs400_eq_ok.mp h)
    rw [loadEach_eq_iff.mpr hes]
    exact ⟨hlength, rfl, hadmits⟩
  constructor
  · intro s s'
    constructor
    · rintro ⟨items, h⟩
      exact (hloaded h).2
    · rintro ⟨hcomplete, hadmits⟩
      obtain ⟨items, hitems⟩ := admitEach_of_admits (loadEach_eq_iff.mp (by rw [← hcomplete])) hadmits
      exact ⟨items, valueErrorAs400_eq_ok.mpr hitems⟩
  · intro s s' items h
    obtain ⟨hitems, hcomplete, -⟩ := hloaded h
    have hevidence := loadEach_length hcomplete
    rw [candidateAnswer_eq_ok, ne_eq, ne_eq, ← List.length_eq_zero_iff, ← List.length_eq_zero_iff,
      hitems, hevidence]
    exact ⟨fun h _ => h, fun h => h trivial⟩
  · intro s hnone
    rw [valueErrorAs400_snd]
    rcases loadEach_eq_nil hnone with rfl | ⟨event, rest, err, rfl, herr⟩
    · rfl
    · rw [List.zipIdx_cons, Handler.mapEach, Handler.bind_error (admitOne_error herr _ _)]
  · intro s e es hsome
    rw [valueErrorAs400_snd]
    obtain ⟨event, rest, rfl, hevent⟩ := loadEach_eq_cons hsome
    exact admitEach_grows _ hevent rest 0 s

/-- The loop over the feeds of a request. -/
theorem feedLoop_spec (req : OpenFeedIngressRequest F) (feeds : List String)
    (source : Option String) (answer : List (String × String) × List (Json F) → Json F) :
    LoopSpec env "open_feed_ingested" False (ingestFeeds env a req source 0 feeds)
      (fun items => .ok (answer items)) (loadFeeds a req source feeds) where
  returns s s' := by
    rw [ingestFeeds_ok_iff]
    constructor
    · rintro ⟨es, hload, hadmits⟩
      rw [hload]
      exact ⟨rfl, hadmits⟩
    · rintro ⟨hcomplete, hadmits⟩
      exact ⟨_, by rw [← hcomplete], hadmits⟩
  answers s s' items _ := ⟨fun _ h => h.elim, fun _ => ⟨_, rfl⟩⟩
  nothing s hnone := ingestFeeds_nothing hnone s
  grows s _ _ hsome := ingestFeeds_grows hsome s

/-- A request is refused with nothing done, or goes through the loop over what it loads. -/
theorem Post.serve_spec (post : Post F) (p : PostEnv F (Observation F D) (SpatialEntityGraph F D))
    (s : C2Ingress F (SpatialEntityGraph F D)) :
    match post.load a s.runtime with
    | none => ∃ e, post.serve a p s = (.error e, s)
    | some loaded => ∃ (α : Type) (m : C2Handler F (SpatialEntityGraph F D) α) (source : String)
        (answer : α → Except Exc (Json F)),
        post.serve a p s = loggedLoop p.log m source post.endpoint post.modelDump answer s ∧
          LoopSpec p.env post.event post.NeedsItem m answer loaded := by
  cases post with
  | candidateEvent req =>
    have hserve := postCandidateEvent_apply a p.env p.log req s
    unfold Post.load
    dsimp only
    cases hevents : (candidateEvents a req s.runtime).1 with
    | error e =>
      rw [hevents] at hserve
      exact ⟨e, hserve⟩
    | ok resolved =>
      rw [hevents] at hserve
      exact ⟨_, _, _, _, hserve, candidateLoop_spec a _ _ _⟩
  | openFeed req =>
    have hserve := postOpenFeed_apply a p.env p.log req s
    unfold Post.load
    dsimp only
    cases hplan : req.plan a with
    | none =>
      rw [hplan] at hserve
      exact hserve
    | some plan =>
      obtain ⟨feeds, source⟩ := plan
      rw [hplan] at hserve
      exact ⟨_, _, _, _, hserve, feedLoop_spec req feeds source _⟩

/-- An accepted request has loaded and admitted its evidence, and is logged. -/
theorem Post.serve_ok {post : Post F} {p : PostEnv F (Observation F D) (SpatialEntityGraph F D)}
    {s s' : C2Ingress F (SpatialEntityGraph F D)} {r : Json F}
    (h : post.serve a p s = (.ok r, s')) :
    ∃ es, post.load a s.runtime = some ⟨es, true⟩ ∧ (post.NeedsItem → es ≠ []) ∧
      Admits p.env post.event 0 es s.runtime s'.runtime ∧
      ∃ source, s'.replay =
        IngressReplayLog.append p.log source post.endpoint post.modelDump s.replay := by
  have hspec := post.serve_spec (a := a) p s
  cases hload : post.load a s.runtime with
  | none =>
    rw [hload] at hspec
    obtain ⟨e, he⟩ := hspec
    rw [he] at h
    cases h
  | some loaded =>
    rw [hload] at hspec
    obtain ⟨α, m, source, answer, hserve, hloop⟩ := hspec
    rw [hserve] at h
    obtain ⟨items, hitems, hanswer, hreplay⟩ := loggedLoop_eq_ok.mp h
    obtain ⟨hcomplete, hadmits⟩ := (hloop.returns _ _).mp ⟨items, hitems⟩
    exact ⟨loaded.evidence, by rw [← hcomplete],
      (hloop.answers _ _ items hitems).mp ⟨r, hanswer⟩, hadmits, source, hreplay⟩

/-- A request whose evidence loads and can be admitted is accepted. -/
theorem Post.serve_accepts {post : Post F}
    {p : PostEnv F (Observation F D) (SpatialEntityGraph F D)}
    {s : C2Ingress F (SpatialEntityGraph F D)} {es : List (Evidence F D)}
    {t : C2Runtime F (SpatialEntityGraph F D)} (hload : post.load a s.runtime = some ⟨es, true⟩)
    (hitem : post.NeedsItem → es ≠ []) (hadmits : Admits p.env post.event 0 es s.runtime t) :
    ∃ r replay, post.serve a p s = (.ok r, ⟨t, replay⟩) := by
  have hspec := post.serve_spec (a := a) p s
  rw [hload] at hspec
  obtain ⟨α, m, source, answer, hserve, hloop⟩ := hspec
  obtain ⟨items, hitems⟩ := (hloop.returns _ _).mpr ⟨rfl, hadmits⟩
  obtain ⟨r, hr⟩ := (hloop.answers _ _ items hitems).mpr hitem
  exact ⟨r, _, by rw [hserve, loggedLoop_ok hitems, hr]⟩

end

end

end NexusC2

import NexusC2.App.OpenFeed
import NexusC2.App.Proofs.IngressPosts

/-!
# Ingress that is refused halfway

Both endpoints admit an observation before the next event or feed is loaded, so a request that is
answered with an error may have brought evidence. `Post.AllOrNothing` is exactly when it has not.
-/

namespace NexusC2

section

variable {F D : Type} [PyMathOps F] [PyDateTime D] [Sha256]

/-- No observation is added to the graph or the table, no record is appended to the trail, and
nothing is written to the replay log. -/
structure C2Ingress.Untouched (s t : C2Ingress F (SpatialEntityGraph F D)) : Prop where
  observations : t.runtime.graph.observations = s.runtime.graph.observations
  store : t.runtime.store = s.runtime.store
  records : t.runtime.audit.records = s.runtime.audit.records
  replay : t.replay = s.replay

/-- A request for which no error comes after its first observation: where it loads evidence, all
of it loads, the graph takes it and the records are written. One that loads nothing is refused only
after the log is written when it has to name an item. -/
def Post.AllOrNothing (a : Adapters F (Observation F D))
    (p : PostEnv F (Observation F D) (SpatialEntityGraph F D)) (post : Post F)
    (s : C2Runtime F (SpatialEntityGraph F D)) : Prop :=
  ∀ loaded, post.load a s = some loaded →
    if loaded.evidence = [] then
      loaded.complete = true → post.NeedsItem → p.log.writeRaises = true
    else
      loaded.complete = true ∧
        (SpatialEntityGraph.ingestAll (loaded.evidence.map Evidence.observation) s.graph).1 = .ok () ∧
        ∀ j < loaded.evidence.length, p.env.appendRaises post.event j = none

variable {a : Adapters F (Observation F D)}
  {p : PostEnv F (Observation F D) (SpatialEntityGraph F D)}

omit [PyMathOps F] [PyDateTime D] [Sha256] in
theorem replayLog_append_eq_self {log : LogEnv} {source endpoint : String} {payload : Json F}
    {records : List (Fields F)} :
    IngressReplayLog.append log source endpoint payload records = records ↔
      log.writeRaises = true := by
  unfold IngressReplayLog.append
  split
  · exact ⟨fun _ => by assumption, fun _ => rfl⟩
  · rename_i h
    constructor
    · intro happend
      have hlength := congrArg List.length happend
      rw [List.length_append, List.length_singleton] at hlength
      omega
    · intro hraises
      exact absurd hraises h

section

variable {α : Type} {name : String} {needsItem : Prop} {m : C2Handler F (SpatialEntityGraph F D) α}
  {answer : α → Except Exc (Json F)} {loaded : Load F D} {log : LogEnv}
  {env : Env F (Observation F D) (SpatialEntityGraph F D)} {source endpoint : String}
  {payload : Json F}

/-- A loop that loads nothing leaves the runtime; its log is written before its answer is. -/
theorem LoopSpec.untouched_of_nothing (hloop : LoopSpec env name needsItem m answer loaded)
    (hnone : loaded.evidence = []) (s : C2Ingress F (SpatialEntityGraph F D)) :
    (∀ e, (loggedLoop log m source endpoint payload answer s).1 = .error e →
      s.Untouched (loggedLoop log m source endpoint payload answer s).2) ↔
      (loaded.complete = true → needsItem → log.writeRaises = true) := by
  have hsame := hloop.nothing s.runtime hnone
  cases hrun : m s.runtime with
  | mk result t =>
    rw [hrun] at hsame
    obtain rfl : t = s.runtime := hsame
    cases result with
    | error e =>
      rw [loggedLoop_error hrun]
      constructor
      · intro _ hcomplete
        obtain ⟨items, hitems⟩ := (hloop.returns s.runtime s.runtime).mpr
          ⟨hcomplete, by rw [hnone]; exact .nil _ _⟩
        rw [hrun] at hitems
        cases hitems
      · intro _ e' _
        exact ⟨rfl, rfl, rfl, rfl⟩
    | ok items =>
      have hcomplete := ((hloop.returns _ _).mp ⟨items, hrun⟩).1
      have hanswers := hloop.answers _ _ items hrun
      rw [hnone] at hanswers
      rw [loggedLoop_ok hrun]
      constructor
      · intro huntouched _ hneeds
        cases hanswer : answer items with
        | ok r => exact absurd rfl (hanswers.mp ⟨r, hanswer⟩ hneeds)
        | error e => exact replayLog_append_eq_self.mp (huntouched e hanswer).replay
      · intro hraises e herror
        refine ⟨rfl, rfl, rfl, replayLog_append_eq_self.mpr (hraises hcomplete ?_)⟩
        by_contra hneeds
        obtain ⟨r, hr⟩ := hanswers.mpr fun h => absurd h hneeds
        change answer items = .error e at herror
        rw [hr] at herror
        cases herror

/-- A loop that loads something changes the graph, so it is not to be refused. -/
theorem LoopSpec.untouched_of_some (hloop : LoopSpec env name needsItem m answer loaded)
    (hsome : loaded.evidence ≠ []) (s : C2Ingress F (SpatialEntityGraph F D)) :
    (∀ e, (loggedLoop log m source endpoint payload answer s).1 = .error e →
      s.Untouched (loggedLoop log m source endpoint payload answer s).2) ↔
      loaded.complete = true ∧ ∃ t, Admits env name 0 loaded.evidence s.runtime t := by
  constructor
  · intro huntouched
    cases hserve : loggedLoop log m source endpoint payload answer s with
    | mk result t =>
      rw [hserve] at huntouched
      cases result with
      | error e =>
        obtain ⟨first, rest, hevidence⟩ := List.exists_cons_of_ne_nil hsome
        obtain ⟨os, hos⟩ := hloop.grows s.runtime hevidence
        have hsame := (huntouched e rfl).observations
        rw [← loggedLoop_runtime, hserve, hsame] at hos
        have hlength := congrArg List.length hos
        rw [List.length_append, List.length_append, List.length_singleton] at hlength
        omega
      | ok r =>
        obtain ⟨items, hitems, -⟩ := loggedLoop_eq_ok.mp hserve
        obtain ⟨hcomplete, hadmits⟩ := (hloop.returns _ _).mp ⟨items, hitems⟩
        exact ⟨hcomplete, _, hadmits⟩
  · rintro ⟨hcomplete, t, hadmits⟩ e herror
    obtain ⟨items, hitems⟩ := (hloop.returns _ _).mpr ⟨hcomplete, hadmits⟩
    obtain ⟨r, hr⟩ := (hloop.answers _ _ items hitems).mpr fun _ => hsome
    rw [loggedLoop_ok hitems, hr] at herror
    cases herror

end

/-- A refused request has left nothing behind exactly when no error comes after its first
observation. -/
theorem refused_untouched_iff (post : Post F) (s : C2Ingress F (SpatialEntityGraph F D)) :
    (∀ e, (post.serve a p s).1 = .error e → s.Untouched (post.serve a p s).2) ↔
      post.AllOrNothing a p s.runtime := by
  have hspec := post.serve_spec (a := a) p s
  unfold Post.AllOrNothing
  cases hload : post.load a s.runtime with
  | none =>
    rw [hload] at hspec
    obtain ⟨e, he⟩ := hspec
    rw [he]
    constructor
    · intro _ _ h
      cases h
    · intro _ _ _
      exact ⟨rfl, rfl, rfl, rfl⟩
  | some loaded =>
    rw [hload] at hspec
    obtain ⟨α, m, source, answer, hserve, hloop⟩ := hspec
    rw [hserve]
    simp only [Option.some.injEq, forall_eq']
    by_cases hnone : loaded.evidence = []
    · rw [if_pos hnone]
      exact hloop.untouched_of_nothing hnone s
    · rw [if_neg hnone, hloop.untouched_of_some hnone s, exists_admits_iff]
      simp only [Nat.zero_add]

/-! ## Both feeds by source -/

/-- A request that ends before all of its evidence is loaded is refused with a part of it in. -/
theorem Post.serve_incomplete {post : Post F} {s : C2Ingress F (SpatialEntityGraph F D)}
    {es : List (Evidence F D)} (hload : post.load a s.runtime = some ⟨es, false⟩) (hsome : es ≠ []) :
    ∃ e, (post.serve a p s).1 = .error e ∧ ¬ s.Untouched (post.serve a p s).2 := by
  have hspec := post.serve_spec (a := a) p s
  rw [hload] at hspec
  obtain ⟨α, m, source, answer, hserve, hloop⟩ := hspec
  rw [hserve]
  by_contra hnone
  have huntouched : ∀ e, (loggedLoop p.log m source post.endpoint post.modelDump answer s).1 = .error e →
      s.Untouched (loggedLoop p.log m source post.endpoint post.modelDump answer s).2 := by
    intro e he
    by_contra htouched
    exact hnone ⟨e, he, htouched⟩
  exact absurd ((hloop.untouched_of_some hsome s).mp huntouched).1 Bool.false_ne_true

omit [PyMathOps F] [PyDateTime D] [Sha256] in
theorem OpenFeedSource.ofValue_value (source : OpenFeedSource) :
    OpenFeedSource.ofValue source.value = some source := by
  cases source <;> rfl

/-- Without a payload the vessels are loaded from the source, but the aircraft have none. -/
theorem OpenFeeds.load_all (feeds : OpenFeeds F (Observation F D))
    (a : Adapters F (Observation F D)) {raw : String} {source : OpenFeedSource}
    (hsource : parseOpenFeedSource raw = .ok source) {limit : Int}
    {observations : List (Observation F D)} {resolved : String}
    (hais : feeds.openFeedToObservations .ais none false (some source) limit =
      .ok (observations, resolved)) (s : C2Runtime F (SpatialEntityGraph F D)) :
    Post.load (feeds.adapters a) s (.openFeed ⟨"all", none, false, some raw, limit⟩) =
      some ⟨observations.map (feedEvidence "ais" resolved), false⟩ := by
  have hselection : (feeds.adapters a).parseOpenFeedSelection "all" = .ok ["ais", "air"] := rfl
  have hparsed : parsedSource (feeds.adapters a) (some raw) = .ok (some source.value) := by
    change Except.map some (NexusC2.parseOpenFeedSource raw >>= fun source => .ok source.value) = _
    rw [hsource]
    rfl
  have hplan : OpenFeedIngressRequest.plan (feeds.adapters a)
      ⟨"all", none, false, some raw, limit⟩ = some (["ais", "air"], some source.value) := by
    unfold OpenFeedIngressRequest.plan
    rw [hselection]
    dsimp only
    rw [hparsed]
    rfl
  have hvessels : (feeds.adapters a).openFeedToObservations "ais" none false (some source.value)
      limit = .ok (observations, resolved) := by
    change feeds.openFeedToObservations .ais none false ((some source.value).bind _) limit = _
    rw [Option.bind_some, OpenFeedSource.ofValue_value]
    exact hais
  have haircraft : (feeds.adapters a).openFeedToObservations "air" none false (some source.value)
      limit = .error (.valueError "Provide payload or use_fixture=True for air feed") :=
    feeds.air_needs_payload ((some source.value).bind OpenFeedSource.ofValue) limit
  unfold Post.load
  dsimp only
  rw [hplan]
  change some (loadFeeds _ _ _ ["ais", "air"]) = _
  rw [loadFeeds, loadFeeds]
  dsimp only
  rw [hvessels, haircraft]
  dsimp only
  rw [List.append_nil]

/-- A request for both feeds by source is refused after its vessels are in. -/
theorem all_feeds_half_ingested (feeds : OpenFeeds F (Observation F D)) {raw : String}
    {source : OpenFeedSource} (hsource : parseOpenFeedSource raw = .ok source) {limit : Int}
    {observations : List (Observation F D)} {resolved : String}
    (hais : feeds.openFeedToObservations .ais none false (some source) limit =
      .ok (observations, resolved)) (hsome : observations ≠ [])
    (s : C2Ingress F (SpatialEntityGraph F D)) :
    ∃ e, (Post.serve (feeds.adapters a) p (.openFeed ⟨"all", none, false, some raw, limit⟩) s).1 =
        .error e ∧
      ¬ s.Untouched
        (Post.serve (feeds.adapters a) p (.openFeed ⟨"all", none, false, some raw, limit⟩) s).2 :=
  Post.serve_incomplete (feeds.load_all a hsource hais s.runtime)
    fun hnone => hsome (List.map_eq_nil_iff.mp hnone)

end

/-- `normalize_sensor_event` on the event of a vessel that is not under way. -/
def normalizeAtAnchor [Sha256] (event : Json Whole) : Except Exc (Observation Whole Instant) := do
  let fs := event.obj?.getD []
  let observed ← item fs "observed_at"
  let attributes := fs.filter fun p => p.1 ∉ ["source_id", "entity_id", "observation_id", "latitude",
    "longitude", "speed_kt", "heading_deg", "confidence", "observed_at", "modality"]
  let observation : Observation Whole Instant :=
    { observationId := (← item fs "observation_id").pyStr
      sourceId := (← item fs "source_id").pyStr
      entityHint := (← item fs "entity_id").pyStr
      latitude := ← pyFloat (← item fs "latitude")
      longitude := ← pyFloat (← item fs "longitude")
      altitudeM := none
      speedMps := .num 0
      headingDeg := none
      confidence := ← pyFloat (← item fs "confidence")
      observedAt := ((PyDateTime.fromIsoformat observed.pyStr).getD ⟨0⟩ : Instant)
      modality := (← item fs "modality").pyStr
      attributes := ("speed_kt", .float (.num 0)) :: attributes
      rawDigest := "" }
  .ok observation.ensureDigest

/-- A snapshot with one vessel, and nothing else that can be reached. -/
def harbourFeeds [Sha256] : OpenFeeds Whole (Observation Whole Instant) where
  loadOpenAisFixture := .ok [("source", .str "data.gov.sg"), ("vessels", .arr [.obj
    [("mmsi", .str "563000001"), ("name", .str "EASTERN STAR"), ("latitude", .int 1),
      ("longitude", .int 103), ("speed_kt", .int 0), ("confidence", .int 1),
      ("timestamp", .str "0")]])]
  loadOpenAirFixture := .error (.osError "no such file")
  loadOpenAisFromIndago := fun _ => .error (.osError "no such file")
  loadOpenAisFromLive := .error (.osError "unreachable")
  openFeedSourceFromEnv := .ok .auto
  normalizeSensorEvent := normalizeAtAnchor

/-- The adapters with that snapshot, where no detections can be reached. -/
def harbourAdapters [Sha256] : Adapters Whole (Observation Whole Instant) :=
  harbourFeeds.adapters
    { resolveDualSarEvents := fun _ _ _ => .ok ([], "fixture")
      resolveSentinelEvents := fun _ _ _ => .ok ([], "fixture")
      resolveGlintEvents := fun _ _ => .ok ([], "fixture")
      loadAssumedFixture := .error (.osError "no such file")
      candidateEventToObservation := normalizeAtAnchor
      parseOpenFeedSelection := fun feed => .ok [feed]
      parseOpenFeedSource := .ok
      openFeedToObservations := fun _ _ _ _ _ => .ok ([], "fixture")
      loadJsonl := .ok [] }

/-- What a request is served with when nothing outside fails. -/
def calmPost [Sha256] : PostEnv Whole (Observation Whole Instant) (SpatialEntityGraph Whole Instant) where
  env :=
    { uuid4 := fun i => "uuid-" ++ toString i
      utcNow := fun _ => "2026-01-01T00:00:00+00:00"
      appendRaises := fun _ _ => none
      getScenario := fun id => .error (.keyError id)
      normalizeSensorEvent := normalizeAtAnchor
      interpret := fun _ _ _ _ => .error .assertion
      loadPois := .ok [tankFarm] }
  log := ⟨"2026-01-01T00:00:00+00:00", false⟩

/-- The fixture of both feeds is asked for by source. -/
theorem not_refused_untouched :
    letI := plainHash
    ¬ ∀ (a : Adapters Whole (Observation Whole Instant))
        (p : PostEnv Whole (Observation Whole Instant) (SpatialEntityGraph Whole Instant))
        (post : Post Whole) (e : Exc), (post.serve a p ⟨newServer, []⟩).1 = .error e →
        C2Ingress.Untouched ⟨newServer, []⟩ (post.serve a p ⟨newServer, []⟩).2 := by
  let := plainHash
  intro h
  have hais : harbourFeeds.openFeedToObservations .ais none false (some .fixture) 80 =
      .ok (_, "fixture") := rfl
  obtain ⟨e, herror, htouched⟩ := all_feeds_half_ingested harbourFeeds
    (a := harbourAdapters) (p := calmPost) (show parseOpenFeedSource "fixture" = .ok .fixture from rfl)
    hais (List.cons_ne_nil _ _) ⟨newServer, []⟩
  exact htouched (h _ _ _ e herror)

end NexusC2

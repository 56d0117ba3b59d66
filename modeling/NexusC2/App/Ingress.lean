import NexusC2.App.VerifyUi

/-!
# Ingress

The handlers that put evidence into the graph: `ingress_candidate_event` and `ingress_open_feed`
(`app/c2_server.py`) and `verify_ingress` (`app/verify_ui.py`). What the adapters make of a
request is in `Adapters`; the replay log is in `App/IngressReplay.lean`.
-/

namespace NexusC2

/-- `CandidateEventIngressRequest` (`app/c2_server.py:134-151`). -/
structure CandidateEventIngressRequest (F : Type) where
  event : Option (Json F)
  useFixture : Bool
  useSentinelFixture : Bool
  pullUpstream : Bool
  runCv : Option (Json F)
  pullGlint : Bool
  useGlintFixture : Bool
  dualSar : Bool
  pullDualSar : Bool

/-- `OpenFeedIngressRequest` (`app/c2_server.py:154-164`). -/
structure OpenFeedIngressRequest (F : Type) where
  feed : String
  payload : Option (Json F)
  useFixture : Bool
  source : Option String
  limit : Int

/-- The functions of `app/adapters` the ingress handlers call, which read files and services. -/
structure Adapters (F Obs : Type) where
  resolveDualSarEvents : (pull useFixture : Bool) → (runCv : Option (Json F)) →
    Except Exc (List (Json F) × String)
  resolveSentinelEvents : (runCv : Option (Json F)) → (pullUpstream useFixture : Bool) →
    Except Exc (List (Json F) × String)
  resolveGlintEvents : (pullUpstream useFixture : Bool) → Except Exc (List (Json F) × String)
  loadAssumedFixture : Except Exc (Json F)
  candidateEventToObservation : Json F → Except Exc Obs
  parseOpenFeedSelection : String → Except Exc (List String)
  parseOpenFeedSource : String → Except Exc String
  openFeedToObservations : (feed : String) → (payload : Option (Json F)) → (useFixture : Bool) →
    (source : Option String) → (limit : Int) → Except Exc (List Obs × String)
  loadJsonl : Except Exc (List (Json F))

section

variable {F Obs G : Type} [PyFloatOps F] [Sha256] [EntityGraph F Obs G]

omit [PyFloatOps F] [Sha256] in
/-- `persist_observation` (`app/c2_server.py:267-268`). -/
def C2Runtime.persistObservation (s : C2Runtime F G) (o : Obs) : C2Runtime F G :=
  { s with store := s.store.upsertObservation (EntityGraph.row G o) }

omit [PyFloatOps F] [Sha256] in
/-- `runtime.graph.ingest(obs)` and `runtime.persist_observation(obs)`. -/
def ingestObservation (o : Obs) : C2Handler F G String := do
  let trackId ← C2Runtime.ingest o
  Handler.modify fun s => s.persistObservation o
  pure trackId

omit [PyFloatOps F] [Sha256] [EntityGraph F Obs G] in
/-- `except ValueError as exc: raise HTTPException(400, str(exc))`. -/
def valueErrorAs400 {α : Type} (m : C2Handler F G α) : C2Handler F G α :=
  Handler.tryCatch m fun e =>
    match e with
    | .valueError m => Handler.raise (.http 400 m)
    | e => Handler.raise e

omit [PyFloatOps F] [Sha256] [EntityGraph F Obs G] in
/-- `except (ValueError, FileNotFoundError, OSError) as exc: raise HTTPException(400, str(exc))`. -/
def feedErrorAs400 {α : Type} (m : C2Handler F G α) : C2Handler F G α :=
  Handler.tryCatch m fun e =>
    match e with
    | .valueError m | .osError m => Handler.raise (.http 400 m)
    | e => Handler.raise e

/-- `s or t`. -/
def orElse (s : Option String) (t : String) : String :=
  match s with
  | some s => if s = "" then t else s
  | none => t

/-! ## Candidate events -/

omit [PyFloatOps F] [Sha256] [EntityGraph F Obs G] in
/-- Events of an adapter, which must not be empty where `detail` is given. -/
def mappedEvents (resolved : Except Exc (List (Json F) × String)) (detail : Option String) :
    C2Handler F G (List (Json F) × Option String) := do
  let (mapped, source) ← valueErrorAs400 (Handler.ofExcept resolved)
  match detail with
  | some detail =>
    if mapped.isEmpty then Handler.raise (.http 400 detail) else pure (mapped, some source)
  | none => pure (mapped, some source)

omit [PyFloatOps F] [Sha256] [EntityGraph F Obs G] in
/-- The events of a request and the source they resolve to (`app/c2_server.py:522-576`). -/
def candidateEvents (a : Adapters F Obs) (req : CandidateEventIngressRequest F) :
    C2Handler F G (List (Json F) × Option String) :=
  if req.dualSar || req.pullDualSar then
    mappedEvents (a.resolveDualSarEvents req.pullDualSar (req.dualSar || req.pullDualSar) req.runCv)
      (some "No Dual-SAR / dark-vessel detections to ingest")
  else if req.runCv.isSome || req.pullUpstream || req.useSentinelFixture then
    mappedEvents (a.resolveSentinelEvents req.runCv req.pullUpstream
      (req.useSentinelFixture || req.pullUpstream))
      (some "No uncorrelated (dark vessel) detections to ingest")
  else if req.pullGlint || req.useGlintFixture then
    mappedEvents (a.resolveGlintEvents req.pullGlint (req.useGlintFixture || req.pullGlint)) none
  else if req.useFixture then do
    let event ← Handler.ofExcept a.loadAssumedFixture
    pure ([event], none)
  else
    match req.event with
    | some event => pure ([event], none)
    | none => Handler.raise (.http 400 ("Provide event, use_fixture=true, " ++
        "use_sentinel_fixture=true, pull_upstream=true, run_cv=\x7b...\x7d, pull_glint=true, " ++
        "use_glint_fixture=true, dual_sar=true, or pull_dual_sar=true"))

omit [PyFloatOps F] [Sha256] in
/-- The data of a `candidate_event_ingested` record (`app/c2_server.py:588-595`). -/
def candidateData (source : Option String) (o : Obs) (trackId : String) : Fields F :=
  let dump := (EntityGraph.row (F := F) G o).2
  [("observation_id", dump.field "observation_id"), ("source_id", dump.field "source_id"),
    ("modality", dump.field "modality"), ("track_id", .str trackId),
    ("event_type", dump.field "entity_hint"),
    ("ingress_source", .str (orElse source "candidate_event"))]

/-- One turn of the loop of `ingress_candidate_event` (`app/c2_server.py:581-598`). -/
def ingestCandidateEvent (env : Env F Obs G) (a : Adapters F Obs) (source : Option String)
    (event : Json F × Nat) : C2Handler F G (Json F × String) := do
  let obs ← Handler.ofExcept (a.candidateEventToObservation event.1)
  let trackId ← ingestObservation obs
  let _ ← auditAppend env event.2 "candidate_event_ingested" "Info"
    (candidateData (G := G) source obs trackId)
  pure ((EntityGraph.row G obs).2, trackId)

/-- `ingress_candidate_event` (`app/c2_server.py:508-619`). -/
def ingressCandidateEvent (env : Env F Obs G) (a : Adapters F Obs)
    (req : CandidateEventIngressRequest F) : C2Handler F G (Json F) := do
  let (events, source) ← candidateEvents a req
  let ingested ← valueErrorAs400
    (Handler.mapEach (ingestCandidateEvent env a source) events.zipIdx)
  match ingested with
  | [] => Handler.raise (.indexError "list index out of range")
  | (first, trackId) :: _ =>
    pure (.obj [("status", .str "INGESTED"), ("observation", first),
      ("observations", .arr (ingested.map Prod.fst)), ("track_id", .str trackId),
      ("track_ids", Json.strs (ingested.map Prod.snd)), ("count", .int ingested.length),
      ("source", .str (orElse source (if req.useFixture then "fixture" else "event")))])

/-! ## Open feeds -/

omit [PyFloatOps F] [Sha256] in
/-- The data of an `open_feed_ingested` record (`app/c2_server.py:678-685`). -/
def feedData (feed resolved : String) (o : Obs) (trackId : String) : Fields F :=
  let dump := (EntityGraph.row (F := F) G o).2
  [("feed", .str feed), ("source", .str resolved), ("observation_id", dump.field "observation_id"),
    ("source_id", dump.field "source_id"), ("modality", dump.field "modality"),
    ("track_id", .str trackId)]

/-- One turn of the loop over the observations of a feed (`app/c2_server.py:672-694`). -/
def ingestFeedObservation (env : Env F Obs G) (feed resolved : String) (o : Obs × Nat) :
    C2Handler F G (Json F) := do
  let trackId ← ingestObservation o.1
  let _ ← auditAppend env o.2 "open_feed_ingested" "Info"
    (feedData (G := G) feed resolved o.1 trackId)
  pure (.obj [("feed", .str feed), ("source", .str resolved),
    ("observation", (EntityGraph.row G o.1).2), ("track_id", .str trackId)])

/-- The loop over the feeds (`app/c2_server.py:660-694`), where `done` records have been appended:
what each feed resolves to and the items. -/
def ingestFeeds (env : Env F Obs G) (a : Adapters F Obs) (req : OpenFeedIngressRequest F)
    (source : Option String) : Nat → List String →
      C2Handler F G (List (String × String) × List (Json F))
  | _, [] => pure ([], [])
  | done, feed :: feeds => do
    let (observations, resolved) ← feedErrorAs400 (Handler.ofExcept
      (a.openFeedToObservations feed req.payload req.useFixture source req.limit))
    let items ← Handler.mapEach (ingestFeedObservation env feed resolved) (observations.zipIdx done)
    let (sources, rest) ← ingestFeeds env a req source (done + observations.length) feeds
    pure ((feed, resolved) :: sources, items ++ rest)

omit [PyFloatOps F] [Sha256] [EntityGraph F Obs G] in
/-- `parse_open_feed_source(req.source)`, where a source is given (`app/c2_server.py:645-648`). -/
def openFeedSource (a : Adapters F Obs) (req : OpenFeedIngressRequest F) :
    C2Handler F G (Option String) :=
  match req.source with
  | some source => do
    let parsed ← valueErrorAs400 (Handler.ofExcept (a.parseOpenFeedSource source))
    pure (some parsed)
  | none => pure none

/-- `ingress_open_feed` (`app/c2_server.py:623-709`). -/
def ingressOpenFeed (env : Env F Obs G) (a : Adapters F Obs) (req : OpenFeedIngressRequest F) :
    C2Handler F G (Json F) := do
  let feeds ← valueErrorAs400 (Handler.ofExcept (a.parseOpenFeedSelection req.feed))
  if feeds.isEmpty then Handler.raise (.http 400 "feed must be ais, air, or all")
  else if req.payload.isSome ∧ feeds.length ≠ 1 then
    Handler.raise (.http 400 ("payload requires a single feed (ais or air); " ++
      "use use_fixture/source for all"))
  else do
    let source ← openFeedSource a req
    if req.payload.isNone ∧ !req.useFixture ∧ req.source.isNone then
      Handler.raise (.http 400
        "Provide payload, use_fixture=true, or source=auto|indago|live|fixture")
    else do
      let (sources, items) ← ingestFeeds env a req source 0 feeds
      pure (.obj [("status", .str "INGESTED"), ("feeds", Json.strs feeds),
        ("resolved_sources", .obj (sources.foldl (fun d p => Assoc.set d p.1 (.str p.2)) [])),
        ("count", .int items.length), ("items", .arr items)])

/-! ## The form -/

/-- `(ValueError, OSError, TypeError, FileNotFoundError)`. -/
def isIngressError : Exc → Bool
  | .valueError _ | .osError _ | .typeError _ => true
  | _ => false

omit [PyFloatOps F] [Sha256] in
/-- The loop of the SensorSim reload (`app/verify_ui.py:505-514`), with the rows ingested. A row
that does not normalise is skipped. -/
def reloadRows (env : Env F Obs G) : List (Json F) → C2Handler F G Nat
  | [] => pure 0
  | row :: rows =>
    match env.normalizeSensorEvent row with
    | .ok obs => do
      let _ ← ingestObservation obs
      let count ← reloadRows env rows
      pure (count + 1)
    | .error (.valueError _) | .error (.keyError _) | .error (.typeError _) => reloadRows env rows
    | .error e => Handler.raise e

omit [PyFloatOps F] [Sha256] [EntityGraph F Obs G] in
/-- The events of a detection mode, their source and the label of the page
(`app/verify_ui.py:517-531`). -/
def modeEvents (a : Adapters F Obs) (mode : String) :
    Except Exc ((List (Json F) × String) × String) :=
  if mode = "dual_sar" then do
    .ok (← a.resolveDualSarEvents false true none, "Dual-SAR (GLINT x SIA)")
  else if mode ∈ ["glint", "glint_fixture"] then do
    .ok (← a.resolveGlintEvents false true, "GLINT only (fixture)")
  else if mode = "glint_pull" then do
    .ok (← a.resolveGlintEvents true true, "GLINT only (pull→fixture fail-safe)")
  else if mode ∈ ["sentinel", "sia"] then do
    .ok (← a.resolveSentinelEvents none false true, "SIA only (Sentinel fixture)")
  else .error (.valueError ("Unknown ingress mode: " ++ mode))

omit [PyFloatOps F] [Sha256] in
/-- The `try` of `verify_ingress` (`app/verify_ui.py:487-538`). -/
def ingressForm (env : Env F Obs G) (a : Adapters F Obs) (mode : String) :
    C2Handler F G Page := do
  if mode ∈ ["indago", "open_ais", "indago_ais"] then
    let (observations, source) ← Handler.ofExcept
      (a.openFeedToObservations "ais" none false (some "auto") 40)
    if observations.isEmpty then Handler.raise (.valueError "No AIS vessels to ingest")
    else do
      Handler.forEach (fun o => do let _ ← ingestObservation o) observations
      pure ⟨"Indago AIS (open-feed): ingested " ++ toString observations.length ++ " · source=" ++
        source, ""⟩
  else if mode ∈ ["sensorsim_reload", "sensorsim", "s1_trojan_reload", "canonical_reload"] then
    let rows ← Handler.ofExcept a.loadJsonl
    let count ← reloadRows env rows
    pure ⟨"SensorSim canonical reload: ingested " ++ toString count ++ " · fixture/export JSONL", ""⟩
  else
    let ((events, source), label) ← Handler.ofExcept (modeEvents a mode)
    if events.isEmpty then Handler.raise (.valueError "No detections to ingest")
    else do
      Handler.forEach (fun payload => do
        let obs ← Handler.ofExcept (a.candidateEventToObservation payload)
        let _ ← ingestObservation obs) events
      pure ⟨label ++ ": ingested " ++ toString events.length ++ " · source=" ++ source, ""⟩

omit [PyFloatOps F] [Sha256] in
/-- `verify_ingress` (`app/verify_ui.py:474-549`). -/
def verifyIngress (env : Env F Obs G) (a : Adapters F Obs) (mode : String) :
    C2Handler F G Page :=
  caught isIngressError (ingressForm env a mode)

/-! ## Requests -/

/-- The requests that bring evidence. -/
inductive IngressRequest (F : Type) where
  | candidateEvent (req : CandidateEventIngressRequest F)
  | openFeed (req : OpenFeedIngressRequest F)
  | form (mode : String)

/-- An ingress request together with what it reads from outside. -/
structure Ingress (F Obs G : Type) where
  env : Env F Obs G
  adapters : Adapters F Obs
  req : IngressRequest F

/-- One ingress request served. -/
def handleIngress (i : Ingress F Obs G) (s : C2Runtime F G) : Response F × C2Runtime F G :=
  match i.req with
  | .candidateEvent req => respond .json (ingressCandidateEvent i.env i.adapters req) s
  | .openFeed req => respond .json (ingressOpenFeed i.env i.adapters req) s
  | .form mode => respond .page (verifyIngress i.env i.adapters mode) s

end

end NexusC2

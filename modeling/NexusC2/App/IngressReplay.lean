import NexusC2.App.Ingress

/-!
# The ingress replay log

The two ingress endpoints append the request of every ingest that went through to a log
(`core/ingress_replay.py`), and a script posts the records of the log again after a reset
(`scripts/replay_ingress.py`). The log is a file with one JSON object a line, here the list of these
objects. `ingressCandidateEvent` and `ingressOpenFeed` are the handlers without the log.
-/

namespace NexusC2

/-- What an append to the log reads from outside: the clock, and whether the file can be
written. -/
structure LogEnv where
  receivedAt : String
  writeRaises : Bool

/-- `IngressReplayLog.append` (`core/ingress_replay.py:42-65`). A write that fails is a warning. -/
def IngressReplayLog.append {F : Type} (log : LogEnv) (source endpoint : String) (payload : Json F)
    (records : List (Fields F)) : List (Fields F) :=
  if log.writeRaises then records
  else records ++ [[("received_at", .str log.receivedAt), ("source", .str source),
    ("endpoint", .str endpoint), ("payload", payload)]]

/-- The runtime with its log. -/
structure C2Ingress (F G : Type) where
  runtime : C2Runtime F G
  replay : List (Fields F)

/-! ## Requests as JSON -/

/-- A field that may be missing, as JSON. -/
def optJson {F : Type} : Option (Json F) → Json F
  | none => .null
  | some v => v

/-- `req.model_dump(mode="json")`. -/
def CandidateEventIngressRequest.modelDump {F : Type} (req : CandidateEventIngressRequest F) :
    Json F :=
  .obj [("event", optJson req.event), ("use_fixture", .bool req.useFixture),
    ("use_sentinel_fixture", .bool req.useSentinelFixture),
    ("pull_upstream", .bool req.pullUpstream), ("run_cv", optJson req.runCv),
    ("pull_glint", .bool req.pullGlint), ("use_glint_fixture", .bool req.useGlintFixture),
    ("dual_sar", .bool req.dualSar), ("pull_dual_sar", .bool req.pullDualSar)]

/-- `req.model_dump(mode="json")`. -/
def OpenFeedIngressRequest.modelDump {F : Type} (req : OpenFeedIngressRequest F) : Json F :=
  .obj [("feed", .str req.feed), ("payload", optJson req.payload),
    ("use_fixture", .bool req.useFixture), ("source", Json.ofOption req.source),
    ("limit", .int req.limit)]

/-- An object that may be missing or `null`. -/
def optObject {F : Type} (fs : Fields F) (key : String) : Option (Option (Json F)) :=
  match Assoc.get fs key with
  | none | some .null => some none
  | some (.obj v) => some (some (.obj v))
  | _ => none

/-- A flag that is false where it is missing. -/
def flag {F : Type} (fs : Fields F) (key : String) : Option Bool :=
  match Assoc.get fs key with
  | none => some false
  | some (.bool b) => some b
  | _ => none

/-- `CandidateEventIngressRequest` of a body (`app/c2_server.py:134-151`); `none` is a 422. Words
and numbers that stand for a flag are nothing a dump has. -/
def CandidateEventIngressRequest.ofBody {F : Type} (fs : Fields F) :
    Option (CandidateEventIngressRequest F) := do
  some
    { event := ← optObject fs "event"
      useFixture := ← flag fs "use_fixture"
      useSentinelFixture := ← flag fs "use_sentinel_fixture"
      pullUpstream := ← flag fs "pull_upstream"
      runCv := ← optObject fs "run_cv"
      pullGlint := ← flag fs "pull_glint"
      useGlintFixture := ← flag fs "use_glint_fixture"
      dualSar := ← flag fs "dual_sar"
      pullDualSar := ← flag fs "pull_dual_sar" }

/-- `limit: int = Field(default=80, ge=1, le=500)`. -/
def limitOf {F : Type} (fs : Fields F) : Option Int :=
  match Assoc.get fs "limit" with
  | none => some 80
  | some (.int n) => if 1 ≤ n ∧ n ≤ 500 then some n else none
  | _ => none

/-- `source: str | None`. -/
def sourceOf {F : Type} (fs : Fields F) : Option (Option String) :=
  match Assoc.get fs "source" with
  | none | some .null => some none
  | some (.str s) => some (some s)
  | _ => none

/-- `OpenFeedIngressRequest` of a body (`app/c2_server.py:154-164`); `none` is a 422. -/
def OpenFeedIngressRequest.ofBody {F : Type} (fs : Fields F) : Option (OpenFeedIngressRequest F) := do
  some
    { feed := ← (← Assoc.get fs "feed").str?
      payload := ← optObject fs "payload"
      useFixture := ← flag fs "use_fixture"
      source := ← sourceOf fs
      limit := ← limitOf fs }

section

variable {F Obs G : Type} [PyFloatOps F] [Sha256] [EntityGraph F Obs G]

/-! ## The handlers -/

omit [PyFloatOps F] [Sha256] [EntityGraph F Obs G] in
/-- What a handler does with the runtime. -/
def onRuntime {α : Type} (m : C2Handler F G α) : Handler Exc (C2Ingress F G) α :=
  Handler.zoom (fun s => s.runtime) (fun s runtime => { s with runtime := runtime }) m

omit [PyFloatOps F] [Sha256] [EntityGraph F Obs G] in
/-- `runtime.ingress_replay.append(...)`. -/
def logIngress (log : LogEnv) (source endpoint : String) (payload : Json F) :
    Handler Exc (C2Ingress F G) Unit :=
  Handler.modify fun s => { s with
    replay := IngressReplayLog.append log source endpoint payload s.replay }

omit [PyFloatOps F] [Sha256] [EntityGraph F Obs G] in
/-- The answer to the items of `ingress_candidate_event` (`app/c2_server.py:610-619`). -/
def candidateAnswer (source : String) : List (Json F × String) → Except Exc (Json F)
  | [] => .error (.indexError "list index out of range")
  | (first, trackId) :: rest =>
    let ingested := (first, trackId) :: rest
    .ok (.obj [("status", .str "INGESTED"), ("observation", first),
      ("observations", .arr (ingested.map Prod.fst)), ("track_id", .str trackId),
      ("track_ids", Json.strs (ingested.map Prod.snd)), ("count", .int ingested.length),
      ("source", .str source)])

/-- `ingress_candidate_event` from the loop on (`app/c2_server.py:578-619`). -/
def postEvents (env : Env F Obs G) (a : Adapters F Obs) (log : LogEnv)
    (req : CandidateEventIngressRequest F) (events : List (Json F)) (source : Option String) :
    Handler Exc (C2Ingress F G) (Json F) := do
  let ingested ← onRuntime (valueErrorAs400
    (Handler.mapEach (ingestCandidateEvent env a source) events.zipIdx))
  let ingressSource := orElse source (if req.useFixture then "fixture" else "event")
  logIngress log ingressSource "/api/ingress/candidate-event" req.modelDump
  Handler.ofExcept (candidateAnswer ingressSource ingested)

/-- `ingress_candidate_event` with its log (`app/c2_server.py:508-619`). -/
def postCandidateEvent (env : Env F Obs G) (a : Adapters F Obs) (log : LogEnv)
    (req : CandidateEventIngressRequest F) : Handler Exc (C2Ingress F G) (Json F) := do
  let (events, source) ← onRuntime (candidateEvents a req)
  postEvents env a log req events source

/-- `ingress_open_feed` from the loop on (`app/c2_server.py:657-709`). -/
def postFeeds (env : Env F Obs G) (a : Adapters F Obs) (log : LogEnv)
    (req : OpenFeedIngressRequest F) (feeds : List String) (source : Option String) :
    Handler Exc (C2Ingress F G) (Json F) := do
  let (sources, items) ← onRuntime (ingestFeeds env a req source 0 feeds)
  logIngress log ("open_feed:" ++ ",".intercalate feeds) "/api/ingress/open-feed" req.modelDump
  pure (.obj [("status", .str "INGESTED"), ("feeds", Json.strs feeds),
    ("resolved_sources", .obj (sources.foldl (fun d p => Assoc.set d p.1 (.str p.2)) [])),
    ("count", .int items.length), ("items", .arr items)])

/-- `ingress_open_feed` with its log (`app/c2_server.py:623-709`). -/
def postOpenFeed (env : Env F Obs G) (a : Adapters F Obs) (log : LogEnv)
    (req : OpenFeedIngressRequest F) : Handler Exc (C2Ingress F G) (Json F) := do
  let feeds ← onRuntime (valueErrorAs400 (Handler.ofExcept (a.parseOpenFeedSelection req.feed)))
  if feeds.isEmpty then Handler.raise (.http 400 "feed must be ais, air, or all")
  else if req.payload.isSome ∧ feeds.length ≠ 1 then
    Handler.raise (.http 400 ("payload requires a single feed (ais or air); " ++
      "use use_fixture/source for all"))
  else do
    let source ← onRuntime (openFeedSource a req)
    if req.payload.isNone ∧ !req.useFixture ∧ req.source.isNone then
      Handler.raise (.http 400
        "Provide payload, use_fixture=true, or source=auto|indago|live|fixture")
    else postFeeds env a log req feeds source

/-! ## The script -/

/-- A request to one of the two endpoints. -/
inductive Post (F : Type) where
  | candidateEvent (req : CandidateEventIngressRequest F)
  | openFeed (req : OpenFeedIngressRequest F)

/-- What a request is served with. -/
structure PostEnv (F Obs G : Type) where
  env : Env F Obs G
  log : LogEnv

/-- A request to one of the endpoints is served. -/
def Post.serve (a : Adapters F Obs) (p : PostEnv F Obs G) :
    Post F → Handler Exc (C2Ingress F G) (Json F)
  | .candidateEvent req => postCandidateEvent p.env a p.log req
  | .openFeed req => postOpenFeed p.env a p.log req

/-- `endpoint.lstrip("/")`. -/
def lstripSlash (endpoint : String) : List Char := endpoint.toList.dropWhile (· = '/')

/-- The request a record of the log stands for (`scripts/replay_ingress.py:89-94`); `none` is one
that is answered with 404 or 422. Other endpoints are none of the log's. -/
def postOf (endpoint : String) (payload : Fields F) : Option (Post F) :=
  if lstripSlash endpoint = "api/ingress/candidate-event".toList then
    (CandidateEventIngressRequest.ofBody payload).map .candidateEvent
  else if lstripSlash endpoint = "api/ingress/open-feed".toList then
    (OpenFeedIngressRequest.ofBody payload).map .openFeed
  else none

/-- `str(rec.get("endpoint") or "/api/ingress/candidate-event")`. -/
def recordEndpoint (rec : Fields F) : String :=
  ((getOrNone rec "endpoint").orElse (.str "/api/ingress/candidate-event")).pyStr

/-- The loop of `replay` over the records (`scripts/replay_ingress.py:88-108`), and whether it got to
the end. A record without a payload object is skipped. -/
def replayRecords (a : Adapters F Obs) (posts : Nat → PostEnv F Obs G) :
    Nat → List (Fields F) → C2Ingress F G → Bool × C2Ingress F G
  | _, [], s => (true, s)
  | i, rec :: records, s =>
    match Assoc.get rec "payload" with
    | some (.obj payload) =>
      match postOf (recordEndpoint rec) payload with
      | none => (false, s)
      | some post =>
        match post.serve a (posts i) s with
        | (.ok _, s') => replayRecords a posts (i + 1) records s'
        | (.error _, s') => (false, s')
    | _ => replayRecords a posts (i + 1) records s

variable (Obs) in
/-- `POST /api/admin/reset`. The log stays. -/
def C2Ingress.reset (s : C2Ingress F G) : C2Ingress F G :=
  { s with runtime := C2Runtime.reset Obs s.runtime }

/-- `replay` with a reset, on the records of the log as it stands
(`scripts/replay_ingress.py:73-110`). -/
def replayLog (a : Adapters F Obs) (posts : Nat → PostEnv F Obs G) (s : C2Ingress F G) :
    Bool × C2Ingress F G :=
  replayRecords a posts 0 s.replay (s.reset Obs)

end

end NexusC2

import NexusC2.App.SarEvents

/-!
# Where dark vessels end up

Every event of a `run_cv` payload has one type, the type becomes the hint of the observation, and
an observation with a hint goes to the track of that name before any distance is measured. So all
detections of a payload are put into one track, however far apart they are.
-/

namespace NexusC2

/-- The type of a dark vessel. -/
def darkVessel : String := "UNANNOUNCED_DARK_VESSEL"

section

variable {F D : Type} [PyFloatOps F]

/-- The event lies farther than a radius from every other event of the list. -/
def Isolated (radius : F) (events : List (CandidateEvent F D)) (i : Nat) : Prop :=
  ∀ j, j ≠ i → ∀ e e', events[i]? = some e → events[j]? = some e' →
    ∃ d, haversineM e.latitude e.longitude e'.latitude e'.longitude = .ok d ∧
      PyFloatOps.lt radius d = true

/-- Two isolated events of the list, with different ids. -/
def DistantPair (radius : F) (events : List (CandidateEvent F D)) (e e' : CandidateEvent F D) :
    Prop :=
  ∃ i j, events[i]? = some e ∧ events[j]? = some e' ∧ e.eventId ≠ e'.eventId ∧
    Isolated radius events i ∧ Isolated radius events j

/-- No track has the observations of two isolated events. -/
def KeepsDistantApart (g : SpatialEntityGraph F D) (events : List (CandidateEvent F D)) : Prop :=
  ∀ e e', DistantPair g.associateRadiusM events e e' → ∀ k t, g.tracks.get k = some t →
    ¬ (e.eventId ∈ t.observationIds ∧ e'.eventId ∈ t.observationIds)

/-! ## The events of a payload -/

theorem sentinelDetection_ok {det : Fields F} {scanId areaId : String} {timestamp : D}
    {chip : Json F} {event : CandidateEvent F D}
    (h : sentinelDetectionToCandidateEvent det scanId timestamp chip areaId = .ok event) :
    event.eventType = darkVessel ∧ event.eventId = ((getOrNone det "detection_id").orElse
      (.str ("EVT-SAR-SG-" ++ scanId ++ "-" ++
        ((Assoc.get det "index").getD (.int 0)).pyStr))).pyStr := by
  unfold sentinelDetectionToCandidateEvent at h
  split at h
  · cases h
  -- the steps that may raise, in the order of the source
  cases hpos : latLng det with
  | error e =>
    rw [hpos] at h
    cases h
  | ok pos =>
    rw [hpos] at h
    simp only [bind, Except.bind] at h
    repeat' split at h
    all_goals cases h
    all_goals exact ⟨rfl, rfl⟩

theorem detectionEvents_eventType {scanId : String} {timestamp : D} {chip : Json F}
    {detections : List (Json F)} {events : List (CandidateEvent F D)}
    (h : detectionEvents scanId timestamp chip detections = .ok events) :
    ∀ event ∈ events, event.eventType = darkVessel := by
  induction detections generalizing events with
  | nil =>
    cases h
    intro event hmem
    cases hmem
  | cons raw rest ih =>
    cases raw with
    | obj det =>
      simp only [detectionEvents] at h
      split at h
      · exact ih h
      · cases hevent : sentinelDetectionToCandidateEvent det scanId timestamp chip
            "singapore_strait" with
        | error e =>
          rw [hevent] at h
          cases h
        | ok event =>
          cases hrest : detectionEvents scanId timestamp chip rest with
          | error e =>
            rw [hevent, hrest] at h
            cases h
          | ok tail =>
            rw [hevent, hrest] at h
            cases h
            intro e hmem
            rcases List.mem_cons.mp hmem with rfl | hmem
            · exact (sentinelDetection_ok hevent).1
            · exact ih hrest e hmem
    | _ => exact ih h

variable [PyDateTime D]

theorem runCv_eventType {now : D} {payload : Fields F} {scanId evidenceUri : Option String}
    {events : List (CandidateEvent F D)}
    (h : sentinelRunCvToCandidateEvents now payload scanId evidenceUri = .ok events) :
    ∀ event ∈ events, event.eventType = darkVessel := by
  unfold sentinelRunCvToCandidateEvents at h
  split at h
  · dsimp only at h
    cases hts : parseTimestamp now (getOrNone payload "timestamp") with
    | error e =>
      rw [hts] at h
      cases h
    | ok ts =>
      rw [hts] at h
      simp only [bind, Except.bind] at h
      split at h
      · cases h
      · rename_i found hfound
        obtain rfl := Except.ok.inj h
        intro event hmem
        obtain ⟨e, he, rfl⟩ := List.mem_map.mp hmem
        exact detectionEvents_eventType hfound e he
  · cases h

end

/-! ## Into one track -/

section

variable {F D : Type} [PyMathOps F] [PyDateTime D] [Sha256]

/-- The graph has one track, that of the dark vessels, with these observations. -/
structure OneTrack (g : SpatialEntityGraph F D) (ids : List String) : Prop where
  radius : g.associateRadiusM = 2000.0
  only : ∀ k, k ≠ darkVessel → g.tracks.get k = none
  track : ∃ t, g.tracks.get darkVessel = some t ∧ t.observationIds = ids

theorem candidateEvent_preferredId {event : CandidateEvent F D} (h : event.eventType = darkVessel) :
    (candidateEventToObservation event).preferredId = darkVessel := by
  unfold candidateEventToObservation
  rw [Observation.preferredId_ensureDigest]
  simp [Observation.preferredId, h, darkVessel]

@[simp] theorem candidateEvent_observationId (event : CandidateEvent F D) :
    (candidateEventToObservation event).observationId = event.eventId := by
  unfold candidateEventToObservation
  rw [Observation.observationId_ensureDigest]

theorem oneTrack_first {event : CandidateEvent F D} (h : event.eventType = darkVessel) :
    ∃ id g, SpatialEntityGraph.ingest (candidateEventToObservation event)
        (SpatialEntityGraph.empty : SpatialEntityGraph F D) = (.ok id, g) ∧
      OneTrack g [event.eventId] := by
  refine ⟨_, _, SpatialEntityGraph.ingest_first rfl _, rfl, ?_, ?_⟩
  · intro k hk
    simp only [Dict.get_set, candidateEvent_preferredId h, if_neg (Ne.symm hk)]
    rfl
  · refine ⟨Track.ofObservation (candidateEventToObservation event).ensureDigest, ?_, ?_⟩
    · simp only [Dict.get_set, candidateEvent_preferredId h, if_true]
    · simp [Track.ofObservation]

theorem oneTrack_next {g : SpatialEntityGraph F D} {ids : List String} (hg : OneTrack g ids)
    {event : CandidateEvent F D} (h : event.eventType = darkVessel) :
    ∃ id g', SpatialEntityGraph.ingest (candidateEventToObservation event) g = (.ok id, g') ∧
      OneTrack g' (ids ++ [event.eventId]) := by
  obtain ⟨t, hget, hids⟩ := hg.track
  rw [← candidateEvent_preferredId h] at hget
  refine ⟨_, _, SpatialEntityGraph.ingest_preferred hget, hg.radius, ?_, ?_⟩
  · intro k hk
    simp only [Dict.get_set, candidateEvent_preferredId h, if_neg (Ne.symm hk)]
    exact hg.only k hk
  · refine ⟨t.absorb (candidateEventToObservation event).ensureDigest, ?_, ?_⟩
    · simp only [Dict.get_set, candidateEvent_preferredId h, if_true]
    · simp [hids]

/-- Every further event is put into the track. -/
theorem oneTrack_events {g : SpatialEntityGraph F D} {ids : List String} (hg : OneTrack g ids)
    {events : List (CandidateEvent F D)} (h : ∀ event ∈ events, event.eventType = darkVessel) :
    ∃ g', ingestCandidateEvents events g = (.ok (), g') ∧
      OneTrack g' (ids ++ events.map CandidateEvent.eventId) := by
  induction events generalizing g ids with
  | nil => exact ⟨g, rfl, by simpa using hg⟩
  | cons event events ih =>
    obtain ⟨id, g₁, hrun, hg₁⟩ := oneTrack_next hg (h event List.mem_cons_self)
    obtain ⟨g', hrest, hg'⟩ := ih hg₁ fun e hmem => h e (List.mem_cons_of_mem _ hmem)
    refine ⟨g', ?_, by simpa using hg'⟩
    have hstep : (SpatialEntityGraph.ingest (candidateEventToObservation event) >>= fun _ =>
        (pure () : Handler Exc (SpatialEntityGraph F D) Unit)) g = (.ok (), g₁) :=
      Handler.bind_ok hrun
    exact (Handler.bind_ok hstep).trans hrest

/-- The detections of an accepted payload can be ingested, and all are in one track then. -/
theorem ingest_runCv {now : D} {payload : Fields F} {scanId evidenceUri : Option String}
    {events : List (CandidateEvent F D)}
    (h : sentinelRunCvToCandidateEvents now payload scanId evidenceUri = .ok events) :
    ∃ g, ingestCandidateEvents events SpatialEntityGraph.empty = (.ok (), g) ∧
      (events = [] ∨ OneTrack g (events.map CandidateEvent.eventId)) := by
  have htype := runCv_eventType h
  cases events with
  | nil => exact ⟨_, rfl, Or.inl rfl⟩
  | cons event events =>
    obtain ⟨id, g₁, hrun, hg₁⟩ := oneTrack_first (htype event List.mem_cons_self)
    obtain ⟨g, hrest, hg⟩ := oneTrack_events hg₁ fun e hmem => htype e (List.mem_cons_of_mem _ hmem)
    have hstep : (SpatialEntityGraph.ingest (candidateEventToObservation event) >>= fun _ =>
        (pure () : Handler Exc (SpatialEntityGraph F D) Unit)) SpatialEntityGraph.empty =
        (.ok (), g₁) := Handler.bind_ok hrun
    exact ⟨g, (Handler.bind_ok hstep).trans hrest, Or.inr hg⟩

omit [Sha256] [PyDateTime D] in
/-- The track has both events of every pair. -/
theorem OneTrack.merges {g : SpatialEntityGraph F D} {events : List (CandidateEvent F D)}
    (hg : OneTrack g (events.map CandidateEvent.eventId)) {e e' : CandidateEvent F D}
    (hpair : DistantPair (2000.0 : F) events e e') : ¬ KeepsDistantApart g events := by
  intro hapart
  obtain ⟨t, hget, hids⟩ := hg.track
  rw [← hg.radius] at hpair
  refine hapart e e' hpair darkVessel t hget ?_
  obtain ⟨i, j, hi, hj, -⟩ := hpair
  rw [hids]
  exact ⟨List.mem_map_of_mem (List.mem_of_getElem? hi),
    List.mem_map_of_mem (List.mem_of_getElem? hj)⟩

/-- The detections of every accepted payload can be ingested, and isolated ones are kept apart
exactly when there are no two of them. -/
theorem distant_vessels_merged (now : D) (payload : Fields F) (scanId evidenceUri : Option String)
    {events : List (CandidateEvent F D)}
    (h : sentinelRunCvToCandidateEvents now payload scanId evidenceUri = .ok events) :
    ∃ g, ingestCandidateEvents events SpatialEntityGraph.empty = (.ok (), g) ∧
      (KeepsDistantApart g events ↔ ¬ ∃ e e', DistantPair (2000.0 : F) events e e') := by
  obtain ⟨g, hrun, hg⟩ := ingest_runCv h
  refine ⟨g, hrun, ?_⟩
  rcases hg with rfl | hg
  · cases hrun
    constructor
    · rintro - ⟨e, e', i, j, hi, -⟩
      cases hi
    · rintro - e e' ⟨i, j, hi, -⟩
      cases hi
  · constructor
    · rintro hapart ⟨e, e', hpair⟩
      exact hg.merges hpair hapart
    · intro hnone e e' hpair
      rw [hg.radius] at hpair
      exact absurd ⟨e, e', hpair⟩ hnone

end

/-! ## Two vessels -/

/-- A detection of a payload. -/
def detection (id : String) (lng : Int) : Json Whole :=
  .obj [("correlation_status", .str "uncorrelated"), ("detection_id", .str id), ("lat", .int 1),
    ("lng", .int lng)]

/-- Its event, in a payload with two of them. -/
def vessel (id : String) (lng : Int) : CandidateEvent Whole Instant :=
  { eventId := id
    timestamp := ⟨0⟩
    sourceId := "SENTINEL_IMAGERY_ANALYSIS"
    areaId := "singapore_strait"
    eventType := darkVessel
    confidence := .num 0
    latitude := .num 1
    longitude := .num lng
    boundingBox := none
    attributes := [("ais_absent", .bool true), ("ais_correlation", .str "NONE"),
      ("ingress", .str "sentinel_imagery"), ("correlation_status", .str "uncorrelated"),
      ("scan_id", .str "scan"), ("detection_index", .int 0),
      ("evidence_image_uri", .str "tests/fixtures/sentinel_chip.jpg"),
      ("vessel_count_est", .int 2)] }

/-- Two detections a third of the globe apart. -/
def twoDetections : Fields Whole :=
  [("detections", .arr [detection "a" 0, detection "b" 120])]

theorem runCv_twoDetections :
    sentinelRunCvToCandidateEvents (⟨0⟩ : Instant) twoDetections none none =
      .ok [vessel "a" 0, vessel "b" 120] := rfl

theorem distantPair_two :
    DistantPair (2000.0 : Whole) [vessel "a" 0, vessel "b" 120] (vessel "a" 0)
      (vessel "b" 120) := by
  refine ⟨0, 1, rfl, rfl, by decide, ?_, ?_⟩
  · rintro (_ | _ | j) hj e e' he he'
    · exact absurd rfl hj
    · cases he
      cases he'
      exact ⟨.num 12742000, rfl, rfl⟩
    · cases he'
  · rintro (_ | _ | j) hj e e' he he'
    · cases he
      cases he'
      exact ⟨.num 12742000, rfl, rfl⟩
    · exact absurd rfl hj
    · cases he'

theorem distant_vessels_merged_two :
    letI := plainHash
    ∃ events, sentinelRunCvToCandidateEvents (⟨0⟩ : Instant) twoDetections none none = .ok events ∧
      ∃ g, ingestCandidateEvents events SpatialEntityGraph.empty = (.ok (), g) ∧
        (KeepsDistantApart g events ↔ ¬ ∃ e e', DistantPair (2000.0 : Whole) events e e') := by
  let := plainHash
  exact ⟨_, runCv_twoDetections, distant_vessels_merged _ _ _ _ runCv_twoDetections⟩

/-- Not every payload keeps its isolated detections apart. -/
theorem not_distant_vessels_apart :
    letI := plainHash
    ¬ ∀ (now : Instant) (payload : Fields Whole) (scanId evidenceUri : Option String)
        (events : List (CandidateEvent Whole Instant)) (g : SpatialEntityGraph Whole Instant),
        sentinelRunCvToCandidateEvents now payload scanId evidenceUri = .ok events →
        ingestCandidateEvents events SpatialEntityGraph.empty = (.ok (), g) →
        KeepsDistantApart g events := by
  let := plainHash
  intro h
  obtain ⟨g, hrun, hnil | hg⟩ := ingest_runCv runCv_twoDetections
  · cases hnil
  · exact hg.merges distantPair_two (h _ _ _ _ _ _ runCv_twoDetections hrun)

end NexusC2

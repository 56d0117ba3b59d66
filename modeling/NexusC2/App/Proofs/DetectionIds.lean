import NexusC2.App.Proofs.DeclaredVessels
import NexusC2.App.Proofs.PictureRestart

/-!
# Ids of detections

The event of a detection has the id of the detection, or one made of the scan and the index where
there is none. A missing index counts as 0, so two detections without both get one id, and the later
event takes the row of the earlier one.
-/

namespace NexusC2

section

variable {F D : Type} [PyFloatOps F]

/-- The text of the id of a detection, where it has one. -/
def explicitId (det : Fields F) : Option String :=
  if (getOrNone det "detection_id").truth then some (getOrNone det "detection_id").pyStr else none

/-- The text of the index of a detection, where a missing one is 0. -/
def indexText (det : Fields F) : String := ((Assoc.get det "index").getD (.int 0)).pyStr

/-- The id a scan has for an index. -/
def scanIndexId (scanId index : String) : String := "EVT-SAR-SG-" ++ scanId ++ "-" ++ index

/-- The detections are told apart: two ids or two indices by their texts, and an id that is given
from the one that the scan makes of the index of the other detection. -/
def ToldApart (scanId : String) (det det' : Fields F) : Prop :=
  match explicitId det, explicitId det' with
  | some id, some id' => id ≠ id'
  | none, none => indexText det ≠ indexText det'
  | some id, none => id ≠ scanIndexId scanId (indexText det')
  | none, some id' => id' ≠ scanIndexId scanId (indexText det)

/-- The id of the event of a detection. -/
def detectionId (scanId : String) (det : Fields F) : String :=
  (explicitId det).getD (scanIndexId scanId (indexText det))

theorem scanIndexId_inj {scanId index index' : String} :
    scanIndexId scanId index = scanIndexId scanId index' ↔ index = index' := by
  unfold scanIndexId
  simp [String.ext_iff]

theorem detectionId_ne_iff {scanId : String} {det det' : Fields F} :
    detectionId scanId det ≠ detectionId scanId det' ↔ ToldApart scanId det det' := by
  unfold detectionId ToldApart
  cases explicitId det with
  | some id =>
    cases explicitId det' with
    | some id' => rfl
    | none => rfl
  | none =>
    cases explicitId det' with
    | some id' => exact ne_comm
    | none => exact not_congr scanIndexId_inj

instance (scanId : String) (det det' : Fields F) : Decidable (ToldApart scanId det det') :=
  decidable_of_iff _ detectionId_ne_iff

theorem sentinelDetection_eventId {det : Fields F} {scanId areaId : String} {timestamp : D}
    {chip : Json F} {event : CandidateEvent F D}
    (h : sentinelDetectionToCandidateEvent det scanId timestamp chip areaId = .ok event) :
    event.eventId = detectionId scanId det := by
  have hid : detectionId scanId det = ((getOrNone det "detection_id").orElse
      (.str (scanIndexId scanId (indexText det)))).pyStr := by
    unfold detectionId explicitId Json.orElse
    split <;> rfl
  rw [hid]
  exact (sentinelDetection_ok h).2

variable [PyDateTime D]

/-- The ids of the events of a payload are those of its uncorrelated detections. -/
theorem runCv_eventIds {now : D} {payload : Fields F} {scanId evidenceUri : Option String}
    {events : List (CandidateEvent F D)}
    (h : sentinelRunCvToCandidateEvents now payload scanId evidenceUri = .ok events) :
    ∃ detections, payloadDetections payload = some detections ∧
      events.map CandidateEvent.eventId =
        (darkDetections detections).map (detectionId (resolvedScan payload scanId)) := by
  rw [runCv_eq] at h
  cases hdets : payloadDetections payload with
  | none =>
    rw [hdets] at h
    cases h
  | some detections =>
    rw [hdets] at h
    obtain ⟨ts, -, h⟩ := except_bind_eq_ok.mp h
    obtain ⟨mapped, hmapped, h⟩ := except_bind_eq_ok.mp h
    cases h
    refine ⟨detections, rfl, ?_⟩
    rw [List.map_map]
    change mapped.map CandidateEvent.eventId = _
    rw [← List.forall₂_eq_eq_eq, List.forall₂_map_left_iff, List.forall₂_map_right_iff]
    exact ((except_mapM_eq_ok.mp hmapped).imp fun det event hevent =>
      sentinelDetection_eventId hevent).flip

end

/-! ## Rows of the table -/

section

variable {F D : Type} [PyMathOps F] [PyDateTime D] [Sha256]

/-- The store after an observation of each event is upserted. -/
def upsertEvents (s : RuntimeStore F) (events : List (CandidateEvent F D)) : RuntimeStore F :=
  (rows (events.map candidateEventToObservation)).foldl RuntimeStore.upsertObservation s

omit [PyMathOps F] [PyDateTime D] [Sha256] in
theorem upserts_entries {s : RuntimeStore F} (hconnected : s.connected = true)
    (written : List (String × Json F)) :
    (written.foldl RuntimeStore.upsertObservation s).working.observations.entries =
      Assoc.setAll s.working.observations.entries written := by
  induction written generalizing s with
  | nil => rfl
  | cons row written ih =>
    have hstep : s.upsertObservation row =
        ⟨true, { s.working with observations := s.working.observations.set row.1 row.2 },
          { s.working with observations := s.working.observations.set row.1 row.2 }⟩ := by
      simp [RuntimeStore.upsertObservation, RuntimeStore.write, hconnected]
    rw [List.foldl_cons, ih (by rw [hstep]), hstep]
    change Assoc.setAll (s.working.observations.set row.1 row.2).entries written = _
    rw [Dict.entries_set]
    rfl

/-- In an empty table each event has its own row exactly when no two have one id. -/
theorem one_row_each_iff {s : RuntimeStore F} (hconnected : s.connected = true)
    (hempty : s.working.observations.entries = []) (events : List (CandidateEvent F D)) :
    (upsertEvents s events).working.observations.entries.length = events.length ↔
      (events.map CandidateEvent.eventId).Nodup := by
  have hkeys : Assoc.keys (rows (events.map candidateEventToObservation)) =
      events.map CandidateEvent.eventId := by
    rw [keys_rows, ids, List.map_map]
    exact List.map_congr_left fun event _ => candidateEvent_observationId event
  have hlength : (rows (events.map candidateEventToObservation)).length = events.length := by
    simp [rows]
  have hiff := Assoc.length_setAll_eq_iff (d := []) (by simp [Assoc.keys])
    (rows (events.map candidateEventToObservation))
  rw [List.nil_append, hkeys, hlength, List.length_nil, Nat.zero_add] at hiff
  rw [upsertEvents, upserts_entries hconnected, hempty]
  exact hiff

/-- The events of an accepted payload have distinct ids, and each its own row in an empty table,
exactly when its uncorrelated detections are told apart two by two. -/
theorem detection_ids_distinct_iff {now : D} {payload : Fields F}
    {scanId evidenceUri : Option String} {events : List (CandidateEvent F D)}
    (h : sentinelRunCvToCandidateEvents now payload scanId evidenceUri = .ok events) :
    ((events.map CandidateEvent.eventId).Nodup ∧
      ∀ s : RuntimeStore F, s.connected = true → s.working.observations.entries = [] →
        (upsertEvents s events).working.observations.entries.length = events.length) ↔
    ∀ detections, payloadDetections payload = some detections →
      (darkDetections detections).Pairwise (ToldApart (resolvedScan payload scanId)) := by
  obtain ⟨detections, hdets, hids⟩ := runCv_eventIds h
  have hnodup : (events.map CandidateEvent.eventId).Nodup ↔
      (darkDetections detections).Pairwise (ToldApart (resolvedScan payload scanId)) := by
    rw [hids, List.Nodup, List.pairwise_map]
    exact List.Pairwise.iff fun _ _ => detectionId_ne_iff
  constructor
  · rintro ⟨hdistinct, -⟩ found hfound
    obtain rfl := Option.some.inj (hdets.symm.trans hfound)
    exact hnodup.mp hdistinct
  · intro hall
    have hdistinct := hnodup.mpr (hall detections hdets)
    exact ⟨hdistinct, fun s hconnected hempty =>
      (one_row_each_iff hconnected hempty events).mpr hdistinct⟩

end

/-! ## Two detections without id and index -/

theorem detection_ids_distinct_two :
    letI := plainHash
    ([vessel "a" 0, vessel "b" 120].map CandidateEvent.eventId).Nodup ∧
      ∀ s : RuntimeStore Whole, s.connected = true → s.working.observations.entries = [] →
        (upsertEvents s [vessel "a" 0, vessel "b" 120]).working.observations.entries.length =
          2 := by
  let := plainHash
  apply (detection_ids_distinct_iff runCv_twoDetections).mpr
  intro detections hdets
  cases hdets
  decide

/-- What two detections give of themselves differs: the id, where both have one, and the index. -/
def ExplicitsDiffer {F : Type} [PyFloatOps F] (det det' : Fields F) : Prop :=
  (∀ id, explicitId det = some id → explicitId det' ≠ some id) ∧
    ∀ index, Assoc.get det "index" = some index → Assoc.get det' "index" ≠ some index

/-- A detection that has a place only. -/
def bareDetection (lng : Int) : Json Whole :=
  .obj [("correlation_status", .str "uncorrelated"), ("lat", .int 1), ("lng", .int lng)]

/-- Two detections a third of the globe apart, neither with an id or an index. -/
def bareDetections : Fields Whole := [("detections", .arr [bareDetection 0, bareDetection 120])]

/-- Neither detection has an id or an index, both events are `EVT-SAR-SG-scan-0`, and one row is
left. -/
theorem bare_detections_share_row :
    letI := plainHash
    ∃ events : List (CandidateEvent Whole Instant),
      sentinelRunCvToCandidateEvents ⟨0⟩ bareDetections none none = .ok events ∧
      (darkDetections [bareDetection 0, bareDetection 120]).Pairwise ExplicitsDiffer ∧
      events.map CandidateEvent.eventId = ["EVT-SAR-SG-scan-0", "EVT-SAR-SG-scan-0"] ∧
      (upsertEvents ⟨true, Tables.empty, Tables.empty⟩ events).working.observations.entries.length
        = 1 := by
  let := plainHash
  refine ⟨_, rfl, ?_, rfl, ?_⟩
  · have hdark : darkDetections [bareDetection 0, bareDetection 120] =
        [[("correlation_status", .str "uncorrelated"), ("lat", .int 1), ("lng", .int 0)],
          [("correlation_status", .str "uncorrelated"), ("lat", .int 1), ("lng", .int 120)]] :=
      rfl
    rw [hdark]
    simp [ExplicitsDiffer, explicitId, getOrNone, Assoc.get_cons, Json.truth]
  · rfl

end NexusC2

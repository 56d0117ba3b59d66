import NexusC2.App.Proofs.DarkVessels
import NexusC2.Misc.Handler

/-!
# Declared vessels stay out

Of the detections of a `run_cv` payload only the objects are read whose correlation status says
`uncorrelated`. What the other ones hold, however malformed, changes neither the events nor the
error, and there is one event for each that is read.
-/

namespace NexusC2

section

variable {F D : Type} [PyFloatOps F]

/-- The detection, where it is an object that no AIS contact is correlated with. -/
def darkDetection? : Json F → Option (Fields F)
  | .obj det => if correlationStatus det = "uncorrelated" then some det else none
  | _ => none

/-- The uncorrelated detections of a payload, in order. -/
def darkDetections (detections : List (Json F)) : List (Fields F) :=
  detections.filterMap darkDetection?

/-- The scan id the events of a payload get. -/
def resolvedScan (payload : Fields F) (scanId : Option String) : String :=
  (((Json.ofOption scanId).orElse (getOrNone payload "scan_id")).orElse
    ((getOrNone payload "folder_name").orElse (.str "scan"))).pyStr

/-- The evidence uri of the payload. -/
def resolvedChip (payload : Fields F) (evidenceUri : Option String) : Json F :=
  ((Json.ofOption evidenceUri).orElse (getOrNone payload "evidence_image_uri")).orElse
    (.str "tests/fixtures/sentinel_chip.jpg")

/-- The event of each detection, or the first error. -/
theorem detectionEvents_eq (scanId : String) (timestamp : D) (chip : Json F)
    (detections : List (Json F)) :
    detectionEvents scanId timestamp chip detections =
      (darkDetections detections).mapM fun det =>
        sentinelDetectionToCandidateEvent det scanId timestamp chip "singapore_strait" := by
  induction detections with
  | nil => rfl
  | cons raw rest ih =>
    cases raw with
    | obj det =>
      by_cases hdark : correlationStatus det = "uncorrelated"
      · have hcons : darkDetections (.obj det :: rest) = det :: darkDetections rest := by
          simp [darkDetections, darkDetection?, hdark]
        rw [hcons, List.mapM_cons, ← ih, detectionEvents, if_neg (not_not.mpr hdark)]
        rfl
      · have hskip : darkDetections (.obj det :: rest) = darkDetections rest := by
          simp [darkDetections, darkDetection?, hdark]
        rw [hskip, ← ih, detectionEvents, if_pos hdark]
    | _ => exact ih

/-- The detections of a payload, where it has a list of them. -/
def payloadDetections (payload : Fields F) : Option (List (Json F)) :=
  match Assoc.get payload "detections" with
  | some (.arr detections) => some detections
  | _ => none

/-- An event with the number of events of its payload. -/
def CandidateEvent.withCount (event : CandidateEvent F D) (count : Nat) : CandidateEvent F D :=
  { event with attributes := Assoc.set event.attributes "vessel_count_est" (.int count) }

/-- The result of a payload is made of its scan, its time, its chip and its uncorrelated
detections. -/
theorem runCv_eq [PyDateTime D] (now : D) (payload : Fields F)
    (scanId evidenceUri : Option String) :
    sentinelRunCvToCandidateEvents now payload scanId evidenceUri =
      match (payloadDetections payload).map darkDetections with
      | none => .error (.valueError "run_cv payload requires detections[] list")
      | some dets => (do
        let ts ← parseTimestamp now (getOrNone payload "timestamp")
        let events ← dets.mapM fun det =>
          sentinelDetectionToCandidateEvent det (resolvedScan payload scanId) ts
            (resolvedChip payload evidenceUri) "singapore_strait"
        .ok (events.map fun event => event.withCount events.length)) := by
  unfold sentinelRunCvToCandidateEvents payloadDetections
  cases Assoc.get payload "detections" with
  | none => rfl
  | some v =>
    cases v with
    | arr detections =>
      simp only [detectionEvents_eq]
      rfl
    | _ => rfl

/-- The payloads agree on scan id, time and evidence uri, and have the same uncorrelated
detections. -/
structure SameDarkPicture [PyDateTime D] (now now' : D) (payload payload' : Fields F)
    (scanId scanId' evidenceUri evidenceUri' : Option String) : Prop where
  scan : resolvedScan payload scanId = resolvedScan payload' scanId'
  time : parseTimestamp now (getOrNone payload "timestamp") =
    parseTimestamp now' (getOrNone payload' "timestamp")
  chip : resolvedChip payload evidenceUri = resolvedChip payload' evidenceUri'
  dark : (payloadDetections payload).map darkDetections =
    (payloadDetections payload').map darkDetections

/-- What the other detections hold makes no difference. And the events are those of the
uncorrelated detections, one for each and in order, with their number. -/
theorem declared_vessels_ignored [PyDateTime D] {now now' : D} {payload payload' : Fields F}
    {scanId scanId' evidenceUri evidenceUri' : Option String}
    (h : SameDarkPicture now now' payload payload' scanId scanId' evidenceUri evidenceUri') :
    sentinelRunCvToCandidateEvents now payload scanId evidenceUri =
      sentinelRunCvToCandidateEvents now' payload' scanId' evidenceUri' ∧
    ∀ events, sentinelRunCvToCandidateEvents now payload scanId evidenceUri = .ok events →
      ∃ detections ts, payloadDetections payload = some detections ∧
        parseTimestamp now (getOrNone payload "timestamp") = .ok ts ∧
        List.Forall₂ (fun det event => ∃ mapped,
          sentinelDetectionToCandidateEvent det (resolvedScan payload scanId) ts
            (resolvedChip payload evidenceUri) "singapore_strait" = .ok mapped ∧
          event = mapped.withCount (darkDetections detections).length)
          (darkDetections detections) events ∧
        ∀ event ∈ events, Assoc.get event.attributes "vessel_count_est" =
          some (.int (darkDetections detections).length) := by
  constructor
  · rw [runCv_eq, runCv_eq, h.scan, h.time, h.chip, h.dark]
  · intro events hrun
    rw [runCv_eq] at hrun
    cases hdets : payloadDetections payload with
    | none =>
      rw [hdets] at hrun
      cases hrun
    | some detections =>
      rw [hdets] at hrun
      obtain ⟨ts, hts, hrun⟩ := except_bind_eq_ok.mp hrun
      obtain ⟨mapped, hmapped, hrun⟩ := except_bind_eq_ok.mp hrun
      have hall := except_mapM_eq_ok.mp hmapped
      have hlength : mapped.length = (darkDetections detections).length := hall.length_eq.symm
      cases hrun
      rw [hlength]
      refine ⟨detections, ts, rfl, hts, ?_, ?_⟩
      · rw [List.forall₂_map_right_iff]
        exact hall.imp fun det event hevent => ⟨event, hevent, rfl⟩
      · intro event hmem
        obtain ⟨e, -, rfl⟩ := List.mem_map.mp hmem
        show Assoc.get (Assoc.set e.attributes _ _) _ = _
        rw [Assoc.get_set, if_pos rfl]

end

/-- A payload of two uncorrelated detections with others around them: one that an AIS contact is
correlated with and whose position is no number, one whose status is missing, and no object. -/
def crowdedDetections : Fields Whole :=
  [("detections", .arr [.obj [("correlation_status", .str "correlated"), ("lat", .str "north")],
    detection "a" 0, .obj [("lat", .null)], .str "x", detection "b" 120])]

theorem declared_vessels_ignored_crowded :
    sentinelRunCvToCandidateEvents (⟨0⟩ : Instant) crowdedDetections none none =
        sentinelRunCvToCandidateEvents (⟨0⟩ : Instant) twoDetections none none ∧
      sentinelRunCvToCandidateEvents (⟨0⟩ : Instant) crowdedDetections none none =
        .ok [vessel "a" 0, vessel "b" 120] := by
  have hsame : SameDarkPicture (⟨0⟩ : Instant) ⟨0⟩ crowdedDetections twoDetections none none none
      none := ⟨rfl, rfl, rfl, rfl⟩
  exact ⟨(declared_vessels_ignored hsame).1,
    (declared_vessels_ignored hsame).1.trans runCv_twoDetections⟩

end NexusC2

import NexusC2.App.DualSar
import NexusC2.Misc.LastMaximal

/-!
# Corroboration keeps the micro detections

`corroborate` answers each micro detection with one event, which stays where the detection is. The
macro it is joined with is the first of the nearest among those that align with it.
-/

namespace NexusC2

namespace DualSar

section

variable {F D : Type} [PyFloatOps F] (haversine : F → F → F → F → F) (maxAlignM : F)

/-! ## The nearest macro -/

/-- The macro is the first of the nearest among those that align with the micro. -/
def Nearest (macros : List (CandidateEvent F D)) (micro macroEvent : CandidateEvent F D) : Prop :=
  FirstUnbeaten (fun best next => PyFloatOps.lt (distance haversine micro next)
      (distance haversine micro best) = true)
    (macros.filter fun other => sectorAligns haversine maxAlignM other micro) macroEvent

variable {haversine maxAlignM} {macros : List (CandidateEvent F D)}
  {micro macroEvent : CandidateEvent F D}

theorem Nearest.mem (h : Nearest haversine maxAlignM macros micro macroEvent) :
    macroEvent ∈ macros := List.mem_of_mem_filter (FirstUnbeaten.mem h)

theorem Nearest.aligns (h : Nearest haversine maxAlignM macros micro macroEvent) :
    sectorAligns haversine maxAlignM macroEvent micro = true :=
  (List.mem_filter.mp (FirstUnbeaten.mem h)).2

/-- No macro that aligns is nearer. -/
theorem Nearest.le [PyFloatLinear F]
    (hfinite : ∀ a b c d, PyFloatOps.isFinite (haversine a b c d) = true)
    (h : Nearest haversine maxAlignM macros micro macroEvent) {other : CandidateEvent F D}
    (hother : other ∈ macros) (haligns : sectorAligns haversine maxAlignM other micro = true) :
    PyFloatOps.le (distance haversine micro macroEvent) (distance haversine micro other) =
      true := by
  have hmem : other ∈ macros.filter fun other => sectorAligns haversine maxAlignM other micro :=
    List.mem_filter.mpr ⟨hother, haligns⟩
  have htotal := PyFloatOrder.le_total (distance haversine micro macroEvent)
    (distance haversine micro other) (hfinite _ _ _ _) (hfinite _ _ _ _)
  obtain ⟨init, rest, heq, hinit, hrest⟩ := h
  rw [heq] at hmem
  rcases List.mem_append.mp hmem with hmem | hmem
  · apply htotal.resolve_right
    intro hle
    exact (PyFloatLinear.not_lt_iff (hfinite _ _ _ _) (hfinite _ _ _ _)).mpr hle
      (hinit other hmem)
  rcases List.mem_cons.mp hmem with rfl | hmem
  · exact htotal.elim id id
  · exact (PyFloatLinear.not_lt_iff (hfinite _ _ _ _) (hfinite _ _ _ _)).mp (hrest other hmem)

/-- Whatever the distances are, the macro is one that aligns. -/
theorem nearestMacro_mem (h : nearestMacro haversine maxAlignM macros micro = some macroEvent) :
    macroEvent ∈ macros ∧ sectorAligns haversine maxAlignM macroEvent micro = true := by
  unfold nearestMacro at h
  cases hfilter : macros.filter fun other => sectorAligns haversine maxAlignM other micro with
  | nil => simp [hfilter] at h
  | cons first rest =>
    have hmem := foldl_betterOf_mem (r := fun best next : CandidateEvent F D =>
      PyFloatOps.lt (distance haversine micro next) (distance haversine micro best) = true)
      (l := rest) (x := first)
    simp only [hfilter, Option.some.injEq] at h
    rw [← hfilter] at hmem
    exact h ▸ List.mem_filter.mp hmem

theorem nearestMacro_eq_none_iff :
    nearestMacro haversine maxAlignM macros micro = none ↔
      ∀ other ∈ macros, sectorAligns haversine maxAlignM other micro = false := by
  unfold nearestMacro
  cases hfilter : macros.filter fun other => sectorAligns haversine maxAlignM other micro with
  | nil => simpa using List.filter_eq_nil_iff.mp hfilter
  | cons first rest =>
    have hmem : first ∈
        macros.filter fun other => sectorAligns haversine maxAlignM other micro := by
      simp [hfilter]
    obtain ⟨hfirst, haligns⟩ := List.mem_filter.mp hmem
    simp only [reduceCtorEq, false_iff, not_forall]
    exact ⟨first, hfirst, by simp [haligns]⟩

/-- `min` takes the first of the nearest. -/
theorem nearestMacro_eq_some_iff [PyFloatLinear F]
    (hfinite : ∀ a b c d, PyFloatOps.isFinite (haversine a b c d) = true) :
    nearestMacro haversine maxAlignM macros micro = some macroEvent ↔
      Nearest haversine maxAlignM macros micro macroEvent := by
  unfold nearestMacro Nearest
  cases hfilter : macros.filter fun other => sectorAligns haversine maxAlignM other micro with
  | nil =>
    simp only [reduceCtorEq, false_iff]
    intro h
    exact absurd h.mem (by simp)
  | cons first rest =>
    have hbest := firstUnbeaten_foldl (r := fun best next : CandidateEvent F D =>
      PyFloatOps.lt (distance haversine micro next) (distance haversine micro best) = true)
      (p := fun _ => True) (l := rest) (x := first)
      (fun a b c _ _ _ hab hbc =>
        PyFloatLinear.lt_trans (hfinite _ _ _ _) (hfinite _ _ _ _) (hfinite _ _ _ _) hbc hab)
      (fun a b c _ _ _ hab hbc =>
        PyFloatLinear.not_lt_trans (hfinite _ _ _ _) (hfinite _ _ _ _) (hfinite _ _ _ _) hbc hab)
      trivial (fun _ _ => trivial)
    constructor
    · intro h
      exact Option.some.inj h ▸ hbest
    · intro h
      exact congrArg some (hbest.unique h)

end

section

variable {F D : Type} [PyTextOps F] (haversine : F → F → F → F → F) (maxAlignM : F)

/-! ## The loop -/

/-- No macros at all are macros none of which aligns. -/
theorem corroborate_eq (macros micros : List (CandidateEvent F D)) :
    corroborate haversine maxAlignM macros micros =
      micros.mapM (corroborateOne haversine maxAlignM macros) := by
  unfold corroborate
  cases macros with
  | cons first rest => rfl
  | nil =>
    have hmap : micros.mapM (corroborateOne haversine maxAlignM []) =
        .ok (micros.map annotateSiaOnly) := by
      rw [except_mapM_eq_ok, List.forall₂_map_right_iff]
      exact List.forall₂_same.mpr fun micro _ => rfl
    rw [hmap]
    rfl

variable {haversine maxAlignM} {macros micros : List (CandidateEvent F D)}
  {macroEvent micro out : CandidateEvent F D}

theorem fusePair_eq_ok :
    fusePair macroEvent micro = .ok out ↔
      ∃ n, pyInt (vesselCount macroEvent micro) = .ok n ∧
        pairEvent macroEvent micro n = out := by
  rw [fusePair, except_bind_eq_ok]
  simp only [Except.ok.injEq]

theorem corroborateOne_of_none (h : nearestMacro haversine maxAlignM macros micro = none) :
    corroborateOne haversine maxAlignM macros micro = .ok (annotateSiaOnly micro) := by
  simp [corroborateOne, h]

theorem corroborateOne_of_some
    (h : nearestMacro haversine maxAlignM macros micro = some macroEvent) :
    corroborateOne haversine maxAlignM macros micro = fusePair macroEvent micro := by
  simp [corroborateOne, h]

/-- Neither the vessel count nor the area changes what is said of the pair. -/
theorem pairEvent_get (n : Int) {key : String} (hcount : key ≠ "vessel_count_est")
    (harea : key ≠ "area_id") :
    getOrNone (pairEvent macroEvent micro n).attributes key =
      getOrNone (Assoc.update micro.attributes (pairAttributes macroEvent micro)) key := by
  unfold getOrNone pairEvent
  by_cases hn : n = 0
  · simp only [hn, ne_eq, not_true_eq_false, if_false]
    split <;> simp [Ne.symm harea]
  · simp only [ne_eq, hn, not_false_eq_true, if_true]
    split <;> simp [Ne.symm harea, Ne.symm hcount]

theorem pairEvent_status (n : Int) :
    getOrNone (pairEvent macroEvent micro n).attributes "dual_sar_status" =
      .str statusCorroborated := by
  rw [pairEvent_get n (by decide) (by decide)]
  simp [getOrNone, Assoc.update, pairAttributes]

theorem pairEvent_macroEventId (n : Int) :
    getOrNone (pairEvent macroEvent micro n).attributes "macro_event_id" =
      .str macroEvent.eventId := by
  rw [pairEvent_get n (by decide) (by decide)]
  simp [getOrNone, Assoc.update, pairAttributes]

theorem annotateSiaOnly_status :
    getOrNone (annotateSiaOnly micro).attributes "dual_sar_status" = .str statusSiaOnly := by
  simp [getOrNone, annotateSiaOnly, Assoc.update]

/-! ## What an answer keeps -/

/-- The event that answers a micro detection stays where the detection is. It is corroborated by
one of the nearest macros that align, and where none does it is the detection alone. -/
structure KeepsDetection (haversine : F → F → F → F → F) (maxAlignM : F)
    (macros : List (CandidateEvent F D)) (micro out : CandidateEvent F D) : Prop where
  eventId : out.eventId = micro.eventId
  timestamp : out.timestamp = micro.timestamp
  eventType : out.eventType = micro.eventType
  location : (out.latitude, out.longitude) = (micro.latitude, micro.longitude)
  boundingBox : out.boundingBox = micro.boundingBox
  corroborated_iff : getOrNone out.attributes "dual_sar_status" = .str statusCorroborated ↔
    ∃ macroEvent ∈ macros, sectorAligns haversine maxAlignM macroEvent micro = true
  nearest : getOrNone out.attributes "dual_sar_status" = .str statusCorroborated →
    ∃ macroEvent ∈ macros, sectorAligns haversine maxAlignM macroEvent micro = true ∧
      getOrNone out.attributes "macro_event_id" = .str macroEvent.eventId ∧
      ∀ other ∈ macros, sectorAligns haversine maxAlignM other micro = true →
        PyFloatOps.le (distance haversine micro macroEvent) (distance haversine micro other) = true
  alone : getOrNone out.attributes "dual_sar_status" ≠ .str statusCorroborated →
    getOrNone out.attributes "dual_sar_status" = .str statusSiaOnly ∧
      out.confidence = micro.confidence ∧ out.sourceId = micro.sourceId

theorem annotateSiaOnly_keeps
    (h : nearestMacro haversine maxAlignM macros micro = none) :
    KeepsDetection haversine maxAlignM macros micro (annotateSiaOnly micro) := by
  have hnone := nearestMacro_eq_none_iff.mp h
  have hne : getOrNone (annotateSiaOnly micro).attributes "dual_sar_status" ≠
      .str statusCorroborated := by
    rw [annotateSiaOnly_status]
    simp [statusSiaOnly, statusCorroborated]
  refine ⟨rfl, rfl, rfl, rfl, rfl, ?_, fun hstatus => absurd hstatus hne,
    fun _ => ⟨annotateSiaOnly_status, rfl, rfl⟩⟩
  constructor
  · intro hstatus
    exact absurd hstatus hne
  · rintro ⟨other, hother, haligns⟩
    simp [hnone other hother] at haligns

theorem pairEvent_keeps [PyFloatLinear F]
    (hfinite : ∀ a b c d, PyFloatOps.isFinite (haversine a b c d) = true)
    (h : Nearest haversine maxAlignM macros micro macroEvent) (n : Int) :
    KeepsDetection haversine maxAlignM macros micro (pairEvent macroEvent micro n) := by
  refine ⟨rfl, rfl, rfl, rfl, rfl, ?_, fun _ => ?_, ?_⟩
  · simp only [pairEvent_status, true_iff]
    exact ⟨macroEvent, h.mem, h.aligns⟩
  · exact ⟨macroEvent, h.mem, h.aligns, pairEvent_macroEventId n,
      fun other hother haligns => h.le hfinite hother haligns⟩
  · intro hne
    exact absurd (pairEvent_status n) hne

theorem corroborateOne_keeps [PyFloatLinear F]
    (hfinite : ∀ a b c d, PyFloatOps.isFinite (haversine a b c d) = true)
    (h : corroborateOne haversine maxAlignM macros micro = .ok out) :
    KeepsDetection haversine maxAlignM macros micro out := by
  cases hnearest : nearestMacro haversine maxAlignM macros micro with
  | none =>
    rw [corroborateOne_of_none hnearest] at h
    cases h
    exact annotateSiaOnly_keeps hnearest
  | some macroEvent =>
    rw [corroborateOne_of_some hnearest] at h
    obtain ⟨n, -, rfl⟩ := fusePair_eq_ok.mp h
    exact pairEvent_keeps hfinite ((nearestMacro_eq_some_iff hfinite).mp hnearest) n

/-- A micro gets its answer where the vessel count of its pair can be read. -/
theorem corroborateOne_returns_iff [PyFloatLinear F]
    (hfinite : ∀ a b c d, PyFloatOps.isFinite (haversine a b c d) = true) :
    (∃ out, corroborateOne haversine maxAlignM macros micro = .ok out) ↔
      ∀ macroEvent, Nearest haversine maxAlignM macros micro macroEvent →
        ∃ n, pyInt (vesselCount macroEvent micro) = .ok n := by
  cases hnearest : nearestMacro haversine maxAlignM macros micro with
  | none =>
    rw [corroborateOne_of_none hnearest]
    have hnot : ∀ other, ¬ Nearest haversine maxAlignM macros micro other := by
      intro other hother
      rw [(nearestMacro_eq_some_iff hfinite).mpr hother] at hnearest
      cases hnearest
    exact ⟨fun _ other hother => absurd hother (hnot other), fun _ => ⟨_, rfl⟩⟩
  | some macroEvent =>
    rw [corroborateOne_of_some hnearest]
    constructor
    · rintro ⟨out, hout⟩ other hother
      obtain rfl := Option.some.inj
        (hnearest.symm.trans ((nearestMacro_eq_some_iff hfinite).mpr hother))
      obtain ⟨n, hn, -⟩ := fusePair_eq_ok.mp hout
      exact ⟨n, hn⟩
    · intro h
      obtain ⟨n, hn⟩ := h macroEvent ((nearestMacro_eq_some_iff hfinite).mp hnearest)
      exact ⟨_, fusePair_eq_ok.mpr ⟨n, hn, rfl⟩⟩

/-- `corroborate` answers every micro detection, in order, with an event that keeps it, exactly
where `int` reads the vessel count of each pair it forms. -/
theorem one_event_per_micro [PyFloatLinear F]
    (hfinite : ∀ a b c d, PyFloatOps.isFinite (haversine a b c d) = true)
    (macros micros : List (CandidateEvent F D)) :
    (∃ outs, corroborate haversine maxAlignM macros micros = .ok outs ∧
      List.Forall₂ (KeepsDetection haversine maxAlignM macros) micros outs) ↔
    ∀ micro ∈ micros, ∀ macroEvent, Nearest haversine maxAlignM macros micro macroEvent →
      ∃ n, pyInt (vesselCount macroEvent micro) = .ok n := by
  have hreturns : (∃ outs, corroborate haversine maxAlignM macros micros = .ok outs) ↔
      ∀ micro ∈ micros, ∀ macroEvent, Nearest haversine maxAlignM macros micro macroEvent →
        ∃ n, pyInt (vesselCount macroEvent micro) = .ok n := by
    simp only [corroborate_eq, except_mapM_returns_iff, corroborateOne_returns_iff hfinite]
  rw [← hreturns]
  constructor
  · rintro ⟨outs, houts, -⟩
    exact ⟨outs, houts⟩
  · rintro ⟨outs, houts⟩
    refine ⟨outs, houts, ?_⟩
    rw [corroborate_eq, except_mapM_eq_ok] at houts
    exact houts.imp fun micro out hout => corroborateOne_keeps hfinite hout

end

/-! ## A count that is no number -/

/-- The assumed GLINT event, with a confidence and a vessel count. -/
def glintCluster (confidence : Rat) (count : Json Rat) : CandidateEvent Rat Int where
  eventId := "evt_sar_20260918_001"
  timestamp := 0
  sourceId := "SPACE_SAR_SCENE_DIFF"
  areaId := "malacca_strait_sector_b"
  eventType := "UNANNOUNCED_DARK_VESSEL_CLUSTER"
  confidence := confidence
  latitude := 1.254
  longitude := 103.812
  boundingBox := some ⟨1.250, 1.258, 103.808, 103.816⟩
  attributes := [("vessel_count_est", count)]

/-- A detection in the sector of that event. -/
def darkVessel (confidence : Rat) : CandidateEvent Rat Int where
  eventId := "EVT-SAR-SG-scan-0"
  timestamp := 0
  sourceId := "SENTINEL_IMAGERY_ANALYSIS"
  areaId := "singapore_strait"
  eventType := "UNANNOUNCED_DARK_VESSEL"
  confidence := confidence
  latitude := 1.255
  longitude := 103.811
  boundingBox := none
  attributes := []

/-- The square of the distance on a plane, in degrees. -/
def degreesSquared (lat₁ lon₁ lat₂ lon₂ : Rat) : Rat :=
  (lat₂ - lat₁) * (lat₂ - lat₁) + (lon₂ - lon₁) * (lon₂ - lon₁)

/-- The detection lies in the box of the macro, whatever the confidences and the count are. -/
theorem glintCluster_aligns (p q : Rat) (count : Json Rat) :
    letI := exactText
    sectorAligns degreesSquared defaultAlignM (glintCluster p count) (darkVessel q) = true := by
  let := exactText
  have hinside : (glintCluster p count).boundingBox.any
      (pointInBbox (darkVessel q).latitude (darkVessel q).longitude) = true := by
    change pointInBbox (1.255 : Rat) 103.811 ⟨1.250, 1.258, 103.808, 103.816⟩ = true
    decide +kernel
  rw [sectorAligns, if_pos hinside]

theorem glintCluster_nearest (p q : Rat) (count : Json Rat) :
    letI := exactText
    nearestMacro degreesSquared defaultAlignM [glintCluster p count] (darkVessel q) =
      some (glintCluster p count) := by
  let := exactText
  have haligns := glintCluster_aligns p q count
  simp only [nearestMacro, List.filter_cons, haligns, if_true, List.filter_nil, List.foldl_nil]

theorem one_event_per_micro_fixture :
    letI := exactText
    ∃ outs, corroborate degreesSquared defaultAlignM [glintCluster 0.88 (.int 2)]
        [darkVessel 0.91] = .ok outs ∧
      List.Forall₂ (KeepsDetection degreesSquared defaultAlignM [glintCluster 0.88 (.int 2)])
        [darkVessel 0.91] outs := by
  let := exactText
  have := exactText_rounded
  apply (one_event_per_micro (fun _ _ _ _ => rfl) _ _).mpr
  intro micro _ macroEvent hnearest
  obtain rfl := List.mem_singleton.mp hnearest.mem
  exact ⟨2, rfl⟩

/-- The macro of a pair says `many`: the detection is not corroborated, nor kept as it is, nor are
the others of the request. -/
theorem unreadable_count_loses_detection :
    letI := exactText
    corroborate degreesSquared defaultAlignM [glintCluster 0.88 (.str "many")]
        [darkVessel 0.91] =
      .error (.valueError "invalid literal for int() with base 10: 'many'") ∧
    ¬ ∃ outs, corroborate degreesSquared defaultAlignM [glintCluster 0.88 (.str "many")]
        [darkVessel 0.91] = .ok outs ∧
      List.Forall₂ (KeepsDetection degreesSquared defaultAlignM [glintCluster 0.88 (.str "many")])
        [darkVessel 0.91] outs := by
  let := exactText
  have hraises : corroborate degreesSquared defaultAlignM [glintCluster 0.88 (.str "many")]
      [darkVessel 0.91] =
        .error (.valueError "invalid literal for int() with base 10: 'many'") := by
    rw [corroborate_eq, List.mapM_cons, corroborateOne_of_some (glintCluster_nearest _ _ _)]
    rfl
  refine ⟨hraises, ?_⟩
  rintro ⟨outs, houts, -⟩
  rw [hraises] at houts
  cases houts

end DualSar

end NexusC2

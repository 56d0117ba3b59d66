import NexusC2.App.SarEvents

/-!
# Dual-SAR corroboration

`app/adapters/dual_sar.py` joins each micro detection with the nearest macro anomaly that aligns
with it. `haversine_m` is a parameter.
-/

namespace NexusC2

namespace DualSar

/-- `DEFAULT_ALIGN_M`. -/
def defaultAlignM {F : Type} [PyFloatOps F] : F := 3000.0

/-- `CONFIDENCE_BOOST`. -/
def confidenceBoost {F : Type} [PyFloatOps F] : F := 0.1

/-- `CONFIDENCE_CAP`. -/
def confidenceCap {F : Type} [PyFloatOps F] : F := 0.98

/-- `STATUS_CORROBORATED`. -/
def statusCorroborated : String := "corroborated"

/-- `STATUS_SIA_ONLY`. -/
def statusSiaOnly : String := "sia_only"

/-- `COMPOSITE_SOURCE_ID`. -/
def compositeSourceId : String := "DUAL_SAR"

section

variable {F : Type} [PyFloatOps F]

/-- `sorted((a, b))`. -/
def sortedPair (a b : F) : F × F := if PyFloatOps.lt b a then (b, a) else (a, b)

/-- `point_in_bbox` (`app/adapters/dual_sar.py:35-43`). -/
def pointInBbox (latitude longitude : F) (bbox : CandidateEventBoundingBox F) : Bool :=
  let (loLat, hiLat) := sortedPair bbox.minLat bbox.maxLat
  let (loLon, hiLon) := sortedPair bbox.minLon bbox.maxLon
  PyFloatOps.le loLat latitude && PyFloatOps.le latitude hiLat &&
    (PyFloatOps.le loLon longitude && PyFloatOps.le longitude hiLon)

variable {D : Type} (haversine : F → F → F → F → F) (maxAlignM : F)

omit [PyFloatOps F] in
/-- `haversine_m` from a macro to a micro. -/
def distance (micro macroEvent : CandidateEvent F D) : F :=
  haversine macroEvent.latitude macroEvent.longitude micro.latitude micro.longitude

/-- `sector_aligns` (`app/adapters/dual_sar.py:46-74`). -/
def sectorAligns (macroEvent micro : CandidateEvent F D) : Bool :=
  if macroEvent.boundingBox.any (pointInBbox micro.latitude micro.longitude) then true
  else
    let distanceM := distance haversine micro macroEvent
    if PyFloatOps.le distanceM maxAlignM then true
    else
      macroEvent.areaId ≠ "" && micro.areaId ≠ "" && macroEvent.areaId = micro.areaId &&
        PyFloatOps.le distanceM (maxAlignM * (2.0 : F))

/-- One step of `min` by the distance: a later macro takes over only when it is nearer. -/
def nearer (micro best next : CandidateEvent F D) : CandidateEvent F D :=
  if PyFloatOps.lt (distance haversine micro next) (distance haversine micro best) then next
  else best

/-- `_nearest_macro` (`app/adapters/dual_sar.py:77-94`). -/
def nearestMacro (macros : List (CandidateEvent F D)) (micro : CandidateEvent F D) :
    Option (CandidateEvent F D) :=
  match macros.filter fun macroEvent => sectorAligns haversine maxAlignM macroEvent micro with
  | [] => none
  | macroEvent :: rest => some (rest.foldl (nearer haversine micro) macroEvent)

end

section

variable {F D : Type} [PyTextOps F]

/-- `macro.attributes.get("vessel_count_est") or micro.attributes.get("vessel_count_est") or 0`. -/
def vesselCount (macroEvent micro : CandidateEvent F D) : Json F :=
  ((getOrNone macroEvent.attributes "vessel_count_est").orElse
    (getOrNone micro.attributes "vessel_count_est")).orElse (.int 0)

/-- What the attributes of a pair say of its two events. -/
def pairAttributes (macroEvent micro : CandidateEvent F D) : Fields F :=
  [("ingress", .str "dual_sar"), ("dual_sar_status", .str statusCorroborated),
    ("macro_event_id", .str macroEvent.eventId), ("macro_source_id", .str macroEvent.sourceId),
    ("macro_event_type", .str macroEvent.eventType), ("micro_event_id", .str micro.eventId),
    ("micro_source_id", .str micro.sourceId), ("schema_version", .str "1.3.0")]

/-- `min(CONFIDENCE_CAP, max(macro.confidence, micro.confidence) + CONFIDENCE_BOOST)`. -/
def boosted (macroEvent micro : CandidateEvent F D) : F :=
  PyMathOps.min confidenceCap
    (PyFloatOps.max macroEvent.confidence micro.confidence + confidenceBoost)

/-- The event of a pair, with the vessel count that was read. -/
def pairEvent (macroEvent micro : CandidateEvent F D) (vesselEst : Int) : CandidateEvent F D :=
  let attrs := Assoc.update micro.attributes (pairAttributes macroEvent micro)
  let attrs :=
    if vesselEst ≠ 0 then Assoc.set attrs "vessel_count_est" (.int vesselEst) else attrs
  let attrs :=
    if macroEvent.areaId ≠ "" ∧ (getOrNone attrs "area_id").truth = false then
      Assoc.set attrs "area_id" (.str macroEvent.areaId)
    else attrs
  { micro with
    sourceId := compositeSourceId
    areaId := if micro.areaId ≠ "" then micro.areaId else macroEvent.areaId
    confidence := boosted macroEvent micro
    attributes := attrs }

/-- `fuse_pair` (`app/adapters/dual_sar.py:97-129`). -/
def fusePair (macroEvent micro : CandidateEvent F D) : Except Exc (CandidateEvent F D) := do
  let vesselEst ← pyInt (vesselCount macroEvent micro)
  .ok (pairEvent macroEvent micro vesselEst)

/-- `_annotate_sia_only` (`app/adapters/dual_sar.py:132-138`). -/
def annotateSiaOnly (micro : CandidateEvent F D) : CandidateEvent F D :=
  { micro with
    attributes := Assoc.update micro.attributes
      [("ingress", (getOrNone micro.attributes "ingress").orElse (.str "sentinel_imagery")),
        ("dual_sar_status", .str statusSiaOnly)] }

variable (haversine : F → F → F → F → F) (maxAlignM : F)

/-- The body of the loop of `corroborate`. -/
def corroborateOne (macros : List (CandidateEvent F D)) (micro : CandidateEvent F D) :
    Except Exc (CandidateEvent F D) :=
  match nearestMacro haversine maxAlignM macros micro with
  | none => .ok (annotateSiaOnly micro)
  | some macroEvent => fusePair macroEvent micro

/-- `corroborate` (`app/adapters/dual_sar.py:141-158`). -/
def corroborate (macros micros : List (CandidateEvent F D)) :
    Except Exc (List (CandidateEvent F D)) :=
  if macros.isEmpty then .ok (micros.map annotateSiaOnly)
  else micros.mapM (corroborateOne haversine maxAlignM macros)

end

end DualSar

end NexusC2

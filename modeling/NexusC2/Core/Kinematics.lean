import NexusC2.Core.Interlock
import NexusC2.Core.Observation
import NexusC2.Misc.FloatMath
import NexusC2.Misc.Handler

/-!
# Kinematics

`core/kinematics.py`: the displacement that places the offshore intercept of the guardrail, the
dead reckoning that joins a SAR contact to a later radar contact, and the lead pursuit that turns
the position of a contact into a waypoint.
-/

namespace NexusC2

section

variable {F : Type} [PyFloatOps F]

open PyFloatOps

/-- `displace_m` (`core/kinematics.py:78-92`), with `M_PER_DEG_LAT` 111 320. -/
def displaceM (latitude longitude headingDeg distanceM : F) : Except Exc (F × F) := do
  let perDegLat : F := 111320.0
  let heading := radians headingDeg
  let mPerDegLon := perDegLat * (← mathFn (cos (radians latitude)))
  let dNorth := distanceM * (← mathFn (cos heading))
  let dEast := distanceM * (← mathFn (sin heading))
  let north ← pyDiv dNorth perDegLat
  let east ← pyDiv dEast (PyFloatOps.max mPerDegLon (1e-6 : F))
  .ok (latitude + north, longitude + east)

/-- `offshore_safe_intercept` (`core/kinematics.py:436-444`), on its default bearing. -/
def offshoreSafeIntercept (poiLat poiLon standoffM : F) : Except Exc (F × F) :=
  displaceM poiLat poiLon (225.0 : F) standoffM

/-- `enu_offset_m` (`core/kinematics.py:95-105`). -/
def enuOffsetM (lat0 lon0 lat1 lon1 : F) : Except Exc (F × F) := do
  let mPerDegLon := (111320.0 : F) * (← mathFn (cos (radians lat0)))
  .ok ((lat1 - lat0) * (111320.0 : F), (lon1 - lon0) * mPerDegLon)

end

/-! ## Dead reckoning -/

section

variable {F D : Type} [PyMathOps F] [PyDateTime D]

open PyFloatOps

/-- `KT_TO_MPS` (`core/kinematics.py:22`). -/
def ktToMps : F := 0.514444

/-- `DEFAULT_V_MIN_MPS`, `DEFAULT_V_MAX_MPS` and `DEFAULT_V_EST_MPS`
(`core/kinematics.py:26-36`). -/
def defaultVMinMps : F := (4.0 : F) * ktToMps
def defaultVMaxMps : F := (18.0 : F) * ktToMps
def defaultVEstMps : F := (12.0 : F) * ktToMps

/-- `DEFAULT_SIGMA_NAV_M` and `DEFAULT_HEADING_SIGMA_DEG` (`core/kinematics.py:29-30`). -/
def defaultSigmaNavM : F := 250.0
def defaultHeadingSigmaDeg : F := 20.0

/-- `MAX_DT_SEC` (`core/kinematics.py:32`). -/
def maxDtSec : F := (4.0 : F) * (3600.0 : F)

/-- `x ** 2`, which raises where the result is too large. -/
def pySquare (x : F) : Except Exc F :=
  match PyMathOps.square x with
  | some y => .ok y
  | none => .error (.overflowError "(34, 'Numerical result out of range')")

/-- `(_as_utc(later) - _as_utc(earlier)).total_seconds()`. -/
def secondsBetween (later earlier : D) : Except Exc F :=
  match PyDateTime.utcMicros later, PyDateTime.utcMicros earlier with
  | some a, some b => .ok (PyMathOps.seconds (a - b))
  | _, _ => .error (.overflowError "date value out of range")

/-- `attributes.get("heading_deg", attributes.get("angle"))` as a number, unless it is missing or
empty. -/
def attributeHeading (attributes : Fields F) : Except Exc (Option F) :=
  match Assoc.get attributes "heading_deg" <|> Assoc.get attributes "angle" with
  | none | some .null | some (.str "") => .ok none
  | some v => (pyFloat v).map some

/-- `_heading_of` (`core/kinematics.py:49-55`). -/
def headingOf (o : Observation F D) : Except Exc (Option F) :=
  match o.headingDeg with
  | some heading => .ok (some heading)
  | none => attributeHeading o.attributes

/-- `_speed_mps_of` (`core/kinematics.py:58-64`). -/
def speedMpsOf (o : Observation F D) : Except Exc F :=
  if lt (1e-9 : F) o.speedMps then .ok o.speedMps
  else
    match Assoc.get o.attributes "speed_kt" with
    | none | some .null => .ok defaultVEstMps
    | some v => do
      let speedKt ← pyFloat v
      .ok (if lt (1e-9 : F) speedKt then speedKt * ktToMps else defaultVEstMps)

/-- `uncertainty_radius_m` (`core/kinematics.py:67-75`), with its defaults. -/
def uncertaintyRadiusM (dtSec : F) : Except Exc F := do
  let spread ← pyDiv (PyMathOps.abs dtSec * (defaultVMaxMps - defaultVMinMps)) (2.0 : F)
  .ok (spread + defaultSigmaNavM)

/-- `ProjectedContact` (`core/kinematics.py:108-119`). -/
structure ProjectedContact (F : Type) where
  latitude : F
  longitude : F
  originLatitude : F
  originLongitude : F
  headingDeg : Option F
  speedMps : F
  dtSec : F
  radiusM : F
  alongM : F
  crossM : F

/-- `project_dead_reckoning` (`core/kinematics.py:134-179`), with its defaults. -/
def projectDeadReckoning (latitude longitude : F) (headingDeg : Option F) (speedMps dtSec : F) :
    Except Exc (ProjectedContact F) :=
  match headingDeg with
  | none =>
    let radius := PyMathOps.abs dtSec * defaultVMaxMps + defaultSigmaNavM
    .ok
      { latitude := latitude
        longitude := longitude
        originLatitude := latitude
        originLongitude := longitude
        headingDeg := none
        speedMps := speedMps
        dtSec := dtSec
        radiusM := radius
        alongM := radius
        crossM := radius }
  | some heading => do
    let traveled := speedMps * dtSec
    let (lat, lon) ← displaceM latitude longitude heading traveled
    let along ← uncertaintyRadiusM dtSec
    let spread ← mathFn (PyMathOps.tan (radians (defaultHeadingSigmaDeg : F)))
    let cross := defaultSigmaNavM + PyMathOps.abs traveled * spread
    .ok
      { latitude := lat
        longitude := lon
        originLatitude := latitude
        originLongitude := longitude
        headingDeg := some heading
        speedMps := speedMps
        dtSec := dtSec
        radiusM := along
        alongM := PyFloatOps.max along (1.0 : F)
        crossM := PyFloatOps.max cross (1.0 : F) }

/-- `project_observation` (`core/kinematics.py:182-202`), with its defaults. -/
def projectObservation (o : Observation F D) (tNow : D) : Except Exc (ProjectedContact F) := do
  let dtSec ← secondsBetween tNow o.observedAt
  let heading ← headingOf o
  let speed ← speedMpsOf o
  projectDeadReckoning o.latitude o.longitude heading speed dtSec

/-- `in_reachability_envelope` (`core/kinematics.py:205-218`). -/
def inReachabilityEnvelope (p : ProjectedContact F) (latitude longitude : F) :
    Except Exc Bool := do
  let (dNorth, dEast) ← enuOffsetM p.latitude p.longitude latitude longitude
  match p.headingDeg with
  | none => .ok (le (PyMathOps.hypot dNorth dEast) p.radiusM)
  | some headingDeg => do
    let heading := radians headingDeg
    let c ← mathFn (cos heading)
    let s ← mathFn (sin heading)
    let along := dNorth * c + dEast * s
    let cross := PyMathOps.neg dNorth * s + dEast * c
    let a ← pySquare (← pyDiv along p.alongM)
    let b ← pySquare (← pyDiv cross p.crossM)
    .ok (le (a + b) (1.0 : F))

omit [PyMathOps F] [PyDateTime D] in
/-- `_sar_and_radar` (`core/kinematics.py:221-226`). -/
def sarAndRadar (a b : Observation F D) : Option (Observation F D × Observation F D) :=
  if a.modality = "space_sar" ∧ b.modality = "radar" then some (a, b)
  else if b.modality = "space_sar" ∧ a.modality = "radar" then some (b, a)
  else none

/-- `associate_kinematically` (`core/kinematics.py:229-239`). -/
def associateKinematically (a b : Observation F D) : Except Exc Bool :=
  match sarAndRadar a b with
  | none => .ok false
  | some (sar, radar) => do
    let dtSec : F ← secondsBetween radar.observedAt sar.observedAt
    if lt maxDtSec (PyMathOps.abs dtSec) then .ok false
    else do
      let projected ← projectObservation sar radar.observedAt
      inReachabilityEnvelope projected radar.latitude radar.longitude

/-- `projected_separation_m` (`core/kinematics.py:242-249`). -/
def projectedSeparationM (a b : Observation F D) : Except Exc (Option F) :=
  match sarAndRadar a b with
  | none => .ok none
  | some (sar, radar) => do
    let projected ← projectObservation sar radar.observedAt
    let d ← haversineM projected.latitude projected.longitude radar.latitude radar.longitude
    .ok (some d)

/-! ## Lead pursuit -/

/-- `DEFAULT_OWN_LATITUDE`, `DEFAULT_OWN_LONGITUDE` and `DEFAULT_OWN_SPEED_MPS`
(`core/kinematics.py:257-259`). -/
def defaultOwnLatitude : F := 1.2300
def defaultOwnLongitude : F := 103.8500
def defaultOwnSpeedMps : F := 15.0

/-- `MAX_LEAD_FALLBACK_SEC` (`core/kinematics.py:261`). -/
def maxLeadFallbackSec : F := 600.0

/-- `round(x, n)`, which raises where the result is too large. -/
def pyRound (x : F) (n : Nat) : Except Exc F :=
  match PyMathOps.round x n with
  | some y => .ok y
  | none => .error (.overflowError "rounded value too large to represent")

/-- `LeadPursuitPOI` (`core/kinematics.py:264-279`). -/
structure LeadPursuitPoi (F : Type) where
  latitude : F
  longitude : F
  etaSec : F
  method : String
  contactLatitude : F
  contactLongitude : F
  contactHeadingDeg : Option F
  contactSpeedMps : F
  ownLatitude : F
  ownLongitude : F
  ownSpeedMps : F
  rangeAtInterceptM : F

/-- `as_metadata` (`core/kinematics.py:281-299`). -/
def LeadPursuitPoi.asMetadata (p : LeadPursuitPoi F) : Except Exc (Json F) := do
  let eta ← pyRound p.etaSec 3
  let range ← pyRound p.rangeAtInterceptM 1
  let speed ← pyRound p.contactSpeedMps 3
  .ok (.obj [("latitude", .float p.latitude), ("longitude", .float p.longitude),
    ("eta_sec", .float eta), ("method", .str p.method), ("range_at_intercept_m", .float range),
    ("contact_snapshot", .obj [("latitude", .float p.contactLatitude),
      ("longitude", .float p.contactLongitude),
      ("heading_deg", Observation.optFloat p.contactHeadingDeg), ("speed_mps", .float speed)]),
    ("own_platform", .obj [("latitude", .float p.ownLatitude),
      ("longitude", .float p.ownLongitude), ("speed_mps", .float p.ownSpeedMps)])])

/-- `min([t for t in candidates if t > 1e-9])`, or `None`. -/
def leastPositive (a b : F) : Option F :=
  match lt (1e-9 : F) a, lt (1e-9 : F) b with
  | true, true => some (PyMathOps.min a b)
  | true, false => some a
  | false, true => some b
  | false, false => none

/-- `_collision_course_eta_sec` (`core/kinematics.py:302-335`). -/
def collisionCourseEtaSec (rangeNorthM rangeEastM vtNorthMps vtEastMps ownSpeedMps : F) :
    Except Exc (Option F) :=
  let r2 := rangeNorthM * rangeNorthM + rangeEastM * rangeEastM
  if lt r2 (1.0 : F) then .ok (some (0.0 : F))
  else if le ownSpeedMps (1e-9 : F) then .ok none
  else
    let dot := rangeNorthM * vtNorthMps + rangeEastM * vtEastMps
    let vt2 := vtNorthMps * vtNorthMps + vtEastMps * vtEastMps
    let a := vt2 - ownSpeedMps * ownSpeedMps
    let b := (2.0 : F) * dot
    if lt (PyMathOps.abs a) (1e-9 : F) then
      if lt (PyMathOps.abs b) (1e-9 : F) then .ok none
      else do
        let t ← pyDiv (PyMathOps.neg r2) b
        .ok (if lt (1e-9 : F) t then some t else none)
    else
      let disc := b * b - (4.0 : F) * a * r2
      if lt disc (0.0 : F) then .ok none
      else do
        let root := PyMathOps.root disc
        let t ← pyDiv (PyMathOps.neg b + root) ((2.0 : F) * a)
        let t' ← pyDiv (PyMathOps.neg b - root) ((2.0 : F) * a)
        .ok (leastPositive t t')

/-- `compute_lead_pursuit_poi` (`core/kinematics.py:338-421`), from the default own platform. -/
def computeLeadPursuitPoi (contactLatitude contactLongitude : F) (contactHeadingDeg : Option F)
    (contactSpeedMps : F) : Except Exc (LeadPursuitPoi F) := do
  let ownLatitude : F := defaultOwnLatitude
  let ownLongitude : F := defaultOwnLongitude
  let poi (latitude longitude etaSec : F) (method : String) (range : F) : LeadPursuitPoi F :=
    { latitude := latitude
      longitude := longitude
      etaSec := etaSec
      method := method
      contactLatitude := contactLatitude
      contactLongitude := contactLongitude
      contactHeadingDeg := contactHeadingDeg
      contactSpeedMps := contactSpeedMps
      ownLatitude := ownLatitude
      ownLongitude := ownLongitude
      ownSpeedMps := defaultOwnSpeedMps
      rangeAtInterceptM := range }
  let rangeM ← haversineM ownLatitude ownLongitude contactLatitude contactLongitude
  let ownSpeed := PyFloatOps.max (defaultOwnSpeedMps : F) (1e-6 : F)
  let static : Except Exc (LeadPursuitPoi F) := do
    let eta ← pyDiv rangeM ownSpeed
    .ok (poi contactLatitude contactLongitude eta "static_contact" rangeM)
  match contactHeadingDeg with
  | none => static
  | some headingDeg =>
    if le contactSpeedMps (1e-9 : F) then static
    else do
      let (rNorth, rEast) ← enuOffsetM ownLatitude ownLongitude contactLatitude contactLongitude
      let heading := radians headingDeg
      let vtNorth := contactSpeedMps * (← mathFn (cos heading))
      let vtEast := contactSpeedMps * (← mathFn (sin heading))
      let etaCc ← collisionCourseEtaSec rNorth rEast vtNorth vtEast ownSpeed
      match etaCc.filter fun eta => le eta (maxLeadFallbackSec : F) with
      | some eta => do
        let (lat, lon) ← displaceM contactLatitude contactLongitude headingDeg (contactSpeedMps * eta)
        .ok (poi lat lon eta "collision_course" (ownSpeed * eta))
      | none => do
        let leadSec := PyMathOps.min (← pyDiv rangeM ownSpeed) (maxLeadFallbackSec : F)
        let (lat, lon) ←
          displaceM contactLatitude contactLongitude headingDeg (contactSpeedMps * leadSec)
        let interceptRange ← haversineM ownLatitude ownLongitude lat lon
        let eta ← pyDiv interceptRange ownSpeed
        .ok (poi lat lon eta "lead_along_track" interceptRange)

/-- `apply_lead_pursuit` (`core/coa.py:50-58`). -/
def CourseOfAction.applyLeadPursuit (coa : CourseOfAction F) (poi : LeadPursuitPoi F) :
    Except Exc (CourseOfAction F) := do
  let snapshot ← poi.asMetadata
  let eta ← pyRound poi.etaSec 3
  .ok { coa with
    targetCoordinates := (poi.latitude, poi.longitude)
    metadata := Assoc.set (Assoc.set (Assoc.set coa.metadata "poi" snapshot) "contact_coordinates"
      (.arr [.float poi.contactLatitude, .float poi.contactLongitude])) "eta_sec" (.float eta) }

/-- A waypoint changes the target and the metadata. -/
theorem CourseOfAction.applyLeadPursuit_ok {coa coa' : CourseOfAction F} {poi : LeadPursuitPoi F}
    (h : coa.applyLeadPursuit poi = .ok coa') :
    ∃ target metadata, coa' = { coa with targetCoordinates := target, metadata := metadata } := by
  unfold CourseOfAction.applyLeadPursuit at h
  obtain ⟨snapshot, -, h⟩ := except_bind_eq_ok.mp h
  obtain ⟨eta, -, h⟩ := except_bind_eq_ok.mp h
  cases h
  exact ⟨_, _, rfl⟩

end

end NexusC2

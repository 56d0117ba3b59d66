import Mathlib.Data.Finset.Insert
import NexusC2.Core.Coa

/-!
# Deterministic interlocks

`core/interlock.py`: the checks a course of action passes before a human sees it, and the keys
that stop a second tasking for the same target. `haversine_m` is from `core/ontology.py`.
-/

namespace NexusC2

section

variable {F : Type} [PyFloatOps F]

open PyFloatOps

/-- `haversine_m` (`core/ontology.py:14-20`). -/
def haversineM (lat1 lon1 lat2 lon2 : F) : Except Exc F := do
  let r : F := 6371000.0
  let p1 := radians lat1
  let p2 := radians lat2
  let dphi := radians (lat2 - lat1)
  let dlmb := radians (lon2 - lon1)
  let s1 ← mathFn (sin (dphi / (2.0 : F)))
  let c1 ← mathFn (cos p1)
  let c2 ← mathFn (cos p2)
  let s2 ← mathFn (sin (dlmb / (2.0 : F)))
  let a := s1 * s1 + c1 * c2 * (s2 * s2)
  let root ← mathFn (sqrt a)
  let arc ← mathFn (asin root)
  .ok ((2.0 : F) * r * arc)

/-- `CNI_FALLOUT_CODE` (`core/interlock.py:11`). -/
def cniFalloutCode : String := "SAFETY_LOCKOUT_CNI_FALLOUT_HAZARD"

/-- `TERMINAL_INTENTS` (`core/interlock.py:12`). -/
def terminalIntents : List String := ["TERMINAL_SAM_INTERCEPT", "OVERHEAD_KINETIC_INTERCEPT"]

/-- Whether the edge from vertex `j` to vertex `i` crosses the ray of `point_in_polygon`. -/
def edgeCrosses (lat lon : F) (i j : F × F) : Except Exc Bool :=
  if lt lon i.2 ≠ lt lon j.2 then do
    let q ← pyDiv ((j.1 - i.1) * (lon - i.2)) (j.2 - i.2 + (1e-15 : F))
    .ok (lt lat (q + i.1))
  else .ok false

/-- The loop of `point_in_polygon`, with the vertex before the current one. -/
def polygonLoop (lat lon : F) : F × F → List (F × F) → Bool → Except Exc Bool
  | _, [], inside => .ok inside
  | j, i :: rest, inside => do
    let intersects ← edgeCrosses lat lon i j
    polygonLoop lat lon i rest (if intersects then !inside else inside)

/-- `point_in_polygon` (`core/interlock.py:15-30`). -/
def pointInPolygon (lat lon : F) (polygon : List (F × F)) : Except Exc Bool :=
  if polygon.length < 3 then .ok false
  else match polygon.getLast? with
    | none => .ok false
    | some last => polygonLoop lat lon last polygon false

/-- `debris_footprint_radius_m` (`core/interlock.py:33-35`). -/
def debrisFootprintRadiusM (altitudeM : F) : F :=
  PyFloatOps.max (500.0 : F) (altitudeM * (8.0 : F) + (400.0 : F))

end

/-- A forbidden zone of the policy file. -/
structure Zone (F : Type) where
  name : Option String
  polygon : List (F × F)

/-- A point of interest of the POI file. -/
structure Poi (F : Type) where
  poiId : Option String
  name : Option String
  kind : Option String
  centerLat : F
  centerLon : F
  bufferM : Option F
  offshoreNofireM : Option F

/-- `DeterministicInterlock` (`core/interlock.py:38-52`). -/
structure DeterministicInterlock (F : Type) where
  forbiddenZones : List (Zone F)
  maxSpeedKt : F
  rejectNullCoordinates : Bool
  activeCoaIds : Finset String
  cniPois : List (Poi F)

namespace DeterministicInterlock

variable {F : Type}

/-- `set_cni_pois` (`core/interlock.py:54-55`). -/
def setCniPois (i : DeterministicInterlock F) (pois : List (Poi F)) : DeterministicInterlock F :=
  { i with cniPois := pois }

variable [PyFloatOps F]

open PyFloatOps

/-- The soft duplicate key, `f"{target_entity_id}:{intent}:{target_coordinates}"`. -/
def dupKey (coa : CourseOfAction F) : String :=
  coa.targetEntityId ++ ":" ++ coa.intent ++ ":(" ++
    PyFloatOps.repr coa.targetCoordinates.1 ++ ", " ++ PyFloatOps.repr coa.targetCoordinates.2 ++ ")"

/-- The key depends on target, intent and coordinates alone. -/
theorem dupKey_congr {a b : CourseOfAction F} (h : a.triple = b.triple) : dupKey a = dupKey b := by
  simp only [CourseOfAction.triple, Prod.mk.injEq] at h
  simp only [dupKey, h.1, h.2.1, h.2.2]

/-- `register_active` (`core/interlock.py:112-114`). -/
def registerActive (i : DeterministicInterlock F) (coa : CourseOfAction F) :
    DeterministicInterlock F :=
  { i with activeCoaIds := insert (dupKey coa) (insert coa.coaId i.activeCoaIds) }

/-- The loop of `verify_cni_debris` over the POIs. -/
def debrisLoop (lat lon footprint : F) : List (Poi F) → Except Exc (Bool × Option String)
  | [] => .ok (true, none)
  | poi :: pois =>
    if poi.kind ≠ some "civilian_cni" ∧ poi.kind ≠ none then debrisLoop lat lon footprint pois
    else do
      let bufferM := poi.bufferM.getD (2500.0 : F)
      let d ← haversineM lat lon poi.centerLat poi.centerLon
      if le d (bufferM + footprint) then
        let name := poi.name.getD (poi.poiId.getD "CNI")
        .ok (false, some (cniFalloutCode ++ ": debris cone intersects " ++ name ++ " (range " ++
          fmt0 d ++ " m ≤ buffer " ++ fmt0 bufferM ++ " m + footprint " ++ fmt0 footprint ++
          " m)"))
      else debrisLoop lat lon footprint pois

/-- `verify_cni_debris` (`core/interlock.py:57-82`). -/
def verifyCniDebris (i : DeterministicInterlock F) (coa : CourseOfAction F) :
    Except Exc (Bool × Option String) :=
  let draft := match Assoc.get coa.metadata "dangerous_proposal_draft" with
    | some v => v.truth
    | none => false
  let dangerous := draft || decide (coa.intent ∈ terminalIntents)
  if !dangerous || i.cniPois.isEmpty then .ok (true, none)
  else do
    let altitude ← pyFloat ((Assoc.get coa.metadata "altitude_m").getD (.float (71.0 : F)))
    debrisLoop coa.targetCoordinates.1 coa.targetCoordinates.2 (debrisFootprintRadiusM altitude)
      i.cniPois

/-- The loop of `verify` over the forbidden zones: the name of the first one that holds the
target. -/
def geofenceLoop (lat lon : F) : List (Zone F) → Except Exc (Option String)
  | [] => .ok none
  | zone :: zones => do
    if ← pointInPolygon lat lon zone.polygon then
      .ok (some (zone.name.getD "forbidden_zone"))
    else geofenceLoop lat lon zones

/-- `coa.speed_kt is not None and coa.speed_kt > self.max_speed_kt`. -/
def tooFast (i : DeterministicInterlock F) (coa : CourseOfAction F) : Bool :=
  match coa.speedKt with
  | some v => lt i.maxSpeedKt v
  | none => false

/-- `verify` (`core/interlock.py:84-110`). -/
def verify (i : DeterministicInterlock F) (coa : CourseOfAction F) :
    Except Exc (Bool × Option String) :=
  let lat := coa.targetCoordinates.1
  let lon := coa.targetCoordinates.2
  if i.rejectNullCoordinates && eq lat (0.0 : F) && eq lon (0.0 : F) then
    .ok (false, some "Null coordinates violation")
  else if i.tooFast coa then
    .ok (false, some ("Speed limit exceeded: " ++ (coa.speedKt.map PyFloatOps.repr).getD "" ++ " > " ++
      PyFloatOps.repr i.maxSpeedKt ++ " kt"))
  else do
    match ← geofenceLoop lat lon i.forbiddenZones with
    | some name => .ok (false, some ("Geofence violation: " ++ name))
    | none =>
      let (ok, reason) ← i.verifyCniDebris coa
      if !ok then .ok (false, reason)
      else if coa.coaId ∈ i.activeCoaIds then .ok (false, some "Duplicate active task")
      else if dupKey coa ∈ i.activeCoaIds then
        .ok (false, some "Duplicate task for target/intent")
      else .ok (true, none)

/-- `self.reject_null_coordinates and lat == 0.0 and lon == 0.0`. -/
def nullTarget (i : DeterministicInterlock F) (coa : CourseOfAction F) : Bool :=
  i.rejectNullCoordinates && eq coa.targetCoordinates.1 (0.0 : F) &&
    eq coa.targetCoordinates.2 (0.0 : F)

/-- The COA passes the checks of `verify` before the one of its debris. -/
structure PassesFirst (i : DeterministicInterlock F) (coa : CourseOfAction F) : Prop where
  target : i.nullTarget coa = false
  speed : i.tooFast coa = false
  zones : geofenceLoop coa.targetCoordinates.1 coa.targetCoordinates.2 i.forbiddenZones = .ok none

/-- The COA passes every check of `verify` but the ones for duplicates. -/
structure Clear (i : DeterministicInterlock F) (coa : CourseOfAction F) : Prop
    extends i.PassesFirst coa where
  debris : ∃ reason, i.verifyCniDebris coa = .ok (true, reason)

/-- A reason that is given before the debris is looked at. -/
inductive FirstReason : String → Prop
  | null : FirstReason "Null coordinates violation"
  | speed (text : String) : FirstReason ("Speed limit exceeded: " ++ text)
  | geofence (name : String) : FirstReason ("Geofence violation: " ++ name)

/-- What is left of `verify` then. -/
theorem verify_of_clear {i : DeterministicInterlock F} {coa : CourseOfAction F}
    (h : i.Clear coa) : i.verify coa =
      if coa.coaId ∈ i.activeCoaIds then .ok (false, some "Duplicate active task")
      else if dupKey coa ∈ i.activeCoaIds then .ok (false, some "Duplicate task for target/intent")
      else .ok (true, none) := by
  obtain ⟨reason, hdebris⟩ := h.debris
  have htarget : (i.rejectNullCoordinates && eq coa.targetCoordinates.1 (0.0 : F) &&
      eq coa.targetCoordinates.2 (0.0 : F)) = false := h.target
  unfold verify
  simp only [htarget, h.speed, h.zones, hdebris, bind, Except.bind, Bool.false_eq_true, if_false,
    Bool.not_true]

/-- The COA comes to the checks for duplicates, it is refused for its debris, or it is refused before
that is looked at. -/
theorem verify_cases {i : DeterministicInterlock F} {coa : CourseOfAction F} {ok : Bool}
    {reason : Option String} (h : i.verify coa = .ok (ok, reason)) :
    i.Clear coa ∨ ok = false ∧ (i.PassesFirst coa ∧ i.verifyCniDebris coa = .ok (false, reason) ∨
      ¬ i.PassesFirst coa ∧ ∃ text, reason = some text ∧ FirstReason text) := by
  unfold verify at h
  dsimp only at h
  split at h
  · rename_i htarget
    cases h
    refine Or.inr ⟨rfl, Or.inr ⟨fun hfirst => ?_, _, rfl, .null⟩⟩
    exact Bool.false_ne_true (hfirst.target.symm.trans htarget)
  rename_i htarget
  split at h
  · rename_i hspeed
    cases h
    refine Or.inr ⟨rfl, Or.inr ⟨fun hfirst => ?_, _, rfl, ?_⟩⟩
    · exact Bool.false_ne_true (hfirst.speed.symm.trans hspeed)
    · simp only [String.append_assoc]
      exact .speed _
  rename_i hspeed
  cases hzone : geofenceLoop coa.targetCoordinates.1 coa.targetCoordinates.2 i.forbiddenZones with
  | error e =>
    rw [hzone] at h
    cases h
  | ok zone =>
    rw [hzone] at h
    cases zone with
    | some name =>
      cases h
      refine Or.inr ⟨rfl, Or.inr ⟨fun hfirst => ?_, _, rfl, .geofence name⟩⟩
      have hnone := hfirst.zones
      rw [hzone] at hnone
      cases hnone
    | none =>
      have hfirst : i.PassesFirst coa :=
        ⟨by simpa [nullTarget] using htarget, by simpa using hspeed, hzone⟩
      cases hdebris : i.verifyCniDebris coa with
      | error e =>
        rw [hdebris] at h
        cases h
      | ok result =>
        obtain ⟨passes, reason'⟩ := result
        rw [hdebris] at h
        cases passes with
        | false =>
          cases h
          exact Or.inr ⟨rfl, Or.inl ⟨hfirst, rfl⟩⟩
        | true => exact Or.inl ⟨hfirst, _, hdebris⟩

/-- Only what passes the other checks is accepted. -/
theorem clear_of_verify {i : DeterministicInterlock F} {coa : CourseOfAction F}
    {reason : Option String} (h : i.verify coa = .ok (true, reason)) : i.Clear coa := by
  rcases verify_cases h with hclear | ⟨hfalse, -⟩
  · exact hclear
  · cases hfalse

/-- `verify` accepts a COA that passes the other checks and is registered neither by its id nor by
its key. -/
theorem verify_eq_true_iff {i : DeterministicInterlock F} {coa : CourseOfAction F} :
    (∃ reason, i.verify coa = .ok (true, reason)) ↔
      i.Clear coa ∧ coa.coaId ∉ i.activeCoaIds ∧ dupKey coa ∉ i.activeCoaIds := by
  constructor
  · rintro ⟨reason, h⟩
    have hclear := clear_of_verify h
    rw [verify_of_clear hclear] at h
    refine ⟨hclear, fun hid => ?_, fun hkey => ?_⟩
    · rw [if_pos hid] at h
      cases h
    · rw [if_pos hkey] at h
      split at h <;> cases h
  · rintro ⟨hclear, hid, hkey⟩
    exact ⟨none, by rw [verify_of_clear hclear, if_neg hid, if_neg hkey]⟩

/-- A COA that passes the other checks is refused when its id or its key is registered. -/
theorem verify_eq_false_iff {i : DeterministicInterlock F} {coa : CourseOfAction F}
    (h : i.Clear coa) : (∃ reason, i.verify coa = .ok (false, reason)) ↔
      coa.coaId ∈ i.activeCoaIds ∨ dupKey coa ∈ i.activeCoaIds := by
  rw [verify_of_clear h]
  by_cases hid : coa.coaId ∈ i.activeCoaIds
  · simp [hid]
  · by_cases hkey : dupKey coa ∈ i.activeCoaIds
    · simp [hid, hkey]
    · simp [hid, hkey]

/-- A course of action that passes is registered neither by its id nor by its key. -/
theorem not_mem_active_of_verify {i : DeterministicInterlock F} {coa : CourseOfAction F}
    {reason : Option String} (h : i.verify coa = .ok (true, reason)) :
    coa.coaId ∉ i.activeCoaIds ∧ dupKey coa ∉ i.activeCoaIds :=
  (verify_eq_true_iff.mp ⟨reason, h⟩).2

end DeterministicInterlock

end NexusC2

import NexusC2.Core.Kinematics
import NexusC2.Misc.Handler

/-!
# The entity graph

`SpatialEntityGraph` (`core/ontology.py`): observations in the order they came, and the tracks they
were put in. An observation goes to the track of the id it asks for, else to the nearest one, else
to a new one. Looking for the nearest track may raise, and the observation is in the list by then.
-/

namespace NexusC2

/-- `Track` (`core/ontology.py:23-35`). -/
structure Track (F D : Type) where
  trackId : String
  latitude : F
  longitude : F
  speedMps : F
  confidence : F
  sourceIds : List String
  modalities : List String
  observationIds : List String
  digests : List String
  updatedAt : D
  attributes : Fields F

/-- `SpatialEntityGraph` (`core/ontology.py:42-48`). -/
structure SpatialEntityGraph (F D : Type) where
  associateRadiusM : F
  observations : List (Observation F D)
  tracks : Dict String (Track F D)

variable {F D : Type}

/-- `d.update(e)`. -/
def Assoc.update (d e : Fields F) : Fields F := e.foldl (fun d p => Assoc.set d p.1 p.2) d

theorem Assoc.get_update_of_not_mem {d e : Fields F} {key : String} (h : key ∉ Assoc.keys e) :
    Assoc.get (Assoc.update d e) key = Assoc.get d key := by
  induction e generalizing d with
  | nil => rfl
  | cons p e ih =>
    simp only [Assoc.keys, List.map_cons, List.mem_cons, not_or] at h
    have hrest : Assoc.get (Assoc.update (Assoc.set d p.1 p.2) e) key =
        Assoc.get (Assoc.set d p.1 p.2) key := ih h.2
    rw [Assoc.get_set, if_neg fun heq => h.1 heq.symm] at hrest
    exact hrest

/-- `if s not in xs: xs.append(s)`. -/
def appendNew (xs : List String) (s : String) : List String := if s ∈ xs then xs else xs ++ [s]

namespace Track

/-- The track a first observation opens (`core/ontology.py:57-69`). -/
def ofObservation (o : Observation F D) : Track F D :=
  { trackId := o.preferredId
    latitude := o.latitude
    longitude := o.longitude
    speedMps := o.speedMps
    confidence := o.confidence
    sourceIds := [o.sourceId]
    modalities := [o.modality]
    observationIds := [o.observationId]
    digests := [o.rawDigest]
    updatedAt := o.observedAt
    attributes := o.attributes }

/-- `fused_digest` (`core/ontology.py:37-39`). -/
def fusedDigest [Sha256] (t : Track F D) : String :=
  Sha256.hex ("|".intercalate (t.digests.insertionSort fun a b => a ≤ b))

variable [PyFloatOps F]

/-- The track with one more observation (`core/ontology.py:73-86`): its state is that of the
observation when that is not less confident. -/
def absorb (t : Track F D) (o : Observation F D) : Track F D :=
  let t := { t with
    sourceIds := appendNew t.sourceIds o.sourceId
    modalities := appendNew t.modalities o.modality
    observationIds := t.observationIds ++ [o.observationId]
    digests := t.digests ++ [o.rawDigest] }
  let t := if PyFloatOps.le t.confidence o.confidence then
      { t with
        latitude := o.latitude
        longitude := o.longitude
        speedMps := o.speedMps
        confidence := o.confidence }
    else t
  { t with
    updatedAt := o.observedAt
    attributes := Assoc.update t.attributes o.attributes }

@[simp] theorem absorb_trackId (t : Track F D) (o : Observation F D) :
    (t.absorb o).trackId = t.trackId := by
  unfold absorb
  dsimp only
  split <;> rfl

@[simp] theorem absorb_observationIds (t : Track F D) (o : Observation F D) :
    (t.absorb o).observationIds = t.observationIds ++ [o.observationId] := by
  unfold absorb
  dsimp only
  split <;> rfl

end Track

namespace SpatialEntityGraph

/-- `SpatialEntityGraph(associate_radius_m=2_000.0)`. -/
def empty [PyFloatOps F] : SpatialEntityGraph F D := ⟨2000.0, [], ∅⟩

/-- `get_track` (`core/ontology.py:92-93`). -/
def getTrack (g : SpatialEntityGraph F D) (trackId : String) : Option (Track F D) :=
  g.tracks.get trackId

variable [PyMathOps F] [PyDateTime D]

open PyFloatOps

/-- The loop of `_association_distance_m` over the observations (`core/ontology.py:130-137`). -/
def kinematicDistance (o : Observation F D) (t : Track F D) :
    List (Observation F D) → Except Exc (Option F)
  | [] => .ok none
  | other :: rest =>
    if other.observationId ∉ t.observationIds then kinematicDistance o t rest
    else do
      if !(← associateKinematically o other) then kinematicDistance o t rest
      else
        match ← projectedSeparationM o other with
        | some sep => .ok (some sep)
        | none => kinematicDistance o t rest

/-- `_association_distance_m` (`core/ontology.py:120-138`). -/
def associationDistanceM (g : SpatialEntityGraph F D) (o : Observation F D) (t : Track F D) :
    Except Exc (Option F) := do
  let d ← haversineM o.latitude o.longitude t.latitude t.longitude
  if le d g.associateRadiusM then .ok (some d) else kinematicDistance o t g.observations

/-- The loop of `_find_nearby` over the tracks, with the best one so far under its key. -/
def nearestLoop (g : SpatialEntityGraph F D) (o : Observation F D)
    (best : Option (String × Track F D)) (bestD : F) :
    List (String × Track F D) → Except Exc (Option (String × Track F D))
  | [] => .ok best
  | (k, t) :: rest => do
    match ← g.associationDistanceM o t with
    | some d =>
      if lt d bestD then nearestLoop g o (some (k, t)) d rest else nearestLoop g o best bestD rest
    | none => nearestLoop g o best bestD rest

/-- `_find_nearby` (`core/ontology.py:107-118`): the track with its key. -/
def findNearby (g : SpatialEntityGraph F D) (o : Observation F D) :
    Except Exc (Option (String × Track F D)) :=
  match g.tracks.get o.preferredId with
  | some t => .ok (some (o.preferredId, t))
  | none => g.nearestLoop o none PyMathOps.inf g.tracks.entries

variable [Sha256]

/-- `ingest` (`core/ontology.py:50-87`), with the id of the track. -/
def ingest (o : Observation F D) : Handler Exc (SpatialEntityGraph F D) String := do
  let o := o.ensureDigest
  Handler.modify fun g => { g with observations := g.observations ++ [o] }
  let g ← Handler.get
  match ← Handler.ofExcept (g.findNearby o) with
  | none =>
    Handler.modify fun g => { g with tracks := g.tracks.set o.preferredId (Track.ofObservation o) }
    pure o.preferredId
  | some (k, t) =>
    Handler.modify fun g => { g with tracks := g.tracks.set k (t.absorb o) }
    pure t.trackId

/-- An observation goes to the track of the id it asks for, where there is one. -/
theorem ingest_preferred {g : SpatialEntityGraph F D} {o : Observation F D} {t : Track F D}
    (h : g.tracks.get o.preferredId = some t) :
    ingest o g = (.ok t.trackId,
      { g with
        observations := g.observations ++ [o.ensureDigest]
        tracks := g.tracks.set o.preferredId (t.absorb o.ensureDigest) }) := by
  unfold ingest findNearby
  simp only [Handler.modify_bind, Handler.get_bind, Observation.preferredId_ensureDigest, h,
    Handler.ofExcept_ok_bind]
  rfl

/-- The first observation opens a track. -/
theorem ingest_first {g : SpatialEntityGraph F D} (h : g.tracks = ∅) (o : Observation F D) :
    ingest o g = (.ok o.preferredId,
      { g with
        observations := g.observations ++ [o.ensureDigest]
        tracks := g.tracks.set o.preferredId (Track.ofObservation o.ensureDigest) }) := by
  have hget : g.tracks.get o.preferredId = none := by
    rw [h]
    rfl
  have hentries : g.tracks.entries = [] := by
    rw [h]
    rfl
  unfold ingest findNearby
  simp only [Handler.modify_bind, Handler.get_bind, Observation.preferredId_ensureDigest, hget,
    hentries, nearestLoop, Handler.ofExcept_ok_bind]
  rfl

end SpatialEntityGraph

end NexusC2

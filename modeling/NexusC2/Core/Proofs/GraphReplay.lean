import NexusC2.Core.Ontology

/-!
# Replaying the entity graph

A graph keeps the observations that were ingested, with their digests. Where none of them raised,
ingesting that list into an empty graph gives the graph again.
-/

namespace NexusC2

namespace SpatialEntityGraph

variable {F D : Type} [PyMathOps F] [PyDateTime D] [Sha256]

/-- An observation is ingested with its digest. -/
theorem ingest_ensureDigest (o : Observation F D) : ingest o.ensureDigest = ingest o := by
  unfold ingest
  rw [Observation.ensureDigest_ensureDigest]

/-- Whatever comes of the search for a track, the observation is in the list. -/
theorem ingest_observations (o : Observation F D) (g : SpatialEntityGraph F D) :
    (ingest o g).2.observations = g.observations ++ [o.ensureDigest] := by
  unfold ingest
  simp only [Handler.modify_bind, Handler.get_bind]
  cases hfound : findNearby { g with observations := g.observations ++ [o.ensureDigest] }
      o.ensureDigest with
  | error e => rfl
  | ok found =>
    cases found with
    | none => rfl
    | some kt => rfl

/-- `for o in os: g.ingest(o)`. -/
def ingestAll (os : List (Observation F D)) : Handler Exc (SpatialEntityGraph F D) Unit :=
  Handler.forEach (fun o => do let _ ← ingest o) os

theorem ingestOne (o : Observation F D) (g : SpatialEntityGraph F D) :
    (do let _ ← ingest o : Handler Exc (SpatialEntityGraph F D) Unit) g =
      ((ingest o g).1.map fun _ => (), (ingest o g).2) := by
  cases hrun : ingest o g with
  | mk r g' =>
    cases r with
    | error e => exact Handler.bind_error hrun
    | ok id => exact Handler.bind_ok hrun

/-- After an observation that does not raise, the rest is ingested. -/
theorem ingestAll_cons_of_ok {o : Observation F D} {g g' : SpatialEntityGraph F D} {id : String}
    (h : ingest o g = (.ok id, g')) (os : List (Observation F D)) :
    ingestAll (o :: os) g = ingestAll os g' := by
  have hone : (do let _ ← ingest o : Handler Exc (SpatialEntityGraph F D) Unit) g = (.ok (), g') := by
    rw [ingestOne, h]
    rfl
  exact Handler.bind_ok hone

theorem ingestAll_cons_of_error {o : Observation F D} {g g' : SpatialEntityGraph F D} {e : Exc}
    (h : ingest o g = (.error e, g')) (os : List (Observation F D)) :
    ingestAll (o :: os) g = (.error e, g') := by
  have hone : (do let _ ← ingest o : Handler Exc (SpatialEntityGraph F D) Unit) g =
      (.error e, g') := by
    rw [ingestOne, h]
    rfl
  exact Handler.bind_error hone

theorem ingestAll_ensureDigest (os : List (Observation F D)) :
    ingestAll (os.map Observation.ensureDigest) = ingestAll os := by
  unfold ingestAll
  rw [Handler.forEach_map]
  simp only [ingest_ensureDigest]

theorem ingestAll_observations {os : List (Observation F D)} {g g' : SpatialEntityGraph F D}
    (h : ingestAll os g = (.ok (), g')) :
    g'.observations = g.observations ++ os.map Observation.ensureDigest := by
  induction os generalizing g with
  | nil =>
    cases h
    simp
  | cons o os ih =>
    have hfirst := ingest_observations o g
    cases hrun : ingest o g with
    | mk r g₁ =>
      rw [hrun] at hfirst
      cases r with
      | error e =>
        rw [ingestAll_cons_of_error hrun] at h
        cases h
      | ok id =>
        rw [ingestAll_cons_of_ok hrun] at h
        rw [ih h, show g₁.observations = _ from hfirst]
        simp

/-! ## Graphs that replay -/

/-- The graph is what its observations make of an empty one. -/
def Replays (g : SpatialEntityGraph F D) : Prop := ingestAll g.observations empty = (.ok (), g)

theorem replays_ingestAll (os : List (Observation F D)) {g : SpatialEntityGraph F D}
    (h : ingestAll os empty = (.ok (), g)) : g.Replays := by
  have hobs := ingestAll_observations h
  unfold Replays
  rw [hobs]
  show ingestAll ([] ++ os.map Observation.ensureDigest) empty = _
  rw [List.nil_append, ingestAll_ensureDigest]
  exact h

theorem replays_empty : (empty : SpatialEntityGraph F D).Replays := rfl

/-- One more observation that does not raise. -/
theorem Replays.ingest {g g' : SpatialEntityGraph F D} (hg : g.Replays) {o : Observation F D}
    {id : String} (h : ingest o g = (.ok id, g')) : g'.Replays := by
  refine replays_ingestAll (g.observations ++ [o]) ?_
  unfold ingestAll
  rw [Handler.forEach_append]
  exact (Handler.bind_ok hg).trans (ingestAll_cons_of_ok h [])

end SpatialEntityGraph

end NexusC2

import NexusC2.App.C2Cycle
import NexusC2.Core.Proofs.TrackHistory

/-!
# Ingested pictures

What holds of a picture whose observations were all ingested: each is in the list and in a track, and
the tracks have no sources but those of the observations.
-/

namespace NexusC2

/-- The sources of an absorbed observation are those of the track, and its own. -/
theorem Track.mem_sourceIds_absorb {F D : Type} [PyFloatOps F] {t : Track F D} {o : Observation F D}
    {source : String} (h : source ∈ (t.absorb o).sourceIds) :
    source ∈ t.sourceIds ∨ source = o.sourceId := by
  have hids : (t.absorb o).sourceIds = appendNew t.sourceIds o.sourceId := by
    unfold Track.absorb
    dsimp only
    split <;> rfl
  rw [hids, appendNew] at h
  split at h
  · exact Or.inl h
  · rcases List.mem_append.mp h with hold | hnew
    · exact Or.inl hold
    · exact Or.inr (List.mem_singleton.mp hnew)

namespace SpatialEntityGraph

variable {F D : Type} [PyMathOps F] [PyDateTime D] [Sha256]

/-- The track under a key with one more observation, or the one it opens. -/
def trackWith (g : SpatialEntityGraph F D) (o : Observation F D) (k : String) : Track F D :=
  match g.tracks.get k with
  | none => Track.ofObservation o.ensureDigest
  | some t => t.absorb o.ensureDigest

/-- An observation that is ingested is in the list, and in the track under some key. -/
theorem ingest_ok {o : Observation F D} {g g' : SpatialEntityGraph F D} {id : String}
    (h : ingest o g = (.ok id, g')) : ∃ k,
      g' = { g with
        observations := g.observations ++ [o.ensureDigest]
        tracks := g.tracks.set k (g.trackWith o k) } ∧
      (g.tracks.get k = none → k = o.preferredId) := by
  have hkey : (g.ingestKey o).isSome = true := by
    rw [isSome_ingestKey]
    cases hsearch : g.search o with
    | ok found => rfl
    | error e =>
      unfold ingest at h
      simp only [Handler.modify_bind, Handler.get_bind] at h
      change (Handler.ofExcept (g.search o) >>= _) _ = _ at h
      rw [hsearch] at h
      cases h
  obtain ⟨k, hk⟩ := Option.isSome_iff_exists.mp hkey
  have hstate := ingest_state g o
  rw [h, hk] at hstate
  exact ⟨k, hstate, ingestKey_new hk⟩

theorem ingestMany_cons {o : Observation F D} {os : List (Observation F D)}
    {g g' : SpatialEntityGraph F D} (h : g.ingestMany (o :: os) = .ok g') :
    ∃ id g₁, ingest o g = (.ok id, g₁) ∧ g₁.ingestMany os = .ok g' := by
  unfold ingestMany Handler.mapEach at h
  cases hone : ingest o g with
  | mk r g₁ =>
    cases r with
    | error e =>
      rw [Handler.bind_error hone] at h
      cases h
    | ok id =>
      rw [Handler.bind_ok hone, Handler.bind_apply] at h
      refine ⟨id, g₁, rfl, ?_⟩
      unfold ingestMany
      cases hrest : Handler.mapEach ingest os g₁ with
      | mk r g₂ =>
        rw [hrest] at h
        cases r with
        | error e => cases h
        | ok ids => exact h

theorem ingestMany_observations {os : List (Observation F D)} {g g' : SpatialEntityGraph F D}
    (h : g.ingestMany os = .ok g') :
    g'.observations = g.observations ++ os.map Observation.ensureDigest := by
  induction os generalizing g with
  | nil =>
    cases h
    exact (List.append_nil _).symm
  | cons o os ih =>
    obtain ⟨id, g₁, hone, hrest⟩ := ingestMany_cons h
    obtain ⟨k, rfl, -⟩ := ingest_ok hone
    rw [ih hrest, List.append_assoc]
    rfl

/-! ## The invariant -/

omit [PyMathOps F] [PyDateTime D] [Sha256] in
/-- Every track goes under its id and has the sources of observations alone, and every observation is
in a track. -/
structure Traced (g : SpatialEntityGraph F D) : Prop where
  keyed : ∀ k t, g.tracks.get k = some t → t.trackId = k
  sourced : ∀ k t, g.tracks.get k = some t →
    ∀ source ∈ t.sourceIds, ∃ o ∈ g.observations, o.sourceId = source
  placed : ∀ o ∈ g.observations, ∃ t ∈ g.tracks.values, o.observationId ∈ t.observationIds

omit [PyMathOps F] [PyDateTime D] [Sha256] in
theorem traced_fresh (r : F) : (fresh r : SpatialEntityGraph F D).Traced :=
  { keyed := fun k t h => by cases h
    sourced := fun k t h => by cases h
    placed := fun o h => by cases h }

variable {g g' : SpatialEntityGraph F D} {o : Observation F D} {k : String}

theorem mem_observationIds_trackWith {oid : String} :
    oid ∈ (g.trackWith o k).observationIds ↔
      (∃ t, g.tracks.get k = some t ∧ oid ∈ t.observationIds) ∨ oid = o.observationId := by
  unfold trackWith
  cases g.tracks.get k with
  | none => simp [Track.ofObservation]
  | some t => simp

theorem trackId_trackWith (hkeyed : ∀ t, g.tracks.get k = some t → t.trackId = k)
    (hnew : g.tracks.get k = none → k = o.preferredId) : (g.trackWith o k).trackId = k := by
  unfold trackWith
  cases hget : g.tracks.get k with
  | none => exact (Observation.preferredId_ensureDigest o).trans (hnew hget).symm
  | some t => exact (Track.absorb_trackId _ _).trans (hkeyed t hget)

theorem mem_sourceIds_trackWith {source : String} (h : source ∈ (g.trackWith o k).sourceIds) :
    (∃ t, g.tracks.get k = some t ∧ source ∈ t.sourceIds) ∨ source = o.ensureDigest.sourceId := by
  unfold trackWith at h
  cases hget : g.tracks.get k with
  | none =>
    rw [hget] at h
    exact Or.inr (List.mem_singleton.mp h)
  | some t =>
    rw [hget] at h
    exact (Track.mem_sourceIds_absorb h).imp_left fun hold => ⟨t, rfl, hold⟩

theorem ingest_traced {id : String} (h : ingest o g = (.ok id, g')) (hg : g.Traced) : g'.Traced := by
  obtain ⟨k, rfl, hnew⟩ := ingest_ok h
  refine ⟨fun k' t ht => ?_, fun k' t ht source hsource => ?_, fun o' ho' => ?_⟩
  · dsimp only at ht
    rw [Dict.get_set] at ht
    split at ht
    · rename_i hk
      cases ht
      exact hk ▸ trackId_trackWith (hg.keyed k) hnew
    · exact hg.keyed k' t ht
  · have hold : ∀ k' t, g.tracks.get k' = some t → source ∈ t.sourceIds →
        ∃ o' ∈ g.observations ++ [o.ensureDigest], o'.sourceId = source := by
      intro k' t ht hmem
      obtain ⟨o', ho', hid⟩ := hg.sourced k' t ht source hmem
      exact ⟨o', List.mem_append_left _ ho', hid⟩
    dsimp only at ht
    rw [Dict.get_set] at ht
    split at ht
    · cases ht
      rcases mem_sourceIds_trackWith hsource with ⟨t, ht, hmem⟩ | rfl
      · exact hold k t ht hmem
      · exact ⟨_, List.mem_append_right _ (List.mem_singleton_self _), rfl⟩
    · exact hold k' t ht hsource
  · -- the track under the key keeps what it had, and has the observation
    have hthere : ∀ oid, oid ∈ (g.trackWith o k).observationIds →
        ∃ t ∈ (g.tracks.set k (g.trackWith o k)).values, oid ∈ t.observationIds := fun oid hoid =>
      ⟨_, Dict.mem_values.mpr ⟨k, by rw [Dict.get_set, if_pos rfl]⟩, hoid⟩
    rcases List.mem_append.mp ho' with hold | hlast
    · obtain ⟨t, ht, hmem⟩ := hg.placed o' hold
      obtain ⟨k', hk'⟩ := Dict.mem_values.mp ht
      by_cases hsame : k = k'
      · subst hsame
        exact hthere _ (mem_observationIds_trackWith.mpr (Or.inl ⟨t, hk', hmem⟩))
      · refine ⟨t, Dict.mem_values.mpr ⟨k', ?_⟩, hmem⟩
        rw [Dict.get_set, if_neg hsame, hk']
    · rw [List.mem_singleton.mp hlast, Observation.observationId_ensureDigest]
      exact hthere _ (mem_observationIds_trackWith.mpr (Or.inr rfl))

theorem ingestMany_traced {os : List (Observation F D)} (h : g.ingestMany os = .ok g')
    (hg : g.Traced) : g'.Traced := by
  induction os generalizing g with
  | nil =>
    cases h
    exact hg
  | cons o os ih =>
    obtain ⟨id, g₁, hone, hrest⟩ := ingestMany_cons h
    exact ih hrest (ingest_traced hone hg)

end SpatialEntityGraph

end NexusC2

import NexusC2.Core.Proofs.GraphReplay
import NexusC2.Misc.LastMaximal

/-!
# What the tracks are made of

Observations are ingested into a fresh graph one after the other, and one that raises does not stop
the next. A track is at any time what the observations placed under its key make of it, so the
evidence of the tracks is that of the observations whose search for a track returned.
-/

namespace NexusC2

variable {F D : Type}

namespace Track

section

variable [PyFloatOps F]

/-- The track that observations under one key make. -/
def ofAll : List (Observation F D) → Option (Track F D)
  | [] => none
  | o :: os => some (os.foldl absorb (ofObservation o))

theorem ofAll_snoc (os : List (Observation F D)) (o : Observation F D) :
    ofAll (os ++ [o]) = some (match ofAll os with
      | none => ofObservation o
      | some t => t.absorb o) := by
  cases os with
  | nil => rfl
  | cons o' os =>
    rw [List.cons_append, ofAll, List.foldl_append]
    rfl

@[simp] theorem absorb_digests (t : Track F D) (o : Observation F D) :
    (t.absorb o).digests = t.digests ++ [o.rawDigest] := by
  unfold absorb
  dsimp only
  split <;> rfl

/-- A track has the ids and the digests of its observations. -/
theorem ofAll_evidence {os : List (Observation F D)} {t : Track F D} (h : ofAll os = some t) :
    t.observationIds = os.map Observation.observationId ∧
      t.digests = os.map Observation.rawDigest := by
  induction os using List.reverseRecOn generalizing t with
  | nil => cases h
  | append_singleton os o ih =>
    rw [ofAll_snoc] at h
    cases hos : ofAll os with
    | none =>
      rw [hos] at h
      cases h
      cases os with
      | nil => exact ⟨rfl, rfl⟩
      | cons o' os => cases hos
    | some t₀ =>
      rw [hos] at h
      cases h
      obtain ⟨hids, hdigests⟩ := ih hos
      rw [absorb_observationIds, absorb_digests, hids, hdigests, List.map_append, List.map_append]
      exact ⟨rfl, rfl⟩

/-- Position, speed and confidence are those of the observation. -/
def StateOf (t : Track F D) (o : Observation F D) : Prop :=
  t.latitude = o.latitude ∧ t.longitude = o.longitude ∧ t.speedMps = o.speedMps ∧
    t.confidence = o.confidence

/-- The order `absorb` goes by. -/
def NoMoreConfident (o o' : Observation F D) : Prop :=
  PyFloatOps.le o.confidence o'.confidence = true

instance : DecidableRel (NoMoreConfident (F := F) (D := D)) := fun o o' =>
  inferInstanceAs (Decidable (PyFloatOps.le o.confidence o'.confidence = true))

theorem StateOf.absorb {t : Track F D} {o : Observation F D} (h : t.StateOf o)
    (o' : Observation F D) : (t.absorb o').StateOf (betterOf NoMoreConfident o o') := by
  obtain ⟨hlat, hlon, hspeed, hconf⟩ := h
  unfold Track.absorb
  dsimp only
  have horder : NoMoreConfident o o' ↔ PyFloatOps.le t.confidence o'.confidence = true := by
    rw [hconf]
    rfl
  by_cases hle : PyFloatOps.le t.confidence o'.confidence = true
  · rw [if_pos hle, betterOf, if_pos (horder.mpr hle)]
    exact ⟨rfl, rfl, rfl, rfl⟩
  · rw [if_neg hle, betterOf, if_neg (fun hno => hle (horder.mp hno))]
    exact ⟨hlat, hlon, hspeed, hconf⟩

theorem StateOf.foldl {t : Track F D} {o : Observation F D} (h : t.StateOf o)
    (os : List (Observation F D)) :
    (os.foldl Track.absorb t).StateOf (os.foldl (betterOf NoMoreConfident) o) := by
  induction os generalizing t o with
  | nil => exact h
  | cons o' os ih => exact ih (h.absorb o')

/-- The state of a track is that of the last one among its most confident observations. -/
theorem ofAll_state [PyFloatOrder F] {os : List (Observation F D)} {t : Track F D}
    (h : ofAll os = some t) (hfinite : ∀ o ∈ os, PyFloatOps.isFinite o.confidence = true) :
    ∃ o, LastMaximal NoMoreConfident os o ∧ t.StateOf o := by
  cases os with
  | nil => cases h
  | cons o os =>
    cases h
    refine ⟨os.foldl (betterOf NoMoreConfident) o, ?_, StateOf.foldl ⟨rfl, rfl, rfl, rfl⟩ os⟩
    exact lastMaximal_foldl (p := fun o => PyFloatOps.isFinite o.confidence = true)
      (fun a b ha hb => PyFloatOrder.le_total _ _ ha hb)
      (fun a b c ha hb hc => PyFloatOrder.le_trans _ _ _ ha hb hc)
      (hfinite o List.mem_cons_self) fun o' ho' => hfinite o' (List.mem_cons_of_mem _ ho')

end

end Track

namespace SpatialEntityGraph

variable [PyMathOps F] [PyDateTime D]

/-! ## One observation -/

/-- The loop returns a track of the list, or the one it began with. -/
theorem nearestLoop_mem {g : SpatialEntityGraph F D} {o : Observation F D}
    {best : Option (String × Track F D)} {bestD : F} {tracks : List (String × Track F D)}
    {found : String × Track F D} (h : g.nearestLoop o best bestD tracks = .ok (some found)) :
    found ∈ tracks ∨ best = some found := by
  induction tracks generalizing best bestD with
  | nil => exact Or.inr (Except.ok.inj h)
  | cons kt rest ih =>
    obtain ⟨k, t⟩ := kt
    unfold nearestLoop at h
    obtain ⟨d, -, h⟩ := except_bind_eq_ok.mp h
    cases d with
    | none => exact (ih h).imp (List.mem_cons_of_mem _) id
    | some d =>
      dsimp only at h
      split at h
      · rcases ih h with hmem | heq
        · exact Or.inl (List.mem_cons_of_mem _ hmem)
        · cases heq
          exact Or.inl List.mem_cons_self
      · exact (ih h).imp (List.mem_cons_of_mem _) id

/-- Where no track was found there is none of the id asked for. -/
theorem findNearby_none {g : SpatialEntityGraph F D} {o : Observation F D}
    (h : g.findNearby o = .ok none) : g.tracks.get o.preferredId = none := by
  unfold findNearby at h
  cases hget : g.tracks.get o.preferredId with
  | none => rfl
  | some t =>
    rw [hget] at h
    cases h

/-- What was found is a track under its key. -/
theorem findNearby_some {g : SpatialEntityGraph F D} {o : Observation F D} {k : String}
    {t : Track F D} (h : g.findNearby o = .ok (some (k, t))) : g.tracks.get k = some t := by
  unfold findNearby at h
  cases hget : g.tracks.get o.preferredId with
  | none =>
    rw [hget] at h
    rcases nearestLoop_mem h with hmem | hnone
    · exact Dict.mem_entries.mp hmem
    · cases hnone
  | some t' =>
    rw [hget] at h
    cases h
    exact hget

variable [Sha256]

/-- What `ingest` looks for, with the observation in the list. -/
def search (g : SpatialEntityGraph F D) (o : Observation F D) :
    Except Exc (Option (String × Track F D)) :=
  findNearby { g with observations := g.observations ++ [o.ensureDigest] } o.ensureDigest

/-- The key the observation goes under; none where looking for it raises. -/
def ingestKey (g : SpatialEntityGraph F D) (o : Observation F D) : Option String :=
  match g.search o with
  | .ok none => some o.preferredId
  | .ok (some (k, _)) => some k
  | .error _ => none

/-- The observation is in the list, and in the track under its key if there is a key. -/
theorem ingest_state (g : SpatialEntityGraph F D) (o : Observation F D) :
    (ingest o g).2 =
      { g with
        observations := g.observations ++ [o.ensureDigest]
        tracks := match g.ingestKey o with
          | none => g.tracks
          | some k => g.tracks.set k (match g.tracks.get k with
            | none => Track.ofObservation o.ensureDigest
            | some t => t.absorb o.ensureDigest) } := by
  unfold ingest ingestKey
  simp only [Handler.modify_bind, Handler.get_bind]
  change ((Handler.ofExcept (g.search o) >>= _) _).2 = _
  cases hsearch : g.search o with
  | error e => rfl
  | ok found =>
    cases found with
    | none =>
      have hget := findNearby_none hsearch
      rw [Observation.preferredId_ensureDigest] at hget
      dsimp only at hget ⊢
      rw [hget, ← Observation.preferredId_ensureDigest o]
      rfl
    | some kt =>
      obtain ⟨k, t⟩ := kt
      have hget := findNearby_some hsearch
      dsimp only at hget ⊢
      rw [hget]
      rfl

/-- A new track goes under the id its observation asks for. -/
theorem ingestKey_new {g : SpatialEntityGraph F D} {o : Observation F D} {k : String}
    (hkey : g.ingestKey o = some k) (hget : g.tracks.get k = none) : k = o.preferredId := by
  unfold ingestKey at hkey
  cases hsearch : g.search o with
  | error e =>
    rw [hsearch] at hkey
    cases hkey
  | ok found =>
    cases found with
    | none =>
      rw [hsearch] at hkey
      exact (Option.some.inj hkey).symm
    | some kt =>
      obtain ⟨k', t⟩ := kt
      rw [hsearch] at hkey
      cases hkey
      have hold := findNearby_some hsearch
      dsimp only at hold
      rw [hget] at hold
      cases hold

/-- There is a key exactly when the search returns. -/
theorem isSome_ingestKey (g : SpatialEntityGraph F D) (o : Observation F D) :
    (g.ingestKey o).isSome = (g.search o).isOk := by
  unfold ingestKey
  cases g.search o with
  | error e => rfl
  | ok found => cases found <;> rfl

/-! ## A run of observations -/

/-- `SpatialEntityGraph(associate_radius_m=r)`. -/
def fresh (r : F) : SpatialEntityGraph F D := ⟨r, [], ∅⟩

/-- The graph after the observations were ingested in turn, whatever came of each. -/
def ingestEach (g : SpatialEntityGraph F D) (os : List (Observation F D)) :
    SpatialEntityGraph F D :=
  os.foldl (fun g o => (ingest o g).2) g

theorem ingestEach_snoc (g : SpatialEntityGraph F D) (os : List (Observation F D))
    (o : Observation F D) : g.ingestEach (os ++ [o]) = (ingest o (g.ingestEach os)).2 := by
  unfold ingestEach
  rw [List.foldl_append]
  rfl

theorem ingestEach_observations (g : SpatialEntityGraph F D) (os : List (Observation F D)) :
    (g.ingestEach os).observations = g.observations ++ os.map Observation.ensureDigest := by
  induction os using List.reverseRecOn with
  | nil => exact (List.append_nil _).symm
  | append_singleton os o ih =>
    rw [ingestEach_snoc, ingest_observations, ih, List.map_append, List.append_assoc]
    rfl

/-- The observations of a run, each with the key it went under. -/
def placements (g : SpatialEntityGraph F D) :
    List (Observation F D) → List (Observation F D × Option String)
  | [] => []
  | o :: os => (o.ensureDigest, g.ingestKey o) :: placements (ingest o g).2 os

theorem placements_append (g : SpatialEntityGraph F D) (os os' : List (Observation F D)) :
    g.placements (os ++ os') = g.placements os ++ (g.ingestEach os).placements os' := by
  induction os generalizing g with
  | nil => rfl
  | cons o os ih =>
    rw [List.cons_append, placements, ih]
    rfl

theorem placements_snoc (g : SpatialEntityGraph F D) (os : List (Observation F D))
    (o : Observation F D) : g.placements (os ++ [o]) =
      g.placements os ++ [(o.ensureDigest, (g.ingestEach os).ingestKey o)] :=
  placements_append g os [o]

theorem map_placements (g : SpatialEntityGraph F D) (os : List (Observation F D)) :
    (g.placements os).map Prod.fst = os.map Observation.ensureDigest := by
  induction os generalizing g with
  | nil => rfl
  | cons o os ih => exact congrArg (_ :: ·) (ih _)

theorem mem_placements {g : SpatialEntityGraph F D} {os : List (Observation F D)}
    {p : Observation F D × Option String} : p ∈ g.placements os ↔ ∃ init o, init ++ [o] <+: os ∧
      p = (o.ensureDigest, (g.ingestEach init).ingestKey o) := by
  induction os using List.reverseRecOn with
  | nil => simp [placements]
  | append_singleton os o ih =>
    rw [placements_snoc, List.mem_append, ih, List.mem_singleton]
    constructor
    · rintro (⟨init, o', hinit, rfl⟩ | rfl)
      · exact ⟨init, o', hinit.trans (List.prefix_append _ _), rfl⟩
      · exact ⟨os, o, List.prefix_rfl, rfl⟩
    · rintro ⟨init, o', hinit, rfl⟩
      rcases List.prefix_concat_iff.mp hinit with heq | hinit
      · obtain ⟨rfl, hlast⟩ := List.append_inj' heq rfl
        cases hlast
        exact Or.inr rfl
      · exact Or.inl ⟨init, o', hinit, rfl⟩

/-- The observations that went under a key, oldest first. -/
def assigned (g : SpatialEntityGraph F D) (os : List (Observation F D)) (k : String) :
    List (Observation F D) :=
  ((g.placements os).filter fun p => p.2 = some k).map Prod.fst

theorem assigned_snoc (g : SpatialEntityGraph F D) (os : List (Observation F D))
    (o : Observation F D) (k : String) : g.assigned (os ++ [o]) k =
      g.assigned os k ++ (if (g.ingestEach os).ingestKey o = some k then [o.ensureDigest] else []) := by
  unfold assigned
  rw [placements_snoc, List.filter_append, List.map_append, List.filter_singleton]
  split <;> simp_all

/-- A track is what the observations under its key make. -/
theorem tracks_get (r : F) (os : List (Observation F D)) (k : String) :
    ((fresh r).ingestEach os).tracks.get k = Track.ofAll ((fresh r).assigned os k) := by
  induction os using List.reverseRecOn with
  | nil => rfl
  | append_singleton os o ih =>
    rw [ingestEach_snoc, ingest_state, assigned_snoc]
    cases hkey : ((fresh r).ingestEach os).ingestKey o with
    | none =>
      rw [if_neg (by simp), List.append_nil]
      exact ih
    | some k' =>
      dsimp only
      rw [Dict.get_set]
      by_cases hk : k' = k
      · subst hk
        rw [if_pos rfl, if_pos rfl, Track.ofAll_snoc, ih]
      · rw [if_neg hk, if_neg (by simpa using hk), List.append_nil]
        exact ih

/-- The key of a track is its id. -/
theorem tracks_keyed (r : F) (os : List (Observation F D)) {k : String} {t : Track F D}
    (h : ((fresh r).ingestEach os).tracks.get k = some t) : t.trackId = k := by
  induction os using List.reverseRecOn generalizing t with
  | nil => cases h
  | append_singleton os o ih =>
    rw [ingestEach_snoc, ingest_state] at h
    cases hkey : ((fresh r).ingestEach os).ingestKey o with
    | none =>
      rw [hkey] at h
      exact ih h
    | some k' =>
      rw [hkey] at h
      dsimp only at h
      rw [Dict.get_set] at h
      by_cases hk : k' = k
      · subst hk
        rw [if_pos rfl] at h
        cases hget : ((fresh r).ingestEach os).tracks.get k' with
        | none =>
          rw [hget] at h
          cases h
          rw [ingestKey_new hkey hget]
          exact Observation.preferredId_ensureDigest o
        | some t₀ =>
          rw [hget] at h
          cases h
          rw [Track.absorb_trackId]
          exact ih hget
      · rw [if_neg hk] at h
        exact ih h

/-- The evidence of the tracks, up to the order: the observations that went somewhere. -/
theorem evidence_perm (r : F) (os : List (Observation F D)) :
    (((fresh r).ingestEach os).tracks.values.flatMap Track.observationIds).Perm
      ((((fresh r).placements os).filter fun p => p.2.isSome).map fun p => p.1.observationId) := by
  induction os using List.reverseRecOn with
  | nil => exact List.Perm.refl _
  | append_singleton os o ih =>
    rw [ingestEach_snoc, ingest_state, placements_snoc, List.filter_append, List.map_append]
    cases hkey : ((fresh r).ingestEach os).ingestKey o with
    | none =>
      rw [List.filter_cons_of_neg (by simp), List.filter_nil, List.map_nil, List.append_nil]
      exact ih
    | some k =>
      rw [List.filter_cons_of_pos (by simp), List.filter_nil]
      refine ((Dict.values_set_perm _ _ _).flatMap_right _).trans ?_
      rw [List.flatMap_cons]
      cases hget : ((fresh r).ingestEach os).tracks.get k with
      | none =>
        rw [Dict.erase_of_get hget]
        exact List.perm_append_comm.trans (ih.append_right _)
      | some t =>
        have hold := (Dict.values_perm hget).flatMap_right Track.observationIds
        rw [List.flatMap_cons] at hold
        rw [Track.absorb_observationIds, List.append_assoc]
        refine (List.perm_append_comm.append_left _).trans ?_
        rw [← List.append_assoc, ← List.map_singleton]
        exact (hold.symm.trans ih).append_right _

/-! ## Conservation -/

/-- The evidence of the tracks is that of the observations, each in one track. -/
structure Conserves (g : SpatialEntityGraph F D) : Prop where
  keyed : ∀ k t, g.tracks.get k = some t → t.trackId = k
  nonempty : ∀ t ∈ g.tracks.values, t.observationIds ≠ []
  digests : ∀ t ∈ g.tracks.values, t.observationIds.length = t.digests.length
  conserved : (g.tracks.values.flatMap Track.observationIds).Perm
    (g.observations.map Observation.observationId)

/-- Every track is still there, under its key, with the evidence it had and what came after. -/
def RetainedBy (g g' : SpatialEntityGraph F D) : Prop :=
  ∀ k t, g.tracks.get k = some t → ∃ t', g'.tracks.get k = some t' ∧ t'.trackId = t.trackId ∧
    t.observationIds <+: t'.observationIds ∧ t.digests <+: t'.digests

/-- At none of the observations does the search for its track raise. -/
def SearchesReturn (g : SpatialEntityGraph F D) (os : List (Observation F D)) : Prop :=
  ∀ init o, init ++ [o] <+: os → ((g.ingestEach init).search o).isOk = true

theorem searchesReturn_iff {g : SpatialEntityGraph F D} {os : List (Observation F D)} :
    g.SearchesReturn os ↔ ∀ p ∈ g.placements os, p.2.isSome = true := by
  constructor
  · intro h p hp
    obtain ⟨init, o, hinit, rfl⟩ := mem_placements.mp hp
    rw [isSome_ingestKey]
    exact h init o hinit
  · intro h init o hinit
    rw [← isSome_ingestKey]
    exact h _ (mem_placements.mpr ⟨init, o, hinit, rfl⟩)

theorem track_evidence {r : F} {os : List (Observation F D)} {t : Track F D}
    (h : t ∈ ((fresh r).ingestEach os).tracks.values) :
    t.observationIds ≠ [] ∧ t.observationIds.length = t.digests.length := by
  obtain ⟨k, hk⟩ := Dict.mem_values.mp h
  rw [tracks_get] at hk
  obtain ⟨hids, hdigests⟩ := Track.ofAll_evidence hk
  rw [hids, hdigests, List.length_map, List.length_map]
  refine ⟨fun hnil => ?_, rfl⟩
  rw [List.map_eq_nil_iff.mp hnil] at hk
  cases hk

theorem retainedBy_ingestEach (r : F) {init os : List (Observation F D)} (h : init <+: os) :
    ((fresh r).ingestEach init).RetainedBy ((fresh r).ingestEach os) := by
  intro k t ht
  have hmore : (fresh r).assigned init k <+: (fresh r).assigned os k := by
    obtain ⟨rest, rfl⟩ := h
    unfold assigned
    rw [placements_append, List.filter_append, List.map_append]
    exact List.prefix_append _ _
  rw [tracks_get] at ht
  obtain ⟨hids, hdigests⟩ := Track.ofAll_evidence ht
  cases ht' : Track.ofAll ((fresh r).assigned os k) with
  | none =>
    cases hos : (fresh r).assigned os k with
    | nil =>
      rw [hos, List.prefix_nil] at hmore
      rw [hmore] at ht
      cases ht
    | cons o rest =>
      rw [hos] at ht'
      cases ht'
  | some t' =>
    obtain ⟨hids', hdigests'⟩ := Track.ofAll_evidence ht'
    refine ⟨t', by rw [tracks_get, ht'], ?_, ?_, ?_⟩
    · rw [tracks_keyed r os (by rw [tracks_get, ht']), tracks_keyed r init (by rw [tracks_get, ht])]
    · rw [hids, hids']
      exact hmore.map _
    · rw [hdigests, hdigests']
      exact hmore.map _

/-- Whatever is ingested, the tracks keep all the evidence, each piece in one track, exactly when
no search for a track raises: the observation of a search that raises is in the list and in no
track. -/
theorem evidence_conserved_iff (r : F) (os : List (Observation F D)) :
    (((fresh r).ingestEach os).Conserves ∧
      ∀ init, init <+: os → ((fresh r).ingestEach init).RetainedBy ((fresh r).ingestEach os)) ↔
    (fresh r : SpatialEntityGraph F D).SearchesReturn os := by
  have hids : ((fresh r).ingestEach os).observations.map Observation.observationId =
      ((fresh r).placements os).map fun p => p.1.observationId := by
    rw [ingestEach_observations]
    change (os.map Observation.ensureDigest).map Observation.observationId = _
    rw [← map_placements (fresh r), List.map_map]
    rfl
  rw [searchesReturn_iff]
  constructor
  · rintro ⟨hconserves, -⟩
    -- a placement that is filtered out is one that the other side still counts
    have hlength := ((evidence_perm r os).symm.trans hconserves.conserved).length_eq
    rw [hids, List.length_map, List.length_map] at hlength
    exact List.length_filter_eq_length_iff.mp hlength
  · intro hall
    refine ⟨⟨fun k t => tracks_keyed r os, fun t ht => (track_evidence ht).1,
      fun t ht => (track_evidence ht).2, ?_⟩, fun init => retainedBy_ingestEach r⟩
    have hperm := evidence_perm r os
    rwa [List.filter_eq_self.mpr hall, ← hids] at hperm

/-- A contact at a longitude, with its id for a digest. -/
def contact (observationId sourceId modality : String) (longitude confidence : Whole)
    (attributes : Fields Whole) : Observation Whole Instant :=
  { observationId := observationId
    sourceId := sourceId
    entityHint := ""
    latitude := .num 1
    longitude := longitude
    altitudeM := none
    speedMps := .num 5
    headingDeg := none
    confidence := confidence
    observedAt := ⟨0⟩
    modality := modality
    attributes := attributes
    rawDigest := observationId }

/-- A SAR contact with a heading that is no number, and a radar contact too far from it to be told
the same by their positions alone. -/
def wordyHeading : List (Observation Whole Instant) :=
  [contact "o-1" "sar" "space_sar" (.num 0) (.num 1) [("heading_deg", .str "north")],
    contact "o-2" "radar" "radar" (.num 120) (.num 1) []]

omit [Sha256] in
theorem evidence_dropped :
    letI := plainHash
    ¬ (((fresh 2000.0).ingestEach wordyHeading).Conserves ∧
      ∀ init, init <+: wordyHeading →
        ((fresh 2000.0).ingestEach init).RetainedBy ((fresh 2000.0).ingestEach wordyHeading)) := by
  let := plainHash
  rintro ⟨hconserves, -⟩
  have htracks : ((fresh 2000.0).ingestEach wordyHeading).tracks.values.flatMap
      Track.observationIds = ["o-1"] := by decide
  have hlist : ((fresh 2000.0).ingestEach wordyHeading).observations.map
      Observation.observationId = ["o-1", "o-2"] := by decide
  have hlength := hconserves.conserved.length_eq
  rw [htracks, hlist] at hlength
  cases hlength

/-! ## The state of a track -/

/-- The state of a track is as a whole that of one observation that went to it: the last one among
the most confident. -/
theorem state_of_last_maximal [PyFloatOrder F] (r : F) {os : List (Observation F D)}
    (hfinite : ∀ o ∈ os, PyFloatOps.isFinite o.confidence = true) {k : String} {t : Track F D}
    (h : ((fresh r).ingestEach os).tracks.get k = some t) :
    t.observationIds = ((fresh r).assigned os k).map Observation.observationId ∧
      ∃ o, LastMaximal Track.NoMoreConfident ((fresh r).assigned os k) o ∧ t.StateOf o := by
  rw [tracks_get] at h
  refine ⟨(Track.ofAll_evidence h).1, Track.ofAll_state h fun o ho => ?_⟩
  obtain ⟨p, hp, rfl⟩ := List.mem_map.mp ho
  obtain ⟨init, o, hinit, rfl⟩ := mem_placements.mp (List.mem_filter.mp hp).1
  rw [Observation.confidence_ensureDigest]
  exact hfinite o (hinit.subset (by simp))

/-- Three contacts of one source: the second is as confident as the last one, the first is not. -/
def threeContacts : List (Observation Whole Instant) :=
  [contact "o-1" "radar" "radar" (.num 0) (.num 1) [],
    contact "o-2" "radar" "radar" (.num 3) (.num 2) [],
    contact "o-3" "radar" "radar" (.num 4) (.num 2) []]

omit [Sha256] in
theorem state_of_last_maximal_threeContacts :
    letI := plainHash
    ∃ t, ((fresh 2000.0).ingestEach threeContacts).tracks.get "radar" = some t ∧
      t.longitude = .num 4 ∧
      t.observationIds = ((fresh 2000.0).assigned threeContacts "radar").map
        Observation.observationId ∧
      ∃ o, LastMaximal Track.NoMoreConfident ((fresh 2000.0).assigned threeContacts "radar") o ∧
        t.StateOf o := by
  let := plainHash
  exact ⟨_, rfl, rfl, state_of_last_maximal 2000.0 (by decide) rfl⟩

end SpatialEntityGraph

end NexusC2

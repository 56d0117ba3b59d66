import NexusC2.App.Proofs.FindingSources
import Mathlib.Data.Finset.Card

/-!
# The counts of the fusion bench

On an ingested picture the detector reports a disagreement exactly when the air radar resolves two
tracks or more and an optical site sees fewer of them, or the two sites do not see as many; or, where
all the lines of bearing are negative, when the radar resolves five or more. Only the number of
distinct tracks counts, whatever order they came in and however often. The finding is about a track
that holds a radar contact.
-/

namespace NexusC2

namespace Fusion

section

variable {F D : Type} [PyFloatOps F]

/-- The distinct tracks the observations name. -/
def named (obs : List (Observation F D)) : Finset String :=
  (((obs.map trackName).filter Json.truth).map Json.pyStr).toFinset

theorem uniqueTracks_eq (obs : List (Observation F D)) : uniqueTracks obs =
    (((obs.map trackName).filter Json.truth).map Json.pyStr).foldl appendNew [] := by
  rw [List.foldl_map]
  rfl

/-- As many tracks are counted as are named. -/
theorem length_uniqueTracks (obs : List (Observation F D)) :
    (uniqueTracks obs).length = (named obs).card := by
  rw [uniqueTracks_eq, named,
    ← List.toFinset_card_of_nodup (nodup_foldl_appendNew (List.nodup_nil (α := String)))]
  congr 1
  ext name
  simp [mem_foldl_appendNew]

/-- The tracks a site names early, or all it names where it names none early. -/
def namedEarly (obs : List (Observation F D)) : Finset String :=
  let early := named (obs.filter fun o => holds (earlyStamp o))
  if early = ∅ then named obs else early

theorem length_earlyTracks {obs : List (Observation F D)} {tracks : List String}
    (h : earlyTracks obs = .ok tracks) : tracks.length = (namedEarly obs).card := by
  obtain ⟨early, hearly, h⟩ := except_bind_eq_ok.mp h
  obtain ⟨-, rfl⟩ := except_filterM_eq_ok.mp hearly
  cases h
  have hempty : (uniqueTracks (obs.filter fun o => holds (earlyStamp o))).isEmpty = true ↔
      named (obs.filter fun o => holds (earlyStamp o)) = ∅ := by
    rw [List.isEmpty_iff_length_eq_zero, length_uniqueTracks, Finset.card_eq_zero]
  unfold namedEarly
  by_cases hnone : named (obs.filter fun o => holds (earlyStamp o)) = ∅
  · rw [if_pos hnone, if_pos (hempty.mpr hnone), length_uniqueTracks]
  · rw [if_neg hnone, if_neg fun h => hnone (hempty.mp h), length_uniqueTracks]

end

/-! ## The track -/

section

variable {F D : Type}

/-- The loop ends at a key where it began with one, or where a track holds a contact. -/
theorem trackLoop_ne_none {airRadar : List (Observation F D)} {start : Option String}
    {tracks : List (String × Track F D)}
    (h : start ≠ none ∨ ∃ p ∈ tracks, HoldsOne airRadar p.2) :
    trackLoop airRadar start tracks ≠ none := by
  induction tracks generalizing start with
  | nil =>
    rcases h with hstart | ⟨p, hp, -⟩
    · exact hstart
    · cases hp
  | cons p tracks ih =>
    obtain ⟨tid, track⟩ := p
    unfold trackLoop
    dsimp only
    split
    · rename_i hnone
      split at hnone
      · cases hnone
      · rename_i hany
        refine ih (Or.inr ?_)
        rcases h with hstart | ⟨p, hp, hholds⟩
        · exact absurd hnone hstart
        · rcases List.mem_cons.mp hp with rfl | hp
          · exact absurd (by simpa [HoldsOne] using hholds) hany
          · exact ⟨p, hp, hholds⟩
    · split
      · exact ih (Or.inl (by simp))
      · simp

end

/-! ## The answer -/

section

variable {F D : Type} [PyMathOps F] {graph : SpatialEntityGraph F D} {answer : Option (Finding F)}

/-- The number of tracks of the air radar, and of either optical site. -/
def radarCount (graph : SpatialEntityGraph F D) : Nat := (named (bySource graph "AIR_RADAR")).card
def airCount (graph : SpatialEntityGraph F D) : Nat := (namedEarly (bySource graph "AIR_EOIR")).card
def armyCount (graph : SpatialEntityGraph F D) : Nat := (namedEarly (bySource graph "ARMY_EOIR")).card

/-- An optical site sees fewer tracks than the radar, or the two do not see as many. -/
def Disagrees (graph : SpatialEntityGraph F D) : Prop :=
  airCount graph < radarCount graph ∨ armyCount graph < radarCount graph ∨
    airCount graph ≠ armyCount graph

/-- There are lines of bearing, and each is negative. -/
def Silent (graph : SpatialEntityGraph F D) : Prop :=
  let ew := bySource graph "AIR_EW" ++ bySource graph "ARMY_EW"
  ew ≠ [] ∧ ∀ o ∈ ew, rfNegative o = true

/-- How far the counts of the sites are from that of the radar. -/
def apart (graph : SpatialEntityGraph F D) : Int :=
  ((radarCount graph : Int) - airCount graph).natAbs +
    ((radarCount graph : Int) - armyCount graph).natAbs

/-- What is resolved, by the counts. -/
theorem resolve_ok {p : FusionPicture F D} (h : resolve graph = .ok p) :
    p.airRadar = bySource graph "AIR_RADAR" ∧ p.radarTracks.length = radarCount graph ∧
      (countDisagree p = true ↔ Disagrees graph) ∧ (ewNegative p.ew = true ↔ Silent graph) ∧
      ∀ m, mismatchOf p = .ok m → ∃ x, PyFloatOps.ofInt (apart graph) = some x ∧ m = x * (500.0 : F) := by
  obtain ⟨air, hair, h⟩ := except_bind_eq_ok.mp h
  obtain ⟨army, harmy, h⟩ := except_bind_eq_ok.mp h
  cases h
  have hradarCount := length_uniqueTracks (bySource graph "AIR_RADAR")
  have hairCount := length_earlyTracks hair
  have harmyCount := length_earlyTracks harmy
  refine ⟨rfl, hradarCount, ?_, ?_, fun m hm => ?_⟩
  · simp only [countDisagree, hradarCount, hairCount, harmyCount, Bool.or_eq_true, decide_eq_true_eq,
      or_assoc]
    rfl
  · simp only [ewNegative, Bool.and_eq_true, Bool.not_eq_true', List.isEmpty_eq_false_iff,
      List.all_eq_true]
    rfl
  · simp only [mismatchOf, hradarCount, hairCount, harmyCount] at hm
    split at hm
    · rename_i x hx
      cases hm
      exact ⟨x, hx, rfl⟩
    · cases hm

/-- On an ingested picture, an answer is a finding exactly where the radar resolves two tracks and the
counts disagree, or five and no emitter is heard; it tells how far the counts are apart, and it is
about a track that holds a radar contact. -/
theorem detect_counts [PyDateTime D] [Sha256] {r : F} {os : List (Observation F D)}
    (hgraph : (SpatialEntityGraph.fresh r).ingestMany os = .ok graph)
    (h : detect graph = .ok answer) :
    (answer ≠ none ↔ 2 ≤ radarCount graph ∧
      (Disagrees graph ∨ Silent graph ∧ 5 ≤ radarCount graph)) ∧
    ∀ f, answer = some f →
      (∃ x, PyFloatOps.ofInt (apart graph) = some x ∧ f.mismatchM = x * (500.0 : F)) ∧
      ∃ track, graph.tracks.get f.trackId = some track ∧
        HoldsOne (bySource graph "AIR_RADAR") track := by
  have htraced := SpatialEntityGraph.ingestMany_traced hgraph (SpatialEntityGraph.traced_fresh r)
  unfold detect at h
  split at h
  · -- no radar contact: no track is named
    rename_i hempty
    cases h
    have hzero : radarCount graph = 0 := by
      rw [radarCount, List.isEmpty_iff.mp hempty]
      rfl
    refine ⟨⟨fun hne => absurd rfl hne, fun hcount => ?_⟩, fun f hf => by cases hf⟩
    omega
  rename_i hradar
  obtain ⟨p, hp, h⟩ := except_bind_eq_ok.mp h
  obtain ⟨hairRadar, hcount, hdisagree, hsilent, hmismatch⟩ := resolve_ok hp
  rw [hcount] at h
  split at h
  · rename_i hfew
    cases h
    refine ⟨⟨fun hne => absurd rfl hne, fun hcount => ?_⟩, fun f hf => by cases hf⟩
    omega
  rename_i hmany
  have hagrees : (!countDisagree p && !(ewNegative p.ew && 5 ≤ radarCount graph)) = true ↔
      ¬ (Disagrees graph ∨ Silent graph ∧ 5 ≤ radarCount graph) := by
    rw [← hdisagree, ← hsilent]
    cases countDisagree p <;> cases ewNegative p.ew <;> simp
  split at h
  · rename_i hagree
    cases h
    exact ⟨⟨fun hne => absurd rfl hne, fun hall => absurd hall.2 (hagrees.mp hagree)⟩,
      fun f hf => by cases hf⟩
  rename_i hreport
  have hcause : Disagrees graph ∨ Silent graph ∧ 5 ≤ radarCount graph :=
    not_not.mp fun hnone => hreport (hagrees.mpr hnone)
  -- every radar contact is in a track, so the loop ends at one
  have hloop : trackLoop p.airRadar none graph.tracks.entries ≠ none := by
    obtain ⟨o, ho⟩ := List.exists_mem_of_ne_nil _ (fun hnil => hradar (List.isEmpty_iff.mpr hnil))
    obtain ⟨t, ht, hmem⟩ := htraced.placed o (List.mem_of_mem_filter ho)
    obtain ⟨k, hk⟩ := Dict.mem_values.mp ht
    exact trackLoop_ne_none (Or.inr ⟨(k, t), Dict.mem_entries.mpr hk, o, hairRadar ▸ ho, hmem⟩)
  split at h
  · rename_i hnone
    exact absurd hnone hloop
  rename_i trackId htrack
  obtain ⟨m, hm, h⟩ := except_bind_eq_ok.mp h
  cases h
  refine ⟨⟨fun _ => ⟨by omega, hcause⟩, fun _ => by simp⟩, fun f hf => ?_⟩
  cases hf
  refine ⟨hmismatch m hm, ?_⟩
  rcases trackLoop_some htrack with hstart | ⟨t, ht, hholds⟩
  · cases hstart
  · exact ⟨t, Dict.mem_entries.mp ht, hairRadar ▸ hholds⟩

end

/-- A contact of a site. -/
def siteContact (id source trackId : String) : Observation Rat Instant :=
  { observationId := id
    sourceId := source
    entityHint := trackId
    latitude := 1
    longitude := 103
    altitudeM := none
    speedMps := 40
    headingDeg := none
    confidence := 1
    observedAt := ⟨0⟩
    modality := "radar"
    attributes := [("source", .str source), ("track_id", .str trackId)]
    rawDigest := id }

/-- Two tracks of the radar, one of them twice, and one of an optical site. -/
def benchContacts : List (Observation Rat Instant) :=
  [siteContact "o-1" "AIR_RADAR" "R-1", siteContact "o-2" "AIR_RADAR" "R-2",
    siteContact "o-3" "AIR_RADAR" "R-1", siteContact "o-4" "AIR_EOIR" "R-2"]

theorem detect_counts_bench :
    letI := plainHash
    letI := exactMath
    ∃ graph f, (SpatialEntityGraph.fresh 2000).ingestMany benchContacts = .ok graph ∧
      detect graph = .ok (some f) ∧ 2 ≤ radarCount graph ∧
      ∃ track, graph.tracks.get f.trackId = some track ∧
        HoldsOne (bySource graph "AIR_RADAR") track := by
  let := plainHash
  let := exactMath
  obtain ⟨f, hf⟩ := AisSpoof.hasFinding_iff.mp (by decide +kernel : AisSpoof.hasFinding
    ((SpatialEntityGraph.fresh (2000 : Rat)).ingestMany benchContacts >>= detect) = true)
  obtain ⟨graph, hgraph, hf⟩ := except_bind_eq_ok.mp hf
  obtain ⟨hcause, hfound⟩ := detect_counts hgraph hf
  obtain ⟨-, htrack⟩ := hfound f rfl
  exact ⟨graph, f, hgraph, hf, (hcause.mp (by simp)).1, htrack⟩

end Fusion

end NexusC2

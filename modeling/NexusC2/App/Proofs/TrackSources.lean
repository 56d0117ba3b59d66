import NexusC2.App.Southbound
import NexusC2.Core.Proofs.TrackHistory
import Mathlib.Data.Int.ConditionallyCompleteOrder

/-!
# Which observation a track shows

An observation replaces the kinematics of its track unless it is less confident, and it always
writes its attributes and its time over those of the track. So speed and position are those of one
observation (`kinematicSource`), the time and the `speed_kt` among the attributes those of the last
one, and the two views of the speed agree where these are the same.
-/

namespace NexusC2

variable {F D : Type}

namespace Track

variable [PyFloatOps F]

/-- The observation the kinematics come from: each replaces the one before, unless it is less
confident. -/
def kinematicSource : List (Observation F D) → Option (Observation F D)
  | [] => none
  | o :: os => some (os.foldl (betterOf NoMoreConfident) o)

theorem kinematicSource_mem {os : List (Observation F D)} {o : Observation F D}
    (h : kinematicSource os = some o) : o ∈ os := by
  cases os with
  | nil => cases h
  | cons o' os =>
    cases h
    exact foldl_betterOf_mem

@[simp] theorem absorb_updatedAt (t : Track F D) (o : Observation F D) :
    (t.absorb o).updatedAt = o.observedAt := rfl

@[simp] theorem absorb_attributes (t : Track F D) (o : Observation F D) :
    (t.absorb o).attributes = Assoc.update t.attributes o.attributes := by
  unfold absorb
  dsimp only
  split <;> rfl

/-- The kinematics of a track are those of its source. -/
theorem ofAll_kinematics {os : List (Observation F D)} {t : Track F D} (h : ofAll os = some t) :
    ∃ o, kinematicSource os = some o ∧ t.StateOf o := by
  cases os with
  | nil => cases h
  | cons o os =>
    cases h
    exact ⟨_, rfl, StateOf.foldl ⟨rfl, rfl, rfl, rfl⟩ os⟩

/-- The time of a track is that of its last observation. -/
theorem ofAll_updatedAt {os : List (Observation F D)} {t : Track F D} (h : ofAll os = some t) :
    ∃ o, os.getLast? = some o ∧ t.updatedAt = o.observedAt := by
  induction os using List.reverseRecOn with
  | nil => cases h
  | append_singleton os o ih =>
    rw [ofAll_snoc] at h
    refine ⟨o, List.getLast?_concat, ?_⟩
    cases hos : ofAll os with
    | none =>
      rw [hos] at h
      cases h
      rfl
    | some t₀ =>
      rw [hos] at h
      cases h
      rfl

end Track

/-! ## The time of a track -/

namespace SpatialEntityGraph

variable [PyMathOps F] [PyDateTime D] [Sha256]

/-- The time of a track is that of the observation that went to it last. Where they came in the
order of their times, it is the latest of them and has never moved back. -/
theorem updatedAt_of_last [Preorder D] (r : F) {os : List (Observation F D)} {k : String}
    {t : Track F D} (h : ((fresh r).ingestEach os).tracks.get k = some t) :
    (∃ o, ((fresh r).assigned os k).getLast? = some o ∧ t.updatedAt = o.observedAt) ∧
    (((fresh r).assigned os k).Pairwise (fun o o' => o.observedAt ≤ o'.observedAt) →
      (∀ o ∈ (fresh r).assigned os k, o.observedAt ≤ t.updatedAt) ∧
      ∀ init, init <+: os → ∀ t', ((fresh r).ingestEach init).tracks.get k = some t' →
        t'.updatedAt ≤ t.updatedAt) := by
  have hupdated : ∀ {os : List (Observation F D)} {t : Track F D},
      ((fresh r).ingestEach os).tracks.get k = some t →
        ∃ o, ((fresh r).assigned os k).getLast? = some o ∧ t.updatedAt = o.observedAt := by
    intro os t h
    rw [tracks_get] at h
    exact Track.ofAll_updatedAt h
  refine ⟨hupdated h, fun horder => ?_⟩
  obtain ⟨last, hlast, htime⟩ := hupdated h
  have hlatest : ∀ o ∈ (fresh r).assigned os k, o.observedAt ≤ t.updatedAt := by
    obtain ⟨before, hbefore⟩ := List.getLast?_eq_some_iff.mp hlast
    rw [hbefore, List.pairwise_append] at horder
    intro o ho
    rw [hbefore, List.mem_append, List.mem_singleton] at ho
    rw [htime]
    rcases ho with ho | rfl
    · exact horder.2.2 o ho last List.mem_cons_self
    · exact le_refl _
  refine ⟨hlatest, ?_⟩
  intro init hinit t' ht'
  obtain ⟨last', hlast', htime'⟩ := hupdated ht'
  rw [htime']
  apply hlatest
  obtain ⟨rest, rfl⟩ := hinit
  unfold assigned at hlast' ⊢
  rw [placements_append, List.filter_append, List.map_append]
  exact List.mem_append_left _ (List.mem_of_getLast? hlast')

/-- A contact of one track at a time. -/
def contactAt (observationId modality : String) (micros : Int) : Observation Whole Instant :=
  { contact observationId "radar" modality (.num 0) (.num 1) [] with observedAt := ⟨micros⟩ }

omit [Sha256] in
/-- An old SAR contact after a newer radar contact of the same track. -/
theorem updatedAt_moves_back :
    letI := plainHash
    let os := [contactAt "o-1" "radar" 10, contactAt "o-2" "space_sar" 5]
    ∃ t t', ((fresh 2000.0).ingestEach (os.take 1)).tracks.get "radar" = some t ∧
      ((fresh 2000.0).ingestEach os).tracks.get "radar" = some t' ∧
      t'.updatedAt.micros < t.updatedAt.micros ∧
      ¬ ∀ o ∈ (fresh 2000.0).assigned os "radar", o.observedAt.micros ≤ t'.updatedAt.micros := by
  let := plainHash
  exact ⟨_, _, rfl, rfl, by decide, by decide⟩

omit [Sha256] in
theorem updatedAt_of_last_inOrder :
    letI := plainHash
    letI : Preorder Instant := Preorder.lift Instant.micros
    let os := [contactAt "o-1" "space_sar" 5, contactAt "o-2" "radar" 10]
    ∃ t, ((fresh 2000.0).ingestEach os).tracks.get "radar" = some t ∧ t.updatedAt = ⟨10⟩ ∧
      ∀ o ∈ (fresh 2000.0).assigned os "radar", o.observedAt ≤ t.updatedAt := by
  let := plainHash
  let : Preorder Instant := Preorder.lift Instant.micros
  have horder : ((fresh 2000.0).assigned [contactAt "o-1" "space_sar" 5, contactAt "o-2" "radar" 10]
      "radar").Pairwise (fun o o' => o.observedAt.micros ≤ o'.observedAt.micros) := by decide
  exact ⟨_, rfl, rfl, ((updatedAt_of_last 2000.0 rfl).2 horder).1⟩

end SpatialEntityGraph

/-! ## The speed of a track -/

namespace Southbound

/-- `speed_mps == kt_to_mps(attributes["speed_kt"])`. -/
def SpeedMatches [PyFloatOps F] (speedMps : F) (attributes : Fields F) : Prop :=
  ∃ knots, Assoc.get attributes "speed_kt" = some (.float knots) ∧ speedMps = ktToMps knots

/-- The attributes of the observation begin with its speed in knots, and do not name it again. -/
def Normalized [PyFloatOps F] (o : Observation F D) : Prop :=
  ∃ knots rest, o.attributes = ("speed_kt", .float knots) :: rest ∧
    "speed_kt" ∉ Assoc.keys rest ∧ o.speedMps = ktToMps knots

theorem Normalized.get [PyFloatOps F] {o : Observation F D} (h : Normalized o) :
    ∃ knots, Assoc.get o.attributes "speed_kt" = some (.float knots) ∧
      o.speedMps = ktToMps knots ∧ ∀ d : Fields F,
        Assoc.get (Assoc.update d o.attributes) "speed_kt" = some (.float knots) := by
  obtain ⟨knots, rest, hattributes, hrest, hspeed⟩ := h
  refine ⟨knots, ?_, hspeed, ?_⟩
  · rw [hattributes]
    rfl
  · intro d
    rw [hattributes]
    have hlater : Assoc.get (Assoc.update (Assoc.set d "speed_kt" (.float knots)) rest) "speed_kt" =
        some (.float knots) := by
      rw [Assoc.get_update_of_not_mem hrest]
      simp
    exact hlater

theorem not_mem_keys_without [PyFloatOps F] {keys : List String} {key : String} (h : key ∈ keys)
    (row : Fields F) : key ∉ Assoc.keys (without keys row) := by
  intro hmem
  obtain ⟨p, hp, rfl⟩ := List.mem_map.mp hmem
  have hkept := (List.mem_filter.mp hp).2
  simp [h] at hkept

section

variable [PyTextOps F] [PyDateTime D] [Sha256]

theorem ensureDigest_normalized {o : Observation F D} (h : Normalized o) :
    Normalized o.ensureDigest := by
  unfold Observation.ensureDigest
  split
  · exact h
  · exact h

/-- What is normalised has the speed its attributes tell. -/
theorem normalizeSensorEvent_normalized {host : Host F D} {event : Fields F}
    {o : Observation F D} (h : normalizeSensorEvent host event = .ok o) : Normalized o := by
  obtain ⟨accepted, -, h⟩ := except_bind_eq_ok.mp h
  obtain ⟨new, speedKt, rfl, -, hspeed, hattributes⟩ := observationOf_ok h
  apply ensureDigest_normalized
  exact ⟨speedKt, _, hattributes, not_mem_keys_without (by decide) accepted, hspeed⟩

omit [Sha256] [PyDateTime D] in
/-- The `speed_kt` of a track is that of its last observation. -/
theorem ofAll_speedKt {os : List (Observation F D)} {t : Track F D} (h : Track.ofAll os = some t)
    (hnormalized : ∀ o ∈ os, Normalized o) :
    ∃ o, os.getLast? = some o ∧
      Assoc.get t.attributes "speed_kt" = Assoc.get o.attributes "speed_kt" := by
  induction os using List.reverseRecOn with
  | nil => cases h
  | append_singleton os o ih =>
    refine ⟨o, List.getLast?_concat, ?_⟩
    rw [Track.ofAll_snoc] at h
    cases hos : Track.ofAll os with
    | none =>
      rw [hos] at h
      cases h
      rfl
    | some t₀ =>
      rw [hos] at h
      cases h
      obtain ⟨knots, hget, -, hupdate⟩ := (hnormalized o (by simp)).get
      rw [Track.absorb_attributes, hupdate, hget]

open SpatialEntityGraph in
/-- Where sensor events are ingested, the speed of a track is that of its kinematic source and its
`speed_kt` that of its last observation. The two agree where this is one observation. -/
theorem speed_of_sources (r : F) {os : List (Observation F D)}
    (hevents : ∀ o ∈ os, ∃ host event, normalizeSensorEvent host event = .ok o) {k : String}
    {t : Track F D} (h : ((fresh r).ingestEach os).tracks.get k = some t) :
    ∃ source last, Track.kinematicSource ((fresh r).assigned os k) = some source ∧
      ((fresh r).assigned os k).getLast? = some last ∧
      SpeedMatches t.speedMps source.attributes ∧
      (∃ knots, Assoc.get last.attributes "speed_kt" = some (.float knots) ∧
        Assoc.get t.attributes "speed_kt" = some (.float knots)) ∧
      (source = last → SpeedMatches t.speedMps t.attributes) := by
  have hnormalized : ∀ o ∈ (fresh r).assigned os k, Normalized o := by
    intro o ho
    obtain ⟨p, hp, rfl⟩ := List.mem_map.mp ho
    obtain ⟨init, o, hinit, rfl⟩ := mem_placements.mp (List.mem_filter.mp hp).1
    obtain ⟨host, event, hevent⟩ := hevents o (hinit.subset (by simp))
    exact ensureDigest_normalized (normalizeSensorEvent_normalized hevent)
  rw [tracks_get] at h
  obtain ⟨source, hsource, -, -, hspeed, -⟩ := Track.ofAll_kinematics h
  obtain ⟨last, hlast, hattributes⟩ := ofAll_speedKt h hnormalized
  obtain ⟨knots, hknots, hmps, -⟩ := (hnormalized source (Track.kinematicSource_mem hsource)).get
  obtain ⟨lastKnots, hlastKnots, -⟩ := (hnormalized last (List.mem_of_getLast? hlast)).get
  have hmatches : SpeedMatches t.speedMps source.attributes :=
    ⟨knots, hknots, by rw [hspeed, hmps]⟩
  refine ⟨source, last, hsource, hlast, hmatches,
    ⟨lastKnots, hlastKnots, by rw [hattributes, hlastKnots]⟩, ?_⟩
  rintro rfl
  unfold SpeedMatches
  rw [hattributes]
  exact hmatches

end

/-! ## Two events of one track -/

/-- A radar event with a speed and a confidence in tenths. -/
def radarEvent (speedKt tenths : Int) : Fields Rat :=
  [("source_id", .str "radar"), ("latitude", .int 1), ("longitude", .int 103),
    ("speed_kt", .int speedKt), ("confidence", .float (tenths / 10))]

/-- The track of two radar events: its speed in both views. -/
def twoSpeeds [PyTextOps Rat] [Sha256] (os : List (Observation Rat Instant)) :
    Option (Rat × Option Rat) :=
  (((SpatialEntityGraph.fresh 2000).ingestEach os).tracks.get "radar").map fun t =>
    (t.speedMps, (Assoc.get t.attributes "speed_kt").bind fun v => (pyFloat v).toOption)

/-- A slow contact of high confidence and a fast one of low confidence: the track is slow in metres
per second and fast in knots. -/
theorem speed_views_differ :
    letI := plainHash
    letI := exactText
    ∃ os t, [radarEvent 10 9, radarEvent 20 5].mapM (normalizeSensorEvent stoppedHost) = .ok os ∧
      ((SpatialEntityGraph.fresh 2000).ingestEach os).tracks.get "radar" = some t ∧
      ¬ SpeedMatches t.speedMps t.attributes := by
  let := plainHash
  let := exactText
  obtain ⟨os, hos⟩ := except_isOk_iff.mp (by decide +kernel :
    ([radarEvent 10 9, radarEvent 20 5].mapM (normalizeSensorEvent stoppedHost)).isOk = true)
  have hspeeds : (([radarEvent 10 9, radarEvent 20 5].mapM
      (normalizeSensorEvent stoppedHost)).toOption.bind twoSpeeds) =
      some (10 * 0.514444, some 20) := by
    decide +kernel
  rw [hos] at hspeeds
  obtain ⟨t, ht, hviews⟩ := Option.map_eq_some_iff.mp hspeeds
  obtain ⟨hmps, hknots⟩ := Prod.mk.inj hviews
  refine ⟨os, t, hos, ht, ?_⟩
  rintro ⟨knots, hget, hspeed⟩
  rw [hget] at hknots
  cases hknots
  rw [hmps] at hspeed
  exact absurd hspeed (by decide +kernel)

theorem speed_of_sources_rising :
    letI := plainHash
    letI := exactText
    ∃ os t, [radarEvent 10 5, radarEvent 20 9].mapM (normalizeSensorEvent stoppedHost) = .ok os ∧
      ((SpatialEntityGraph.fresh 2000).ingestEach os).tracks.get "radar" = some t ∧
      t.speedMps = 20 * 0.514444 ∧
      ∃ source, SpeedMatches t.speedMps source.attributes ∧
        Track.kinematicSource ((SpatialEntityGraph.fresh 2000).assigned os "radar") =
          some source := by
  let := plainHash
  let := exactText
  obtain ⟨os, hos⟩ := except_isOk_iff.mp (by decide +kernel :
    ([radarEvent 10 5, radarEvent 20 9].mapM (normalizeSensorEvent stoppedHost)).isOk = true)
  have hspeeds : (([radarEvent 10 5, radarEvent 20 9].mapM
      (normalizeSensorEvent stoppedHost)).toOption.bind twoSpeeds) =
      some (20 * 0.514444, some 20) := by
    decide +kernel
  rw [hos] at hspeeds
  obtain ⟨t, ht, hviews⟩ := Option.map_eq_some_iff.mp hspeeds
  have hevents : ∀ o ∈ os, ∃ host event, normalizeSensorEvent host event = .ok o := by
    intro o ho
    obtain ⟨event, -, hevent⟩ := except_mapM_mem hos ho
    exact ⟨stoppedHost, event, hevent⟩
  obtain ⟨source, last, hsource, -, hmatches, -⟩ := speed_of_sources 2000 hevents ht
  exact ⟨os, t, hos, ht, (Prod.mk.inj hviews).1, source, hmatches, hsource⟩

end Southbound

end NexusC2

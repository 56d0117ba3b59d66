import NexusC2.App.Proofs.SpoofedTrack
import NexusC2.App.TrojanDetector
import NexusC2.Core.Proofs.TrackHistory

/-!
# The Trojan pair

Whenever the detector answers on an ingested picture, it finds something exactly where there are a
slow AIS contact and a fast radar contact, however far apart. The finding is about two of them that
no other two are nearer than, and about a track that holds the radar contact.
-/

namespace NexusC2

namespace Trojan

section

variable {F D : Type} [PyMathOps F]

/-- A slow AIS contact. -/
def SlowAis (graph : SpatialEntityGraph F D) (o : Observation F D) : Prop :=
  o ∈ aisObs graph ∧ ∃ s, speedKt o = .ok s ∧ PyFloatOps.le s (15.0 : F) = true

/-- A fast radar contact. -/
def FastRadar (graph : SpatialEntityGraph F D) (o : Observation F D) : Prop :=
  o ∈ radarObs graph ∧ ∃ s, speedKt o = .ok s ∧ PyFloatOps.le (80.0 : F) s = true

variable {graph : SpatialEntityGraph F D} {ais radar : List (Observation F D)}

theorem mem_slow (h : (aisObs graph).filterM slowEnough = .ok ais) {o : Observation F D} :
    o ∈ ais ↔ SlowAis graph o := by
  obtain ⟨hreads, rfl⟩ := except_filterM_eq_ok.mp h
  rw [List.mem_filter, holds_eq_true, slowEnough, except_bind_eq_ok]
  simp only [Except.ok.injEq, SlowAis]

theorem mem_fast (h : fastRadar graph = .ok radar) {o : Observation F D} :
    o ∈ radar ↔ FastRadar graph o := by
  obtain ⟨hreads, rfl⟩ := except_filterM_eq_ok.mp h
  rw [List.mem_filter, holds_eq_true, fastEnough, except_bind_eq_ok]
  simp only [Except.ok.injEq, FastRadar]

/-! ## The nearest pair -/

/-- A pair with its distance. -/
def measure (p : Observation F D × Observation F D) : Except Exc (ContactPair F D) :=
  (separation p).map fun d => ⟨p.1, p.2, d⟩

theorem nearestPair_eq (slow fast : List (Observation F D)) :
    nearestPair slow fast = ((slow ×ˢ fast).mapM measure).map fun ps =>
      ps.foldl (fun best p => some (nearer best p)) none := by
  refine except_loop_product (fun a best => nearestRow a best fast) (fun a best => ?_)
    (fun _ => rfl) (fun _ _ _ => rfl) none slow
  rw [List.mapM_map]
  refine except_loop_eq (fun _ => rfl) (fun best b bs => ?_) best fast
  change separation (a, b) >>= _ = measure (a, b) >>= _
  unfold measure
  cases separation (a, b) <;> rfl

/-- The best pair so far, where there is one, goes on against the others. -/
theorem foldl_nearer (best : ContactPair F D) (ps : List (ContactPair F D)) :
    ps.foldl (fun best p => some (nearer best p)) (some best) =
      some (ps.foldl (betterOf fun p q : ContactPair F D => PyFloatOps.lt q.distM p.distM = true)
        best) := by
  induction ps generalizing best with
  | nil => rfl
  | cons p ps ih =>
    rw [List.foldl_cons, List.foldl_cons, ih]
    rfl

/-- No pair is nearer than the one that is returned. -/
theorem nearestPair_some [PyFloatCompare F] {slow fast : List (Observation F D)}
    {pair : ContactPair F D} (h : nearestPair slow fast = .ok (some pair)) :
    pair.slow ∈ slow ∧ pair.fast ∈ fast ∧ separation (pair.slow, pair.fast) = .ok pair.distM ∧
      ∀ a ∈ slow, ∀ b ∈ fast, ∃ d, separation (a, b) = .ok d ∧
        ¬ PyFloatOps.lt d pair.distM = true := by
  rw [nearestPair_eq, except_map_eq_ok] at h
  obtain ⟨ps, hps, hbest⟩ := h
  cases ps with
  | nil => cases hbest
  | cons first ps =>
    let beats (p q : ContactPair F D) : Prop := PyFloatOps.lt q.distM p.distM = true
    have hpair : ps.foldl (betterOf beats) first = pair :=
      Option.some.inj ((foldl_nearer first ps).symm.trans hbest)
    have hmem : pair ∈ first :: ps := hpair ▸ foldl_betterOf_mem (r := beats)
    have hunbeaten : ∀ q ∈ first :: ps, ¬ beats pair q := by
      rw [← hpair]
      exact foldl_betterOf_unbeaten (fun p => PyFloatCompare.lt_irrefl p.distM)
        fun p q s hpq hqs => PyFloatCompare.lt_trans s.distM q.distM p.distM hqs hpq
    obtain ⟨⟨a, b⟩, hab, hmeasure⟩ := except_mapM_mem hps hmem
    obtain ⟨d, hd, rfl⟩ := except_map_eq_ok.mp hmeasure
    obtain ⟨ha, hb⟩ := List.pair_mem_product.mp hab
    refine ⟨ha, hb, hd, fun a' ha' b' hb' => ?_⟩
    obtain ⟨q, hq, hmeasure'⟩ := except_mapM_of_mem hps (List.pair_mem_product.mpr ⟨ha', hb'⟩)
    obtain ⟨d', hd', rfl⟩ := except_map_eq_ok.mp hmeasure'
    exact ⟨d', hd', hunbeaten _ hq⟩

/-- There is a pair where neither list is empty. -/
theorem nearestPair_ne_none {slow fast : List (Observation F D)} {a b : Observation F D}
    (ha : a ∈ slow) (hb : b ∈ fast) : nearestPair slow fast ≠ .ok none := by
  intro h
  rw [nearestPair_eq, except_map_eq_ok] at h
  obtain ⟨ps, hps, hnone⟩ := h
  cases ps with
  | nil =>
    obtain ⟨p, hp, -⟩ := except_mapM_of_mem hps (List.pair_mem_product.mpr ⟨ha, hb⟩)
    cases hp
  | cons first ps =>
    have hsome := (foldl_nearer first ps).symm.trans hnone
    cases hsome

end

/-! ## The track -/

section

variable {F D : Type}

/-- The key is that of a track that holds the observation. -/
theorem holderOf_some {graph : SpatialEntityGraph F D} {o : Observation F D} {k : String}
    (h : holderOf graph o = some k) :
    ∃ t, graph.tracks.get k = some t ∧ o.observationId ∈ t.observationIds := by
  obtain ⟨⟨k', t⟩, hfind, rfl⟩ := Option.map_eq_some_iff.mp h
  have hmem := List.mem_of_find?_eq_some hfind
  have hholds := List.find?_some hfind
  exact ⟨t, Dict.mem_entries.mp hmem, by simpa using hholds⟩

theorem holderOf_ne_none {graph : SpatialEntityGraph F D} {o : Observation F D} {t : Track F D}
    (ht : t ∈ graph.tracks.values) (ho : o.observationId ∈ t.observationIds) :
    holderOf graph o ≠ none := by
  intro h
  obtain ⟨⟨k, t'⟩, hmem, rfl⟩ := List.mem_map.mp ht
  have hnone := List.find?_eq_none.mp (Option.map_eq_none_iff.mp h) _ hmem
  exact hnone (by simpa using ho)

variable [PyMathOps F] [PyDateTime D] [Sha256]

/-- Where no search raised, every observation of the picture is in a track. -/
theorem exists_holder {r : F} {os : List (Observation F D)}
    (hsearch : (SpatialEntityGraph.fresh r : SpatialEntityGraph F D).SearchesReturn os)
    {o : Observation F D} (ho : o ∈ ((SpatialEntityGraph.fresh r).ingestEach os).observations) :
    ∃ t ∈ ((SpatialEntityGraph.fresh r).ingestEach os).tracks.values,
      o.observationId ∈ t.observationIds := by
  have hids : o.observationId ∈ ((SpatialEntityGraph.fresh r).placements os).map
      fun p => p.1.observationId := by
    rw [SpatialEntityGraph.ingestEach_observations] at ho
    have hmem : o ∈ os.map Observation.ensureDigest := by simpa [SpatialEntityGraph.fresh] using ho
    rw [← SpatialEntityGraph.map_placements (SpatialEntityGraph.fresh r)] at hmem
    obtain ⟨p, hp, rfl⟩ := List.mem_map.mp hmem
    exact List.mem_map.mpr ⟨p, hp, rfl⟩
  have hall := SpatialEntityGraph.searchesReturn_iff.mp hsearch
  have hperm := SpatialEntityGraph.evidence_perm r os
  rw [List.filter_eq_self.mpr hall] at hperm
  exact List.mem_flatMap.mp (hperm.mem_iff.mpr hids)

end

/-! ## The answer -/

/-- A slow AIS contact and a fast radar contact, and no two such contacts are nearer. -/
structure Nearest {F D : Type} [PyMathOps F] (graph : SpatialEntityGraph F D)
    (a b : Observation F D) (d : F) : Prop where
  slow : SlowAis graph a
  fast : FastRadar graph b
  apart : separation (a, b) = .ok d
  nearest : ∀ a' b', SlowAis graph a' → FastRadar graph b' →
    ∃ d', separation (a', b') = .ok d' ∧ ¬ PyFloatOps.lt d' d = true

section

variable {F D : Type} [PyReportOps F] {graph : SpatialEntityGraph F D}
  {loadPois : Except Exc (List (Poi F))} {answer : Option (Finding F)}

/-- What is looked at before the answer. -/
theorem detect_cases (h : detect graph loadPois = .ok answer) :
    ∃ ais radar, (aisObs graph).filterM slowEnough = .ok ais ∧ fastRadar graph = .ok radar ∧
      ((answer = none ∧ (ais = [] ∨ radar = [])) ∨
        (answer = none ∧ nearestPair ais radar = .ok none) ∨
        ∃ pair, nearestPair ais radar = .ok (some pair) ∧
          report graph loadPois pair = .ok answer) := by
  obtain ⟨ais, hais, h⟩ := except_bind_eq_ok.mp h
  obtain ⟨radar, hradar, h⟩ := except_bind_eq_ok.mp h
  refine ⟨ais, radar, hais, hradar, ?_⟩
  by_cases hempty : (ais.isEmpty || radar.isEmpty) = true
  · rw [if_pos hempty] at h
    cases h
    exact Or.inl ⟨rfl, by simpa using hempty⟩
  rw [if_neg hempty] at h
  obtain ⟨found, hfound, h⟩ := except_bind_eq_ok.mp h
  cases found with
  | none =>
    cases h
    exact Or.inr (Or.inl ⟨rfl, hfound⟩)
  | some pair => exact Or.inr (Or.inr ⟨pair, hfound, h⟩)

variable [PyFloatCompare F]

/-- The speeds of a pair are within the bounds that are checked once more; only a pair that is in no
track is dropped. -/
theorem report_cases {pair : ContactPair F D} (hslow : SlowAis graph pair.slow)
    (hfast : FastRadar graph pair.fast) (h : report graph loadPois pair = .ok answer) :
    (answer = none ∧ trackOf graph pair = none) ∨
      ∃ f, answer = some f ∧ trackOf graph pair = some f.trackId ∧
        pyRound pair.distM 1 = .ok f.mismatchM ∧ f.spoofSources = [pair.slow.sourceId] ∧
        f.approachSources = [pair.fast.sourceId] := by
  obtain ⟨-, aisKt', hais', hbound⟩ := hslow
  obtain ⟨-, radarKt', hradar', hbound'⟩ := hfast
  obtain ⟨aisKt, hais, h⟩ := except_bind_eq_ok.mp h
  obtain ⟨radarKt, hradar, h⟩ := except_bind_eq_ok.mp h
  rw [hais'] at hais
  cases hais
  rw [hradar'] at hradar
  cases hradar
  have hagain : ¬ (PyFloatOps.lt radarKt' (80.0 : F) || PyFloatOps.lt (15.0 : F) aisKt') = true := by
    rw [Bool.or_eq_true]
    rintro (hlt | hlt)
    · exact PyFloatCompare.lt_irrefl _ (PyFloatCompare.lt_of_lt_of_le _ _ _ hlt hbound')
    · exact PyFloatCompare.lt_irrefl _ (PyFloatCompare.lt_of_le_of_lt _ _ _ hbound hlt)
  rw [if_neg hagain] at h
  cases htrack : trackOf graph pair with
  | none =>
    rw [htrack] at h
    cases h
    exact Or.inl ⟨rfl, rfl⟩
  | some trackId =>
    rw [htrack] at h
    obtain ⟨pois, -, h⟩ := except_bind_eq_ok.mp h
    obtain ⟨⟨minutes, byPoi⟩, -, h⟩ := except_bind_eq_ok.mp h
    obtain ⟨warningMin, -, h⟩ := except_bind_eq_ok.mp h
    obtain ⟨mismatchM, hmismatch, h⟩ := except_bind_eq_ok.mp h
    cases h
    exact Or.inr ⟨_, rfl, rfl, hmismatch, rfl, rfl⟩

variable [PyDateTime D] [Sha256]

/-- On a picture where no search for a track raised, an answer is a finding exactly where there are
the two kinds of contacts, and the finding is about a nearest pair and the track of its radar
contact. -/
theorem detect_nearest_pair {r : F} {os : List (Observation F D)}
    (hsearch : (SpatialEntityGraph.fresh r : SpatialEntityGraph F D).SearchesReturn os)
    (h : detect ((SpatialEntityGraph.fresh r).ingestEach os) loadPois = .ok answer) :
    let graph := (SpatialEntityGraph.fresh r).ingestEach os
    (answer = none ↔ ¬ ∃ a b, SlowAis graph a ∧ FastRadar graph b) ∧
      ∀ f, answer = some f → ∃ a b d track, Nearest graph a b d ∧
        pyRound d 1 = .ok f.mismatchM ∧ f.spoofSources = [a.sourceId] ∧
        f.approachSources = [b.sourceId] ∧ graph.tracks.get f.trackId = some track ∧
        b.observationId ∈ track.observationIds := by
  intro graph
  obtain ⟨ais, radar, hais, hradar, hrest⟩ := detect_cases h
  have hpair : ∀ a b, SlowAis graph a → FastRadar graph b → a ∈ ais ∧ b ∈ radar :=
    fun a b ha hb => ⟨(mem_slow hais).mpr ha, (mem_fast hradar).mpr hb⟩
  rcases hrest with ⟨rfl, hempty⟩ | ⟨rfl, hnone⟩ | ⟨pair, hfound, hreport⟩
  · refine ⟨⟨fun _ => ?_, fun _ => rfl⟩, fun f hf => by cases hf⟩
    rintro ⟨a, b, ha, hb⟩
    obtain ⟨ha, hb⟩ := hpair a b ha hb
    rcases hempty with rfl | rfl
    · cases ha
    · cases hb
  · refine ⟨⟨fun _ => ?_, fun _ => rfl⟩, fun f hf => by cases hf⟩
    rintro ⟨a, b, ha, hb⟩
    obtain ⟨ha, hb⟩ := hpair a b ha hb
    exact nearestPair_ne_none ha hb hnone
  obtain ⟨hslow, hfast, hapart, hnearest⟩ := nearestPair_some hfound
  have hslow := (mem_slow hais).mp hslow
  have hfast := (mem_fast hradar).mp hfast
  -- the radar contact is in a track, so its track is the one that is reported
  have hheld : holderOf graph pair.fast ≠ none := by
    obtain ⟨t, ht, ho⟩ := exists_holder hsearch (List.mem_of_mem_filter hfast.1)
    exact holderOf_ne_none ht ho
  rcases report_cases hslow hfast hreport with ⟨-, htrack⟩ | ⟨f, rfl, htrack, hmismatch, hs, hf⟩
  · exact absurd (Option.or_eq_none_iff.mp htrack).1 hheld
  refine ⟨⟨fun hnone => ?_, fun hno => ?_⟩, fun f' hf' => ?_⟩
  · cases hnone
  · exact absurd ⟨_, _, hslow, hfast⟩ hno
  · cases hf'
    obtain ⟨k, hk⟩ := Option.ne_none_iff_exists'.mp hheld
    have hkey : k = f.trackId := by
      rw [trackOf, hk] at htrack
      exact Option.some.inj htrack
    obtain ⟨track, hget, hmem⟩ := holderOf_some hk
    rw [hkey] at hget
    refine ⟨pair.slow, pair.fast, pair.distM, track, ⟨hslow, hfast, hapart, ?_⟩, hmismatch, hs, hf,
      hget, hmem⟩
    intro a' b' ha' hb'
    obtain ⟨ha', hb'⟩ := hpair a' b' ha' hb'
    exact hnearest a' ha' b' hb'

end

/-- The numbers that are not rounded, with a text of digits. -/
abbrev exactReport : PyReportOps Rat where
  toPyTextOps := exactText
  fmt1 x := String.ofList (intText x.floor)

/-- A slow AIS contact and two fast radar contacts. -/
def threeSightings : List (Observation Rat Instant) :=
  [AisSpoof.sighting "o-1" "ais" (-60) 0 1, AisSpoof.sighting "o-2" "radar" 60 60 (1 / 2),
    AisSpoof.sighting "o-3" "radar" 80 60 1]

theorem detect_nearest_pair_three :
    letI := plainHash
    letI := exactReport
    let graph := (SpatialEntityGraph.fresh 2000).ingestEach threeSightings
    ∃ f, detect graph (.ok []) = .ok (some f) ∧ ∃ a b d, Nearest graph a b d ∧
      f.spoofSources = [a.sourceId] ∧ f.approachSources = [b.sourceId] := by
  let := plainHash
  let := exactReport
  have := exactMath_compare
  intro graph
  obtain ⟨f, hf⟩ := AisSpoof.hasFinding_iff.mp
    (by decide +kernel : AisSpoof.hasFinding (detect graph (.ok [])) = true)
  have hsearch : (SpatialEntityGraph.fresh 2000 : SpatialEntityGraph Rat Instant).SearchesReturn
      threeSightings := SpatialEntityGraph.searchesReturn_iff.mpr (by decide +kernel)
  obtain ⟨-, hfound⟩ := detect_nearest_pair hsearch hf
  obtain ⟨a, b, d, track, hnearest, -, hspoof, happroach, -⟩ := hfound f rfl
  exact ⟨f, hf, a, b, d, hnearest, hspoof, happroach⟩

end Trojan

end NexusC2

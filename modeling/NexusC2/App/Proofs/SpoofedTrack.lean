import NexusC2.App.AisSpoofDetector
import NexusC2.App.Scenarios
import NexusC2.Misc.FloatCompare

/-!
# The spoofed track

Where its inputs can be read, the detector reports the first track on which a stationary AIS contact
and a moving one are 500 m apart, by the greatest distance there is between the two. The tasking that
is built on it goes to a contact in motion, never to the AIS contact.
-/

namespace NexusC2

section

variable {F D : Type} [PyMathOps F]

/-- The distance of two observations. -/
def separation (p : Observation F D × Observation F D) : Except Exc F :=
  haversineM p.1.latitude p.1.longitude p.2.latitude p.2.longitude

theorem mismatchLoop_eq (bs : List (Observation F D)) (maxD : F) (as : List (Observation F D)) :
    mismatchLoop bs maxD as =
      ((as ×ˢ bs).mapM separation).map fun ds => ds.foldl PyFloatOps.max maxD := by
  refine except_loop_product (fun a maxD => mismatchRow a maxD bs) (fun a maxD => ?_)
    (fun _ => rfl) (fun _ _ _ => rfl) maxD as
  rw [List.mapM_map]
  exact except_loop_eq (fun _ => rfl) (fun _ _ _ => rfl) maxD bs

/-- The greatest distance between the two groups, or nothing where a group is empty. -/
theorem maxPairwiseMismatchM_spec [PyFloatCompare F] {as bs : List (Observation F D)} {m : F}
    (h : maxPairwiseMismatchM as bs = .ok m) :
    PyFloatOps.eq m m = true ∧
      (m = (0.0 : F) ∨ ∃ a ∈ as, ∃ b ∈ bs, separation (a, b) = .ok m) ∧
      ∀ a ∈ as, ∀ b ∈ bs, ∃ d, separation (a, b) = .ok d ∧ ¬ PyFloatOps.lt m d = true := by
  unfold maxPairwiseMismatchM at h
  rw [mismatchLoop_eq, except_map_eq_ok] at h
  obtain ⟨ds, hds, rfl⟩ := h
  obtain ⟨hmem, hbest⟩ := PyFloatCompare.foldl_max (0.0 : F) ds
  have hzero : PyFloatOps.eq (0.0 : F) (0.0 : F) = true :=
    PyFloatCompare.number_decimal 0 1 (by decide) (by decide)
  refine ⟨PyFloatCompare.number_foldl_max hzero ds, ?_, fun a ha b hb => ?_⟩
  · rcases List.mem_cons.mp hmem with heq | hmem
    · exact Or.inl heq
    · obtain ⟨⟨a, b⟩, hpair, hd⟩ := except_mapM_mem hds hmem
      obtain ⟨ha, hb⟩ := List.pair_mem_product.mp hpair
      exact Or.inr ⟨a, ha, b, hb, hd⟩
  · obtain ⟨d, hd, hsep⟩ := except_mapM_of_mem hds (List.pair_mem_product.mpr ⟨ha, hb⟩)
    exact ⟨d, hsep, hbest d (List.mem_cons_of_mem _ hd)⟩

theorem maxPairwiseMismatchM_returns (as bs : List (Observation F D))
    (h : ∀ a ∈ as, ∀ b ∈ bs, ∃ d, separation (a, b) = .ok d) :
    ∃ m, maxPairwiseMismatchM as bs = .ok m := by
  have hpairs : ∀ p ∈ as ×ˢ bs, ∃ d, separation p = .ok d := by
    rintro ⟨a, b⟩ hp
    obtain ⟨ha, hb⟩ := List.pair_mem_product.mp hp
    exact h a ha b hb
  obtain ⟨ds, hds⟩ := except_mapM_returns_iff.mpr hpairs
  refine ⟨ds.foldl PyFloatOps.max (0.0 : F), ?_⟩
  unfold maxPairwiseMismatchM
  rw [mismatchLoop_eq, hds]
  rfl

end

/-! ## The detector -/

namespace AisSpoof

section

variable {F D : Type} [PyMathOps F]

/-- AIS that reports the contact as nearly stationary. -/
def Stationary (o : Observation F D) : Prop :=
  (∃ s, speedKt o = .ok s ∧ PyFloatOps.le s (1.0 : F) = true) ∧ o.modality = "ais"

/-- A contact that moves. -/
def Moving (o : Observation F D) : Prop :=
  ∃ s, speedKt o = .ok s ∧ PyFloatOps.le (10.0 : F) s = true

/-- The track has a stationary AIS contact and a moving one, and `m` is the greatest distance of two
such contacts, at least 500 m. -/
structure Contradicts (graph : SpatialEntityGraph F D) (track : Track F D) (m : F) : Prop where
  attained : ∃ a ∈ observationsForTrack graph track.trackId,
    ∃ b ∈ observationsForTrack graph track.trackId,
      Stationary a ∧ Moving b ∧ separation (a, b) = .ok m
  greatest : ∀ a ∈ observationsForTrack graph track.trackId,
    ∀ b ∈ observationsForTrack graph track.trackId, Stationary a → Moving b →
      ∃ d, separation (a, b) = .ok d ∧ ¬ PyFloatOps.lt m d = true
  far : PyFloatOps.le (500.0 : F) m = true

/-- The detector can read what it looks at. -/
structure Readable (graph : SpatialEntityGraph F D) : Prop where
  speeds : ∀ o ∈ graph.observations, ∃ s, speedKt o = .ok s
  distances : ∀ a ∈ graph.observations, ∀ b ∈ graph.observations, ∃ d, separation (a, b) = .ok d
  counts : ∀ n ≤ graph.observations.length, ∃ x, PyFloatOps.ofInt (F := F) n = some x

omit [PyMathOps F] in
theorem mem_of_mem_track {graph : SpatialEntityGraph F D} {trackId : String} {o : Observation F D}
    (h : o ∈ observationsForTrack graph trackId) : o ∈ graph.observations := by
  unfold observationsForTrack at h
  split at h
  · cases h
  · exact List.mem_of_mem_filter h

end

section

variable {F D : Type} [PyTextOps F] {obs spoof approach : List (Observation F D)}

theorem mem_spoofOf (h : spoofOf obs = .ok spoof) {o : Observation F D} :
    o ∈ spoof ↔ o ∈ obs ∧ Stationary o := by
  obtain ⟨hreads, rfl⟩ := except_filterM_eq_ok.mp h
  rw [List.mem_filter, holds_eq_true, except_bind_eq_ok]
  refine and_congr_right fun _ => ?_
  constructor
  · rintro ⟨s, hs, hpass⟩
    simp only [Except.ok.injEq, Bool.and_eq_true, decide_eq_true_eq] at hpass
    exact ⟨⟨s, hs, hpass.1⟩, hpass.2⟩
  · rintro ⟨⟨s, hs, hle⟩, hais⟩
    exact ⟨s, hs, by simp [hle, hais]⟩

theorem mem_approachOf (h : approachOf obs = .ok approach) {o : Observation F D} :
    o ∈ approach ↔ o ∈ obs ∧ Moving o := by
  obtain ⟨hreads, rfl⟩ := except_filterM_eq_ok.mp h
  rw [List.mem_filter, holds_eq_true, except_bind_eq_ok]
  refine and_congr_right fun _ => ?_
  constructor
  · rintro ⟨s, hs, hpass⟩
    exact ⟨s, hs, Except.ok.inj hpass⟩
  · rintro ⟨s, hs, hle⟩
    exact ⟨s, hs, congrArg Except.ok hle⟩

/-- Where the speeds can be read, the selections return. -/
theorem selections_return (h : ∀ o ∈ obs, ∃ s, speedKt o = .ok s) :
    (∃ spoof, spoofOf obs = .ok spoof) ∧ ∃ approach, approachOf obs = .ok approach := by
  refine ⟨⟨_, except_filterM_eq_ok.mpr ⟨fun o ho => ?_, rfl⟩⟩,
    ⟨_, except_filterM_eq_ok.mpr ⟨fun o ho => ?_, rfl⟩⟩⟩ <;>
  · obtain ⟨s, hs⟩ := h o ho
    exact ⟨_, except_bind_eq_ok.mpr ⟨s, hs, rfl⟩⟩

variable [PyFloatCompare F]

/-- No contact is stationary and moves. -/
theorem Moving.not_stationary {o : Observation F D} (h : Moving o) : ¬ Stationary o := by
  obtain ⟨s, hs, hfast⟩ := h
  rintro ⟨⟨s', hs', hslow⟩, -⟩
  rw [hs] at hs'
  cases hs'
  have hapart : PyFloatOps.lt (1.0 : F) (10.0 : F) = true :=
    PyFloatCompare.lt_decimal 10 1 100 1 (by decide) (by decide) (by decide) (by decide) (by decide)
  exact PyFloatCompare.not_le_of_le hapart hfast hslow

theorem Contradicts.two_contacts {graph : SpatialEntityGraph F D} {track : Track F D} {m : F}
    (h : Contradicts graph track m) :
    ¬ (observationsForTrack graph track.trackId).length < 2 := by
  obtain ⟨a, ha, b, hb, hstill, hmoves, -⟩ := h.attained
  have hne : a ≠ b := by
    rintro rfl
    exact hmoves.not_stationary hstill
  -- two contacts that differ do not fit in a list of one
  match hobs : observationsForTrack graph track.trackId with
  | [] =>
    rw [hobs] at ha
    cases ha
  | [o] =>
    rw [hobs] at ha hb
    exact absurd ((List.mem_singleton.mp ha).trans (List.mem_singleton.mp hb).symm) hne
  | _ :: _ :: _ =>
    rw [List.length_cons, List.length_cons]
    omega

theorem contradicts_of_far {graph : SpatialEntityGraph F D} {track : Track F D} {m : F}
    (hspoof : spoofOf (observationsForTrack graph track.trackId) = .ok spoof)
    (happroach : approachOf (observationsForTrack graph track.trackId) = .ok approach)
    (hm : maxPairwiseMismatchM spoof approach = .ok m)
    (hfar : ¬ PyFloatOps.lt m (500.0 : F) = true) : Contradicts graph track m := by
  obtain ⟨hnumber, hzero | ⟨a, ha, b, hb, hsep⟩, hgreatest⟩ := maxPairwiseMismatchM_spec hm
  · refine absurd ?_ hfar
    rw [hzero]
    exact PyFloatCompare.lt_decimal 0 1 5000 1 (by decide) (by decide) (by decide) (by decide)
      (by decide)
  obtain ⟨ha, hstill⟩ := (mem_spoofOf hspoof).mp ha
  obtain ⟨hb, hmoves⟩ := (mem_approachOf happroach).mp hb
  have hbound : PyFloatOps.eq (500.0 : F) (500.0 : F) = true :=
    PyFloatCompare.number_decimal 5000 1 (by decide) (by decide)
  refine ⟨⟨a, ha, b, hb, hstill, hmoves, hsep⟩, fun a ha b hb hstill hmoves => ?_,
    (PyFloatCompare.le_or_lt _ _ hbound hnumber).resolve_right hfar⟩
  exact hgreatest a ((mem_spoofOf hspoof).mpr ⟨ha, hstill⟩) b
    ((mem_approachOf happroach).mpr ⟨hb, hmoves⟩)

omit [PyFloatCompare F] in
/-- What `examine` looks at before it answers. -/
theorem examine_cases {graph : SpatialEntityGraph F D} {track : Track F D}
    {r : Option (SpoofPicture F D)} (h : examine graph track = .ok r) :
    let obs := observationsForTrack graph track.trackId
    (r = none ∧ obs.length < 2) ∨
      ∃ spoof approach, spoofOf obs = .ok spoof ∧ approachOf obs = .ok approach ∧
        ((r = none ∧ (spoof = [] ∨ approach = [])) ∨
          ∃ m, maxPairwiseMismatchM spoof approach = .ok m ∧
            ((r = none ∧ PyFloatOps.lt m (500.0 : F) = true) ∨
              (¬ PyFloatOps.lt m (500.0 : F) = true ∧
                ∃ p, picture track.trackId obs spoof approach m = .ok p ∧ r = some p))) := by
  intro obs
  unfold examine at h
  by_cases hshort : obs.length < 2
  · rw [if_pos hshort] at h
    cases h
    exact Or.inl ⟨rfl, hshort⟩
  rw [if_neg hshort] at h
  obtain ⟨spoof, hspoof, h⟩ := except_bind_eq_ok.mp h
  obtain ⟨approach, happroach, h⟩ := except_bind_eq_ok.mp h
  refine Or.inr ⟨spoof, approach, hspoof, happroach, ?_⟩
  by_cases hempty : (spoof.isEmpty || approach.isEmpty) = true
  · rw [if_pos hempty] at h
    cases h
    exact Or.inl ⟨rfl, by simpa using hempty⟩
  rw [if_neg hempty] at h
  obtain ⟨m, hm, h⟩ := except_bind_eq_ok.mp h
  refine Or.inr ⟨m, hm, ?_⟩
  by_cases hnear : PyFloatOps.lt m (500.0 : F) = true
  · rw [if_pos hnear] at h
    cases h
    exact Or.inl ⟨rfl, hnear⟩
  rw [if_neg hnear] at h
  obtain ⟨p, hp, h⟩ := except_bind_eq_ok.mp h
  cases h
  exact Or.inr ⟨hnear, p, hp, rfl⟩

/-- A track is passed over only where it does not contradict itself. -/
theorem not_contradicts_of_examine {graph : SpatialEntityGraph F D} {track : Track F D}
    (h : examine graph track = .ok none) (m : F) : ¬ Contradicts graph track m := by
  intro hm
  obtain ⟨a, ha, b, hb, hstill, hmoves, hsep⟩ := hm.attained
  rcases examine_cases h with ⟨-, hshort⟩ | ⟨spoof, approach, hspoof, happroach, hrest⟩
  · exact hm.two_contacts hshort
  have ha' : a ∈ spoof := (mem_spoofOf hspoof).mpr ⟨ha, hstill⟩
  have hb' : b ∈ approach := (mem_approachOf happroach).mpr ⟨hb, hmoves⟩
  rcases hrest with ⟨-, rfl | rfl⟩ | ⟨m', hm', ⟨-, hnear⟩ | ⟨-, p, -, hnone⟩⟩
  · cases ha'
  · cases hb'
  · -- the greatest distance is under 500 m, and `m` is a distance
    obtain ⟨d, hd, hbest⟩ := (maxPairwiseMismatchM_spec hm').2.2 a ha' b hb'
    rw [hsep] at hd
    cases hd
    exact hbest (PyFloatCompare.lt_of_lt_of_le _ _ _ hnear hm.far)
  · cases hnone

/-- What a finding says of the track it is about. -/
structure Reports (graph : SpatialEntityGraph F D) (track : Track F D) (f : Finding F) : Prop where
  contradicts : Contradicts graph track f.mismatchM
  named : f.trackId = track.trackId
  spoof : ∀ source, source ∈ f.spoofSources ↔
    ∃ o ∈ observationsForTrack graph track.trackId, Stationary o ∧ o.sourceId = source
  approach : ∀ source, source ∈ f.approachSources ↔
    ∃ o ∈ observationsForTrack graph track.trackId, Moving o ∧ o.sourceId = source

/-- A track that is reported contradicts itself. -/
theorem reports_of_examine {graph : SpatialEntityGraph F D} {track : Track F D}
    {p : SpoofPicture F D} (h : examine graph track = .ok (some p)) :
    Reports graph track (finding p) := by
  rcases examine_cases h with ⟨hnone, -⟩ | ⟨spoof, approach, hspoof, happroach, hrest⟩
  · cases hnone
  rcases hrest with ⟨hnone, -⟩ | ⟨m, hm, ⟨hnone, -⟩ | ⟨hfar, p, hp, hsome⟩⟩
  · cases hnone
  · cases hnone
  cases hsome
  obtain ⟨forApproach, -, hp⟩ := except_bind_eq_ok.mp hp
  obtain ⟨minutes, -, hp⟩ := except_bind_eq_ok.mp hp
  cases hp
  have hcontradicts := contradicts_of_far hspoof happroach hm hfar
  refine ⟨hcontradicts, rfl, fun source => ?_, fun source => ?_⟩
  · simp only [finding, List.mem_map, mem_spoofOf hspoof, and_assoc]
  · simp only [finding, List.mem_map, mem_approachOf happroach, and_assoc]

theorem reports_of_detectLoop {graph : SpatialEntityGraph F D} {tracks : List (Track F D)}
    {f : Finding F} (h : detectLoop graph tracks = .ok (some f)) :
    ∃ track ∈ tracks, Reports graph track f := by
  induction tracks with
  | nil => cases h
  | cons track tracks ih =>
    obtain ⟨r, hr, h⟩ := except_bind_eq_ok.mp h
    cases r with
    | some p =>
      cases h
      exact ⟨track, List.mem_cons_self, reports_of_examine hr⟩
    | none =>
      obtain ⟨t, ht, hreports⟩ := ih h
      exact ⟨t, List.mem_cons_of_mem _ ht, hreports⟩

theorem reports_of_detect {graph : SpatialEntityGraph F D} {f : Finding F}
    (h : detect graph = .ok (some f)) : ∃ track ∈ graph.tracks.values, Reports graph track f :=
  reports_of_detectLoop h

/-- Where the graph can be read, the loop gets past every track. -/
theorem examine_returns {graph : SpatialEntityGraph F D} (h : Readable graph) (track : Track F D) :
    ∃ r, examine graph track = .ok r := by
  have hobs : ∀ o ∈ observationsForTrack graph track.trackId, ∃ s, speedKt o = .ok s :=
    fun o ho => h.speeds o (mem_of_mem_track ho)
  obtain ⟨⟨spoof, hspoof⟩, approach, happroach⟩ := selections_return hobs
  have hfew : approach.length ≤ graph.observations.length := by
    obtain ⟨-, rfl⟩ := except_filterM_eq_ok.mp happroach
    refine (List.length_filter_le _ _).trans ?_
    unfold observationsForTrack
    split
    · exact Nat.zero_le _
    · exact List.length_filter_le _ _
  obtain ⟨m, hm⟩ := maxPairwiseMismatchM_returns spoof approach fun a ha b hb =>
    h.distances a (mem_of_mem_track ((mem_spoofOf hspoof).mp ha).1) b
      (mem_of_mem_track ((mem_approachOf happroach).mp hb).1)
  have hpicture : ∃ p, picture track.trackId (observationsForTrack graph track.trackId) spoof
      approach m = .ok p := by
    obtain ⟨n, hn⟩ := h.counts _ hfew
    have hhundred : PyFloatOps.eq (100.0 : F) (0.0 : F) = false :=
      PyFloatCompare.ne_of_lt _ _ (PyFloatCompare.lt_decimal 0 1 1000 1 (by decide) (by decide)
        (by decide) (by decide) (by decide))
    simp only [picture, SarAis.timesLength, hn, pyDiv, hhundred]
    exact ⟨_, rfl⟩
  unfold examine
  simp only [hspoof, happroach, bind, Except.bind]
  split
  · exact ⟨_, rfl⟩
  split
  · exact ⟨_, rfl⟩
  rw [hm]
  dsimp only
  split
  · exact ⟨_, rfl⟩
  obtain ⟨p, hp⟩ := hpicture
  rw [hp]
  exact ⟨_, rfl⟩

/-- What the loop over the tracks answers. -/
theorem detectLoop_spec {graph : SpatialEntityGraph F D} (h : Readable graph)
    (tracks : List (Track F D)) : ∃ r, detectLoop graph tracks = .ok r ∧ match r with
      | none => ∀ track ∈ tracks, ∀ m, ¬ Contradicts graph track m
      | some f => ∃ before track after, tracks = before ++ track :: after ∧
        (∀ t ∈ before, ∀ m, ¬ Contradicts graph t m) ∧ Reports graph track f := by
  induction tracks with
  | nil => exact ⟨none, rfl, by simp⟩
  | cons track tracks ih =>
    obtain ⟨r, hr⟩ := examine_returns h track
    cases r with
    | some p =>
      have hstep : detectLoop graph (track :: tracks) = .ok (some (finding p)) := by
        rw [detectLoop, hr]
        rfl
      exact ⟨_, hstep, [], track, tracks, rfl, by simp, reports_of_examine hr⟩
    | none =>
      have hstep : detectLoop graph (track :: tracks) = detectLoop graph tracks := by
        rw [detectLoop, hr]
        rfl
      have hpassed := not_contradicts_of_examine hr
      obtain ⟨found, hfound, hspec⟩ := ih
      refine ⟨found, hstep.trans hfound, ?_⟩
      cases found with
      | none => exact List.forall_mem_cons.mpr ⟨hpassed, hspec⟩
      | some f =>
        obtain ⟨before, t, after, rfl, hbefore, hreports⟩ := hspec
        exact ⟨track :: before, t, after, rfl, List.forall_mem_cons.mpr ⟨hpassed, hbefore⟩, hreports⟩

/-- The detector reports the first track that contradicts itself, and nothing where none does. -/
theorem detect_first_contradiction {graph : SpatialEntityGraph F D} (h : Readable graph) :
    ∃ r, detect graph = .ok r ∧ match r with
      | none => ∀ track ∈ graph.tracks.values, ∀ m, ¬ Contradicts graph track m
      | some f => ∃ before track after, graph.tracks.values = before ++ track :: after ∧
        (∀ t ∈ before, ∀ m, ¬ Contradicts graph t m) ∧ Reports graph track f :=
  detectLoop_spec h graph.tracks.values

end

/-- A contact of the track below. -/
def sighting (observationId modality : String) (latitude speedMps confidence : Rat) :
    Observation Rat Instant :=
  { observationId := observationId
    sourceId := modality
    entityHint := "C-1"
    latitude := latitude
    longitude := 103
    altitudeM := none
    speedMps := speedMps
    headingDeg := none
    confidence := confidence
    observedAt := ⟨0⟩
    modality := modality
    attributes := []
    rawDigest := "" }

/-- A confident AIS broadcast that does not move, and a radar contact far away that does. -/
def spoofedGraph : SpatialEntityGraph Rat Instant :=
  { associateRadiusM := 2000
    observations := [sighting "o-1" "ais" (-60) 0 1, sighting "o-2" "radar" 60 10 (1 / 2)]
    tracks := ⟨[("C-1",
      { trackId := "C-1"
        latitude := -60
        longitude := 103
        speedMps := 0
        confidence := 1
        sourceIds := ["ais", "radar"]
        modalities := ["ais", "radar"]
        observationIds := ["o-1", "o-2"]
        digests := ["", ""]
        updatedAt := ⟨0⟩
        attributes := [] })], by decide⟩ }

theorem readable_spoofedGraph : letI := exactText; Readable spoofedGraph := by
  let := exactText
  constructor
  · exact fun o ho => except_isOk_iff.mp
      ((by decide +kernel : ∀ o ∈ spoofedGraph.observations, (speedKt o).isOk = true) o ho)
  · exact fun a ha b hb => except_isOk_iff.mp
      ((by decide +kernel : ∀ a ∈ spoofedGraph.observations, ∀ b ∈ spoofedGraph.observations,
        (separation (a, b)).isOk = true) a ha b hb)
  · exact fun n _ => ⟨_, rfl⟩

/-- Where the detector finds something. -/
def hasFinding {F : Type} (r : Except Exc (Option (Finding F))) : Bool :=
  match r with
  | .ok (some _) => true
  | _ => false

theorem hasFinding_iff {F : Type} {r : Except Exc (Option (Finding F))} :
    hasFinding r = true ↔ ∃ f, r = .ok (some f) := by
  constructor
  · intro h
    unfold hasFinding at h
    split at h
    · exact ⟨_, rfl⟩
    · cases h
  · rintro ⟨f, rfl⟩
    rfl

theorem detect_first_contradiction_spoofed :
    letI := exactText
    ∃ f, detect spoofedGraph = .ok (some f) ∧
      ∃ track ∈ spoofedGraph.tracks.values, Reports spoofedGraph track f := by
  let := exactText
  have := exactMath_compare
  obtain ⟨f, hf⟩ := hasFinding_iff.mp (by decide +kernel : hasFinding (detect spoofedGraph) = true)
  obtain ⟨r, hr, hspec⟩ := detect_first_contradiction readable_spoofedGraph
  rw [hf] at hr
  cases hr
  obtain ⟨before, track, after, hvalues, -, hreports⟩ := hspec
  exact ⟨f, hf, track, by rw [hvalues]; simp, hreports⟩

end AisSpoof

/-! ## The tasking -/

section

variable {F D : Type} [PyMathOps F]

/-- A contact fast enough to be preferred. -/
def Fast (o : Observation F D) : Prop :=
  ∃ s, speedKt o = .ok s ∧ PyFloatOps.le (5.0 : F) s = true

/-- The contact a tasking goes by: a fast one where there is one, and none of its kind is more
confident. -/
structure Tasked (obs : List (Observation F D)) (o : Observation F D) : Prop where
  mem : o ∈ obs
  fast : (∃ o' ∈ obs, Fast o') → Fast o
  best : ∀ o' ∈ obs, (Fast o → Fast o') → ¬ PyFloatOps.lt o.confidence o'.confidence = true

theorem mostConfident_spec [PyFloatCompare F] {os : List (Observation F D)} {o : Observation F D}
    (h : mostConfident os = some o) :
    o ∈ os ∧ ∀ o' ∈ os, ¬ PyFloatOps.lt o.confidence o'.confidence = true := by
  cases os with
  | nil => cases h
  | cons first os =>
    cases h
    let beats (a b : Observation F D) : Prop := PyFloatOps.lt a.confidence b.confidence = true
    exact ⟨foldl_betterOf_mem (r := beats), foldl_betterOf_unbeaten (r := beats)
      (fun a => PyFloatCompare.lt_irrefl a.confidence)
      fun a b c => PyFloatCompare.lt_trans a.confidence b.confidence c.confidence⟩

theorem mostConfident_eq_none {os : List (Observation F D)} (h : mostConfident os = none) :
    os = [] := by
  cases os with
  | nil => rfl
  | cons first os => cases h

/-- The kinematics are those of the contact the tasking goes by, where the track has one. -/
theorem preferredTaskingKinematics_ok [PyFloatCompare F] {graph : SpatialEntityGraph F D}
    {finding : Finding F} {lat lon speed : F} {heading : Option F}
    (h : preferredTaskingKinematics graph finding = .ok (lat, lon, speed, heading))
    (hobs : observationsForTrack graph finding.trackId ≠ []) :
    ∃ o, Tasked (observationsForTrack graph finding.trackId) o ∧ lat = o.latitude ∧
      lon = o.longitude ∧ speedKt o = .ok speed := by
  unfold preferredTaskingKinematics at h
  split at h
  · cases h
  obtain ⟨fast, hfast, h⟩ := except_bind_eq_ok.mp h
  have hmem : ∀ o, o ∈ fast ↔ o ∈ observationsForTrack graph finding.trackId ∧ Fast o := by
    intro o
    obtain ⟨hreads, rfl⟩ := except_filterM_eq_ok.mp hfast
    rw [List.mem_filter, holds_eq_true, except_bind_eq_ok]
    refine and_congr_right fun _ => ⟨?_, ?_⟩
    · rintro ⟨s, hs, hpass⟩
      exact ⟨s, hs, Except.ok.inj hpass⟩
    · rintro ⟨s, hs, hle⟩
      exact ⟨s, hs, congrArg Except.ok hle⟩
  have hread : ∀ chosen : Observation F D, (do
      let heading ← headingOf chosen
      let speed ← speedKt chosen
      .ok (chosen.latitude, chosen.longitude, speed, heading)) = Except.ok (lat, lon, speed, heading) →
      lat = chosen.latitude ∧ lon = chosen.longitude ∧ speedKt chosen = .ok speed := by
    intro chosen h
    obtain ⟨heading', -, h⟩ := except_bind_eq_ok.mp h
    obtain ⟨speed', hspeed, h⟩ := except_bind_eq_ok.mp h
    cases h
    exact ⟨rfl, rfl, hspeed⟩
  cases hbest : mostConfident fast with
  | some o =>
    rw [hbest] at h
    obtain ⟨ho, hunbeaten⟩ := mostConfident_spec hbest
    obtain ⟨ho, hquick⟩ := (hmem o).mp ho
    refine ⟨o, ⟨ho, fun _ => hquick, fun o' ho' hkind => ?_⟩, hread o h⟩
    exact hunbeaten o' ((hmem o').mpr ⟨ho', hkind hquick⟩)
  | none =>
    have hslow : ∀ o ∈ observationsForTrack graph finding.trackId, ¬ Fast o := by
      intro o ho hquick
      have ho' := (hmem o).mpr ⟨ho, hquick⟩
      rw [mostConfident_eq_none hbest] at ho'
      cases ho'
    cases hall : mostConfident (observationsForTrack graph finding.trackId) with
    | none => exact absurd (mostConfident_eq_none hall) hobs
    | some o =>
      rw [hbest, hall] at h
      obtain ⟨ho, hunbeaten⟩ := mostConfident_spec hall
      refine ⟨o, ⟨ho, ?_, fun o' ho' _ => hunbeaten o' ho'⟩, hread o h⟩
      rintro ⟨o', ho', hquick⟩
      exact absurd hquick (hslow o' ho')

variable [Sha256]

/-- A COA that is no pursuit goes to the contact itself. -/
theorem makeTier1Coa_contact {coaId intent : String} {graph : SpatialEntityGraph F D}
    {finding : Finding F} {timeoutSeconds : F} {coa : CourseOfAction F}
    (hintent : intent ∉ leadPursuitIntents)
    (h : makeTier1Coa coaId graph finding intent timeoutSeconds none true = .ok coa) :
    ∃ lat lon speed heading,
      preferredTaskingKinematics graph finding = .ok (lat, lon, speed, heading) ∧
      coa.targetCoordinates = (lat, lon) ∧ coa.speedKt = some speed ∧
      coa.targetEntityId = finding.trackId := by
  unfold makeTier1Coa at h
  split at h
  · cases h
  obtain ⟨⟨lat, lon, speed, heading⟩, hkinematics, h⟩ := except_bind_eq_ok.mp h
  simp only [if_neg hintent] at h
  cases h
  exact ⟨lat, lon, speed, heading, hkinematics, rfl, rfl, rfl⟩

end

namespace AisSpoof

section

variable {F D : Type} [PyTextOps F] [PyFloatCompare F] [Sha256]

/-- Every tasking of a reported track goes to a fast contact of it, the most confident one, with the
position and the speed that contact reports. So it never goes to the stationary AIS contact, whatever
confidence that has. -/
theorem tasking_in_motion {graph : SpatialEntityGraph F D} {f : Finding F} {coaId : String}
    {timeoutSeconds : F} {loadPois : Except Exc (List (Poi F))} {coa : CourseOfAction F}
    (hfound : detect graph = .ok (some f))
    (h : RegisteredScenario.s1AisSpoof.buildCoa coaId graph f timeoutSeconds loadPois = .ok coa) :
    coa.targetEntityId = f.trackId ∧
      ∃ o speed, Tasked (observationsForTrack graph f.trackId) o ∧ Fast o ∧ ¬ Stationary o ∧
        coa.targetCoordinates = (o.latitude, o.longitude) ∧ speedKt o = .ok speed ∧
        coa.speedKt = some speed := by
  obtain ⟨track, -, hreports⟩ := reports_of_detect hfound
  change makeTier1Coa coaId graph f "ISR_IDENTIFY_CONTACT" timeoutSeconds none true = .ok coa at h
  obtain ⟨lat, lon, speed, heading, hkinematics, htarget, hspeed, hentity⟩ :=
    makeTier1Coa_contact (by decide) h
  obtain ⟨a, ha, b, hb, hstill, hmoves, -⟩ := hreports.contradicts.attained
  rw [← hreports.named] at hb
  obtain ⟨o, htasked, rfl, rfl, ho⟩ :=
    preferredTaskingKinematics_ok hkinematics (List.ne_nil_of_mem hb)
  have hfast : Fast o := by
    refine htasked.fast ⟨b, hb, ?_⟩
    obtain ⟨s, hs, hle⟩ := hmoves
    refine ⟨s, hs, PyFloatCompare.le_of_le ?_ hle⟩
    exact PyFloatCompare.lt_decimal 50 1 100 1 (by decide) (by decide) (by decide) (by decide)
      (by decide)
  refine ⟨hentity, o, speed, htasked, hfast, ?_, htarget, ho, hspeed⟩
  rintro ⟨⟨s, hs, hslow⟩, -⟩
  obtain ⟨s', hs', hquick⟩ := hfast
  rw [hs] at hs'
  cases hs'
  have hapart : PyFloatOps.lt (1.0 : F) (5.0 : F) = true :=
    PyFloatCompare.lt_decimal 10 1 50 1 (by decide) (by decide) (by decide) (by decide) (by decide)
  exact PyFloatCompare.not_le_of_le hapart hquick hslow

end

theorem tasking_in_motion_spoofed :
    letI := plainHash
    letI := exactText
    ∃ f coa, detect spoofedGraph = .ok (some f) ∧
      RegisteredScenario.s1AisSpoof.buildCoa "coa-1" spoofedGraph f 5 (.ok []) = .ok coa ∧
      ∃ o ∈ observationsForTrack spoofedGraph f.trackId, ¬ Stationary o ∧
        coa.targetCoordinates = (o.latitude, o.longitude) := by
  let := plainHash
  let := exactText
  have := exactMath_compare
  obtain ⟨f, hf⟩ := hasFinding_iff.mp (by decide +kernel : hasFinding (detect spoofedGraph) = true)
  have hbuilt : (detect spoofedGraph >>= fun r => match r with
    | some f => RegisteredScenario.s1AisSpoof.buildCoa "coa-1" spoofedGraph f 5 (.ok [])
    | none => .error .assertion).isOk = true := by decide +kernel
  rw [hf] at hbuilt
  change (RegisteredScenario.s1AisSpoof.buildCoa "coa-1" spoofedGraph f 5 (.ok [])).isOk = true
    at hbuilt
  obtain ⟨coa, hcoa⟩ := except_isOk_iff.mp hbuilt
  obtain ⟨-, o, speed, htasked, -, hmoving, htarget, -⟩ := tasking_in_motion hf hcoa
  exact ⟨f, coa, hf, hcoa, o, htasked.mem, hmoving, htarget⟩

end AisSpoof

end NexusC2

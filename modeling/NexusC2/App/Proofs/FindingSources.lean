import NexusC2.App.FusionDetector
import NexusC2.App.Proofs.FusedDigest
import NexusC2.App.Proofs.RadarEnvelope
import NexusC2.App.Proofs.SwarmCues
import NexusC2.App.Proofs.TrojanPair

/-!
# The sources of a finding

Whatever a scenario finds in an ingested picture is about a track of the picture, and names no source
that did not report. So is the COA the scenario builds on it: it is at Tier 1, carries the digest of
that track, and each of its sources, named once, is one of the observations that came in.
-/

namespace NexusC2

/-- The finding is about a track of the picture, and its sources are those of observations. -/
structure Sourced {F D : Type} (graph : SpatialEntityGraph F D) (f : Finding F) : Prop where
  tracked : ∃ t, graph.tracks.get f.trackId = some t
  sources : ∀ source ∈ f.approachSources ++ f.spoofSources ++ f.otherSources,
    ∃ o ∈ graph.observations, o.sourceId = source

section

variable {F D : Type} {graph : SpatialEntityGraph F D}

/-- The sources of observations of the picture. -/
theorem sources_of_subset (os : List (Observation F D)) (h : ∀ o ∈ os, o ∈ graph.observations) :
    ∀ source ∈ os.map Observation.sourceId, ∃ o ∈ graph.observations, o.sourceId = source := by
  intro source hsource
  obtain ⟨o, ho, rfl⟩ := List.mem_map.mp hsource
  exact ⟨o, h o ho, rfl⟩

/-- A track of the picture goes under its id. -/
theorem SpatialEntityGraph.Traced.get_trackId (h : graph.Traced) {t : Track F D}
    (ht : t ∈ graph.tracks.values) : graph.tracks.get t.trackId = some t := by
  obtain ⟨k, hk⟩ := Dict.mem_values.mp ht
  rw [h.keyed k t hk]
  exact hk

theorem mem_of_mem_ofModality {modality : String} {o : Observation F D}
    (h : o ∈ SarAis.ofModality modality graph.observations) : o ∈ graph.observations :=
  List.mem_of_mem_filter h

theorem mem_foldl_appendNew {names seen : List String} {name : String} :
    name ∈ names.foldl appendNew seen ↔ name ∈ seen ∨ name ∈ names := by
  induction names generalizing seen with
  | nil => simp
  | cons first names ih =>
    have hstep : name ∈ appendNew seen first ↔ name ∈ seen ∨ name = first := by
      unfold appendNew
      split
      · rename_i hmem
        exact ⟨Or.inl, fun h => h.elim id fun heq => heq ▸ hmem⟩
      · simp
    rw [List.foldl_cons, ih, hstep, List.mem_cons, or_assoc]

theorem nodup_foldl_appendNew {names seen : List String} (h : seen.Nodup) :
    (names.foldl appendNew seen).Nodup := by
  induction names generalizing seen with
  | nil => exact h
  | cons first names ih =>
    apply ih
    unfold appendNew
    split
    · exact h
    · rename_i hnew
      exact List.nodup_append.mpr ⟨h, List.nodup_singleton _, fun a ha b hb => by
        rw [List.mem_singleton.mp hb]
        rintro rfl
        exact hnew ha⟩

end

/-! ## The detectors -/

namespace AisSpoof

variable {F D : Type} [PyTextOps F] {graph : SpatialEntityGraph F D}

theorem examine_sourced {track : Track F D} {p : SpoofPicture F D}
    (h : examine graph track = .ok (some p)) :
    p.trackId = track.trackId ∧
      ∀ o ∈ p.spoof ++ p.approach ++ p.rf, o ∈ graph.observations := by
  rcases examine_cases h with ⟨hnone, -⟩ | ⟨spoof, approach, hspoof, happroach, hrest⟩
  · cases hnone
  rcases hrest with ⟨hnone, -⟩ | ⟨m, -, ⟨hnone, -⟩ | ⟨-, p', hp, hsome⟩⟩
  · cases hnone
  · cases hnone
  cases hsome
  obtain ⟨forApproach, -, hp⟩ := except_bind_eq_ok.mp hp
  obtain ⟨minutes, -, hp⟩ := except_bind_eq_ok.mp hp
  cases hp
  refine ⟨rfl, fun o ho => ?_⟩
  simp only [List.mem_append] at ho
  rcases ho with (ho | ho) | ho
  · exact mem_of_mem_track ((mem_spoofOf hspoof).mp ho).1
  · exact mem_of_mem_track ((mem_approachOf happroach).mp ho).1
  · exact mem_of_mem_track (List.mem_of_mem_filter ho)

theorem detectLoop_sourced {tracks : List (Track F D)} {f : Finding F}
    (h : detectLoop graph tracks = .ok (some f)) : ∃ track ∈ tracks, f.trackId = track.trackId ∧
      ∃ p : SpoofPicture F D, f = finding p ∧
        ∀ o ∈ p.spoof ++ p.approach ++ p.rf, o ∈ graph.observations := by
  induction tracks with
  | nil => cases h
  | cons track tracks ih =>
    obtain ⟨r, hr, h⟩ := except_bind_eq_ok.mp h
    cases r with
    | some p =>
      cases h
      obtain ⟨hid, hobs⟩ := examine_sourced hr
      exact ⟨track, List.mem_cons_self, hid, p, rfl, hobs⟩
    | none =>
      obtain ⟨t, ht, hrest⟩ := ih h
      exact ⟨t, List.mem_cons_of_mem _ ht, hrest⟩

theorem detect_sourced {f : Finding F} (htraced : graph.Traced)
    (h : detect graph = .ok (some f)) : Sourced graph f := by
  obtain ⟨track, htrack, hid, p, rfl, hobs⟩ := detectLoop_sourced h
  refine ⟨⟨track, hid ▸ htraced.get_trackId htrack⟩, ?_⟩
  have hlist : (finding p).approachSources ++ (finding p).spoofSources ++ (finding p).otherSources =
      (p.approach ++ p.spoof ++ p.rf).map Observation.sourceId := by
    simp [finding]
  rw [hlist]
  refine sources_of_subset _ fun o ho => hobs o ?_
  simp only [List.mem_append] at ho ⊢
  tauto

end AisSpoof

namespace SarAis

variable {F D : Type} [PyTextOps F] [PyDateTimeOrder D] {graph : SpatialEntityGraph F D}

omit [PyDateTimeOrder D] in
/-- The nearby contacts are among those of the loop. -/
theorem joinRadar_nearby {primary : Observation F D} {projected : ProjectedContact F}
    {radar : List (Observation F D)} {j j' : RadarJoin F D}
    (h : joinRadar primary projected j radar = .ok j') :
    ∀ o ∈ j'.nearby, o ∈ j.nearby ∨ o ∈ radar := by
  induction radar generalizing j with
  | nil =>
    cases h
    exact fun o ho => Or.inl ho
  | cons o radar ih =>
    unfold joinRadar at h
    obtain ⟨cue, -, h⟩ := except_bind_eq_ok.mp h
    obtain ⟨inside, -, h⟩ := except_bind_eq_ok.mp h
    have hlonger : ∀ q, q ∈ j.nearby ++ [o] ∨ q ∈ radar → q ∈ j.nearby ∨ q ∈ o :: radar := by
      intro q hq
      simp only [List.mem_append, List.mem_cons] at hq ⊢
      tauto
    split at h
    · exact fun q hq => (ih h q hq).imp_right (List.mem_cons_of_mem _)
    · dsimp only at h
      split at h
      · obtain ⟨d, -, h⟩ := except_bind_eq_ok.mp h
        exact fun q hq => hlonger q (ih h q hq)
      · exact fun q hq => hlonger q (ih h q hq)

theorem picture_sourced {ais radar : List (Observation F D)} {density minAisD : F} {trackId : String}
    {primary : Observation F D} {p : SarPicture F D}
    (h : picture graph ais radar density trackId primary minAisD = .ok p)
    (hais : ∀ o ∈ ais, o ∈ graph.observations) (hradar : ∀ o ∈ radar, o ∈ graph.observations) :
    ∀ o ∈ p.trackSar ++ p.trackRadar ++ p.joined.nearby ++ p.ais, o ∈ graph.observations := by
  unfold picture at h
  obtain ⟨tRef, -, h⟩ := except_bind_eq_ok.mp h
  obtain ⟨projected, -, h⟩ := except_bind_eq_ok.mp h
  obtain ⟨joined, hjoined, h⟩ := except_bind_eq_ok.mp h
  obtain ⟨forSar, -, h⟩ := except_bind_eq_ok.mp h
  obtain ⟨forRadar, -, h⟩ := except_bind_eq_ok.mp h
  obtain ⟨vesselEst, -, h⟩ := except_bind_eq_ok.mp h
  obtain ⟨dtMin, -, h⟩ := except_bind_eq_ok.mp h
  cases h
  intro o ho
  simp only [List.mem_append] at ho
  rcases ho with ((ho | ho) | ho) | ho
  · exact AisSpoof.mem_of_mem_track (List.mem_of_mem_filter ho)
  · exact AisSpoof.mem_of_mem_track (List.mem_of_mem_filter ho)
  · rcases joinRadar_nearby hjoined o ho with hnone | ho
    · cases hnone
    · exact hradar o ho
  · exact hais o ho

/-- A finding is about one of the tracks of the loop. -/
theorem detectLoop_tracked {ais radar : List (Observation F D)} {density : F}
    {tracks : List (Track F D)} {f : Finding F}
    (h : detectLoop graph ais radar density tracks = .ok (some f)) :
    ∃ track ∈ tracks, f.trackId = track.trackId := by
  induction tracks with
  | nil => cases h
  | cons track tracks ih =>
    have hlater : (∃ t ∈ tracks, f.trackId = t.trackId) →
        ∃ t ∈ track :: tracks, f.trackId = t.trackId := fun ⟨t, ht, hid⟩ =>
      ⟨t, List.mem_cons_of_mem _ ht, hid⟩
    unfold detectLoop at h
    split at h
    · exact hlater (ih h)
    · obtain ⟨distances, -, h⟩ := except_bind_eq_ok.mp h
      obtain ⟨minAisD, -, h⟩ := except_bind_eq_ok.mp h
      split at h
      · exact hlater (ih h)
      · obtain ⟨p, hp, h⟩ := except_bind_eq_ok.mp h
        cases h
        exact ⟨track, List.mem_cons_self, (picture_ok hp).1⟩

theorem detect_sourced {f : Finding F} (htraced : graph.Traced)
    (h : detect graph = .ok (some f)) : Sourced graph f := by
  unfold detect at h
  dsimp only at h
  split at h
  · cases h
  obtain ⟨densities, -, h⟩ := except_bind_eq_ok.mp h
  obtain ⟨density, -, h⟩ := except_bind_eq_ok.mp h
  split at h
  · cases h
  obtain ⟨track, htrack, hid⟩ := detectLoop_tracked h
  obtain ⟨primary, minAisD, p, -, hp, rfl⟩ := detectLoop_some h
  refine ⟨⟨track, hid ▸ htraced.get_trackId htrack⟩, fun source hsource => ?_⟩
  have hobs := picture_sourced hp (fun o => mem_of_mem_ofModality) fun o => mem_of_mem_ofModality
  refine sources_of_subset _ hobs source ?_
  simp only [finding, List.append_nil, List.mem_append, mem_foldl_appendNew, List.map_append,
    List.not_mem_nil, false_or] at hsource ⊢
  exact hsource

end SarAis

namespace Trojan

/-- The pair that is returned is one of the pairs. -/
theorem nearestPair_mem {F D : Type} [PyMathOps F] {slow fast : List (Observation F D)}
    {pair : ContactPair F D} (h : nearestPair slow fast = .ok (some pair)) :
    pair.slow ∈ slow ∧ pair.fast ∈ fast := by
  rw [nearestPair_eq, except_map_eq_ok] at h
  obtain ⟨ps, hps, hbest⟩ := h
  cases ps with
  | nil => cases hbest
  | cons first ps =>
    let beats (p q : ContactPair F D) : Prop := PyFloatOps.lt q.distM p.distM = true
    have hpair : ps.foldl (betterOf beats) first = pair :=
      Option.some.inj ((foldl_nearer first ps).symm.trans hbest)
    have hmem : pair ∈ first :: ps := hpair ▸ foldl_betterOf_mem (r := beats)
    obtain ⟨⟨a, b⟩, hab, hmeasure⟩ := except_mapM_mem hps hmem
    obtain ⟨d, hd, rfl⟩ := except_map_eq_ok.mp hmeasure
    exact List.pair_mem_product.mp hab

variable {F D : Type} [PyReportOps F] {graph : SpatialEntityGraph F D}
  {loadPois : Except Exc (List (Poi F))} {f : Finding F}

theorem report_sourced {pair : ContactPair F D} (hslow : pair.slow ∈ graph.observations)
    (hfast : pair.fast ∈ graph.observations) (h : report graph loadPois pair = .ok (some f)) :
    Sourced graph f := by
  obtain ⟨aisKt, -, h⟩ := except_bind_eq_ok.mp h
  obtain ⟨radarKt, -, h⟩ := except_bind_eq_ok.mp h
  split at h
  · cases h
  split at h
  · cases h
  rename_i trackId htrack
  obtain ⟨pois, -, h⟩ := except_bind_eq_ok.mp h
  obtain ⟨⟨minutes, byPoi⟩, -, h⟩ := except_bind_eq_ok.mp h
  obtain ⟨warningMin, -, h⟩ := except_bind_eq_ok.mp h
  obtain ⟨mismatchM, -, h⟩ := except_bind_eq_ok.mp h
  cases h
  constructor
  · rcases Option.or_eq_some_iff.mp htrack with hheld | ⟨-, hheld⟩
    · obtain ⟨t, ht, -⟩ := holderOf_some hheld
      exact ⟨t, ht⟩
    · obtain ⟨t, ht, -⟩ := holderOf_some hheld
      exact ⟨t, ht⟩
  · have hobs : ∀ o ∈ [pair.fast, pair.slow] ++ storyEw graph, o ∈ graph.observations := by
      intro o ho
      rcases List.mem_append.mp ho with ho | ho
      · simp only [List.mem_cons, List.not_mem_nil, or_false] at ho
        rcases ho with rfl | rfl
        · exact hfast
        · exact hslow
      · exact List.mem_of_mem_filter ho
    exact sources_of_subset _ hobs

theorem detect_sourced (h : detect graph loadPois = .ok (some f)) : Sourced graph f := by
  obtain ⟨ais, radar, hais, hradar, hrest⟩ := detect_cases h
  rcases hrest with ⟨hnone, -⟩ | ⟨hnone, -⟩ | ⟨pair, hpair, hreport⟩
  · cases hnone
  · cases hnone
  obtain ⟨hslow, hfast⟩ := nearestPair_mem hpair
  exact report_sourced (List.mem_of_mem_filter ((mem_slow hais).mp hslow).1)
    (List.mem_of_mem_filter ((mem_fast hradar).mp hfast).1) hreport

end Trojan

namespace OsintSwarm

variable {F D : Type} [PyIntelOps F] {graph : SpatialEntityGraph F D} {f : Finding F}

theorem report_sourced {social radar blurOptical : List (Observation F D)}
    {socialCount radarCount : Int} {cue rad : Observation F D} (htraced : graph.Traced)
    (hgroups : ∀ o ∈ radar ++ blurOptical ++ social, o ∈ graph.observations)
    (h : report graph social radar blurOptical socialCount radarCount cue rad = .ok (some f)) :
    Sourced graph f := by
  obtain ⟨mismatch, -, h⟩ := except_bind_eq_ok.mp h
  split at h
  · cases h
  split at h
  · cases h
  obtain ⟨eoConf, -, h⟩ := except_bind_eq_ok.mp h
  split at h
  · cases h
  rename_i track htrack
  obtain ⟨forSocial, -, h⟩ := except_bind_eq_ok.mp h
  obtain ⟨forRadar, -, h⟩ := except_bind_eq_ok.mp h
  cases h
  constructor
  · have hmem : track ∈ graph.tracks.values := by
      rcases Option.or_eq_some_iff.mp htrack with hget | ⟨-, hfind⟩
      · exact Dict.mem_values.mpr ⟨_, hget⟩
      · exact List.mem_of_find?_eq_some hfind
    exact ⟨track, htraced.get_trackId hmem⟩
  · intro source hsource
    refine sources_of_subset (radar ++ blurOptical ++ SarAis.ofModality "acoustic"
      graph.observations ++ (social ++ SarAis.ofModality "adsb" graph.observations) ++
        SarAis.ofModality "rf" graph.observations) ?_ source (by simpa [finding] using hsource)
    intro o ho
    have hgroup := hgroups o
    simp only [List.mem_append] at ho hgroup
    rcases ho with (((ho | ho) | ho) | (ho | ho)) | ho
    · exact hgroup (Or.inl (Or.inl ho))
    · exact hgroup (Or.inl (Or.inr ho))
    · exact mem_of_mem_ofModality ho
    · exact hgroup (Or.inr ho)
    · exact mem_of_mem_ofModality ho
    · exact mem_of_mem_ofModality ho

theorem detect_sourced [PyChars] (htraced : graph.Traced)
    (h : detect graph = .ok (some f)) : Sourced graph f := by
  unfold detect at h
  dsimp only at h
  split at h
  · cases h
  obtain ⟨claims, -, h⟩ := except_bind_eq_ok.mp h
  obtain ⟨contacts, -, h⟩ := except_bind_eq_ok.mp h
  split at h
  · cases h
  split at h
  · refine report_sourced htraced (fun o ho => ?_) h
    simp only [List.mem_append] at ho
    rcases ho with (ho | ho) | ho
    · exact mem_of_mem_ofModality ho
    · exact mem_of_mem_ofModality (List.mem_of_mem_filter ho)
    · exact mem_of_mem_ofModality ho
  · cases h

end OsintSwarm

namespace Fusion

variable {F D : Type} {graph : SpatialEntityGraph F D}

/-- The track holds one of the contacts. -/
def HoldsOne (airRadar : List (Observation F D)) (track : Track F D) : Prop :=
  ∃ o ∈ airRadar, o.observationId ∈ track.observationIds

/-- The loop ends at the key of a track that holds a contact, where it did not begin with a key. -/
theorem trackLoop_some {airRadar : List (Observation F D)} {start : Option String}
    {tracks : List (String × Track F D)} {trackId : String}
    (h : trackLoop airRadar start tracks = some trackId) :
    start = some trackId ∨ ∃ t, (trackId, t) ∈ tracks ∧ HoldsOne airRadar t := by
  induction tracks generalizing start with
  | nil => exact Or.inl h
  | cons p tracks ih =>
    obtain ⟨tid, track⟩ := p
    -- the key after this track: its own where it holds a contact, else the one before
    have hstep : ∀ key : Option String, (key = start ∨ key = some tid ∧ HoldsOne airRadar track) →
        (trackLoop airRadar key tracks = some trackId ∨ key = some trackId) →
          start = some trackId ∨
            ∃ t, (trackId, t) ∈ (tid, track) :: tracks ∧ HoldsOne airRadar t := by
      intro key hfrom hkey
      have hhere : key = some trackId ∨ ∃ t, (trackId, t) ∈ tracks ∧ HoldsOne airRadar t :=
        hkey.elim ih Or.inl
      rcases hhere with hkeep | ⟨t, ht, hholds⟩
      · rcases hfrom with rfl | ⟨rfl, hholds⟩
        · exact Or.inl hkeep
        · cases hkeep
          exact Or.inr ⟨track, List.mem_cons_self, hholds⟩
      · exact Or.inr ⟨t, List.mem_cons_of_mem _ ht, hholds⟩
    unfold trackLoop at h
    dsimp only at h
    refine hstep (if airRadar.any fun o => o.observationId ∈ track.observationIds then some tid
      else start) ?_ ?_
    · split
      · rename_i hany
        exact Or.inr ⟨rfl, by simpa [HoldsOne] using hany⟩
      · exact Or.inl rfl
    · split at h
      · rename_i hnone
        rw [hnone]
        exact Or.inl h
      · rename_i key hkey
        rw [hkey]
        split at h
        · exact Or.inl h
        · exact Or.inr h

variable [PyMathOps F] {f : Finding F}

theorem detect_sourced (h : detect graph = .ok (some f)) : Sourced graph f := by
  unfold detect at h
  split at h
  · cases h
  obtain ⟨p, hp, h⟩ := except_bind_eq_ok.mp h
  split at h
  · cases h
  split at h
  · cases h
  split at h
  · cases h
  rename_i trackId htrack
  obtain ⟨mismatchM, -, h⟩ := except_bind_eq_ok.mp h
  cases h
  obtain ⟨airEo, -, hp⟩ := except_bind_eq_ok.mp hp
  obtain ⟨armyEo, -, hp⟩ := except_bind_eq_ok.mp hp
  cases hp
  constructor
  · rcases trackLoop_some htrack with hnone | ⟨t, ht, -⟩
    · cases hnone
    · exact ⟨t, Dict.mem_entries.mp ht⟩
  · have hsource : ∀ {name : String} {o : Observation F D}, o ∈ bySource graph name →
        o ∈ graph.observations := List.mem_of_mem_filter
    intro source hmem
    refine sources_of_subset ((bySource graph "AIR_RADAR").take 5 ++
      ((bySource graph "AIR_EW" ++ bySource graph "ARMY_EW") ++
        ((bySource graph "NAVY_COASTAL_RADAR").filter unknownAirborne).take 5)) ?_ source
          (by simpa [finding] using hmem)
    intro o ho
    simp only [List.mem_append] at ho
    rcases ho with ho | ((ho | ho) | ho)
    · exact hsource (List.mem_of_mem_take ho)
    · exact hsource ho
    · exact hsource ho
    · exact hsource (List.mem_of_mem_filter (List.mem_of_mem_take ho))

end Fusion

/-! ## The COA -/

section

variable {F D : Type} [PyMathOps F] [Sha256] {graph : SpatialEntityGraph F D} {f : Finding F}
  {coaId : String} {timeoutSeconds : F} {coa : CourseOfAction F}

/-- What a COA of `make_tier1_coa` takes from its finding and its track. -/
theorem makeTier1Coa_takes {intent : String} {speed : Option F} {contact : Bool}
    (h : makeTier1Coa coaId graph f intent timeoutSeconds speed contact = .ok coa) :
    coa.tier = .tier1Hitl ∧ coa.targetEntityId = f.trackId ∧
      coa.corroboratingSources = f.allSources ∧
      ∃ track, graph.tracks.get f.trackId = some track ∧ coa.rawInputDigest = track.fusedDigest := by
  obtain ⟨track, skt, lat, lon, contactSpeed, htrack, ⟨-, poi, h⟩ | ⟨-, rfl⟩⟩ :=
    makeTier1Coa_cases h
  · obtain ⟨target, metadata, rfl⟩ := CourseOfAction.applyLeadPursuit_ok h
    exact ⟨rfl, rfl, rfl, track, htrack, rfl⟩
  · exact ⟨rfl, rfl, rfl, track, htrack, rfl⟩

theorem buildCoa_takes {s : RegisteredScenario} {loadPois : Except Exc (List (Poi F))}
    (h : s.buildCoa coaId graph f timeoutSeconds loadPois = .ok coa) :
    coa.tier = .tier1Hitl ∧ coa.targetEntityId = f.trackId ∧
      coa.corroboratingSources = f.allSources ∧
      ∃ track, graph.tracks.get f.trackId = some track ∧ coa.rawInputDigest = track.fusedDigest := by
  cases s with
  | s1Trojan =>
    obtain ⟨draft, hdraft, h⟩ := except_bind_eq_ok.mp h
    obtain ⟨pois, -, h⟩ := except_bind_eq_ok.mp h
    obtain ⟨-, htarget, hsources, track, htrack, hdigest⟩ := makeTier1Coa_takes hdraft
    split at h
    · cases h
      exact makeTier1Coa_takes hdraft
    · cases h
      exact ⟨rfl, htarget, hsources, track, htrack, hdigest⟩
  | s3SarAis =>
    change makeTier1Coa coaId graph f "APPROACH_PATROL" timeoutSeconds none true = .ok coa at h
    exact makeTier1Coa_takes h
  | s1AisSpoof =>
    change makeTier1Coa coaId graph f "ISR_IDENTIFY_CONTACT" timeoutSeconds none true = .ok coa at h
    exact makeTier1Coa_takes h
  | s2OsintSwarm =>
    change makeTier1Coa coaId graph f "GNSS_DENIAL_AND_GBAD_CUE" timeoutSeconds none false = .ok coa at h
    exact makeTier1Coa_takes h
  | s4FusionDisagreement =>
    change makeTier1Coa coaId graph f "CUE_AND_IDENTIFY" timeoutSeconds none false = .ok coa at h
    exact makeTier1Coa_takes h

end

section

variable {F D : Type} [PyScenarioOps F] [PyChars] [PyDateTimeOrder D]

theorem RegisteredScenario.detect_sourced {s : RegisteredScenario} {graph : SpatialEntityGraph F D}
    {loadPois : Except Exc (List (Poi F))} {f : Finding F} (htraced : graph.Traced)
    (h : s.detect graph loadPois = .ok (some f)) : Sourced graph f := by
  cases s with
  | s1Trojan => exact Trojan.detect_sourced h
  | s3SarAis => exact SarAis.detect_sourced htraced h
  | s1AisSpoof => exact AisSpoof.detect_sourced htraced h
  | s2OsintSwarm => exact OsintSwarm.detect_sourced htraced h
  | s4FusionDisagreement => exact Fusion.detect_sourced h

variable [Sha256]

/-- The COA of any scenario on a picture that was ingested goes to a track of the picture, at Tier 1,
with the digest of that track; and each of its sources, named once, is the source of an observation
that came in. -/
theorem coa_traceable {s : RegisteredScenario} {coaId : String} {r timeoutSeconds : F}
    {os : List (Observation F D)} {graph : SpatialEntityGraph F D} {f : Finding F}
    {loadPois : Except Exc (List (Poi F))} {coa : CourseOfAction F}
    (hgraph : (SpatialEntityGraph.fresh r).ingestMany os = .ok graph)
    (hfound : s.detect graph loadPois = .ok (some f))
    (h : s.buildCoa coaId graph f timeoutSeconds loadPois = .ok coa) :
    coa.tier = .tier1Hitl ∧
      (∃ track, graph.tracks.get coa.targetEntityId = some track ∧
        track.trackId = coa.targetEntityId ∧ coa.rawInputDigest = track.fusedDigest) ∧
      coa.corroboratingSources.Nodup ∧
      ∀ source ∈ coa.corroboratingSources, ∃ o ∈ os, o.sourceId = source := by
  have htraced := SpatialEntityGraph.ingestMany_traced hgraph (SpatialEntityGraph.traced_fresh r)
  obtain ⟨-, hsources⟩ := RegisteredScenario.detect_sourced htraced hfound
  obtain ⟨htier, htarget, hnamed, track, htrack, hdigest⟩ := buildCoa_takes h
  rw [htarget, hnamed]
  refine ⟨htier, ⟨track, htrack, htraced.keyed _ _ htrack, hdigest⟩,
    nodup_foldl_appendNew List.nodup_nil, fun source hsource => ?_⟩
  have hmem := (mem_foldl_appendNew.mp hsource).resolve_left (by simp)
  obtain ⟨o, ho, hid⟩ := hsources source hmem
  rw [SpatialEntityGraph.ingestMany_observations hgraph] at ho
  obtain ⟨o', ho', rfl⟩ := List.mem_map.mp ho
  refine ⟨o', ho', hid ▸ ?_⟩
  unfold Observation.ensureDigest
  split <;> rfl

end

/-- Exact numbers for all the detectors. -/
abbrev exactScenario : PyScenarioOps Rat where
  toPyTextOps := exactText
  ofNumeral cs := ofIntText cs
  mod a b := a - b * (a / b).floor
  fmt1 x := String.ofList (intText x.floor)

theorem coa_traceable_three :
    letI := plainHash
    letI := exactScenario
    letI := asciiChars
    ∃ graph f coa, (SpatialEntityGraph.fresh 2000).ingestMany Trojan.threeSightings = .ok graph ∧
      RegisteredScenario.s1Trojan.detect graph (.ok []) = .ok (some f) ∧
      RegisteredScenario.s1Trojan.buildCoa "coa-1" graph f 5 (.ok []) = .ok coa ∧
      ∀ source ∈ coa.corroboratingSources, ∃ o ∈ Trojan.threeSightings, o.sourceId = source := by
  let := plainHash
  let := exactScenario
  let := asciiChars
  have hbuilt : ((SpatialEntityGraph.fresh 2000).ingestMany Trojan.threeSightings >>= fun graph =>
      RegisteredScenario.s1Trojan.detect graph (.ok []) >>= fun r => match r with
        | some f => RegisteredScenario.s1Trojan.buildCoa "coa-1" graph f 5 (.ok [])
        | none => .error .assertion).isOk = true := by decide +kernel
  obtain ⟨coa, hcoa⟩ := except_isOk_iff.mp hbuilt
  obtain ⟨graph, hgraph, hcoa⟩ := except_bind_eq_ok.mp hcoa
  obtain ⟨r, hfound, hcoa⟩ := except_bind_eq_ok.mp hcoa
  cases r with
  | none => cases hcoa
  | some f =>
    obtain ⟨-, -, -, hsources⟩ := coa_traceable hgraph hfound hcoa
    exact ⟨graph, f, coa, hgraph, hfound, hcoa, hsources⟩

end NexusC2

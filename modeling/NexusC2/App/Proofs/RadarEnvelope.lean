import NexusC2.App.SarAisDetector

/-!
# The flag of the detector and the association

`_detect` holds every radar contact against the envelope at the latest radar clock, however old the
SAR contact is; `associate_kinematically` takes the clock of the radar contact itself and refuses a
SAR contact that is too old. The two can only differ over the contacts of other clocks or of a SAR
contact that is too old for theirs.
-/

namespace NexusC2

/-- Two ways of looking for something that agree on some of the candidates: they agree on all exactly
when one of these is found, or when they agree on the others. -/
theorem exists_iff_exists_iff {α : Type} {l : List α} {C A B : α → Prop}
    (h : ∀ a, C a → (A a ↔ B a)) : ((∃ a ∈ l, A a) ↔ ∃ a ∈ l, B a) ↔
      (∃ a ∈ l, C a ∧ A a) ∨ ((∃ a ∈ l, ¬ C a ∧ A a) ↔ ∃ a ∈ l, ¬ C a ∧ B a) := by
  have hsplit (P : α → Prop) : (∃ a ∈ l, P a) ↔ (∃ a ∈ l, C a ∧ P a) ∨ ∃ a ∈ l, ¬ C a ∧ P a := by
    constructor
    · rintro ⟨a, ha, hP⟩
      by_cases hC : C a
      · exact Or.inl ⟨a, ha, hC, hP⟩
      · exact Or.inr ⟨a, ha, hC, hP⟩
    · rintro (⟨a, ha, -, hP⟩ | ⟨a, ha, -, hP⟩)
      · exact ⟨a, ha, hP⟩
      · exact ⟨a, ha, hP⟩
  have hsame : (∃ a ∈ l, C a ∧ A a) ↔ ∃ a ∈ l, C a ∧ B a :=
    exists_congr fun a => and_congr_right fun _ => and_congr_right fun hC => h a hC
  rw [hsplit A, hsplit B, ← hsame]
  by_cases hfound : ∃ a ∈ l, C a ∧ A a
  · exact iff_of_true (iff_of_true (Or.inl hfound) (Or.inl hfound)) (Or.inl hfound)
  · rw [or_iff_right hfound, or_iff_right hfound, or_iff_right hfound]

namespace SarAis

section

variable {F D : Type} [PyTextOps F] [PyDateTimeOrder D]

open PyFloatOps

/-! ## The flag -/

/-- `radar_in_envelope` of the finding. -/
def Flagged (f : Finding F) : Prop :=
  ∃ kinematics, Assoc.get f.sourceBreakdown "kinematics" = some (.obj kinematics) ∧
    Assoc.get kinematics "radar_in_envelope" = some (.bool true)

/-- The SAR contact the finding is about. -/
def primaryOf (graph : SpatialEntityGraph F D) (f : Finding F) : Option (Observation F D) :=
  (ofModality "space_sar" (observationsForTrack graph f.trackId)).head?

/-- The point of the radar contact is in the envelope of the SAR contact at a clock. -/
def InsideAt (p : Observation F D) (clock : D) (o : Observation F D) : Prop :=
  ∃ projected, projectObservation p clock = .ok projected ∧
    inReachabilityEnvelope projected o.latitude o.longitude = .ok true

/-- The SAR contact is not too old for the radar contact, or too new. -/
def Recent (p o : Observation F D) : Prop :=
  ∃ dt : F, secondsBetween o.observedAt p.observedAt = .ok dt ∧ lt maxDtSec (PyMathOps.abs dt) = false

omit [PyDateTimeOrder D] in
/-- The flag is that of the loop over the radar contacts. -/
theorem flagged_finding (p : SarPicture F D) : Flagged (finding p) ↔ p.joined.inEnvelope = true := by
  have hkinematics : Assoc.get (finding p).sourceBreakdown "kinematics" =
      some (.obj (p.projected.asBreakdown ++ [("radar_in_envelope", .bool p.joined.inEnvelope),
        ("radar_distance_to_projected_m", .float p.joined.distanceM)])) := rfl
  have hflag : Assoc.get (p.projected.asBreakdown ++
      [("radar_in_envelope", (.bool p.joined.inEnvelope : Json F)),
        ("radar_distance_to_projected_m", .float p.joined.distanceM)]) "radar_in_envelope" =
          some (.bool p.joined.inEnvelope) := rfl
  unfold Flagged
  rw [hkinematics]
  constructor
  · rintro ⟨kinematics, hobj, htrue⟩
    obtain rfl := Json.obj.inj (Option.some.inj hobj)
    rw [hflag] at htrue
    exact Json.bool.inj (Option.some.inj htrue)
  · intro h
    exact ⟨_, rfl, by rw [hflag, h]⟩

omit [PyDateTimeOrder D] in
/-- The loop raises the flag at a contact inside and never takes it back. -/
theorem joinRadar_inEnvelope {primary : Observation F D} {projected : ProjectedContact F}
    {radar : List (Observation F D)} {j j' : RadarJoin F D}
    (h : joinRadar primary projected j radar = .ok j') :
    j'.inEnvelope = true ↔ j.inEnvelope = true ∨
      ∃ o ∈ radar, inReachabilityEnvelope projected o.latitude o.longitude = .ok true := by
  induction radar generalizing j with
  | nil =>
    obtain rfl := Except.ok.inj h
    simp
  | cons o radar ih =>
    unfold joinRadar at h
    obtain ⟨cue, -, h⟩ := except_bind_eq_ok.mp h
    obtain ⟨inside, hinside, h⟩ := except_bind_eq_ok.mp h
    have hhead : (∃ q ∈ o :: radar, inReachabilityEnvelope projected q.latitude q.longitude =
        .ok true) ↔ inside = true ∨ ∃ q ∈ radar,
          inReachabilityEnvelope projected q.latitude q.longitude = .ok true := by
      simp [hinside]
    rw [hhead]
    cases inside with
    | true =>
      simp only [Bool.or_true, Bool.not_true, Bool.false_eq_true, if_false, if_true] at h
      obtain ⟨d, -, h⟩ := except_bind_eq_ok.mp h
      rw [ih h]
      simp
    | false =>
      simp only [Bool.or_false, Bool.false_eq_true, if_false] at h
      split at h
      · rw [ih h]
        simp
      · rw [ih h]
        simp

/-- What a report of a track was made of. -/
theorem picture_ok {graph : SpatialEntityGraph F D} {ais radar : List (Observation F D)}
    {density minAisD : F} {trackId : String} {primary : Observation F D} {p : SarPicture F D}
    (h : picture graph ais radar density trackId primary minAisD = .ok p) :
    p.trackId = trackId ∧ ∃ tRef projected, referenceClock primary radar = .ok tRef ∧
      projectObservation primary tRef = .ok projected ∧
      joinRadar primary projected ⟨[], false, 0.0⟩ radar = .ok p.joined := by
  unfold picture at h
  obtain ⟨tRef, htRef, h⟩ := except_bind_eq_ok.mp h
  obtain ⟨projected, hprojected, h⟩ := except_bind_eq_ok.mp h
  obtain ⟨joined, hjoined, h⟩ := except_bind_eq_ok.mp h
  obtain ⟨forSar, -, h⟩ := except_bind_eq_ok.mp h
  obtain ⟨forRadar, -, h⟩ := except_bind_eq_ok.mp h
  obtain ⟨vesselEst, -, h⟩ := except_bind_eq_ok.mp h
  obtain ⟨dtMin, -, h⟩ := except_bind_eq_ok.mp h
  obtain rfl := Except.ok.inj h
  exact ⟨rfl, tRef, projected, htRef, hprojected, hjoined⟩

/-- What a finding was made of. -/
theorem detectLoop_some {graph : SpatialEntityGraph F D} {ais radar : List (Observation F D)}
    {density : F} {tracks : List (Track F D)} {f : Finding F}
    (h : detectLoop graph ais radar density tracks = .ok (some f)) :
    ∃ primary minAisD p, primaryOf graph f = some primary ∧
      picture graph ais radar density f.trackId primary minAisD = .ok p ∧ f = finding p := by
  induction tracks with
  | nil => cases h
  | cons track tracks ih =>
    unfold detectLoop at h
    split at h
    · exact ih h
    · rename_i primary rest hprimary
      obtain ⟨distances, -, h⟩ := except_bind_eq_ok.mp h
      obtain ⟨minAisD, -, h⟩ := except_bind_eq_ok.mp h
      split at h
      · exact ih h
      · obtain ⟨p, hp, h⟩ := except_bind_eq_ok.mp h
        obtain rfl := Option.some.inj (Except.ok.inj h)
        have htrack : (finding p).trackId = track.trackId := (picture_ok hp).1
        refine ⟨primary, minAisD, p, ?_, by rw [htrack]; exact hp, rfl⟩
        rw [primaryOf, htrack, hprimary]
        rfl

/-- The flag of a finding: a radar contact is inside at the reference clock. -/
theorem flagged_iff {graph : SpatialEntityGraph F D} {f : Finding F}
    (h : detect graph = .ok (some f)) :
    ∃ p tRef, primaryOf graph f = some p ∧
      referenceClock p (ofModality "radar" graph.observations) = .ok tRef ∧
      (Flagged f ↔ ∃ o ∈ ofModality "radar" graph.observations, InsideAt p tRef o) := by
  unfold detect at h
  dsimp only at h
  split at h
  · cases h
  obtain ⟨densities, -, h⟩ := except_bind_eq_ok.mp h
  obtain ⟨density, -, h⟩ := except_bind_eq_ok.mp h
  split at h
  · cases h
  obtain ⟨primary, minAisD, p, hprimary, hp, rfl⟩ := detectLoop_some h
  obtain ⟨-, tRef, projected, htRef, hprojected, hjoined⟩ := picture_ok hp
  refine ⟨primary, tRef, hprimary, htRef, ?_⟩
  rw [flagged_finding, joinRadar_inEnvelope hjoined]
  constructor
  · rintro (hfalse | ⟨o, ho, hinside⟩)
    · cases hfalse
    · exact ⟨o, ho, projected, hprojected, hinside⟩
  · rintro ⟨o, ho, projected', hprojected', hinside⟩
    rw [hprojected] at hprojected'
    obtain rfl := Except.ok.inj hprojected'
    exact Or.inr ⟨o, ho, hinside⟩

/-! ## The association -/

omit [PyTextOps F] [PyDateTimeOrder D] in
theorem mem_ofModality {modality : String} {os : List (Observation F D)} {o : Observation F D} :
    o ∈ ofModality modality os ↔ o ∈ os ∧ o.modality = modality := by
  simp [ofModality]

omit [PyTextOps F] [PyDateTimeOrder D] in
theorem primaryOf_modality {graph : SpatialEntityGraph F D} {f : Finding F} {p : Observation F D}
    (h : primaryOf graph f = some p) : p.modality = "space_sar" :=
  (mem_ofModality.mp (List.mem_of_head? h)).2

/-- A SAR and a radar contact are associated when the radar contact is inside at its own clock and the
SAR contact is not too old for it. -/
theorem associateKinematically_iff {p o : Observation F D} (hp : p.modality = "space_sar")
    (ho : o.modality = "radar") : associateKinematically p o = .ok true ↔
      Recent p o ∧ InsideAt p o.observedAt o := by
  unfold associateKinematically sarAndRadar
  rw [if_pos ⟨hp, ho⟩]
  constructor
  · intro h
    obtain ⟨dt, hdt, h⟩ := except_bind_eq_ok.mp h
    split at h
    · cases h
    · rename_i hrecent
      obtain ⟨projected, hprojected, hinside⟩ := except_bind_eq_ok.mp h
      exact ⟨⟨dt, hdt, Bool.not_eq_true _ ▸ hrecent⟩, projected, hprojected, hinside⟩
  · rintro ⟨⟨dt, hdt, hrecent⟩, projected, hprojected, hinside⟩
    simp only [hdt, bind, Except.bind, hrecent, Bool.false_eq_true, if_false, hprojected, hinside]

/-- The radar contact has the reference clock, and the SAR contact is not too old for it. -/
def Current (p : Observation F D) (tRef : D) (o : Observation F D) : Prop :=
  PyDateTime.utcMicros o.observedAt = PyDateTime.utcMicros tRef ∧ Recent p o

/-- The projection goes by the time in UTC. -/
theorem insideAt_congr {p o : Observation F D} {clock clock' : D}
    (h : PyDateTime.utcMicros clock = PyDateTime.utcMicros clock') :
    InsideAt p clock o ↔ InsideAt p clock' o := by
  unfold InsideAt projectObservation secondsBetween
  rw [h]

/-- A current contact is inside at the reference clock, or both ways of looking answer alike for the
other contacts. -/
def OthersAgree (p : Observation F D) (tRef : D) (radar : List (Observation F D)) : Prop :=
  (∃ o ∈ radar, Current p tRef o ∧ InsideAt p tRef o) ∨
    ((∃ o ∈ radar, ¬ Current p tRef o ∧ InsideAt p tRef o) ↔
      ∃ o ∈ radar, ¬ Current p tRef o ∧ Recent p o ∧ InsideAt p o.observedAt o)

/-- The flag of a finding is that of the association. -/
def FlagAgrees (graph : SpatialEntityGraph F D) (f : Finding F) : Prop :=
  ∃ p, primaryOf graph f = some p ∧
    (Flagged f ↔ ∃ o ∈ graph.observations, o.modality = "radar" ∧
      associateKinematically p o = .ok true)

/-- The flag is that of the association exactly when the contacts that are not current agree, or do
not matter. -/
theorem flagAgrees_iff {graph : SpatialEntityGraph F D} {f : Finding F}
    (h : detect graph = .ok (some f)) :
    FlagAgrees graph f ↔ ∃ p tRef, primaryOf graph f = some p ∧
      referenceClock p (ofModality "radar" graph.observations) = .ok tRef ∧
      OthersAgree p tRef (ofModality "radar" graph.observations) := by
  obtain ⟨p, tRef, hprimary, htRef, hflag⟩ := flagged_iff h
  have hsar := primaryOf_modality hprimary
  have hassociated : (∃ o ∈ graph.observations, o.modality = "radar" ∧
      associateKinematically p o = .ok true) ↔
        ∃ o ∈ ofModality "radar" graph.observations, Recent p o ∧ InsideAt p o.observedAt o := by
    constructor
    · rintro ⟨o, ho, hradar, hassociated⟩
      exact ⟨o, mem_ofModality.mpr ⟨ho, hradar⟩, (associateKinematically_iff hsar hradar).mp hassociated⟩
    · rintro ⟨o, ho, hinside⟩
      obtain ⟨hmem, hradar⟩ := mem_ofModality.mp ho
      exact ⟨o, hmem, hradar, (associateKinematically_iff hsar hradar).mpr hinside⟩
  have hcore : (Flagged f ↔ ∃ o ∈ graph.observations, o.modality = "radar" ∧
      associateKinematically p o = .ok true) ↔
        OthersAgree p tRef (ofModality "radar" graph.observations) := by
    rw [hflag, hassociated]
    refine exists_iff_exists_iff fun o hcurrent => ?_
    rw [insideAt_congr hcurrent.1]
    exact ⟨fun hinside => ⟨hcurrent.2, hinside⟩, And.right⟩
  constructor
  · rintro ⟨p', hprimary', hagrees⟩
    rw [hprimary] at hprimary'
    obtain rfl := Option.some.inj hprimary'
    exact ⟨p, tRef, hprimary, htRef, hcore.mp hagrees⟩
  · rintro ⟨p', tRef', hprimary', htRef', hothers⟩
    rw [hprimary] at hprimary'
    obtain rfl := Option.some.inj hprimary'
    rw [htRef] at htRef'
    obtain rfl := Except.ok.inj htRef'
    exact ⟨p, hprimary, hcore.mpr hothers⟩

end

end SarAis

/-! ## A SAR pass and a radar contact -/

instance : PyDateTimeOrder Instant where
  later a b := some (decide (b.micros < a.micros))

namespace SarAis

/-- A contact of a sensor, so many seconds after the SAR pass. -/
def contact (modality : String) (latitude seconds : Int) : Observation Whole Instant :=
  { observationId := modality
    sourceId := modality
    entityHint := ""
    latitude := .num latitude
    longitude := .num 103
    altitudeM := none
    speedMps := .num 0
    headingDeg := none
    confidence := .num 1
    observedAt := ⟨seconds * 1000000⟩
    modality := modality
    attributes := [("lane_density_index", .int 0)]
    rawDigest := modality }

/-- The graph of a SAR pass, AIS far from it, and a radar contact where the SAR contact was. -/
def passAndRadar (seconds : Int) : SpatialEntityGraph Whole Instant :=
  letI := plainHash
  (Handler.forEach (fun o => do let _ ← SpatialEntityGraph.ingest o)
    [contact "space_sar" 60 0, contact "ais" (-60) 0, contact "radar" 60 seconds] .empty).2

/-- Half an hour after the pass the flag is that of the association. -/
theorem flagAgrees_iff_halfHour :
    ∃ f, detect (passAndRadar 1800) = .ok (some f) ∧ FlagAgrees (passAndRadar 1800) f := by
  obtain ⟨f, hf, hprimary⟩ : ∃ f, detect (passAndRadar 1800) = .ok (some f) ∧
      primaryOf (passAndRadar 1800) f = some (contact "space_sar" 60 0) := ⟨_, rfl, rfl⟩
  have hcurrent : Current (contact "space_sar" 60 0) ⟨1800000000⟩ (contact "radar" 60 1800) :=
    ⟨rfl, .num 1800, rfl, rfl⟩
  exact ⟨f, hf, (flagAgrees_iff hf).mpr ⟨_, ⟨1800000000⟩, hprimary, rfl,
    Or.inl ⟨_, List.mem_cons_self, hcurrent, _, rfl, rfl⟩⟩⟩

/-- Five hours after it the flag is up and nothing is associated. -/
theorem not_flagAgrees :
    ¬ ∀ (graph : SpatialEntityGraph Whole Instant) (f : Finding Whole),
      detect graph = .ok (some f) → FlagAgrees graph f := by
  intro h
  obtain ⟨f, hf, hprimary, hflagged⟩ : ∃ f, detect (passAndRadar 18000) = .ok (some f) ∧
      primaryOf (passAndRadar 18000) f = some (contact "space_sar" 60 0) ∧ Flagged f :=
    ⟨_, rfl, rfl, _, rfl, rfl⟩
  obtain ⟨p, hp, hagrees⟩ := h (passAndRadar 18000) f hf
  rw [hprimary] at hp
  obtain rfl := Option.some.inj hp
  obtain ⟨o, ho, hradar, hassociated⟩ := hagrees.mp hflagged
  have hobservations : (passAndRadar 18000).observations =
      [contact "space_sar" 60 0, contact "ais" (-60) 0, contact "radar" 60 18000] := rfl
  simp only [hobservations, List.mem_cons, List.not_mem_nil, or_false] at ho
  rcases ho with rfl | rfl | rfl <;> cases hassociated

end SarAis

end NexusC2

import NexusC2.App.Proofs.IngestedPicture
import NexusC2.App.Proofs.SpoofedTrack
import NexusC2.App.SwarmDetector

/-!
# The cues of a swarm

What the contacts of a sector say, without their kinematics: the detector finds a swarm exactly where
these cues contradict each other, in whatever order and however often they came.
-/

namespace NexusC2

/-- What an observation of the sector says. -/
inductive Cue where
  | claim (count : Int)
  | contacts (count : Int)
  | sky (blur : Bool)
  | engine
  | noSquawk
  | noEmitter
  deriving DecidableEq, Repr

namespace Cue

/-- The modality a cue comes by. -/
def modality : Cue → String
  | .claim _ => "social"
  | .contacts _ => "radar"
  | .sky _ => "optical"
  | .engine => "acoustic"
  | .noSquawk => "adsb"
  | .noEmitter => "rf"

/-- The radar contacts a cue counts. -/
def counted : Cue → Int
  | .contacts n => n
  | _ => 0

end Cue

/-- A claim of many, the few contacts that are expected of a radar in clutter, a blurred look at the
sky, and an engine that is heard. -/
structure Contradicting (cues : List Cue) : Prop where
  claimed : ∃ n, Cue.claim n ∈ cues ∧ OsintSwarm.minClaimedCount ≤ n
  counted : (cues.map Cue.counted).sum = OsintSwarm.expectedRadarContacts
  blurred : Cue.sky true ∈ cues
  heard : Cue.engine ∈ cues

/-- Where a sector has its contacts, and how confident its radar is of a firm one. -/
structure Sector (F : Type) where
  cueLat : F
  cueLon : F
  radarLat : F
  radarLon : F
  firm : F

section

variable {F D : Type} [PyIntelOps F] {sector : Sector F} {o : Observation F D}

/-- The observation says so. -/
def Shows (sector : Sector F) (o : Observation F D) (cue : Cue) : Prop :=
  o.modality = cue.modality ∧ match cue with
    | .claim n => o.latitude = sector.cueLat ∧ o.longitude = sector.cueLon ∧
        getOrNone o.attributes "claimed_count" = .int n
    | .contacts n => Assoc.get o.attributes "contact_count" = some (.int n) ∧
        (n ≠ 0 → o.latitude = sector.radarLat ∧ o.longitude = sector.radarLon ∧
          o.confidence = sector.firm) ∧
        (n = 0 → PyFloatOps.lt o.confidence sector.firm = true)
    | .sky blur => o.latitude = sector.cueLat ∧ o.longitude = sector.cueLon ∧
        getOrNone o.attributes "blur" = .bool blur ∧
        (blur = false → ¬ PyFloatOps.le o.confidence (0.45 : F) = true)
    | .engine => True
    | .noSquawk => getOrNone o.attributes "empty_sector" = .bool true
    | .noEmitter => getOrNone o.attributes "rf_silent" = .bool true

theorem Shows.claimedCount [PyChars] {n : Int} (h : Shows sector o (.claim n)) :
    OsintSwarm.claimedCount o = .ok n := by
  obtain ⟨-, -, -, hcount⟩ := h
  unfold OsintSwarm.claimedCount
  rw [hcount]
  rfl

theorem Shows.contactCount {n : Int} (h : Shows sector o (.contacts n)) :
    OsintSwarm.contactCount o = .ok n := by
  obtain ⟨-, hcount, -⟩ := h
  unfold OsintSwarm.contactCount Json.orElse
  rw [hcount]
  by_cases hn : n = 0
  · subst hn
    rfl
  · have htrue : (Json.int n : Json F).truth = true := decide_eq_true hn
    rw [Option.getD_some, if_pos htrue]
    rfl

theorem Shows.blurred {blur : Bool} (h : Shows sector o (.sky blur)) :
    OsintSwarm.blurred o = blur := by
  obtain ⟨-, -, -, hblur, hsharp⟩ := h
  unfold OsintSwarm.blurred
  rw [hblur]
  cases blur with
  | true => exact Bool.or_true _
  | false =>
    rw [Bool.or_eq_false_iff]
    exact ⟨Bool.eq_false_iff.mpr (hsharp rfl), rfl⟩

end

/-! ## The observations of a modality -/

section

variable {α β : Type} {r : α → β → Prop} {xs : List α} {ys : List β}

theorem forall₂_left (h : List.Forall₂ r xs ys) {x : α} (hx : x ∈ xs) : ∃ y ∈ ys, r x y := by
  induction h with
  | nil => cases hx
  | @cons x' y xs ys hr _ ih =>
    rcases List.mem_cons.mp hx with rfl | hx
    · exact ⟨y, List.mem_cons_self, hr⟩
    · obtain ⟨y', hy', hr'⟩ := ih hx
      exact ⟨y', List.mem_cons_of_mem _ hy', hr'⟩

theorem forall₂_right (h : List.Forall₂ r xs ys) {y : β} (hy : y ∈ ys) : ∃ x ∈ xs, r x y :=
  forall₂_left h.flip hy

end

section

variable {F D : Type} [PyIntelOps F] {sector : Sector F} {os : List (Observation F D)}
  {cues : List Cue}

/-- What an observation of a modality says is in the cues. -/
theorem cue_of_mem (h : List.Forall₂ (Shows sector) os cues) {modality : String}
    {o : Observation F D} (ho : o ∈ SarAis.ofModality modality os) :
    ∃ cue ∈ cues, cue.modality = modality ∧ Shows sector o cue := by
  obtain ⟨ho, hmodality⟩ := List.mem_filter.mp ho
  obtain ⟨cue, hcue, hshows⟩ := forall₂_left h ho
  exact ⟨cue, hcue, hshows.1.symm.trans (of_decide_eq_true hmodality), hshows⟩

/-- Some observation of its modality says what is in the cues. -/
theorem mem_of_cue (h : List.Forall₂ (Shows sector) os cues) {cue : Cue} (hcue : cue ∈ cues) :
    ∃ o ∈ SarAis.ofModality cue.modality os, Shows sector o cue := by
  obtain ⟨o, ho, hshows⟩ := forall₂_right h hcue
  exact ⟨o, List.mem_filter.mpr ⟨ho, decide_eq_true hshows.1⟩, hshows⟩

theorem claim_of_mem (h : List.Forall₂ (Shows sector) os cues) {o : Observation F D}
    (ho : o ∈ SarAis.ofModality "social" os) : ∃ n, Cue.claim n ∈ cues ∧ Shows sector o (.claim n) := by
  obtain ⟨cue, hcue, hmodality, hshows⟩ := cue_of_mem h ho
  cases cue with
  | claim n => exact ⟨n, hcue, hshows⟩
  | _ => exact absurd hmodality (by simp [Cue.modality])

theorem contacts_of_mem (h : List.Forall₂ (Shows sector) os cues) {o : Observation F D}
    (ho : o ∈ SarAis.ofModality "radar" os) :
    ∃ n, Cue.contacts n ∈ cues ∧ Shows sector o (.contacts n) := by
  obtain ⟨cue, hcue, hmodality, hshows⟩ := cue_of_mem h ho
  cases cue with
  | contacts n => exact ⟨n, hcue, hshows⟩
  | _ => exact absurd hmodality (by simp [Cue.modality])

theorem sky_of_mem (h : List.Forall₂ (Shows sector) os cues) {o : Observation F D}
    (ho : o ∈ SarAis.ofModality "optical" os) :
    ∃ blur, Cue.sky blur ∈ cues ∧ Shows sector o (.sky blur) := by
  obtain ⟨cue, hcue, hmodality, hshows⟩ := cue_of_mem h ho
  cases cue with
  | sky blur => exact ⟨blur, hcue, hshows⟩
  | _ => exact absurd hmodality (by simp [Cue.modality])

/-- The blurred contacts are those of a blurred sky. -/
theorem mem_blurred (h : List.Forall₂ (Shows sector) os cues) {o : Observation F D} :
    o ∈ (SarAis.ofModality "optical" os).filter OsintSwarm.blurred →
      Cue.sky true ∈ cues ∧ Shows sector o (.sky true) := by
  intro ho
  obtain ⟨ho, hblurred⟩ := List.mem_filter.mp ho
  obtain ⟨blur, hcue, hshows⟩ := sky_of_mem h ho
  rw [hshows.blurred] at hblurred
  subst hblurred
  exact ⟨hcue, hshows⟩

omit [PyIntelOps F] in
theorem ofModality_cons (modality : String) (o : Observation F D) (os : List (Observation F D)) :
    SarAis.ofModality modality (o :: os) =
      if o.modality = modality then o :: SarAis.ofModality modality os
      else SarAis.ofModality modality os := by
  unfold SarAis.ofModality
  rw [List.filter_cons]
  simp only [decide_eq_true_eq]

/-- The contacts the radar counts are those of the cues. -/
theorem contactCounts (h : List.Forall₂ (Shows sector) os cues) :
    ∃ ns, (SarAis.ofModality "radar" os).mapM OsintSwarm.contactCount = .ok ns ∧
      ns.sum = (cues.map Cue.counted).sum := by
  induction h with
  | nil => exact ⟨[], rfl, rfl⟩
  | @cons o cue os cues hshows _ ih =>
    obtain ⟨ns, hns, hsum⟩ := ih
    by_cases hradar : o.modality = "radar"
    · cases cue with
      | contacts n =>
        refine ⟨n :: ns, ?_, ?_⟩
        · rw [ofModality_cons, if_pos hradar, List.mapM_cons, hshows.contactCount, hns]
          rfl
        · rw [List.sum_cons, List.map_cons, List.sum_cons, hsum]
          rfl
      | _ => exact absurd (hshows.1.symm.trans hradar) (by simp [Cue.modality])
    · refine ⟨ns, ?_, ?_⟩
      · rw [ofModality_cons, if_neg hradar, hns]
      · have hnone : cue.counted = 0 := by
          cases cue with
          | contacts n => exact absurd hshows.1 hradar
          | _ => rfl
        rw [List.map_cons, List.sum_cons, hnone, hsum, zero_add]

variable [PyChars]

/-- The claims that are read are those of the cues. -/
theorem claimedCounts (h : List.Forall₂ (Shows sector) os cues) :
    ∃ ns, (SarAis.ofModality "social" os).mapM OsintSwarm.claimedCount = .ok ns ∧
      ∀ n, n ∈ ns ↔ Cue.claim n ∈ cues := by
  have hreads : ∀ o ∈ SarAis.ofModality "social" os, ∃ n, OsintSwarm.claimedCount o = .ok n := by
    intro o ho
    obtain ⟨n, -, hshows⟩ := claim_of_mem h ho
    exact ⟨n, hshows.claimedCount⟩
  obtain ⟨ns, hns⟩ := except_mapM_returns_iff.mpr hreads
  refine ⟨ns, hns, fun n => ⟨fun hn => ?_, fun hn => ?_⟩⟩
  · obtain ⟨o, ho, hcount⟩ := except_mapM_mem hns hn
    obtain ⟨n', hn', hshows⟩ := claim_of_mem h ho
    rw [hshows.claimedCount] at hcount
    cases hcount
    exact hn'
  · obtain ⟨o, ho, hshows⟩ := mem_of_cue h hn
    obtain ⟨n', hn', hcount⟩ := except_mapM_of_mem hns ho
    rw [hshows.claimedCount] at hcount
    cases hcount
    exact hn'

omit [PyChars] in
/-- The greatest of the claims, if it is enough: one of them is. -/
theorem max_claimed {ns : List Int} :
    ¬ (ns.max?).getD 0 < OsintSwarm.minClaimedCount ↔
      ∃ n ∈ ns, ns.max? = some n ∧ OsintSwarm.minClaimedCount ≤ n := by
  rw [not_lt]
  cases hmax : ns.max? with
  | none =>
    constructor
    · intro hle
      exact absurd hle (by decide)
    · rintro ⟨n, -, hnone, -⟩
      cases hnone
  | some m =>
    constructor
    · intro hle
      exact ⟨m, (List.max?_eq_some_iff.mp hmax).1, rfl, hle⟩
    · rintro ⟨n, -, hsome, hle⟩
      cases hsome
      exact hle

omit [PyChars] in
theorem max_claimed_of_mem {ns : List Int} {n : Int} (hn : n ∈ ns)
    (hle : OsintSwarm.minClaimedCount ≤ n) : ¬ (ns.max?).getD 0 < OsintSwarm.minClaimedCount := by
  rw [not_lt]
  cases hmax : ns.max? with
  | none =>
    rw [List.max?_eq_none_iff.mp hmax] at hn
    cases hn
  | some m => exact hle.trans ((List.max?_eq_some_iff.mp hmax).2 n hn)

end

/-! ## The detector -/

section

variable {F D : Type} [PyIntelOps F] {sector : Sector F} {graph : SpatialEntityGraph F D}
  {cues : List Cue}

omit [PyIntelOps F] in
/-- An observation that is in a track is reported with a track. -/
theorem trackOf_traced (h : graph.Traced) {rad : Observation F D} (hrad : rad ∈ graph.observations) :
    ∃ track ∈ graph.tracks.values, OsintSwarm.trackOf graph rad = some track := by
  obtain ⟨t, ht, hid⟩ := h.placed rad hrad
  unfold OsintSwarm.trackOf
  cases hpreferred : graph.getTrack rad.preferredId with
  | some track => exact ⟨track, Dict.mem_values.mpr ⟨_, hpreferred⟩, rfl⟩
  | none =>
    rw [Option.none_or]
    cases hfind : graph.tracks.values.find? fun t =>
        rad.sourceId ∈ t.sourceIds || rad.observationId ∈ t.observationIds with
    | some track => exact ⟨track, List.mem_of_find?_eq_some hfind, rfl⟩
    | none =>
      refine absurd ?_ (List.find?_eq_none.mp hfind t ht)
      simp [hid]

/-- The cue stands where the claims and the looks at the sky are. -/
theorem cue_position (h : List.Forall₂ (Shows sector) graph.observations cues)
    {cue : Observation F D}
    (hcue : cue ∈ SarAis.ofModality "social" graph.observations ++
      (SarAis.ofModality "optical" graph.observations).filter OsintSwarm.blurred) :
    cue.latitude = sector.cueLat ∧ cue.longitude = sector.cueLon := by
  rcases List.mem_append.mp hcue with hsocial | hblurred
  · obtain ⟨n, -, -, hlat, hlon, -⟩ := claim_of_mem h hsocial
    exact ⟨hlat, hlon⟩
  · obtain ⟨-, -, hlat, hlon, -⟩ := mem_blurred h hblurred
    exact ⟨hlat, hlon⟩

/-- The most confident radar contact is a firm one where there is one. -/
theorem radar_position [PyFloatCompare F]
    (h : List.Forall₂ (Shows sector) graph.observations cues) {n : Int}
    (hn : Cue.contacts n ∈ cues) (hfirm : n ≠ 0) {rad : Observation F D}
    (hrad : mostConfident (SarAis.ofModality "radar" graph.observations) = some rad) :
    rad ∈ graph.observations ∧ rad.latitude = sector.radarLat ∧ rad.longitude = sector.radarLon := by
  obtain ⟨hmem, hbest⟩ := mostConfident_spec hrad
  obtain ⟨o, ho, hshows⟩ := mem_of_cue h hn
  obtain ⟨m, -, -, -, hpresent, habsent⟩ := contacts_of_mem h hmem
  refine ⟨List.mem_of_mem_filter hmem, ?_⟩
  have hm : m ≠ 0 := by
    intro hm
    refine hbest o ho ?_
    rw [(hshows.2.2.1 hfirm).2.2]
    exact habsent hm
  exact ⟨(hpresent hm).1, (hpresent hm).2.1⟩

/-- No radio and no transponder speaks against the cues. -/
theorem silent_of_shows (h : List.Forall₂ (Shows sector) graph.observations cues) :
    OsintSwarm.silent "rf_silent" (SarAis.ofModality "rf" graph.observations) = true ∧
      OsintSwarm.silent "empty_sector" (SarAis.ofModality "adsb" graph.observations) = true := by
  have hsilent : ∀ (key : String) (os : List (Observation F D)),
      (∀ o ∈ os, getOrNone o.attributes key = .bool true) → OsintSwarm.silent key os = true := by
    intro key os hall
    unfold OsintSwarm.silent
    cases os with
    | nil => exact Bool.or_true _
    | cons o os =>
      have hfirst := hall o List.mem_cons_self
      rw [List.any_cons, hfirst]
      rfl
  constructor
  · refine hsilent _ _ fun o ho => ?_
    obtain ⟨cue, -, hmodality, hshows⟩ := cue_of_mem h ho
    cases cue with
    | noEmitter => exact hshows.2
    | _ => exact absurd hmodality (by simp [Cue.modality])
  · refine hsilent _ _ fun o ho => ?_
    obtain ⟨cue, -, hmodality, hshows⟩ := cue_of_mem h ho
    cases cue with
    | noSquawk => exact hshows.2
    | _ => exact absurd hmodality (by simp [Cue.modality])

/-- Contradicting cues are of all four kinds, and one of their radar contacts is firm. -/
theorem Contradicting.firm (h : Contradicting cues) : ∃ n, Cue.contacts n ∈ cues ∧ n ≠ 0 := by
  by_contra hnone
  push Not at hnone
  have hzero : (cues.map Cue.counted).sum = 0 := by
    refine List.sum_eq_zero fun x hx => ?_
    obtain ⟨cue, hcue, rfl⟩ := List.mem_map.mp hx
    cases cue with
    | contacts n => exact hnone n hcue
    | _ => rfl
  exact absurd (hzero.symm.trans h.counted) (by decide)

/-- What follows the counts is a finding, where the radar contact is far from the cue. -/
theorem report_found {social radar blurOptical : List (Observation F D)} {socialCount radarCount : Int}
    {cue rad : Observation F D} {track : Track F D} {d : F}
    (h : List.Forall₂ (Shows sector) graph.observations cues)
    (hd : haversineM cue.latitude cue.longitude rad.latitude rad.longitude = .ok d)
    (hfar : ¬ PyFloatOps.lt d (1000.0 : F) = true) (hblur : blurOptical ≠ [])
    (htrack : OsintSwarm.trackOf graph rad = some track)
    (hsocial : ∃ x, PyFloatOps.ofInt (F := F) socialCount = some x)
    (hradar : ∃ x, PyFloatOps.ofInt (F := F) radarCount = some x) :
    ∃ f, OsintSwarm.report graph social radar blurOptical socialCount radarCount cue rad =
      .ok (some f) ∧ f.mismatchM = d ∧ f.trackId = track.trackId := by
  obtain ⟨hrf, hadsb⟩ := silent_of_shows h
  obtain ⟨x, hx⟩ := hsocial
  obtain ⟨y, hy⟩ := hradar
  cases blurOptical with
  | nil => exact absurd rfl hblur
  | cons o os =>
    unfold OsintSwarm.report
    rw [hd]
    simp only [bind, Except.bind, if_neg hfar, hrf, hadsb, Bool.and_self, Bool.not_true,
      Bool.false_eq_true, if_false, htrack, List.map_cons, SarAis.pyMinimum, OsintSwarm.timesInt, hx,
      hy]
    exact ⟨_, rfl, rfl, rfl⟩

section

variable [PyChars]

/-- Contradicting cues go on to the report, with one of the claims and the most confident contacts. -/
theorem detect_eq_report (h : List.Forall₂ (Shows sector) graph.observations cues)
    (hcues : Contradicting cues) :
    let social := SarAis.ofModality "social" graph.observations
    let radar := SarAis.ofModality "radar" graph.observations
    let blurOptical := (SarAis.ofModality "optical" graph.observations).filter OsintSwarm.blurred
    blurOptical ≠ [] ∧ ∃ n cue rad, Cue.claim n ∈ cues ∧
      mostConfident (social ++ blurOptical) = some cue ∧ mostConfident radar = some rad ∧
      OsintSwarm.detect graph =
        OsintSwarm.report graph social radar blurOptical n OsintSwarm.expectedRadarContacts cue rad := by
  intro social radar blurOptical
  obtain ⟨n, hn, hle⟩ := hcues.claimed
  obtain ⟨k, hk, -⟩ := hcues.firm
  obtain ⟨claims, hclaims, hmem⟩ := claimedCounts h
  obtain ⟨contacts, hcontacts, hsum⟩ := contactCounts h
  rw [hcues.counted] at hsum
  obtain ⟨claimer, hclaimer, -⟩ := mem_of_cue h hn
  obtain ⟨holder, hholder, -⟩ := mem_of_cue h hk
  obtain ⟨looker, hlooker, hshows⟩ := mem_of_cue h hcues.blurred
  obtain ⟨listener, hlistener, -⟩ := mem_of_cue h hcues.heard
  have hblur : looker ∈ blurOptical := List.mem_filter.mpr ⟨hlooker, hshows.blurred⟩
  have hmax := max_claimed_of_mem ((hmem n).mpr hn) hle
  obtain ⟨m, hm, hgreatest, -⟩ := max_claimed.mp hmax
  obtain ⟨cue, hcue⟩ : ∃ cue, mostConfident (social ++ blurOptical) = some cue :=
    Option.ne_none_iff_exists'.mp fun hnone =>
      absurd (mostConfident_eq_none hnone) (List.ne_nil_of_mem (List.mem_append_right _ hblur))
  obtain ⟨rad, hrad⟩ : ∃ rad, mostConfident radar = some rad :=
    Option.ne_none_iff_exists'.mp fun hnone =>
      absurd (mostConfident_eq_none hnone) (List.ne_nil_of_mem hholder)
  refine ⟨List.ne_nil_of_mem hblur, m, cue, rad, (hmem m).mp hm, hcue, hrad, ?_⟩
  unfold OsintSwarm.detect
  rw [if_neg, hclaims, hcontacts]
  · simp only [bind, Except.bind, hsum]
    rw [if_neg]
    · simp only [social, radar, blurOptical] at hcue hrad
      rw [hcue, hrad, hgreatest]
      rfl
    · simp only [Bool.or_eq_true, decide_eq_true_eq, List.isEmpty_iff]
      rintro ((hlt | hne) | hnil)
      · exact hmax hlt
      · exact hne rfl
      · exact List.ne_nil_of_mem hblur hnil
  · simp only [Bool.or_eq_true, List.isEmpty_iff]
    rintro (((hnil | hnil) | hnil) | hnil)
    · exact List.ne_nil_of_mem hclaimer hnil
    · exact List.ne_nil_of_mem hlooker hnil
    · exact List.ne_nil_of_mem hholder hnil
    · exact List.ne_nil_of_mem hlistener hnil

variable [PyFloatCompare F]

variable (sector) in
/-- Contradicting cues are a finding, by the distance between the cue and the radar contact, about a
track of the picture. -/
theorem detect_of_contradicting (h : List.Forall₂ (Shows sector) graph.observations cues)
    (htraced : graph.Traced) {d : F}
    (hd : haversineM sector.cueLat sector.cueLon sector.radarLat sector.radarLon = .ok d)
    (hfar : ¬ PyFloatOps.lt d (1000.0 : F) = true)
    (hints : ∀ n, n = 4 ∨ Cue.claim n ∈ cues → ∃ x, PyFloatOps.ofInt (F := F) n = some x)
    (hcues : Contradicting cues) :
    ∃ f, OsintSwarm.detect graph = .ok (some f) ∧ f.mismatchM = d ∧
      ∃ t ∈ graph.tracks.values, f.trackId = t.trackId := by
  obtain ⟨k, hk, hfirm⟩ := hcues.firm
  obtain ⟨hblur, n, cue, rad, hn, hcue, hrad, hdetect⟩ := detect_eq_report h hcues
  obtain ⟨hcueLat, hcueLon⟩ := cue_position h (mostConfident_spec hcue).1
  obtain ⟨hradmem, hradLat, hradLon⟩ := radar_position h hk hfirm hrad
  obtain ⟨track, htrack, hof⟩ := trackOf_traced htraced hradmem
  rw [← hcueLat, ← hcueLon, ← hradLat, ← hradLon] at hd
  obtain ⟨f, hf, hmismatch, hid⟩ :=
    report_found h hd hfar hblur hof (hints n (Or.inr hn)) (hints 4 (Or.inl rfl))
  exact ⟨f, hdetect.trans hf, hmismatch, track, htrack, hid⟩

end

section

variable [PyChars]

/-- Cues that do not contradict each other are no finding, whatever else is in the picture. -/
theorem detect_of_not_contradicting (h : List.Forall₂ (Shows sector) graph.observations cues)
    (hcues : ¬ Contradicting cues) : OsintSwarm.detect graph = .ok none := by
  obtain ⟨claims, hclaims, hmem⟩ := claimedCounts h
  obtain ⟨contacts, hcontacts, hsum⟩ := contactCounts h
  unfold OsintSwarm.detect
  dsimp only
  split
  · rfl
  rename_i hsome
  simp only [Bool.or_eq_true, List.isEmpty_iff, not_or] at hsome
  rw [hclaims, hcontacts]
  simp only [bind, Except.bind]
  split
  · rfl
  rename_i hcounts
  simp only [Bool.or_eq_true, decide_eq_true_eq, List.isEmpty_iff, not_or, not_not] at hcounts
  obtain ⟨⟨hmax, hfour⟩, hblur⟩ := hcounts
  obtain ⟨⟨⟨-, -⟩, -⟩, hacoustic⟩ := hsome
  -- every check is passed, so the cues do contradict each other
  refine absurd ⟨?_, ?_, ?_, ?_⟩ hcues
  · obtain ⟨n, hn, -, hle⟩ := max_claimed.mp hmax
    exact ⟨n, (hmem n).mp hn, hle⟩
  · exact hsum.symm.trans hfour
  · obtain ⟨o, ho⟩ := List.exists_mem_of_ne_nil _ hblur
    exact (mem_blurred h ho).1
  · obtain ⟨o, ho⟩ := List.exists_mem_of_ne_nil _ hacoustic
    obtain ⟨cue, hcue, hmodality, -⟩ := cue_of_mem h ho
    cases cue with
    | engine => exact hcue
    | _ => exact absurd hmodality (by simp [Cue.modality])

end

end

end NexusC2

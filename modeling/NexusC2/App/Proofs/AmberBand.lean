import NexusC2.App.Proofs.SwarmCues
import NexusC2.App.SwarmTimeline
import NexusC2.Core.Proofs.TrackHistory

/-!
# The amber band

Whatever steps of the hero timeline are played, in whatever order and however often, the detector
finds the swarm exactly where the firm radar contacts came once, with a claim, a blurred look and an
engine. In the order of the timeline, with steps lost or not, the first amber is in the band 11-15.
-/

namespace NexusC2

namespace Temporal

section

variable {F D : Type} [PyIntelOps F] [Preorder D] [PyAnchor D]

/-- The sector of the timeline. -/
def heroSector : Sector F := ⟨cueLat, cueLon, radarLat, radarLon, 0.84⟩

/-- What the events of a step say. -/
def cuesOf : Nat → List Cue
  | 1 | 2 | 4 => [.claim 0]
  | 3 | 5 | 6 | 7 => [.contacts 0]
  | 8 | 9 => [.sky false]
  | 10 => [.contacts 4]
  | 11 | 15 => [.claim 50]
  | 12 => [.noSquawk]
  | 13 => [.sky true]
  | 14 => [.engine, .noEmitter]
  | _ => []

/-! ## The events -/

variable [PyDateTime D] [Sha256]

section

variable {host : Southbound.Host F D} {t0 : D} {tMinusS : Nat} {sourceId entityId modality : String}
  {lat lon confidence speedKt : F} {headingDeg : Option F} {attrs : Fields F}

omit [PyIntelOps F] [PyDateTime D] [Sha256] in
/-- The other keys of an event are those it is given. -/
theorem get_evt [PyFloatOps F] {key : String} (h : key ∉ Southbound.eventKeys) :
    Assoc.get (evt t0 tMinusS sourceId entityId modality lat lon confidence speedKt headingDeg attrs)
      key = Assoc.get attrs key := by
  have hnone : ∀ fields : Fields F, (∀ p ∈ fields, p.1 ∈ Southbound.eventKeys) →
      Assoc.get fields key = none := by
    intro fields hkeys
    cases hget : Assoc.get fields key with
    | none => rfl
    | some v => exact absurd (hkeys _ (Assoc.mem_of_get hget)) h
  unfold evt
  rw [Assoc.get_append, Assoc.get_append, hnone _ (by simp [Southbound.eventKeys]), Option.none_or]
  cases headingDeg with
  | none => exact Option.or_none
  | some heading =>
    rw [hnone [("heading_deg", .float heading)] (by simp [Southbound.eventKeys]), Option.or_none]

/-- What is observed of an event of the timeline. -/
theorem observed_evt {o : Observation F D} (hplain : Assoc.get attrs "service" = none)
    (h : Southbound.normalizeSensorEvent host (evt t0 tMinusS sourceId entityId modality lat lon
      confidence speedKt headingDeg attrs) = .ok o) :
    o.modality = modality ∧ o.latitude = lat ∧ o.longitude = lon ∧ o.confidence = confidence ∧
      ∀ key ∉ Southbound.eventKeys, Assoc.get o.attributes key = Assoc.get attrs key := by
  have hservice : Southbound.has (evt t0 tMinusS sourceId entityId modality lat lon confidence speedKt
      headingDeg attrs) "service" = false := by
    unfold Southbound.has
    rw [get_evt (by decide), hplain]
    rfl
  unfold Southbound.normalizeSensorEvent Southbound.acceptedEvent at h
  simp only [hservice, Bool.false_and, Bool.false_eq_true, if_false] at h
  change Southbound.observationOf host _ = .ok o at h
  unfold Southbound.observationOf at h
  obtain ⟨parsed, -, h⟩ := except_bind_eq_ok.mp h
  obtain ⟨speed, -, h⟩ := except_bind_eq_ok.mp h
  obtain ⟨source, -, h⟩ := except_bind_eq_ok.mp h
  obtain ⟨latitudeItem, hlatitudeItem, h⟩ := except_bind_eq_ok.mp h
  obtain ⟨latitude, hlatitude, h⟩ := except_bind_eq_ok.mp h
  obtain ⟨longitudeItem, hlongitudeItem, h⟩ := except_bind_eq_ok.mp h
  obtain ⟨longitude, hlongitude, h⟩ := except_bind_eq_ok.mp h
  obtain ⟨confidence', hconfidence, h⟩ := except_bind_eq_ok.mp h
  obtain ⟨heading, -, h⟩ := except_bind_eq_ok.mp h
  obtain ⟨observedAt, -, h⟩ := except_bind_eq_ok.mp h
  cases hlatitudeItem
  cases hlatitude
  cases hlongitudeItem
  cases hlongitude
  cases hconfidence
  cases h
  refine ⟨rfl, rfl, rfl, rfl, fun key hkey => ?_⟩
  have hspeed : "speed_kt" ≠ key := by
    rintro rfl
    exact hkey (by decide)
  change Assoc.get (("speed_kt", Json.float speed) :: Southbound.without Southbound.eventKeys _) key =
    _
  rw [Assoc.get_cons, if_neg hspeed, Southbound.without,
    Assoc.get_filter_of_keeps fun _ => decide_eq_true hkey, get_evt hkey]

end

/-- Whatever host observes the event, the observation says so. -/
def Tells (D : Type) [PyDateTime D] (event : Fields F) (cue : Cue) : Prop :=
  ∀ (host : Southbound.Host F D) (o : Observation F D),
    Southbound.normalizeSensorEvent host event = .ok o → Shows heroSector o cue

section

variable {t0 : D} {tMinusS : Nat} {sourceId entityId : String} {lat lon confidence speedKt : F}
  {headingDeg : Option F} {attrs : Fields F}

theorem tells_claim {n : Int} (hplain : Assoc.get attrs "service" = none)
    (hcount : Assoc.get attrs "claimed_count" = some (.int n)) :
    Tells D (evt t0 tMinusS sourceId entityId "social" cueLat cueLon confidence speedKt headingDeg
      attrs) (.claim n) := by
  intro host o h
  obtain ⟨hmodality, hlat, hlon, -, hget⟩ := observed_evt hplain h
  refine ⟨hmodality, hlat, hlon, ?_⟩
  rw [getOrNone, hget _ (by decide), hcount]
  rfl

/-- A radar contact that counts nothing, less confident than a firm one. -/
theorem tells_noContacts (hplain : Assoc.get attrs "service" = none)
    (hcount : Assoc.get attrs "contact_count" = some (.int 0))
    (hfaint : PyFloatOps.lt confidence (0.84 : F) = true) :
    Tells D (evt t0 tMinusS sourceId entityId "radar" lat lon confidence speedKt headingDeg attrs)
      (.contacts 0) := by
  intro host o h
  obtain ⟨hmodality, -, -, hconfidence, hget⟩ := observed_evt hplain h
  refine ⟨hmodality, ?_, fun hne => absurd rfl hne, fun _ => hconfidence ▸ hfaint⟩
  rw [hget _ (by decide), hcount]

theorem tells_contacts {n : Int} (hn : n ≠ 0) (hplain : Assoc.get attrs "service" = none)
    (hcount : Assoc.get attrs "contact_count" = some (.int n)) :
    Tells D (evt t0 tMinusS sourceId entityId "radar" radarLat radarLon 0.84 speedKt headingDeg attrs)
      (.contacts n) := by
  intro host o h
  obtain ⟨hmodality, hlat, hlon, hconfidence, hget⟩ := observed_evt hplain h
  refine ⟨hmodality, ?_, fun _ => ⟨hlat, hlon, hconfidence⟩, fun hzero => absurd hzero hn⟩
  rw [hget _ (by decide), hcount]

theorem tells_sky {blur : Bool} (hplain : Assoc.get attrs "service" = none)
    (hblur : Assoc.get attrs "blur" = some (.bool blur))
    (hsharp : blur = false → ¬ PyFloatOps.le confidence (0.45 : F) = true) :
    Tells D (evt t0 tMinusS sourceId entityId "optical" cueLat cueLon confidence speedKt headingDeg
      attrs) (.sky blur) := by
  intro host o h
  obtain ⟨hmodality, hlat, hlon, hconfidence, hget⟩ := observed_evt hplain h
  refine ⟨hmodality, hlat, hlon, ?_, fun hnot => hconfidence ▸ hsharp hnot⟩
  rw [getOrNone, hget _ (by decide), hblur]
  rfl

theorem tells_engine (hplain : Assoc.get attrs "service" = none) :
    Tells D (evt t0 tMinusS sourceId entityId "acoustic" lat lon confidence speedKt headingDeg attrs)
      .engine := by
  intro host o h
  exact ⟨(observed_evt hplain h).1, trivial⟩

theorem tells_noSquawk (hplain : Assoc.get attrs "service" = none)
    (hempty : Assoc.get attrs "empty_sector" = some (.bool true)) :
    Tells D (evt t0 tMinusS sourceId entityId "adsb" lat lon confidence speedKt headingDeg attrs)
      .noSquawk := by
  intro host o h
  obtain ⟨hmodality, -, -, -, hget⟩ := observed_evt hplain h
  refine ⟨hmodality, ?_⟩
  change (Assoc.get o.attributes "empty_sector").getD .null = _
  rw [hget _ (by decide), hempty]
  rfl

theorem tells_noEmitter (hplain : Assoc.get attrs "service" = none)
    (hsilent : Assoc.get attrs "rf_silent" = some (.bool true)) :
    Tells D (evt t0 tMinusS sourceId entityId "rf" lat lon confidence speedKt headingDeg attrs)
      .noEmitter := by
  intro host o h
  obtain ⟨hmodality, -, -, -, hget⟩ := observed_evt hplain h
  refine ⟨hmodality, ?_⟩
  change (Assoc.get o.attributes "rf_silent").getD .null = _
  rw [hget _ (by decide), hsilent]
  rfl

end

/-! ## The steps -/

theorem amber_tells (t0 : D) :
    List.Forall₂ (fun (p : String × List (Fields F)) cues => List.Forall₂ (Tells D) p.2 cues)
      (amber t0) ((List.range' 11 5).map cuesOf) :=
  .cons (.cons (tells_claim rfl rfl) .nil) <|
  .cons (.cons (tells_noSquawk rfl rfl) .nil) <|
  .cons (.cons (tells_sky rfl rfl fun h => by cases h) .nil) <|
  .cons (.cons (tells_engine rfl) (.cons (tells_noEmitter rfl rfl) .nil)) <|
  .cons (.cons (tells_claim rfl rfl) .nil) .nil

variable [PyFloatCompare F]

omit [PyDateTime D] [Sha256] [Preorder D] [PyAnchor D] in
theorem hundredths_lt {m n : Nat} (h : m < n) (hn : n < 100) :
    PyFloatOps.lt (OfScientific.ofScientific m true 2 : F) (OfScientific.ofScientific n true 2) =
      true :=
  PyFloatCompare.lt_decimal m 2 n 2 (by omega) (by omega) (by decide) (by decide) (by omega)

theorem early_tells (t0 : D) :
    List.Forall₂ (fun (p : String × List (Fields F)) cues => List.Forall₂ (Tells D) p.2 cues)
      (early t0) ((List.range' 1 5).map cuesOf) :=
  .cons (.cons (tells_claim rfl rfl) .nil) <|
  .cons (.cons (tells_claim rfl rfl) .nil) <|
  .cons (.cons (tells_noContacts rfl rfl (hundredths_lt (by decide) (by decide))) .nil) <|
  .cons (.cons (tells_claim rfl rfl) .nil) <|
  .cons (.cons (tells_noContacts rfl rfl (hundredths_lt (by decide) (by decide))) .nil) .nil

theorem mid_tells (t0 : D) :
    List.Forall₂ (fun (p : String × List (Fields F)) cues => List.Forall₂ (Tells D) p.2 cues)
      (mid t0) ((List.range' 6 5).map cuesOf) :=
  have hsharp {m : Nat} (hm : 45 < m) (hlt : m < 100) :
      ¬ PyFloatOps.le (OfScientific.ofScientific m true 2 : F) (0.45 : F) = true := fun hle =>
    PyFloatCompare.lt_irrefl _ (PyFloatCompare.lt_of_le_of_lt _ _ _ hle (hundredths_lt hm hlt))
  .cons (.cons (tells_noContacts rfl rfl (hundredths_lt (by decide) (by decide))) .nil) <|
  .cons (.cons (tells_noContacts rfl rfl (hundredths_lt (by decide) (by decide))) .nil) <|
  .cons (.cons (tells_sky rfl rfl fun _ => hsharp (by decide) (by decide)) .nil) <|
  .cons (.cons (tells_sky rfl rfl fun _ => hsharp (by decide) (by decide)) .nil) <|
  .cons (.cons (tells_contacts (by decide) rfl rfl) .nil) .nil

/-- The events of a step of the timeline say what the step stands for. -/
theorem timeline_tells {t0 : D} {s : StreamStep F} (hs : s ∈ buildS2Timeline t0) :
    List.Forall₂ (Tells D) s.events (cuesOf s.step) := by
  have hall : List.Forall₂ (fun (p : String × List (Fields F)) cues =>
      List.Forall₂ (Tells D) p.2 cues) (early t0 ++ mid t0 ++ amber t0 ++ late)
        ((List.range' 1 19).map cuesOf) := by
    have hlate : List.Forall₂ (fun (p : String × List (Fields F)) cues =>
        List.Forall₂ (Tells D) p.2 cues) late ((List.range' 16 4).map cuesOf) :=
      .cons .nil (.cons .nil (.cons .nil (.cons .nil .nil)))
    exact List.rel_append (List.rel_append (List.rel_append (early_tells t0) (mid_tells t0))
      (amber_tells t0)) hlate
  obtain ⟨⟨p, i⟩, hp, rfl⟩ := List.mem_map.mp hs
  obtain ⟨hi, hget⟩ := List.mem_zipIdx' hp
  have hcues : i < ((List.range' 1 19).map cuesOf).length := hall.length_eq ▸ hi
  have htells := hall.get hi hcues
  rw [List.get_eq_getElem, List.get_eq_getElem, List.getElem_map, List.getElem_range', ← hget] at htells
  simpa [Nat.add_comm] using htells

omit [Preorder D] [PyAnchor D] [PyFloatCompare F] in
/-- What is observed of events says what they say. -/
theorem shows_of_tells {host : Nat → Southbound.Host F D} {events : List (Fields F)} {cues : List Cue}
    {k : Nat} {os : List (Observation F D)} (htells : List.Forall₂ (Tells D) events cues)
    (h : (events.zipIdx k).mapM (fun p => Southbound.normalizeSensorEvent (host p.2) p.1) = .ok os) :
    List.Forall₂ (Shows heroSector) os cues := by
  induction htells generalizing k os with
  | nil =>
    cases h
    exact .nil
  | @cons event cue events cues htell _ ih =>
    rw [List.zipIdx_cons, List.mapM_cons] at h
    obtain ⟨o, ho, h⟩ := except_bind_eq_ok.mp h
    obtain ⟨os', hos', h⟩ := except_bind_eq_ok.mp h
    cases h
    exact .cons (htell _ _ ho) (ih hos')

omit [PyFloatCompare F] [Preorder D] [PyAnchor D] in
theorem Shows.ensureDigest {sector : Sector F} {o : Observation F D} {cue : Cue}
    (h : Shows sector o cue) : Shows sector o.ensureDigest cue := by
  unfold Observation.ensureDigest
  split
  · exact h
  · exact h

end

/-! ## When the steps fire -/

/-- The steps that were played make the swarm: the firm radar contacts came once. -/
def Fires (ns : List Nat) : Prop := ns.count 10 = 1 ∧ (11 ∈ ns ∨ 15 ∈ ns) ∧ 13 ∈ ns ∧ 14 ∈ ns

instance (ns : List Nat) : Decidable (Fires ns) := inferInstanceAs (Decidable (_ ∧ _))

theorem mem_cuesOf_claim {k : Nat} :
    (∃ n, Cue.claim n ∈ cuesOf k ∧ OsintSwarm.minClaimedCount ≤ n) ↔ k = 11 ∨ k = 15 := by
  unfold cuesOf
  split <;> simp_all [OsintSwarm.minClaimedCount]

theorem claimed_cuesOf {n : Int} {k : Nat} (h : Cue.claim n ∈ cuesOf k) : n = 0 ∨ n = 50 := by
  unfold cuesOf at h
  split at h <;> simp_all

theorem mem_cuesOf_sky {k : Nat} : Cue.sky true ∈ cuesOf k ↔ k = 13 := by
  unfold cuesOf
  split <;> simp_all

theorem mem_cuesOf_engine {k : Nat} : Cue.engine ∈ cuesOf k ↔ k = 14 := by
  unfold cuesOf
  split <;> simp_all

theorem sum_cuesOf (k : Nat) :
    ((cuesOf k).map Cue.counted).sum = if k = 10 then OsintSwarm.expectedRadarContacts else 0 := by
  unfold cuesOf
  split <;> simp_all [Cue.counted, OsintSwarm.expectedRadarContacts]

theorem sum_cues (ns : List Nat) : ((ns.flatMap cuesOf).map Cue.counted).sum =
    OsintSwarm.expectedRadarContacts * ns.count 10 := by
  induction ns with
  | nil => rfl
  | cons k ns ih =>
    rw [List.flatMap_cons, List.map_append, List.sum_append, ih, sum_cuesOf, List.count_cons]
    by_cases hk : k = 10
    · subst hk
      simp only [if_pos, beq_self_eq_true]
      push_cast
      unfold OsintSwarm.expectedRadarContacts
      omega
    · rw [if_neg hk, zero_add, if_neg (by simpa using hk), Nat.add_zero]

/-- The cues of steps contradict each other exactly when the steps fire. -/
theorem contradicting_iff {ns : List Nat} : Contradicting (ns.flatMap cuesOf) ↔ Fires ns := by
  have hcount : ((ns.flatMap cuesOf).map Cue.counted).sum = OsintSwarm.expectedRadarContacts ↔
      ns.count 10 = 1 := by
    rw [sum_cues]
    unfold OsintSwarm.expectedRadarContacts
    omega
  have hclaim : (∃ n, Cue.claim n ∈ ns.flatMap cuesOf ∧ OsintSwarm.minClaimedCount ≤ n) ↔
      11 ∈ ns ∨ 15 ∈ ns := by
    constructor
    · rintro ⟨n, hn, hle⟩
      obtain ⟨k, hk, hmem⟩ := List.mem_flatMap.mp hn
      rcases mem_cuesOf_claim.mp ⟨n, hmem, hle⟩ with rfl | rfl
      · exact Or.inl hk
      · exact Or.inr hk
    · rintro (hk | hk)
      · exact ⟨50, List.mem_flatMap.mpr ⟨11, hk, by decide⟩, by decide⟩
      · exact ⟨50, List.mem_flatMap.mpr ⟨15, hk, by decide⟩, by decide⟩
  have hsky : Cue.sky true ∈ ns.flatMap cuesOf ↔ 13 ∈ ns := by
    simp [List.mem_flatMap, mem_cuesOf_sky]
  have hengine : Cue.engine ∈ ns.flatMap cuesOf ↔ 14 ∈ ns := by
    simp [List.mem_flatMap, mem_cuesOf_engine]
  constructor
  · intro h
    exact ⟨hcount.mp h.counted, hclaim.mp h.claimed, hsky.mp h.blurred, hengine.mp h.heard⟩
  · rintro ⟨hten, hmany, hblur, hheard⟩
    exact ⟨hclaim.mpr hmany, hcount.mpr hten, hsky.mpr hblur, hengine.mpr hheard⟩

/-- The first step after which the steps that were played fire. -/
def firstAmber (played : List Nat) : List Nat → Option Nat
  | [] => none
  | k :: ns => (if Fires (played ++ [k]) then some k else none).or (firstAmber (played ++ [k]) ns)

/-- In the order of the timeline the first amber is at the acoustic step, or at the second claim where
the first was lost. -/
theorem firstAmber_sorted {played ns : List Nat} (hsorted : (played ++ ns).Pairwise (· < ·))
    (hquiet : ¬ Fires played) : firstAmber played ns =
      if 10 ∈ played ++ ns ∧ 13 ∈ played ++ ns ∧ 14 ∈ played ++ ns then
        if 11 ∈ played ++ ns then some 14 else if 15 ∈ played ++ ns then some 15 else none
      else none := by
  induction ns generalizing played with
  | nil =>
    have hnodup : played.Nodup := by
      rw [List.append_nil] at hsorted
      exact hsorted.imp fun h => Nat.ne_of_lt h
    have hten : 10 ∈ played → played.count 10 = 1 := List.count_eq_one_of_mem hnodup
    rw [List.append_nil]
    unfold Fires at hquiet
    split
    · rename_i hall
      rw [if_neg fun h => hquiet ⟨hten hall.1, Or.inl h, hall.2⟩,
        if_neg fun h => hquiet ⟨hten hall.1, Or.inr h, hall.2⟩]
      rfl
    · rfl
  | cons k ns ih =>
    have hlist : played ++ k :: ns = played ++ [k] ++ ns := by simp
    unfold firstAmber
    by_cases hfires : Fires (played ++ [k])
    · rw [if_pos hfires, Option.some_or]
      -- what is played before a step is what is less than it
      have hbefore : ∀ x ∈ played ++ k :: ns, x < k → x ∈ played := by
        intro x hx hlt
        rcases List.mem_append.mp hx with hx | hx
        · exact hx
        · have hrest := (List.pairwise_append.mp hsorted).2.1
          rcases List.mem_cons.mp hx with rfl | hx
          · omega
          · have := (List.pairwise_cons.mp hrest).1 x hx
            omega
      have hsub : ∀ x ∈ played ++ [k], x ∈ played ++ k :: ns := by
        intro x hx
        rw [hlist]
        exact List.mem_append_left _ hx
      have hle : ∀ x ∈ played ++ [k], x ≤ k := by
        intro x hx
        rcases List.mem_append.mp hx with hx | hx
        · exact ((List.pairwise_append.mp hsorted).2.2 x hx k List.mem_cons_self).le
        · exact (List.mem_singleton.mp hx).le
      obtain ⟨hten, hmany, hblur, hheard⟩ := hfires
      have hmem : 10 ∈ played ++ [k] := List.count_pos_iff.mp (by omega)
      have hnodup : played.Nodup :=
        (List.pairwise_append.mp hsorted).1.imp fun h => Nat.ne_of_lt h
      have hfourteen := hle 14 hheard
      rw [if_pos ⟨hsub _ hmem, hsub _ hblur, hsub _ hheard⟩]
      -- had an earlier step been enough, the steps before this one would fire
      have hearlier : ∀ m, (m = 11 ∨ m = 15) → m ∈ played ++ k :: ns → 14 < k → m < k → False := by
        intro m hm hmem' hlt hltm
        refine hquiet ⟨List.count_eq_one_of_mem hnodup (hbefore 10 (hsub _ hmem) (by omega)), ?_,
          hbefore 13 (hsub _ hblur) (by omega), hbefore 14 (hsub _ hheard) (by omega)⟩
        rcases hm with rfl | rfl
        · exact Or.inl (hbefore 11 hmem' hltm)
        · exact Or.inr (hbefore 15 hmem' hltm)
      by_cases heleven : 11 ∈ played ++ k :: ns
      · rw [if_pos heleven]
        by_contra hne
        have hlt : 14 < k := by
          rcases Nat.lt_or_eq_of_le hfourteen with hlt | heq
          · exact hlt
          · exact absurd (congrArg some heq.symm) hne
        exact hearlier 11 (Or.inl rfl) heleven hlt (by omega)
      · have hfifteen : 15 ∈ played ++ [k] :=
          hmany.resolve_left fun h => heleven (hsub _ h)
        rw [if_neg heleven, if_pos (hsub _ hfifteen)]
        by_contra hne
        have hle15 := hle 15 hfifteen
        have hlt : 15 < k := by
          rcases Nat.lt_or_eq_of_le hle15 with hlt | heq
          · exact hlt
          · exact absurd (congrArg some heq.symm) hne
        exact hearlier 15 (Or.inr rfl) (hsub _ hfifteen) (by omega) hlt
    · rw [if_neg hfires, Option.none_or, ih (by rwa [← hlist]) hfires, hlist]

/-! ## The runs -/

section

variable {F D : Type} [PyIntelOps F] [PyFloatCompare F] [PyChars] [Preorder D] [PyAnchor D]
  [PyDateTime D] [Sha256]

/-- The observations of the picture say what the steps stand for. -/
structure Pictured (graph : SpatialEntityGraph F D) (played : List Nat) : Prop where
  shows : List.Forall₂ (Shows heroSector) graph.observations (played.flatMap cuesOf)
  traced : graph.Traced

/-- The radar contact of the sector is at least a kilometre from the cue, and small counts are
floats. -/
structure Surveyed (F : Type) [PyMathOps F] : Prop where
  gap : ∃ d, haversineM (cueLat : F) cueLon radarLat radarLon = .ok d ∧
    ¬ PyFloatOps.lt d (1000.0 : F) = true
  counts : ∀ n : Nat, n ≤ 50 → ∃ x, PyFloatOps.ofInt (F := F) n = some x

omit [PyFloatCompare F] [PyChars] [PyAnchor D] [Preorder D] [PyDateTime D] [Sha256] in
theorem pictured_empty :
    Pictured (SpatialEntityGraph.empty : SpatialEntityGraph F D) [] :=
  ⟨.nil, SpatialEntityGraph.traced_fresh _⟩

omit [PyChars] in
theorem pictured_step {host : Nat → Southbound.Host F D} {graph graph' : SpatialEntityGraph F D}
    {played : List Nat} {t0 : D} {s : StreamStep F} {os : List (Observation F D)}
    (h : Pictured graph played) (hs : s ∈ buildS2Timeline t0)
    (hos : s.events.zipIdx.mapM (fun p => Southbound.normalizeSensorEvent (host p.2) p.1) = .ok os)
    (hgraph : graph.ingestMany os = .ok graph') : Pictured graph' (played ++ [s.step]) := by
  refine ⟨?_, SpatialEntityGraph.ingestMany_traced hgraph h.traced⟩
  rw [SpatialEntityGraph.ingestMany_observations hgraph, List.flatMap_append, List.flatMap_singleton]
  refine List.rel_append h.shows (List.forall₂_map_left_iff.mpr ?_)
  exact (shows_of_tells (timeline_tells hs) hos).imp fun _ _ => Shows.ensureDigest

omit [PyDateTime D] [Preorder D] [PyAnchor D] [Sha256] in
/-- The detector finds the swarm exactly when the steps fire. -/
theorem detect_of_pictured {graph : SpatialEntityGraph F D} {played : List Nat}
    (hsurveyed : Surveyed F) (h : Pictured graph played) :
    (Fires played → ∃ f, OsintSwarm.detect graph = .ok (some f) ∧
      ∃ t ∈ graph.tracks.values, f.trackId = t.trackId) ∧
    (¬ Fires played → OsintSwarm.detect graph = .ok none) := by
  obtain ⟨d, hd, hfar⟩ := hsurveyed.gap
  constructor
  · intro hfires
    have hints : ∀ n, n = 4 ∨ Cue.claim n ∈ played.flatMap cuesOf →
        ∃ x, PyFloatOps.ofInt (F := F) n = some x := by
      rintro n (rfl | hn)
      · exact hsurveyed.counts 4 (by decide)
      · obtain ⟨k, -, hk⟩ := List.mem_flatMap.mp hn
        rcases claimed_cuesOf hk with rfl | rfl
        · exact hsurveyed.counts 0 (by decide)
        · exact hsurveyed.counts 50 (by decide)
    obtain ⟨f, hf, -, htrack⟩ := detect_of_contradicting heroSector h.shows h.traced hd hfar
      hints (contradicting_iff.mpr hfires)
    exact ⟨f, hf, htrack⟩
  · intro hquiet
    exact detect_of_not_contradicting h.shows fun hcues => hquiet (contradicting_iff.mp hcues)

theorem playLoop_run {host : Nat → Nat → Southbound.Host F D} {graph graph' : SpatialEntityGraph F D}
    {played : List Nat} {t0 : D} {amberStep amberStep' : Option Nat} {steps : List (StreamStep F)}
    (hsurveyed : Surveyed F) (hsteps : ∀ s ∈ steps, s ∈ buildS2Timeline t0)
    (hg : Pictured graph played) (h : playLoop host graph amberStep steps = .ok (graph', amberStep')) :
    Pictured graph' (played ++ steps.map StreamStep.step) ∧
      amberStep' = amberStep.or (firstAmber played (steps.map StreamStep.step)) := by
  induction steps generalizing graph played amberStep with
  | nil =>
    cases h
    exact ⟨by simpa using hg, Option.or_none.symm⟩
  | cons s steps ih =>
    obtain ⟨os, hos, h⟩ := except_bind_eq_ok.mp h
    obtain ⟨graph₁, hgraph, h⟩ := except_bind_eq_ok.mp h
    obtain ⟨finding, hfinding, h⟩ := except_bind_eq_ok.mp h
    have hg₁ := pictured_step hg (hsteps s List.mem_cons_self) hos hgraph
    obtain ⟨hpictured, hamber⟩ := ih (fun s' hs' => hsteps s' (List.mem_cons_of_mem _ hs')) hg₁ h
    have hstep : (if finding.isSome then some s.step else none) =
        if Fires (played ++ [s.step]) then some s.step else none := by
      obtain ⟨hfound, hnone⟩ := detect_of_pictured hsurveyed hg₁
      by_cases hfires : Fires (played ++ [s.step])
      · obtain ⟨f, hf, -⟩ := hfound hfires
        rw [hfinding] at hf
        cases hf
        rw [if_pos hfires]
        rfl
      · have hno := hnone hfires
        rw [hfinding] at hno
        cases hno
        rw [if_neg hfires]
        rfl
    rw [List.map_cons]
    refine ⟨by simpa using hpictured, ?_⟩
    rw [hamber, hstep, Option.or_assoc]
    rfl

/-- The timeline with any of its steps lost: the first amber is at the acoustic step 14, or at the
second claim of step 15 where the first was lost, so never before the band 11-15; and the script ends
well where the firm radar contacts, a claim, the blurred look and the engine came. -/
theorem playLoop_amberBand {host : Nat → Nat → Southbound.Host F D} {graph : SpatialEntityGraph F D}
    {t0 : D} {amberStep : Option Nat} {steps : List (StreamStep F)} (hsurveyed : Surveyed F)
    (hsteps : steps.Sublist (buildS2Timeline t0))
    (h : playLoop host SpatialEntityGraph.empty none steps = .ok (graph, amberStep)) :
    let ns := steps.map StreamStep.step
    amberStep = (if 10 ∈ ns ∧ 13 ∈ ns ∧ 14 ∈ ns then
      if 11 ∈ ns then some 14 else if 15 ∈ ns then some 15 else none else none) ∧
    (playStatus amberStep = 0 ↔ 10 ∈ ns ∧ (11 ∈ ns ∨ 15 ∈ ns) ∧ 13 ∈ ns ∧ 14 ∈ ns) := by
  intro ns
  obtain ⟨-, hamber⟩ := playLoop_run hsurveyed (fun s hs => hsteps.subset hs) pictured_empty h
  have hsorted : ns.Pairwise (· < ·) := by
    have hall : ((buildS2Timeline t0).map (StreamStep.step (F := F))).Pairwise (· < ·) := by
      change (List.range' 1 19).Pairwise (· < ·)
      exact List.pairwise_lt_range'
    exact hall.sublist (hsteps.map _)
  rw [Option.none_or, firstAmber_sorted hsorted (by decide), List.nil_append] at hamber
  refine ⟨hamber, ?_⟩
  rw [hamber]
  by_cases hall : 10 ∈ ns ∧ 13 ∈ ns ∧ 14 ∈ ns
  · rw [if_pos hall]
    by_cases heleven : 11 ∈ ns
    · rw [if_pos heleven]
      exact ⟨fun _ => ⟨hall.1, Or.inl heleven, hall.2⟩, fun _ => rfl⟩
    · rw [if_neg heleven]
      by_cases hfifteen : 15 ∈ ns
      · rw [if_pos hfifteen]
        exact ⟨fun _ => ⟨hall.1, Or.inr hfifteen, hall.2⟩, fun _ => rfl⟩
      · rw [if_neg hfifteen]
        exact ⟨fun h => (by cases h), fun h => (h.2.1.elim heleven hfifteen).elim⟩
  · rw [if_neg hall]
    exact ⟨fun h => (by cases h), fun h => absurd ⟨h.1, h.2.2⟩ hall⟩

end

/-- Exact numbers with a finer root. -/
abbrev fineIntel : PyIntelOps Rat where
  toPyTextOps := { exactText with
    sqrt x := if x < 0 then none else some (((x * 10 ^ 12).floor.toNat.sqrt : Int) / 10 ^ 6) }
  ofNumeral cs := ofIntText cs
  mod a b := a - b * (a / b).floor

theorem fineIntel_compare : letI := fineIntel; PyFloatCompare Rat := by
  let := fineIntel
  have h := exactMath_compare
  exact
    { lt_irrefl := h.lt_irrefl
      lt_trans := h.lt_trans
      lt_of_lt_of_le := h.lt_of_lt_of_le
      lt_of_le_of_lt := h.lt_of_le_of_lt
      le_of_lt := h.le_of_lt
      ne_of_lt := h.ne_of_lt
      number_of_lt := h.number_of_lt
      le_or_lt := h.le_or_lt
      lt_decimal := h.lt_decimal }

/-- Instants in their order. -/
abbrev instantOrder : Preorder Instant where
  le t u := t.micros ≤ u.micros
  le_refl _ := Int.le_refl _
  le_trans _ _ _ := Int.le_trans

abbrev instantAnchor : letI := instantOrder; PyAnchor Instant :=
  letI := instantOrder
  { secondsBefore := fun t s => ⟨t.micros - 1000000 * s⟩
    isoformat := PyDateTime.isoformat
    secondsBefore_anti := fun t s s' h => by
      change t.micros - 1000000 * s' ≤ t.micros - 1000000 * s
      omega }

theorem fineIntel_surveyed : letI := fineIntel; Surveyed Rat := by
  let := fineIntel
  refine ⟨?_, fun n _ => ⟨n, rfl⟩⟩
  have hgap : (haversineM (cueLat : Rat) cueLon radarLat radarLon).toOption.any
      (fun d => !PyFloatOps.lt d (1000.0 : Rat)) = true := by decide +kernel
  cases hd : haversineM (cueLat : Rat) cueLon radarLat radarLon with
  | error e =>
    rw [hd] at hgap
    cases hgap
  | ok d =>
    rw [hd] at hgap
    exact ⟨d, rfl, by simpa [Except.toOption] using hgap⟩

/-- The timeline with all but four of its steps lost. -/
def fourSteps : List (StreamStep Rat) :=
  letI := exactMath
  letI := instantOrder
  letI := instantAnchor
  (buildS2Timeline (⟨0⟩ : Instant)).filter fun s => s.step ∈ [10, 11, 13, 14]

/-- They are played to their end. -/
theorem fourSteps_played :
    letI := plainHash
    letI := fineIntel
    letI := asciiChars
    ∃ graph amberStep, playLoop (fun _ _ => Southbound.stoppedHost) SpatialEntityGraph.empty none
      fourSteps = .ok (graph, amberStep) := by
  let := plainHash
  let := fineIntel
  let := asciiChars
  obtain ⟨⟨graph, amberStep⟩, h⟩ := except_isOk_iff.mp (by decide +kernel :
    (playLoop (fun _ _ => Southbound.stoppedHost) SpatialEntityGraph.empty none fourSteps).isOk = true)
  exact ⟨graph, amberStep, h⟩

theorem playLoop_amberBand_fourSteps :
    letI := plainHash
    letI := fineIntel
    letI := asciiChars
    ∃ graph, playLoop (fun _ _ => Southbound.stoppedHost) SpatialEntityGraph.empty none fourSteps =
      .ok (graph, some 14) := by
  let := plainHash
  let := fineIntel
  let := asciiChars
  let := instantOrder
  let := instantAnchor
  have := fineIntel_compare
  obtain ⟨graph, amberStep, h⟩ := fourSteps_played
  have hsub : fourSteps.Sublist (buildS2Timeline (⟨0⟩ : Instant)) := List.filter_sublist
  obtain ⟨hamber, -⟩ := playLoop_amberBand fineIntel_surveyed hsub h
  rw [hamber] at h
  exact ⟨graph, h⟩

end Temporal

end NexusC2

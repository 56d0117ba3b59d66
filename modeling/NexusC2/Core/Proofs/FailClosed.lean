import NexusC2.Core.Proofs.DebrisCone
import NexusC2.Misc.ExtRat

/-!
# Failing closed on NaN and the infinities

Every guard of the interlock rejects what is over its limit, so a number that compares with nothing
passes it. What is accepted is within the limits exactly when no such number is compared.
-/

namespace NexusC2

namespace DeterministicInterlock

/-! ## What the checks are for -/

section

variable {F : Type} [PyFloatOps F]

open PyFloatOps

/-- The POI is truly further away than its buffer and the debris footprint. -/
def TrulyClear (coa : CourseOfAction F) (poi : Poi F) : Prop :=
  ∃ a d, altitude coa = .ok a ∧
    haversineM coa.targetCoordinates.1 coa.targetCoordinates.2 poi.centerLat poi.centerLon = .ok d ∧
    lt (poi.buffer + debrisFootprintRadiusM a) d = true

/-- What an accepted COA keeps to. -/
structure WithinLimits (i : DeterministicInterlock F) (coa : CourseOfAction F) : Prop where
  speed : ∀ v, coa.speedKt = some v → le v i.maxSpeedKt = true
  finite : isFinite coa.targetCoordinates.1 = true ∧ isFinite coa.targetCoordinates.2 = true
  notNull : ¬ (eq coa.targetCoordinates.1 (0.0 : F) = true ∧
    eq coa.targetCoordinates.2 (0.0 : F) = true)
  debris : dangerous coa = true → ∀ poi ∈ i.cniPois, poi.Civilian → TrulyClear coa poi

/-- The interlock fails closed on the COA. -/
def FailsClosed (i : DeterministicInterlock F) (coa : CourseOfAction F) : Prop :=
  (∃ reason, i.verify coa = .ok (true, reason)) → WithinLimits i coa

/-- No check of `verify` stops the COA. -/
structure Unstopped (i : DeterministicInterlock F) (coa : CourseOfAction F) : Prop
    extends i.PassesFirst coa where
  debris : dangerous coa = true → i.cniPois ≠ [] → ∃ a, altitude coa = .ok a ∧
    ∀ poi ∈ i.cniPois, poi.Civilian →
      StaysClear coa.targetCoordinates.1 coa.targetCoordinates.2 (debrisFootprintRadiusM a) poi
  id : coa.coaId ∉ i.activeCoaIds
  key : dupKey coa ∉ i.activeCoaIds

theorem verify_eq_true_iff_unstopped {i : DeterministicInterlock F} {coa : CourseOfAction F} :
    (∃ reason, i.verify coa = .ok (true, reason)) ↔ Unstopped i coa := by
  rw [verify_eq_true_iff]
  constructor
  · rintro ⟨hclear, hid, hkey⟩
    exact ⟨hclear.toPassesFirst, verifyCniDebris_eq_true_iff.mp hclear.debris, hid, hkey⟩
  · intro h
    exact ⟨⟨h.toPassesFirst, verifyCniDebris_eq_true_iff.mpr h.debris⟩, h.id, h.key⟩

/-- A dangerous COA that passes is clear of every civilian POI, as far as the comparison tells. -/
theorem Unstopped.staysClear {i : DeterministicInterlock F} {coa : CourseOfAction F}
    (h : Unstopped i coa) (hdangerous : dangerous coa = true) {poi : Poi F} (hpoi : poi ∈ i.cniPois)
    (hcivilian : poi.Civilian) : ∃ a, altitude coa = .ok a ∧
      StaysClear coa.targetCoordinates.1 coa.targetCoordinates.2 (debrisFootprintRadiusM a) poi := by
  obtain ⟨a, ha, hclear⟩ := h.debris hdangerous (List.ne_nil_of_mem hpoi)
  exact ⟨a, ha, hclear poi hpoi hcivilian⟩

end

/-! ## Numbers that compare with nothing -/

section

variable [RatMath]

open ExtRat

/-- No number that is compared is NaN, and the target is a place. -/
structure Comparable (i : DeterministicInterlock ExtRat) (coa : CourseOfAction ExtRat) : Prop where
  speed : ∀ v, coa.speedKt = some v → v ≠ nan ∧ i.maxSpeedKt ≠ nan
  finite : (∃ q, coa.targetCoordinates.1 = num q) ∧ ∃ q, coa.targetCoordinates.2 = num q
  notNull : i.rejectNullCoordinates = true ∨ coa.targetCoordinates ≠ (num 0, num 0)
  debris : dangerous coa = true → ∀ poi ∈ i.cniPois, poi.Civilian →
    poi.centerLat ≠ nan ∧ poi.centerLon ≠ nan ∧ poi.buffer ≠ nan ∧
      ¬ (poi.buffer = inf true ∧ altitude coa = .ok (inf false))

theorem zero_eq : (0.0 : ExtRat) = num 0 := by
  change num (OfScientific.ofScientific 0 true 1 : ℚ) = num 0
  norm_num

theorem eight_eq : (8.0 : ExtRat) = num 8 := by
  change num (OfScientific.ofScientific 80 true 1 : ℚ) = num 8
  norm_num

/-- An infinity keeps its sign in the footprint, where the larger of it and the floor is taken. -/
theorem inf_footprint (s : Bool) :
    inf s * (8.0 : ExtRat) + (400.0 : ExtRat) = inf s := by
  rw [eight_eq]
  cases s <;> rfl

/-- The footprint is infinite for an infinite altitude, and never NaN or minus infinity. -/
theorem footprint_cases (a : ExtRat) :
    (debrisFootprintRadiusM a = inf false ∧ a = inf false) ∨
      (∃ q, debrisFootprintRadiusM a = num q) ∧ a ≠ inf false := by
  cases a with
  | nan => exact Or.inr ⟨⟨500.0, rfl⟩, ExtRat.noConfusion⟩
  | inf s =>
    cases s with
    | true =>
      refine Or.inr ⟨⟨500.0, ?_⟩, fun h => by cases h⟩
      unfold debrisFootprintRadiusM PyFloatOps.max
      rw [inf_footprint]
      rfl
    | false =>
      refine Or.inl ⟨?_, rfl⟩
      unfold debrisFootprintRadiusM PyFloatOps.max
      rw [inf_footprint]
      rfl
  | num q =>
    refine Or.inr ⟨?_, ExtRat.noConfusion⟩
    unfold debrisFootprintRadiusM PyFloatOps.max
    split
    · exact ⟨q * 8.0 + 400.0, rfl⟩
    · exact ⟨500.0, rfl⟩

/-- Between two places the distance is a number, and from a place to NaN it is NaN. -/
theorem haversineM_ne_nan {a b : ℚ} {lat lon d : ExtRat}
    (h : haversineM (num a) (num b) lat lon = .ok d) :
    d ≠ nan ↔ lat ≠ nan ∧ lon ≠ nan := by
  have hraise : ∀ {e : Exc} {P : Prop}, (Except.error e : Except Exc ExtRat) = .ok d → P :=
    fun h => by cases h
  cases lat with
  | nan =>
    cases lon with
    | nan =>
      have hd : d = nan := (Except.ok.inj h).symm
      simp [hd]
    | inf s => exact hraise h
    | num q =>
      have hd : d = nan := (Except.ok.inj h).symm
      simp [hd]
  | inf s => exact hraise h
  | num p =>
    cases lon with
    | nan =>
      have hd : d = nan := (Except.ok.inj h).symm
      simp [hd]
    | inf s => exact hraise h
    | num q =>
      -- `sqrt` and `asin` raise or give a number
      obtain ⟨x, hx⟩ : ∃ x : ℚ, haversineM (num a) (num b) (num p) (num q) = (do
          let root ← mathFn ((RatMath.sqrt x).map num)
          let arc ← mathFn (PyFloatOps.asin root)
          .ok ((2.0 : ExtRat) * (6371000.0 : ExtRat) * arc)) := ⟨_, rfl⟩
      rw [hx] at h
      cases hroot : RatMath.sqrt x with
      | none =>
        rw [hroot] at h
        exact hraise h
      | some root =>
        rw [hroot] at h
        change (do
          let arc ← mathFn ((RatMath.asin root).map num)
          .ok ((2.0 : ExtRat) * (6371000.0 : ExtRat) * arc)) = Except.ok d at h
        cases harc : RatMath.asin root with
        | none =>
          rw [harc] at h
          exact hraise h
        | some arc =>
          rw [harc] at h
          obtain rfl := Except.ok.inj h
          exact ⟨fun _ => ⟨ExtRat.noConfusion, ExtRat.noConfusion⟩, fun _ => ExtRat.noConfusion⟩

/-- A POI the debris seems to stay clear of truly is, unless the distance or its limit is NaN. -/
theorem trulyClear_iff {coa : CourseOfAction ExtRat} {poi : Poi ExtRat} {a : ExtRat} {p q : ℚ}
    (hlat : coa.targetCoordinates.1 = num p) (hlon : coa.targetCoordinates.2 = num q)
    (ha : altitude coa = .ok a)
    (h : StaysClear coa.targetCoordinates.1 coa.targetCoordinates.2 (debrisFootprintRadiusM a) poi) :
    TrulyClear coa poi ↔ poi.centerLat ≠ nan ∧ poi.centerLon ≠ nan ∧ poi.buffer ≠ nan ∧
      ¬ (poi.buffer = inf true ∧ altitude coa = .ok (inf false)) := by
  obtain ⟨d, hd, hnear⟩ := h
  rw [hlat, hlon] at hd
  have hdistance := haversineM_ne_nan hd
  have hlimit : poi.buffer + debrisFootprintRadiusM a ≠ nan ↔
      poi.buffer ≠ nan ∧ ¬ (poi.buffer = inf true ∧ altitude coa = .ok (inf false)) := by
    rw [Ne, add_eq_nan, ha]
    rcases footprint_cases a with ⟨hfoot, rfl⟩ | ⟨⟨r, hfoot⟩, hne⟩
    · rw [hfoot]
      cases hb : poi.buffer with
      | nan => simp
      | num r => simp
      | inf s => cases s <;> simp
    · rw [hfoot]
      have hother : (Except.ok a : Except Exc ExtRat) ≠ .ok (inf false) :=
        fun heq => hne (Except.ok.inj heq)
      simp [hother]
  rw [← and_assoc, ← hdistance, ← hlimit]
  constructor
  · rintro ⟨a', d', ha', hd', hlt⟩
    rw [ha] at ha'
    obtain rfl := Except.ok.inj ha'
    rw [hlat, hlon, hd] at hd'
    obtain rfl := Except.ok.inj hd'
    exact (ne_nan_of_lt hlt).symm
  · rintro ⟨hdnan, hsum⟩
    exact ⟨a, d, ha, by rw [hlat, hlon, hd], lt_of_not_le hdnan hsum hnear⟩

/-- Of a COA that no check stops: it is within the limits exactly when its numbers compare. -/
theorem withinLimits_iff {i : DeterministicInterlock ExtRat} {coa : CourseOfAction ExtRat}
    (h : Unstopped i coa) : WithinLimits i coa ↔ Comparable i coa := by
  constructor
  · intro hlimits
    have hfinite := And.intro (isFinite_iff.mp hlimits.finite.1) (isFinite_iff.mp hlimits.finite.2)
    obtain ⟨⟨p, hp⟩, ⟨q, hq⟩⟩ := hfinite
    refine ⟨fun v hv => ne_nan_of_le (hlimits.speed v hv), ⟨⟨p, hp⟩, ⟨q, hq⟩⟩, ?_, ?_⟩
    · refine Or.inr fun hnull => hlimits.notNull ?_
      rw [hnull, zero_eq]
      exact ⟨rfl, rfl⟩
    · intro hdangerous poi hpoi hcivilian
      obtain ⟨a, ha, hclear⟩ := h.staysClear hdangerous hpoi hcivilian
      exact (trulyClear_iff hp hq ha hclear).mp (hlimits.debris hdangerous poi hpoi hcivilian)
  · intro hnumbers
    obtain ⟨⟨p, hp⟩, ⟨q, hq⟩⟩ := hnumbers.finite
    refine ⟨?_, ⟨isFinite_iff.mpr ⟨p, hp⟩, isFinite_iff.mpr ⟨q, hq⟩⟩, ?_, ?_⟩
    · intro v hv
      have hslow := h.speed
      unfold tooFast at hslow
      rw [hv] at hslow
      obtain ⟨hvnan, hmax⟩ := hnumbers.speed v hv
      exact le_of_not_lt hmax hvnan hslow
    · rintro ⟨hlat, hlon⟩
      rcases hnumbers.notNull with hreject | hne
      · have htarget := h.target
        unfold nullTarget at htarget
        rw [hreject, hlat, hlon] at htarget
        cases htarget
      · refine hne (Prod.ext ?_ ?_)
        · rw [zero_eq, hp] at hlat
          rw [hp]
          exact congrArg num (of_decide_eq_true hlat)
        · rw [zero_eq, hq] at hlon
          rw [hq]
          exact congrArg num (of_decide_eq_true hlon)
    · intro hdangerous poi hpoi hcivilian
      obtain ⟨a, ha, hclear⟩ := h.staysClear hdangerous hpoi hcivilian
      exact (trulyClear_iff hp hq ha hclear).mpr (hnumbers.debris hdangerous poi hpoi hcivilian)

/-- The interlock fails closed on a COA exactly when some check stops it or its numbers compare. -/
theorem fails_closed_iff (i : DeterministicInterlock ExtRat) (coa : CourseOfAction ExtRat) :
    FailsClosed i coa ↔ (Unstopped i coa → Comparable i coa) := by
  unfold FailsClosed
  rw [verify_eq_true_iff_unstopped]
  constructor
  · intro hclosed hpasses
    exact (withinLimits_iff hpasses).mp (hclosed hpasses)
  · intro hnumbers hpasses
    exact (withinLimits_iff hpasses).mpr (hnumbers hpasses)

end

/-! ## A speed that is no number -/

/-- The interlock of a policy with its defaults. -/
def defaultInterlock : DeterministicInterlock ExtRat :=
  { forbiddenZones := []
    maxSpeedKt := .num 40
    rejectNullCoordinates := true
    activeCoaIds := ∅
    cniPois := [] }

/-- A COA whose speed is NaN. -/
def speedless : CourseOfAction ExtRat :=
  { coaId := "c1"
    tier := .tier1Hitl
    targetEntityId := "T-1"
    targetCoordinates := (.num 1, .num 103)
    intent := "INSPECT_TARGET"
    timeoutSeconds := .num 5
    preConditions := []
    postConditions := []
    invariants := []
    confidence := .num 0
    corroboratingSources := []
    rawInputDigest := ""
    speedKt := some .nan
    metadata := [] }

/-- The speed limit lets it through. -/
theorem not_fails_closed :
    letI := noMath
    ¬ ∀ (i : DeterministicInterlock ExtRat) (coa : CourseOfAction ExtRat),
      i.rejectNullCoordinates = true → FailsClosed i coa := by
  let := noMath
  intro h
  have haccepted : defaultInterlock.verify speedless = .ok (true, none) := by decide +kernel
  have hlimit := (h defaultInterlock speedless rfl ⟨none, haccepted⟩).speed .nan rfl
  exact absurd hlimit (by decide)

end DeterministicInterlock

end NexusC2

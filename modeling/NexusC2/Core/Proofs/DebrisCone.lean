import NexusC2.Core.Interlock

/-!
# The debris cone

What the loop of `verify_cni_debris` looks for: a civilian CNI whose buffer the debris reaches. The
loop stops at the first one, and a distance that cannot be computed stops it as well.
-/

namespace NexusC2

variable {F : Type}

/-- A POI the debris must stay clear of. -/
def Poi.Civilian (poi : Poi F) : Prop := poi.kind = some "civilian_cni" ∨ poi.kind = none

variable [PyFloatOps F]

open PyFloatOps

/-- `float(poi.get("buffer_m", 2500.0))`. -/
def Poi.buffer (poi : Poi F) : F := poi.bufferM.getD (2500.0 : F)

namespace DeterministicInterlock

/-- The debris of a hit at these coordinates reaches the buffer of the POI. -/
def Reaches (lat lon footprint : F) (poi : Poi F) : Prop :=
  ∃ d, haversineM lat lon poi.centerLat poi.centerLon = .ok d ∧
    le d (poi.buffer + footprint) = true

/-- It stays clear of it. -/
def StaysClear (lat lon footprint : F) (poi : Poi F) : Prop :=
  ∃ d, haversineM lat lon poi.centerLat poi.centerLon = .ok d ∧
    le d (poi.buffer + footprint) = false

theorem not_reaches_of_staysClear {lat lon footprint : F} {poi : Poi F}
    (h : StaysClear lat lon footprint poi) : ¬ Reaches lat lon footprint poi := by
  obtain ⟨d, hd, hclear⟩ := h
  rintro ⟨d', hd', hreach⟩
  rw [hd] at hd'
  obtain rfl := Except.ok.inj hd'
  rw [hclear] at hreach
  cases hreach

omit [PyFloatOps F] in
theorem not_civilian {poi : Poi F} :
    ¬ poi.Civilian ↔ poi.kind ≠ some "civilian_cni" ∧ poi.kind ≠ none := not_or

/-- What the loop answers: every civilian POI is clear of the debris, or one is reached and named in
the reason. -/
theorem debrisLoop_ok {lat lon footprint : F} {ok : Bool} {reason : Option String} :
    ∀ {pois : List (Poi F)}, debrisLoop lat lon footprint pois = .ok (ok, reason) →
      (ok = true ∧ reason = none ∧ ∀ poi ∈ pois, poi.Civilian → StaysClear lat lon footprint poi) ∨
      (ok = false ∧ (∃ text, reason = some (cniFalloutCode ++ ": debris cone intersects " ++ text)) ∧
        ∃ poi ∈ pois, poi.Civilian ∧ Reaches lat lon footprint poi) := by
  intro pois
  induction pois with
  | nil =>
    intro h
    cases h
    exact Or.inl ⟨rfl, rfl, fun poi hpoi => absurd hpoi List.not_mem_nil⟩
  | cons poi pois ih =>
    intro h
    unfold debrisLoop at h
    by_cases hskip : poi.kind ≠ some "civilian_cni" ∧ poi.kind ≠ none
    · rw [if_pos hskip] at h
      rcases ih h with ⟨hok, hreason, hclear⟩ | ⟨hok, hreason, q, hq, hhit⟩
      · refine Or.inl ⟨hok, hreason, fun q hq hcivilian => ?_⟩
        rcases List.mem_cons.mp hq with rfl | hq
        · exact absurd hcivilian (not_civilian.mpr hskip)
        · exact hclear q hq hcivilian
      · exact Or.inr ⟨hok, hreason, q, List.mem_cons_of_mem _ hq, hhit⟩
    · rw [if_neg hskip] at h
      have hcivilian : poi.Civilian := Classical.not_not.mp (mt not_civilian.mp hskip)
      cases hd : haversineM lat lon poi.centerLat poi.centerLon with
      | error e =>
        rw [hd] at h
        cases h
      | ok d =>
        rw [hd] at h
        simp only [bind, Except.bind] at h
        by_cases hnear : le d (poi.bufferM.getD (2500.0 : F) + footprint) = true
        · rw [if_pos hnear] at h
          cases h
          refine Or.inr ⟨rfl, ⟨poi.name.getD (poi.poiId.getD "CNI") ++ " (range " ++ fmt0 d ++
            " m ≤ buffer " ++ fmt0 (poi.bufferM.getD (2500.0 : F)) ++ " m + footprint " ++
            fmt0 footprint ++ " m)", ?_⟩, poi, List.mem_cons_self, hcivilian, d, hd, hnear⟩
          simp only [String.append_assoc]
        · rw [if_neg hnear] at h
          rcases ih h with ⟨hok, hreason, hclear⟩ | ⟨hok, hreason, q, hq, hhit⟩
          · refine Or.inl ⟨hok, hreason, fun q hq hcivilian => ?_⟩
            rcases List.mem_cons.mp hq with rfl | hq
            · exact ⟨d, hd, Bool.not_eq_true _ ▸ hnear⟩
            · exact hclear q hq hcivilian
          · exact Or.inr ⟨hok, hreason, q, List.mem_cons_of_mem _ hq, hhit⟩

/-- Where every civilian POI is clear of the debris the loop runs to its end. -/
theorem debrisLoop_of_staysClear {lat lon footprint : F} :
    ∀ {pois : List (Poi F)},
      (∀ poi ∈ pois, poi.Civilian → StaysClear lat lon footprint poi) →
      debrisLoop lat lon footprint pois = .ok (true, none) := by
  intro pois
  induction pois with
  | nil => exact fun _ => rfl
  | cons poi pois ih =>
    intro h
    have hrest := ih fun q hq => h q (List.mem_cons_of_mem _ hq)
    unfold debrisLoop
    by_cases hskip : poi.kind ≠ some "civilian_cni" ∧ poi.kind ≠ none
    · rw [if_pos hskip, hrest]
    · rw [if_neg hskip]
      obtain ⟨d, hd, hclear⟩ := h poi List.mem_cons_self
        (Classical.not_not.mp (mt not_civilian.mp hskip))
      have hfar : le d (poi.bufferM.getD (2500.0 : F) + footprint) = false := hclear
      rw [hd]
      simp only [bind, Except.bind, hfar, Bool.false_eq_true, if_false, hrest]

/-! ## The check -/

/-- Whether `verify_cni_debris` looks at the COA at all. -/
def dangerous (coa : CourseOfAction F) : Bool :=
  (match Assoc.get coa.metadata "dangerous_proposal_draft" with
    | some v => v.truth
    | none => false) || decide (coa.intent ∈ terminalIntents)

/-- `float(coa.metadata.get("altitude_m", 71.0))`. -/
def altitude (coa : CourseOfAction F) : Except Exc F :=
  pyFloat ((Assoc.get coa.metadata "altitude_m").getD (.float (71.0 : F)))

theorem verifyCniDebris_eq (i : DeterministicInterlock F) (coa : CourseOfAction F) :
    i.verifyCniDebris coa =
      if !dangerous coa || i.cniPois.isEmpty then .ok (true, none)
      else (do
        let a ← altitude coa
        debrisLoop coa.targetCoordinates.1 coa.targetCoordinates.2 (debrisFootprintRadiusM a)
          i.cniPois) := rfl

/-- The check lets a COA pass that is not dangerous, that has no POI to reach, or that stays clear of
every civilian one. -/
theorem verifyCniDebris_eq_true_iff {i : DeterministicInterlock F} {coa : CourseOfAction F} :
    (∃ reason, i.verifyCniDebris coa = .ok (true, reason)) ↔
      (dangerous coa = true → i.cniPois ≠ [] → ∃ a, altitude coa = .ok a ∧
        ∀ poi ∈ i.cniPois, poi.Civilian → StaysClear coa.targetCoordinates.1
          coa.targetCoordinates.2 (debrisFootprintRadiusM a) poi) := by
  rw [verifyCniDebris_eq]
  by_cases hskip : (!dangerous coa || i.cniPois.isEmpty) = true
  · rw [if_pos hskip]
    refine iff_of_true ⟨none, rfl⟩ fun hdangerous hpois => ?_
    rw [hdangerous, Bool.not_true, Bool.false_or, List.isEmpty_iff] at hskip
    exact absurd hskip hpois
  · rw [if_neg hskip]
    simp only [Bool.or_eq_true, Bool.not_eq_true', List.isEmpty_iff, not_or, Bool.not_eq_false]
      at hskip
    obtain ⟨hdangerous, hpois⟩ := hskip
    constructor
    · rintro ⟨reason, h⟩ - -
      cases ha : altitude coa with
      | error e =>
        rw [ha] at h
        cases h
      | ok a =>
        rw [ha] at h
        rcases debrisLoop_ok h with ⟨-, -, hclear⟩ | ⟨hfalse, -⟩
        · exact ⟨a, rfl, hclear⟩
        · cases hfalse
    · intro h
      obtain ⟨a, ha, hclear⟩ := h hdangerous hpois
      exact ⟨none, by rw [ha]; exact debrisLoop_of_staysClear hclear⟩

end DeterministicInterlock

end NexusC2

import NexusC2.App.Proofs.Corroboration

/-!
# What corroboration does to a confidence

A pair gets the greater of its two confidences and a boost, but never more than the cap. A detection
that was surer than the cap is less sure once it is corroborated.
-/

namespace NexusC2

namespace DualSar

section

variable {F D : Type} [PyTextOps F]

/-- The confidence is in the range the model of an event allows. -/
def UnitConfidence (event : CandidateEvent F D) : Prop :=
  PyFloatOps.le (0.0 : F) event.confidence = true ∧
    PyFloatOps.le event.confidence (1.0 : F) = true

variable [PyFloatRounded F] {macroEvent micro : CandidateEvent F D}

/-! ## Boost and cap -/

theorem UnitConfidence.finite (h : UnitConfidence micro) :
    PyFloatOps.isFinite micro.confidence = true :=
  PyFloatRounded.finite_between _ _ _ PyFloatRounded.finite_zero PyFloatRounded.finite_one h.1 h.2

theorem zero_le_cap : PyFloatOps.le (0.0 : F) (confidenceCap : F) = true :=
  PyFloatRounded.le_decimal 0 1 98 2 (by decide)

theorem cap_le_one : PyFloatOps.le (confidenceCap : F) (1.0 : F) = true :=
  PyFloatRounded.le_decimal 98 2 10 1 (by decide)

theorem finite_cap : PyFloatOps.isFinite (confidenceCap : F) = true :=
  PyFloatRounded.finite_between _ _ _ PyFloatRounded.finite_zero PyFloatRounded.finite_one
    zero_le_cap cap_le_one

theorem zero_le_boost : PyFloatOps.le (0.0 : F) (confidenceBoost : F) = true :=
  PyFloatRounded.le_decimal 0 1 1 1 (by decide)

theorem finite_boost : PyFloatOps.isFinite (confidenceBoost : F) = true := by
  have hle : PyFloatOps.le (confidenceBoost : F) (1.0 : F) = true :=
    PyFloatRounded.le_decimal 1 1 10 1 (by decide)
  exact PyFloatRounded.finite_between _ _ _ PyFloatRounded.finite_zero PyFloatRounded.finite_one
    zero_le_boost hle

theorem le_refl {x : F} (hx : PyFloatOps.isFinite x = true) : PyFloatOps.le x x = true :=
  (PyFloatOrder.le_total x x hx hx).elim id id

/-- `max` of finite values is one of them, and neither is greater. -/
theorem max_spec {a b : F} (ha : PyFloatOps.isFinite a = true) (hb : PyFloatOps.isFinite b = true) :
    PyFloatOps.isFinite (PyFloatOps.max a b) = true ∧
      PyFloatOps.le a (PyFloatOps.max a b) = true ∧
      PyFloatOps.le b (PyFloatOps.max a b) = true := by
  unfold PyFloatOps.max
  by_cases hlt : PyFloatOps.lt a b = true
  · rw [if_pos hlt]
    exact ⟨hb, PyFloatRounded.le_of_lt a b hlt, le_refl hb⟩
  · rw [if_neg hlt]
    exact ⟨ha, le_refl ha, (PyFloatLinear.not_lt_iff ha hb).mp hlt⟩

/-- The boosted confidence is the cap, or it is below the cap and not below the greater of the
two. -/
theorem boosted_cases (hglint : UnitConfidence macroEvent) (hmicro : UnitConfidence micro) :
    boosted macroEvent micro = confidenceCap ∨
      PyFloatOps.isFinite (boosted macroEvent micro) = true ∧
      PyFloatOps.le (PyFloatOps.max macroEvent.confidence micro.confidence)
        (boosted macroEvent micro) = true ∧
      PyFloatOps.le (boosted macroEvent micro) confidenceCap = true := by
  obtain ⟨hfinite, -, -⟩ := max_spec hglint.finite hmicro.finite
  have hsum := PyFloatRounded.le_add _ (confidenceBoost : F) hfinite finite_boost zero_le_boost
  unfold boosted PyMathOps.min
  split
  · rename_i hlt
    have hle := PyFloatRounded.le_of_lt _ _ hlt
    exact Or.inr ⟨PyFloatRounded.finite_between _ _ _ hfinite finite_cap hsum hle, hsum, hle⟩
  · exact Or.inl rfl

/-- A confidence of the pair is kept exactly where it is at most the cap. -/
theorem le_boosted_iff (hglint : UnitConfidence macroEvent) (hmicro : UnitConfidence micro) {x : F}
    (hx : PyFloatOps.isFinite x = true)
    (hmax : PyFloatOps.le x (PyFloatOps.max macroEvent.confidence micro.confidence) = true) :
    PyFloatOps.le x (boosted macroEvent micro) = true ↔
      PyFloatOps.le x (confidenceCap : F) = true := by
  obtain ⟨hfinite, -, -⟩ := max_spec hglint.finite hmicro.finite
  rcases boosted_cases hglint hmicro with hcap | ⟨hboosted, hge, hle⟩
  · rw [hcap]
  · have hkept := PyFloatOrder.le_trans _ _ _ hx hfinite hboosted hmax hge
    have hbelow := PyFloatOrder.le_trans _ _ _ hx hboosted finite_cap hkept hle
    exact ⟨fun _ => hbelow, fun _ => hkept⟩

theorem boosted_unit (hglint : UnitConfidence macroEvent) (hmicro : UnitConfidence micro) :
    PyFloatOps.le (0.0 : F) (boosted macroEvent micro) = true ∧
      PyFloatOps.le (boosted macroEvent micro) (1.0 : F) = true := by
  obtain ⟨hfinite, hmax, -⟩ := max_spec hglint.finite hmicro.finite
  have hzero := PyFloatOrder.le_trans _ _ _ PyFloatRounded.finite_zero hglint.finite hfinite
    hglint.1 hmax
  rcases boosted_cases hglint hmicro with hcap | ⟨hboosted, hge, hle⟩
  · rw [hcap]
    exact ⟨zero_le_cap, cap_le_one⟩
  · exact ⟨PyFloatOrder.le_trans _ _ _ PyFloatRounded.finite_zero hfinite hboosted hzero hge,
      PyFloatOrder.le_trans _ _ _ hboosted finite_cap PyFloatRounded.finite_one hle cap_le_one⟩

/-! ## The answers -/

variable {haversine : F → F → F → F → F} {maxAlignM : F} {macros : List (CandidateEvent F D)}

/-- The answer is in range, and no less sure than the detection and the macro it is joined with. -/
structure Elevated (haversine : F → F → F → F → F) (maxAlignM : F)
    (macros : List (CandidateEvent F D)) (micro out : CandidateEvent F D) : Prop where
  unit : UnitConfidence out
  micro_le : PyFloatOps.le micro.confidence out.confidence = true
  macro_le : ∀ macroEvent, nearestMacro haversine maxAlignM macros micro = some macroEvent →
    PyFloatOps.le macroEvent.confidence out.confidence = true

omit [PyFloatRounded F] in
theorem corroborateOne_alone {out : CandidateEvent F D}
    (h : corroborateOne haversine maxAlignM macros micro = .ok out)
    (hnearest : nearestMacro haversine maxAlignM macros micro = none) :
    out.confidence = micro.confidence := by
  rw [corroborateOne_of_none hnearest] at h
  cases h
  rfl

omit [PyFloatRounded F] in
theorem corroborateOne_pair {out : CandidateEvent F D}
    (h : corroborateOne haversine maxAlignM macros micro = .ok out)
    (hnearest : nearestMacro haversine maxAlignM macros micro = some macroEvent) :
    out.confidence = boosted macroEvent micro := by
  rw [corroborateOne_of_some hnearest] at h
  obtain ⟨n, -, rfl⟩ := fusePair_eq_ok.mp h
  rfl

/-- The answer is no less sure than the detection exactly where the detection is no surer than the
cap, or is alone. -/
theorem micro_le_iff (hmacros : ∀ other ∈ macros, UnitConfidence other)
    (hmicro : UnitConfidence micro) {out : CandidateEvent F D}
    (h : corroborateOne haversine maxAlignM macros micro = .ok out) :
    PyFloatOps.le micro.confidence out.confidence = true ↔
      ∀ other ∈ macros, sectorAligns haversine maxAlignM other micro = true →
        PyFloatOps.le micro.confidence (confidenceCap : F) = true := by
  cases hnearest : nearestMacro haversine maxAlignM macros micro with
  | none =>
    rw [corroborateOne_alone h hnearest]
    have hnone := nearestMacro_eq_none_iff.mp hnearest
    simp only [le_refl hmicro.finite, true_iff]
    intro other hother haligns
    simp [hnone other hother] at haligns
  | some macroEvent =>
    obtain ⟨hmem, haligns⟩ := nearestMacro_mem hnearest
    have hglint := hmacros macroEvent hmem
    rw [corroborateOne_pair h hnearest, le_boosted_iff hglint hmicro hmicro.finite
      (max_spec hglint.finite hmicro.finite).2.2]
    exact ⟨fun hle _ _ _ => hle, fun hall => hall macroEvent hmem haligns⟩

/-- A detection alone keeps its confidence. -/
theorem elevated_alone (hmicro : UnitConfidence micro) {out : CandidateEvent F D}
    (hnearest : nearestMacro haversine maxAlignM macros micro = none)
    (hconfidence : out.confidence = micro.confidence) :
    Elevated haversine maxAlignM macros micro out := by
  refine ⟨?_, ?_, ?_⟩
  · unfold UnitConfidence
    rw [hconfidence]
    exact hmicro
  · rw [hconfidence]
    exact le_refl hmicro.finite
  · intro macroEvent hsome
    cases hnearest.symm.trans hsome

/-- A pair loses nothing where neither of the two is surer than the cap. -/
theorem elevated_pair_iff (hglint : UnitConfidence macroEvent) (hmicro : UnitConfidence micro)
    {out : CandidateEvent F D}
    (hnearest : nearestMacro haversine maxAlignM macros micro = some macroEvent)
    (hconfidence : out.confidence = boosted macroEvent micro) :
    Elevated haversine maxAlignM macros micro out ↔
      PyFloatOps.le micro.confidence (confidenceCap : F) = true ∧
        PyFloatOps.le macroEvent.confidence (confidenceCap : F) = true := by
  obtain ⟨-, hglintMax, hmicroMax⟩ := max_spec hglint.finite hmicro.finite
  have hglintLe := le_boosted_iff hglint hmicro hglint.finite hglintMax
  have hmicroLe := le_boosted_iff hglint hmicro hmicro.finite hmicroMax
  rw [← hconfidence] at hglintLe hmicroLe
  constructor
  · intro helevated
    exact ⟨hmicroLe.mp helevated.micro_le, hglintLe.mp (helevated.macro_le macroEvent hnearest)⟩
  · rintro ⟨hmicroCap, hglintCap⟩
    refine ⟨?_, hmicroLe.mpr hmicroCap, ?_⟩
    · unfold UnitConfidence
      rw [hconfidence]
      exact boosted_unit hglint hmicro
    · intro other hother
      obtain rfl := Option.some.inj (hnearest.symm.trans hother)
      exact hglintLe.mpr hglintCap

theorem elevated_iff (hmacros : ∀ other ∈ macros, UnitConfidence other)
    (hmicro : UnitConfidence micro) {out : CandidateEvent F D}
    (h : corroborateOne haversine maxAlignM macros micro = .ok out) :
    Elevated haversine maxAlignM macros micro out ↔
      ∀ macroEvent, nearestMacro haversine maxAlignM macros micro = some macroEvent →
        PyFloatOps.le micro.confidence (confidenceCap : F) = true ∧
          PyFloatOps.le macroEvent.confidence (confidenceCap : F) = true := by
  cases hnearest : nearestMacro haversine maxAlignM macros micro with
  | none =>
    simp only [reduceCtorEq, false_implies, implies_true, iff_true]
    exact elevated_alone hmicro hnearest (corroborateOne_alone h hnearest)
  | some macroEvent =>
    have hglint := hmacros macroEvent (nearestMacro_mem hnearest).1
    simp only [Option.some.injEq, forall_eq']
    exact elevated_pair_iff hglint hmicro hnearest (corroborateOne_pair h hnearest)

/-- No confidence is lowered exactly where those of every pair are at most the cap; and with one
more macro, where every detection that a macro aligns with is no surer than the cap. -/
theorem confidence_kept_iff {micros : List (CandidateEvent F D)}
    (hmacros : ∀ other ∈ macros, UnitConfidence other)
    (hmicros : ∀ micro ∈ micros, UnitConfidence micro) :
    (∀ outs, corroborate haversine maxAlignM macros micros = .ok outs →
      (List.Forall₂ (Elevated haversine maxAlignM macros) micros outs ↔
        ∀ micro ∈ micros, ∀ macroEvent,
          nearestMacro haversine maxAlignM macros micro = some macroEvent →
            PyFloatOps.le micro.confidence (confidenceCap : F) = true ∧
              PyFloatOps.le macroEvent.confidence (confidenceCap : F) = true)) ∧
    ∀ before after added outs, macros = before ++ after → UnitConfidence added →
      corroborate haversine maxAlignM (before ++ added :: after) micros = .ok outs →
      (List.Forall₂ (fun micro out => PyFloatOps.le micro.confidence out.confidence = true)
          micros outs ↔
        ∀ micro ∈ micros, ∀ other ∈ before ++ added :: after,
          sectorAligns haversine maxAlignM other micro = true →
            PyFloatOps.le micro.confidence (confidenceCap : F) = true) := by
  constructor
  · intro outs houts
    rw [corroborate_eq] at houts
    exact except_mapM_forall₂_iff houts fun micro hmicro out hout =>
      elevated_iff hmacros (hmicros micro hmicro) hout
  · intro before after added outs hsplit hadded houts
    have hall : ∀ other ∈ before ++ added :: after, UnitConfidence other := by
      intro other hother
      rcases List.mem_append.mp hother with hmem | hmem
      · exact hmacros other (by simp [hsplit, hmem])
      rcases List.mem_cons.mp hmem with rfl | hmem
      · exact hadded
      · exact hmacros other (by simp [hsplit, hmem])
    rw [corroborate_eq] at houts
    exact except_mapM_forall₂_iff houts fun micro hmicro out hout =>
      micro_le_iff hall (hmicros micro hmicro) hout

end

theorem corroborate_fixture (p q : Rat) :
    letI := exactText
    corroborate degreesSquared defaultAlignM [glintCluster p (.int 2)] [darkVessel q] =
      .ok [pairEvent (glintCluster p (.int 2)) (darkVessel q) 2] := by
  let := exactText
  rw [corroborate_eq, List.mapM_cons, corroborateOne_of_some (glintCluster_nearest p q _)]
  rfl

theorem confidence_kept_iff_fixture :
    letI := exactText
    List.Forall₂ (Elevated degreesSquared defaultAlignM [glintCluster 0.88 (.int 2)])
        [darkVessel 0.91] [pairEvent (glintCluster 0.88 (.int 2)) (darkVessel 0.91) 2] ∧
      ∀ outs, corroborate degreesSquared defaultAlignM
          [glintCluster 0.5 (.int 1), glintCluster 0.88 (.int 2)] [darkVessel 0.91] = .ok outs →
        List.Forall₂ (fun micro out => PyFloatOps.le micro.confidence out.confidence = true)
          [darkVessel 0.91] outs := by
  let := exactText
  have := exactText_rounded
  have hmacros : ∀ other ∈ [glintCluster 0.88 (.int 2)], UnitConfidence other := by
    intro other hother
    rw [List.mem_singleton.mp hother]
    unfold UnitConfidence
    decide +kernel
  have hmicros : ∀ micro ∈ [darkVessel 0.91], UnitConfidence micro := by
    intro micro hmicro
    rw [List.mem_singleton.mp hmicro]
    unfold UnitConfidence
    decide +kernel
  have hcap : PyFloatOps.le (darkVessel 0.91).confidence confidenceCap = true := by
    decide +kernel
  obtain ⟨hkept, hadded⟩ := @confidence_kept_iff Rat Int _ _ degreesSquared
    defaultAlignM _ _ hmacros hmicros
  constructor
  · apply (hkept _ (corroborate_fixture 0.88 0.91)).mpr
    intro micro hmicro macroEvent hnearest
    rw [List.mem_singleton.mp hmicro, List.mem_singleton.mp (nearestMacro_mem hnearest).1]
    exact ⟨hcap, by decide +kernel⟩
  · intro outs houts
    have hunit : UnitConfidence (glintCluster 0.5 (.int 1)) := by
      unfold UnitConfidence
      decide +kernel
    apply (hadded [] [glintCluster 0.88 (.int 2)] _ outs rfl hunit houts).mpr
    intro micro hmicro _ _ _
    rw [List.mem_singleton.mp hmicro]
    exact hcap

/-- A detection at 0.99 leaves corroboration at the cap. -/
theorem capped_confidence_lowered :
    letI := exactText
    UnitConfidence (glintCluster 0.88 (.int 2)) ∧ UnitConfidence (darkVessel 0.99) ∧
    ∃ out, corroborate degreesSquared defaultAlignM [glintCluster 0.88 (.int 2)]
        [darkVessel 0.99] = .ok [out] ∧
      out.confidence = confidenceCap ∧
      PyFloatOps.lt out.confidence (darkVessel 0.99).confidence = true ∧
      ¬ Elevated degreesSquared defaultAlignM [glintCluster 0.88 (.int 2)] (darkVessel 0.99)
        out := by
  let := exactText
  have hlower : PyFloatOps.le (darkVessel 0.99).confidence
      (boosted (glintCluster 0.88 (.int 2)) (darkVessel 0.99)) = false := by
    decide +kernel
  unfold UnitConfidence
  refine ⟨by decide +kernel, by decide +kernel, _, corroborate_fixture 0.88 0.99, ?_, ?_, ?_⟩
  · change boosted (glintCluster 0.88 (.int 2)) (darkVessel 0.99) = confidenceCap
    decide +kernel
  · change PyFloatOps.lt (boosted (glintCluster 0.88 (.int 2)) (darkVessel 0.99)) _ = true
    decide +kernel
  · intro helevated
    cases hlower.symm.trans helevated.micro_le

end DualSar

end NexusC2

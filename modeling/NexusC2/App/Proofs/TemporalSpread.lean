import NexusC2.App.Temporal
import NexusC2.Misc.Buckets
import Mathlib.Data.Int.ConditionallyCompleteOrder

/-!
# The events on the clock

The step of an event does not fall with its index, so the steps are the buckets of the list of
events: one after the other they are the events again, in order and with times that do not fall.
-/

namespace NexusC2

namespace Temporal

theorem targetStep_bounds (n j : Nat) : 1 ≤ targetStep n j ∧ targetStep n j ≤ 19 := by
  unfold targetStep
  dsimp only
  omega

theorem targetStep_mono (n : Nat) {j j' : Nat} (h : j ≤ j') : targetStep n j ≤ targetStep n j' := by
  unfold targetStep
  split
  · have hdiv : j * 18 / max (n - 1) 1 ≤ j' * 18 / max (n - 1) 1 := by
      apply Nat.div_le_div_right
      omega
    dsimp only
    omega
  · exact le_refl _

theorem targetStep_first {n : Nat} (h : 2 ≤ n) : targetStep n 0 = 1 := by
  unfold targetStep
  rw [if_pos (by omega)]
  simp

theorem targetStep_last {n : Nat} (h : 2 ≤ n) : targetStep n (n - 1) = 19 := by
  unfold targetStep
  have hmax : max (n - 1) 1 = n - 1 := by omega
  have hdiv : (n - 1) * 18 / (n - 1) = 18 := Nat.mul_div_cancel_left 18 (by omega)
  rw [if_pos (by omega), hmax, hdiv]
  rfl

/-- The offsets fall along the clock. -/
theorem tMinus_anti : tMinus.Pairwise (· ≥ ·) := by decide

theorem tMinus_getD_anti {i i' : Nat} (h : i ≤ i') (hi' : i' < 19) :
    tMinus.getD i' 0 ≤ tMinus.getD i 0 := by
  rcases Nat.lt_or_eq_of_le h with hlt | rfl
  · have hlen' : i' < tMinus.length := hi'
    have hlen : i < tMinus.length := hlt.trans hlen'
    rw [List.getD_eq_getElem?_getD, List.getD_eq_getElem?_getD, List.getElem?_eq_getElem hlen',
      List.getElem?_eq_getElem hlen]
    exact List.pairwise_iff_getElem.mp tMinus_anti i i' hlen hlen' hlt
  · exact le_refl _

section

variable {F D : Type} [Preorder D] [PyAnchor D]

/-- The time event `j` of `n` is stamped with. -/
def timeOf (t0 : D) (n j : Nat) : D := PyAnchor.secondsBefore t0 (tMinus.getD (targetStep n j - 1) 0)

theorem timeOf_mono (t0 : D) (n : Nat) {j j' : Nat} (h : j ≤ j') :
    timeOf t0 n j ≤ timeOf t0 n j' := by
  apply PyAnchor.secondsBefore_anti
  have hbounds := targetStep_bounds n j'
  have hmono := targetStep_mono n h
  exact tMinus_getD_anti (by omega) (by omega)

/-- The events of all steps are the events of the list, each with its time. -/
theorem events_spread (scenarioId : String) (raw : List (Fields F)) (t0 : D) :
    (spreadScenarioEvents scenarioId raw t0).flatMap StreamStep.events =
      raw.zipIdx.map fun p => Assoc.set p.1 "observed_at"
        (.str (PyAnchor.isoformat (timeOf t0 (max raw.length 1) p.2))) := by
  have hsorted : raw.zipIdx.Pairwise fun p q =>
      targetStep (max raw.length 1) p.2 - 1 ≤ targetStep (max raw.length 1) q.2 - 1 := by
    have hindices : raw.zipIdx.Pairwise fun p q => p.2 < q.2 := by
      have hrange := List.pairwise_lt_range' (s := 0) (n := raw.length)
      rw [← List.zipIdx_map_snd 0 raw, List.pairwise_map] at hrange
      exact hrange
    refine hindices.imp fun {p q} h => ?_
    have hmono := targetStep_mono (max raw.length 1) (Nat.le_of_lt h)
    omega
  have hlt : ∀ p ∈ raw.zipIdx, targetStep (max raw.length 1) p.2 - 1 < 19 := by
    intro p _
    have hbounds := targetStep_bounds (max raw.length 1) p.2
    omega
  have hbuckets := flatMap_buckets hsorted hlt
  unfold spreadScenarioEvents
  rw [List.flatMap_map]
  conv_rhs => rw [← hbuckets]
  rw [List.map_flatMap]
  apply List.flatMap_congr
  intro i _
  unfold stepEvents
  dsimp only
  have hfilter : (raw.zipIdx.filter fun p => targetStep (max raw.length 1) p.2 = i + 1) =
      raw.zipIdx.filter fun p => targetStep (max raw.length 1) p.2 - 1 = i := by
    apply List.filter_congr
    intro p _
    have hbounds := targetStep_bounds (max raw.length 1) p.2
    rw [decide_eq_decide]
    omega
  rw [hfilter]
  apply List.map_congr_left
  intro p hp
  have hi : targetStep (max raw.length 1) p.2 - 1 = i := by
    simpa using (List.mem_filter.mp hp).2
  unfold stamp timeOf
  rw [hi]

theorem steps_getElem? (scenarioId : String) (raw : List (Fields F)) (t0 : D) {i : Nat}
    (hi : i < 19) : ∃ s, (spreadScenarioEvents scenarioId raw t0)[i]? = some s ∧ s.step = i + 1 ∧
      s.events = stepEvents t0 raw i := by
  unfold spreadScenarioEvents
  rw [List.getElem?_map, List.getElem?_range hi]
  exact ⟨_, rfl, rfl, rfl⟩

/-- Of two events or more, the first is the first one of step 1 and the last the last one of step
19. -/
theorem stepEvents_ends (t0 : D) {raw : List (Fields F)} {first last : Fields F}
    (hlen : 2 ≤ raw.length) (hfirst : raw.head? = some first) (hlast : raw.getLast? = some last) :
    (stepEvents t0 raw 0).head? = some (stamp t0 60 first) ∧
      (stepEvents t0 raw 18).getLast? = some (stamp t0 0 last) := by
  have hmax : max raw.length 1 = raw.length := by omega
  unfold stepEvents
  dsimp only
  rw [hmax]
  constructor
  · obtain ⟨rest, rfl⟩ := List.head?_eq_some_iff.mp hfirst
    have hkept : decide (targetStep (first :: rest).length 0 = 0 + 1) = true := by
      rw [targetStep_first hlen]
      rfl
    rw [List.zipIdx_cons, List.filter_cons]
    dsimp only
    rw [if_pos hkept]
    rfl
  · obtain ⟨init, rfl⟩ := List.getLast?_eq_some_iff.mp hlast
    have hindex : init.length = (init ++ [last]).length - 1 := by simp
    have hkept : decide (targetStep (init ++ [last]).length init.length = 18 + 1) = true := by
      rw [hindex, targetStep_last hlen]
      rfl
    rw [List.zipIdx_append, List.zipIdx_singleton, List.filter_append, Nat.zero_add,
      List.filter_cons, List.map_append]
    dsimp only
    rw [if_pos hkept]
    simp [tMinus]

/-- The clock has 19 steps, and the events of its steps are those of the list, in order, each once
and with nothing but its time written over. The times do not fall. Of two events or more the first
is in step 1 and the last in step 19. -/
theorem spread_keeps_events (scenarioId : String) (raw : List (Fields F)) (t0 : D) :
    (spreadScenarioEvents scenarioId raw t0).length = 19 ∧
    (∃ times : List D, times.length = raw.length ∧ times.Pairwise (· ≤ ·) ∧
      (spreadScenarioEvents scenarioId raw t0).flatMap StreamStep.events =
        List.zipWith (fun event t => Assoc.set event "observed_at" (.str (PyAnchor.isoformat t)))
          raw times) ∧
    ∀ first last, 2 ≤ raw.length → raw.head? = some first → raw.getLast? = some last →
      ∃ s s', (spreadScenarioEvents scenarioId raw t0)[0]? = some s ∧ s.step = 1 ∧
        s.events.head? = some (stamp t0 60 first) ∧
        (spreadScenarioEvents scenarioId raw t0)[18]? = some s' ∧ s'.step = 19 ∧
        s'.events.getLast? = some (stamp t0 0 last) := by
  refine ⟨by simp [spreadScenarioEvents], ?_, ?_⟩
  · refine ⟨(List.range' 0 raw.length).map (timeOf t0 (max raw.length 1)), by simp, ?_, ?_⟩
    · rw [List.pairwise_map]
      exact (List.pairwise_lt_range' (s := 0)).imp fun h => timeOf_mono t0 _ (Nat.le_of_lt h)
    · rw [events_spread, List.zipIdx_eq_zip_range', List.map_zip_eq_zipWith, List.zipWith_map_right]
      rfl
  · intro first last hlen hfirst hlast
    obtain ⟨s, hs, hstep, hevents⟩ := steps_getElem? scenarioId raw t0 (i := 0) (by omega)
    obtain ⟨s', hs', hstep', hevents'⟩ := steps_getElem? scenarioId raw t0 (i := 18) (by omega)
    obtain ⟨hhead, hend⟩ := stepEvents_ends t0 hlen hfirst hlast
    exact ⟨s, s', hs, hstep, by rw [hevents, hhead], hs', hstep', by rw [hevents', hend]⟩

end

/-- Times in seconds. -/
abbrev secondsAnchor : PyAnchor Int where
  secondsBefore t s := t - s
  isoformat t := String.ofList (intText t)
  secondsBefore_anti t s s' h := by omega

/-- Three events. -/
def threeEvents : List (Fields Rat) :=
  [[("observation_id", .str "a")], [("observation_id", .str "b")], [("observation_id", .str "c")]]

theorem spread_keeps_events_three :
    letI := secondsAnchor
    ∃ s s', (spreadScenarioEvents "S1_ais_spoof" threeEvents (1000 : Int))[0]? = some s ∧
      s.events.head? = some (stamp (1000 : Int) 60 [("observation_id", .str "a")]) ∧
      (spreadScenarioEvents "S1_ais_spoof" threeEvents (1000 : Int))[18]? = some s' ∧
      s'.events.getLast? = some (stamp (1000 : Int) 0 [("observation_id", .str "c")]) := by
  let := secondsAnchor
  obtain ⟨-, -, hends⟩ := spread_keeps_events "S1_ais_spoof" threeEvents (1000 : Int)
  obtain ⟨s, s', hs, -, hhead, hs', -, hlast⟩ := hends [("observation_id", .str "a")]
    [("observation_id", .str "c")] (by decide) rfl rfl
  exact ⟨s, s', hs, hhead, hs', hlast⟩

end Temporal

end NexusC2

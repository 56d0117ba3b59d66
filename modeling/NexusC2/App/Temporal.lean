import NexusC2.Misc.Json
import NexusC2.Misc.Text

/-!
# The 19-step clock

`_spread_scenario_events` (`app/scenarios/temporal.py`): the events a scenario builds, stamped and
placed on the steps of the demonstration clock. The index of a step is computed in exact arithmetic,
and times have no first or last year.
-/

namespace NexusC2

/-- The times an anchor is moved back from. -/
class PyAnchor (D : Type) [Preorder D] where
  /-- `t0 - timedelta(seconds=s)`. -/
  secondsBefore : D → Nat → D
  /-- `d.isoformat()`. -/
  isoformat : D → String
  secondsBefore_anti (t0 : D) {s s' : Nat} (h : s ≤ s') : secondsBefore t0 s' ≤ secondsBefore t0 s

namespace Temporal

/-- `_T_MINUS` (`app/scenarios/temporal.py:23-43`). -/
def tMinus : List Nat := [60, 56, 52, 48, 45, 40, 36, 32, 28, 25, 20, 17, 15, 12, 10, 5, 3, 1, 0]

/-- `StreamStep` (`app/scenarios/temporal.py:46-55`). -/
structure StreamStep (F : Type) where
  step : Nat
  tMinusS : Nat
  band : String
  label : String
  events : List (Fields F)

/-- `_band_for` (`app/scenarios/temporal.py:58-65`). -/
def bandFor (step : Nat) : String :=
  if step ≤ 5 then "early_recon"
  else if step ≤ 10 then "radar_optical_lock"
  else if step ≤ 15 then "amber_contradiction"
  else "warning_tasking"

/-- The step of event `j` of `n` (`app/scenarios/temporal.py:461-462`). -/
def targetStep (n j : Nat) : Nat :=
  let target := if n > 1 then 1 + j * 18 / max (n - 1) 1 else 10
  min 19 (max 1 target)

/-- `f"{n:02d}"`. -/
def twoDigits (n : Nat) : String := if n < 10 then "0" ++ toString n else toString n

section

variable {F D : Type} [Preorder D] [PyAnchor D]

/-- `stamped["observed_at"] = (t0 - timedelta(seconds=t_minus)).isoformat()`. -/
def stamp (t0 : D) (tMinusS : Nat) (event : Fields F) : Fields F :=
  Assoc.set event "observed_at" (.str (PyAnchor.isoformat (PyAnchor.secondsBefore t0 tMinusS)))

/-- The inner loop: the events of step `i + 1` (`app/scenarios/temporal.py:458-466`). -/
def stepEvents (t0 : D) (raw : List (Fields F)) (i : Nat) : List (Fields F) :=
  let n := max raw.length 1
  (raw.zipIdx.filter fun p => targetStep n p.2 = i + 1).map fun p =>
    stamp t0 (tMinus.getD i 0) p.1

/-- `_spread_scenario_events` of the events `scenario.build_events()`
(`app/scenarios/temporal.py:450-477`). -/
def spreadScenarioEvents (scenarioId : String) (raw : List (Fields F)) (t0 : D) :
    List (StreamStep F) :=
  (List.range 19).map fun i =>
    { step := i + 1
      tMinusS := tMinus.getD i 0
      band := bandFor (i + 1)
      label := Text.lower scenarioId ++ "_step_" ++ twoDigits (i + 1)
      events := stepEvents t0 raw i }

end

end Temporal

end NexusC2

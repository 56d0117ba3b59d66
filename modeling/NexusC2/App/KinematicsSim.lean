import NexusC2.Core.Kinematics
import NexusC2.Misc.FloatAngles

/-!
# The simulated vessel

`KinematicsSim` (`app/adapters/kinematics_sim.py`): a position that is moved towards a waypoint, one
step of the clock after the other.
-/

namespace NexusC2

/-- `KinematicsSim` (`app/adapters/kinematics_sim.py:10-16`). -/
structure KinematicsSim (F : Type) where
  latitude : F
  longitude : F
  speedMps : F
  headingDeg : F
  waypoint : Option (F × F)
  history : List (F × F)
  deriving DecidableEq

namespace KinematicsSim

variable {F : Type}

/-- `(self.latitude, self.longitude)`. -/
def position (s : KinematicsSim F) : F × F := (s.latitude, s.longitude)

/-- `self.history.append((self.latitude, self.longitude))`. -/
def record (s : KinematicsSim F) : KinematicsSim F := { s with history := s.history ++ [s.position] }

/-- `set_waypoint` (`app/adapters/kinematics_sim.py:18-21`). -/
def setWaypoint (s : KinematicsSim F) (lat lon : F) (speedMps : Option F) : KinematicsSim F :=
  { s with
    waypoint := some (lat, lon)
    speedMps := speedMps.getD s.speedMps }

section

variable [PyFloatOps F]

/-- `KinematicsSim(latitude=lat, longitude=lon)`. -/
def start (latitude longitude : F) : KinematicsSim F :=
  { latitude := latitude
    longitude := longitude
    speedMps := 2.5
    headingDeg := 0.0
    waypoint := none
    history := [] }

/-- `station_keep` (`app/adapters/kinematics_sim.py:23-25`). -/
def stationKeep (s : KinematicsSim F) : KinematicsSim F :=
  { s with
    waypoint := none
    speedMps := 0.0 }

/-- The end of the way: the waypoint is the position (`app/adapters/kinematics_sim.py:39-44`). -/
def arrive (s : KinematicsSim F) (target : F × F) : KinematicsSim F :=
  { s with
    latitude := target.1
    longitude := target.2
    waypoint := none
    speedMps := 0.0 }

end

section

variable [PyAngleOps F]

open PyFloatOps

/-- A move of what is `dNorth` and `dEast` metres away, as far as the speed goes
(`app/adapters/kinematics_sim.py:46-51`). -/
def move (s : KinematicsSim F) (dNorth dEast dist mPerDegLon dtSec : F) :
    Except Exc (KinematicsSim F) := do
  let stepM := PyMathOps.min (s.speedMps * dtSec) dist
  let north ← pyDiv ((← pyDiv dNorth dist) * stepM) (111320.0 : F)
  let east ← pyDiv ((← pyDiv dEast dist) * stepM) (PyFloatOps.max mPerDegLon (1e-6 : F))
  let heading := PyAngleOps.mod (PyAngleOps.degrees (PyAngleOps.atan2 dEast dNorth) + (360.0 : F))
    (360.0 : F)
  .ok (record { s with
    latitude := s.latitude + north
    longitude := s.longitude + east
    headingDeg := heading })

/-- A step towards a waypoint (`app/adapters/kinematics_sim.py:32-51`). -/
def advance (s : KinematicsSim F) (target : F × F) (dtSec : F) :
    Except Exc (KinematicsSim F) := do
  let mPerDegLon := (111320.0 : F) * (← mathFn (cos (radians s.latitude)))
  let dNorth := (target.1 - s.latitude) * (111320.0 : F)
  let dEast := (target.2 - s.longitude) * mPerDegLon
  let dist := PyMathOps.hypot dNorth dEast
  if lt dist (1.0 : F) then .ok (s.arrive target).record
  else s.move dNorth dEast dist mPerDegLon dtSec

/-- `step` (`app/adapters/kinematics_sim.py:27-51`). -/
def step (s : KinematicsSim F) (dtSec : F) : Except Exc (KinematicsSim F) :=
  match s.waypoint with
  | none => .ok s.record
  | some target => if le s.speedMps (0.0 : F) then .ok s.record else s.advance target dtSec

/-- `run_until_arrival` (`app/adapters/kinematics_sim.py:53-60`). -/
def runUntilArrival (dtSec : F) : Nat → KinematicsSim F → Except Exc (KinematicsSim F)
  | 0, s => .ok s
  | maxSteps + 1, s =>
    match s.waypoint with
    | none => .ok s
    | some _ => do runUntilArrival dtSec maxSteps (← s.step dtSec)

/-- Nothing is left to do where there is no waypoint. -/
@[simp] theorem runUntilArrival_of_none {s : KinematicsSim F} (h : s.waypoint = none) (dtSec : F)
    (maxSteps : Nat) : runUntilArrival dtSec maxSteps s = .ok s := by
  cases maxSteps with
  | zero => rfl
  | succ n => simp only [runUntilArrival, h]

theorem runUntilArrival_succ {s : KinematicsSim F} {target : F × F} (h : s.waypoint = some target)
    (dtSec : F) (maxSteps : Nat) :
    runUntilArrival dtSec (maxSteps + 1) s = s.step dtSec >>= runUntilArrival dtSec maxSteps := by
  simp only [runUntilArrival, h]

end

end KinematicsSim

end NexusC2

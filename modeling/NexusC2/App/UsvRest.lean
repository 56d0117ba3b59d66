import NexusC2.App.KinematicsSim
import NexusC2.Core.Effector

/-!
# The vessel behind REST

`UsvRestAdapter` (`app/adapters/usv_rest.py`) and the vessel it talks to (`mocks/usv.py`), with
the link between them: a request may fail before it is served or after, and then the call raises. The
program makes an adapter for each run, so its own kinematics start anew with every call, where the
vessel goes on.
-/

namespace NexusC2

/-- `NavigateRequest` (`mocks/usv.py:24-28`). -/
structure NavigateRequest (F : Type) where
  latitude : F
  longitude : F
  speedKt : F
  missionId : Option String

/-- The requests that change the vessel. -/
inductive UsvRequest (F : Type) where
  | navigate (req : NavigateRequest F)
  | emergencyStop

/-- `_state` (`mocks/usv.py:13-21`). -/
structure UsvState (F : Type) where
  latitude : F
  longitude : F
  headingDeg : F
  speedKt : F
  mode : String
  lastWaypoint : Option (NavigateRequest F)
  emergency : Bool

/-- What goes wrong with a request: whether the vessel has served it, and what the client raises. -/
structure LinkFault where
  served : Bool
  raised : Exc

/-- The vessel, the number of requests that were sent to it, and those it has served, oldest first. -/
structure UsvWorld (F : Type) where
  vessel : UsvState F
  sent : Nat
  served : List (UsvRequest F)

section

variable {F : Type} [PyFloatOps F]

/-- `_state` before the first request. -/
def UsvState.idle : UsvState F :=
  { latitude := 1.2300
    longitude := 103.8500
    headingDeg := 90.0
    speedKt := 0.0
    mode := "idle"
    lastWaypoint := none
    emergency := false }

omit [PyFloatOps F] in
/-- `req.model_dump()`. -/
def NavigateRequest.modelDump (req : NavigateRequest F) : Json F :=
  .obj [("latitude", .float req.latitude), ("longitude", .float req.longitude),
    ("speed_kt", .float req.speedKt), ("mission_id", Json.ofOption req.missionId)]

/-- `navigate` and `emergency_stop`: the vessel after a request (`mocks/usv.py:41-61`). -/
def UsvState.serve (s : UsvState F) : UsvRequest F → UsvState F
  | .navigate req =>
    { s with
      lastWaypoint := some req
      mode := "navigating"
      speedKt := req.speedKt
      emergency := false }
  | .emergencyStop =>
    { s with
      mode := "station_keep"
      speedKt := 0.0
      emergency := true }

omit [PyFloatOps F] in
/-- The body of a response. -/
def UsvRequest.response : UsvRequest F → Fields F
  | .navigate req => [("status", .str "accepted"), ("waypoint", req.modelDump)]
  | .emergencyStop => [("status", .str "station_keep")]

/-- A request is served. -/
def UsvWorld.serve (w : UsvWorld F) (request : UsvRequest F) : UsvWorld F :=
  { w with
    vessel := w.vessel.serve request
    served := w.served ++ [request] }

/-- One more request is sent. -/
def UsvWorld.sending (w : UsvWorld F) : UsvWorld F := { w with sent := w.sent + 1 }

/-- `client.post(..)`, `raise_for_status()` and `resp.json()` over a link with these faults. -/
def usvPost (faults : Nat → Option LinkFault) (request : UsvRequest F) :
    Handler Exc (UsvWorld F) (Fields F) := do
  let w ← Handler.get
  Handler.modify UsvWorld.sending
  match faults w.sent with
  | none => do
    Handler.modify fun w => w.serve request
    pure request.response
  | some fault => do
    Handler.modify fun w => if fault.served then w.serve request else w
    Handler.raise fault.raised

/-- The request of a dispatch (`app/adapters/usv_rest.py:45-51`). -/
def navigateRequest (coa : CourseOfAction F) : NavigateRequest F :=
  { latitude := coa.targetCoordinates.1
    longitude := coa.targetCoordinates.2
    speedKt := 5.0
    missionId := some coa.coaId }

omit [PyFloatOps F] in
/-- `(lat, lon)` in a receipt. -/
def pairJson (p : F × F) : Json F := .arr [.float p.1, .float p.2]

end

section

variable {F : Type} [PyAngleOps F] [Sha256]

/-- The path to the target, from where the kinematics of an adapter start
(`app/adapters/usv_rest.py:58-59`). -/
def usvPath (coa : CourseOfAction F) : Except Exc (KinematicsSim F) :=
  (((KinematicsSim.start (1.2300 : F) (103.8500 : F)).setWaypoint coa.targetCoordinates.1
    coa.targetCoordinates.2 (some 15.0))).runUntilArrival (1.0 : F) 200

/-- `UsvRestAdapter` of one run (`app/adapters/usv_rest.py:32-91`). -/
def usvRestAdapter (faults : Nat → Option LinkFault) : EffectorProxy F (UsvWorld F) where
  dispatch stamp coa := do
    let body ← usvPost faults (.navigate (navigateRequest coa))
    let sim ← Handler.ofExcept (usvPath coa)
    let tail := sim.history.drop (sim.history.length - 5)
    pure (.mint stamp coa.coaId "DISPATCHED" "navigate_accepted"
      [("http", .obj body), ("path_tail", .arr (tail.map pairJson)),
        ("position", .obj [("latitude", .float sim.latitude),
          ("longitude", .float sim.longitude)])])
  emergencyStationKeep stamp := do
    let body ← usvPost faults .emergencyStop
    pure (.mint stamp "" "STATION_KEEP" "emergency_station_keep" [("http", .obj body)])

end

end NexusC2

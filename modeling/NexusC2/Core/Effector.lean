import NexusC2.Core.Coa
import NexusC2.Misc.Handler

/-!
# Effectors

`ExecutionReceipt` (`core/schema.py`), the northbound interface (`core/proxy.py`) and the effector
that only notes what it is told (`core/stub.py`). An effector runs against a state of its own.
-/

namespace NexusC2

/-- `ExecutionReceipt` (`core/schema.py:68-75`). -/
structure ExecutionReceipt (F : Type) where
  receiptId : String
  coaId : String
  status : String
  message : String
  telemetry : Fields F
  completedAt : String
  digest : String

/-- The values `uuid4()` and `utc_now()` give a receipt. -/
structure ReceiptStamp where
  receiptId : String
  completedAt : String

namespace ExecutionReceipt

variable {F : Type}

/-- `model_dump(mode="json", exclude={"digest"})`. -/
def body (r : ExecutionReceipt F) : Fields F :=
  [("receipt_id", .str r.receiptId), ("coa_id", .str r.coaId), ("status", .str r.status),
    ("message", .str r.message), ("telemetry", .obj r.telemetry),
    ("completed_at", .str r.completedAt)]

/-- `model_dump(mode="json")`. -/
def modelDump (r : ExecutionReceipt F) : Json F := .obj (r.body ++ [("digest", .str r.digest)])

/-- `seal` (`core/schema.py:77-80`). -/
def sealed [PyFloatOps F] [Sha256] (r : ExecutionReceipt F) : ExecutionReceipt F :=
  { r with digest := digestOf (.obj r.body) }

/-- A receipt as the effectors return it. -/
def mint [PyFloatOps F] [Sha256] (stamp : ReceiptStamp) (coaId status message : String)
    (telemetry : Fields F) : ExecutionReceipt F :=
  sealed
    { receiptId := stamp.receiptId
      coaId := coaId
      status := status
      message := message
      telemetry := telemetry
      completedAt := stamp.completedAt
      digest := "" }

end ExecutionReceipt

/-- `EffectorProxy` (`core/proxy.py:11-18`). -/
structure EffectorProxy (F S : Type) where
  dispatch : ReceiptStamp → CourseOfAction F → Handler Exc S (ExecutionReceipt F)
  emergencyStationKeep : ReceiptStamp → Handler Exc S (ExecutionReceipt F)

/-- `StubEffector` (`core/stub.py:10-13`). -/
structure StubEffector (F : Type) where
  dispatched : List (CourseOfAction F)
  stationKeeps : Nat

/-- The calls of `StubEffector` (`core/stub.py:15-34`). -/
def StubEffector.proxy {F : Type} [PyFloatOps F] [Sha256] : EffectorProxy F (StubEffector F) where
  dispatch stamp coa := do
    Handler.modify fun s => { s with dispatched := s.dispatched ++ [coa] }
    pure (.mint stamp coa.coaId "ACCEPTED" "stub_dispatch"
      [("target", .arr [.float coa.targetCoordinates.1, .float coa.targetCoordinates.2])])
  emergencyStationKeep stamp := do
    Handler.modify fun s => { s with stationKeeps := s.stationKeeps + 1 }
    pure (.mint stamp "" "STATION_KEEP" "stub_station_keep" [])

end NexusC2

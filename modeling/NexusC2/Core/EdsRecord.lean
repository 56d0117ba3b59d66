import NexusC2.Core.Coa
import NexusC2.Misc.Utf8

/-!
# The EDS record and its JSON

`EdsAuditRecord` of `core/audit_eds.py` as the C structure it is, and the functions between it and
the objects of the sidecar. A `ctypes` field keeps the low bits of the integer it is assigned, and
an array is assigned one place after the other, so what is not assigned stays zero.
-/

namespace NexusC2

namespace Ctypes

/-- `EdsAuditRecord` (`core/audit_eds.py:33-44`). -/
structure EdsAuditRecord where
  sequence : UInt64
  timestampMs : UInt64
  payloadHash : Vector UInt8 32
  signature : Vector UInt8 64
  prevRecordHash : Vector UInt8 32
  deviceId : Vector UInt8 256
  objectRef : Vector UInt8 512
  deriving DecidableEq

/-- `EdsAuditRecord()`. -/
def EdsAuditRecord.zero : EdsAuditRecord :=
  { sequence := 0
    timestampMs := 0
    payloadHash := .replicate 32 0
    signature := .replicate 64 0
    prevRecordHash := .replicate 32 0
    deviceId := .replicate 256 0
    objectRef := .replicate 512 0 }

/-- What the functions of `core/audit_eds.py` raise: an `EdsError` (`core/audit_eds.py:29`) or
something else. -/
inductive EdsExc where
  | edsError (message : String)
  | raised (e : Exc)
  deriving DecidableEq, Repr

/-- A call that raises no `EdsError`. -/
def raising {α : Type} (m : Except Exc α) : Except EdsExc α := m.mapError .raised

/-- `_decode_cstr` (`core/audit_eds.py:81-86`). -/
def decodeCstr {n : Nat} (buf : Vector UInt8 n) : String :=
  String.ofList (Utf8.decodeReplace (buf.toList.takeWhile (· ≠ 0)))

/-- The loop `for i, b in enumerate(xs): buf[i] = int(b)`, from a place on. -/
def fill {α : Type} {n : Nat} (int : α → Except Exc Int) (buf : Vector UInt8 n) (i : Nat) :
    List α → Except Exc (Vector UInt8 n)
  | [] => .ok buf
  | x :: xs => do
    let b ← int x
    if h : i < n then fill int (buf.set i (UInt8.ofInt b)) (i + 1) xs
    else .error (.indexError "invalid index")

section

variable {F : Type}

/-- `list(buf)`. -/
def byteList {n : Nat} (buf : Vector UInt8 n) : Json F :=
  .arr (buf.toList.map fun b => .int b.toNat)

/-- `record_to_json_dict` (`core/audit_eds.py:89-99`). -/
def recordToJsonDict (rec : EdsAuditRecord) : Fields F :=
  [("device_id", .str (decodeCstr rec.deviceId)), ("sequence", .int rec.sequence.toNat),
    ("timestamp_ms", .int rec.timestampMs.toNat), ("payload_hash", byteList rec.payloadHash),
    ("signature", byteList rec.signature), ("prev_record_hash", byteList rec.prevRecordHash),
    ("object_ref", .str (decodeCstr rec.objectRef))]

/-- What a loop over a value goes through. -/
def pyIter : Json F → Except Exc (List (Json F))
  | .arr vs => .ok vs
  | .str s => .ok (s.toList.map fun c => .str (String.singleton c))
  | .obj fs => .ok (fs.map fun p => .str p.1)
  | .null => .error (.typeError "'NoneType' object is not iterable")
  | .bool _ => .error (.typeError "'bool' object is not iterable")
  | .int _ => .error (.typeError "'int' object is not iterable")
  | .float _ => .error (.typeError "'float' object is not iterable")

variable [PyTextOps F]

/-- `rec.f = int(data[key])`. -/
def intField (data : Fields F) (key : String) : Except EdsExc UInt64 := raising do
  let n ← pyInt (← item data key)
  .ok (UInt64.ofInt n)

/-- `for i, b in enumerate(data[key]): rec.f[i] = int(b)`. -/
def bytesField (n : Nat) (data : Fields F) (key : String) : Except EdsExc (Vector UInt8 n) :=
  raising do
    let items ← pyIter (← item data key)
    fill pyInt (.replicate n 0) 0 items

/-- `str(data[key]).encode("utf-8")`. -/
def textField (data : Fields F) (key : String) : Except EdsExc (List UInt8) := raising do
  let v ← item data key
  .ok (Utf8.encode v.pyStr.toList)

/-- `for i, b in enumerate(bs): rec.f[i] = b`. -/
def textBuffer (n : Nat) (bs : List UInt8) : Except EdsExc (Vector UInt8 n) :=
  raising (fill (fun b : UInt8 => .ok b.toNat) (.replicate n 0) 0 bs)

/-- `json_dict_to_record` (`core/audit_eds.py:102-121`). -/
def jsonDictToRecord (data : Fields F) : Except EdsExc EdsAuditRecord := do
  let sequence ← intField data "sequence"
  let timestampMs ← intField data "timestamp_ms"
  let payloadHash ← bytesField 32 data "payload_hash"
  let signature ← bytesField 64 data "signature"
  let prevRecordHash ← bytesField 32 data "prev_record_hash"
  let did ← textField data "device_id"
  let oref ← textField data "object_ref"
  if 255 < did.length ∨ 511 < oref.length then
    .error (.edsError "device_id or object_ref exceeds fixed buffer size")
  else do
    let deviceId ← textBuffer 256 did
    let objectRef ← textBuffer 512 oref
    .ok { sequence, timestampMs, payloadHash, signature, prevRecordHash, deviceId, objectRef }

end

end Ctypes

end NexusC2

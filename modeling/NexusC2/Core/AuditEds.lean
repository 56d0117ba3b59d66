import NexusC2.Core.Audit

/-!
# The EDS sidecar

`EdsChainWriter` (`core/audit_eds.py`) and what `AuditLogger` (`core/audit.py`) does with it. The
library behind the bridge is a parameter, and any of its calls may fail: an append that fails
leaves the sidecar as it was and the trail goes on without it.
-/

namespace NexusC2

/-- `EdsAuditRecord` (`core/audit_eds.py:33-44`). -/
structure EdsAuditRecord where
  sequence : Nat
  timestampMs : Nat
  payloadHash : List UInt8
  signature : List UInt8
  prevRecordHash : List UInt8
  deviceId : String
  objectRef : String
  deriving DecidableEq, Repr

/-- `ZERO_HASH` (`core/audit_eds.py:24`). -/
def zeroHash : List UInt8 := List.replicate 32 0

/-- `DEFAULT_DEVICE_ID` (`core/audit_eds.py:23`). -/
def defaultDeviceId : String := "nexus-c2"

/-- The arguments of `sign_record` (`core/audit_eds.py:199-209`), the payload before its encoding. -/
structure SignRequest where
  deviceId : String
  sequence : Nat
  timestampMs : Nat
  payload : String
  prevRecordHash : Option (List UInt8)
  objectRef : String
  privateKey : List UInt8

/-- `EdsBridge` (`core/audit_eds.py:124-244`): what its library computes. A signed record has the
sequence that was asked for. -/
structure EdsBridge where
  signRecord : SignRequest → EdsAuditRecord
  recordHash : EdsAuditRecord → List UInt8
  sequence_signRecord (req : SignRequest) : (signRecord req).sequence = req.sequence

/-- What the calls of the bridge meet in one operation, each numbered by its place: the clock, and
whether they fail. -/
structure EdsCalls where
  timeMs : Nat → Nat
  signFails : Nat → Bool
  hashFails : Nat → Bool

/-- `EdsChainWriter` (`core/audit_eds.py:319-330`) of an available bridge. -/
structure EdsChainWriter where
  privateKey : List UInt8
  prevHash : List UInt8
  sequence : Nat
  deriving DecidableEq, Repr

namespace EdsChainWriter

/-- `_rewind` (`core/audit_eds.py:357-368`) on the records of the sidecar; none where the hash of
the last one fails. -/
def rewind (bridge : EdsBridge) (calls : EdsCalls) (privateKey : List UInt8)
    (sidecar : List EdsAuditRecord) : Option EdsChainWriter :=
  match sidecar.getLast? with
  | none => some ⟨privateKey, zeroHash, 0⟩
  | some rec =>
    if calls.hashFails 0 then none else some ⟨privateKey, bridge.recordHash rec, rec.sequence⟩

/-- `clear` (`core/audit_eds.py:385-389`). -/
def clear (w : EdsChainWriter) : EdsChainWriter := { w with prevHash := zeroHash, sequence := 0 }

/-- The request that `append_payload` signs (`core/audit_eds.py:401-413`). -/
def signRequest (w : EdsChainWriter) (timeMs : Nat) (payload objectRef : String) : SignRequest :=
  { deviceId := defaultDeviceId
    sequence := w.sequence + 1
    timestampMs := timeMs
    payload := payload
    prevRecordHash := if w.prevHash = zeroHash then none else some w.prevHash
    objectRef := objectRef
    privateKey := w.privateKey }

/-- `append_payload` (`core/audit_eds.py:391-423`), the `i`-th of the operation. -/
def appendPayload (bridge : EdsBridge) (calls : EdsCalls) (i : Nat) (w : EdsChainWriter)
    (sidecar : List EdsAuditRecord) (payload objectRef : String) :
    EdsChainWriter × List EdsAuditRecord :=
  if calls.signFails i || calls.hashFails i then (w, sidecar)
  else
    let signed := bridge.signRecord (w.signRequest (calls.timeMs i) payload objectRef)
    ({ w with prevHash := bridge.recordHash signed, sequence := w.sequence + 1 },
      sidecar ++ [signed])

end EdsChainWriter

section

variable {F : Type} [PyFloatOps F]

/-- `str(rec.get("activity_name") or "event")`. -/
def activityName (rec : Record F) : String :=
  match Assoc.get rec "activity_name" with
  | some v => if v.truth then v.pyStr else "event"
  | none => "event"

/-- What of a record is sealed: `canonical_json` of it without its hash. -/
def sealedPayload (rec : Record F) : String := canonicalJson (.obj (recordBody rec))

/-- The loop over the records in `_init_eds` and `replace_records` (`core/audit.py:204-208, 231-235`),
the next record being the `i`-th. -/
def sealRecords (bridge : EdsBridge) (calls : EdsCalls) (i : Nat) (w : EdsChainWriter)
    (sidecar : List EdsAuditRecord) : List (Record F) → EdsChainWriter × List EdsAuditRecord
  | [] => (w, sidecar)
  | rec :: records =>
    let (w', sidecar') := w.appendPayload bridge calls i sidecar (sealedPayload rec)
      ("gate/" ++ toString i ++ "/" ++ activityName rec)
    sealRecords bridge calls (i + 1) w' sidecar' records

/-- `AuditLogger` with its files: the trail, the writer where EDS is enabled, the sidecar. -/
structure DualLog (F : Type) where
  trail : AuditTrail F
  eds : Option EdsChainWriter
  sidecar : List EdsAuditRecord

namespace DualLog

/-- `_init_eds` (`core/audit.py:192-214`) with the private key of an available bridge; none where
EDS is off or the bridge is not available. -/
def initEds (bridge : EdsBridge) (calls : EdsCalls) (key : Option (List UInt8)) (d : DualLog F) :
    DualLog F :=
  match key with
  | none => { d with eds := none }
  | some key =>
    match EdsChainWriter.rewind bridge calls key d.sidecar with
    | none => { d with eds := none }
    | some w =>
      -- an empty sidecar is filled from the trail
      if d.sidecar = [] then
        let (w, sidecar) := sealRecords bridge calls 1 w [] d.trail.records
        { d with
          eds := some w
          sidecar := sidecar }
      else { d with eds := some w }

/-- `_quarantine_if_broken` (`core/audit.py:242-268`). -/
def quarantine (d : DualLog F) : DualLog F :=
  if chainBreakIndex d.trail.records = none then d
  else
    { trail := { d.trail with records := [] }
      eds := d.eds.map EdsChainWriter.clear
      sidecar := if d.eds.isSome then [] else d.sidecar }

/-- `_rewind_from_disk` (`core/audit.py:270-273`). -/
def rewindFromDisk (d : DualLog F) : DualLog F :=
  { d with trail := ⟨d.trail.records, lastHash d.trail.records⟩ }

/-- `AuditLogger(path)` (`core/audit.py:169-190`) on the files of `d`. -/
def reopen (bridge : EdsBridge) (calls : EdsCalls) (key : Option (List UInt8))
    (quarantineBroken : Bool) (d : DualLog F) : DualLog F :=
  let d := initEds bridge calls key d
  let d := if quarantineBroken then quarantine d else d
  rewindFromDisk d

/-- `replace_records` (`core/audit.py:224-235`). -/
def replaceRecords (bridge : EdsBridge) (calls : EdsCalls) (d : DualLog F)
    (records : List (Record F)) : DualLog F :=
  match d.eds with
  | none => { d with trail := .replaceRecords records }
  | some w =>
    let (w, sidecar) := sealRecords bridge calls 1 w.clear [] records
    ⟨.replaceRecords records, some w, sidecar⟩

variable [Sha256]

/-- `append` (`core/audit.py:275-294`). -/
def append (bridge : EdsBridge) (calls : EdsCalls) (d : DualLog F)
    (eventName severity time : String) (data : Fields F) : DualLog F :=
  let body := eventBody d.trail.prev eventName severity time data
  let trail := (d.trail.append eventName severity time data).2
  match d.eds with
  | none => { d with trail := trail }
  | some w =>
    let (w, sidecar) := w.appendPayload bridge calls 1 d.sidecar (canonicalJson (.obj body))
      ("gate/" ++ toString (w.sequence + 1) ++ "/" ++ eventName)
    ⟨trail, some w, sidecar⟩

end DualLog

end

end NexusC2

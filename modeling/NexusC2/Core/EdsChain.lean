import NexusC2.Core.AuditEds
import NexusC2.Core.EdsRecord
import NexusC2.Misc.Handler

/-!
# The EDS writer and its file

`EdsChainWriter` (`core/audit_eds.py`) over the text of the sidecar. The shared library computes
what `EdsLib` says; whether a call of it fails, and whether the file can be read and written, is
for each append to say (`AppendSteps`).
-/

namespace NexusC2

namespace Json

section

variable {F : Type} [PyFloatOps F]

/-- A new line at a depth, two spaces each. -/
def newline (depth : Nat) : List Char := '\n' :: List.replicate (2 * depth) ' '

mutual

/-- `json.dumps(v, indent=2)`, at a depth. -/
def dumpsIndent (depth : Nat) : Json F → List Char
  | .arr (v :: vs) =>
    '[' :: (newline (depth + 1) ++ (dumpsIndent (depth + 1) v ++ dumpsIndentItems depth vs))
  | .obj ((k, v) :: fs) =>
    '\x7b' :: (newline (depth + 1) ++ (quote k ++ (':' :: ' ' ::
      (dumpsIndent (depth + 1) v ++ dumpsIndentFields depth fs))))
  | v => dumps [' '] v

def dumpsIndentItems (depth : Nat) : List (Json F) → List Char
  | [] => newline depth ++ [']']
  | v :: vs =>
    ',' :: (newline (depth + 1) ++ (dumpsIndent (depth + 1) v ++ dumpsIndentItems depth vs))

def dumpsIndentFields (depth : Nat) : List (String × Json F) → List Char
  | [] => newline depth ++ ['\x7d']
  | (k, v) :: fs =>
    ',' :: (newline (depth + 1) ++ (quote k ++ (':' :: ' ' ::
      (dumpsIndent (depth + 1) v ++ dumpsIndentFields depth fs))))

end

end

end Json

namespace Ctypes

/-- What `eds_sign_record` is called with (`core/audit_eds.py:222-233`). -/
structure SignCall where
  deviceId : String
  sequence : UInt64
  timestampMs : UInt64
  payload : List UInt8
  prevRecordHash : Option (List UInt8)
  objectRef : String
  privateKey : List UInt8

/-- What the shared library computes where its calls succeed. -/
structure EdsLib where
  signRecord : SignCall → EdsAuditRecord
  recordHash : EdsAuditRecord → List UInt8

/-- A return code below zero and the message of the library. -/
structure LibError where
  rc : Int
  message : String

/-- What one append meets: the clock, and the steps that fail. A write that fails may leave
anything in the file. -/
structure AppendSteps where
  timeMs : Int
  sign : Option LibError
  hash : Option LibError
  read : Option EdsExc
  write : Option (EdsExc × Option (List Char))

/-- `EdsBridge._check` (`core/audit_eds.py:187-190`). -/
def check (what : String) (failed : Option LibError) : Except EdsExc Unit :=
  match failed with
  | some e =>
    .error (.edsError (what ++ " failed (" ++ toString e.rc ++ "): " ++ e.message))
  | none => .ok ()

namespace EdsLib

/-- `EdsBridge.sign_record` (`core/audit_eds.py:198-236`). -/
def sign (lib : EdsLib) (failed : Option LibError) (deviceId : String) (sequence timestampMs : Int)
    (payload : List UInt8) (prevRecordHash : Option (List UInt8)) (objectRef : String)
    (privateKey : List UInt8) : Except EdsExc EdsAuditRecord :=
  if privateKey.length ≠ 32 then .error (.edsError "private_key must be 32 bytes")
  else if prevRecordHash.any (·.length ≠ 32) then
    .error (.edsError "prev_record_hash must be 32 bytes")
  else do
    check "eds_sign_record" failed
    .ok (lib.signRecord
      { deviceId := deviceId
        sequence := UInt64.ofInt sequence
        timestampMs := UInt64.ofInt timestampMs
        payload := payload
        prevRecordHash := prevRecordHash.filter (· ≠ zeroHash)
        objectRef := objectRef
        privateKey := privateKey })

/-- `EdsBridge.record_hash` (`core/audit_eds.py:238-244`). -/
def hash (lib : EdsLib) (failed : Option LibError) (rec : EdsAuditRecord) :
    Except EdsExc (List UInt8) := do
  check "eds_record_hash" failed
  .ok (lib.recordHash rec)

end EdsLib

/-- `EdsChainWriter` (`core/audit_eds.py:318-330`). -/
structure EdsChainWriter where
  path : String
  deviceId : String
  bridge : Option EdsLib
  privateKey : Option (List UInt8)
  prevHash : List UInt8
  sequence : Int
  backend : String

section

variable (F : Type) [PyTextOps F]

/-- `records` (`core/audit_eds.py:370-379`) on what the file holds. -/
def records (path : String) (file : Option (List Char)) : Except EdsExc (List (Fields F)) :=
  match file with
  | none => .ok []
  | some text =>
    match Text.stripChars (Text.translateNewlines text) with
    | [] => .ok []
    | raw =>
      match Json.loads (F := F) raw with
      | none => .error (.raised (.valueError "JSONDecodeError"))
      | some (.arr vs) => .ok (vs.filterMap fun v =>
        match v with
        | .obj fs => some fs
        | _ => none)
      | some _ => .error (.edsError ("EDS chain file must be a JSON array: " ++ path))

/-- `_rewind` (`core/audit_eds.py:357-368`): the sequence and the hash it computes. -/
def rewind (bridge : Option EdsLib) (path : String) (file : Option (List Char)) :
    Except EdsExc (Int × List UInt8) := do
  let records ← records F path file
  match records.getLast? with
  | none => .ok (0, zeroHash)
  | some last => do
    let sequence ← raising (do pyInt (← item last "sequence"))
    match bridge with
    | none => .ok (sequence, zeroHash)
    | some lib => do
      let rec ← jsonDictToRecord last
      .ok (sequence, lib.recordHash rec)

/-- The writer and the file. -/
structure EdsState where
  writer : EdsChainWriter
  file : Option (List Char)

/-- The end of the `try` of `append_payload` (`core/audit_eds.py:416-420`). -/
def storeRecord (steps : AppendSteps) (rec : EdsAuditRecord) :
    Handler EdsExc EdsState (Option (Fields F)) := do
  let s ← Handler.get
  let asDict := recordToJsonDict rec
  let stored ← Handler.ofExcept (match steps.read with
    | some e => .error e
    | none => records F s.writer.path s.file)
  match steps.write with
  | some (e, left) => do
    Handler.modify fun s => { s with file := left }
    Handler.raise e
  | none => do
    let text := Json.dumpsIndent 0 (.arr ((stored ++ [asDict]).map .obj)) ++ ['\n']
    Handler.modify fun s => { s with file := some text }
    pure (some asDict)

/-- The `try` of `append_payload` (`core/audit_eds.py:404-420`). -/
def signAndStore (steps : AppendSteps) (lib : EdsLib) (privateKey payload : List UInt8)
    (objectRef : String) (timestampMs : Int) : Handler EdsExc EdsState (Option (Fields F)) := do
  let s ← Handler.get
  let seq := s.writer.sequence + 1
  let prev := if s.writer.prevHash = zeroHash then none else some s.writer.prevHash
  let rec ← Handler.ofExcept (lib.sign steps.sign s.writer.deviceId seq timestampMs payload prev
    objectRef privateKey)
  let digest ← Handler.ofExcept (lib.hash steps.hash rec)
  Handler.modify fun s =>
    { s with writer := { s.writer with prevHash := digest, sequence := seq } }
  storeRecord F steps rec

/-- `except EdsError: return None` (`core/audit_eds.py:421-423`). -/
def caughtEds : EdsExc → Handler EdsExc EdsState (Option (Fields F))
  | .edsError _ => pure none
  | e => Handler.raise e

/-- `append_payload` (`core/audit_eds.py:391-423`). -/
def appendPayload (steps : AppendSteps) (payload : List UInt8) (objectRef : String)
    (timestampMs : Option Int) : Handler EdsExc EdsState (Option (Fields F)) := do
  let s ← Handler.get
  match s.writer.bridge, s.writer.privateKey with
  | some lib, some privateKey =>
    if s.writer.backend = "ctypes" then
      Handler.tryCatch
        (signAndStore F steps lib privateKey payload objectRef (timestampMs.getD steps.timeMs))
        (caughtEds F)
    else pure none
  | _, _ => pure none

end

end Ctypes

end NexusC2

import NexusC2.Core.Schema
import NexusC2.Misc.JsonLoads
import NexusC2.Misc.Text

/-!
# The audit log

`core/audit.py`: the chain checkers, the reading and writing of `gate.jsonl` as text, and
`AuditLogger`. The file is the list of its characters, `none` while it does not exist; reading
it fails where a line is no JSON. The EDS sidecar is off.
-/

namespace NexusC2

/-- An audit record as a `dict`. -/
abbrev Record (F : Type) : Type := Fields F

/-- `GENESIS_PREV` (`core/audit.py:24`). -/
def genesisPrev : String := String.ofList (List.replicate 64 '0')

section

variable {F : Type} [PyFloatOps F]

/-- `v == s` for what a `dict` holds under a key. -/
def isStr (v : Option (Json F)) (s : String) : Bool :=
  match v with
  | some (.str t) => t = s
  | _ => false

/-- `str(rec.get("hash") or "")`. -/
def hashText (rec : Record F) : String :=
  match Assoc.get rec "hash" with
  | some v => if v.truth then v.pyStr else ""
  | none => ""

/-- `chain_break_index` (`core/audit.py:27-34`), from a record on. -/
def chainBreakFrom (prev : String) (i : Nat) : List (Record F) → Option Nat
  | [] => none
  | rec :: recs =>
    if isStr (Assoc.get rec "prev_hash") prev then chainBreakFrom (hashText rec) (i + 1) recs
    else some i

/-- `chain_break_index` (`core/audit.py:27-34`). -/
def chainBreakIndex (records : List (Record F)) : Option Nat := chainBreakFrom genesisPrev 0 records

/-- `broken_link_count` (`core/audit.py:37-45`), from a record on. -/
def brokenLinksFrom (prev : String) : List (Record F) → Nat
  | [] => 0
  | rec :: recs =>
    (if isStr (Assoc.get rec "prev_hash") prev then 0 else 1) + brokenLinksFrom (hashText rec) recs

/-- `broken_link_count` (`core/audit.py:37-45`). -/
def brokenLinkCount (records : List (Record F)) : Nat := brokenLinksFrom genesisPrev records

/-- `ChainVerifyResult` (`core/audit.py:49-62`). -/
structure ChainVerifyResult where
  ok : Bool
  total : Nat
  breakIndex : Option Nat
  reason : Option String
  errors : List String
  deriving DecidableEq, Repr

/-- `ChainVerifyResult.summary` (`core/audit.py:58-62`). -/
def ChainVerifyResult.summary (r : ChainVerifyResult) : String :=
  if r.ok then "broken links: 0 of " ++ toString r.total
  else
    let broken := if r.errors.isEmpty then 1 else r.errors.length
    "broken links: " ++ toString broken ++ " of " ++ toString r.total

/-- `{k: v for k, v in rec.items() if k != "hash"}`. -/
def recordBody (rec : Record F) : Record F := rec.filter fun p => p.1 ≠ "hash"

/-- The variables of the loop of `verify_audit_chain`. -/
structure ChainWalk where
  prev : String
  errors : List String
  breakIndex : Option Nat
  reason : Option String

/-- An error at a record; the first one sets the break index and the reason. -/
def ChainWalk.note (w : ChainWalk) (i : Nat) (what : String) : ChainWalk :=
  { w with
    errors := w.errors ++ ["record[" ++ toString i ++ "] " ++ what]
    breakIndex := if w.breakIndex = none then some i else w.breakIndex
    reason := if w.breakIndex = none then some what else w.reason }

variable [Sha256]

/-- The digest of a record body, as JSON. -/
def bodyDigest (rec : Record F) : String := digestOf (.obj (recordBody rec))

/-- One turn of the loop of `verify_audit_chain` (`core/audit.py:74-91`). -/
def ChainWalk.visit (w : ChainWalk) (i : Nat) (rec : Record F) : ChainWalk :=
  let w₁ := if isStr (Assoc.get rec "prev_hash") w.prev then w
    else w.note i "broken prev_hash link"
  let w₂ := if isStr (Assoc.get rec "hash") (bodyDigest rec) then w₁ else w₁.note i "hash mismatch"
  { w₂ with
    prev := match Assoc.get rec "hash" with
      | some (.str stored) => stored
      | _ => w.prev }

def ChainWalk.walk (w : ChainWalk) (i : Nat) : List (Record F) → ChainWalk
  | [] => w
  | rec :: recs => (w.visit i rec).walk (i + 1) recs

/-- `verify_audit_chain` (`core/audit.py:65-98`). -/
def verifyAuditChain (records : List (Record F)) : ChainVerifyResult :=
  let w := (ChainWalk.mk genesisPrev [] none none).walk 0 records
  { ok := w.errors.isEmpty
    total := records.length
    breakIndex := w.breakIndex
    reason := w.reason
    errors := w.errors }

end

/-! ## The file -/

section

variable {F : Type} [PyFloatOps F]

/-- What one line of the file gives: nothing when blank or no object, a failure when no JSON. -/
def loadLine (line : List Char) : Option (List (Record F)) :=
  match Text.stripChars line with
  | [] => some []
  | cs =>
    match Json.loads (F := F) cs with
    | some (.obj fs) => some [fs]
    | some _ => some []
    | none => none

def loadLines : List (List Char) → Option (List (Record F))
  | [] => some []
  | l :: ls => do some ((← loadLine l) ++ (← loadLines ls))

/-- The records in a text. -/
def loadText (text : List Char) : Option (List (Record F)) :=
  loadLines (Text.lines (Text.translateNewlines text))

/-- `load_audit_records` (`core/audit.py:101-113`). -/
def loadAuditRecords (file : Option (List Char)) : Option (List (Record F)) :=
  match file with
  | none => some []
  | some text => loadText text

/-- `json.dumps(rec, default=str) + "\n"`. -/
def recordLine (rec : Record F) : List Char := Json.toText (.obj rec) ++ ['\n']

/-- `write_audit_records` (`core/audit.py:116-121`): the text left in the file. -/
def writeAuditRecords (records : List (Record F)) : List Char := records.flatMap recordLine

/-- The audit directory: the live file and the ones moved aside. -/
structure Disk where
  live : Option (List Char)
  archived : List (List Char)

/-- `AuditLogger`: the cached hash of the last record (`core/audit.py:168-190`). -/
structure AuditLogger where
  prev : String
  deriving DecidableEq, Repr

/-- `str(last["hash"]) if last and "hash" in last else GENESIS_PREV`. -/
def lastHash (records : List (Record F)) : String :=
  match records.getLast? with
  | some rec =>
    match Assoc.get rec "hash" with
    | some v => v.pyStr
    | none => genesisPrev
  | none => genesisPrev

/-- `_quarantine_if_broken` (`core/audit.py:242-268`). -/
def quarantineIfBroken (F : Type) [PyFloatOps F] (d : Disk) : Option Disk :=
  match d.live with
  | none => some d
  | some text => do
    let recs ← loadText (F := F) text
    if recs.isEmpty then some d
    else if chainBreakIndex recs = none then some d
    else some { live := none, archived := d.archived ++ [text] }

/-- `_rewind_from_disk` (`core/audit.py:270-273`). -/
def rewindFromDisk (F : Type) [PyFloatOps F] (d : Disk) : Option AuditLogger := do
  let recs ← loadAuditRecords (F := F) d.live
  some ⟨lastHash recs⟩

/-- `AuditLogger(path)` (`core/audit.py:168-190`). -/
def AuditLogger.open (F : Type) [PyFloatOps F] (d : Disk) : Option (AuditLogger × Disk) := do
  let d ← quarantineIfBroken F d
  let logger ← rewindFromDisk F d
  some (logger, d)

variable [Sha256]

/-- The record of an event before it is hashed (`core/audit.py:276-283`). -/
def eventBody (prev eventName severity time : String) (data : Fields F) : Record F :=
  [("class_name", .str "Security Finding"), ("activity_name", .str eventName),
    ("severity", .str severity), ("time", .str time), ("metadata", .obj data),
    ("prev_hash", .str prev)]

/-- The record of an event with the digest of its body. -/
def sealRecord (prev eventName severity time : String) (data : Fields F) : Record F :=
  let body := eventBody prev eventName severity time data
  body ++ [("hash", .str (digestOf (.obj body)))]

/-- `AuditLogger.append` (`core/audit.py:275-294`). -/
def AuditLogger.append (l : AuditLogger) (d : Disk) (eventName severity time : String)
    (data : Fields F) : Record F × AuditLogger × Disk :=
  let body := eventBody l.prev eventName severity time data
  let digest := digestOf (.obj body)
  let record := sealRecord l.prev eventName severity time data
  (record, ⟨digest⟩, { d with live := some (d.live.getD [] ++ recordLine record) })

/-- `replace_records` (`core/audit.py:224-235`). -/
def AuditLogger.replaceRecords (d : Disk) (records : List (Record F)) :
    Option (AuditLogger × Disk) := do
  let d := { d with live := some (writeAuditRecords records) }
  let logger ← rewindFromDisk F d
  some (logger, d)

end

/-! ## The trail as a list of records -/

/-- What the records on disk and the logger come to, without the text: the trail the server
works with. -/
structure AuditTrail (F : Type) where
  records : List (Record F)
  prev : String

namespace AuditTrail

variable {F : Type} [PyFloatOps F] [Sha256]

/-- `append` (`core/audit.py:275-294`) on the trail. -/
def append (t : AuditTrail F) (eventName severity time : String) (data : Fields F) :
    Record F × AuditTrail F :=
  let record := sealRecord t.prev eventName severity time data
  (record, ⟨t.records ++ [record], digestOf (.obj (eventBody t.prev eventName severity time data))⟩)

omit [Sha256] in
/-- `replace_records` (`core/audit.py:224-235`) on the trail. -/
def replaceRecords (records : List (Record F)) : AuditTrail F := ⟨records, lastHash records⟩

omit [Sha256] in
/-- `AuditLogger(path)` (`core/audit.py:168-190`) on the file of a trail: a trail with a broken
link is moved aside. -/
def reopen (t : AuditTrail F) : AuditTrail F :=
  if chainBreakIndex t.records = none then ⟨t.records, lastHash t.records⟩ else ⟨[], genesisPrev⟩

end AuditTrail

end NexusC2

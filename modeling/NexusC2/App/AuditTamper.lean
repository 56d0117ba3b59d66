import NexusC2.App.Runtime

/-!
# Tampering with the trail and restoring it

`inject_one_char_tamper` (`core/audit.py`) and the two methods of `C2Runtime`
(`app/c2_server.py`) of the tamper demonstration. The snapshot is one slot: an inject fills it
with the trail as it finds it, a restore writes it back and leaves it there. The EDS sidecar is
off.
-/

namespace NexusC2

namespace Text

/-- The zeros of the decimal digits, each with nine digits after it. -/
def decimalZeros : List Nat :=
  [48, 1632, 1776, 1984, 2406, 2534, 2662, 2790, 2918, 3046, 3174, 3302, 3430, 3558, 3664, 3792,
    3872, 4160, 4240, 6112, 6160, 6470, 6784, 6800, 6992, 7088, 7232, 7248, 8320, 42528, 43216,
    43264, 43472, 43504, 43600, 44016, 65296, 66720, 68912, 69734, 69872, 69942, 70096, 70384,
    70736, 70864, 71248, 71360, 71472, 71904, 72016, 72784, 73040, 73120, 73552, 92768, 92864,
    93008, 123200, 123632, 124144, 125264, 130032]

/-- The other ranges of digits: superscripts, circled and the like. -/
def otherDigits : List (Nat × Nat) :=
  [(178, 179), (185, 185), (4969, 4977), (6608, 6618), (8304, 8304), (8308, 8313), (9312, 9320),
    (9332, 9340), (9352, 9360), (9450, 9450), (9461, 9469), (9471, 9471), (10102, 10110),
    (10112, 10120), (10122, 10130), (68160, 68163), (69216, 69224), (69714, 69722),
    (120782, 120831), (127232, 127242)]

/-- `str.isdigit` of one character. -/
def isDigit (c : Char) : Bool :=
  decimalZeros.any (fun z => z ≤ c.toNat && c.toNat ≤ z + 9) ||
    otherDigits.any fun r => r.1 ≤ c.toNat && c.toNat ≤ r.2

/-- `("X" if s[0] != "X" else "Y") + s[1:]`. -/
def flipFirst (s : String) : String :=
  match s.toList with
  | [] => s
  | c :: cs => String.ofList ((if c = 'X' then 'Y' else 'X') :: cs)

/-- The characters with the first digit flipped; none where there is no digit. -/
def flipDigit : List Char → Option (List Char)
  | [] => none
  | c :: cs =>
    if isDigit c then some ((if c = '0' then '1' else '0') :: cs) else (flipDigit cs).map (c :: ·)

end Text

section

variable {F : Type} [PyFloatOps F]

omit [PyFloatOps F] in
/-- `_flip_approved` (`core/audit.py:138-147`): the metadata with the value flipped. -/
def flipApproved (metadata : Fields F) (key : String) : Option (Fields F) :=
  match Assoc.get metadata key with
  | some (.str value) =>
    if value = "APPROVED" then some (Assoc.set metadata key (.str "XPPROVED"))
    else if value = "" then none
    else some (Assoc.set metadata key (.str (Text.flipFirst value)))
  | _ => none

/-- `str(rec.get("time") or "")`. -/
def timeText (rec : Record F) : String :=
  match Assoc.get rec "time" with
  | some v => if v.truth then v.pyStr else ""
  | none => ""

/-- A time with its first digit flipped, or its first character (`core/audit.py:157-163`). -/
def flipTime (ts : String) : String :=
  match Text.flipDigit ts.toList with
  | some cs => String.ofList cs
  | none => Text.flipFirst ts

/-- `rec.setdefault("metadata", {})`. -/
def withMetadata (rec : Record F) : Record F :=
  match Assoc.get rec "metadata" with
  | some _ => rec
  | none => Assoc.set rec "metadata" (.obj [])

/-- One record of `inject_one_char_tamper` (`core/audit.py:134-165`). -/
def tamperRecord (rec : Record F) : Except Exc (Record F) :=
  match Assoc.get (withMetadata rec) "metadata" with
  | some (.obj metadata) =>
    -- a gate decision has a verdict, the demo logger a status
    match flipApproved metadata "status" <|> flipApproved metadata "verdict" with
    | some metadata => .ok (Assoc.set (withMetadata rec) "metadata" (.obj metadata))
    | none =>
      if timeText (withMetadata rec) = "" then
        .error (.valueError "no status/verdict or time field to tamper")
      else
        .ok (Assoc.set (withMetadata rec) "time" (.str (flipTime (timeText (withMetadata rec)))))
  | _ => .error (.typeError "record metadata must be a dict")

/-- `inject_one_char_tamper` (`core/audit.py:124-165`). -/
def injectOneCharTamper (records : List (Record F)) (index : Int) :
    Except Exc (List (Record F)) :=
  match if index < 0 then none else records[index.toNat]? with
  | none => .error (.indexError ("tamper index " ++ toString index ++ " out of range (n=" ++
      toString records.length ++ ")"))
  | some rec => do
    let rec' ← tamperRecord rec
    .ok (records.set index.toNat rec')

end

section

variable {F G : Type} [PyFloatOps F] [Sha256]

/-- `_chain_verify_dict` (`app/c2_server.py:388-398`). -/
def chainVerifyDict (r : ChainVerifyResult) : Json F :=
  let broken := if r.ok then 0 else if r.errors.isEmpty then 1 else r.errors.length
  .obj [("ok", .bool r.ok), ("total", .int r.total), ("broken", .int broken),
    ("break_index", match r.breakIndex with
      | some i => .int i
      | none => .null),
    ("reason", Json.ofOption r.reason), ("summary", .str r.summary),
    ("label", .str (toString broken ++ " of " ++ toString r.total))]

/-- `inject_audit_tamper` (`app/c2_server.py:308-339`). -/
def injectAuditTamper (index : Int) : C2Handler F G (Json F) := do
  let s ← Handler.get
  let records := s.audit.records
  if records.length < 2 then
    Handler.raise (.http 400 "Need ≥2 sealed audit records before tamper")
  else do
    Handler.modify fun s => { s with auditPreTamper := some records }
    -- a record that cannot be tampered with raises, and the snapshot is taken by then
    let tampered ← Handler.ofExcept (injectOneCharTamper records index)
    Handler.modify fun s => { s with audit := .replaceRecords tampered }
    pure (.obj [("status", .str "tampered"), ("index", .int index),
      ("ocsf", chainVerifyDict (verifyAuditChain tampered)), ("eds_corrupted", .bool false)])

/-- `restore_audit_tamper` (`app/c2_server.py:341-354`). -/
def restoreAuditTamper : C2Handler F G (Json F) := do
  let s ← Handler.get
  match s.auditPreTamper with
  | none => Handler.raise (.http 400 "No pre-tamper snapshot to restore")
  | some snapshot => do
    Handler.modify fun s => { s with audit := .replaceRecords snapshot }
    pure (.obj [("status", .str "restored"), ("count", .int snapshot.length),
      ("ocsf", chainVerifyDict (verifyAuditChain snapshot))])

end

end NexusC2
